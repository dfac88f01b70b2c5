import FederatedIot.Queue.RowLocks

namespace FederatedIot
namespace Queue

open Foundation Foundation.Relation Foundation.Outcome

/-!
# The order of the row locks

What each transaction of the queue can lock and wait for, given the locks it
already holds.  A cancellation locks `scheduler_control`, then its run, then
the run's job.  Heartbeats, events, confirmations and commits lock their job
and then its run.  The other worker calls do the same under
`scheduler_control`.  Announcements share the rows of queued runs last.

Every transaction's program is checked against this order, statement by
statement.
-/

variable {platform : Platform} {store result : Store}

/-! ## Who takes part -/

/-- How a transaction enters the tables. -/
inductive Party where
  | canceller (runId : String)
  | lessee (jobId : String)
  | scheduler
  | bystander

/-- Cancellations lock their run under `scheduler_control`; heartbeats,
events, confirmations and commits start with the job; the other worker calls
start with `scheduler_control`. -/
def Operation.party : Operation -> Party
  | .cancelSimulation runId _ => .canceller runId
  | .heartbeat _ lease _ | .reportEvent lease _ | .confirmCancel lease | .commitSimulation lease _ =>
      .lessee lease.jobId
  | .failJob _ _ _ | .claim _ _ _ _ | .recoverExpiredLeases => .scheduler
  | _ => .bystander

abbrev Held := List (LockedRow × RowLock)

/-- The job is locked against every other writer. -/
def HoldsJob (held : Held) (jobId : String) : Prop :=
  (LockedRow.workerJob jobId, RowLock.forUpdate) ∈ held ∨
    (LockedRow.workerJob jobId, RowLock.forNoKeyUpdate) ∈ held

/-- `scheduler_control` is locked. -/
def HoldsScheduler (held : Held) : Prop :=
  (LockedRow.schedulerControl, RowLock.forUpdate) ∈ held

/-- The job executes the run. -/
def RunsFor (store : Store) (jobId runId : String) : Prop :=
  ∃ job ∈ store.tables.workerJobs, job.jobId = jobId ∧ job.runId = some runId

theorem RunsFor.run_unique {jobId first second : String} (left : RunsFor store jobId first)
    (right : RunsFor store jobId second) : first = second := by
  rcases left with ⟨job, member, sameJob, sameRun⟩
  rcases right with ⟨other, otherMember, otherJob, otherRun⟩
  have same := store.unique.jobId.eq_of_mem member otherMember (sameJob.trans otherJob.symm)
  rw [same, otherRun] at sameRun
  exact (Option.some.inj sameRun).symm

theorem RunsFor.job_unique {first second runId : String} (left : RunsFor store first runId)
    (right : RunsFor store second runId) : first = second := by
  rcases left with ⟨job, member, sameJob, sameRun⟩
  rcases right with ⟨other, otherMember, otherJob, otherRun⟩
  have same := store.unique.jobRun.eq_of_mem member otherMember sameRun otherRun
  rw [← sameJob, ← otherJob, same]

/-- No job changes its run or disappears. -/
def JobsPersist (before after : Store) : Prop :=
  forall jobId runId, RunsFor before jobId runId -> RunsFor after jobId runId

theorem View.Step.jobs_persist {view target : View} (step : View.Step view target) {job : JobView}
    (member : job ∈ view.jobs) :
    ∃ after ∈ target.jobs, after.jobId = job.jobId ∧ after.runId = job.runId := by
  cases step.move with
  | registerDataset datasetId jobId => exact ⟨job, List.mem_append_left _ member, rfl, rfl⟩
  | createRun jobId datasetId key => exact ⟨job, List.mem_append_left _ member, rfl, rfl⟩
  | advanceRun moved runId status assign artifacts _ _ _ _ =>
      by_cases same : job.jobId = moved.jobId
      · exact ⟨View.advanced status job, mem_update_selected member (decide_eq_true same), rfl, rfl⟩
      · exact ⟨job, mem_update_other member (decide_eq_false same), rfl, rfl⟩
  | advancePreflight moved status _ _ _ =>
      by_cases same : job.jobId = moved.jobId
      · exact ⟨View.advanced status job, mem_update_selected member (decide_eq_true same), rfl, rfl⟩
      · exact ⟨job, mem_update_other member (decide_eq_false same), rfl, rfl⟩

theorem JobsPersist.of_commit {now : Instant} {operation : Operation} {outcome : Except Fault Reply}
    (reachable : Reachable platform store)
    (commits : Transaction platform store ⟨now, operation, outcome⟩ result) : JobsPersist store result := by
  have persists : forall view target : View, Steps view target -> ∀ job ∈ view.jobs,
      ∃ after ∈ target.jobs, after.jobId = job.jobId ∧ after.runId = job.runId := by
    intro view target steps
    induction steps with
    | refl => exact fun job member => ⟨job, member, rfl, rfl⟩
    | tail _ step inductionHypothesis =>
        intro job member
        rcases inductionHypothesis job member with ⟨middle, middleMember, middleJob, middleRun⟩
        rcases step.jobs_persist middleMember with ⟨last, lastMember, lastJob, lastRun⟩
        exact ⟨last, lastMember, lastJob.trans middleJob, lastRun.trans middleRun⟩
  rintro jobId runId ⟨job, member, rfl, sameRun⟩
  rcases persists _ _ (commits.steps (reachable_coherent reachable)) job.view (List.mem_map_of_mem member) with
    ⟨after, afterMember, afterJob, afterRun⟩
  rcases List.mem_map.mp afterMember with ⟨row, rowMember, rfl⟩
  exact ⟨row, rowMember, afterJob, afterRun.trans sameRun⟩

/-! ## The discipline -/

/-- What a transaction can lock, given the locks it holds. -/
def Party.MayTake (store : Store) (held : Held) (mode : RowLock) : Party -> LockedRow -> Prop
  | .canceller _, .schedulerControl => mode = .forUpdate ∧ held = []
  | .canceller runId, .simulation other =>
      HoldsScheduler held ∧
        ((other = runId ∧ mode = .forUpdate ∧ held = [(.schedulerControl, .forUpdate)]) ∨
          ((LockedRow.simulation runId, RowLock.forUpdate) ∈ held ∧ mode ≠ .forUpdate ∧
            (other = runId ∨ mode = .forKeyShare)))
  | .canceller runId, .workerJob jobId =>
      HoldsScheduler held ∧ (LockedRow.simulation runId, RowLock.forUpdate) ∈ held ∧
        RunsFor store jobId runId
  | .lessee _, .schedulerControl => False
  | .lessee jobId, .workerJob other =>
      other = jobId ∧
        ((held = [] ∧ mode ≠ .forKeyShare) ∨ (HoldsJob held jobId ∧ mode ≠ .forUpdate))
  | .lessee jobId, .simulation runId =>
      mode ≠ .forUpdate ∧ HoldsJob held jobId ∧
        (RunsFor store jobId runId ∨
          (mode = .forKeyShare ∧ ∃ own shared, RunsFor store jobId own ∧
            (LockedRow.simulation own, shared) ∈ held))
  | .scheduler, .schedulerControl => mode = .forUpdate ∧ (held = [] ∨ HoldsScheduler held)
  | .scheduler, .workerJob _ => HoldsScheduler held
  | .scheduler, .simulation runId =>
      mode ≠ .forUpdate ∧ HoldsScheduler held ∧
        (mode = .forNoKeyUpdate -> ∃ jobId, HoldsJob held jobId ∧ RunsFor store jobId runId)
  | .bystander, _ => False

/-- What a transaction can wait for: under `scheduler_control` a worker call
waits for no second job. -/
def Party.MayAwait (store : Store) (held : Held) (party : Party) (lock : LockedRow × RowLock) : Prop :=
  party.MayTake store held lock.2 lock.1 ∧
    forall jobId, party = .scheduler -> lock.1 = .workerJob jobId ->
      (∀ row ∈ held, row.1 = .schedulerControl) ∨ HoldsJob held jobId ∧ lock.2 ≠ .forUpdate

theorem Party.MayTake.persist {held : Held} {mode : RowLock} {party : Party} {row : LockedRow}
    (persist : JobsPersist store result) (takes : party.MayTake store held mode row) :
    party.MayTake result held mode row := by
  cases party with
  | canceller runId =>
      cases row with
      | schedulerControl => exact takes
      | simulation other => exact takes
      | workerJob jobId => exact ⟨takes.1, takes.2.1, persist _ _ takes.2.2⟩
  | lessee jobId =>
      cases row with
      | schedulerControl => exact takes
      | workerJob other => exact takes
      | simulation runId =>
          rcases takes with ⟨weak, holds, own | ⟨share, own, shared, runs, member⟩⟩
          · exact ⟨weak, holds, Or.inl (persist _ _ own)⟩
          · exact ⟨weak, holds, Or.inr ⟨share, own, shared, persist _ _ runs, member⟩⟩
  | scheduler =>
      cases row with
      | schedulerControl => exact takes
      | workerJob other => exact takes
      | simulation runId =>
          refine ⟨takes.1, takes.2.1, fun strong => ?_⟩
          rcases takes.2.2 strong with ⟨jobId, holds, runs⟩
          exact ⟨jobId, holds, persist _ _ runs⟩
  | bystander => exact takes

/-- The discipline of the queue's transactions. -/
def queueDiscipline : LockDiscipline (Instant × Operation) Store LockedRow RowLock where
  later := JobsPersist
  mayTake := fun call store held lock => call.2.party.MayTake store held lock.2 lock.1
  mayAwait := fun call store held lock => call.2.party.MayAwait store held lock
  later_refl := fun _ _ _ runs => runs
  later_trans := fun first second jobId runId runs => second jobId runId (first jobId runId runs)
  mayTake_later := fun persist takes => takes.persist persist
  mayAwait_later := fun persist awaits => ⟨awaits.1.persist persist, awaits.2⟩
  mayTake_of_mayAwait := fun awaits => awaits.1

/-! ## Statements under the discipline -/

section Statements

variable {call : Instant × Operation} {held : Held} {runId : String} {found missing rest : RowProgram}

/-- The transaction may lock and write the run. -/
def MayWriteRun (call : Instant × Operation) (store : Store) (held : Held) (runId : String) : Prop :=
  forall mode, mode ≠ RowLock.forUpdate ->
    queueDiscipline.Grants call store held (.simulation runId, mode)

/-- The transaction may announce the queue to every run. -/
def MayAnnounce (call : Instant × Operation) (store : Store) (held : Held) : Prop :=
  forall runId, queueDiscipline.Grants call store held (.simulation runId, .forKeyShare)

theorem MayWriteRun.weaken {more : Held} (writes : MayWriteRun call store held runId)
    (persist : JobsPersist store result) (inside : held ⊆ more) : MayWriteRun call result more runId :=
  fun mode weak => (writes mode weak).weaken persist inside

theorem MayAnnounce.weaken {more : Held} (announces : MayAnnounce call store held)
    (persist : JobsPersist store result) (inside : held ⊆ more) : MayAnnounce call result more :=
  fun runId => (announces runId).weaken persist inside

theorem continues_emitQueuePositions {dequeued : Option String} (announces : MayAnnounce call store held)
    (continues : queueDiscipline.Continues call store held rest) :
    queueDiscipline.Continues call store held (emitQueuePositions dequeued rest) := by
  refine LockDiscipline.Continues.read fun after persist => LockDiscipline.Continues.lockEach ?_ ?_
  · intro lock member
    rcases List.mem_map.mp member with ⟨announced, _, rfl⟩
    exact (announces announced).weaken persist (List.Subset.refl held)
  · exact continues.weaken persist (List.Subset.refl held)

theorem continues_insertEvent (writes : MayWriteRun call store held runId)
    (continues : queueDiscipline.Continues call store
      ((.simulation runId, .forKeyShare) :: held) rest) :
    queueDiscipline.Continues call store held (insertEvent runId rest) :=
  LockDiscipline.Continues.lock (writes .forKeyShare (by decide)) continues

/-- The run's event and the announcement to the queue. -/
theorem continues_announce {dequeued : Option String} (writes : MayWriteRun call store held runId)
    (announces : MayAnnounce call store ((.simulation runId, .forKeyShare) :: held)) :
    queueDiscipline.Continues call store held (insertEvent runId (emitQueuePositions dequeued .done)) :=
  continues_insertEvent writes (continues_emitQueuePositions announces LockDiscipline.Continues.done)

theorem continues_updateRun {selects : Simulation -> Bool} (writes : MayWriteRun call store held runId)
    (onFound : queueDiscipline.Continues call store held found)
    (onMissing : queueDiscipline.Continues call store held missing) :
    queueDiscipline.Continues call store held (updateRun runId selects found missing) := by
  refine LockDiscipline.Continues.read fun after persist => ?_
  split
  · refine LockDiscipline.Continues.lock
      ((writes .forNoKeyUpdate (by decide)).weaken persist (List.Subset.refl held)) ?_
    refine LockDiscipline.Continues.read fun last reached => ?_
    have inside := List.subset_cons_self (LockedRow.simulation runId, RowLock.forNoKeyUpdate) held
    split
    · exact onFound.weaken (queueDiscipline.later_trans persist reached) inside
    · exact onMissing.weaken (queueDiscipline.later_trans persist reached) inside
  · exact onMissing.weaken persist (List.Subset.refl held)

theorem continues_insertJobEvent {jobId : String} {run : Option String}
    (shares : queueDiscipline.Grants call store held (.workerJob jobId, .forKeyShare))
    (writes : ∀ runId ∈ run, MayWriteRun call store held runId)
    (continues : queueDiscipline.Continues call store held rest) :
    queueDiscipline.Continues call store held (insertJobEvent jobId run rest) := by
  have inside := List.subset_cons_self (LockedRow.workerJob jobId, RowLock.forKeyShare) held
  refine LockDiscipline.Continues.lock shares (LockDiscipline.Continues.lockEach ?_ ?_)
  · intro lock member
    rcases List.mem_map.mp member with ⟨runId, isRun, rfl⟩
    exact (writes runId (Option.mem_toList.mp isRun) .forKeyShare (by decide)).weaken
      (queueDiscipline.later_refl store) inside
  · exact continues.weaken (queueDiscipline.later_refl store) inside

theorem obeys_lockScheduler
    (allowed : forall after, queueDiscipline.mayAwait call after held (.schedulerControl, .forUpdate))
    (next : forall after, JobsPersist store after ->
      queueDiscipline.Obeys call after ((.schedulerControl, .forUpdate) :: held) rest) :
    queueDiscipline.Obeys call store held (lockScheduler rest) := by
  intro after persist
  dsimp only
  split
  · exact ⟨allowed after, next after persist⟩
  · trivial

theorem obeys_lockJob {mode : RowLock} {selects : WorkerJob -> Bool} {onFound : WorkerJob -> RowProgram}
    (allowed : forall after, JobsPersist store after -> ∀ job ∈ after.tables.workerJobs, selects job = true ->
      queueDiscipline.mayAwait call after held (.workerJob job.jobId, mode))
    (finds : forall after, JobsPersist store after -> ∀ job ∈ after.tables.workerJobs, selects job = true ->
      queueDiscipline.Continues call after ((.workerJob job.jobId, mode) :: held) (onFound job))
    (misses : queueDiscipline.Continues call store held missing) :
    queueDiscipline.Obeys call store held (lockJob mode selects onFound missing) := by
  intro after persist
  dsimp only
  cases first : selectJob? selects after with
  | none => exact (misses.weaken persist (List.Subset.refl held)).obeys
  | some candidate =>
      rcases selectJob?_some first with ⟨member, selected⟩
      refine ⟨allowed after persist candidate member selected, fun last reached => ?_⟩
      have persistLast := queueDiscipline.later_trans persist reached
      dsimp only
      cases again : selectJob? (fun job => job.jobId = candidate.jobId && selects job) last with
      | none => exact (misses.weaken persistLast (List.subset_cons_self _ held)).obeys
      | some job =>
          rcases selectJob?_some again with ⟨lastMember, matched⟩
          rcases Bool.and_eq_true_iff.mp matched with ⟨sameJob, selectedLast⟩
          rw [← of_decide_eq_true sameJob]
          exact (finds last persistLast job lastMember selectedLast).obeys

theorem continues_lockJob {mode : RowLock} {selects : WorkerJob -> Bool}
    {onFound : WorkerJob -> RowProgram}
    (grants : forall after, JobsPersist store after -> ∀ job ∈ after.tables.workerJobs,
      selects job = true -> queueDiscipline.Grants call after held (.workerJob job.jobId, mode))
    (finds : forall job, queueDiscipline.Continues call store held (onFound job))
    (misses : queueDiscipline.Continues call store held missing) :
    queueDiscipline.Continues call store held (lockJob mode selects onFound missing) := by
  intro before more persist inside
  refine obeys_lockJob ?_ ?_ (misses.weaken persist inside)
  · intro after reached job member selected
    exact grants after (queueDiscipline.later_trans persist reached) job member selected after more
      (queueDiscipline.later_refl after) inside
  · intro after reached job _ _
    exact (finds job).weaken (queueDiscipline.later_trans persist reached)
      (List.Subset.trans inside (List.subset_cons_self _ more))

end Statements

/-! ## Worker calls that start with the job -/

section Lessee

variable {call : Instant × Operation} {held : Held} {jobId runId : String}

theorem HoldsJob.mono {more : Held} (holds : HoldsJob held jobId) (inside : held ⊆ more) :
    HoldsJob more jobId :=
  holds.imp (fun member => inside member) (fun member => inside member)

theorem lessee_awaits {lock : LockedRow × RowLock} (party : call.2.party = .lessee jobId)
    (takes : (Party.lessee jobId).MayTake store held lock.2 lock.1) :
    queueDiscipline.mayAwait call store held lock := by
  refine ⟨?_, ?_⟩
  · rw [party]
    exact takes
  · intro other isScheduler
    rw [party] at isScheduler
    cases isScheduler

theorem lessee_locksJob {mode : RowLock} (party : call.2.party = .lessee jobId)
    (strong : mode ≠ .forKeyShare) :
    queueDiscipline.mayAwait call store [] (.workerJob jobId, mode) :=
  lessee_awaits party ⟨rfl, Or.inl ⟨rfl, strong⟩⟩

theorem lessee_rewritesJob {mode : RowLock} (party : call.2.party = .lessee jobId)
    (holds : HoldsJob held jobId) (weak : mode ≠ .forUpdate) :
    queueDiscipline.Grants call store held (.workerJob jobId, mode) :=
  fun _ _ _ inside => lessee_awaits party ⟨rfl, Or.inr ⟨holds.mono inside, weak⟩⟩

theorem lessee_writesRun (party : call.2.party = .lessee jobId) (holds : HoldsJob held jobId)
    (runs : RunsFor store jobId runId) : MayWriteRun call store held runId :=
  fun _ weak _ _ persist inside =>
    lessee_awaits party ⟨weak, holds.mono inside, Or.inl (persist _ _ runs)⟩

theorem lessee_announces {shared : RowLock} (party : call.2.party = .lessee jobId)
    (holds : HoldsJob held jobId) (runs : RunsFor store jobId runId)
    (member : (LockedRow.simulation runId, shared) ∈ held) : MayAnnounce call store held :=
  fun _ _ _ persist inside =>
    lessee_awaits party
      ⟨RowLock.noConfusion, holds.mono inside, Or.inr ⟨rfl, runId, shared, persist _ _ runs, inside member⟩⟩

/-- A lessee's first statement locks its job; then it goes on under that
lock. -/
theorem lessee_obeys {mode : RowLock} {selects : WorkerJob -> Bool} {onFound : WorkerJob -> RowProgram}
    (party : call.2.party = .lessee jobId) (strong : mode ≠ .forKeyShare)
    (own : forall job, selects job = true -> job.jobId = jobId)
    (finds : forall (after : Store) (held : Held), HoldsJob held jobId -> ∀ job ∈ after.tables.workerJobs,
      job.jobId = jobId -> queueDiscipline.Continues call after held (onFound job)) :
    queueDiscipline.Obeys call store [] (lockJob mode selects onFound .done) := by
  refine obeys_lockJob ?_ ?_ LockDiscipline.Continues.done
  · intro after _ job _ selected
    rw [own job selected]
    exact lessee_locksJob party strong
  · intro after _ job member selected
    rw [own job selected]
    refine finds after _ ?_ job member (own job selected)
    cases mode with
    | forUpdate => exact Or.inl List.mem_cons_self
    | forNoKeyUpdate => exact Or.inr List.mem_cons_self
    | forKeyShare => exact absurd rfl strong

theorem runsFor_of_job {job : WorkerJob} (member : job ∈ store.tables.workerJobs) (sameJob : job.jobId = jobId)
    (sameRun : job.runId = some runId) : RunsFor store jobId runId :=
  ⟨job, member, sameJob, sameRun⟩

theorem heartbeatLocks_obeys {now : Instant} {workerId : String} {lease : Lease} {leaseSeconds : Int}
    (party : call.2.party = .lessee lease.jobId) :
    queueDiscipline.Obeys call store [] (heartbeatLocks now workerId lease leaseSeconds) := by
  unfold heartbeatLocks
  split
  · intro after _
    dsimp only
    split
    · refine lessee_obeys party (by decide)
        (fun job selected => Lease.holds_jobId (Bool.and_eq_true_iff.mp selected).1) ?_
      intro before held holds job member sameJob
      have shares : queueDiscipline.Grants call before held (.workerJob lease.jobId, .forKeyShare) :=
        lessee_rewritesJob party holds RowLock.noConfusion
      cases run : job.runId with
      | none =>
          exact continues_insertJobEvent shares (fun _ isRun => (by cases isRun))
            LockDiscipline.Continues.done
      | some runId =>
          have writes : MayWriteRun call before held runId :=
            lessee_writesRun party holds (runsFor_of_job member sameJob run)
          have reports : queueDiscipline.Continues call before held
              (insertJobEvent lease.jobId (some runId) (insertEvent runId .done)) := by
            refine continues_insertJobEvent shares ?_
              (continues_insertEvent writes LockDiscipline.Continues.done)
            rintro _ ⟨⟩
            exact writes
          exact continues_updateRun writes reports reports
    · trivial
  · trivial

theorem reportEventLocks_obeys {now : Instant} {lease : Lease} {event : Json}
    (party : call.2.party = .lessee lease.jobId) :
    queueDiscipline.Obeys call store [] (reportEventLocks platform now lease event) := by
  refine lessee_obeys party (by decide)
    (fun job selected => Lease.holds_jobId (Bool.and_eq_true_iff.mp selected).1) ?_
  intro before held holds job member sameJob
  have shares : queueDiscipline.Grants call before held (.workerJob job.jobId, .forKeyShare) := by
    rw [sameJob]
    exact lessee_rewritesJob party holds RowLock.noConfusion
  split
  · cases run : job.runId with
    | none =>
        exact continues_insertJobEvent shares (fun _ isRun => (by cases isRun))
          LockDiscipline.Continues.done
    | some runId =>
        have writes : MayWriteRun call before held runId :=
          lessee_writesRun party holds (runsFor_of_job member sameJob run)
        have reports := continues_insertEvent writes LockDiscipline.Continues.done
        refine continues_insertJobEvent shares ?_ (continues_updateRun writes reports reports)
        rintro _ ⟨⟩
        exact writes
  · exact LockDiscipline.Continues.done

theorem confirmCancelLocks_obeys {now : Instant} {lease : Lease}
    (party : call.2.party = .lessee lease.jobId) :
    queueDiscipline.Obeys call store [] (confirmCancelLocks now lease) := by
  refine lessee_obeys party (by decide)
    (fun job selected => Lease.holds_jobId (Bool.and_eq_true_iff.mp selected).1) ?_
  intro before held holds job member sameJob
  rw [sameJob]
  refine LockDiscipline.Continues.lock (lessee_rewritesJob party holds RowLock.noConfusion) ?_
  cases run : job.runId with
  | none => exact LockDiscipline.Continues.done
  | some runId =>
      have inside := List.subset_cons_self (LockedRow.workerJob lease.jobId, RowLock.forNoKeyUpdate) held
      have runs := runsFor_of_job member sameJob run
      have writes : MayWriteRun call before _ runId := lessee_writesRun party (holds.mono inside) runs
      have announces : MayAnnounce call before ((.simulation runId, .forKeyShare) :: _) :=
        lessee_announces party (holds.mono (List.subset_cons_of_subset _ inside)) runs
          List.mem_cons_self
      exact continues_updateRun writes (continues_announce writes announces)
        (continues_announce writes announces)

theorem commitSimulationLocks_obeys {now : Instant} {lease : Lease} {request : CommitRequest}
    (party : call.2.party = .lessee lease.jobId) :
    queueDiscipline.Obeys call store [] (commitSimulationLocks now lease request) := by
  refine lessee_obeys party (by decide) ?_ ?_
  · intro job selected
    simp only [Bool.and_eq_true] at selected
    exact Lease.holds_jobId selected.1.1
  · intro before held holds job member sameJob
    split
    · rename_i runId alarms run _
      have writes : MayWriteRun call before held runId :=
        lessee_writesRun party holds (runsFor_of_job member sameJob run)
      refine continues_updateRun writes ?_ LockDiscipline.Continues.done
      refine LockDiscipline.Continues.lockEach ?_ LockDiscipline.Continues.done
      intro lock requested
      simp only [List.mem_append, List.mem_map, List.mem_cons, List.not_mem_nil, or_false] at requested
      rcases requested with ((rfl | ⟨_, _, rfl⟩) | ⟨_, _, rfl⟩) | rfl | rfl | rfl | rfl
      all_goals first | exact writes _ RowLock.noConfusion | skip
      rw [sameJob]
      exact lessee_rewritesJob party holds RowLock.noConfusion
    · exact LockDiscipline.Continues.done

end Lessee

/-! ## Worker calls that start with the scheduler -/

section Scheduler

variable {call : Instant × Operation} {held : Held} {jobId runId : String} {rest : RowProgram}

/-- Only `scheduler_control` is locked. -/
def OnlyScheduler (held : Held) : Prop :=
  ∀ row ∈ held, row.1 = LockedRow.schedulerControl

instance onlySchedulerDecidable (held : Held) : Decidable (OnlyScheduler held) :=
  inferInstanceAs (Decidable (∀ row ∈ held, row.1 = LockedRow.schedulerControl))

theorem scheduler_locksScheduler (party : call.2.party = .scheduler) (holds : held = [] ∨ HoldsScheduler held) :
    queueDiscipline.mayAwait call store held (.schedulerControl, .forUpdate) := by
  refine ⟨?_, fun _ _ isJob => (by cases isJob)⟩
  rw [party]
  exact ⟨rfl, holds⟩

theorem scheduler_rewritesJob {mode : RowLock} (party : call.2.party = .scheduler)
    (scheduled : HoldsScheduler held) (holds : HoldsJob held jobId) (weak : mode ≠ .forUpdate) :
    queueDiscipline.Grants call store held (.workerJob jobId, mode) := by
  intro after more _ inside
  refine ⟨?_, ?_⟩
  · rw [party]
    exact inside scheduled
  · rintro _ _ ⟨⟩
    exact Or.inr ⟨holds.mono inside, weak⟩

theorem scheduler_writesRun (party : call.2.party = .scheduler) (scheduled : HoldsScheduler held)
    (holds : HoldsJob held jobId) (runs : RunsFor store jobId runId) :
    MayWriteRun call store held runId := by
  intro mode weak after more persist inside
  refine ⟨?_, fun _ _ isJob => (by cases isJob)⟩
  rw [party]
  exact ⟨weak, inside scheduled, fun _ => ⟨jobId, holds.mono inside, persist _ _ runs⟩⟩

theorem scheduler_announces (party : call.2.party = .scheduler) (scheduled : HoldsScheduler held) :
    MayAnnounce call store held := by
  intro other after more _ inside
  refine ⟨?_, fun _ _ isJob => (by cases isJob)⟩
  rw [party]
  exact ⟨RowLock.noConfusion, inside scheduled, RowLock.noConfusion⟩

/-- The first job that is locked under `scheduler_control`. -/
theorem scheduler_obeys {selects : WorkerJob -> Bool} {onFound : WorkerJob -> RowProgram}
    (party : call.2.party = .scheduler) (scheduled : HoldsScheduler held) (only : OnlyScheduler held)
    (finds : forall (after : Store) (held : Held), HoldsScheduler held -> ∀ job ∈ after.tables.workerJobs,
      HoldsJob held job.jobId -> queueDiscipline.Continues call after held (onFound job))
    (misses : queueDiscipline.Continues call store held rest) :
    queueDiscipline.Obeys call store held (lockJob .forUpdate selects onFound rest) := by
  refine obeys_lockJob ?_ ?_ misses
  · intro after _ job _ _
    refine ⟨?_, fun _ _ _ => Or.inl only⟩
    rw [party]
    exact scheduled
  · intro after _ job member _
    exact finds after _ (List.mem_cons_of_mem _ scheduled) job member (Or.inl List.mem_cons_self)

theorem failJobLocks_obeys {now : Instant} {lease : Lease} (party : call.2.party = .scheduler) :
    queueDiscipline.Obeys call store [] (failJobLocks now lease) := by
  refine obeys_lockScheduler (fun _ => scheduler_locksScheduler party (Or.inl rfl)) ?_
  intro first _
  refine scheduler_obeys party List.mem_cons_self (by rintro _ ⟨⟩ <;> trivial) ?_ LockDiscipline.Continues.done
  intro before held scheduled job member holds
  refine LockDiscipline.Continues.read fun after persist => ?_
  refine LockDiscipline.Continues.lock (scheduler_rewritesJob party scheduled holds RowLock.noConfusion) ?_
  have inside := List.subset_cons_self (LockedRow.workerJob job.jobId, RowLock.forNoKeyUpdate) held
  cases run : job.runId with
  | none => exact LockDiscipline.Continues.done
  | some runId =>
      have writes : MayWriteRun call after _ runId :=
        scheduler_writesRun party (inside scheduled) (holds.mono inside)
          (persist _ _ (runsFor_of_job member rfl run))
      dsimp only
      split
      · have announces : MayAnnounce call after ((.simulation runId, .forKeyShare) :: _) :=
          scheduler_announces party (List.mem_cons_of_mem _ (inside scheduled))
        exact continues_updateRun writes (continues_announce writes announces)
          (continues_announce writes announces)
      · have reports := continues_insertEvent writes LockDiscipline.Continues.done
        exact continues_updateRun writes reports reports

theorem recoverExpiredLeasesLocks_obeys {now : Instant} (party : call.2.party = .scheduler)
    (scheduled : held = [] ∨ HoldsScheduler held) (only : OnlyScheduler held)
    (continues : forall (after : Store) (held : Held), HoldsScheduler held ->
      queueDiscipline.Continues call after held rest) :
    queueDiscipline.Obeys call store held (recoverExpiredLeasesLocks now rest) := by
  refine obeys_lockScheduler (fun _ => scheduler_locksScheduler party scheduled) ?_
  intro first _
  refine scheduler_obeys party List.mem_cons_self ?_ ?_ (continues first _ List.mem_cons_self)
  · intro row member
    rcases List.mem_cons.mp member with rfl | earlier
    · rfl
    · exact only row earlier
  · intro before held holdsScheduler job member holds
    refine LockDiscipline.Continues.lock
      (scheduler_rewritesJob party holdsScheduler holds RowLock.noConfusion) ?_
    have inside := List.subset_cons_self (LockedRow.workerJob job.jobId, RowLock.forNoKeyUpdate) held
    have stillScheduled := inside holdsScheduler
    have shares : queueDiscipline.Grants call before _ (.workerJob job.jobId, .forKeyShare) :=
      scheduler_rewritesJob party stillScheduled (holds.mono inside) RowLock.noConfusion
    have announces : queueDiscipline.Continues call before _ (emitQueuePositions none rest) :=
      continues_emitQueuePositions (scheduler_announces party stillScheduled)
        (continues before _ stillScheduled)
    cases run : job.runId with
    | none =>
        exact continues_insertJobEvent shares (fun _ isRun => (by cases isRun)) announces
    | some runId =>
        have writes : MayWriteRun call before _ runId :=
          scheduler_writesRun party stillScheduled (holds.mono inside) (runsFor_of_job member rfl run)
        have own : ∀ other ∈ some runId,
            MayWriteRun call before ((.workerJob job.jobId, .forNoKeyUpdate) :: held) other := by
          rintro _ ⟨⟩
          exact writes
        refine continues_updateRun writes ?_ (continues_insertJobEvent shares own announces)
        refine continues_insertJobEvent shares own (LockDiscipline.Continues.lockEach ?_ announces)
        intro lock requested
        rw [List.mem_map] at requested
        rcases requested with ⟨other, isRun, rfl⟩
        rw [List.mem_singleton] at isRun
        rw [isRun]
        exact writes _ RowLock.noConfusion

theorem startJobLocks_continues {job : WorkerJob} (party : call.2.party = .scheduler)
    (scheduled : HoldsScheduler held) (holds : HoldsJob held job.jobId)
    (member : job ∈ store.tables.workerJobs) :
    queueDiscipline.Continues call store held (startJobLocks job) := by
  refine LockDiscipline.Continues.lock (scheduler_rewritesJob party scheduled holds RowLock.noConfusion) ?_
  have inside := List.subset_cons_self (LockedRow.workerJob job.jobId, RowLock.forNoKeyUpdate) held
  cases run : job.runId with
  | none => exact LockDiscipline.Continues.done
  | some runId =>
      have writes : MayWriteRun call store _ runId :=
        scheduler_writesRun party (inside scheduled) (holds.mono inside) (runsFor_of_job member rfl run)
      refine continues_updateRun writes ?_ LockDiscipline.Continues.done
      exact continues_announce writes
        (scheduler_announces party (List.mem_cons_of_mem _ (inside scheduled)))

theorem claimFirst_continues {jobs : List WorkerJob} (party : call.2.party = .scheduler)
    (scheduled : HoldsScheduler held) :
    queueDiscipline.Continues call store held (claimFirst startJobLocks jobs) := by
  induction jobs generalizing store held with
  | nil => exact LockDiscipline.Continues.done
  | cons job others inductionHypothesis =>
      refine LockDiscipline.Continues.tryLock ?_ ?_ (inductionHypothesis scheduled)
      · intro after more _ inside
        change call.2.party.MayTake _ _ _ _
        rw [party]
        exact inside scheduled
      · have stillScheduled := List.mem_cons_of_mem (LockedRow.workerJob job.jobId, RowLock.forUpdate) scheduled
        refine LockDiscipline.Continues.read fun after _ => ?_
        cases again : selectJob? (fun row => row.jobId = job.jobId && row.status = .queued) after with
        | none => exact inductionHypothesis stillScheduled
        | some selectedJob =>
            rcases selectJob?_some again with ⟨member, matched⟩
            have sameJob := of_decide_eq_true (Bool.and_eq_true_iff.mp matched).1
            refine startJobLocks_continues party stillScheduled (Or.inl ?_) member
            rw [sameJob]
            exact List.mem_cons_self

theorem claimLocks_obeys {now : Instant} {workerId attemptId leaseToken : String} {leaseSeconds : Int}
    (party : call.2.party = .scheduler) :
    queueDiscipline.Obeys call store [] (claimLocks now workerId attemptId leaseToken leaseSeconds) := by
  unfold claimLocks
  split
  · intro after _
    dsimp only
    split
    · refine obeys_lockScheduler (fun _ => scheduler_locksScheduler party (Or.inl rfl)) ?_
      intro first _
      refine recoverExpiredLeasesLocks_obeys party (Or.inr List.mem_cons_self)
        (by rintro _ ⟨⟩ <;> trivial) ?_
      intro before held scheduled
      refine LockDiscipline.Continues.read fun current _ => ?_
      split
      · exact LockDiscipline.Continues.done
      · exact LockDiscipline.Continues.read fun snapshot _ => claimFirst_continues party scheduled
    · trivial
  · trivial

end Scheduler

/-! ## Cancellations -/

section Canceller

variable {call : Instant × Operation} {held : Held} {runId : String}

/-- The locks that a cancellation holds when it has read its run. -/
def HoldsRun (held : Held) (runId : String) : Prop :=
  HoldsScheduler held ∧ (LockedRow.simulation runId, RowLock.forUpdate) ∈ held

theorem HoldsRun.mono {more : Held} (holds : HoldsRun held runId) (inside : held ⊆ more) :
    HoldsRun more runId :=
  ⟨inside holds.1, inside holds.2⟩

theorem canceller_awaits {lock : LockedRow × RowLock} (party : call.2.party = .canceller runId)
    (takes : (Party.canceller runId).MayTake store held lock.2 lock.1) :
    queueDiscipline.mayAwait call store held lock := by
  refine ⟨?_, ?_⟩
  · rw [party]
    exact takes
  · intro other isScheduler
    rw [party] at isScheduler
    cases isScheduler

theorem canceller_writesRun (party : call.2.party = .canceller runId) (holds : HoldsRun held runId) :
    MayWriteRun call store held runId :=
  fun _ weak _ _ _ inside =>
    canceller_awaits party ⟨inside holds.1, Or.inr ⟨inside holds.2, weak, Or.inl rfl⟩⟩

theorem canceller_announces (party : call.2.party = .canceller runId) (holds : HoldsRun held runId) :
    MayAnnounce call store held :=
  fun _ _ _ _ inside =>
    canceller_awaits party
      ⟨inside holds.1, Or.inr ⟨inside holds.2, RowLock.noConfusion, Or.inr rfl⟩⟩

/-- The update of the run's job. -/
theorem canceller_locksJob {selects : WorkerJob -> Bool} {rest : RowProgram}
    (party : call.2.party = .canceller runId) (holds : HoldsRun held runId)
    (own : forall job, selects job = true -> job.runId = some runId)
    (continues : queueDiscipline.Continues call store held rest) :
    queueDiscipline.Continues call store held (lockJob .forNoKeyUpdate selects (fun _ => rest) rest) := by
  refine continues_lockJob ?_ (fun _ => continues) continues
  intro after _ job member selected last more persist inside
  exact canceller_awaits party
    ⟨inside holds.1, inside holds.2, persist _ _ (runsFor_of_job member rfl (own job selected))⟩

theorem cancelSimulationLocks_obeys (party : call.2.party = .canceller runId) :
    queueDiscipline.Obeys call store [] (cancelSimulationLocks runId) := by
  refine obeys_lockScheduler (fun _ => canceller_awaits party ⟨rfl, rfl⟩) ?_
  intro first _ after _
  dsimp only
  split
  · refine ⟨canceller_awaits party ⟨List.mem_cons_self, Or.inl ⟨rfl, rfl, rfl⟩⟩, fun current _ => ?_⟩
    have holds : HoldsRun [(.simulation runId, .forUpdate), (.schedulerControl, .forUpdate)] runId :=
      ⟨List.mem_cons_of_mem _ List.mem_cons_self, List.mem_cons_self⟩
    have inside := List.subset_cons_self (LockedRow.simulation runId, RowLock.forNoKeyUpdate)
      [(.simulation runId, .forUpdate), (.schedulerControl, .forUpdate)]
    have writes : MayWriteRun call current _ runId := canceller_writesRun party (holds.mono inside)
    refine LockDiscipline.Continues.obeys ?_
    dsimp only
    split
    · refine LockDiscipline.Continues.lock (canceller_writesRun party holds _ RowLock.noConfusion) ?_
      refine canceller_locksJob party (holds.mono inside) ?_ (continues_announce writes ?_)
      · intro job selected
        exact of_decide_eq_true (Bool.and_eq_true_iff.mp selected).1
      · exact canceller_announces party (holds.mono (List.subset_cons_of_subset _ inside))
    · refine LockDiscipline.Continues.lock (canceller_writesRun party holds _ RowLock.noConfusion) ?_
      refine canceller_locksJob party (holds.mono inside) ?_
        (continues_insertEvent writes LockDiscipline.Continues.done)
      intro job selected
      exact of_decide_eq_true (Bool.and_eq_true_iff.mp selected).1
    · exact LockDiscipline.Continues.done
  · trivial

end Canceller

/-- Every transaction obeys the discipline. -/
theorem lockProgram_obeys (call : Instant × Operation) (store : Store) :
    queueDiscipline.Obeys call store [] (lockProgram platform call) := by
  rcases call with ⟨now, operation⟩
  cases operation with
  | cancelSimulation runId reason => exact cancelSimulationLocks_obeys rfl
  | heartbeat workerId lease leaseSeconds => exact heartbeatLocks_obeys rfl
  | reportEvent lease event => exact reportEventLocks_obeys rfl
  | confirmCancel lease => exact confirmCancelLocks_obeys rfl
  | failJob lease error recoverable => exact failJobLocks_obeys rfl
  | commitSimulation lease request => exact commitSimulationLocks_obeys rfl
  | claim workerId attemptId leaseToken leaseSeconds => exact claimLocks_obeys rfl
  | recoverExpiredLeases =>
      exact recoverExpiredLeasesLocks_obeys rfl (Or.inl rfl) (fun _ member => (by cases member))
        (fun _ _ _ => LockDiscipline.Continues.done)
  | _ => trivial

end Queue
end FederatedIot
