import FederatedIot.Queue.Fifo

namespace FederatedIot
namespace Queue

open Foundation Foundation.Relation Foundation.Outcome

/-!
# The order of service

Only a claim activates a job.  Together with the order of claims this places
every active job before every queued one: its place in the queue is smaller.
The same holds for the runs, since a run and its job share their place.
-/

variable {platform : Platform} {store middle result : Store} {now : Instant}

/-! ## Activation -/

/-- Every active job of the result was active before. -/
def NoneActivated (store result : Store) : Prop :=
  ∀ job ∈ result.tables.workerJobs, job.status.isActive = true ->
    ∃ old ∈ store.tables.workerJobs, old.jobId = job.jobId ∧ old.status.isActive = true

namespace NoneActivated

theorem of_jobs (same : result.tables.workerJobs = store.tables.workerJobs) : NoneActivated store result := by
  intro job member active
  rw [same] at member
  exact ⟨job, member, rfl, active⟩

theorem refl (store : Store) : NoneActivated store store :=
  of_jobs rfl

theorem trans (before : NoneActivated store middle) (after : NoneActivated middle result) :
    NoneActivated store result := by
  intro job member active
  rcases after job member active with ⟨between, betweenMember, sameBetween, betweenActive⟩
  rcases before between betweenMember betweenActive with ⟨old, oldMember, sameOld, oldActive⟩
  exact ⟨old, oldMember, sameOld.trans sameBetween, oldActive⟩

/-- An admitted job is queued. -/
theorem of_admitted {added : WorkerJob} (jobs : result.tables.workerJobs = store.tables.workerJobs ++ [added])
    (queued : added.status = .queued) : NoneActivated store result := by
  intro job member active
  rw [jobs] at member
  rcases List.mem_append.mp member with earlier | last
  · exact ⟨job, earlier, rfl, active⟩
  · rw [List.mem_singleton.mp last, queued] at active
    cases active

end NoneActivated

theorem updateJobs_noneActivated {selects : WorkerJob -> Bool} {assign : WorkerJob -> WorkerJob}
    (accepted : updateJobs now selects assign store = .ok result)
    (sameId : forall job, (assign job).jobId = job.jobId)
    (inactive : forall job, selects job = true -> (assign job).status.isActive = true ->
      job.status.isActive = true) : NoneActivated store result := by
  rcases updateJobs_ok_iff.mp accepted with ⟨tables, _⟩
  intro job member active
  rw [tables] at member
  rcases mem_update_cases member with ⟨old, oldMember, selected, rfl⟩ | ⟨kept, _⟩
  · exact ⟨old, oldMember, (sameId old).symm, inactive old selected active⟩
  · exact ⟨job, kept, rfl, active⟩

theorem noneActivated_framed : Framed NoneActivated where
  refl := NoneActivated.refl
  trans := NoneActivated.trans
  instances accepted := .of_jobs (by rw [(updateInstances_ok_iff.mp accepted).1])
  newInstance _ tables _ := .of_jobs (by rw [tables])
  datasets accepted := .of_jobs (by rw [(updateDatasets_ok_iff.mp accepted).1])
  jobs accepted kept inactive :=
    updateJobs_noneActivated accepted (fun job => congrArg JobAdmission.jobId (kept job)) inactive
  runs accepted _ := .of_jobs (by rw [(updateSimulations_ok_iff.mp accepted).2.1])
  events accepted := .of_jobs (by rw [(insertSimulationEvents_ok_iff.mp accepted).1])
  workerEvents accepted := .of_jobs (by rw [(insertWorkerJobEvents_ok_iff.mp accepted).1])
  artifacts accepted := .of_jobs (by rw [(insertArtifacts_ok_iff.mp accepted).1])
  alarms accepted := .of_jobs (by rw [(insertAlarms_ok_iff.mp accepted).1])

/-! ### Claims -/

/-- Starting a job activates no other one. -/
theorem startJob_activates {attemptId leaseToken : String} {leaseSeconds : Int} {started job : WorkerJob}
    {reply : Option ClaimedJob}
    (accepted : startJob now attemptId leaseToken leaseSeconds started store = .ok (result, reply))
    (member : job ∈ result.tables.workerJobs) (active : job.status.isActive = true) :
    (∃ old ∈ store.tables.workerJobs, old.jobId = job.jobId ∧ old.status.isActive = true) ∨
      ∃ claimed, reply = some claimed ∧ claimed.jobId = job.jobId := by
  rcases startJob_jobs accepted with ⟨jobs, claimed, replied, sameClaimed⟩
  have viewed : job.view ∈ (store.view.setJob started.jobId .running).jobs := by
    rw [← jobs]
    exact List.mem_map_of_mem member
  rcases mem_update_cases viewed with ⟨old, _, selected, same⟩ | ⟨kept, _⟩
  · have sameId : job.jobId = old.jobId := congrArg JobView.jobId same
    exact Or.inr ⟨claimed, replied, sameClaimed.trans ((of_decide_eq_true selected).symm.trans sameId.symm)⟩
  · rcases List.mem_map.mp kept with ⟨old, oldMember, same⟩
    have sameStatus : old.status = job.status := congrArg JobView.status same
    refine Or.inl ⟨old, oldMember, congrArg JobView.jobId same, ?_⟩
    rw [sameStatus]
    exact active

theorem workerClaimNextJobForWorker_activates {workerId attemptId leaseToken : String} {leaseSeconds : Int}
    {reply : Option ClaimedJob} {job : WorkerJob}
    (accepted : workerClaimNextJobForWorker now workerId attemptId leaseToken leaseSeconds store =
      .ok (result, reply))
    (member : job ∈ result.tables.workerJobs) (active : job.status.isActive = true) :
    (∃ old ∈ store.tables.workerJobs, old.jobId = job.jobId ∧ old.status.isActive = true) ∨
      ∃ claimed, reply = some claimed ∧ claimed.jobId = job.jobId := by
  simp only [workerClaimNextJobForWorker, bind_ok_iff, require_ok_iff, exists_const] at accepted
  rcases accepted with ⟨_, _, seen, seenAccepted, _, accepted⟩
  simp only [requireScheduler_ok_iff, exists_const] at accepted
  rcases accepted with ⟨_, ⟨recovered, count⟩, recoveredAccepted, accepted⟩
  have recovery := noneActivated_framed.trans (noneActivated_framed.instances seenAccepted)
    (workerRecoverExpiredLeases_framed noneActivated_framed recoveredAccepted)
  split at accepted
  · cases accepted
    exact Or.inl (recovery job member active)
  · split at accepted
    · cases accepted
      exact Or.inl (recovery job member active)
    · rcases startJob_activates accepted member active with ⟨old, oldMember, same, oldActive⟩ | claimed
      · rcases recovery old oldMember oldActive with ⟨first, firstMember, sameFirst, firstActive⟩
        exact Or.inl ⟨first, firstMember, sameFirst.trans same, firstActive⟩
      · exact Or.inr claimed

/-- A job that a transaction activates is the job it claims. -/
theorem activated_by_claim {call : Call} (step : Transaction platform store call result) {job : WorkerJob}
    (member : job ∈ result.tables.workerJobs) (active : job.status.isActive = true) :
    (∃ old ∈ store.tables.workerJobs, old.jobId = job.jobId ∧ old.status.isActive = true) ∨
      claimsJob job.jobId call = true := by
  have unclaimed : NoneActivated store result ->
      (∃ old ∈ store.tables.workerJobs, old.jobId = job.jobId ∧ old.status.isActive = true) ∨
        claimsJob job.jobId call = true :=
    fun none => Or.inl (none job member active)
  cases step with
  | rolledBack _ same _ => exact unclaimed (.of_jobs (by rw [same]))
  | @committed _ now operation reply accepted =>
      cases operation with
      | registerDataset clock identifiers input =>
          rcases answer_ok_iff.mp accepted with ⟨_, done, _⟩
          rcases registerDataset_admits done with ⟨added, admits, _⟩
          exact unclaimed (.of_admitted admits.jobs admits.jobQueued)
      | createSimulation clock identifiers key request =>
          rcases answer_ok_iff.mp accepted with ⟨⟨record, replayed⟩, done, _⟩
          rcases createSimulation_admits done with ⟨_, rfl⟩ | ⟨_, run, added, admits, _⟩
          · exact unclaimed (.refl _)
          · exact unclaimed (.of_admitted admits.jobs admits.jobQueued)
      | cancelSimulation runId reason =>
          rcases answer_ok_iff.mp accepted with ⟨_, done, _⟩
          exact unclaimed (cancelSimulation_framed noneActivated_framed done)
      | saveParameterProfile row =>
          rcases answer_ok_iff.mp accepted with ⟨_, done, _⟩
          simp only [bind_ok_iff, Fault.ofPg_ok_iff, insertParameterProfile_ok_iff] at done
          rcases done with ⟨saved, ⟨tables, _⟩, same⟩
          cases same
          exact unclaimed (.of_jobs (by rw [tables]))
      | saveLoadMapping row =>
          rcases answer_ok_iff.mp accepted with ⟨_, done, _⟩
          simp only [bind_ok_iff, Fault.ofPg_ok_iff, insertLoadMappingProfile_ok_iff] at done
          rcases done with ⟨saved, ⟨tables, _⟩, same⟩
          cases same
          exact unclaimed (.of_jobs (by rw [tables]))
      | registerInstance workerId contractVersion workerVersion =>
          rcases answer_ok_iff.mp accepted with ⟨_, done, _⟩
          exact unclaimed (workerRegisterInstance_framed noneActivated_framed (Fault.ofPg_ok_iff.mp done))
      | heartbeatInstance workerId contractVersion =>
          rcases answer_ok_iff.mp accepted with ⟨_, done, _⟩
          exact unclaimed (workerHeartbeatInstance_framed noneActivated_framed (Fault.ofPg_ok_iff.mp done))
      | claim workerId attemptId leaseToken leaseSeconds =>
          rcases answer_ok_iff.mp accepted with ⟨claimed, done, same⟩
          rcases workerClaimNextJobForWorker_activates (Fault.ofPg_ok_iff.mp done) member active with
            before | ⟨handed, rfl, sameId⟩
          · exact Or.inl before
          · subst same
            exact Or.inr (decide_eq_true sameId)
      | heartbeat workerId lease leaseSeconds =>
          rcases answer_ok_iff.mp accepted with ⟨_, done, _⟩
          exact unclaimed (workerHeartbeatForWorker_framed noneActivated_framed (Fault.ofPg_ok_iff.mp done))
      | reportEvent lease event =>
          rcases answer_ok_iff.mp accepted with ⟨_, done, _⟩
          exact unclaimed (workerReportEvent_framed noneActivated_framed (Fault.ofPg_ok_iff.mp done))
      | completePreflight lease inputSha256 summary summarySha256 =>
          rcases answer_ok_iff.mp accepted with ⟨_, done, _⟩
          exact unclaimed (workerCompletePreflight_framed noneActivated_framed (Fault.ofPg_ok_iff.mp done))
      | confirmCancel lease =>
          rcases answer_ok_iff.mp accepted with ⟨_, done, _⟩
          exact unclaimed (workerConfirmCancel_framed noneActivated_framed (Fault.ofPg_ok_iff.mp done))
      | failJob lease error recoverable =>
          rcases answer_ok_iff.mp accepted with ⟨_, done, _⟩
          exact unclaimed (workerFailJob_framed noneActivated_framed (Fault.ofPg_ok_iff.mp done))
      | commitSimulation lease request =>
          rcases answer_ok_iff.mp accepted with ⟨_, done, _⟩
          exact unclaimed (workerCommitSimulation_framed noneActivated_framed (Fault.ofPg_ok_iff.mp done))
      | recoverExpiredLeases =>
          rcases answer_ok_iff.mp accepted with ⟨_, done, _⟩
          exact unclaimed (workerRecoverExpiredLeases_framed noneActivated_framed (Fault.ofPg_ok_iff.mp done))

/-! ## Active before queued -/

/-- Every active job has a smaller place than every queued one. -/
def ServedInOrder (store : Store) : Prop :=
  ∀ active ∈ store.tables.workerJobs, ∀ queued ∈ store.tables.workerJobs,
    active.status.isActive = true -> queued.status = .queued -> active.enqueueSeq < queued.enqueueSeq

/-- A job of the result was there before with its place, or its place is new. -/
theorem Effect.job_source (effect : Effect store result) {job : WorkerJob}
    (member : job ∈ result.tables.workerJobs) :
    (∃ old ∈ store.tables.workerJobs, old.admission = job.admission) ∨
      (job.status = .queued ∧ job.enqueueSeq = store.sequences.enqueueSequence + 1) := by
  have appended {added : WorkerJob} (jobs : result.tables.workerJobs = store.tables.workerJobs ++ [added])
      (queued : added.status = .queued) (place : added.enqueueSeq = store.sequences.enqueueSequence + 1) :
      (∃ old ∈ store.tables.workerJobs, old.admission = job.admission) ∨
        (job.status = .queued ∧ job.enqueueSeq = store.sequences.enqueueSequence + 1) := by
    rw [jobs] at member
    rcases List.mem_append.mp member with earlier | last
    · exact Or.inl ⟨job, earlier, rfl⟩
    · rw [List.mem_singleton.mp last]
      exact Or.inr ⟨queued, place⟩
  cases effect with
  | keeps kept => exact Or.inl (kept.job_source member)
  | admitsPreflight added admits => exact appended admits.jobs admits.jobQueued admits.jobPlace
  | admitsRun run added admits => exact appended admits.jobs admits.jobQueued admits.jobPlace

/-- A queued job that was stored before was queued before. -/
theorem queued_before {call : Call} (reachable : Reachable platform store)
    (step : Transaction platform store call result) {old job : WorkerJob}
    (oldMember : old ∈ store.tables.workerJobs) (member : job ∈ result.tables.workerJobs)
    (sameId : old.jobId = job.jobId) (queued : job.status = .queued) : old.status = .queued := by
  by_contra left
  have started : Started old.jobId store.view := ⟨old.view, List.mem_map_of_mem oldMember, rfl, left⟩
  rcases started.steps (step.steps (reachable_coherent reachable)) with ⟨view, viewMember, sameView, still⟩
  rcases List.mem_map.mp viewMember with ⟨later, laterMember, rfl⟩
  have isJob : later = job := result.unique.jobId.eq_of_mem laterMember member (sameView.trans sameId)
  rw [isJob] at still
  exact still queued

theorem ServedInOrder.step {call : Call} (served : ServedInOrder store) (reachable : Reachable platform store)
    (step : Transaction platform store call result) : ServedInOrder result := by
  intro active activeMember queued queuedMember isActive isQueued
  have drawn := reachable_placesDrawn reachable
  rcases step.effect.job_source activeMember with ⟨firstOld, firstMember, firstSame⟩ | ⟨fresh, _⟩
  · have firstId : firstOld.jobId = active.jobId := congrArg JobAdmission.jobId firstSame
    have firstPlace : firstOld.enqueueSeq = active.enqueueSeq := congrArg JobAdmission.enqueueSeq firstSame
    rcases step.effect.job_source queuedMember with ⟨secondOld, secondMember, secondSame⟩ | ⟨_, place⟩
    · have secondId : secondOld.jobId = queued.jobId := congrArg JobAdmission.jobId secondSame
      have secondPlace : secondOld.enqueueSeq = queued.enqueueSeq := congrArg JobAdmission.enqueueSeq secondSame
      have wasQueued := queued_before reachable step secondMember queuedMember secondId isQueued
      rw [← firstPlace, ← secondPlace]
      rcases activated_by_claim step activeMember isActive with ⟨old, oldMember, same, wasActive⟩ | claims
      · have isOld : old = firstOld := store.unique.jobId.eq_of_mem oldMember firstMember (same.trans firstId.symm)
        rw [isOld] at wasActive
        exact served firstOld firstMember secondOld secondMember wasActive wasQueued
      · rcases claimsJob_next step claims with ⟨next, ⟨nextMember, _, least⟩, sameNext⟩
        have isNext : next = firstOld :=
          store.unique.jobId.eq_of_mem nextMember firstMember (sameNext.trans firstId.symm)
        have atMost := least secondOld secondMember wasQueued
        rw [isNext] at atMost
        apply lt_of_le_of_ne atMost
        intro samePlace
        have same : firstOld = secondOld := store.unique.jobSeq.eq_of_mem firstMember secondMember samePlace
        have sameJob : active = queued :=
          result.unique.jobId.eq_of_mem activeMember queuedMember (by rw [← firstId, same, secondId])
        rw [sameJob, isQueued] at isActive
        cases isActive
    · rw [place, ← firstPlace]
      exact Nat.lt_succ_of_le (drawn firstOld firstMember)
  · rw [fresh] at isActive
    cases isActive

theorem reachable_servedInOrder (reachable : Reachable platform store) : ServedInOrder store := by
  refine System.Reachable.invariant ServedInOrder ?_ ?_ reachable
  · rintro start ⟨now, rfl⟩ active member
    cases member
  · intro source call target sourceReachable step served
    exact served.step sourceReachable step

/-! ## The places of the runs -/

theorem KeepsRows.run_source (kept : KeepsRows store result) {run : Simulation}
    (member : run ∈ result.tables.simulations) :
    ∃ old ∈ store.tables.simulations, old.admission = run.admission := by
  have mapped : run.admission ∈ result.tables.simulations.map Simulation.admission :=
    List.mem_map_of_mem member
  rw [kept.runs] at mapped
  exact List.mem_map.mp mapped

/-- A run of the result was there before with its place, or its place is new. -/
theorem Effect.run_source (effect : Effect store result) {run : Simulation}
    (member : run ∈ result.tables.simulations) :
    (∃ old ∈ store.tables.simulations, old.admission = run.admission) ∨
      (run.status = .queued ∧ run.enqueueSeq = store.sequences.enqueueSequence + 1) := by
  cases effect with
  | keeps kept => exact Or.inl (kept.run_source member)
  | admitsPreflight added admits =>
      rw [admits.runs] at member
      exact Or.inl ⟨run, member, rfl⟩
  | admitsRun added job admits =>
      rw [admits.runs] at member
      rcases List.mem_append.mp member with earlier | last
      · exact Or.inl ⟨run, earlier, rfl⟩
      · rw [List.mem_singleton.mp last]
        exact Or.inr ⟨admits.runQueued, admits.runPlace⟩

theorem Effect.job_target (effect : Effect store result) {job : WorkerJob}
    (member : job ∈ store.tables.workerJobs) :
    ∃ later ∈ result.tables.workerJobs, later.admission = job.admission := by
  cases effect with
  | keeps kept => exact kept.job_target member
  | admitsPreflight added admits =>
      rw [admits.jobs]
      exact ⟨job, List.mem_append_left _ member, rfl⟩
  | admitsRun run added admits =>
      rw [admits.jobs]
      exact ⟨job, List.mem_append_left _ member, rfl⟩

theorem Effect.enqueueSequence (effect : Effect store result) :
    store.sequences.enqueueSequence ≤ result.sequences.enqueueSequence := by
  cases effect with
  | keeps kept => exact kept.sequences.enqueueSequence
  | admitsPreflight added admits =>
      rw [admits.sequences]
      exact Nat.le_succ _
  | admitsRun added job admits => exact admits.sequences.enqueueSequence

/-- A run and its job have the same place. -/
def SamePlace (store : Store) : Prop :=
  ∀ job ∈ store.tables.workerJobs, ∀ run ∈ store.tables.simulations, job.runId = some run.runId ->
    run.enqueueSeq = job.enqueueSeq

/-- An added job is not the job of a run that was there before. -/
theorem added_not_of_stored (coherent : store.view.Coherent) {added : WorkerJob} {run : Simulation}
    (jobs : result.tables.workerJobs = store.tables.workerJobs ++ [added])
    (member : run ∈ store.tables.simulations) : added.runId ≠ some run.runId := by
  intro same
  rcases job_of_run coherent member with ⟨job, jobMember, present, _⟩
  have both := result.unique.jobRun
  have ids := result.unique.jobId
  rw [jobs] at both ids
  have isAdded : job = added :=
    both.eq_of_mem (List.mem_append_left _ jobMember) List.mem_concat_self present same
  exact ids.of_append job jobMember (congrArg WorkerJob.jobId isAdded)

theorem SamePlace.effect (places : SamePlace store) (coherent : store.view.Coherent)
    (effect : Effect store result) : SamePlace result := by
  intro job jobMember run runMember present
  cases effect with
  | keeps kept =>
      rcases kept.job_source jobMember with ⟨oldJob, oldJobMember, sameJob⟩
      rcases kept.run_source runMember with ⟨oldRun, oldRunMember, sameRun⟩
      have oldPresent : oldJob.runId = some oldRun.runId := by
        rw [show oldJob.runId = job.runId from congrArg JobAdmission.runId sameJob, present,
          show oldRun.runId = run.runId from congrArg RunAdmission.runId sameRun]
      have samePlaces := places oldJob oldJobMember oldRun oldRunMember oldPresent
      rw [← show oldRun.enqueueSeq = run.enqueueSeq from congrArg RunAdmission.enqueueSeq sameRun,
        ← show oldJob.enqueueSeq = job.enqueueSeq from congrArg JobAdmission.enqueueSeq sameJob]
      exact samePlaces
  | admitsPreflight added admits =>
      rw [admits.runs] at runMember
      rw [admits.jobs] at jobMember
      rcases List.mem_append.mp jobMember with earlier | last
      · exact places job earlier run runMember present
      · rw [List.mem_singleton.mp last] at present
        exact absurd present (added_not_of_stored coherent admits.jobs runMember)
  | admitsRun addedRun added admits =>
      rw [admits.runs] at runMember
      rw [admits.jobs] at jobMember
      rcases List.mem_append.mp runMember with earlierRun | lastRun
      · rcases List.mem_append.mp jobMember with earlier | last
        · exact places job earlier run earlierRun present
        · rw [List.mem_singleton.mp last] at present
          exact absurd present (added_not_of_stored coherent admits.jobs earlierRun)
      · rw [List.mem_singleton.mp lastRun] at present ⊢
        rcases List.mem_append.mp jobMember with earlier | last
        · rcases store.foreign.jobRun job earlier addedRun.runId present with ⟨stored, storedMember, same⟩
          have ids := result.unique.runId
          rw [admits.runs] at ids
          exact absurd same (ids.of_append stored storedMember)
        · rw [List.mem_singleton.mp last, admits.runPlace, admits.jobPlace]

theorem reachable_samePlace (reachable : Reachable platform store) : SamePlace store := by
  refine System.Reachable.invariant SamePlace ?_ ?_ reachable
  · rintro start ⟨now, rfl⟩ job member
    cases member
  · intro source call target sourceReachable step places
    exact places.effect (reachable_coherent sourceReachable) step.effect

/-- Every place of a run was drawn from the sequence. -/
theorem run_place_drawn (reachable : Reachable platform store) {run : Simulation}
    (member : run ∈ store.tables.simulations) : run.enqueueSeq ≤ store.sequences.enqueueSequence := by
  rcases job_of_run (reachable_coherent reachable) member with ⟨job, jobMember, present, _⟩
  rw [reachable_samePlace reachable job jobMember run member present]
  exact reachable_placesDrawn reachable job jobMember

/-- The active run is before every queued one. -/
theorem active_before_queued (reachable : Reachable platform store) {active queued : Simulation}
    (activeMember : active ∈ store.tables.simulations) (queuedMember : queued ∈ store.tables.simulations)
    (isActive : active.status.isExecution = true) (isQueued : queued.status = .queued) :
    active.enqueueSeq < queued.enqueueSeq := by
  have coherent := reachable_coherent reachable
  rcases job_of_run coherent activeMember with ⟨first, firstMember, firstPresent, firstStatus⟩
  rcases job_of_run coherent queuedMember with ⟨second, secondMember, secondPresent, secondStatus⟩
  have firstActive : first.status.isActive = true := by
    rw [firstStatus] at isActive
    revert isActive
    cases first.status <;> decide
  have secondQueued : second.status = .queued := by
    rw [secondStatus] at isQueued
    exact JobStatus.simulationStatus_injective isQueued
  have places := reachable_samePlace reachable
  rw [places first firstMember active activeMember firstPresent,
    places second secondMember queued queuedMember secondPresent]
  exact reachable_servedInOrder reachable first firstMember second secondMember firstActive secondQueued

/-- A run that a transaction activates is the run of the job it claims. -/
theorem run_activated_by_claim {call : Call} (reachable : Reachable platform store)
    (step : Transaction platform store call result) {old run : Simulation}
    (oldMember : old ∈ store.tables.simulations) (member : run ∈ result.tables.simulations)
    (sameId : old.runId = run.runId) (wasQueued : old.status = .queued)
    (isActive : run.status.isExecution = true) :
    ∃ job ∈ store.tables.workerJobs, job.runId = some run.runId ∧ claimsJob job.jobId call = true := by
  have coherent := reachable_coherent reachable
  have after := reachable_coherent (System.Reachable.step reachable step)
  rcases job_of_run coherent oldMember with ⟨job, jobMember, present, status⟩
  rcases job_of_run after member with ⟨later, laterMember, laterPresent, laterStatus⟩
  have laterActive : later.status.isActive = true := by
    rw [laterStatus] at isActive
    revert isActive
    cases later.status <;> decide
  have jobQueued : job.status = .queued := by
    rw [status] at wasQueued
    exact JobStatus.simulationStatus_injective wasQueued
  rcases step.effect.job_source laterMember with ⟨stored, storedMember, same⟩ | ⟨fresh, _⟩
  · have storedPresent : stored.runId = some old.runId := by
      rw [show stored.runId = later.runId from congrArg JobAdmission.runId same, laterPresent, sameId]
    have isJob : stored = job :=
      store.unique.jobRun.eq_of_mem storedMember jobMember storedPresent present
    have laterId : job.jobId = later.jobId := by
      rw [← isJob]
      exact congrArg JobAdmission.jobId same
    refine ⟨job, jobMember, present.trans (congrArg some sameId), ?_⟩
    rcases activated_by_claim step laterMember laterActive with ⟨before, beforeMember, sameBefore, wasActive⟩ | claims
    · have isBefore : before = job :=
        store.unique.jobId.eq_of_mem beforeMember jobMember (sameBefore.trans laterId.symm)
      rw [isBefore, jobQueued] at wasActive
      cases wasActive
    · rw [laterId]
      exact claims
  · rw [fresh] at laterActive
    cases laterActive

/-- The run of a claimed job has left the queue. -/
theorem claimed_run_not_queued {call : Call} (reachable : Reachable platform store)
    (step : Transaction platform store call result) {job : WorkerJob} {run : Simulation}
    (jobMember : job ∈ store.tables.workerJobs) (claims : claimsJob job.jobId call = true)
    (member : run ∈ result.tables.simulations) (present : job.runId = some run.runId) :
    run.status ≠ .queued := by
  have after := reachable_coherent (System.Reachable.step reachable step)
  rcases (claimsJob_spends (reachable_coherent reachable) step claims).2 with ⟨view, viewMember, sameJob, left⟩
  rcases List.mem_map.mp viewMember with ⟨later, laterMember, rfl⟩
  rcases step.effect.job_target jobMember with ⟨kept, keptMember, same⟩
  have isKept : later = kept :=
    result.unique.jobId.eq_of_mem laterMember keptMember
      (sameJob.trans (show job.jobId = kept.jobId from (congrArg JobAdmission.jobId same).symm))
  have laterPresent : later.runId = some run.runId := by
    rw [isKept, show kept.runId = job.runId from congrArg JobAdmission.runId same, present]
  rw [run_status_of_job after laterMember member laterPresent]
  intro queued
  exact left (JobStatus.simulationStatus_injective queued)

end Queue
end FederatedIot
