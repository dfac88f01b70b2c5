import FederatedIot.Queue.Acceptance

namespace FederatedIot
namespace Queue

open Foundation Foundation.Relation Foundation.Outcome

/-!
# What the others leave to the holder of a lease

While a lease is live its job is the only active one, so nobody recovers it, claims another
one or settles it with another lease.  Of all that others do, a cancellation of the run alone
reaches the job.
-/

variable {platform : Platform} {store middle result : Store} {now : Instant} {lease : Lease} {job : WorkerJob}
  {runId : String} {status : JobStatus}

/-! ## Operations of others -/

/-- The operation is not one that the holder of the lease makes. -/
def Elsewhere (lease : Lease) : Operation -> Prop
  | .heartbeat _ other _ | .reportEvent other _ | .completePreflight other _ _ _ | .confirmCancel other
  | .failJob other _ _ | .commitSimulation other _ => other ≠ lease
  | _ => True

/-- The lease of the job has not run out. -/
def Live (lease : Lease) (now : Instant) (store : Store) : Prop :=
  ∀ job ∈ store.tables.workerJobs, job.jobId = lease.jobId -> job.status.isActive = true -> job.leaseLive now = true

/-- Every lease was live once. -/
theorem exists_live (lease : Lease) (store : Store) : exists now, Live lease now store := by
  by_cases held : ∃ job ∈ store.tables.workerJobs, job.jobId = lease.jobId ∧ job.status.isActive = true
  · rcases held with ⟨job, member, sameJob, active⟩
    have leased : job.isLeased = true := (store.checks.workerJobs job member).2.symm.trans active
    cases expiry : job.leaseExpiresAt with
    | none =>
        rw [WorkerJob.isLeased, expiry, Option.isSome_none, Bool.and_false] at leased
        cases leased
    | some instant =>
        refine ⟨instant - 1, fun other otherMember sameOther _ => ?_⟩
        rw [store.unique.jobId.eq_of_mem otherMember member (sameOther.trans sameJob.symm), WorkerJob.leaseLive, expiry]
        exact decide_eq_true (Int.sub_lt_self instant Int.one_pos)
  · exact ⟨0, fun job member sameJob active => absurd ⟨job, member, sameJob, active⟩ held⟩

/-- The call has cancelled the run, or repeated that. -/
def Call.cancels (runId : String) (call : Call) : Bool :=
  match call.operation, call.outcome with
  | .cancelSimulation other _, .ok _ => other = runId
  | _, _ => false

theorem Call.cancels_iff {call : Call} : call.cancels runId = true ↔
    (exists reason, call.operation = .cancelSimulation runId reason) ∧ exists reply, call.outcome = .ok reply := by
  rcases call with ⟨now, operation, outcome⟩
  constructor
  · intro cancelled
    unfold Call.cancels at cancelled
    split at cancelled
    · next other reason reply isOperation isOutcome =>
        rw [of_decide_eq_true cancelled] at isOperation
        exact ⟨⟨reason, isOperation⟩, reply, isOutcome⟩
    · cases cancelled
  · rintro ⟨⟨reason, rfl⟩, reply, rfl⟩
    exact decide_eq_true rfl

/-! ## What is left -/

/-- The job of the lease, its run and the registered workers are left as they are. -/
structure Leaves (lease : Lease) (runId : String) (store result : Store) : Prop where
  jobs : ∀ job ∈ store.tables.workerJobs, job.jobId = lease.jobId -> job ∈ result.tables.workerJobs
  runs : ∀ row ∈ result.tables.simulations, row.runId = runId -> row ∈ store.tables.simulations
  instances : ∀ row ∈ store.tables.workerInstances, ∃ later ∈ result.tables.workerInstances, later.workerId = row.workerId

namespace Leaves

theorem of_same (jobs : result.tables.workerJobs = store.tables.workerJobs)
    (runs : result.tables.simulations = store.tables.simulations)
    (instances : result.tables.workerInstances = store.tables.workerInstances) : Leaves lease runId store result where
  jobs job member _ := by
    rw [jobs]
    exact member
  runs row member _ := by
    rw [← runs]
    exact member
  instances row member := ⟨row, instances ▸ member, rfl⟩

theorem of_tables (same : result.tables = store.tables) : Leaves lease runId store result := by
  apply of_same <;> rw [same]

theorem trans (before : Leaves lease runId store middle) (after : Leaves lease runId middle result) :
    Leaves lease runId store result where
  jobs job member same := after.jobs job (before.jobs job member same) same
  runs row member same := before.runs row (after.runs row member same) same
  instances row member := by
    rcases before.instances row member with ⟨between, betweenMember, sameWorker⟩
    rcases after.instances between betweenMember with ⟨later, laterMember, sameLater⟩
    exact ⟨later, laterMember, sameLater.trans sameWorker⟩

theorem of_instances {selects : WorkerInstance -> Bool} {assign : WorkerInstance -> WorkerInstance}
    (accepted : updateInstances selects assign store = .ok result) (kept : forall row, (assign row).workerId = row.workerId) :
    Leaves lease runId store result := by
  have tables := (updateInstances_ok_iff.mp accepted).1
  refine ⟨fun job member _ => ?_, fun row member _ => ?_, fun row member => ?_⟩
  · rw [tables]
    exact member
  · rw [tables] at member
    exact member
  · rw [tables]
    exact exists_key_update kept ⟨row, member, rfl⟩

/-- A statement on other jobs. -/
theorem of_jobs {selects : WorkerJob -> Bool} {assign : WorkerJob -> WorkerJob}
    (accepted : updateJobs now selects assign store = .ok result)
    (passed : ∀ job ∈ store.tables.workerJobs, job.jobId = lease.jobId -> selects job = false) :
    Leaves lease runId store result := by
  have tables := (updateJobs_ok_iff.mp accepted).1
  refine ⟨fun job member same => ?_, fun row member _ => ?_, fun row member => ⟨row, ?_, rfl⟩⟩
  · rw [tables]
    exact mem_update_other member (passed job member same)
  · rw [tables] at member
    exact member
  · rw [tables]
    exact member

/-- A statement on other runs. -/
theorem of_runs {selects : Simulation -> Bool} {assign : Simulation -> Simulation}
    (accepted : updateSimulations now selects assign store = .ok result)
    (kept : forall row, (assign row).admission = row.admission)
    (passed : ∀ row ∈ store.tables.simulations, row.runId = runId -> selects row = false) : Leaves lease runId store result := by
  have tables := (updateSimulations_ok_iff.mp accepted).2.1
  refine ⟨fun job member _ => ?_, fun row member same => ?_, fun row member => ⟨row, ?_, rfl⟩⟩
  · rw [tables]
    exact member
  · rw [tables] at member
    rcases mem_update_cases member with ⟨old, oldMember, selected, rfl⟩ | ⟨oldMember, _⟩
    · have sameRun : old.runId = runId := (congrArg RunAdmission.runId (kept old)).symm.trans same
      rw [passed old oldMember sameRun] at selected
      cases selected
    · exact oldMember
  · rw [tables]
    exact member

theorem of_events {values : List EventValues} (accepted : insertSimulationEvents now values store = .ok result) :
    Leaves lease runId store result := by
  have tables := (insertSimulationEvents_ok_iff.mp accepted).1
  apply of_same <;> rw [tables]

theorem of_workerEvents {values : List WorkerEventValues} (accepted : insertWorkerJobEvents now values store = .ok result) :
    Leaves lease runId store result := by
  have tables := (insertWorkerJobEvents_ok_iff.mp accepted).1
  apply of_same <;> rw [tables]

end Leaves

/-! ## A job that is held -/

/-- Only the job that is held is active, and only by its lease is it held. -/
theorem HeldBy.alone (member : job ∈ store.tables.workerJobs) (held : HeldBy lease runId status job)
    (active : status.isActive = true) {other : WorkerJob} (otherMember : other ∈ store.tables.workerJobs)
    (otherActive : other.status.isActive = true) : other = job :=
  store.unique.jobSlot.eq_of_mem otherMember member otherActive (by rw [held.status]; exact active)

theorem Lease.eq_of_holds {other : Lease} (holds : other.holds now job = true) (held : HeldBy lease runId status job) :
    other = lease := by
  unfold Lease.holds at holds
  simp only [Bool.and_eq_true, decide_eq_true_eq] at holds
  rcases other with ⟨jobId, attemptId, leaseToken⟩
  rcases lease with ⟨ownJob, ownAttempt, ownToken⟩
  have jobs : jobId = ownJob := holds.1.1.1.symm.trans held.jobId
  have attempts : attemptId = ownAttempt := Option.some.inj (holds.1.1.2.symm.trans held.attemptId)
  have tokens : leaseToken = ownToken := Option.some.inj (holds.1.2.symm.trans held.leaseToken)
  rw [jobs, attempts, tokens]

/-- Another lease selects no active job. -/
theorem HeldBy.not_selected (member : job ∈ store.tables.workerJobs) (held : HeldBy lease runId status job)
    (active : status.isActive = true) {other : Lease} (different : other ≠ lease) {selects : WorkerJob -> Bool}
    (needs : forall row, selects row = true -> other.holds now row = true ∧ row.status.isActive = true) :
    ∀ row ∈ store.tables.workerJobs, selects row = false := by
  intro row rowMember
  rw [Bool.eq_false_iff]
  intro selected
  rcases needs row selected with ⟨holds, rowActive⟩
  rw [held.alone member active rowMember rowActive] at holds
  exact different (Lease.eq_of_holds holds held)

/-- Nothing is recovered while the lease is live. -/
theorem workerRecoverExpiredLeases_leaves {reply : Nat} (member : job ∈ store.tables.workerJobs)
    (held : HeldBy lease runId status job) (active : status.isActive = true) (live : job.leaseLive now = true)
    (accepted : workerRecoverExpiredLeases now store = .ok (result, reply)) : Leaves lease runId store result := by
  have passed : ∀ row ∈ store.tables.workerJobs, isExpired now row = false := by
    intro row rowMember
    rw [Bool.eq_false_iff]
    intro expired
    unfold isExpired at expired
    rcases Bool.and_eq_true_iff.mp expired with ⟨rowActive, lapsed⟩
    rw [held.alone member active rowMember rowActive] at lapsed
    unfold WorkerJob.leaseLive at live
    unfold WorkerJob.leaseExpired at lapsed
    cases expiry : job.leaseExpiresAt with
    | none =>
        rw [expiry] at live
        cases live
    | some instant =>
        rw [expiry] at live lapsed
        have before : now < instant := of_decide_eq_true live
        have after : instant ≤ now := of_decide_eq_true lapsed
        exact absurd after (not_le.mpr before)
  have nothing : expiredCandidates now store.tables = [] := by
    unfold expiredCandidates
    rw [List.map_eq_nil_iff, List.filter_eq_nil_iff]
    intro row rowMember expired
    rw [passed row rowMember] at expired
    cases expired
  unfold workerRecoverExpiredLeases at accepted
  simp only [nothing, bind_ok_iff] at accepted
  rcases accepted with ⟨_, _, released, releasedAccepted, reported, reportedAccepted, invalidated,
    invalidatedAccepted, settled, settledAccepted, emitted, emittedAccepted, accepted⟩
  have invalidatedTables := updateDatasets_none invalidatedAccepted fun dataset _ =>
    Bool.and_false (decide (dataset.status = .validating))
  have settledTables := updateSimulations_none settledAccepted fun row _ => Bool.and_false row.status.hasStage
  rw [if_neg (by decide)] at accepted
  cases accepted
  exact (((Leaves.of_tables (updateJobs_none releasedAccepted passed)).trans (Leaves.of_workerEvents reportedAccepted)).trans
    ((Leaves.of_tables invalidatedTables).trans (Leaves.of_tables settledTables))).trans (Leaves.of_events emittedAccepted)

/-! ## Admissions -/

/-- A new job and a new run are not those of the lease. -/
theorem Leaves.of_admission {jobs : List WorkerJob} {runs : List Simulation} (member : job ∈ store.tables.workerJobs)
    (held : HeldBy lease runId status job) (workerJobs : result.tables.workerJobs = store.tables.workerJobs ++ jobs)
    (simulations : result.tables.simulations = store.tables.simulations ++ runs)
    (instances : result.tables.workerInstances = store.tables.workerInstances) : Leaves lease runId store result := by
  refine ⟨fun job member _ => ?_, fun row rowMember same => ?_, fun row rowMember => ⟨row, instances ▸ rowMember, rfl⟩⟩
  · rw [workerJobs]
    exact List.mem_append_left jobs member
  · rcases store.foreign.jobRun job member runId held.runId with ⟨own, ownMember, sameOwn⟩
    have kept : own ∈ result.tables.simulations := by
      rw [simulations]
      exact List.mem_append_left runs ownMember
    rw [result.unique.runId.eq_of_mem rowMember kept (same.trans sameOwn.symm)]
    exact ownMember

theorem registerDataset_leaves {clock : Instant} {identifiers : Identifiers} {input : DatasetRegistration}
    {value : RegisteredDataset} (member : job ∈ store.tables.workerJobs) (held : HeldBy lease runId status job)
    (accepted : registerDataset platform now clock identifiers input store = .ok (result, value)) :
    Leaves lease runId store result := by
  rcases registerDataset_admits accepted with ⟨other, admits, _⟩
  refine Leaves.of_admission member held admits.jobs (admits.runs.trans (List.append_nil _).symm) ?_
  simp only [registerDataset, bind_ok_iff, require_ok_iff, exists_const, Fault.ofPg_ok_iff, pure_ok_iff,
    Prod.mk.injEq, insertDataset_ok_iff, insertJob_ok_iff] at accepted
  rcases accepted with ⟨_, _, _, registered, ⟨registeredTables, _⟩, enqueued, ⟨enqueuedTables, _⟩, rfl, _⟩
  rw [enqueuedTables, registeredTables]
  rfl

theorem createSimulation_leaves {clock : Instant} {identifiers : Identifiers} {key : String}
    {request : CreateSimulationRequest} {record : SimulationRecord} {replayed : Bool}
    (member : job ∈ store.tables.workerJobs) (held : HeldBy lease runId status job)
    (accepted : createSimulation platform now clock identifiers key request store = .ok (result, record, replayed)) :
    Leaves lease runId store result := by
  rcases createSimulation_admits accepted with ⟨_, rfl⟩ | ⟨rfl, run, other, admits, _⟩
  · exact Leaves.of_tables rfl
  refine Leaves.of_admission member held admits.jobs admits.runs ?_
  rw [createSimulation, bind_ok_iff] at accepted
  rcases accepted with ⟨_, _, accepted⟩
  rw [createSimulationTx] at accepted
  split at accepted
  · simp only [bind_ok_iff, pure_ok_iff, Prod.mk.injEq] at accepted
    rcases accepted with ⟨_, _, _, _, _, _, impossible⟩
    cases impossible
  · simp only [bind_ok_iff, ofStable_ok_iff, pure_ok_iff, Prod.mk.injEq] at accepted
    rcases accepted with ⟨inputs, _, ⟨admitted, _⟩, admittedAccepted, rfl, rfl, _⟩
    simp only [admitRun, bind_ok_iff, require_ok_iff, exists_const, Fault.ofPg_ok_iff, Fault.ofText_ok_iff,
      pure_ok_iff, Prod.mk.injEq] at admittedAccepted
    rcases admittedAccepted with ⟨snapshot, _, _, envelope, _, simulated, simulatedAccepted, frozen,
      frozenAccepted, enqueued, enqueuedAccepted, reported, reportedAccepted, announced,
      announcedAccepted, keyed, keyedAccepted, _, _, rfl, _⟩
    rw [(insertIdempotencyKey_ok_iff.mp keyedAccepted).1, (emitQueuePositionEvents_ok_iff.mp announcedAccepted).1,
      (insertSimulationEvents_ok_iff.mp reportedAccepted).1, (insertJob_ok_iff.mp enqueuedAccepted).1,
      (insertSimulationSnapshot_ok_iff.mp frozenAccepted).1, (insertSimulation_ok_iff.mp simulatedAccepted).1]
    rfl

/-! ## Cancellations -/

/-- The cancellation of another run. -/
theorem cancelSimulation_leaves {other reason : String} {record : SimulationRecord} (different : other ≠ runId)
    (member : job ∈ store.tables.workerJobs) (held : HeldBy lease runId status job)
    (accepted : cancelSimulation now other reason store = .ok (result, record)) : Leaves lease runId store result := by
  have onlyJob : ∀ row ∈ store.tables.workerJobs, row.jobId = lease.jobId -> row.runId ≠ some other := by
    intro row rowMember same present
    rw [store.unique.jobId.eq_of_mem rowMember member (same.trans held.jobId.symm), held.runId] at present
    exact different (Option.some.inj present).symm
  have passedJobs (wanted : JobStatus) : ∀ row ∈ store.tables.workerJobs, row.jobId = lease.jobId ->
      (decide (row.runId = some other) && decide (row.status = wanted)) = false := by
    intro row rowMember same
    rw [decide_eq_false (onlyJob row rowMember same), Bool.false_and]
  have passedRuns : ∀ row ∈ store.tables.simulations, row.runId = runId -> decide (row.runId = other) = false := by
    intro row _ same
    exact decide_eq_false fun wrong => different (wrong.symm.trans same)
  unfold cancelSimulation at accepted
  rw [bind_ok_iff] at accepted
  rcases accepted with ⟨found, _, accepted⟩
  split at accepted
  · simp only [bind_ok_iff, Fault.ofPg_ok_iff, pure_ok_iff, Prod.mk.injEq] at accepted
    rcases accepted with ⟨announced, announcedAccepted, rfl, _⟩
    simp only [cancelQueuedRun, bind_ok_iff] at announcedAccepted
    rcases announcedAccepted with ⟨cancelled, isCancelled, released, isReleased, reported, isReported, isAnnounced⟩
    have jobs : cancelled.tables.workerJobs = store.tables.workerJobs := by
      rw [(updateSimulations_ok_iff.mp isCancelled).2.1]
    exact ((Leaves.of_runs isCancelled (fun _ => rfl) passedRuns).trans
      (Leaves.of_jobs isReleased (by rw [jobs]; exact passedJobs .queued))).trans
        ((Leaves.of_events isReported).trans (Leaves.of_events isAnnounced))
  · simp only [bind_ok_iff, Fault.ofPg_ok_iff, pure_ok_iff, Prod.mk.injEq] at accepted
    rcases accepted with ⟨reported, reportedAccepted, rfl, _⟩
    simp only [cancelRunningRun, bind_ok_iff] at reportedAccepted
    rcases reportedAccepted with ⟨requested, isRequested, cancelling, isCancelling, isReported⟩
    have jobs : requested.tables.workerJobs = store.tables.workerJobs := by
      rw [(updateSimulations_ok_iff.mp isRequested).2.1]
    exact ((Leaves.of_runs isRequested (fun _ => rfl) passedRuns).trans
      (Leaves.of_jobs isCancelling (by rw [jobs]; exact passedJobs .running))).trans (Leaves.of_events isReported)
  · cases accepted
    exact Leaves.of_tables rfl
  · cases accepted
    exact Leaves.of_tables rfl
  · cases accepted

/-- The cancellation of the run of the lease. -/
theorem cancelSimulation_requests {reason : String} {record : SimulationRecord} (coherent : store.view.Coherent)
    (member : job ∈ store.tables.workerJobs) (held : HeldBy lease runId status job) (active : status.isActive = true)
    (accepted : cancelSimulation now runId reason store = .ok (result, record)) :
    (∃ later ∈ result.tables.workerJobs, HeldBy lease runId .cancelling later) ∧
      ∀ row ∈ store.tables.workerInstances, ∃ later ∈ result.tables.workerInstances, later.workerId = row.workerId := by
  unfold cancelSimulation at accepted
  rw [bind_ok_iff] at accepted
  rcases accepted with ⟨found, foundAccepted, accepted⟩
  rcases simulationById_row foundAccepted with ⟨row, rowMember, sameRun, sameStatus⟩
  rw [sameStatus, run_status_of_job coherent member rowMember (held.runId.trans (congrArg some sameRun.symm)),
    held.status] at accepted
  cases status with
  | running =>
      simp only [JobStatus.simulationStatus, bind_ok_iff, Fault.ofPg_ok_iff, pure_ok_iff, Prod.mk.injEq] at accepted
      rcases accepted with ⟨reported, reportedAccepted, rfl, _⟩
      simp only [cancelRunningRun, bind_ok_iff] at reportedAccepted
      rcases reportedAccepted with ⟨requested, isRequested, cancelling, isCancelling, isReported⟩
      have requestedTables := (updateSimulations_ok_iff.mp isRequested).2.1
      have cancellingTables := (updateJobs_ok_iff.mp isCancelling).1
      have reportedTables := (insertSimulationEvents_ok_iff.mp isReported).1
      have isJob : job ∈ requested.tables.workerJobs := by
        rw [requestedTables]
        exact member
      refine ⟨⟨{ job with status := .cancelling, updatedAt := now }, ?_, ?_⟩, fun row instanceMember => ⟨row, ?_, rfl⟩⟩
      · rw [reportedTables, cancellingTables]
        exact @mem_update_selected _ _ _ (fun row : WorkerJob => { row with status := .cancelling, updatedAt := now }) _ isJob
          (Bool.and_eq_true_iff.mpr ⟨decide_eq_true held.runId, decide_eq_true held.status⟩)
      · exact ⟨held.jobId, held.attemptId, held.leaseToken, held.jobType, held.runId, rfl⟩
      · rw [reportedTables, cancellingTables, requestedTables]
        exact instanceMember
  | cancelling =>
      simp only [JobStatus.simulationStatus, pure_ok_iff, Prod.mk.injEq] at accepted
      rcases accepted with ⟨rfl, _⟩
      exact ⟨⟨job, member, held⟩, fun row instanceMember => ⟨row, instanceMember, rfl⟩⟩
  | queued | completed | cancelled | failed | failedRecoverable => cases active

/-! ## Every operation of others -/

theorem workerRegisterInstance_leaves {workerId contractVersion workerVersion : String} {reply : Instant}
    (accepted : workerRegisterInstance now workerId contractVersion workerVersion store = .ok (result, reply)) :
    Leaves lease runId store result := by
  simp only [workerRegisterInstance, bind_ok_iff, require_ok_iff, exists_const] at accepted
  rcases accepted with ⟨_, _, _, accepted⟩
  split at accepted
  · simp only [bind_ok_iff, pure_ok_iff, Prod.mk.injEq] at accepted
    rcases accepted with ⟨updated, updatedAccepted, rfl, _⟩
    exact Leaves.of_instances updatedAccepted fun _ => rfl
  · simp only [bind_ok_iff, pure_ok_iff, Prod.mk.injEq, Store.install_ok_iff] at accepted
    rcases accepted with ⟨inserted, ⟨tables, _⟩, rfl, _⟩
    refine ⟨fun job member _ => ?_, fun row member _ => ?_, fun row member => ⟨row, ?_, rfl⟩⟩
    · rw [tables]
      exact member
    · rw [tables] at member
      exact member
    · rw [tables]
      exact List.mem_append_left _ member

theorem workerHeartbeatInstance_leaves {workerId contractVersion : String} {reply : Bool}
    (accepted : workerHeartbeatInstance now workerId contractVersion store = .ok (result, reply)) :
    Leaves lease runId store result := by
  simp only [workerHeartbeatInstance, bind_ok_iff, pure_ok_iff, Prod.mk.injEq] at accepted
  rcases accepted with ⟨updated, updatedAccepted, rfl, _⟩
  exact Leaves.of_instances updatedAccepted fun _ => rfl

section Held

variable (member : job ∈ store.tables.workerJobs) (held : HeldBy lease runId status job) (active : status.isActive = true)

include member held active

theorem workerClaimNextJobForWorker_leaves {workerId attemptId leaseToken : String} {leaseSeconds : Int}
    {reply : Option ClaimedJob} (live : job.leaseLive now = true)
    (accepted : workerClaimNextJobForWorker now workerId attemptId leaseToken leaseSeconds store = .ok (result, reply)) :
    Leaves lease runId store result := by
  simp only [workerClaimNextJobForWorker, bind_ok_iff, require_ok_iff, exists_const] at accepted
  rcases accepted with ⟨_, _, seen, isSeen, _, accepted⟩
  simp only [requireScheduler_ok_iff, exists_const] at accepted
  rcases accepted with ⟨_, ⟨recovered, count⟩, isRecovered, accepted⟩
  have marked : Leaves lease runId store seen := Leaves.of_instances isSeen fun _ => rfl
  have spared := marked.trans (workerRecoverExpiredLeases_leaves (marked.jobs job member held.jobId) held active live isRecovered)
  have waits : (recovered.tables.workerJobs.any fun job => job.status.isActive && job.leaseLive now) = true :=
    List.any_eq_true.mpr ⟨job, spared.jobs job member held.jobId, by rw [held.status, active, live]; rfl⟩
  rw [if_pos waits] at accepted
  cases accepted
  exact spared

theorem workerHeartbeatForWorker_leaves {workerId : String} {other : Lease} {leaseSeconds : Int} {reply : Bool}
    (different : other ≠ lease)
    (accepted : workerHeartbeatForWorker now workerId other leaseSeconds store = .ok (result, reply)) :
    Leaves lease runId store result := by
  simp only [workerHeartbeatForWorker, bind_ok_iff, require_ok_iff, exists_const] at accepted
  rcases accepted with ⟨_, seen, isSeen, accepted⟩
  have marked : Leaves lease runId store seen := Leaves.of_instances isSeen fun _ => rfl
  split at accepted
  · rw [bind_ok_iff] at accepted
    rcases accepted with ⟨renewed, isRenewed, accepted⟩
    have none := held.not_selected (marked.jobs job member held.jobId) active different
      (fun row selected => Bool.and_eq_true_iff.mp selected : forall row : WorkerJob,
        (other.holds now row && row.status.isActive) = true -> other.holds now row = true ∧ row.status.isActive = true)
    have nobody : (seen.tables.workerJobs.any fun job => other.holds now job && job.status.isActive) = false := by
      rw [List.any_eq_false]
      intro row rowMember
      rw [none row rowMember]
      exact Bool.false_ne_true
    rw [nobody, if_neg Bool.false_ne_true] at accepted
    cases accepted
    exact marked.trans (Leaves.of_tables (updateJobs_none isRenewed none))
  · cases accepted
    exact marked

/-- What others do leaves the job alone, unless it is the cancellation of the run. -/
theorem execute_leaves {operation : Operation} {reply : Reply} (live : job.leaseLive now = true)
    (elsewhere : Elsewhere lease operation) (different : forall reason, operation ≠ .cancelSimulation runId reason)
    (accepted : execute platform now operation store = .ok (result, reply)) : Leaves lease runId store result := by
  have unselected {other : Lease} (apart : other ≠ lease) {selects : WorkerJob -> Bool}
      (needs : forall row, selects row = true -> other.holds now row = true ∧ row.status.isActive = true) :
      selectJob? selects store = none := selectJob?_none (held.not_selected member active apart needs)
  cases operation with
  | registerDataset clock identifiers input =>
      rcases answer_ok_iff.mp accepted with ⟨_, done, _⟩
      exact registerDataset_leaves member held done
  | createSimulation clock identifiers key request =>
      rcases answer_ok_iff.mp accepted with ⟨⟨record, replayed⟩, done, _⟩
      exact createSimulation_leaves member held done
  | cancelSimulation other reason =>
      rcases answer_ok_iff.mp accepted with ⟨_, done, _⟩
      exact cancelSimulation_leaves (fun same => different reason (by rw [same])) member held done
  | saveParameterProfile row =>
      rcases answer_ok_iff.mp accepted with ⟨_, done, _⟩
      simp only [bind_ok_iff, Fault.ofPg_ok_iff, insertParameterProfile_ok_iff] at done
      rcases done with ⟨saved, ⟨tables, _⟩, same⟩
      cases same
      apply Leaves.of_same <;> rw [tables]
  | saveLoadMapping row =>
      rcases answer_ok_iff.mp accepted with ⟨_, done, _⟩
      simp only [bind_ok_iff, Fault.ofPg_ok_iff, insertLoadMappingProfile_ok_iff] at done
      rcases done with ⟨saved, ⟨tables, _⟩, same⟩
      cases same
      apply Leaves.of_same <;> rw [tables]
  | registerInstance workerId contractVersion workerVersion =>
      rcases answer_ok_iff.mp accepted with ⟨_, done, _⟩
      exact workerRegisterInstance_leaves (Fault.ofPg_ok_iff.mp done)
  | heartbeatInstance workerId contractVersion =>
      rcases answer_ok_iff.mp accepted with ⟨_, done, _⟩
      exact workerHeartbeatInstance_leaves (Fault.ofPg_ok_iff.mp done)
  | claim workerId attemptId leaseToken leaseSeconds =>
      rcases answer_ok_iff.mp accepted with ⟨_, done, _⟩
      exact workerClaimNextJobForWorker_leaves member held active live (Fault.ofPg_ok_iff.mp done)
  | heartbeat workerId other leaseSeconds =>
      rcases answer_ok_iff.mp accepted with ⟨_, done, _⟩
      exact workerHeartbeatForWorker_leaves member held active elsewhere (Fault.ofPg_ok_iff.mp done)
  | reportEvent other event =>
      rcases answer_ok_iff.mp accepted with ⟨_, done, _⟩
      have nothing := Fault.ofPg_ok_iff.mp done
      rw [workerReportEvent, unselected elsewhere fun row selected => Bool.and_eq_true_iff.mp selected] at nothing
      cases nothing
      exact Leaves.of_tables rfl
  | completePreflight other inputSha256 summary summarySha256 =>
      rcases answer_ok_iff.mp accepted with ⟨_, done, _⟩
      have nothing := Fault.ofPg_ok_iff.mp done
      rw [workerCompletePreflight, unselected elsewhere fun row selected => by
        simp only [Bool.and_eq_true, decide_eq_true_eq] at selected
        exact ⟨selected.1.1, by rw [selected.2]; rfl⟩] at nothing
      cases nothing
      exact Leaves.of_tables rfl
  | confirmCancel other =>
      rcases answer_ok_iff.mp accepted with ⟨_, done, _⟩
      have nothing := Fault.ofPg_ok_iff.mp done
      rw [workerConfirmCancel, unselected elsewhere fun row selected => by
        simp only [Bool.and_eq_true, decide_eq_true_eq] at selected
        exact ⟨selected.1, by rw [selected.2]; rfl⟩] at nothing
      cases nothing
      exact Leaves.of_tables rfl
  | failJob other error recoverable =>
      rcases answer_ok_iff.mp accepted with ⟨_, done, _⟩
      have nothing := Fault.ofPg_ok_iff.mp done
      rw [workerFailJob, bind_ok_iff] at nothing
      rcases nothing with ⟨_, _, nothing⟩
      rw [unselected elsewhere fun row selected => Bool.and_eq_true_iff.mp selected] at nothing
      cases nothing
      exact Leaves.of_tables rfl
  | commitSimulation other request =>
      rcases answer_ok_iff.mp accepted with ⟨_, done, _⟩
      have nothing := Fault.ofPg_ok_iff.mp done
      rw [workerCommitSimulation, unselected elsewhere fun row selected => by
        simp only [Bool.and_eq_true, decide_eq_true_eq] at selected
        exact ⟨selected.1.1, by rw [selected.2]; rfl⟩] at nothing
      cases nothing
      exact Leaves.of_tables rfl
  | recoverExpiredLeases =>
      rcases answer_ok_iff.mp accepted with ⟨_, done, _⟩
      exact workerRecoverExpiredLeases_leaves member held active live (Fault.ofPg_ok_iff.mp done)

end Held

end Queue
end FederatedIot
