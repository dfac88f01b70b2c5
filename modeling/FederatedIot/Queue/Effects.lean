import FederatedIot.Queue.Refinement

namespace FederatedIot
namespace Queue

open Foundation Foundation.Relation Foundation.Outcome

/-!
# What each transaction does to the lifecycle

One theorem for each transaction: if it commits on a store with coherent
records, the view moves by lifecycle steps.
-/

variable {store result : Store} {now : Instant}

/-! ## Rows of coherent stores -/

/-- A run has the status of its job. -/
theorem run_status_of_job (coherent : store.view.Coherent) {job : WorkerJob}
    (jobMember : job ∈ store.tables.workerJobs) {row : Simulation}
    (member : row ∈ store.tables.simulations) (same : job.runId = some row.runId) :
    row.status = job.status.simulationStatus :=
  coherent.agreement job.view (List.mem_map_of_mem jobMember) row.view (List.mem_map_of_mem member)
    same

/-- The dataset of a preflight job has the status that goes with the job. -/
theorem dataset_status_of_job (coherent : store.view.Coherent) {job : WorkerJob}
    (jobMember : job ∈ store.tables.workerJobs) (absent : job.runId = none) {dataset : Dataset}
    (member : dataset ∈ store.tables.datasets) (same : job.datasetId = dataset.datasetId) :
    dataset.status = View.preflightDatasetStatus job.status :=
  coherent.validation job.view (List.mem_map_of_mem jobMember) dataset.view
    (List.mem_map_of_mem member) absent same

theorem preflight_not_cancelling (coherent : store.view.Coherent) {job : WorkerJob}
    (jobMember : job ∈ store.tables.workerJobs) (absent : job.runId = none) :
    job.status ≠ .cancelling :=
  coherent.preflightStatus job.view (List.mem_map_of_mem jobMember) absent

theorem guard_eq {guard : Bool} {condition : Prop} [Decidable condition]
    (same : guard = true ↔ condition) : guard = decide condition := by
  by_cases holds : condition
  · rw [decide_eq_true holds]
    exact same.mpr holds
  · rw [decide_eq_false holds]
    exact Bool.eq_false_iff.mpr fun isTrue => holds (same.mp isTrue)

theorem isUnleased_of_job (coherent : store.view.Coherent) {job : WorkerJob}
    (jobMember : job ∈ store.tables.workerJobs) : job.isUnleased = !job.status.isActive :=
  coherent.leases job.view (List.mem_map_of_mem jobMember)

/-- Settling a job clears its lease. -/
theorem settle_view {status : JobStatus} (terminal : status.isTerminal = true) (job : WorkerJob) :
    (job.settle status).view = View.advanced status job.view := by
  cases status with
  | completed | cancelled | failed | failedRecoverable => rfl
  | queued | running | cancelling => cases terminal

theorem Lease.holds_jobId {lease : Lease} {job : WorkerJob} (holds : lease.holds now job = true) :
    job.jobId = lease.jobId := by
  unfold Lease.holds at holds
  simp only [Bool.and_eq_true, decide_eq_true_eq] at holds
  exact holds.1.1.1

theorem Lease.holds_attemptId {lease : Lease} {job : WorkerJob}
    (holds : lease.holds now job = true) : job.attemptId = some lease.attemptId := by
  unfold Lease.holds at holds
  simp only [Bool.and_eq_true, decide_eq_true_eq] at holds
  exact holds.1.1.2

/-! ## Transactions that leave the view alone -/

theorem recordHeartbeat_view {jobId : String} {reply : Bool}
    (accepted : recordHeartbeat now jobId store = .ok (result, reply)) :
    result.view = store.view := by
  unfold recordHeartbeat at accepted
  simp only [bind_ok_iff, pure_ok_iff, Prod.mk.injEq] at accepted
  rcases accepted with ⟨beaten, beatenAccepted, reported, reportedAccepted, emitted,
    emittedAccepted, rfl, _⟩
  rw [insertSimulationEvents_view emittedAccepted, insertWorkerJobEvents_view reportedAccepted,
    updateSimulations_view_eq beatenAccepted fun _ => rfl]

theorem workerHeartbeatForWorker_view {workerId : String} {lease : Lease} {leaseSeconds : Int}
    {reply : Bool}
    (accepted : workerHeartbeatForWorker now workerId lease leaseSeconds store = .ok (result, reply)) :
    result.view = store.view := by
  unfold workerHeartbeatForWorker at accepted
  simp only [bind_ok_iff, require_ok_iff, exists_const] at accepted
  rcases accepted with ⟨_, seen, seenAccepted, accepted⟩
  have seenView := updateInstances_view seenAccepted
  split at accepted
  · rw [bind_ok_iff] at accepted
    rcases accepted with ⟨renewed, renewedAccepted, accepted⟩
    have renewedView := updateJobs_view_eq renewedAccepted fun job selected => by
      rw [Bool.and_eq_true] at selected
      unfold WorkerJob.view WorkerJob.isUnleased
      rw [Lease.holds_attemptId selected.1]
      rfl
    split at accepted
    · rw [recordHeartbeat_view accepted, renewedView, seenView]
    · cases accepted
      rw [renewedView, seenView]
  · cases accepted
    exact seenView

theorem recordEvent_view {job : WorkerJob} {event : Json} {agent : Option Int} {reply : Bool}
    (accepted : recordEvent now job event agent store = .ok (result, reply)) :
    result.view = store.view := by
  unfold recordEvent at accepted
  rw [bind_ok_iff] at accepted
  rcases accepted with ⟨reported, reportedAccepted, accepted⟩
  have reportedView := insertWorkerJobEvents_view reportedAccepted
  split at accepted
  · cases accepted
    exact reportedView
  · simp only [bind_ok_iff, pure_ok_iff, Prod.mk.injEq] at accepted
    rcases accepted with ⟨staged, stagedAccepted, emitted, emittedAccepted, rfl, _⟩
    rw [insertSimulationEvents_view emittedAccepted,
      updateSimulations_view_eq stagedAccepted fun _ => rfl, reportedView]

theorem workerReportEvent_view {platform : Platform} {lease : Lease} {event : Json} {reply : Bool}
    (accepted : workerReportEvent platform now lease event store = .ok (result, reply)) :
    result.view = store.view := by
  unfold workerReportEvent at accepted
  split at accepted
  · cases accepted
    rfl
  · simp only [bind_ok_iff, require_ok_iff, exists_const] at accepted
    rcases accepted with ⟨_, _, agent, _, recorded⟩
    exact recordEvent_view recorded

theorem workerRegisterInstance_view {workerId contractVersion workerVersion : String}
    {reply : Instant}
    (accepted : workerRegisterInstance now workerId contractVersion workerVersion store =
      .ok (result, reply)) : result.view = store.view := by
  unfold workerRegisterInstance at accepted
  simp only [bind_ok_iff, require_ok_iff, exists_const] at accepted
  rcases accepted with ⟨_, _, _, accepted⟩
  split at accepted
  · simp only [bind_ok_iff, pure_ok_iff, Prod.mk.injEq] at accepted
    rcases accepted with ⟨updated, updatedAccepted, rfl, _⟩
    exact updateInstances_view updatedAccepted
  · simp only [bind_ok_iff, pure_ok_iff, Prod.mk.injEq, Store.install_ok_iff] at accepted
    rcases accepted with ⟨inserted, ⟨tables, _⟩, rfl, _⟩
    apply view_eq_of_tables <;> rw [tables]

theorem workerHeartbeatInstance_view {workerId contractVersion : String} {reply : Bool}
    (accepted : workerHeartbeatInstance now workerId contractVersion store = .ok (result, reply)) :
    result.view = store.view := by
  unfold workerHeartbeatInstance at accepted
  simp only [bind_ok_iff, pure_ok_iff, Prod.mk.injEq] at accepted
  rcases accepted with ⟨updated, updatedAccepted, rfl, _⟩
  exact updateInstances_view updatedAccepted

/-! ## The selected job -/

theorem selectJob?_some {selects : WorkerJob -> Bool} {job : WorkerJob}
    (selected : selectJob? selects store = some job) :
    job ∈ store.tables.workerJobs ∧ selects job = true :=
  ⟨List.mem_of_find?_eq_some selected, List.find?_some selected⟩

/-- The next queued job is a queued job with the least sequence number. -/
theorem nextQueuedJob?_some {jobs : List WorkerJob} {job : WorkerJob}
    (selected : nextQueuedJob? jobs = some job) :
    job ∈ jobs ∧ job.status = .queued ∧
      ∀ other ∈ jobs, other.status = .queued -> job.enqueueSeq ≤ other.enqueueSeq := by
  unfold nextQueuedJob? at selected
  rw [List.head?_eq_some_iff] at selected
  rcases selected with ⟨rest, sorted⟩
  have ordered := List.pairwise_insertionSort
    (fun left right : WorkerJob => left.enqueueSeq ≤ right.enqueueSeq)
    (jobs.filter fun job => job.status = .queued)
  rw [sorted, List.pairwise_cons] at ordered
  have inSorted : forall other : WorkerJob, other ∈ job :: rest ↔
      other ∈ jobs ∧ other.status = .queued := by
    intro other
    rw [← sorted, List.mem_insertionSort, List.mem_filter, decide_eq_true_eq]
  have first := (inSorted job).mp List.mem_cons_self
  refine ⟨first.1, first.2, ?_⟩
  intro other member queued
  rcases List.mem_cons.mp ((inSorted other).mpr ⟨member, queued⟩) with same | later
  · rw [same]
  · exact ordered.1 other later

/-! ## Advances of one job -/

/-- How a run's record follows a job that settles without a result set. -/
def withoutResults (status : JobStatus) (run : RunView) : RunView :=
  { run with status := status.simulationStatus, artifactState := .incomplete }

theorem publishes_withoutResults {artifacts : List ArtifactView} {runId : String}
    {status : JobStatus} (incomplete : status ≠ .completed) :
    View.Publishes artifacts runId status (withoutResults status) where
  sameRun := fun _ => rfl
  sameStatus := fun _ => rfl
  committed := fun _ same => absurd same incomplete
  uncommitted := fun _ _ _ same => (by cases same)
  required := fun same => absurd same incomplete

/-- How a run's record follows a job that does not settle. -/
def withStatus (status : JobStatus) (run : RunView) : RunView :=
  { run with status := status.simulationStatus }

theorem publishes_withStatus {artifacts : List ArtifactView} {runId : String}
    {status : JobStatus} (incomplete : status ≠ .completed) :
    View.Publishes artifacts runId status (withStatus status) where
  sameRun := fun _ => rfl
  sameStatus := fun _ => rfl
  committed := fun _ same => absurd same incomplete
  uncommitted := fun _ _ uncommitted => uncommitted
  required := fun same => absurd same incomplete

theorem advanceRun_steps {job : WorkerJob} {runId : String} {status : JobStatus}
    {assign : RunView -> RunView} (member : job ∈ store.tables.workerJobs)
    (present : job.runId = some runId) (advance : View.RunAdvance job.status status)
    (publishes : View.Publishes store.view.artifacts runId status assign)
    (resultView : result.view = (store.view.setJob job.jobId status).setRun runId assign) :
    Steps store.view result.view := by
  apply Steps.of_move
  have move := View.Move.advanceRun store.view job.view runId status assign []
    (List.mem_map_of_mem member) present advance (by rw [List.append_nil]; exact publishes)
  rw [resultView]
  unfold View.addArtifacts at move
  rw [List.append_nil] at move
  exact move

theorem advancePreflight_steps {job : WorkerJob} {status : JobStatus}
    (member : job ∈ store.tables.workerJobs) (absent : job.runId = none)
    (advance : View.PreflightAdvance job.status status)
    (resultView : result.view = (store.view.setJob job.jobId status).setDataset job.datasetId
      (View.preflightDatasetStatus status)) :
    Steps store.view result.view := by
  apply Steps.of_move
  rw [resultView]
  exact View.Move.advancePreflight store.view job.view status (List.mem_map_of_mem member) absent
    advance

/-- A job has a run exactly when it is a simulation. -/
theorem runId_none_of_preflight {job : WorkerJob} (member : job ∈ store.tables.workerJobs)
    (kind : job.jobType = .datasetPreflight) : job.runId = none := by
  have typed := (store.checks.workerJobs job member).1
  cases present : job.runId with
  | none => rfl
  | some runId =>
      rw [kind, present] at typed
      cases typed.mpr rfl

theorem preflight_of_runId_none {job : WorkerJob} (member : job ∈ store.tables.workerJobs)
    (absent : job.runId = none) : job.jobType = .datasetPreflight := by
  have typed := (store.checks.workerJobs job member).1
  cases kind : job.jobType with
  | datasetPreflight => rfl
  | simulation =>
      rw [kind, absent] at typed
      cases typed.mp rfl

theorem runId_some_of_simulation {job : WorkerJob} (member : job ∈ store.tables.workerJobs)
    (kind : job.jobType = .simulation) : ∃ runId, job.runId = some runId :=
  Option.isSome_iff_exists.mp ((store.checks.workerJobs job member).1.mp kind)

/-- An active preflight job is running. -/
theorem running_of_active_preflight (coherent : store.view.Coherent) {job : WorkerJob}
    (member : job ∈ store.tables.workerJobs) (absent : job.runId = none)
    (active : job.status.isActive = true) : job.status = .running := by
  have notCancelling := preflight_not_cancelling coherent member absent
  cases status : job.status with
  | running => rfl
  | cancelling => exact absurd status notCancelling
  | queued | completed | cancelled | failed | failedRecoverable =>
      rw [status] at active
      cases active

/-- An active job with a run settles as cancelled, or was running. -/
theorem settles {status outcome : JobStatus} (active : status.isActive = true)
    (terminal : outcome.isTerminal = true)
    (honours : status = .cancelling -> outcome = .cancelled) : View.RunAdvance status outcome := by
  cases status with
  | running => exact .settle terminal
  | cancelling =>
      rw [honours rfl]
      exact .confirmCancel
  | queued | completed | cancelled | failed | failedRecoverable => cases active

/-! ## Starting a job -/

theorem startJob_steps {attemptId leaseToken : String} {leaseSeconds : Int} {job : WorkerJob}
    {reply : Option ClaimedJob} (coherent : store.view.Coherent)
    (member : job ∈ store.tables.workerJobs) (queued : job.status = .queued)
    (accepted : startJob now attemptId leaseToken leaseSeconds job store = .ok (result, reply)) :
    Steps store.view result.view := by
  unfold startJob at accepted
  rw [bind_ok_iff] at accepted
  rcases accepted with ⟨claimed, claimedAccepted, accepted⟩
  have claimedView : claimed.view = store.view.setJob job.jobId .running :=
    updateJobs_setJob claimedAccepted (fun _ _ => rfl) fun _ _ _ => rfl
  have claimedTables := (updateJobs_ok_iff.mp claimedAccepted).1
  cases kind : job.jobType with
  | datasetPreflight =>
      rw [kind] at accepted
      simp only [pure_ok_iff, Prod.mk.injEq] at accepted
      rcases accepted with ⟨rfl, _⟩
      have absent := runId_none_of_preflight member kind
      have unchanged : (store.view.setJob job.jobId .running).setDataset job.datasetId
          (View.preflightDatasetStatus .running) = store.view.setJob job.jobId .running := by
        unfold View.setDataset
        rw [update_eq_self]
        intro dataset datasetMember selected
        have status := coherent.validation job.view (List.mem_map_of_mem member) dataset
          datasetMember absent (of_decide_eq_true selected).symm
        change dataset.status = View.preflightDatasetStatus job.status at status
        rw [queued] at status
        change { dataset with status := DatasetStatus.validating } = dataset
        rw [← show dataset.status = DatasetStatus.validating from status]
      refine advancePreflight_steps member absent (by rw [queued]; exact .start) ?_
      rw [claimedView]
      exact unchanged.symm
  | simulation =>
      rw [kind] at accepted
      simp only [bind_ok_iff, require_ok_iff, exists_const, pure_ok_iff, Prod.mk.injEq] at accepted
      rcases accepted with ⟨started, startedAccepted, _, reported, reportedAccepted, announced,
        announcedAccepted, rfl, _⟩
      rcases runId_some_of_simulation member kind with ⟨runId, present⟩
      have startedView : started.view = claimed.view.setRun runId
          (withStatus .running) := by
        refine updateSimulations_setRun startedAccepted ?_ fun _ _ _ => rfl
        intro row rowMember
        rw [claimedTables] at rowMember
        apply guard_eq
        rw [Bool.and_eq_true, decide_eq_true_eq, decide_eq_true_eq, present, Option.some.injEq]
        constructor
        · rintro ⟨same, _⟩
          exact same.symm
        · intro same
          refine ⟨same.symm, ?_⟩
          rw [run_status_of_job coherent member rowMember (by rw [present, same]), queued]
          rfl
      refine advanceRun_steps member present (by rw [queued]; exact .start)
        (publishes_withStatus (by decide)) ?_
      rw [emitQueuePositionEvents_view announcedAccepted,
        insertSimulationEvents_view reportedAccepted, startedView, claimedView]

/-! ## Recovery -/

/-- At most one job is active, so at most one lease has expired. -/
theorem isExpired_eq {job : WorkerJob} (member : job ∈ store.tables.workerJobs)
    (expired : isExpired now job = true) :
    ∀ row ∈ store.tables.workerJobs, isExpired now row = decide (row.jobId = job.jobId) := by
  intro row rowMember
  have active : forall other : WorkerJob, isExpired now other = true ->
      other.status.isActive = true := by
    intro other otherExpired
    unfold isExpired at otherExpired
    exact (Bool.and_eq_true _ _ ▸ otherExpired).1
  apply guard_eq
  constructor
  · intro rowExpired
    rw [store.unique.jobSlot.eq_of_mem rowMember member (active row rowExpired)
      (active job expired)]
  · intro same
    rw [store.unique.jobId.eq_of_mem rowMember member same]
    exact expired

theorem expiredCandidates_one {job : WorkerJob} (member : job ∈ store.tables.workerJobs)
    (expired : isExpired now job = true) :
    expiredCandidates now store.tables = [ExpiredCandidate.of store.tables.simulations job] := by
  unfold expiredCandidates
  rw [store.unique.jobId.filter_eq_singleton member (isExpired_eq member expired)]
  rfl

theorem workerRecoverExpiredLeases_none {reply : Nat}
    (passed : ∀ job ∈ store.tables.workerJobs, isExpired now job = false)
    (accepted : workerRecoverExpiredLeases now store = .ok (result, reply)) :
    result.view = store.view := by
  have nothing : expiredCandidates now store.tables = [] := by
    unfold expiredCandidates
    rw [List.map_eq_nil_iff, List.filter_eq_nil_iff]
    intro job member expired
    rw [passed job member] at expired
    cases expired
  unfold workerRecoverExpiredLeases at accepted
  simp only [nothing, bind_ok_iff] at accepted
  rcases accepted with ⟨_, _, released, releasedAccepted, reported, reportedAccepted, invalidated,
    invalidatedAccepted, settled, settledAccepted, emitted, emittedAccepted, accepted⟩
  have invalidatedTables := updateDatasets_none invalidatedAccepted fun dataset _ =>
    Bool.and_false (decide (dataset.status = .validating))
  have settledTables := updateSimulations_none settledAccepted fun row _ =>
    Bool.and_false row.status.hasStage
  rw [if_neg (by decide)] at accepted
  cases accepted
  rw [insertSimulationEvents_view emittedAccepted, view_of_tables settledTables,
    view_of_tables invalidatedTables, insertWorkerJobEvents_view reportedAccepted,
    view_of_tables (updateJobs_none releasedAccepted passed)]

/-- What recovery does when one lease has expired: the job, and its run or its
dataset, are settled together. -/
theorem workerRecoverExpiredLeases_one {job : WorkerJob} {reply : Nat}
    (coherent : store.view.Coherent) (member : job ∈ store.tables.workerJobs)
    (expired : isExpired now job = true)
    (accepted : workerRecoverExpiredLeases now store = .ok (result, reply)) :
    Steps store.view result.view := by
  have active : job.status.isActive = true := by
    unfold isExpired at expired
    exact (Bool.and_eq_true _ _ ▸ expired).1
  unfold workerRecoverExpiredLeases at accepted
  simp only [expiredCandidates_one member expired, bind_ok_iff] at accepted
  rcases accepted with ⟨_, _, released, releasedAccepted, reported, reportedAccepted, invalidated,
    invalidatedAccepted, settled, settledAccepted, emitted, emittedAccepted, accepted⟩
  rw [if_pos (by simp)] at accepted
  simp only [bind_ok_iff, pure_ok_iff, Prod.mk.injEq] at accepted
  rcases accepted with ⟨announced, announcedAccepted, rfl, _⟩
  have releasedTables := (updateJobs_ok_iff.mp releasedAccepted).1
  have reportedTables := (insertWorkerJobEvents_ok_iff.mp reportedAccepted).1
  have invalidatedTables := (updateDatasets_ok_iff.mp invalidatedAccepted).1
  have sameDatasets : reported.tables.datasets = store.tables.datasets := by
    rw [reportedTables, releasedTables]
  have sameRuns : invalidated.tables.simulations = store.tables.simulations := by
    rw [invalidatedTables, reportedTables, releasedTables]
  have lastView : announced.view = settled.view := by
    rw [emitQueuePositionEvents_view announcedAccepted,
      insertSimulationEvents_view emittedAccepted]
  have terminal : (ExpiredCandidate.of store.tables.simulations job).finalStatus.isTerminal =
      true := by
    unfold ExpiredCandidate.finalStatus
    split <;> rfl
  have releasedView : reported.view = store.view.setJob job.jobId
      (ExpiredCandidate.of store.tables.simulations job).finalStatus := by
    rw [insertWorkerJobEvents_view reportedAccepted]
    refine updateJobs_setJob releasedAccepted (isExpired_eq member expired) ?_
    intro row rowMember same
    rw [store.unique.jobId.eq_of_mem rowMember member same]
    exact settle_view terminal job
  cases present : job.runId with
  | none =>
      have running := running_of_active_preflight coherent member present active
      have requested : isCancellationRequested store.tables.simulations job = false := by
        unfold isCancellationRequested
        rw [running, present, List.any_eq_false.mpr (by simp)]
        rfl
      have outcome : (ExpiredCandidate.of store.tables.simulations job).finalStatus =
          .failedRecoverable := by
        unfold ExpiredCandidate.finalStatus ExpiredCandidate.of
        rw [requested]
        rfl
      have settledView : settled.view = invalidated.view := by
        refine view_of_tables (updateSimulations_none settledAccepted ?_)
        intro row _
        unfold recovers candidateFor? ExpiredCandidate.of
        rw [List.find?_cons_of_neg (by simp [present])]
        exact Bool.and_false row.status.hasStage
      have invalidatedView : invalidated.view =
          reported.view.setDataset job.datasetId .invalid := by
        refine updateDatasets_setDataset invalidatedAccepted ?_ fun _ => rfl
        intro dataset datasetMember
        rw [sameDatasets] at datasetMember
        apply guard_eq
        simp only [ExpiredCandidate.invalidates, ExpiredCandidate.of, requested, List.any_cons,
          List.any_nil, Bool.or_false, Bool.not_false, Bool.and_true, Bool.and_eq_true,
          decide_eq_true_eq]
        constructor
        · rintro ⟨_, _, same⟩
          exact same.symm
        · intro same
          refine ⟨?_, preflight_of_runId_none member present, same.symm⟩
          rw [dataset_status_of_job coherent member present datasetMember same.symm, running]
          rfl
      have advance : View.PreflightAdvance job.status .failedRecoverable := by
        rw [running]
        exact .settle rfl
      refine advancePreflight_steps member present advance ?_
      rw [lastView, settledView, invalidatedView, releasedView, outcome]
      rfl
  | some runId =>
      have invalidatedView : invalidated.view = reported.view := by
        refine view_of_tables (updateDatasets_none invalidatedAccepted ?_)
        intro dataset _
        have kind : job.jobType ≠ .datasetPreflight := by
          intro kind
          rw [runId_none_of_preflight member kind] at present
          cases present
        simp only [ExpiredCandidate.invalidates, ExpiredCandidate.of, List.any_cons, List.any_nil,
          decide_eq_false kind, Bool.false_and, Bool.or_false, Bool.and_false]
      have settledView : settled.view = invalidated.view.setRun runId
          (withoutResults (ExpiredCandidate.of store.tables.simulations job).finalStatus) := by
        refine updateSimulations_setRun settledAccepted ?_ ?_
        · intro row rowMember
          rw [sameRuns] at rowMember
          apply guard_eq
          unfold recovers candidateFor? ExpiredCandidate.of
          rw [Bool.and_eq_true, List.find?_isSome]
          simp only [List.mem_singleton, exists_eq_left, present, Option.some.injEq,
            decide_eq_true_eq]
          constructor
          · rintro ⟨_, same⟩
            exact same.symm
          · intro same
            refine ⟨?_, same.symm⟩
            rw [run_status_of_job coherent member rowMember (by rw [present, same])]
            cases status : job.status <;> rw [status] at active <;> first | rfl | cases active
        · intro row _ same
          unfold candidateFor?
          rw [List.find?_cons_of_pos (by simp [ExpiredCandidate.of, present, same])]
          rfl
      refine advanceRun_steps member present (settles active terminal ?_)
        (publishes_withoutResults ?_) ?_
      · intro cancelling
        unfold ExpiredCandidate.finalStatus ExpiredCandidate.of isCancellationRequested
        rw [cancelling]
        rfl
      · unfold ExpiredCandidate.finalStatus
        split <;> decide
      · rw [lastView, settledView, invalidatedView, releasedView]

theorem workerRecoverExpiredLeases_steps {reply : Nat} (coherent : store.view.Coherent)
    (accepted : workerRecoverExpiredLeases now store = .ok (result, reply)) :
    Steps store.view result.view := by
  by_cases found : ∃ job ∈ store.tables.workerJobs, isExpired now job = true
  · rcases found with ⟨job, member, expired⟩
    exact workerRecoverExpiredLeases_one coherent member expired accepted
  · refine Steps.of_eq (workerRecoverExpiredLeases_none ?_ accepted)
    intro job member
    exact Bool.eq_false_iff.mpr fun expired => found ⟨job, member, expired⟩

/-! ## Claiming -/

theorem workerClaimNextJobForWorker_steps {workerId attemptId leaseToken : String}
    {leaseSeconds : Int} {reply : Option ClaimedJob} (coherent : store.view.Coherent)
    (accepted : workerClaimNextJobForWorker now workerId attemptId leaseToken leaseSeconds store =
      .ok (result, reply)) : Steps store.view result.view := by
  unfold workerClaimNextJobForWorker at accepted
  simp only [bind_ok_iff, require_ok_iff, exists_const] at accepted
  rcases accepted with ⟨_, _, seen, seenAccepted, _, accepted⟩
  simp only [requireScheduler_ok_iff, exists_const] at accepted
  rcases accepted with ⟨_, ⟨recovered, count⟩, recoveredAccepted, accepted⟩
  have seenView := updateInstances_view seenAccepted
  have recovery : Steps store.view recovered.view := by
    rw [← seenView] at coherent ⊢
    exact workerRecoverExpiredLeases_steps coherent recoveredAccepted
  split at accepted
  · cases accepted
    exact recovery
  · split at accepted
    · cases accepted
      exact recovery
    · rename_i job selected
      have next := nextQueuedJob?_some selected
      exact recovery.trans
        (startJob_steps (recovery.coherent coherent) next.1 next.2.1 accepted)

/-! ## Settling -/

theorem workerCompletePreflight_steps {lease : Lease} {inputSha256 summarySha256 : String}
    {summary : Json} {reply : Bool}
    (accepted : workerCompletePreflight now lease inputSha256 summary summarySha256 store =
      .ok (result, reply)) : Steps store.view result.view := by
  unfold workerCompletePreflight at accepted
  split at accepted
  · cases accepted
    exact Steps.refl store.view
  · rename_i job selected
    rcases selectJob?_some selected with ⟨member, guard⟩
    simp only [Bool.and_eq_true, decide_eq_true_eq] at guard
    rcases guard with ⟨⟨holds, kind⟩, running⟩
    simp only [bind_ok_iff, require_ok_iff, exists_const, pure_ok_iff, Prod.mk.injEq] at accepted
    rcases accepted with ⟨validated, validatedAccepted, found, completed, completedAccepted, rfl, _⟩
    have absent := runId_none_of_preflight member kind
    have sameJob := Lease.holds_jobId holds
    have validatedView : validated.view = store.view.setDataset job.datasetId .valid := by
      refine updateDatasets_setDataset validatedAccepted ?_ fun _ => rfl
      intro dataset datasetMember
      apply guard_eq
      simp only [Bool.and_eq_true, decide_eq_true_eq]
      constructor
      · rintro ⟨⟨same, _⟩, _⟩
        exact same
      · intro same
        rcases List.any_eq_true.mp found with ⟨matched, matchedMember, matchedGuard⟩
        simp only [Bool.and_eq_true, decide_eq_true_eq] at matchedGuard
        rw [store.unique.datasetId.eq_of_mem datasetMember matchedMember
          (same.trans matchedGuard.1.1.symm)]
        exact matchedGuard
    have advance : View.PreflightAdvance job.status .completed := by
      rw [running]
      exact .settle rfl
    refine advancePreflight_steps member absent advance ?_
    rw [sameJob, updateJobs_setJob completedAccepted (fun _ _ => rfl) fun _ _ _ => rfl,
      validatedView]
    rfl

theorem workerConfirmCancel_steps {lease : Lease} {reply : Bool} (coherent : store.view.Coherent)
    (accepted : workerConfirmCancel now lease store = .ok (result, reply)) :
    Steps store.view result.view := by
  unfold workerConfirmCancel at accepted
  split at accepted
  · cases accepted
    exact Steps.refl store.view
  · rename_i job selected
    rcases selectJob?_some selected with ⟨member, guard⟩
    simp only [Bool.and_eq_true, decide_eq_true_eq] at guard
    rcases guard with ⟨holds, cancelling⟩
    have sameJob := Lease.holds_jobId holds
    rw [bind_ok_iff] at accepted
    rcases accepted with ⟨cancelled, cancelledAccepted, accepted⟩
    have cancelledView : cancelled.view = store.view.setJob job.jobId .cancelled := by
      rw [sameJob]
      exact updateJobs_setJob cancelledAccepted (fun _ _ => rfl) fun _ _ _ => rfl
    have sameRuns : cancelled.tables.simulations = store.tables.simulations := by
      rw [(updateJobs_ok_iff.mp cancelledAccepted).1]
    cases present : job.runId with
    | none => exact absurd cancelling (preflight_not_cancelling coherent member present)
    | some runId =>
        rw [present] at accepted
        simp only [bind_ok_iff, pure_ok_iff, Prod.mk.injEq] at accepted
        rcases accepted with ⟨settled, settledAccepted, reported, reportedAccepted, announced,
          announcedAccepted, rfl, _⟩
        have settledView : settled.view =
            cancelled.view.setRun runId (withoutResults .cancelled) := by
          refine updateSimulations_setRun settledAccepted ?_ fun _ _ _ => rfl
          intro row rowMember
          rw [sameRuns] at rowMember
          apply guard_eq
          simp only [Bool.and_eq_true, decide_eq_true_eq]
          constructor
          · exact And.left
          · intro same
            refine ⟨same, ?_⟩
            rw [run_status_of_job coherent member rowMember (by rw [present, same]), cancelling]
            rfl
        have advance : View.RunAdvance job.status .cancelled := by
          rw [cancelling]
          exact .confirmCancel
        refine advanceRun_steps member present advance (publishes_withoutResults (by decide)) ?_
        rw [emitQueuePositionEvents_view announcedAccepted,
          insertSimulationEvents_view reportedAccepted, settledView, cancelledView]

theorem settleCancelled_steps {lease : Lease} {job : WorkerJob} {reply : Bool}
    (coherent : store.view.Coherent) (member : job ∈ store.tables.workerJobs)
    (sameJob : job.jobId = lease.jobId) (active : job.status.isActive = true) {runId : String}
    (present : job.runId = some runId)
    (accepted : settleCancelled now lease job store = .ok (result, reply)) :
    Steps store.view result.view := by
  unfold settleCancelled at accepted
  simp only [bind_ok_iff, pure_ok_iff, Prod.mk.injEq] at accepted
  rcases accepted with ⟨cancelled, cancelledAccepted, settled, settledAccepted, reported,
    reportedAccepted, announced, announcedAccepted, rfl, _⟩
  have cancelledView : cancelled.view = store.view.setJob job.jobId .cancelled := by
    rw [sameJob]
    exact updateJobs_setJob cancelledAccepted (fun _ _ => rfl) fun _ _ _ => rfl
  have sameRuns : cancelled.tables.simulations = store.tables.simulations := by
    rw [(updateJobs_ok_iff.mp cancelledAccepted).1]
  have settledView : settled.view = cancelled.view.setRun runId (withoutResults .cancelled) := by
    refine updateSimulations_setRun settledAccepted ?_ fun _ _ _ => rfl
    intro row rowMember
    rw [sameRuns] at rowMember
    apply guard_eq
    simp only [Bool.and_eq_true, decide_eq_true_eq, present, Option.some.injEq]
    constructor
    · rintro ⟨same, _⟩
      exact same.symm
    · intro same
      refine ⟨same.symm, ?_⟩
      rw [run_status_of_job coherent member rowMember (by rw [present, same])]
      cases status : job.status <;> rw [status] at active <;> first | rfl | cases active
  refine advanceRun_steps member present (settles active rfl fun _ => rfl)
    (publishes_withoutResults (by decide)) ?_
  rw [emitQueuePositionEvents_view announcedAccepted,
    insertSimulationEvents_view reportedAccepted, settledView, cancelledView]

theorem settleFailed_steps {lease : Lease} {job : WorkerJob} {error : Json}
    {finalStatus : JobStatus} {reply : Bool}
    (member : job ∈ store.tables.workerJobs) (sameJob : job.jobId = lease.jobId)
    (running : job.status = .running)
    (final : finalStatus = .failed ∨ finalStatus = .failedRecoverable)
    (accepted : settleFailed now lease job error finalStatus store = .ok (result, reply)) :
    Steps store.view result.view := by
  have terminal : finalStatus.isTerminal = true := by
    rcases final with rfl | rfl <;> rfl
  unfold settleFailed at accepted
  rw [bind_ok_iff] at accepted
  rcases accepted with ⟨failed, failedAccepted, accepted⟩
  have failedView : failed.view = store.view.setJob job.jobId finalStatus := by
    rw [sameJob]
    exact updateJobs_setJob failedAccepted (fun _ _ => rfl) fun row _ _ => settle_view terminal row
  cases present : job.runId with
  | none =>
      rw [present] at accepted
      simp only [bind_ok_iff, pure_ok_iff, Prod.mk.injEq] at accepted
      rcases accepted with ⟨invalidated, invalidatedAccepted, rfl, _⟩
      have advance : View.PreflightAdvance job.status finalStatus := by
        rw [running]
        exact .settle terminal
      refine advancePreflight_steps member present advance ?_
      rw [updateDatasets_setDataset invalidatedAccepted (fun _ _ => rfl) fun _ => rfl, failedView]
      rcases final with rfl | rfl <;> rfl
  | some runId =>
      rw [present] at accepted
      simp only [bind_ok_iff, pure_ok_iff, Prod.mk.injEq] at accepted
      rcases accepted with ⟨settled, settledAccepted, reported, reportedAccepted, rfl, _⟩
      have advance : View.RunAdvance job.status finalStatus := by
        rw [running]
        exact .settle terminal
      refine advanceRun_steps member present advance (publishes_withoutResults ?_) ?_
      · rcases final with rfl | rfl <;> decide
      · have settledView : settled.view =
            failed.view.setRun runId (withoutResults finalStatus) :=
          updateSimulations_setRun settledAccepted (fun _ _ => rfl) fun _ _ _ => rfl
        rw [insertSimulationEvents_view reportedAccepted, settledView, failedView]

theorem workerFailJob_steps {lease : Lease} {error : Json} {recoverable : Bool} {reply : Bool}
    (coherent : store.view.Coherent)
    (accepted : workerFailJob now lease error recoverable store = .ok (result, reply)) :
    Steps store.view result.view := by
  unfold workerFailJob at accepted
  rw [bind_ok_iff] at accepted
  rcases accepted with ⟨_, _, accepted⟩
  split at accepted
  · cases accepted
    exact Steps.refl store.view
  · rename_i job selected
    rcases selectJob?_some selected with ⟨member, guard⟩
    rw [Bool.and_eq_true] at guard
    have sameJob := Lease.holds_jobId guard.1
    split at accepted
    · rename_i requested
      rw [Bool.and_eq_true] at requested
      rcases Option.isSome_iff_exists.mp requested.1 with ⟨runId, present⟩
      exact settleCancelled_steps coherent member sameJob guard.2 present accepted
    · rename_i notRequested
      have running : job.status = .running := by
        cases present : job.runId with
        | none => exact running_of_active_preflight coherent member present guard.2
        | some runId =>
            have notCancelling : job.status ≠ .cancelling := by
              intro cancelling
              apply notRequested
              unfold isCancellationRequested
              rw [present, cancelling]
              rfl
            cases status : job.status with
            | running => rfl
            | cancelling => exact absurd status notCancelling
            | queued | completed | cancelled | failed | failedRecoverable =>
                rw [status] at guard
                cases guard.2
      refine settleFailed_steps member sameJob running ?_ accepted
      cases recoverable
      · exact Or.inl rfl
      · exact Or.inr rfl

/-! ## Committing -/

/-- A checked request has a required record for every required artifact. -/
theorem checkCommit_required {request : CommitRequest} {alarms : List Json}
    (checked : checkCommit request = .ok alarms) :
    ∀ name ∈ requiredArtifactNames, ∃ item ∈ request.artifacts,
      item.name = some name ∧ item.required = some true := by
  unfold checkCommit at checked
  simp only [bind_ok_iff, require_ok_iff, exists_const] at checked
  rcases checked with ⟨_, _, _, checked⟩
  split at checked
  · cases checked
  · rename_i complete
    intro name member
    have present := List.find?_eq_none.mp complete name member
    unfold lacksArtifact at present
    rw [Bool.not_eq_true, Bool.not_eq_false', List.any_eq_true] at present
    rcases present with ⟨item, itemMember, same⟩
    rw [Bool.and_eq_true, decide_eq_true_eq, decide_eq_true_eq] at same
    exact ⟨item, itemMember, same⟩

theorem artifactRow_view {runId name : String} {item : ArtifactItem} {row : Artifact}
    (converted : item.row now runId = .ok row) (itemName : item.name = some name)
    (itemRequired : item.required = some true) :
    row.view = { runId, name, required := true } := by
  unfold ArtifactItem.row at converted
  rw [itemName, itemRequired] at converted
  simp only [bind_ok_iff, pure_ok_iff] at converted
  rcases converted with ⟨_, same, _, _, _, _, _, _, _, _, _, sameRequired, rfl⟩
  cases same
  cases sameRequired
  rfl

/-- How a run's record follows the commit of its results. -/
def withResults (run : RunView) : RunView :=
  { run with status := .completed, artifactState := .committed }

theorem publishRun_steps {platform : Platform} {lease : Lease} {job : WorkerJob} {runId : String}
    {request : CommitRequest} {alarms alarmValues : List Json} {reply : Bool}
    (coherent : store.view.Coherent) (member : job ∈ store.tables.workerJobs)
    (sameJob : job.jobId = lease.jobId) (running : job.status = .running)
    (present : job.runId = some runId) (checked : checkCommit request = .ok alarmValues)
    (accepted : publishRun platform now lease runId request alarms store = .ok (result, reply)) :
    Steps store.view result.view := by
  unfold publishRun at accepted
  simp only [bind_ok_iff, require_ok_iff, exists_const, pure_ok_iff, Prod.mk.injEq] at accepted
  rcases accepted with ⟨generating, generatingAccepted, _, announced, announcedAccepted, rows,
    rowsConverted, stored, storedAccepted, _, _, indexed, indexedAccepted, committed,
    committedAccepted, released, releasedAccepted, reported, reportedAccepted, emitted,
    emittedAccepted, rfl, _⟩
  have generatingTables := (updateSimulations_ok_iff.mp generatingAccepted).2.1
  have indexedRuns : indexed.tables.simulations = generating.tables.simulations := by
    rw [(insertAlarms_ok_iff.mp indexedAccepted).1, (insertArtifacts_ok_iff.mp storedAccepted).1,
      (insertSimulationEvents_ok_iff.mp announcedAccepted).1]
  have generatingView : generating.view = store.view.setRun runId fun run =>
      { run with status := .generatingArtifacts, artifactState := .generating } := by
    refine updateSimulations_setRun generatingAccepted ?_ fun _ _ _ => rfl
    intro row rowMember
    apply guard_eq
    rw [Bool.and_eq_true, decide_eq_true_eq, decide_eq_true_eq]
    constructor
    · exact And.left
    · intro same
      refine ⟨same, ?_⟩
      rw [run_status_of_job coherent member rowMember (by rw [present, same]), running]
      rfl
  have committedView : committed.view = indexed.view.setRun runId withResults := by
    refine updateSimulations_setRun committedAccepted ?_ fun _ _ _ => rfl
    intro row rowMember
    rw [indexedRuns, generatingTables] at rowMember
    apply guard_eq
    rw [Bool.and_eq_true, decide_eq_true_eq, decide_eq_true_eq]
    constructor
    · exact And.left
    · intro same
      refine ⟨same, ?_⟩
      rcases mem_update_cases rowMember with ⟨old, _, _, rfl⟩ | ⟨oldMember, passed⟩
      · rfl
      · have status : row.status = .running := by
          rw [run_status_of_job coherent member oldMember (by rw [present, same]), running]
          rfl
        rw [Bool.and_eq_false_iff] at passed
        rcases passed with different | different
        · exact absurd same (of_decide_eq_false different)
        · exact absurd status (of_decide_eq_false different)
  have resultView : emitted.view = ((store.view.setJob job.jobId .completed).setRun runId
      withResults).addArtifacts (rows.map Artifact.view) := by
    rw [insertSimulationEvents_view emittedAccepted, insertSimulationEvents_view reportedAccepted,
      updateJobs_setJob releasedAccepted (fun _ _ => rfl) fun _ _ _ => rfl, committedView,
      insertAlarms_view indexedAccepted, insertArtifacts_view storedAccepted,
      insertSimulationEvents_view announcedAccepted, generatingView, sameJob]
    have merged := View.setRun_setRun (store.view.addArtifacts (rows.map Artifact.view)) runId
      (fun run => { run with status := .generatingArtifacts, artifactState := .generating })
      withResults fun _ => rfl
    exact congrArg (fun view => View.setJob view lease.jobId .completed) merged
  apply Steps.of_move
  rw [resultView]
  refine View.Move.advanceRun store.view job.view runId .completed withResults _
    (List.mem_map_of_mem member) present ?_ ?_
  · rw [show job.view.status = .running from running]
    exact .settle rfl
  · refine ⟨fun _ => rfl, fun _ => rfl, fun _ _ => rfl, fun _ incomplete => absurd rfl incomplete, ?_⟩
    intro _ name nameMember
    rcases checkCommit_required checked name nameMember with
      ⟨item, itemMember, itemName, itemRequired⟩
    rcases mem_of_mapM_ok rowsConverted itemMember with ⟨row, rowMember, converted⟩
    rw [← artifactRow_view converted itemName itemRequired]
    exact List.mem_append_right _ (List.mem_map_of_mem rowMember)

theorem workerCommitSimulation_steps {platform : Platform} {lease : Lease}
    {request : CommitRequest} {reply : Bool} (coherent : store.view.Coherent)
    (accepted : workerCommitSimulation platform now lease request store = .ok (result, reply)) :
    Steps store.view result.view := by
  unfold workerCommitSimulation at accepted
  split at accepted
  · cases accepted
    exact Steps.refl store.view
  · rename_i job selected
    rcases selectJob?_some selected with ⟨member, guard⟩
    simp only [Bool.and_eq_true, decide_eq_true_eq] at guard
    rcases guard with ⟨⟨holds, kind⟩, running⟩
    rcases runId_some_of_simulation member kind with ⟨runId, present⟩
    rw [bind_ok_iff] at accepted
    rcases accepted with ⟨alarms, checked, accepted⟩
    rw [present] at accepted
    exact publishRun_steps coherent member (Lease.holds_jobId holds) running present checked accepted

/-! ## Admission -/

theorem registerDataset_steps {platform : Platform} {clock : Instant} {identifiers : Identifiers}
    {input : DatasetRegistration} {reply : RegisteredDataset}
    (accepted : registerDataset platform now clock identifiers input store = .ok (result, reply)) :
    Steps store.view result.view := by
  unfold registerDataset at accepted
  simp only [bind_ok_iff, require_ok_iff, exists_const, Fault.ofPg_ok_iff, pure_ok_iff,
    Prod.mk.injEq, insertDataset_ok_iff, insertJob_ok_iff] at accepted
  rcases accepted with ⟨_, _, _, registered, ⟨registeredTables, _⟩, enqueued,
    ⟨enqueuedTables, _⟩, rfl, _⟩
  apply Steps.of_move
  have move := View.Move.registerDataset store.view
    (if input.datasetId = "" then identifiers.subjectId else input.datasetId) identifiers.jobId
  unfold Store.view Tables.view at move ⊢
  rw [enqueuedTables, registeredTables]
  simp only [nextSequence_tables, List.map_append, List.map_cons, List.map_nil]
  exact move

theorem admitRun_steps {platform : Platform} {clock : Instant} {identifiers : Identifiers}
    {key : String} {request : CreateSimulationRequest} {inputs : AdmissionInputs}
    {record : SimulationRecord}
    (accepted : admitRun platform now clock identifiers key request inputs store =
      .ok (result, record)) : Steps store.view result.view := by
  unfold admitRun at accepted
  simp only [bind_ok_iff, require_ok_iff, exists_const, Fault.ofPg_ok_iff, Fault.ofText_ok_iff,
    pure_ok_iff, Prod.mk.injEq] at accepted
  rcases accepted with ⟨snapshot, _, _, envelope, _, simulated, simulatedAccepted, frozen,
    frozenAccepted, enqueued, enqueuedAccepted, reported, reportedAccepted, announced,
    announcedAccepted, keyed, keyedAccepted, _, _, rfl, _⟩
  have simulatedTables := (insertSimulation_ok_iff.mp simulatedAccepted).1
  have frozenTables := (insertSimulationSnapshot_ok_iff.mp frozenAccepted).1
  have enqueuedTables := (insertJob_ok_iff.mp enqueuedAccepted).1
  have reportedTables := (insertSimulationEvents_ok_iff.mp reportedAccepted).1
  have announcedTables := (emitQueuePositionEvents_ok_iff.mp announcedAccepted).1
  have keyedTables := (insertIdempotencyKey_ok_iff.mp keyedAccepted).1
  apply Steps.of_move
  have move := View.Move.createRun store.view identifiers.jobId request.datasetId
    (usedKey platform now identifiers key request)
  unfold Store.view Tables.view at move ⊢
  rw [keyedTables, announcedTables, reportedTables, enqueuedTables, frozenTables, simulatedTables]
  simp only [nextSequence_tables, List.map_append, List.map_cons, List.map_nil]
  exact move

theorem createSimulation_steps {platform : Platform} {clock : Instant} {identifiers : Identifiers}
    {key : String} {request : CreateSimulationRequest} {record : SimulationRecord}
    {replayed : Bool}
    (accepted : createSimulation platform now clock identifiers key request store =
      .ok (result, record, replayed)) : Steps store.view result.view := by
  unfold createSimulation createSimulationTx at accepted
  rw [bind_ok_iff] at accepted
  rcases accepted with ⟨_, _, accepted⟩
  split at accepted
  · simp only [bind_ok_iff, require_ok_iff, exists_const, pure_ok_iff, Prod.mk.injEq] at accepted
    rcases accepted with ⟨_, _, _, rfl, _⟩
    exact Steps.refl store.view
  · simp only [bind_ok_iff, ofStable_ok_iff, pure_ok_iff, Prod.mk.injEq] at accepted
    rcases accepted with ⟨inputs, _, ⟨admitted, admittedRecord⟩, admittedAccepted, rfl, _⟩
    exact admitRun_steps admittedAccepted

/-! ## Cancellation -/

theorem simulationById_row {runId : String} {record : SimulationRecord}
    (found : simulationById runId store.tables = .ok record) :
    ∃ row ∈ store.tables.simulations, row.runId = runId ∧ record.status = row.status := by
  unfold simulationById at found
  split at found
  · rename_i row snapshot selected _
    cases found
    have matched := List.find?_some selected
    exact ⟨row, List.mem_of_find?_eq_some selected, of_decide_eq_true matched, rfl⟩
  · cases found

/-- The job of a run, and the guard by which `CancelSimulation` selects it. -/
theorem job_of_run (coherent : store.view.Coherent) {row : Simulation}
    (member : row ∈ store.tables.simulations) :
    ∃ job ∈ store.tables.workerJobs, job.runId = some row.runId ∧
      row.status = job.status.simulationStatus := by
  rcases coherent.runHasJob row.view (List.mem_map_of_mem member) with ⟨view, viewMember, same⟩
  rcases List.mem_map.mp viewMember with ⟨job, jobMember, rfl⟩
  exact ⟨job, jobMember, same, run_status_of_job coherent jobMember member same⟩

theorem selects_job_of_run {job : WorkerJob} {runId : String}
    (member : job ∈ store.tables.workerJobs) (present : job.runId = some runId) :
    ∀ row ∈ store.tables.workerJobs,
      (decide (row.runId = some runId) && decide (row.status = job.status)) =
        decide (row.jobId = job.jobId) := by
  intro row rowMember
  apply guard_eq
  rw [Bool.and_eq_true, decide_eq_true_eq, decide_eq_true_eq]
  constructor
  · rintro ⟨same, _⟩
    rw [store.unique.jobRun.eq_of_mem rowMember member same present]
  · intro same
    rw [store.unique.jobId.eq_of_mem rowMember member same]
    exact ⟨present, rfl⟩

theorem cancelQueuedRun_steps {reason : String} {row : Simulation}
    (coherent : store.view.Coherent) (rowMember : row ∈ store.tables.simulations)
    (queued : row.status = .queued)
    (accepted : cancelQueuedRun now row.runId reason store = .ok result) :
    Steps store.view result.view := by
  rcases job_of_run coherent rowMember with ⟨job, member, present, agreed⟩
  have jobQueued : job.status = .queued := by
    rw [queued] at agreed
    exact JobStatus.simulationStatus_injective agreed.symm
  unfold cancelQueuedRun at accepted
  simp only [bind_ok_iff] at accepted
  rcases accepted with ⟨cancelled, cancelledAccepted, released, releasedAccepted, reported,
    reportedAccepted, announcedAccepted⟩
  have sameJobs : cancelled.tables.workerJobs = store.tables.workerJobs := by
    rw [(updateSimulations_ok_iff.mp cancelledAccepted).2.1]
  have cancelledView : cancelled.view =
      store.view.setRun row.runId (withoutResults .cancelled) :=
    updateSimulations_setRun cancelledAccepted (fun _ _ => rfl) fun _ _ _ => rfl
  have releasedView : released.view = cancelled.view.setJob job.jobId .cancelled := by
    refine updateJobs_setJob releasedAccepted ?_ ?_
    · rw [sameJobs, ← jobQueued]
      exact selects_job_of_run member present
    · intro other otherMember same
      rw [sameJobs] at otherMember
      rw [store.unique.jobId.eq_of_mem otherMember member same]
      have unleased := isUnleased_of_job coherent member
      rw [jobQueued] at unleased
      exact congrArg (fun value => { job.view with status := .cancelled, unleased := value })
        unleased
  have advance : View.RunAdvance job.status .cancelled := by
    rw [jobQueued]
    exact .withdraw
  refine advanceRun_steps member present advance (publishes_withoutResults (by decide)) ?_
  rw [emitQueuePositionEvents_view announcedAccepted,
    insertSimulationEvents_view reportedAccepted, releasedView, cancelledView]
  rfl

theorem cancelRunningRun_steps {reason : String} {row : Simulation}
    (coherent : store.view.Coherent) (rowMember : row ∈ store.tables.simulations)
    (running : row.status = .running)
    (accepted : cancelRunningRun now row.runId reason store = .ok result) :
    Steps store.view result.view := by
  rcases job_of_run coherent rowMember with ⟨job, member, present, agreed⟩
  have jobRunning : job.status = .running := by
    rw [running] at agreed
    exact JobStatus.simulationStatus_injective agreed.symm
  unfold cancelRunningRun at accepted
  simp only [bind_ok_iff] at accepted
  rcases accepted with ⟨requested, requestedAccepted, cancelling, cancellingAccepted,
    reportedAccepted⟩
  have sameJobs : requested.tables.workerJobs = store.tables.workerJobs := by
    rw [(updateSimulations_ok_iff.mp requestedAccepted).2.1]
  have requestedView : requested.view = store.view.setRun row.runId (withStatus .cancelling) :=
    updateSimulations_setRun requestedAccepted (fun _ _ => rfl) fun _ _ _ => rfl
  have cancellingView : cancelling.view = requested.view.setJob job.jobId .cancelling := by
    refine updateJobs_setJob cancellingAccepted ?_ ?_
    · rw [sameJobs, ← jobRunning]
      exact selects_job_of_run member present
    · intro other otherMember same
      rw [sameJobs] at otherMember
      rw [store.unique.jobId.eq_of_mem otherMember member same]
      have unleased := isUnleased_of_job coherent member
      rw [jobRunning] at unleased
      exact congrArg (fun value => { job.view with status := .cancelling, unleased := value })
        unleased
  have advance : View.RunAdvance job.status .cancelling := by
    rw [jobRunning]
    exact .requestCancel
  refine advanceRun_steps member present advance (publishes_withStatus (by decide)) ?_
  rw [insertSimulationEvents_view reportedAccepted, cancellingView, requestedView]
  rfl

theorem cancelSimulation_steps {runId reason : String} {record : SimulationRecord}
    (coherent : store.view.Coherent)
    (accepted : cancelSimulation now runId reason store = .ok (result, record)) :
    Steps store.view result.view := by
  unfold cancelSimulation at accepted
  rw [bind_ok_iff] at accepted
  rcases accepted with ⟨found, foundAccepted, accepted⟩
  rcases simulationById_row foundAccepted with ⟨row, member, rfl, sameStatus⟩
  rw [sameStatus] at accepted
  cases status : row.status with
  | queued =>
      rw [status] at accepted
      simp only [bind_ok_iff, Fault.ofPg_ok_iff, pure_ok_iff, Prod.mk.injEq] at accepted
      rcases accepted with ⟨cancelled, cancelledAccepted, rfl, _⟩
      exact cancelQueuedRun_steps coherent member status cancelledAccepted
  | running =>
      rw [status] at accepted
      simp only [bind_ok_iff, Fault.ofPg_ok_iff, pure_ok_iff, Prod.mk.injEq] at accepted
      rcases accepted with ⟨cancelling, cancellingAccepted, rfl, _⟩
      exact cancelRunningRun_steps coherent member status cancellingAccepted
  | cancelling | cancelled =>
      rw [status] at accepted
      cases accepted
      exact Steps.refl store.view
  | created | validating | generatingArtifacts | completed | failed | failedRecoverable =>
      rw [status] at accepted
      cases accepted

end Queue
end FederatedIot
