import FederatedIot.Queue.Recovery

namespace FederatedIot
namespace Queue

open Foundation Foundation.Relation Foundation.Outcome

/-!
# The columns of a run

Beside its status a run has columns that are written once: when it started and under which
attempt, when its cancellation was requested and why, when it ended and with which error.
Which of them are present is told by the status alone, but for a cancelled run: its
cancellation left a mark exactly when the run had started.
-/

variable {platform : Platform} {store result : Store} {now : Instant} {job : WorkerJob} {row : Simulation}

/-! ## Which columns are present -/

/-- The columns that are present in a row. -/
structure Columns where
  started : Bool
  attempted : Bool
  requested : Bool
  explained : Bool
  finished : Bool
  failed : Bool
  deriving DecidableEq

def Simulation.columns (row : Simulation) : Columns :=
  { started := row.startedAt.isSome, attempted := row.attemptId.isSome, requested := row.cancelRequestedAt.isSome
    explained := row.cancelReason.isSome, finished := row.finishedAt.isSome, failed := row.errorJson.isSome }

/-- The columns that belong to a status. -/
def Columns.Belong (columns : Columns) (status : SimulationStatus) : Prop :=
  match status with
  | .queued => columns = ⟨false, false, false, false, false, false⟩
  | .running | .generatingArtifacts => columns = ⟨true, true, false, false, false, false⟩
  | .cancelling => columns = ⟨true, true, true, true, false, false⟩
  | .cancelled => columns = ⟨true, true, true, true, true, false⟩ ∨ columns = ⟨false, false, false, false, true, false⟩
  | .completed => columns = ⟨true, true, false, false, true, false⟩
  | .failed | .failedRecoverable => columns = ⟨true, true, false, false, true, true⟩
  | .created | .validating => False

/-- The columns of the row are those of its status. -/
def Simulation.Consistent (row : Simulation) : Prop :=
  row.columns.Belong row.status

/-- The columns of every run are those of its status. -/
def Consistent (store : Store) : Prop :=
  ∀ row ∈ store.tables.simulations, row.Consistent

theorem Consistent.of_runs (consistent : Consistent store) (same : result.tables.simulations = store.tables.simulations) :
    Consistent result := by
  intro row member
  rw [same] at member
  exact consistent row member

/-- An update keeps the columns together when each row that it selects stays consistent. -/
theorem Consistent.update {selects : Simulation -> Bool} {assign : Simulation -> Simulation} (consistent : Consistent store)
    (accepted : updateSimulations now selects assign store = .ok result)
    (kept : ∀ row ∈ store.tables.simulations, selects row = true -> row.Consistent -> (assign row).Consistent) :
    Consistent result := by
  intro row member
  rw [(updateSimulations_ok_iff.mp accepted).2.1] at member
  rcases mem_update_cases member with ⟨old, oldMember, selected, rfl⟩ | ⟨unchanged, _⟩
  · exact kept old oldMember selected (consistent old oldMember)
  · exact consistent row unchanged

/-- The columns of a row of this status. -/
theorem Simulation.Consistent.of_status {status : SimulationStatus} (consistent : row.Consistent)
    (same : row.status = status) :
    row.columns.Belong status := by
  rw [← same]
  exact consistent

/-- A run that goes on carries a mark exactly when it is being cancelled. -/
theorem Simulation.Consistent.requested (consistent : row.Consistent) (staged : row.status.hasStage = true) :
    row.cancelRequestedAt.isSome = decide (row.status = .cancelling) := by
  unfold Simulation.Consistent at consistent
  cases status : row.status with
  | cancelling =>
      rw [status] at consistent
      exact congrArg Columns.requested consistent
  | running =>
      rw [status] at consistent
      exact congrArg Columns.requested consistent
  | _ =>
      rw [status] at staged
      cases staged

/-- The row of a run that goes on is being cancelled, when its job says that this was requested, and else it is running. -/
theorem requested_of_job (coherent : store.view.Coherent) (consistent : Consistent store)
    (jobMember : job ∈ store.tables.workerJobs) (member : row ∈ store.tables.simulations)
    (present : job.runId = some row.runId) (staged : row.status.hasStage = true) :
    isCancellationRequested store.tables.simulations job = decide (row.status = .cancelling) := by
  have agrees := run_status_of_job coherent jobMember member present
  have marked := (consistent row member).requested staged
  apply Bool.eq_iff_iff.mpr
  unfold isCancellationRequested
  rw [Bool.or_eq_true, decide_eq_true_eq, List.any_eq_true, decide_eq_true_eq]
  constructor
  · rintro (cancelling | ⟨other, otherMember, matched⟩)
    · rw [agrees, cancelling]
      rfl
    · rcases Bool.and_eq_true_iff.mp matched with ⟨sameRun, requested⟩
      have isRow : other = row := store.unique.runId.eq_of_mem otherMember member
        (Option.some.inj (present.symm.trans (of_decide_eq_true sameRun))).symm
      rw [isRow, marked] at requested
      exact of_decide_eq_true requested
  · intro cancelling
    refine Or.inr ⟨row, member, Bool.and_eq_true_iff.mpr ⟨decide_eq_true present, ?_⟩⟩
    rw [marked]
    exact decide_eq_true cancelling

/-! ## Statements that touch no run -/

namespace Consistent

theorem events {values : List EventValues} (consistent : Consistent store)
    (accepted : insertSimulationEvents now values store = .ok result) : Consistent result :=
  consistent.of_runs (by rw [(insertSimulationEvents_ok_iff.mp accepted).1])

theorem announced (consistent : Consistent store) (accepted : emitQueuePositionEvents now store = .ok result) :
    Consistent result :=
  consistent.of_runs (by rw [(emitQueuePositionEvents_ok_iff.mp accepted).1])

theorem workerEvents {values : List WorkerEventValues} (consistent : Consistent store)
    (accepted : insertWorkerJobEvents now values store = .ok result) : Consistent result :=
  consistent.of_runs (by rw [(insertWorkerJobEvents_ok_iff.mp accepted).1])

theorem jobs {selects : WorkerJob -> Bool} {assign : WorkerJob -> WorkerJob} (consistent : Consistent store)
    (accepted : updateJobs now selects assign store = .ok result) : Consistent result :=
  consistent.of_runs (by rw [(updateJobs_ok_iff.mp accepted).1])

theorem datasets {selects : Dataset -> Bool} {assign : Dataset -> Dataset} (consistent : Consistent store)
    (accepted : updateDatasets now selects assign store = .ok result) : Consistent result :=
  consistent.of_runs (by rw [(updateDatasets_ok_iff.mp accepted).1])

theorem instances {selects : WorkerInstance -> Bool} {assign : WorkerInstance -> WorkerInstance}
    (consistent : Consistent store)
    (accepted : updateInstances selects assign store = .ok result) : Consistent result :=
  consistent.of_runs (by rw [(updateInstances_ok_iff.mp accepted).1])

end Consistent

/-! ## Settling -/

theorem Simulation.Consistent.cancelled (consistent : row.Consistent) (cancelling : row.status = .cancelling) :
    Simulation.Consistent { row with
      status := .cancelled, currentStage := none, finishedAt := some now, artifactState := .incomplete
      errorJson := none } := by
  have columns : row.columns = ⟨true, true, true, true, false, false⟩ := consistent.of_status cancelling
  change Columns.Belong { row.columns with finished := true, failed := false } .cancelled
  rw [columns]
  exact Or.inl rfl

theorem Simulation.Consistent.failed {status : SimulationStatus} {error : Json} (consistent : row.Consistent)
    (running : row.status = .running) (failing : status = .failed ∨ status = .failedRecoverable) :
    Simulation.Consistent { row with
      status := status, currentStage := none, finishedAt := some now, errorJson := some error
      artifactState := .incomplete } := by
  have columns : row.columns = ⟨true, true, false, false, false, false⟩ := consistent.of_status running
  change Columns.Belong { row.columns with finished := true, failed := true } status
  rw [columns]
  rcases failing with rfl | rfl <;> rfl

/-- A run that goes on and is not being cancelled is running. -/
theorem running_of_staged {status : SimulationStatus} (staged : status.hasStage = true) (other : status ≠ .cancelling) :
    status = .running := by
  cases status with
  | running => rfl
  | cancelling => exact absurd rfl other
  | _ => cases staged

theorem settledRun_consistent (coherent : store.view.Coherent) (consistent : Consistent store)
    (member : row ∈ store.tables.simulations) (selected : recovers (expiredCandidates now store.tables) row = true) :
    Simulation.Consistent (((candidateFor? (expiredCandidates now store.tables) row).map fun candidate =>
      candidate.settledRun now row).getD row) := by
  rcases recovers_settledRun selected with ⟨staged, candidate, found⟩
  have isCandidate := List.mem_of_find?_eq_some found
  have matched := List.find?_some found
  have present : candidate.job.runId = some row.runId := of_decide_eq_true matched
  rcases List.mem_map.mp isCandidate with ⟨job, expired, rfl⟩
  have jobMember := List.mem_of_mem_filter expired
  have requested := requested_of_job coherent consistent jobMember member present staged
  rw [found]
  by_cases cancelling : row.status = .cancelling
  · rw [decide_eq_true cancelling] at requested
    have settled : (ExpiredCandidate.of store.tables.simulations job).settledRun now row = { row with
        status := .cancelled, currentStage := none, finishedAt := some now, artifactState := .incomplete
        errorJson := none } := by
      unfold ExpiredCandidate.settledRun ExpiredCandidate.finalStatus ExpiredCandidate.errorJson ExpiredCandidate.of
      rw [requested]
      rfl
    rw [Option.map_some, Option.getD_some, settled]
    exact (consistent row member).cancelled cancelling
  · rw [decide_eq_false cancelling] at requested
    have settled : (ExpiredCandidate.of store.tables.simulations job).settledRun now row = { row with
        status := .failedRecoverable, currentStage := none, finishedAt := some now, errorJson := some leaseLostError
        artifactState := .incomplete } := by
      unfold ExpiredCandidate.settledRun ExpiredCandidate.finalStatus ExpiredCandidate.errorJson ExpiredCandidate.of
      rw [requested]
      rfl
    rw [Option.map_some, Option.getD_some, settled]
    exact (consistent row member).failed (running_of_staged staged cancelling) (Or.inr rfl)

/-! ## Transactions -/

theorem workerRecoverExpiredLeases_consistent {reply : Nat} (coherent : store.view.Coherent) (consistent : Consistent store)
    (accepted : workerRecoverExpiredLeases now store = .ok (result, reply)) : Consistent result := by
  simp only [workerRecoverExpiredLeases, bind_ok_iff] at accepted
  rcases accepted with ⟨_, _, released, isReleased, reported, isReported, invalidated, isInvalidated, settled, isSettled,
    emitted, isEmitted, accepted⟩
  have same : invalidated.tables.simulations = store.tables.simulations := by
    rw [(updateDatasets_ok_iff.mp isInvalidated).1, (insertWorkerJobEvents_ok_iff.mp isReported).1,
      (updateJobs_ok_iff.mp isReleased).1]
  have runs : Consistent settled := (consistent.of_runs same).update isSettled fun row member selected _ => by
    rw [same] at member
    exact settledRun_consistent coherent consistent member selected
  have events := runs.events isEmitted
  split at accepted
  · simp only [bind_ok_iff, pure_ok_iff, Prod.mk.injEq] at accepted
    rcases accepted with ⟨announced, isAnnounced, rfl, _⟩
    exact events.announced isAnnounced
  · cases accepted
    exact events

theorem startJob_consistent {attemptId leaseToken : String} {leaseSeconds : Int} {reply : Option ClaimedJob}
    (consistent : Consistent store)
    (accepted : startJob now attemptId leaseToken leaseSeconds job store = .ok (result, reply)) :
    Consistent result := by
  rw [startJob, bind_ok_iff] at accepted
  rcases accepted with ⟨claimed, isClaimed, accepted⟩
  have jobs := consistent.jobs isClaimed
  cases kind : job.jobType with
  | datasetPreflight =>
      rw [kind] at accepted
      cases accepted
      exact jobs
  | simulation =>
      rw [kind] at accepted
      simp only [bind_ok_iff, require_ok_iff, exists_const, pure_ok_iff, Prod.mk.injEq] at accepted
      rcases accepted with ⟨started, isStarted, _, reported, isReported, announced, isAnnounced, rfl, _⟩
      have runs : Consistent started := jobs.update isStarted fun row _ selected rowConsistent => by
        have queued : row.status = .queued := of_decide_eq_true (Bool.and_eq_true_iff.mp selected).2
        have columns : row.columns = ⟨false, false, false, false, false, false⟩ := rowConsistent.of_status queued
        change Columns.Belong { row.columns with started := true, attempted := true } .running
        rw [columns]
        rfl
      exact (runs.events isReported).announced isAnnounced

theorem workerClaimNextJobForWorker_consistent {workerId attemptId leaseToken : String} {leaseSeconds : Int}
    {reply : Option ClaimedJob} (coherent : store.view.Coherent) (consistent : Consistent store)
    (accepted : workerClaimNextJobForWorker now workerId attemptId leaseToken leaseSeconds store = .ok (result, reply)) :
    Consistent result := by
  simp only [workerClaimNextJobForWorker, bind_ok_iff, require_ok_iff, exists_const] at accepted
  rcases accepted with ⟨_, _, seen, isSeen, _, accepted⟩
  simp only [requireScheduler_ok_iff, exists_const] at accepted
  rcases accepted with ⟨_, ⟨recovered, count⟩, isRecovered, accepted⟩
  have seenCoherent : seen.view.Coherent := by
    rw [updateInstances_view isSeen]
    exact coherent
  have recovery := workerRecoverExpiredLeases_consistent seenCoherent (consistent.instances isSeen) isRecovered
  split at accepted
  · cases accepted
    exact recovery
  · split at accepted
    · cases accepted
      exact recovery
    · exact startJob_consistent recovery accepted

theorem workerHeartbeatForWorker_consistent {workerId : String} {lease : Lease} {leaseSeconds : Int} {reply : Bool}
    (consistent : Consistent store)
    (accepted : workerHeartbeatForWorker now workerId lease leaseSeconds store = .ok (result, reply)) : Consistent result := by
  simp only [workerHeartbeatForWorker, bind_ok_iff, require_ok_iff, exists_const] at accepted
  rcases accepted with ⟨_, seen, isSeen, accepted⟩
  have instances := consistent.instances isSeen
  split at accepted
  · rw [bind_ok_iff] at accepted
    rcases accepted with ⟨renewed, isRenewed, accepted⟩
    have jobs := instances.jobs isRenewed
    split at accepted
    · simp only [recordHeartbeat, bind_ok_iff, pure_ok_iff, Prod.mk.injEq] at accepted
      rcases accepted with ⟨beaten, isBeaten, reported, isReported, emitted, isEmitted, rfl, _⟩
      have runs := jobs.update isBeaten fun _ _ _ kept => kept
      exact (runs.workerEvents isReported).events isEmitted
    · cases accepted
      exact jobs
  · cases accepted
    exact instances

theorem workerReportEvent_consistent {lease : Lease} {event : Json} {reply : Bool} (consistent : Consistent store)
    (accepted : workerReportEvent platform now lease event store = .ok (result, reply)) : Consistent result := by
  rw [workerReportEvent] at accepted
  split at accepted
  · cases accepted
    exact consistent
  · simp only [bind_ok_iff, require_ok_iff, exists_const] at accepted
    rcases accepted with ⟨_, _, agent, _, accepted⟩
    rw [recordEvent, bind_ok_iff] at accepted
    rcases accepted with ⟨reported, isReported, accepted⟩
    have reports := consistent.workerEvents isReported
    split at accepted
    · cases accepted
      exact reports
    · simp only [bind_ok_iff, pure_ok_iff, Prod.mk.injEq] at accepted
      rcases accepted with ⟨staged, isStaged, emitted, isEmitted, rfl, _⟩
      exact (reports.update isStaged fun _ _ _ kept => kept).events isEmitted

theorem workerCompletePreflight_consistent {lease : Lease} {inputSha256 summarySha256 : String} {summary : Json}
    {reply : Bool}
    (consistent : Consistent store)
    (accepted : workerCompletePreflight now lease inputSha256 summary summarySha256 store = .ok (result, reply)) :
    Consistent result := by
  rw [workerCompletePreflight] at accepted
  split at accepted
  · cases accepted
    exact consistent
  · simp only [bind_ok_iff, require_ok_iff, exists_const, pure_ok_iff, Prod.mk.injEq] at accepted
    rcases accepted with ⟨validated, isValidated, _, completed, isCompleted, rfl, _⟩
    exact (consistent.datasets isValidated).jobs isCompleted

theorem workerConfirmCancel_consistent {lease : Lease} {reply : Bool} (consistent : Consistent store)
    (accepted : workerConfirmCancel now lease store = .ok (result, reply)) : Consistent result := by
  rw [workerConfirmCancel] at accepted
  split at accepted
  · cases accepted
    exact consistent
  · rw [bind_ok_iff] at accepted
    rcases accepted with ⟨cancelled, isCancelled, accepted⟩
    have jobs := consistent.jobs isCancelled
    split at accepted
    · cases accepted
      exact jobs
    · simp only [bind_ok_iff, pure_ok_iff, Prod.mk.injEq] at accepted
      rcases accepted with ⟨settled, isSettled, reported, isReported, announced, isAnnounced, rfl, _⟩
      have runs : Consistent settled := jobs.update isSettled fun row _ selected rowConsistent => by
        have cancelling : row.status = .cancelling := of_decide_eq_true (Bool.and_eq_true_iff.mp selected).2
        have columns : row.columns = ⟨true, true, true, true, false, false⟩ := rowConsistent.of_status cancelling
        change Columns.Belong { row.columns with finished := true } .cancelled
        rw [columns]
        exact Or.inl rfl
      exact (runs.events isReported).announced isAnnounced

theorem workerFailJob_consistent {lease : Lease} {error : Json} {recoverable reply : Bool} (coherent : store.view.Coherent)
    (consistent : Consistent store) (accepted : workerFailJob now lease error recoverable store = .ok (result, reply)) :
    Consistent result := by
  rw [workerFailJob, bind_ok_iff] at accepted
  rcases accepted with ⟨_, _, accepted⟩
  split at accepted
  · cases accepted
    exact consistent
  · rename_i job selected
    rcases selectJob?_some selected with ⟨jobMember, guard⟩
    have active := (Bool.and_eq_true_iff.mp guard).2
    have staged : ∀ row ∈ store.tables.simulations, job.runId = some row.runId -> row.status.hasStage = true := by
      intro row member present
      rw [run_status_of_job coherent jobMember member present]
      revert active
      cases job.status <;> decide
    split at accepted
    · rename_i requested
      rcases Bool.and_eq_true_iff.mp requested with ⟨_, isRequested⟩
      simp only [settleCancelled, bind_ok_iff, pure_ok_iff, Prod.mk.injEq] at accepted
      rcases accepted with ⟨cancelled, isCancelled, settled, isSettled, reported, isReported, announced, isAnnounced,
        rfl, _⟩
      have same : cancelled.tables.simulations = store.tables.simulations := by rw [(updateJobs_ok_iff.mp isCancelled).1]
      have runs : Consistent settled := (consistent.of_runs same).update isSettled
          fun row member isSelected rowConsistent => by
        rw [same] at member
        have present : job.runId = some row.runId := of_decide_eq_true (Bool.and_eq_true_iff.mp isSelected).1
        rw [requested_of_job coherent consistent jobMember member present (staged row member present)] at isRequested
        exact rowConsistent.cancelled (of_decide_eq_true isRequested)
      exact (runs.events isReported).announced isAnnounced
    · rename_i unrequested
      rw [settleFailed, bind_ok_iff] at accepted
      rcases accepted with ⟨failed, isFailed, accepted⟩
      have same : failed.tables.simulations = store.tables.simulations := by rw [(updateJobs_ok_iff.mp isFailed).1]
      cases present : job.runId with
      | none =>
          rw [present] at accepted
          simp only [bind_ok_iff, pure_ok_iff, Prod.mk.injEq] at accepted
          rcases accepted with ⟨invalidated, isInvalidated, rfl, _⟩
          exact (consistent.jobs isFailed).datasets isInvalidated
      | some runId =>
          rw [present] at accepted
          simp only [bind_ok_iff, pure_ok_iff, Prod.mk.injEq] at accepted
          rcases accepted with ⟨settled, isSettled, reported, isReported, rfl, _⟩
          have runs : Consistent settled := (consistent.of_runs same).update isSettled
              fun row member isSelected rowConsistent => by
            rw [same] at member
            have own : job.runId = some row.runId := present.trans (congrArg some (of_decide_eq_true isSelected).symm)
            have asked := requested_of_job coherent consistent jobMember member own (staged row member own)
            have other : row.status ≠ .cancelling := by
              intro cancelling
              rw [decide_eq_true cancelling] at asked
              rw [present, asked] at unrequested
              exact unrequested rfl
            refine rowConsistent.failed (running_of_staged (staged row member own) other) ?_
            cases recoverable with
            | true => exact Or.inr rfl
            | false => exact Or.inl rfl
          exact runs.events isReported

theorem workerCommitSimulation_consistent {lease : Lease} {request : CommitRequest} {reply : Bool}
    (consistent : Consistent store)
    (accepted : workerCommitSimulation platform now lease request store = .ok (result, reply)) : Consistent result := by
  rw [workerCommitSimulation] at accepted
  split at accepted
  · cases accepted
    exact consistent
  · rw [bind_ok_iff] at accepted
    rcases accepted with ⟨alarms, _, accepted⟩
    simp only [publishRun, bind_ok_iff, require_ok_iff, exists_const, pure_ok_iff, Prod.mk.injEq] at accepted
    rcases accepted with ⟨generating, isGenerating, _, announced, isAnnounced, rows, _, stored, isStored, _, _, indexed,
      isIndexed, committed, isCommitted, released, isReleased, reported, isReported, emitted, isEmitted, rfl, _⟩
    have generates : Consistent generating := consistent.update isGenerating fun row _ selected rowConsistent => by
      have running : row.status = .running := of_decide_eq_true (Bool.and_eq_true_iff.mp selected).2
      have columns : row.columns = ⟨true, true, false, false, false, false⟩ := rowConsistent.of_status running
      exact columns
    have same : indexed.tables.simulations = announced.tables.simulations := by
      rw [(insertAlarms_ok_iff.mp isIndexed).1, (insertArtifacts_ok_iff.mp isStored).1]
    have commits : Consistent committed :=
      ((generates.events isAnnounced).of_runs same).update isCommitted fun row _ selected rowConsistent => by
        have generated : row.status = .generatingArtifacts := of_decide_eq_true (Bool.and_eq_true_iff.mp selected).2
        have columns : row.columns = ⟨true, true, false, false, false, false⟩ := rowConsistent.of_status generated
        change Columns.Belong { row.columns with finished := true } .completed
        rw [columns]
        rfl
    exact ((commits.jobs isReleased).events isReported).events isEmitted

theorem cancelSimulation_consistent {runId reason : String} {record : SimulationRecord} (consistent : Consistent store)
    (accepted : cancelSimulation now runId reason store = .ok (result, record)) : Consistent result := by
  rw [cancelSimulation, bind_ok_iff] at accepted
  rcases accepted with ⟨found, isFound, accepted⟩
  rcases simulationById_row isFound with ⟨row, rowMember, sameRun, sameStatus⟩
  rw [sameStatus] at accepted
  have only : ∀ other ∈ store.tables.simulations, decide (other.runId = runId) = true -> other = row :=
    fun other member selected =>
      store.unique.runId.eq_of_mem member rowMember ((of_decide_eq_true selected).trans sameRun.symm)
  cases status : row.status with
  | queued =>
      rw [status] at accepted
      simp only [bind_ok_iff, Fault.ofPg_ok_iff, pure_ok_iff, Prod.mk.injEq] at accepted
      rcases accepted with ⟨announced, isCancelledRun, rfl, _⟩
      simp only [cancelQueuedRun, bind_ok_iff] at isCancelledRun
      rcases isCancelledRun with ⟨cancelled, isCancelled, released, isReleased, reported, isReported, isAnnounced⟩
      have runs : Consistent cancelled := consistent.update isCancelled fun other member selected rowConsistent => by
        have queued : other.status = .queued := by rw [only other member selected, status]
        have columns : other.columns = ⟨false, false, false, false, false, false⟩ := rowConsistent.of_status queued
        change Columns.Belong { other.columns with finished := true } .cancelled
        rw [columns]
        exact Or.inr rfl
      exact ((runs.jobs isReleased).events isReported).announced isAnnounced
  | running =>
      rw [status] at accepted
      simp only [bind_ok_iff, Fault.ofPg_ok_iff, pure_ok_iff, Prod.mk.injEq] at accepted
      rcases accepted with ⟨reported, isCancelling, rfl, _⟩
      simp only [cancelRunningRun, bind_ok_iff] at isCancelling
      rcases isCancelling with ⟨requested, isRequested, cancelling, isMarked, isReported⟩
      have runs : Consistent requested := consistent.update isRequested fun other member selected rowConsistent => by
        have running : other.status = .running := by rw [only other member selected, status]
        have columns : other.columns = ⟨true, true, false, false, false, false⟩ := rowConsistent.of_status running
        change Columns.Belong { other.columns with requested := true, explained := true } .cancelling
        rw [columns]
        rfl
      exact (runs.jobs isMarked).events isReported
  | cancelling | cancelled =>
      rw [status] at accepted
      cases accepted
      exact consistent
  | created | validating | generatingArtifacts | completed | failed | failedRecoverable =>
      rw [status] at accepted
      cases accepted

theorem createSimulation_consistent {clock : Instant} {identifiers : Identifiers} {key : String}
    {request : CreateSimulationRequest} {record : SimulationRecord} {replayed : Bool} (consistent : Consistent store)
    (accepted : createSimulation platform now clock identifiers key request store = .ok (result, record, replayed)) :
    Consistent result := by
  unfold createSimulation createSimulationTx at accepted
  rw [bind_ok_iff] at accepted
  rcases accepted with ⟨_, _, accepted⟩
  split at accepted
  · simp only [bind_ok_iff, require_ok_iff, exists_const, pure_ok_iff, Prod.mk.injEq] at accepted
    rcases accepted with ⟨_, _, _, rfl, _⟩
    exact consistent
  · simp only [bind_ok_iff, ofStable_ok_iff, pure_ok_iff, Prod.mk.injEq] at accepted
    rcases accepted with ⟨inputs, _, ⟨admitted, _⟩, isAdmitted, rfl, _⟩
    unfold admitRun at isAdmitted
    simp only [bind_ok_iff, require_ok_iff, exists_const, Fault.ofPg_ok_iff, Fault.ofText_ok_iff, pure_ok_iff,
      Prod.mk.injEq] at isAdmitted
    rcases isAdmitted with ⟨_, _, _, _, _, simulated, isSimulated, frozen, isFrozen, enqueued, isEnqueued, reported,
      isReported, announced, isAnnounced, keyed, isKeyed, _, _, rfl, _⟩
    have runs : keyed.tables.simulations = store.tables.simulations ++
        [admittedRun now identifiers.subjectId (nextSequence store).1 request inputs] := by
      rw [(insertIdempotencyKey_ok_iff.mp isKeyed).1, (emitQueuePositionEvents_ok_iff.mp isAnnounced).1,
        (insertSimulationEvents_ok_iff.mp isReported).1, (insertJob_ok_iff.mp isEnqueued).1,
        (insertSimulationSnapshot_ok_iff.mp isFrozen).1, (insertSimulation_ok_iff.mp isSimulated).1]
      rfl
    intro row member
    rw [runs] at member
    rcases List.mem_append.mp member with earlier | last
    · exact consistent row earlier
    · rw [List.mem_singleton.mp last]
      rfl

/-! ## Every run -/

theorem execute_consistent {operation : Operation} {reply : Reply} (coherent : store.view.Coherent)
    (consistent : Consistent store) (accepted : execute platform now operation store = .ok (result, reply)) :
    Consistent result := by
  cases operation with
  | registerDataset clock identifiers input =>
      rcases answer_ok_iff.mp accepted with ⟨_, done, _⟩
      rcases registerDataset_admits done with ⟨job, admits, _⟩
      exact consistent.of_runs admits.runs
  | createSimulation clock identifiers key request =>
      rcases answer_ok_iff.mp accepted with ⟨⟨record, replayed⟩, done, _⟩
      exact createSimulation_consistent consistent done
  | cancelSimulation runId reason =>
      rcases answer_ok_iff.mp accepted with ⟨_, done, _⟩
      exact cancelSimulation_consistent consistent done
  | saveParameterProfile row =>
      rcases answer_ok_iff.mp accepted with ⟨_, done, _⟩
      simp only [bind_ok_iff, Fault.ofPg_ok_iff, insertParameterProfile_ok_iff] at done
      rcases done with ⟨saved, ⟨tables, _⟩, same⟩
      cases same
      exact consistent.of_runs (by rw [tables])
  | saveLoadMapping row =>
      rcases answer_ok_iff.mp accepted with ⟨_, done, _⟩
      simp only [bind_ok_iff, Fault.ofPg_ok_iff, insertLoadMappingProfile_ok_iff] at done
      rcases done with ⟨saved, ⟨tables, _⟩, same⟩
      cases same
      exact consistent.of_runs (by rw [tables])
  | registerInstance workerId contractVersion workerVersion =>
      rcases answer_ok_iff.mp accepted with ⟨_, done, _⟩
      have registered := Fault.ofPg_ok_iff.mp done
      simp only [workerRegisterInstance, bind_ok_iff, require_ok_iff, exists_const] at registered
      rcases registered with ⟨_, _, _, registered⟩
      split at registered
      · simp only [bind_ok_iff, pure_ok_iff, Prod.mk.injEq] at registered
        rcases registered with ⟨updated, isUpdated, rfl, _⟩
        exact consistent.instances isUpdated
      · simp only [bind_ok_iff, pure_ok_iff, Prod.mk.injEq, Store.install_ok_iff] at registered
        rcases registered with ⟨inserted, ⟨tables, _⟩, rfl, _⟩
        exact consistent.of_runs (by rw [tables])
  | heartbeatInstance workerId contractVersion =>
      rcases answer_ok_iff.mp accepted with ⟨_, done, _⟩
      have beaten := Fault.ofPg_ok_iff.mp done
      simp only [workerHeartbeatInstance, bind_ok_iff, pure_ok_iff, Prod.mk.injEq] at beaten
      rcases beaten with ⟨updated, isUpdated, rfl, _⟩
      exact consistent.instances isUpdated
  | claim workerId attemptId leaseToken leaseSeconds =>
      rcases answer_ok_iff.mp accepted with ⟨_, done, _⟩
      exact workerClaimNextJobForWorker_consistent coherent consistent (Fault.ofPg_ok_iff.mp done)
  | heartbeat workerId lease leaseSeconds =>
      rcases answer_ok_iff.mp accepted with ⟨_, done, _⟩
      exact workerHeartbeatForWorker_consistent consistent (Fault.ofPg_ok_iff.mp done)
  | reportEvent lease event =>
      rcases answer_ok_iff.mp accepted with ⟨_, done, _⟩
      exact workerReportEvent_consistent consistent (Fault.ofPg_ok_iff.mp done)
  | completePreflight lease inputSha256 summary summarySha256 =>
      rcases answer_ok_iff.mp accepted with ⟨_, done, _⟩
      exact workerCompletePreflight_consistent consistent (Fault.ofPg_ok_iff.mp done)
  | confirmCancel lease =>
      rcases answer_ok_iff.mp accepted with ⟨_, done, _⟩
      exact workerConfirmCancel_consistent consistent (Fault.ofPg_ok_iff.mp done)
  | failJob lease error recoverable =>
      rcases answer_ok_iff.mp accepted with ⟨_, done, _⟩
      exact workerFailJob_consistent coherent consistent (Fault.ofPg_ok_iff.mp done)
  | commitSimulation lease request =>
      rcases answer_ok_iff.mp accepted with ⟨_, done, _⟩
      exact workerCommitSimulation_consistent consistent (Fault.ofPg_ok_iff.mp done)
  | recoverExpiredLeases =>
      rcases answer_ok_iff.mp accepted with ⟨_, done, _⟩
      exact workerRecoverExpiredLeases_consistent coherent consistent (Fault.ofPg_ok_iff.mp done)

theorem reachable_consistent (reachable : Reachable platform store) : Consistent store := by
  refine System.Reachable.invariant Consistent ?_ ?_ reachable
  · rintro start ⟨now, rfl⟩ row member
    cases member
  · intro source call target sourceReachable step consistent
    cases step with
    | committed accepted => exact execute_consistent (reachable_coherent sourceReachable) consistent accepted
    | rolledBack _ same _ => exact consistent.of_runs (by rw [same])

/-- In every reachable store the columns of each run are those of its status, and so both readings of a cancellation agree:
the mark in the row of a run that goes on, and what its job says to the recovery and to a failing worker. -/
theorem columns_tell_status (reachable : Reachable platform store) : ∀ row ∈ store.tables.simulations,
    row.columns.Belong row.status ∧
      ∀ job ∈ store.tables.workerJobs, job.runId = some row.runId -> row.status.hasStage = true ->
        (isCancellationRequested store.tables.simulations job = true ↔ row.status = .cancelling) := by
  intro row member
  have consistent := reachable_consistent reachable
  refine ⟨consistent row member, fun job jobMember present staged => ?_⟩
  rw [requested_of_job (reachable_coherent reachable) consistent jobMember member present staged, decide_eq_true_eq]

/-- The run of the sample history has started, and nobody has asked to cancel it. -/
theorem columns_tell_status_sample : ∃ row ∈ sampleStore.tables.simulations,
    row.runId = "run_1" ∧ row.columns = ⟨true, true, false, false, false, false⟩ := by
  have running : ∃ row ∈ sampleStore.tables.simulations, row.runId = "run_1" ∧ row.status = .running := by decide +kernel
  rcases running with ⟨row, member, named, status⟩
  have belongs := (columns_tell_status sampleStore_reachable row member).1
  rw [status] at belongs
  exact ⟨row, member, named, belongs⟩

end Queue
end FederatedIot
