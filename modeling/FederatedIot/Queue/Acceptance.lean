import FederatedIot.Queue.EventBoundary

namespace FederatedIot
namespace Queue

open Foundation Foundation.Relation Foundation.Outcome

/-!
# Transactions that succeed

The functions that settle a job violate no constraint.  Each statement has its condition,
which the assignments of these functions meet, and so a worker that holds the lease of its
job is answered without an error.
-/

variable {store result : Store} {now : Instant} {lease : Lease} {job : WorkerJob}

/-! ## Statements -/

/-- Jobs may be updated when they keep their admission, have a lease exactly when they are active,
and are not active together. -/
theorem updateJobs_accepts_slot {selects : WorkerJob -> Bool} {assign : WorkerJob -> WorkerJob}
    (kept : forall job, (assign job).admission = job.admission)
    (leased : ∀ job ∈ store.tables.workerJobs, selects job = true -> (assign job).status.isActive = (assign job).isLeased)
    (slot : AtMostOne (fun job => job.status.isActive)
      (update store.tables.workerJobs selects fun row => { assign row with updatedAt := now })) :
    exists result, updateJobs now selects assign store = .ok result := by
  have ids (job : WorkerJob) : (assign job).jobId = job.jobId := congrArg JobAdmission.jobId (kept job)
  have runs (job : WorkerJob) : (assign job).runId = job.runId := congrArg JobAdmission.runId (kept job)
  have checks : Tables.Checks { store.tables with
      workerJobs := update store.tables.workerJobs selects fun row => { assign row with updatedAt := now } } := by
    refine { store.checks with workerJobs := ?_ }
    intro row member
    rcases mem_update_cases member with ⟨old, oldMember, selected, rfl⟩ | ⟨oldMember, _⟩
    · refine ⟨?_, leased old oldMember selected⟩
      have types : (assign old).jobType = old.jobType := congrArg JobAdmission.jobType (kept old)
      change (assign old).jobType = .simulation ↔ (assign old).runId.isSome
      rw [types, runs]
      exact (store.checks.workerJobs old oldMember).1
    · exact store.checks.workerJobs row oldMember
  refine ⟨_, Store.install_accepts checks
    { store.unique with
      jobId := store.unique.jobId.update ids
      jobRun := ?_
      jobSeq := store.unique.jobSeq.update fun job => congrArg JobAdmission.enqueueSeq (kept job)
      jobSlot := slot }
    { store.foreign with
      jobDataset := store.foreign.jobDataset.update_rows fun job => congrArg JobAdmission.datasetId (kept job)
      jobRun := ?_
      workerEventJob := store.foreign.workerEventJob.update_parents ids } _⟩
  · unfold KeyedWhenPresent
    have same : (update store.tables.workerJobs selects fun row => { assign row with updatedAt := now }).filterMap
        WorkerJob.runId = store.tables.workerJobs.filterMap WorkerJob.runId := by
      unfold update
      rw [List.filterMap_map]
      congr 1
      funext row
      dsimp only [Function.comp_apply]
      split
      · exact runs row
      · rfl
    rw [same]
    exact store.unique.jobRun
  · intro row member runId present
    rcases mem_update_cases member with ⟨old, oldMember, _, rfl⟩ | ⟨oldMember, _⟩
    · exact store.foreign.jobRun old oldMember runId ((runs old).symm.trans present)
    · exact store.foreign.jobRun row oldMember runId present

/-- Jobs may be updated when none of them becomes active. -/
theorem updateJobs_accepts {selects : WorkerJob -> Bool} {assign : WorkerJob -> WorkerJob}
    (kept : forall job, (assign job).admission = job.admission)
    (leased : ∀ job ∈ store.tables.workerJobs, selects job = true -> (assign job).status.isActive = (assign job).isLeased)
    (inactive : forall job, selects job = true -> (assign job).status.isActive = true -> job.status.isActive = true) :
    exists result, updateJobs now selects assign store = .ok result := by
  apply updateJobs_accepts_slot kept leased
  apply (length_filter_update_le _).trans store.unique.jobSlot
  intro row _ selected active
  exact inactive row selected active

/-- Runs may be updated when they keep their admission, no selected run is terminal, and they are
not executed together. -/
theorem updateSimulations_accepts_slot {selects : Simulation -> Bool} {assign : Simulation -> Simulation}
    (kept : forall row, (assign row).admission = row.admission)
    (unfinished : ∀ row ∈ store.tables.simulations, selects row = true -> row.status.isTerminal = false)
    (checked : ∀ row ∈ store.tables.simulations, selects row = true -> (assign row).Check)
    (slot : AtMostOne (fun row => row.status.isExecution)
      (update store.tables.simulations selects fun row => { assign row with updatedAt := now })) :
    exists result, updateSimulations now selects assign store = .ok result := by
  have ids (row : Simulation) : (assign row).runId = row.runId := congrArg RunAdmission.runId (kept row)
  rw [updateSimulations, protectTerminalSimulation, require_of, ok_bind]
  · have checks : Tables.Checks { store.tables with
        simulations := update store.tables.simulations selects fun row => { assign row with updatedAt := now } } := by
      refine { store.checks with simulations := ?_ }
      intro row member
      rcases mem_update_cases member with ⟨old, oldMember, selected, rfl⟩ | ⟨oldMember, _⟩
      · exact checked old oldMember selected
      · exact store.checks.simulations row oldMember
    exact ⟨_, Store.install_accepts checks
      { store.unique with
        runId := store.unique.runId.update ids
        runSeq := store.unique.runSeq.update fun row => congrArg RunAdmission.enqueueSeq (kept row)
        runSlot := slot }
      { store.foreign with
        runDataset := store.foreign.runDataset.update_rows fun row => congrArg RunAdmission.datasetId (kept row)
        runProfile := store.foreign.runProfile.update_rows fun row =>
          congrArg RunAdmission.parameterProfileVersionId (kept row)
        runMapping := store.foreign.runMapping.update_rows fun row => congrArg RunAdmission.loadMappingVersionId (kept row)
        snapshotRun := store.foreign.snapshotRun.update_parents ids
        jobRun := store.foreign.jobRun.update_parents ids
        eventRun := store.foreign.eventRun.update_parents ids
        artifactRun := store.foreign.artifactRun.update_parents ids
        alarmRun := store.foreign.alarmRun.update_parents ids
        idempotencyRun := store.foreign.idempotencyRun.update_parents ids
        workerEventRun := store.foreign.workerEventRun.update_parents ids } _⟩
  · intro row member selected terminal
    rw [unfinished row member selected] at terminal
    cases terminal

/-- Runs may be updated when none of them becomes executed. -/
theorem updateSimulations_accepts {selects : Simulation -> Bool} {assign : Simulation -> Simulation}
    (kept : forall row, (assign row).admission = row.admission)
    (unfinished : ∀ row ∈ store.tables.simulations, selects row = true -> row.status.isTerminal = false)
    (checked : ∀ row ∈ store.tables.simulations, selects row = true -> (assign row).Check)
    (executes : ∀ row ∈ store.tables.simulations, selects row = true -> (assign row).status.isExecution = true ->
      row.status.isExecution = true) :
    exists result, updateSimulations now selects assign store = .ok result :=
  updateSimulations_accepts_slot kept unfinished checked ((length_filter_update_le executes).trans store.unique.runSlot)

/-- Datasets may be updated when they keep their identity. -/
theorem updateDatasets_accepts {selects : Dataset -> Bool} {assign : Dataset -> Dataset}
    (ids : forall row, (assign row).datasetId = row.datasetId) (keys : forall row, (assign row).storageKey = row.storageKey)
    (checked : ∀ row ∈ store.tables.datasets, selects row = true -> (assign row).Check) :
    exists result, updateDatasets now selects assign store = .ok result := by
  have checks : Tables.Checks { store.tables with
      datasets := update store.tables.datasets selects fun row => { assign row with updatedAt := now } } := by
    refine { store.checks with datasets := ?_ }
    intro row member
    rcases mem_update_cases member with ⟨old, oldMember, selected, rfl⟩ | ⟨oldMember, _⟩
    · exact checked old oldMember selected
    · exact store.checks.datasets row oldMember
  exact ⟨_, Store.install_accepts checks
    { store.unique with
      datasetId := store.unique.datasetId.update ids
      storageKey := store.unique.storageKey.update keys }
    { store.foreign with
      runDataset := store.foreign.runDataset.update_parents ids
      jobDataset := store.foreign.jobDataset.update_parents ids } _⟩

/-- The identifiers that are drawn for the rows of one insert differ. -/
theorem drawn_nodup {Row : Type} (last : Nat) (values : List Row) :
    (values.zipIdx.map fun entry => last + 1 + entry.2).Nodup := by
  have places : (values.zipIdx.map fun entry => last + 1 + entry.2) =
      (values.zipIdx.map Prod.snd).map fun place => last + 1 + place := by
    rw [List.map_map]
    rfl
  rw [places, List.zipIdx_map_snd]
  exact List.Nodup.map (fun first second same => Nat.add_left_cancel same) List.nodup_range'

/-- Events of existing runs may be inserted. -/
theorem insertSimulationEvents_accepts {values : List EventValues} (numbered : EventsNumbered store)
    (existing : ∀ value ∈ values, ∃ row ∈ store.tables.simulations, row.runId = value.runId) :
    exists result, insertSimulationEvents now values store = .ok result := by
  have checks : Tables.Checks { store.tables with
      simulationEvents := appendEvents now store.sequences.simulationEventId store.tables.eventRetention values
        store.tables.simulationEvents } := { store.checks with }
  refine ⟨_, Store.install_accepts checks { store.unique with eventId := ?_ } { store.foreign with eventRun := ?_ } _⟩
  · have whole : ((store.tables.simulationEvents ++ numberedEvents now store.sequences.simulationEventId values).map
        SimulationEvent.eventId).Nodup := by
      rw [List.map_append, numberedEvents, List.map_map]
      refine List.Nodup.append store.unique.eventId (drawn_nodup _ values) ?_
      intro eventId seen new
      rcases List.mem_map.mp seen with ⟨old, oldMember, rfl⟩
      rcases List.mem_map.mp new with ⟨entry, _, last⟩
      have later : old.eventId = store.sequences.simulationEventId + 1 + entry.2 := last.symm
      have drawn := numbered old oldMember
      omega
    exact whole.sublist (Live.appendEvents_sublist.map _)
  · intro event kept
    rcases List.mem_append.mp (Live.appendEvents_sublist.subset kept) with seen | new
    · exact store.foreign.eventRun event seen
    · rcases List.mem_map.mp new with ⟨entry, member, rfl⟩
      exact existing entry.1 (List.fst_mem_of_mem_zipIdx member)

theorem emitQueuePositionEvents_accepts (numbered : EventsNumbered store) :
    exists result, emitQueuePositionEvents now store = .ok result := by
  refine insertSimulationEvents_accepts numbered fun value member => ?_
  rcases List.mem_map.mp member with ⟨entry, inside, rfl⟩
  have queued := List.fst_mem_of_mem_zipIdx inside
  unfold queuedRuns at queued
  rw [List.mem_insertionSort, List.mem_filter] at queued
  exact ⟨entry.1, queued.1, rfl⟩

/-- Worker events of existing jobs and of their runs may be inserted. -/
theorem insertWorkerJobEvents_accepts {values : List WorkerEventValues} (numbered : WorkerEventsNumbered store)
    (existing : ∀ value ∈ values, ∃ job ∈ store.tables.workerJobs, job.jobId = value.jobId ∧ job.runId = value.runId) :
    exists result, insertWorkerJobEvents now values store = .ok result := by
  have checks : Tables.Checks { store.tables with
      workerJobEvents := store.tables.workerJobEvents ++
        numberedWorkerEvents now store.sequences.workerJobEventId values } := { store.checks with }
  refine ⟨_, Store.install_accepts checks { store.unique with workerEventId := ?_ }
    { store.foreign with workerEventJob := ?_, workerEventRun := ?_ } _⟩
  · unfold Keyed
    rw [List.map_append, numberedWorkerEvents, List.map_map]
    refine List.Nodup.append store.unique.workerEventId (drawn_nodup _ values) ?_
    intro eventId seen new
    rcases List.mem_map.mp seen with ⟨old, oldMember, rfl⟩
    rcases List.mem_map.mp new with ⟨entry, _, last⟩
    have later : old.eventId = store.sequences.workerJobEventId + 1 + entry.2 := last.symm
    have drawn := numbered old oldMember
    omega
  · intro row member
    rcases List.mem_append.mp member with seen | new
    · exact store.foreign.workerEventJob row seen
    · rcases List.mem_map.mp new with ⟨entry, inside, rfl⟩
      rcases existing entry.1 (List.fst_mem_of_mem_zipIdx inside) with ⟨job, jobMember, sameJob, _⟩
      exact ⟨job, jobMember, sameJob⟩
  · intro row member runId present
    rcases List.mem_append.mp member with seen | new
    · exact store.foreign.workerEventRun row seen runId present
    · rcases List.mem_map.mp new with ⟨entry, inside, rfl⟩
      rcases existing entry.1 (List.fst_mem_of_mem_zipIdx inside) with ⟨job, jobMember, _, sameRun⟩
      exact store.foreign.jobRun job jobMember runId (sameRun.trans present)

/-! ## The holder of a lease -/

/-- The job is the run's, and the worker with this lease is to settle it. -/
structure HeldBy (lease : Lease) (runId : String) (status : JobStatus) (job : WorkerJob) : Prop where
  jobId : job.jobId = lease.jobId
  attemptId : job.attemptId = some lease.attemptId
  leaseToken : job.leaseToken = some lease.leaseToken
  jobType : job.jobType = .simulation
  runId : job.runId = some runId
  status : job.status = status

theorem HeldBy.holds {runId : String} {status : JobStatus} (held : HeldBy lease runId status job)
    (live : job.leaseLive now = true) : lease.holds now job = true := by
  unfold Lease.holds
  rw [decide_eq_true held.jobId, decide_eq_true held.attemptId, decide_eq_true held.leaseToken, live]
  rfl

/-- The only selected job. -/
theorem selectJob?_only {selects : WorkerJob -> Bool} (member : job ∈ store.tables.workerJobs)
    (selected : selects job = true)
    (only : ∀ other ∈ store.tables.workerJobs, selects other = true -> other.jobId = job.jobId) :
    selectJob? selects store = some job := by
  cases found : selectJob? selects store with
  | none =>
      unfold selectJob? at found
      exact absurd selected (List.find?_eq_none.mp found job member)
  | some other =>
      rcases selectJob?_some found with ⟨otherMember, otherSelected⟩
      rw [store.unique.jobId.eq_of_mem otherMember member (only other otherMember otherSelected)]

/-- The run in a store in which it has its final status. -/
theorem finished_of_row {runId : String} {status : SimulationStatus} {row : Simulation} (terminal : status.isTerminal = true)
    (member : row ∈ store.tables.simulations) (sameRun : row.runId = runId) (sameStatus : row.status = status) :
    Finished runId status store.view :=
  ⟨terminal, row.view, List.mem_map_of_mem member, sameRun, sameStatus⟩

/-- The statements that close a run: the job is settled, then the run, and an event says so. -/
theorem closing_accepts {runId : String} {status final : JobStatus} (coherent : store.view.Coherent)
    (numbered : EventsNumbered store) (member : job ∈ store.tables.workerJobs) (held : HeldBy lease runId status job)
    (active : status.isActive = true) (terminal : final.isTerminal = true) (withdrawn : final ≠ .completed)
    {assignJob : WorkerJob -> WorkerJob} (keptJob : forall job, (assignJob job).admission = job.admission)
    (settledJob : forall job, (assignJob job).status.isActive = false ∧ (assignJob job).isLeased = false)
    {selects : Simulation -> Bool} {assign : Simulation -> Simulation}
    (keptRun : forall row, (assign row).admission = row.admission)
    (own : forall row, selects row = true -> row.runId = runId)
    (selected : forall row, row.runId = runId -> row.status = status.simulationStatus -> selects row = true)
    (assigned : forall row, (assign row).status = final.simulationStatus ∧ (assign row).currentStage = none) (payload : Json) :
    exists released settled reported, updateJobs now (fun job => job.jobId = lease.jobId) assignJob store = .ok released ∧
      updateSimulations now selects assign released = .ok settled ∧
      insertSimulationEvents now [{ runId, eventType := .state, payloadJson := payload }] settled = .ok reported ∧
      EventsNumbered reported ∧ Finished runId final.simulationStatus reported.view := by
  rcases row_of_job coherent member held.runId with ⟨row, rowMember, sameRun, sameStatus⟩
  rw [held.status] at sameStatus
  have unfinished : row.status.isTerminal = false ∧ final.simulationStatus.isExecution = false ∧
      final.simulationStatus.isTerminal = true ∧ final.simulationStatus.hasStage = false ∧
      final.simulationStatus ≠ .completed := by
    rw [sameStatus]
    revert active terminal withdrawn
    cases status <;> cases final <;> decide
  rcases unfinished with ⟨notTerminal, notExecuting, ends, noStage, notCompleted⟩
  have inactive (job : WorkerJob) (claims : (assignJob job).status.isActive = true) : job.status.isActive = true := by
    rw [(settledJob job).1] at claims
    cases claims
  rcases @updateJobs_accepts store now (fun job => job.jobId = lease.jobId) assignJob keptJob
    (fun job _ _ => (settledJob job).1.trans (settledJob job).2.symm) (fun job _ => inactive job) with ⟨released, isReleased⟩
  have releasedTables := (updateJobs_ok_iff.mp isReleased).1
  have onlyRow : ∀ other ∈ released.tables.simulations, selects other = true -> other = row := by
    intro other otherMember isSelected
    rw [releasedTables] at otherMember
    exact store.unique.runId.eq_of_mem otherMember rowMember ((own other isSelected).trans sameRun.symm)
  rcases @updateSimulations_accepts released now selects assign keptRun
    (fun other otherMember isSelected => onlyRow other otherMember isSelected ▸ notTerminal)
    (fun other _ _ => ⟨by rw [(assigned other).1, (assigned other).2, noStage]; rfl,
      fun completed => absurd ((assigned other).1.symm.trans completed) notCompleted⟩)
    (fun other _ _ executes => by rw [(assigned other).1, notExecuting] at executes; cases executes) with ⟨settled, isSettled⟩
  have settledTables := (updateSimulations_ok_iff.mp isSettled).2.1
  have rowReleased : row ∈ released.tables.simulations := by
    rw [releasedTables]
    exact rowMember
  have closed : ({ assign row with updatedAt := now } : Simulation) ∈ settled.tables.simulations := by
    rw [settledTables]
    exact @mem_update_selected _ _ _ (fun row : Simulation => { assign row with updatedAt := now }) _ rowReleased
      (selected row sameRun sameStatus)
  have closedRun : ({ assign row with updatedAt := now } : Simulation).runId = runId :=
    (congrArg RunAdmission.runId (keptRun row)).trans sameRun
  have keeps := (updateJobs_keeps isReleased keptJob).trans (updateSimulations_keeps isSettled keptRun)
  rcases @insertSimulationEvents_accepts settled now [{ runId, eventType := .state, payloadJson := payload }]
    (keeps.events numbered) (fun value isValue => ⟨_, closed, closedRun.trans (List.mem_singleton.mp isValue ▸ rfl)⟩) with
    ⟨reported, isReported⟩
  refine ⟨released, settled, reported, isReleased, isSettled, isReported,
    (keeps.trans (insertSimulationEvents_keeps isReported)).events numbered, ?_⟩
  rw [insertSimulationEvents_view isReported]
  exact finished_of_row ends closed closedRun (assigned row).1

/-! ## Settling a run -/

/-- The holder of a job that is being cancelled confirms the cancellation. -/
theorem confirm_accepts {runId : String} (coherent : store.view.Coherent) (numbered : EventsNumbered store)
    (member : job ∈ store.tables.workerJobs) (held : HeldBy lease runId .cancelling job) (live : job.leaseLive now = true) :
    exists result, workerConfirmCancel now lease store = .ok (result, true) ∧ Finished runId .cancelled result.view := by
  have found : selectJob? (fun job => lease.holds now job && job.status = .cancelling) store = some job := by
    refine selectJob?_only member ?_ fun other _ isSelected => ?_
    · rw [held.holds live, held.status]
      rfl
    · exact (Lease.holds_jobId (Bool.and_eq_true_iff.mp isSelected).1).trans held.jobId.symm
  rcases @closing_accepts store now lease job runId .cancelling .cancelled coherent numbered member held rfl rfl (by decide)
    (WorkerJob.settle .cancelled) (fun _ => rfl) (fun _ => ⟨rfl, rfl⟩)
    (fun row => row.runId = runId && row.status = .cancelling)
    (fun row => { row with
      status := .cancelled, currentStage := none, finishedAt := some now, artifactState := .incomplete })
    (fun _ => rfl) (fun row isSelected => of_decide_eq_true (Bool.and_eq_true_iff.mp isSelected).1)
    (fun row sameRun sameStatus => Bool.and_eq_true_iff.mpr ⟨decide_eq_true sameRun, decide_eq_true sameStatus⟩)
    (fun _ => ⟨rfl, rfl⟩) (.object [("previous_status", .string "CANCELLING"), ("status", .string "CANCELLED")]) with
    ⟨released, settled, reported, isReleased, isSettled, isReported, laterNumbered, finished⟩
  rcases @emitQueuePositionEvents_accepts reported now laterNumbered with ⟨announced, isAnnounced⟩
  refine ⟨announced, ?_, ?_⟩
  · rw [workerConfirmCancel, found]
    dsimp only
    rw [isReleased, ok_bind, held.runId]
    dsimp only
    rw [isSettled, ok_bind, stateEvent, isReported, ok_bind, isAnnounced]
    rfl
  · rw [emitQueuePositionEvents_view isAnnounced]
    exact finished

theorem HeldBy.selects_active {runId : String} {status : JobStatus} (member : job ∈ store.tables.workerJobs)
    (held : HeldBy lease runId status job) (active : status.isActive = true) (live : job.leaseLive now = true) :
    selectJob? (fun job => lease.holds now job && job.status.isActive) store = some job := by
  refine selectJob?_only member ?_ fun other _ isSelected => ?_
  · rw [held.holds live, held.status, active]
    rfl
  · exact (Lease.holds_jobId (Bool.and_eq_true_iff.mp isSelected).1).trans held.jobId.symm

theorem requireScheduler_accepts (coherent : store.view.Coherent) : requireScheduler store = .ok Unit.unit :=
  requireScheduler_ok_iff.mpr coherent.control

/-- The holder of a job fails it, and a job that is being cancelled is cancelled instead. -/
theorem fail_accepts {runId : String} {status : JobStatus} (coherent : store.view.Coherent) (numbered : EventsNumbered store)
    (member : job ∈ store.tables.workerJobs) (held : HeldBy lease runId status job) (active : status.isActive = true)
    (live : job.leaseLive now = true) (error : Json) (recoverable : Bool) :
    exists result, workerFailJob now lease error recoverable store = .ok (result, true) ∧
      Finished runId (if isCancellationRequested store.tables.simulations job then .cancelled
        else if recoverable then .failedRecoverable else .failed) result.view := by
  rw [workerFailJob, requireScheduler_accepts coherent, ok_bind, held.selects_active member active live]
  dsimp only
  by_cases requested : isCancellationRequested store.tables.simulations job = true
  · rcases @closing_accepts store now lease job runId status .cancelled coherent numbered member held active rfl (by decide)
      (fun job => { job.settle .cancelled with errorJson := none }) (fun _ => rfl) (fun _ => ⟨rfl, rfl⟩)
      (fun row => some runId = some row.runId && row.status.hasStage)
      (fun row => { row with
        status := .cancelled, currentStage := none, finishedAt := some now, artifactState := .incomplete, errorJson := none })
      (fun _ => rfl)
      (fun row isSelected => (Option.some.inj (of_decide_eq_true (Bool.and_eq_true_iff.mp isSelected).1)).symm)
      (fun row sameRun sameStatus => Bool.and_eq_true_iff.mpr ⟨decide_eq_true (congrArg some sameRun.symm), by
        rw [sameStatus]
        revert active
        cases status <;> decide⟩)
      (fun _ => ⟨rfl, rfl⟩) (.object [("previous_status", .string job.status.text), ("status", .string "CANCELLED")]) with
      ⟨released, settled, reported, isReleased, isSettled, isReported, laterNumbered, finished⟩
    rcases @emitQueuePositionEvents_accepts reported now laterNumbered with ⟨announced, isAnnounced⟩
    refine ⟨announced, ?_, ?_⟩
    · rw [requested, held.runId, Option.isSome_some, Bool.and_self, if_pos rfl, settleCancelled, isReleased, ok_bind, held.runId,
        isSettled, ok_bind, stateEvent, Option.getD_some, isReported, ok_bind, isAnnounced]
      rfl
    · rw [emitQueuePositionEvents_view isAnnounced, if_pos requested]
      exact finished
  · have final : (if recoverable then JobStatus.failedRecoverable else .failed).isTerminal = true ∧
        (if recoverable then JobStatus.failedRecoverable else .failed) ≠ .completed := by
      cases recoverable <;> decide
    rcases @closing_accepts store now lease job runId status (if recoverable then .failedRecoverable else .failed) coherent
      numbered member held active final.1 final.2
      (fun job => { job.settle (if recoverable then .failedRecoverable else .failed) with errorJson := some error })
      (fun _ => rfl) (fun _ => ⟨by cases recoverable <;> rfl, rfl⟩) (fun row => row.runId = runId)
      (fun row => { row with
        status := (if recoverable then JobStatus.failedRecoverable else .failed).simulationStatus, currentStage := none
        finishedAt := some now, errorJson := some error, artifactState := .incomplete })
      (fun _ => rfl) (fun row isSelected => of_decide_eq_true isSelected) (fun row sameRun _ => decide_eq_true sameRun)
      (fun _ => ⟨rfl, rfl⟩)
      (.object [("status", .string (if recoverable then JobStatus.failedRecoverable else .failed).text), ("error", error)]) with
      ⟨released, settled, reported, isReleased, isSettled, isReported, _, finished⟩
    refine ⟨reported, ?_, ?_⟩
    · rw [Bool.not_eq_true] at requested
      rw [requested, Bool.and_false, if_neg Bool.false_ne_true, settleFailed, isReleased, ok_bind, held.runId]
      dsimp only
      rw [isSettled, ok_bind, stateEvent, isReported]
      rfl
    · rw [if_neg requested]
      cases recoverable with
      | true => exact finished
      | false => exact finished

/-! ## Heartbeats -/

/-- A heartbeat is recorded for every job of that name whose run goes on. -/
theorem recordHeartbeat_accepts {jobId : String} (numbered : EventsNumbered store) (workerEvents : WorkerEventsNumbered store)
    (goingOn : ∀ job ∈ store.tables.workerJobs, job.jobId = jobId -> ∀ row ∈ store.tables.simulations,
      job.runId = some row.runId -> row.status.isTerminal = false) :
    exists result, recordHeartbeat now jobId store = .ok (result, true) := by
  rcases @updateSimulations_accepts store now
    (fun row => (store.tables.workerJobs.filter fun job => job.jobId = jobId).any fun job => job.runId = some row.runId)
    (fun row => { row with lastHeartbeatAt := some now }) (fun _ => rfl)
    (fun row member isSelected => by
      rcases List.any_eq_true.mp isSelected with ⟨job, inside, same⟩
      rcases List.mem_filter.mp inside with ⟨jobMember, sameJob⟩
      exact goingOn job jobMember (of_decide_eq_true sameJob) row member (of_decide_eq_true same))
    (fun row member _ => store.checks.simulations row member) (fun _ _ _ executes => executes) with ⟨beaten, isBeaten⟩
  have beatenTables := (updateSimulations_ok_iff.mp isBeaten).2
  have beatenJobs : beaten.tables.workerJobs = store.tables.workerJobs := by rw [beatenTables.1]
  have beatenEvents : WorkerEventsNumbered beaten := by
    unfold WorkerEventsNumbered
    rw [beatenTables.1, beatenTables.2]
    exact workerEvents
  rcases @insertWorkerJobEvents_accepts beaten now
    ((store.tables.workerJobs.filter fun job => job.jobId = jobId).map fun job =>
      { jobId := job.jobId, runId := job.runId, eventType := .heartbeat
        payloadJson := .object [("status", .string job.status.text)] }) beatenEvents
    (fun value isValue => by
      rcases List.mem_map.mp isValue with ⟨job, inside, rfl⟩
      rw [beatenJobs]
      exact ⟨job, List.mem_of_mem_filter inside, rfl, rfl⟩) with ⟨reported, isReported⟩
  have reportedTables := (insertWorkerJobEvents_ok_iff.mp isReported).1
  have reportedNumbered : EventsNumbered reported :=
    ((updateSimulations_keeps isBeaten fun _ => rfl).trans (insertWorkerJobEvents_keeps isReported)).events numbered
  rcases @insertSimulationEvents_accepts reported now
    ((store.tables.workerJobs.filter fun job => job.jobId = jobId).filterMap fun job => job.runId.map fun runId =>
      { runId, eventType := .heartbeat, payloadJson := .object [("status", .string job.status.text)] }) reportedNumbered
    (fun value isValue => by
      rcases List.mem_filterMap.mp isValue with ⟨job, inside, made⟩
      rcases Option.map_eq_some_iff.mp made with ⟨runId, present, rfl⟩
      rw [reportedTables]
      exact beaten.foreign.jobRun job (beatenJobs ▸ List.mem_of_mem_filter inside) runId present) with ⟨emitted, isEmitted⟩
  refine ⟨emitted, ?_⟩
  rw [recordHeartbeat, isBeaten, ok_bind, isReported, ok_bind, isEmitted]
  rfl

/-- The holder of a job renews its lease. -/
theorem heartbeat_accepts {runId workerId : String} {status : JobStatus} {leaseSeconds : Int}
    (coherent : store.view.Coherent) (numbered : EventsNumbered store) (workerEvents : WorkerEventsNumbered store)
    (duration : 1 ≤ leaseSeconds ∧ leaseSeconds ≤ 600)
    (registered : ∃ row ∈ store.tables.workerInstances, row.workerId = workerId)
    (member : job ∈ store.tables.workerJobs) (held : HeldBy lease runId status job) (active : status.isActive = true)
    (live : job.leaseLive now = true) :
    exists result, workerHeartbeatForWorker now workerId lease leaseSeconds store = .ok (result, true) := by
  rcases updateInstances_liveness now
    (fun row => row.workerId = workerId && row.workerContractVersion = "worker.task.v1") store with ⟨seen, isSeen⟩
  rcases updateInstances_ok_iff.mp isSeen with ⟨seenTables, seenSequences⟩
  have known : (store.tables.workerInstances.any fun row =>
      row.workerId = workerId && row.workerContractVersion = "worker.task.v1") = true := by
    rcases registered with ⟨row, rowMember, sameWorker⟩
    exact List.any_eq_true.mpr ⟨row, rowMember, Bool.and_eq_true_iff.mpr
      ⟨decide_eq_true sameWorker, decide_eq_true (store.checks.workerInstances row rowMember).2.1⟩⟩
  have seenJobs : seen.tables.workerJobs = store.tables.workerJobs := by rw [seenTables]
  have selected : (lease.holds now job && job.status.isActive) = true := by
    rw [held.holds live, held.status, active]
    rfl
  have only : ∀ other ∈ store.tables.workerJobs, other.jobId = lease.jobId -> other = job := fun other otherMember same =>
    store.unique.jobId.eq_of_mem otherMember member (same.trans held.jobId.symm)
  rcases @updateJobs_accepts seen now (fun job => lease.holds now job && job.status.isActive)
    (fun job => { job with leaseExpiresAt := some (now + seconds leaseSeconds), lastHeartbeatAt := some now })
    (fun _ => rfl)
    (fun other otherMember isSelected => by
      rcases Bool.and_eq_true_iff.mp isSelected with ⟨holds, isActive⟩
      rw [seenJobs] at otherMember
      rw [only other otherMember (Lease.holds_jobId holds)]
      change job.status.isActive = (job.attemptId.isSome && job.leaseToken.isSome && true)
      rw [held.attemptId, held.leaseToken, held.status, active]
      rfl)
    (fun _ isSelected _ => (Bool.and_eq_true_iff.mp isSelected).2) with ⟨renewed, isRenewed⟩
  rcases updateJobs_ok_iff.mp isRenewed with ⟨renewedTables, renewedSequences⟩
  have renewedNumbered : EventsNumbered renewed := by
    unfold EventsNumbered
    rw [renewedTables, renewedSequences, seenTables, seenSequences]
    exact numbered
  have renewedWorkerEvents : WorkerEventsNumbered renewed := by
    unfold WorkerEventsNumbered
    rw [renewedTables, renewedSequences, seenTables, seenSequences]
    exact workerEvents
  have goingOn : ∀ other ∈ renewed.tables.workerJobs, other.jobId = lease.jobId -> ∀ row ∈ renewed.tables.simulations,
      other.runId = some row.runId -> row.status.isTerminal = false := by
    intro other otherMember sameJob row rowMember sameRun
    have isRow : row ∈ store.tables.simulations := by
      rw [renewedTables, seenTables] at rowMember
      exact rowMember
    have runOf : job.runId = some row.runId := by
      rw [renewedTables, seenTables] at otherMember
      rcases mem_update_cases otherMember with ⟨old, oldMember, _, rfl⟩ | ⟨oldMember, _⟩
      · rw [← only old oldMember sameJob]
        exact sameRun
      · rw [← only other oldMember sameJob]
        exact sameRun
    rw [run_status_of_job coherent member isRow runOf, held.status]
    revert active
    cases status <;> decide
  rcases @recordHeartbeat_accepts renewed now lease.jobId renewedNumbered renewedWorkerEvents goingOn with ⟨result, done⟩
  refine ⟨result, ?_⟩
  rw [workerHeartbeatForWorker, require_of _ duration, ok_bind]
  dsimp only
  rw [isSeen, ok_bind, if_pos known, isRenewed, ok_bind, seenJobs,
    if_pos (List.any_eq_true.mpr ⟨job, member, selected⟩)]
  exact done

end Queue
end FederatedIot
