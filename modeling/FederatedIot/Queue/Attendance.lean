import FederatedIot.Queue.Bystanders

namespace FederatedIot
namespace Queue

open Foundation Foundation.Relation Foundation.Outcome

/-!
# A run that is attended

A worker attends a run while it holds the lease of its job.  The run stays attended across
all that the others do; what the worker is answered depends on whether a cancellation has
been committed in between.
-/

variable {platform : Platform} {store result : Store} {now : Instant} {lease : Lease} {job : WorkerJob}
  {runId workerId : String} {status : JobStatus}

/-- The worker holds the job of the run, which has this status. -/
structure Attended (platform : Platform) (lease : Lease) (runId workerId : String) (status : JobStatus) (store : Store) :
    Prop where
  reachable : Reachable platform store
  job : ∃ job ∈ store.tables.workerJobs, HeldBy lease runId status job
  unrequested : status = .running -> ∀ row ∈ store.tables.simulations, row.runId = runId -> row.cancelRequestedAt = none
  registered : ∃ row ∈ store.tables.workerInstances, row.workerId = workerId

/-- The job keeps its holder and its status, and no cancellation is requested. -/
structure Continues (lease : Lease) (runId : String) (status : JobStatus) (store result : Store) : Prop where
  job : ∃ job ∈ result.tables.workerJobs, HeldBy lease runId status job
  runs : ∀ row ∈ result.tables.simulations, row.runId = runId -> ∃ old ∈ store.tables.simulations, old.runId = runId ∧
    row.cancelRequestedAt = old.cancelRequestedAt
  instances : ∀ row ∈ store.tables.workerInstances, ∃ later ∈ result.tables.workerInstances, later.workerId = row.workerId

theorem Attended.later (attended : Attended platform lease runId workerId status store) (reachable : Reachable platform result)
    (continues : Continues lease runId status store result) : Attended platform lease runId workerId status result := by
  refine ⟨reachable, continues.job, fun running row member same => ?_, ?_⟩
  · rcases continues.runs row member same with ⟨old, oldMember, sameOld, unchanged⟩
    exact unchanged.trans (attended.unrequested running old oldMember sameOld)
  · rcases attended.registered with ⟨row, member, sameWorker⟩
    rcases continues.instances row member with ⟨later, laterMember, sameLater⟩
    exact ⟨later, laterMember, sameLater.trans sameWorker⟩

theorem Leaves.continues (leaves : Leaves lease runId store result) (member : job ∈ store.tables.workerJobs)
    (held : HeldBy lease runId status job) : Continues lease runId status store result where
  job := ⟨job, leaves.jobs job member held.jobId, held⟩
  runs row rowMember same := ⟨row, leaves.runs row rowMember same, same, rfl⟩
  instances := leaves.instances

/-! ## What the others do -/

theorem Live.of_held (live : Live lease now store) (member : job ∈ store.tables.workerJobs)
    (held : HeldBy lease runId status job) (active : status.isActive = true) : job.leaseLive now = true :=
  live job member held.jobId (by rw [held.status]; exact active)

/-- Either the run is being cancelled now, or it is attended as before. -/
theorem Attended.interfered {call : Call} (attended : Attended platform lease runId workerId status store)
    (active : status.isActive = true) (step : Transaction platform store call result) (live : Live lease call.now store)
    (elsewhere : Elsewhere lease call.operation) :
    (call.cancels runId = true ∧ Attended platform lease runId workerId .cancelling result) ∨
      call.cancels runId = false ∧ Attended platform lease runId workerId status result := by
  rcases attended.job with ⟨job, member, held⟩
  have reachable : Reachable platform result := attended.reachable.step step
  cases step with
  | rolledBack _ same _ =>
      refine Or.inr ⟨Bool.eq_false_iff.mpr fun cancels => ?_,
        attended.later reachable ((Leaves.of_tables same).continues member held)⟩
      rcases (Call.cancels_iff.mp cancels).2 with ⟨_, impossible⟩
      cases impossible
  | @committed _ now operation reply accepted =>
      by_cases cancels : exists reason, operation = .cancelSimulation runId reason
      · left
        rcases cancels with ⟨reason, rfl⟩
        refine ⟨Call.cancels_iff.mpr ⟨⟨reason, rfl⟩, reply, rfl⟩, ?_⟩
        rcases answer_ok_iff.mp accepted with ⟨_, done, _⟩
        rcases cancelSimulation_requests (reachable_coherent attended.reachable) member held active done with
          ⟨cancelling, instances⟩
        refine ⟨reachable, cancelling, fun running => (by cases running), ?_⟩
        rcases attended.registered with ⟨row, rowMember, sameWorker⟩
        rcases instances row rowMember with ⟨later, laterMember, sameLater⟩
        exact ⟨later, laterMember, sameLater.trans sameWorker⟩
      · refine Or.inr ⟨Bool.eq_false_iff.mpr fun wrong => cancels (Call.cancels_iff.mp wrong).1, attended.later reachable ?_⟩
        exact (execute_leaves member held active (live.of_held member held active) elsewhere
          (fun reason same => cancels ⟨reason, same⟩) accepted).continues member held

/-- A transaction ends as its execution says. -/
theorem Transaction.of_ok {operation : Operation} {outcome : Except Fault Reply} {reply : Reply}
    (executed : execute platform now operation store = .ok (result, reply)) {later : Store}
    (step : Transaction platform store ⟨now, operation, outcome⟩ later) : outcome = .ok reply ∧ later = result := by
  cases step with
  | rolledBack failed _ _ =>
      rw [executed] at failed
      cases failed
  | committed done =>
      rw [executed] at done
      cases done
      exact ⟨rfl, rfl⟩

theorem Transaction.of_error {operation : Operation} {outcome : Except Fault Reply} {fault : Fault}
    (executed : execute platform now operation store = .error fault)
    (step : Transaction platform store ⟨now, operation, outcome⟩ result) :
    outcome = .error fault ∧ result.tables = store.tables := by
  cases step with
  | rolledBack failed same _ =>
      rw [executed] at failed
      cases failed
      exact ⟨rfl, same⟩
  | committed done =>
      rw [executed] at done
      cases done

/-- What is rolled back leaves the run attended. -/
theorem Attended.rolledBack {call : Call} (attended : Attended platform lease runId workerId status store)
    (step : Transaction platform store call result) (same : result.tables = store.tables) :
    Attended platform lease runId workerId status result := by
  rcases attended.job with ⟨job, member, held⟩
  exact attended.later (attended.reachable.step step) ((Leaves.of_tables same).continues member held)

/-! ## A run that is finished -/

theorem Finished.stays {call : Call} {final : SimulationStatus} (reachable : Reachable platform store)
    (finished : Finished runId final store.view) (step : Transaction platform store call result) :
    Finished runId final result.view :=
  finished.steps (step.steps (reachable_coherent reachable)) (reachable_coherent reachable)

theorem Finished.row {final : SimulationStatus} (finished : Finished runId final store.view) :
    ∃ row ∈ store.tables.simulations, row.runId = runId ∧ row.status = final := by
  rcases finished with ⟨_, run, member, sameRun, sameStatus⟩
  rcases List.mem_map.mp member with ⟨row, rowMember, rfl⟩
  exact ⟨row, rowMember, sameRun, sameStatus⟩

/-- A run has one final status. -/
theorem Finished.unique {first second : SimulationStatus} (left : Finished runId first store.view)
    (right : Finished runId second store.view) : first = second := by
  rcases left.row with ⟨row, member, sameRun, rfl⟩
  rcases right.row with ⟨other, otherMember, sameOther, rfl⟩
  rw [store.unique.runId.eq_of_mem member otherMember (sameRun.trans sameOther.symm)]

/-- Only a run that was cancelled can be cancelled again. -/
theorem Finished.not_cancelled {call : Call} {final : SimulationStatus} (finished : Finished runId final store.view)
    (other : final ≠ .cancelled) (step : Transaction platform store call result) : call.cancels runId = false := by
  rw [Bool.eq_false_iff]
  intro cancels
  rcases Call.cancels_iff.mp cancels with ⟨⟨reason, isOperation⟩, reply, isOutcome⟩
  cases step with
  | rolledBack _ _ _ => cases isOutcome
  | committed accepted =>
      cases isOperation
      rcases answer_ok_iff.mp accepted with ⟨record, done, _⟩
      rw [cancelSimulation, bind_ok_iff] at done
      rcases done with ⟨found, foundAccepted, done⟩
      rcases simulationById_row foundAccepted with ⟨row, member, sameRun, sameStatus⟩
      rcases finished.row with ⟨last, lastMember, sameLast, isLast⟩
      rw [sameStatus, store.unique.runId.eq_of_mem member lastMember (sameRun.trans sameLast.symm), isLast] at done
      have terminal := finished.1
      cases final with
      | cancelled => exact other rfl
      | completed | failed | failedRecoverable => cases done
      | _ => cases terminal

/-- A run that is attended is not finished. -/
theorem Attended.not_finished {final : SimulationStatus} (attended : Attended platform lease runId workerId status store)
    (active : status.isActive = true) : ¬Finished runId final store.view := by
  intro finished
  rcases attended.job with ⟨job, member, held⟩
  rcases row_of_job (reachable_coherent attended.reachable) member held.runId with ⟨row, rowMember, sameRun, sameStatus⟩
  rcases finished.row with ⟨last, lastMember, sameLast, isLast⟩
  have terminal := finished.1
  rw [← isLast, ← store.unique.runId.eq_of_mem rowMember lastMember (sameRun.trans sameLast.symm), sameStatus, held.status] at terminal
  cases status with
  | running | cancelling => cases terminal
  | queued | completed | cancelled | failed | failedRecoverable => cases active

/-! ## What the worker asks -/

/-- The check says whether the run is being cancelled. -/
theorem Attended.context (attended : Attended platform lease runId workerId status store) (active : status.isActive = true)
    (live : Live lease now store) : exists context, workerCancellationContext now lease store = some context ∧
      context.cancelRequested = decide (status = .cancelling) := by
  rcases attended.job with ⟨job, member, held⟩
  refine ⟨_, by rw [workerCancellationContext, held.selects_active member active (live.of_held member held active)]; rfl, ?_⟩
  dsimp only
  rw [held.status, held.runId]
  cases status with
  | running =>
      have none : ((store.tables.simulations.find? fun row => some runId = some row.runId).any fun row =>
          row.cancelRequestedAt.isSome) = false := by
        cases found : store.tables.simulations.find? fun row => some runId = some row.runId with
        | none => rfl
        | some row =>
            have matched := List.find?_some found
            have same : some runId = some row.runId := of_decide_eq_true matched
            have unset := attended.unrequested rfl row (List.mem_of_find?_eq_some found) (Option.some.inj same).symm
            change row.cancelRequestedAt.isSome = false
            rw [unset]
            rfl
      rw [none]
      rfl
  | cancelling => rfl
  | queued | completed | cancelled | failed | failedRecoverable => cases active

/-- A failure of the run counts as a cancellation exactly when one was requested. -/
theorem Attended.requested (attended : Attended platform lease runId workerId status store) (active : status.isActive = true)
    (held : HeldBy lease runId status job) :
    isCancellationRequested store.tables.simulations job = decide (status = .cancelling) := by
  unfold isCancellationRequested
  rw [held.status, held.runId]
  cases status with
  | running =>
      have none : (store.tables.simulations.any fun row => some runId = some row.runId && row.cancelRequestedAt.isSome) = false := by
        rw [List.any_eq_false]
        intro row member selected
        rcases Bool.and_eq_true_iff.mp selected with ⟨same, isSome⟩
        rw [attended.unrequested rfl row member (Option.some.inj (of_decide_eq_true same)).symm] at isSome
        cases isSome
      rw [none]
      rfl
  | cancelling => rfl
  | queued | completed | cancelled | failed | failedRecoverable => cases active

/-! ## What the worker reports -/

theorem recordHeartbeat_continues {jobId : String} {reply : Bool} (member : job ∈ store.tables.workerJobs)
    (held : HeldBy lease runId status job) (accepted : recordHeartbeat now jobId store = .ok (result, reply)) :
    Continues lease runId status store result := by
  simp only [recordHeartbeat, bind_ok_iff, pure_ok_iff, Prod.mk.injEq] at accepted
  rcases accepted with ⟨beaten, isBeaten, reported, isReported, emitted, isEmitted, rfl, _⟩
  have tables : emitted.tables.workerJobs = store.tables.workerJobs ∧
      emitted.tables.workerInstances = store.tables.workerInstances ∧
      emitted.tables.simulations = beaten.tables.simulations := by
    rw [(insertSimulationEvents_ok_iff.mp isEmitted).1, (insertWorkerJobEvents_ok_iff.mp isReported).1,
      (updateSimulations_ok_iff.mp isBeaten).2.1]
    exact ⟨rfl, rfl, rfl⟩
  refine ⟨⟨job, tables.1 ▸ member, held⟩, fun row rowMember same => ?_, fun row rowMember => ⟨row, tables.2.1 ▸ rowMember, rfl⟩⟩
  rw [tables.2.2, (updateSimulations_ok_iff.mp isBeaten).2.1] at rowMember
  rcases mem_update_cases rowMember with ⟨old, oldMember, _, rfl⟩ | ⟨oldMember, _⟩
  · exact ⟨old, oldMember, same, rfl⟩
  · exact ⟨row, oldMember, same, rfl⟩

/-- A heartbeat is accepted, and the run stays attended. -/
theorem Attended.heartbeat {leaseSeconds : Int} (attended : Attended platform lease runId workerId status store)
    (active : status.isActive = true) (live : Live lease now store) (duration : 1 ≤ leaseSeconds ∧ leaseSeconds ≤ 600) :
    exists result, workerHeartbeatForWorker now workerId lease leaseSeconds store = .ok (result, true) ∧
      Continues lease runId status store result := by
  rcases attended.job with ⟨job, member, held⟩
  have coherent := reachable_coherent attended.reachable
  rcases heartbeat_accepts coherent (reachable_eventsNumbered attended.reachable)
    (reachable_workerEventsNumbered attended.reachable) duration attended.registered member held active
    (live.of_held member held active) with ⟨result, accepted⟩
  refine ⟨result, accepted, ?_⟩
  simp only [workerHeartbeatForWorker, bind_ok_iff, require_ok_iff, exists_const] at accepted
  rcases accepted with ⟨_, seen, isSeen, accepted⟩
  have seenTables := (updateInstances_ok_iff.mp isSeen).1
  have marked : Leaves lease runId store seen := Leaves.of_instances isSeen fun _ => rfl
  split at accepted
  · rw [bind_ok_iff] at accepted
    rcases accepted with ⟨renewed, isRenewed, accepted⟩
    have renewedTables := (updateJobs_ok_iff.mp isRenewed).1
    have kept : ∃ later ∈ renewed.tables.workerJobs, HeldBy lease runId status later := by
      rw [renewedTables, seenTables]
      by_cases selected : (lease.holds now job && job.status.isActive) = true
      · exact ⟨_, mem_update_selected member selected,
          ⟨held.jobId, held.attemptId, held.leaseToken, held.jobType, held.runId, held.status⟩⟩
      · exact ⟨job, mem_update_other member (Bool.eq_false_iff.mpr selected), held⟩
    have before : (∀ row ∈ renewed.tables.simulations, row ∈ store.tables.simulations) ∧
        ∀ row ∈ store.tables.workerInstances, ∃ later ∈ renewed.tables.workerInstances, later.workerId = row.workerId := by
      rw [renewedTables]
      refine ⟨fun row rowMember => ?_, marked.instances⟩
      rw [seenTables] at rowMember
      exact rowMember
    split at accepted
    · rcases kept with ⟨later, laterMember, laterHeld⟩
      have rest := recordHeartbeat_continues laterMember laterHeld accepted
      refine ⟨rest.job, fun row rowMember same => ?_, fun row rowMember => ?_⟩
      · rcases rest.runs row rowMember same with ⟨old, oldMember, sameOld, unchanged⟩
        exact ⟨old, before.1 old oldMember, sameOld, unchanged⟩
      · rcases before.2 row rowMember with ⟨between, betweenMember, sameBetween⟩
        rcases rest.instances between betweenMember with ⟨last, lastMember, sameLast⟩
        exact ⟨last, lastMember, sameLast.trans sameBetween⟩
    · cases accepted
  · cases accepted

/-- An event of a run that is not being cancelled is accepted, and the run stays attended. -/
theorem Attended.report {event : Json} (attended : Attended platform lease runId workerId .running store)
    (live : Live lease now store)
    (consistent : forall job, HeldBy lease runId .running job -> ¬ Contradicts platform job event)
    (staged : event.text? "stage" ≠ none) :
    exists result, workerReportEvent platform now lease event store = .ok (result, true) ∧
      Continues lease runId .running store result := by
  rcases attended.job with ⟨job, member, held⟩
  have found := held.selects_active member rfl (live.of_held member held rfl)
  rcases report_accepts (reachable_coherent attended.reachable) (reachable_workerEventsNumbered attended.reachable)
    (reachable_eventsNumbered attended.reachable) found (consistent job held) (fun strips => staged strips.2) with
    ⟨result, accepted⟩
  refine ⟨result, accepted, ?_⟩
  rw [workerReportEvent, found] at accepted
  simp only [bind_ok_iff, require_ok_iff, exists_const] at accepted
  rcases accepted with ⟨_, _, agent, _, recorded⟩
  unfold recordEvent at recorded
  rw [held.runId] at recorded
  simp only [bind_ok_iff, pure_ok_iff, Prod.mk.injEq] at recorded
  rcases recorded with ⟨reported, isReported, stored, isStored, emitted, isEmitted, rfl, _⟩
  have storedTables := (updateSimulations_ok_iff.mp isStored).2.1
  have tables : emitted.tables.workerJobs = store.tables.workerJobs ∧
      emitted.tables.workerInstances = store.tables.workerInstances ∧
      emitted.tables.simulations = stored.tables.simulations ∧ reported.tables.simulations = store.tables.simulations := by
    rw [(insertSimulationEvents_ok_iff.mp isEmitted).1, storedTables, (insertWorkerJobEvents_ok_iff.mp isReported).1]
    exact ⟨rfl, rfl, rfl, rfl⟩
  refine ⟨⟨job, tables.1 ▸ member, held⟩, fun row rowMember same => ?_, fun row rowMember => ⟨row, tables.2.1 ▸ rowMember, rfl⟩⟩
  rw [tables.2.2.1, storedTables, tables.2.2.2] at rowMember
  rcases mem_update_cases rowMember with ⟨old, oldMember, _, rfl⟩ | ⟨oldMember, _⟩
  · exact ⟨old, oldMember, same, rfl⟩
  · exact ⟨row, oldMember, same, rfl⟩

/-- An event that contradicts the job raises. -/
theorem Attended.report_refused {event : Json} (attended : Attended platform lease runId workerId status store)
    (active : status.isActive = true) (live : Live lease now store)
    (contradicts : forall job, HeldBy lease runId status job -> Contradicts platform job event) :
    exists fault, workerReportEvent platform now lease event store = .error fault := by
  rcases attended.job with ⟨job, member, held⟩
  have found := held.selects_active member active (live.of_held member held active)
  have holds := held.holds (live.of_held member held active)
  cases outcome : workerReportEvent platform now lease event store with
  | error fault => exact ⟨fault, rfl⟩
  | ok answer => exact absurd ((refusedByGuard_iff holds).mpr (contradicts job held)) (report_ok found outcome).1

/-! ## What the worker settles -/

theorem Attended.confirm (attended : Attended platform lease runId workerId .cancelling store) (live : Live lease now store) :
    exists result, workerConfirmCancel now lease store = .ok (result, true) ∧ Finished runId .cancelled result.view := by
  rcases attended.job with ⟨job, member, held⟩
  exact confirm_accepts (reachable_coherent attended.reachable) (reachable_eventsNumbered attended.reachable) member held
    (live.of_held member held rfl)

/-- A failure is recorded, unless the run is being cancelled: then it is cancelled. -/
theorem Attended.fail (attended : Attended platform lease runId workerId status store) (active : status.isActive = true)
    (live : Live lease now store) (error : Json) (recoverable : Bool) :
    exists result, workerFailJob now lease error recoverable store = .ok (result, true) ∧
      Finished runId (if status = .cancelling then .cancelled else if recoverable then .failedRecoverable else .failed)
        result.view := by
  rcases attended.job with ⟨job, member, held⟩
  rcases fail_accepts (reachable_coherent attended.reachable) (reachable_eventsNumbered attended.reachable) member held active
    (live.of_held member held active) error recoverable with ⟨result, accepted, finished⟩
  rw [attended.requested active held] at finished
  refine ⟨result, accepted, ?_⟩
  by_cases cancelling : status = .cancelling
  · rw [if_pos cancelling]
    rw [decide_eq_true cancelling, if_pos rfl] at finished
    exact finished
  · rw [if_neg cancelling]
    rw [decide_eq_false cancelling, if_neg Bool.false_ne_true] at finished
    exact finished

/-- A run that is published is completed. -/
theorem publishRun_finishes {request : CommitRequest} {alarms : List Json} {reply : Bool} {row : Simulation}
    (member : row ∈ store.tables.simulations) (sameRun : row.runId = runId) (running : row.status = .running)
    (accepted : publishRun platform now lease runId request alarms store = .ok (result, reply)) :
    reply = true ∧ Finished runId .completed result.view := by
  simp only [publishRun, bind_ok_iff, require_ok_iff, exists_const, pure_ok_iff, Prod.mk.injEq] at accepted
  rcases accepted with ⟨generating, isGenerating, _, announced, isAnnounced, artifactRows, _, stored, isStored, alarmRows, _,
    indexed, isIndexed, committed, isCommitted, released, isReleased, reported, isReported, emitted, isEmitted, rfl, rfl⟩
  refine ⟨rfl, ?_⟩
  have started : ({ row with
      status := .generatingArtifacts, currentStage := none, artifactState := .generating, updatedAt := now } : Simulation) ∈
        indexed.tables.simulations := by
    rw [(insertAlarms_ok_iff.mp isIndexed).1, (insertArtifacts_ok_iff.mp isStored).1,
      (insertSimulationEvents_ok_iff.mp isAnnounced).1, (updateSimulations_ok_iff.mp isGenerating).2.1]
    exact @mem_update_selected _ _ _ (fun row : Simulation => { row with
      status := .generatingArtifacts, currentStage := none, artifactState := .generating, updatedAt := now }) _ member
      (Bool.and_eq_true_iff.mpr ⟨decide_eq_true sameRun, decide_eq_true running⟩)
  have finished := @mem_update_selected _ indexed.tables.simulations
    (fun row => row.runId = runId && row.status = .generatingArtifacts)
    (fun row => { row with status := .completed, artifactState := .committed, finishedAt := some now, updatedAt := now }) _
    started (Bool.and_eq_true_iff.mpr ⟨decide_eq_true sameRun, rfl⟩)
  have rows : emitted.tables.simulations = committed.tables.simulations := by
    rw [(insertSimulationEvents_ok_iff.mp isEmitted).1, (insertSimulationEvents_ok_iff.mp isReported).1,
      (updateJobs_ok_iff.mp isReleased).1]
  have present : ({ row with
      status := .completed, currentStage := none, artifactState := .committed, finishedAt := some now
      updatedAt := now } : Simulation) ∈ emitted.tables.simulations := by
    rw [rows, (updateSimulations_ok_iff.mp isCommitted).2.1]
    exact finished
  exact finished_of_row rfl present sameRun rfl

/-- What is committed completes the run. -/
theorem Attended.commit {request : CommitRequest} {reply : Bool} (attended : Attended platform lease runId workerId .running store)
    (live : Live lease now store) (accepted : workerCommitSimulation platform now lease request store = .ok (result, reply)) :
    reply = true ∧ Finished runId .completed result.view := by
  rcases attended.job with ⟨job, member, held⟩
  have found : selectJob? (fun job => lease.holds now job && job.jobType = .simulation && job.status = .running) store =
      some job := by
    refine selectJob?_only member ?_ fun other _ isSelected => ?_
    · rw [held.holds (live.of_held member held rfl), held.jobType, held.status]
      rfl
    · simp only [Bool.and_eq_true] at isSelected
      exact (Lease.holds_jobId isSelected.1.1).trans held.jobId.symm
  rw [workerCommitSimulation, found] at accepted
  simp only [bind_ok_iff] at accepted
  rcases accepted with ⟨alarms, _, published⟩
  rw [held.runId, Option.getD_some] at published
  rcases row_of_job (reachable_coherent attended.reachable) member held.runId with ⟨row, rowMember, sameRun, sameStatus⟩
  exact publishRun_finishes rowMember sameRun (sameStatus.trans (congrArg JobStatus.simulationStatus held.status)) published

/-- A run that is being cancelled is not committed. -/
theorem Attended.commit_refused {request : CommitRequest} (attended : Attended platform lease runId workerId .cancelling store) :
    workerCommitSimulation platform now lease request store = .ok (store, false) := by
  rcases attended.job with ⟨job, member, held⟩
  rw [workerCommitSimulation, selectJob?_none]
  intro row rowMember
  rw [Bool.eq_false_iff]
  intro selected
  simp only [Bool.and_eq_true, decide_eq_true_eq] at selected
  have same : row = job := held.alone member rfl rowMember (by rw [selected.2]; rfl)
  rw [same, held.status] at selected
  cases selected.2

end Queue
end FederatedIot
