import FederatedIot.Queue.Announcements

namespace FederatedIot
namespace Queue

open Foundation Foundation.Relation Foundation.Outcome

/-!
# Terminal statuses in the event log

An event that carries a terminal status is inserted after its run has taken
that status in the same transaction, and a terminal run never changes again.
So whatever terminal status an event of the log carries, the row of its run has
it, then and ever after.
-/

variable {platform : Platform} {store middle result : Store} {now : Instant}

/-! ## Statements -/

/-- The row of the run has the status. -/
def HasStatus (simulations : List Simulation) (runId : String) (status : SimulationStatus) : Prop :=
  ∃ row ∈ simulations, row.runId = runId ∧ row.status = status

/-- Whatever terminal status the payload carries, the row of the run has it. -/
def Testified (simulations : List Simulation) (runId : String) (payload : Json) : Prop :=
  forall status : SimulationStatus, status.isTerminal = true ->
    payload.field? "status" = some (.string status.text) -> HasStatus simulations runId status

/-- Whatever terminal status an event of the log carries, its run has it. -/
def Testifies (tables : Tables) : Prop :=
  ∀ event ∈ tables.simulationEvents,
    Testified tables.simulations event.runId event.payloadJson

/-- Terminal statuses stay, and the new events are testified. -/
structure Witnessed (store result : Store) : Prop where
  stays : forall runId status, status.isTerminal = true ->
    HasStatus store.tables.simulations runId status ->
      HasStatus result.tables.simulations runId status
  events : ∀ event ∈ result.tables.simulationEvents, event ∈ store.tables.simulationEvents ∨
    Testified result.tables.simulations event.runId event.payloadJson

namespace Witnessed

theorem refl (store : Store) : Witnessed store store where
  stays := fun _ _ _ has => has
  events := fun _ member => Or.inl member

theorem trans (first : Witnessed store middle) (second : Witnessed middle result) :
    Witnessed store result where
  stays := fun runId status terminal has =>
    second.stays runId status terminal (first.stays runId status terminal has)
  events := by
    intro event member
    rcases second.events event member with earlier | testified
    · rcases first.events event earlier with before | testified
      · exact Or.inl before
      · exact Or.inr fun status terminal carried =>
          second.stays _ status terminal (testified status terminal carried)
    · exact Or.inr testified

theorem of_tables (runs : result.tables.simulations = store.tables.simulations)
    (events : result.tables.simulationEvents = store.tables.simulationEvents) :
    Witnessed store result where
  stays := by
    intro runId status _ has
    rw [runs]
    exact has
  events := by
    intro event member
    rw [events] at member
    exact Or.inl member

theorem testifies (witnessed : Witnessed store result) (before : Testifies store.tables) :
    Testifies result.tables := by
  intro event member
  rcases witnessed.events event member with earlier | testified
  · exact fun status terminal carried =>
      witnessed.stays _ status terminal (before event earlier status terminal carried)
  · exact testified

end Witnessed

theorem SimulationStatus.text_injective {first second : SimulationStatus}
    (same : first.text = second.text) : first = second := by
  cases first <;> cases second <;> first | rfl | (revert same; decide)

theorem testified_of_hasStatus {simulations : List Simulation} {runId : String} {payload : Json}
    {status : SimulationStatus} (carried : payload.field? "status" = some (.string status.text))
    (has : HasStatus simulations runId status) : Testified simulations runId payload := by
  intro other _ carriedOther
  rw [carried, Option.some.injEq, Json.string.injEq] at carriedOther
  rw [← SimulationStatus.text_injective carriedOther]
  exact has

/-- A payload whose status is not terminal. -/
theorem testified_of_open {simulations : List Simulation} {runId : String} {payload : Json}
    {status : SimulationStatus} (carried : payload.field? "status" = some (.string status.text))
    (goesOn : status.isTerminal = false) : Testified simulations runId payload := by
  intro other terminal carriedOther
  rw [carried, Option.some.injEq, Json.string.injEq] at carriedOther
  rw [← SimulationStatus.text_injective carriedOther, goesOn] at terminal
  cases terminal

theorem updateSimulations_witnessed {selects : Simulation -> Bool}
    {assign : Simulation -> Simulation}
    (accepted : updateSimulations now selects assign store = .ok result) : Witnessed store result := by
  rcases updateSimulations_ok_iff.mp accepted with ⟨protected_, tables, _⟩
  refine ⟨?_, ?_⟩
  · rintro runId status terminal ⟨row, member, sameRun, rfl⟩
    rw [tables]
    cases selected : selects row with
    | true =>
        have kept := protected_ row member selected terminal
        refine ⟨_, mem_update_selected member selected, ?_, ?_⟩
        · change (assign row).runId = runId
          rw [kept, sameRun]
        · change (assign row).status = row.status
          rw [kept]
    | false => exact ⟨row, mem_update_other member selected, sameRun, rfl⟩
  · intro event member
    rw [tables] at member
    exact Or.inl member

theorem updateJobs_witnessed {selects : WorkerJob -> Bool} {assign : WorkerJob -> WorkerJob}
    (accepted : updateJobs now selects assign store = .ok result) : Witnessed store result := by
  have tables := (updateJobs_ok_iff.mp accepted).1
  apply Witnessed.of_tables <;> rw [tables]

theorem updateDatasets_witnessed {selects : Dataset -> Bool} {assign : Dataset -> Dataset}
    (accepted : updateDatasets now selects assign store = .ok result) : Witnessed store result := by
  have tables := (updateDatasets_ok_iff.mp accepted).1
  apply Witnessed.of_tables <;> rw [tables]

theorem updateInstances_witnessed {selects : WorkerInstance -> Bool}
    {assign : WorkerInstance -> WorkerInstance}
    (accepted : updateInstances selects assign store = .ok result) : Witnessed store result := by
  have tables := (updateInstances_ok_iff.mp accepted).1
  apply Witnessed.of_tables <;> rw [tables]

theorem insertWorkerJobEvents_witnessed {values : List WorkerEventValues}
    (accepted : insertWorkerJobEvents now values store = .ok result) : Witnessed store result := by
  have tables := (insertWorkerJobEvents_ok_iff.mp accepted).1
  apply Witnessed.of_tables <;> rw [tables]

/-- An insert of events whose terminal statuses the runs already have. -/
theorem insertSimulationEvents_witnessed {values : List EventValues}
    (accepted : insertSimulationEvents now values store = .ok result)
    (testified : ∀ value ∈ values,
      Testified store.tables.simulations value.runId value.payloadJson) :
    Witnessed store result := by
  have tables := (insertSimulationEvents_ok_iff.mp accepted).1
  refine ⟨?_, ?_⟩
  · intro runId status _ has
    rw [tables]
    exact has
  · intro event member
    rw [tables] at member ⊢
    rcases mem_of_mem_appendEvents member with before | new
    · exact Or.inl before
    · right
      rcases List.mem_map.mp new with ⟨entry, entryMember, rfl⟩
      exact testified entry.1 (List.fst_mem_of_mem_zipIdx entryMember)

theorem insertEvent_witnessed {value : EventValues}
    (accepted : insertSimulationEvents now [value] store = .ok result)
    (testified : Testified store.tables.simulations value.runId value.payloadJson) :
    Witnessed store result := by
  apply insertSimulationEvents_witnessed accepted
  intro other member
  rw [List.mem_singleton.mp member]
  exact testified

/-- The announced positions carry no terminal status. -/
theorem emitQueuePositionEvents_witnessed
    (accepted : emitQueuePositionEvents now store = .ok result) : Witnessed store result := by
  apply insertSimulationEvents_witnessed accepted
  intro value member
  rcases List.mem_map.mp member with ⟨entry, _, rfl⟩
  exact @testified_of_open _ _ _ .queued rfl rfl

/-- A row that an update has written. -/
theorem hasStatus_of_update {selects : Simulation -> Bool} {assign : Simulation -> Simulation}
    (accepted : updateSimulations now selects assign store = .ok result) {row : Simulation}
    (member : row ∈ store.tables.simulations) (selected : selects row = true) :
    HasStatus result.tables.simulations (assign row).runId (assign row).status := by
  rw [(updateSimulations_ok_iff.mp accepted).2.1]
  exact ⟨_, mem_update_selected member selected, rfl, rfl⟩

/-- An active job's status is not terminal. -/
theorem testified_of_active {simulations : List Simulation} {runId : String} {payload : Json}
    {job : WorkerJob} (active : job.status.isActive = true)
    (carried : payload.field? "status" = some (.string job.status.text)) :
    Testified simulations runId payload := by
  rw [← JobStatus.simulationStatus_text] at carried
  apply testified_of_open carried
  rw [JobStatus.simulationStatus_isTerminal]
  cases status : job.status with
  | running | cancelling => rfl
  | queued | completed | cancelled | failed | failedRecoverable =>
      rw [status] at active
      cases active

/-- The run of a job, whose status goes with the job's. -/
theorem row_of_job (coherent : store.view.Coherent) {job : WorkerJob}
    (member : job ∈ store.tables.workerJobs) {runId : String} (present : job.runId = some runId) :
    ∃ row ∈ store.tables.simulations, row.runId = runId ∧
      row.status = job.status.simulationStatus := by
  rcases store.foreign.jobRun job member runId present with ⟨row, rowMember, rfl⟩
  exact ⟨row, rowMember, rfl, run_status_of_job coherent member rowMember present⟩

/-! ## Worker transactions -/

theorem recordHeartbeat_witnessed {jobId : String} {reply : Bool}
    (active : ∀ job ∈ store.tables.workerJobs, job.jobId = jobId -> job.status.isActive = true)
    (accepted : recordHeartbeat now jobId store = .ok (result, reply)) : Witnessed store result := by
  unfold recordHeartbeat at accepted
  simp only [bind_ok_iff, pure_ok_iff, Prod.mk.injEq] at accepted
  rcases accepted with ⟨beaten, beatenAccepted, reported, reportedAccepted, emitted,
    emittedAccepted, rfl, _⟩
  have before := (updateSimulations_witnessed beatenAccepted).trans
    (insertWorkerJobEvents_witnessed reportedAccepted)
  refine before.trans (insertSimulationEvents_witnessed emittedAccepted ?_)
  intro value member
  rcases List.mem_filterMap.mp member with ⟨job, jobMember, mapped⟩
  rcases List.mem_filter.mp jobMember with ⟨stored, same⟩
  rcases Option.map_eq_some_iff.mp mapped with ⟨runId, _, rfl⟩
  exact testified_of_active (active job stored (of_decide_eq_true same)) rfl

theorem workerHeartbeatForWorker_witnessed {workerId : String} {lease : Lease} {leaseSeconds : Int}
    {reply : Bool}
    (accepted : workerHeartbeatForWorker now workerId lease leaseSeconds store = .ok (result, reply)) :
    Witnessed store result := by
  unfold workerHeartbeatForWorker at accepted
  simp only [bind_ok_iff, require_ok_iff, exists_const] at accepted
  rcases accepted with ⟨_, seen, seenAccepted, accepted⟩
  have instances := updateInstances_witnessed seenAccepted
  split at accepted
  · rw [bind_ok_iff] at accepted
    rcases accepted with ⟨renewed, renewedAccepted, accepted⟩
    have jobs := instances.trans (updateJobs_witnessed renewedAccepted)
    split at accepted
    · rename_i held
      rcases List.any_eq_true.mp held with ⟨job, member, guard⟩
      rw [Bool.and_eq_true] at guard
      refine jobs.trans (recordHeartbeat_witnessed ?_ accepted)
      intro row rowMember sameId
      rw [(updateJobs_ok_iff.mp renewedAccepted).1] at rowMember
      rcases mem_update_cases rowMember with ⟨old, oldMember, selected, rfl⟩ | ⟨oldMember, passed⟩
      · exact (Bool.and_eq_true_iff.mp selected).2
      · rw [seen.unique.jobId.eq_of_mem oldMember member
          (sameId.trans (Lease.holds_jobId guard.1).symm)]
        exact guard.2
    · cases accepted
      exact jobs
  · cases accepted
    exact instances

theorem workerReportEvent_witnessed {lease : Lease} {event : Json} {reply : Bool}
    (accepted : workerReportEvent platform now lease event store = .ok (result, reply)) :
    Witnessed store result := by
  unfold workerReportEvent at accepted
  split at accepted
  · cases accepted
    exact Witnessed.refl store
  · rename_i job selected
    have guard := (selectJob?_some selected).2
    rw [Bool.and_eq_true] at guard
    simp only [bind_ok_iff, require_ok_iff, exists_const] at accepted
    rcases accepted with ⟨_, _, agent, _, recorded⟩
    unfold recordEvent at recorded
    rw [bind_ok_iff] at recorded
    rcases recorded with ⟨reported, reportedAccepted, recorded⟩
    have reports := insertWorkerJobEvents_witnessed reportedAccepted
    split at recorded
    · cases recorded
      exact reports
    · simp only [bind_ok_iff, pure_ok_iff, Prod.mk.injEq] at recorded
      rcases recorded with ⟨staged, stagedAccepted, emitted, emittedAccepted, rfl, _⟩
      refine (reports.trans (updateSimulations_witnessed stagedAccepted)).trans
        (insertEvent_witnessed emittedAccepted ?_)
      exact testified_of_active guard.2 rfl

theorem workerCompletePreflight_witnessed {lease : Lease} {inputSha256 summarySha256 : String}
    {summary : Json} {reply : Bool}
    (accepted : workerCompletePreflight now lease inputSha256 summary summarySha256 store =
      .ok (result, reply)) : Witnessed store result := by
  unfold workerCompletePreflight at accepted
  split at accepted
  · cases accepted
    exact Witnessed.refl store
  · simp only [bind_ok_iff, require_ok_iff, exists_const, pure_ok_iff, Prod.mk.injEq] at accepted
    rcases accepted with ⟨validated, validatedAccepted, _, completed, completedAccepted, rfl, _⟩
    exact (updateDatasets_witnessed validatedAccepted).trans (updateJobs_witnessed completedAccepted)

theorem workerConfirmCancel_witnessed {lease : Lease} {reply : Bool}
    (coherent : store.view.Coherent)
    (accepted : workerConfirmCancel now lease store = .ok (result, reply)) :
    Witnessed store result := by
  unfold workerConfirmCancel at accepted
  split at accepted
  · cases accepted
    exact Witnessed.refl store
  · rename_i job selected
    rcases selectJob?_some selected with ⟨member, guard⟩
    simp only [Bool.and_eq_true, decide_eq_true_eq] at guard
    rw [bind_ok_iff] at accepted
    rcases accepted with ⟨cancelled, cancelledAccepted, accepted⟩
    have jobs := updateJobs_witnessed cancelledAccepted
    split at accepted
    · cases accepted
      exact jobs
    · rename_i runId present
      simp only [bind_ok_iff, pure_ok_iff, Prod.mk.injEq] at accepted
      rcases accepted with ⟨settled, settledAccepted, reported, reportedAccepted, announced,
        announcedAccepted, rfl, _⟩
      rcases row_of_job coherent member present with ⟨row, rowMember, rfl, agreed⟩
      have stored : row ∈ cancelled.tables.simulations := by
        rw [(updateJobs_ok_iff.mp cancelledAccepted).1]
        exact rowMember
      have has := hasStatus_of_update settledAccepted stored (by simp [agreed, guard.2, JobStatus.simulationStatus])
      have reports := (jobs.trans (updateSimulations_witnessed settledAccepted)).trans
        (insertEvent_witnessed reportedAccepted (testified_of_hasStatus rfl has))
      exact reports.trans (emitQueuePositionEvents_witnessed announcedAccepted)

theorem settleCancelled_witnessed {lease : Lease} {job : WorkerJob} {reply : Bool}
    (coherent : store.view.Coherent) (member : job ∈ store.tables.workerJobs)
    (active : job.status.isActive = true) {runId : String} (present : job.runId = some runId)
    (accepted : settleCancelled now lease job store = .ok (result, reply)) :
    Witnessed store result := by
  unfold settleCancelled at accepted
  simp only [bind_ok_iff, pure_ok_iff, Prod.mk.injEq] at accepted
  rcases accepted with ⟨cancelled, cancelledAccepted, settled, settledAccepted, reported,
    reportedAccepted, announced, announcedAccepted, rfl, _⟩
  rcases row_of_job coherent member present with ⟨row, rowMember, rfl, agreed⟩
  have stored : row ∈ cancelled.tables.simulations := by
    rw [(updateJobs_ok_iff.mp cancelledAccepted).1]
    exact rowMember
  have staged : row.status.hasStage = true := by
    rw [agreed]
    cases status : job.status with
    | running | cancelling => rfl
    | queued | completed | cancelled | failed | failedRecoverable =>
        rw [status] at active
        cases active
  have has := hasStatus_of_update settledAccepted stored (by simp [present, staged])
  rw [present] at reportedAccepted
  have reports := ((updateJobs_witnessed cancelledAccepted).trans
    (updateSimulations_witnessed settledAccepted)).trans
      (insertEvent_witnessed reportedAccepted (testified_of_hasStatus rfl has))
  exact reports.trans (emitQueuePositionEvents_witnessed announcedAccepted)

theorem settleFailed_witnessed {lease : Lease} {job : WorkerJob} {error : Json}
    {finalStatus : JobStatus} {reply : Bool} (member : job ∈ store.tables.workerJobs)
    (accepted : settleFailed now lease job error finalStatus store = .ok (result, reply)) :
    Witnessed store result := by
  unfold settleFailed at accepted
  rw [bind_ok_iff] at accepted
  rcases accepted with ⟨failed, failedAccepted, accepted⟩
  have jobs := updateJobs_witnessed failedAccepted
  split at accepted
  · simp only [bind_ok_iff, pure_ok_iff, Prod.mk.injEq] at accepted
    rcases accepted with ⟨invalidated, invalidatedAccepted, rfl, _⟩
    exact jobs.trans (updateDatasets_witnessed invalidatedAccepted)
  · rename_i runId present
    simp only [bind_ok_iff, pure_ok_iff, Prod.mk.injEq] at accepted
    rcases accepted with ⟨settled, settledAccepted, reported, reportedAccepted, rfl, _⟩
    rcases store.foreign.jobRun job member runId present with ⟨row, rowMember, rfl⟩
    have stored : row ∈ failed.tables.simulations := by
      rw [(updateJobs_ok_iff.mp failedAccepted).1]
      exact rowMember
    have has := hasStatus_of_update settledAccepted stored (by simp)
    refine (jobs.trans (updateSimulations_witnessed settledAccepted)).trans
      (insertEvent_witnessed reportedAccepted (testified_of_hasStatus ?_ has))
    change _ = some (Json.string finalStatus.simulationStatus.text)
    rw [JobStatus.simulationStatus_text]
    rfl

theorem workerFailJob_witnessed {lease : Lease} {error : Json} {recoverable : Bool} {reply : Bool}
    (coherent : store.view.Coherent)
    (accepted : workerFailJob now lease error recoverable store = .ok (result, reply)) :
    Witnessed store result := by
  unfold workerFailJob at accepted
  rw [bind_ok_iff] at accepted
  rcases accepted with ⟨_, _, accepted⟩
  split at accepted
  · cases accepted
    exact Witnessed.refl store
  · rename_i job selected
    rcases selectJob?_some selected with ⟨member, guard⟩
    rw [Bool.and_eq_true] at guard
    split at accepted
    · rename_i requested
      rcases Option.isSome_iff_exists.mp (Bool.and_eq_true_iff.mp requested).1 with ⟨runId, present⟩
      exact settleCancelled_witnessed coherent member guard.2 present accepted
    · exact settleFailed_witnessed member accepted

theorem publishRun_witnessed {lease : Lease} {runId : String} {request : CommitRequest}
    {alarms : List Json} {reply : Bool}
    (accepted : publishRun platform now lease runId request alarms store = .ok (result, reply)) :
    Witnessed store result := by
  unfold publishRun at accepted
  simp only [bind_ok_iff, require_ok_iff, exists_const, pure_ok_iff, Prod.mk.injEq] at accepted
  rcases accepted with ⟨generating, generatingAccepted, found, announced, announcedAccepted, rows,
    rowsConverted, stored, storedAccepted, _, _, indexed, indexedAccepted, committed,
    committedAccepted, released, releasedAccepted, reported, reportedAccepted, emitted,
    emittedAccepted, rfl, _⟩
  rcases List.any_eq_true.mp found with ⟨row, rowMember, selected⟩
  have sameRun : row.runId = runId := of_decide_eq_true (Bool.and_eq_true_iff.mp selected).1
  rcases hasStatus_of_update generatingAccepted rowMember selected with
    ⟨generated, generatedMember, generatedRun, generatedStatus⟩
  have generatedIndexed : generated ∈ indexed.tables.simulations := by
    rw [(insertAlarms_ok_iff.mp indexedAccepted).1, (insertArtifacts_ok_iff.mp storedAccepted).1,
      (insertSimulationEvents_ok_iff.mp announcedAccepted).1]
    exact generatedMember
  have completed := hasStatus_of_update committedAccepted generatedIndexed
    (by simp [generatedRun, generatedStatus, sameRun])
  have sameGenerated : generated.runId = runId := generatedRun.trans sameRun
  have has : HasStatus released.tables.simulations runId .completed := by
    rw [(updateJobs_ok_iff.mp releasedAccepted).1]
    exact sameGenerated ▸ completed
  have hasReported : HasStatus reported.tables.simulations runId .completed := by
    rw [(insertSimulationEvents_ok_iff.mp reportedAccepted).1]
    exact has
  have announcements := (updateSimulations_witnessed generatingAccepted).trans
    (insertEvent_witnessed announcedAccepted
      (@testified_of_open _ _ _ .generatingArtifacts rfl rfl))
  have artifacts : Witnessed announced stored := by
    have tables := (insertArtifacts_ok_iff.mp storedAccepted).1
    apply Witnessed.of_tables <;> rw [tables]
  have alarmRows : Witnessed stored indexed := by
    have tables := (insertAlarms_ok_iff.mp indexedAccepted).1
    apply Witnessed.of_tables <;> rw [tables]
  have updates := ((announcements.trans artifacts).trans alarmRows).trans
    ((updateSimulations_witnessed committedAccepted).trans (updateJobs_witnessed releasedAccepted))
  exact updates.trans ((insertEvent_witnessed reportedAccepted (testified_of_hasStatus rfl has)).trans
    (insertEvent_witnessed emittedAccepted (testified_of_hasStatus rfl hasReported)))

theorem workerCommitSimulation_witnessed {lease : Lease} {request : CommitRequest} {reply : Bool}
    (accepted : workerCommitSimulation platform now lease request store = .ok (result, reply)) :
    Witnessed store result := by
  unfold workerCommitSimulation at accepted
  split at accepted
  · cases accepted
    exact Witnessed.refl store
  · rw [bind_ok_iff] at accepted
    rcases accepted with ⟨alarms, _, accepted⟩
    exact publishRun_witnessed accepted

theorem workerRecoverExpiredLeases_witnessed {reply : Nat}
    (accepted : workerRecoverExpiredLeases now store = .ok (result, reply)) :
    Witnessed store result := by
  unfold workerRecoverExpiredLeases at accepted
  simp only [bind_ok_iff] at accepted
  rcases accepted with ⟨_, _, released, releasedAccepted, reported, reportedAccepted, invalidated,
    invalidatedAccepted, settled, settledAccepted, emitted, emittedAccepted, accepted⟩
  have sameRuns : invalidated.tables.simulations = store.tables.simulations := by
    rw [(updateDatasets_ok_iff.mp invalidatedAccepted).1,
      (insertWorkerJobEvents_ok_iff.mp reportedAccepted).1, (updateJobs_ok_iff.mp releasedAccepted).1]
  have updates := ((updateJobs_witnessed releasedAccepted).trans
    (insertWorkerJobEvents_witnessed reportedAccepted)).trans
      ((updateDatasets_witnessed invalidatedAccepted).trans
        (updateSimulations_witnessed settledAccepted))
  have emits : Witnessed settled emitted := by
    apply insertSimulationEvents_witnessed emittedAccepted
    intro value member
    rcases List.mem_filterMap.mp member with ⟨row, rowMember, mapped⟩
    rcases List.mem_filter.mp rowMember with ⟨stored, selected⟩
    rcases Option.map_eq_some_iff.mp mapped with ⟨candidate, found, rfl⟩
    rw [← sameRuns] at stored
    have has := hasStatus_of_update settledAccepted stored selected
    rw [found] at has
    have carried : (candidate.runEvent row).payloadJson.field? "status" =
        some (.string candidate.finalStatus.simulationStatus.text) := by
      rw [JobStatus.simulationStatus_text]
      rfl
    exact testified_of_hasStatus carried has
  split at accepted
  · simp only [bind_ok_iff, pure_ok_iff, Prod.mk.injEq] at accepted
    rcases accepted with ⟨announced, announcedAccepted, rfl, _⟩
    exact (updates.trans emits).trans (emitQueuePositionEvents_witnessed announcedAccepted)
  · cases accepted
    exact updates.trans emits

theorem startJob_witnessed {attemptId leaseToken : String} {leaseSeconds : Int} {job : WorkerJob}
    {reply : Option ClaimedJob}
    (accepted : startJob now attemptId leaseToken leaseSeconds job store = .ok (result, reply)) :
    Witnessed store result := by
  unfold startJob at accepted
  rw [bind_ok_iff] at accepted
  rcases accepted with ⟨claimed, claimedAccepted, accepted⟩
  have jobs := updateJobs_witnessed claimedAccepted
  cases kind : job.jobType with
  | datasetPreflight =>
      rw [kind] at accepted
      cases accepted
      exact jobs
  | simulation =>
      rw [kind] at accepted
      simp only [bind_ok_iff, require_ok_iff, exists_const, pure_ok_iff, Prod.mk.injEq] at accepted
      rcases accepted with ⟨started, startedAccepted, _, reported, reportedAccepted, announced,
        announcedAccepted, rfl, _⟩
      have reports := (jobs.trans (updateSimulations_witnessed startedAccepted)).trans
        (insertEvent_witnessed reportedAccepted (@testified_of_open _ _ _ .running rfl rfl))
      exact reports.trans (emitQueuePositionEvents_witnessed announcedAccepted)

theorem workerClaimNextJobForWorker_witnessed {workerId attemptId leaseToken : String}
    {leaseSeconds : Int} {reply : Option ClaimedJob}
    (accepted : workerClaimNextJobForWorker now workerId attemptId leaseToken leaseSeconds store =
      .ok (result, reply)) : Witnessed store result := by
  unfold workerClaimNextJobForWorker at accepted
  simp only [bind_ok_iff, require_ok_iff, exists_const] at accepted
  rcases accepted with ⟨_, _, seen, seenAccepted, _, accepted⟩
  simp only [requireScheduler_ok_iff, exists_const] at accepted
  rcases accepted with ⟨_, ⟨recovered, count⟩, recoveredAccepted, accepted⟩
  have recovery := (updateInstances_witnessed seenAccepted).trans
    (workerRecoverExpiredLeases_witnessed recoveredAccepted)
  split at accepted
  · cases accepted
    exact recovery
  · split at accepted
    · cases accepted
      exact recovery
    · exact recovery.trans (startJob_witnessed accepted)

/-! ## Requests of the API -/

theorem cancelQueuedRun_witnessed {reason : String} {row : Simulation}
    (member : row ∈ store.tables.simulations)
    (accepted : cancelQueuedRun now row.runId reason store = .ok result) :
    Witnessed store result := by
  unfold cancelQueuedRun at accepted
  simp only [bind_ok_iff] at accepted
  rcases accepted with ⟨cancelled, cancelledAccepted, released, releasedAccepted, reported,
    reportedAccepted, announcedAccepted⟩
  have has := hasStatus_of_update cancelledAccepted member (by simp)
  have hasReleased : HasStatus released.tables.simulations row.runId .cancelled := by
    rw [(updateJobs_ok_iff.mp releasedAccepted).1]
    exact has
  have reports := ((updateSimulations_witnessed cancelledAccepted).trans
    (updateJobs_witnessed releasedAccepted)).trans
      (insertEvent_witnessed reportedAccepted (testified_of_hasStatus rfl hasReleased))
  exact reports.trans (emitQueuePositionEvents_witnessed announcedAccepted)

theorem cancelSimulation_witnessed {runId reason : String} {record : SimulationRecord}
    (accepted : cancelSimulation now runId reason store = .ok (result, record)) :
    Witnessed store result := by
  unfold cancelSimulation at accepted
  rw [bind_ok_iff] at accepted
  rcases accepted with ⟨found, foundAccepted, accepted⟩
  rcases simulationById_row foundAccepted with ⟨row, member, rfl, _⟩
  split at accepted
  · simp only [bind_ok_iff, Fault.ofPg_ok_iff, pure_ok_iff, Prod.mk.injEq] at accepted
    rcases accepted with ⟨cancelled, cancelledAccepted, rfl, _⟩
    exact cancelQueuedRun_witnessed member cancelledAccepted
  · simp only [bind_ok_iff, Fault.ofPg_ok_iff, pure_ok_iff, Prod.mk.injEq] at accepted
    rcases accepted with ⟨cancelling, cancellingAccepted, rfl, _⟩
    unfold cancelRunningRun at cancellingAccepted
    simp only [bind_ok_iff] at cancellingAccepted
    rcases cancellingAccepted with ⟨requested, requestedAccepted, marked, markedAccepted,
      reportedAccepted⟩
    exact ((updateSimulations_witnessed requestedAccepted).trans
      (updateJobs_witnessed markedAccepted)).trans
        (insertEvent_witnessed reportedAccepted (@testified_of_open _ _ _ .cancelling rfl rfl))
  · cases accepted
    exact Witnessed.refl store
  · cases accepted
    exact Witnessed.refl store
  · cases accepted

theorem admitRun_witnessed {clock : Instant} {identifiers : Identifiers} {key : String}
    {request : CreateSimulationRequest} {inputs : AdmissionInputs} {record : SimulationRecord}
    (accepted : admitRun platform now clock identifiers key request inputs store =
      .ok (result, record)) : Witnessed store result := by
  unfold admitRun at accepted
  simp only [bind_ok_iff, require_ok_iff, exists_const, Fault.ofPg_ok_iff, Fault.ofText_ok_iff,
    pure_ok_iff, Prod.mk.injEq] at accepted
  rcases accepted with ⟨snapshot, _, _, envelope, _, simulated, simulatedAccepted, frozen,
    frozenAccepted, enqueued, enqueuedAccepted, reported, reportedAccepted, announced,
    announcedAccepted, keyed, keyedAccepted, _, _, rfl, _⟩
  have added : Witnessed store simulated := by
    have tables := (insertSimulation_ok_iff.mp simulatedAccepted).1
    refine ⟨?_, ?_⟩
    · rintro runId status _ ⟨row, member, sameRun, sameStatus⟩
      rw [tables]
      exact ⟨row, List.mem_append_left _ member, sameRun, sameStatus⟩
    · intro event member
      rw [tables] at member
      exact Or.inl member
  have snapshots : Witnessed simulated frozen := by
    have tables := (insertSimulationSnapshot_ok_iff.mp frozenAccepted).1
    apply Witnessed.of_tables <;> rw [tables]
  have jobs : Witnessed frozen enqueued := by
    have tables := (insertJob_ok_iff.mp enqueuedAccepted).1
    apply Witnessed.of_tables <;> rw [tables]
  have keys : Witnessed announced keyed := by
    have tables := (insertIdempotencyKey_ok_iff.mp keyedAccepted).1
    apply Witnessed.of_tables <;> rw [tables]
  have reports := ((added.trans snapshots).trans jobs).trans
    (insertEvent_witnessed reportedAccepted (@testified_of_open _ _ _ .queued rfl rfl))
  exact (reports.trans (emitQueuePositionEvents_witnessed announcedAccepted)).trans keys

theorem createSimulation_witnessed {clock : Instant} {identifiers : Identifiers} {key : String}
    {request : CreateSimulationRequest} {record : SimulationRecord} {replayed : Bool}
    (accepted : createSimulation platform now clock identifiers key request store =
      .ok (result, record, replayed)) : Witnessed store result := by
  unfold createSimulation createSimulationTx at accepted
  rw [bind_ok_iff] at accepted
  rcases accepted with ⟨_, _, accepted⟩
  split at accepted
  · simp only [bind_ok_iff, require_ok_iff, exists_const, pure_ok_iff, Prod.mk.injEq] at accepted
    rcases accepted with ⟨_, _, _, rfl, _⟩
    exact Witnessed.refl store
  · simp only [bind_ok_iff, ofStable_ok_iff, pure_ok_iff, Prod.mk.injEq] at accepted
    rcases accepted with ⟨inputs, _, ⟨admitted, admittedRecord⟩, admittedAccepted, rfl, _⟩
    exact admitRun_witnessed admittedAccepted

/-! ## Every transaction -/

theorem execute_witnessed {operation : Operation} {reply : Reply} (coherent : store.view.Coherent)
    (accepted : execute platform now operation store = .ok (result, reply)) :
    Witnessed store result := by
  cases operation with
  | registerDataset clock identifiers input =>
      rcases answer_ok_iff.mp accepted with ⟨_, done, _⟩
      rcases registerDataset_admits done with ⟨job, admits, _⟩
      exact Witnessed.of_tables admits.runs admits.events
  | createSimulation clock identifiers key request =>
      rcases answer_ok_iff.mp accepted with ⟨⟨record, replayed⟩, done, _⟩
      exact createSimulation_witnessed done
  | cancelSimulation runId reason =>
      rcases answer_ok_iff.mp accepted with ⟨_, done, _⟩
      exact cancelSimulation_witnessed done
  | saveParameterProfile row =>
      rcases answer_ok_iff.mp accepted with ⟨_, done, _⟩
      simp only [bind_ok_iff, Fault.ofPg_ok_iff, insertParameterProfile_ok_iff] at done
      rcases done with ⟨saved, ⟨tables, _⟩, same⟩
      cases same
      apply Witnessed.of_tables <;> rw [tables]
  | saveLoadMapping row =>
      rcases answer_ok_iff.mp accepted with ⟨_, done, _⟩
      simp only [bind_ok_iff, Fault.ofPg_ok_iff, insertLoadMappingProfile_ok_iff] at done
      rcases done with ⟨saved, ⟨tables, _⟩, same⟩
      cases same
      apply Witnessed.of_tables <;> rw [tables]
  | registerInstance workerId contractVersion workerVersion =>
      rcases answer_ok_iff.mp accepted with ⟨_, done, _⟩
      have opened := Fault.ofPg_ok_iff.mp done
      unfold workerRegisterInstance at opened
      simp only [bind_ok_iff, require_ok_iff, exists_const] at opened
      rcases opened with ⟨_, _, _, opened⟩
      split at opened
      · simp only [bind_ok_iff, pure_ok_iff, Prod.mk.injEq, updateInstances_ok_iff] at opened
        rcases opened with ⟨updated, ⟨tables, _⟩, rfl, _⟩
        apply Witnessed.of_tables <;> rw [tables]
      · simp only [bind_ok_iff, pure_ok_iff, Prod.mk.injEq, Store.install_ok_iff] at opened
        rcases opened with ⟨inserted, ⟨tables, _⟩, rfl, _⟩
        apply Witnessed.of_tables <;> rw [tables]
  | heartbeatInstance workerId contractVersion =>
      rcases answer_ok_iff.mp accepted with ⟨_, done, _⟩
      have opened := Fault.ofPg_ok_iff.mp done
      unfold workerHeartbeatInstance at opened
      simp only [bind_ok_iff, pure_ok_iff, Prod.mk.injEq, updateInstances_ok_iff] at opened
      rcases opened with ⟨updated, ⟨tables, _⟩, rfl, _⟩
      apply Witnessed.of_tables <;> rw [tables]
  | claim workerId attemptId leaseToken leaseSeconds =>
      rcases answer_ok_iff.mp accepted with ⟨_, done, _⟩
      exact workerClaimNextJobForWorker_witnessed (Fault.ofPg_ok_iff.mp done)
  | heartbeat workerId lease leaseSeconds =>
      rcases answer_ok_iff.mp accepted with ⟨_, done, _⟩
      exact workerHeartbeatForWorker_witnessed (Fault.ofPg_ok_iff.mp done)
  | reportEvent lease event =>
      rcases answer_ok_iff.mp accepted with ⟨_, done, _⟩
      exact workerReportEvent_witnessed (Fault.ofPg_ok_iff.mp done)
  | completePreflight lease inputSha256 summary summarySha256 =>
      rcases answer_ok_iff.mp accepted with ⟨_, done, _⟩
      exact workerCompletePreflight_witnessed (Fault.ofPg_ok_iff.mp done)
  | confirmCancel lease =>
      rcases answer_ok_iff.mp accepted with ⟨_, done, _⟩
      exact workerConfirmCancel_witnessed coherent (Fault.ofPg_ok_iff.mp done)
  | failJob lease error recoverable =>
      rcases answer_ok_iff.mp accepted with ⟨_, done, _⟩
      exact workerFailJob_witnessed coherent (Fault.ofPg_ok_iff.mp done)
  | commitSimulation lease request =>
      rcases answer_ok_iff.mp accepted with ⟨_, done, _⟩
      exact workerCommitSimulation_witnessed (Fault.ofPg_ok_iff.mp done)
  | recoverExpiredLeases =>
      rcases answer_ok_iff.mp accepted with ⟨_, done, _⟩
      exact workerRecoverExpiredLeases_witnessed (Fault.ofPg_ok_iff.mp done)

/-- A transaction keeps terminal statuses and testifies what it logs. -/
theorem Transaction.witnessed {call : Call} (reachable : Reachable platform store)
    (step : Transaction platform store call result) : Witnessed store result := by
  cases step with
  | committed accepted => exact execute_witnessed (reachable_coherent reachable) accepted
  | rolledBack _ same _ => apply Witnessed.of_tables <;> rw [same]

/-- In every reachable store, whatever terminal status an event carries, the row
of its run has it. -/
theorem reachable_testifies (reachable : Reachable platform store) : Testifies store.tables := by
  refine System.Reachable.invariant (fun store => Testifies store.tables) ?_ ?_ reachable
  · rintro start ⟨now, rfl⟩ event member
    cases member
  · intro source call target sourceReachable step before
    exact (Transaction.witnessed sourceReachable step).testifies before

end Queue
end FederatedIot
