import FederatedIot.Queue.System

namespace FederatedIot
namespace Queue

open Foundation Foundation.Relation Foundation.Outcome

/-!
# The frame of the transactions

The transactions of the workers and a cancellation are sequences of a few
statements.  They rewrite no column that an admission fixed, and apart from the
start of a claimed job they activate no job.  So a relation between stores that
every such statement respects holds across each of these transactions.
-/

variable {platform : Platform} {store result : Store} {now : Instant}

/-! ## Columns fixed by the admission -/

/-- The columns of `worker_jobs` that no transaction rewrites. -/
structure JobAdmission where
  jobId : String
  jobType : JobType
  datasetId : String
  runId : Option String
  envelopeJson : Json
  envelopeSha256 : String
  enqueueSeq : Nat

def WorkerJob.admission (job : WorkerJob) : JobAdmission :=
  { jobId := job.jobId, jobType := job.jobType, datasetId := job.datasetId, runId := job.runId
    envelopeJson := job.envelopeJson, envelopeSha256 := job.envelopeSha256
    enqueueSeq := job.enqueueSeq }

/-- The columns of `simulations` that no transaction rewrites. -/
structure RunAdmission where
  runId : String
  datasetId : String
  parameterProfileVersionId : String
  loadMappingVersionId : String
  runMode : RunMode
  enqueueSeq : Nat

def Simulation.admission (row : Simulation) : RunAdmission :=
  { runId := row.runId, datasetId := row.datasetId
    parameterProfileVersionId := row.parameterProfileVersionId
    loadMappingVersionId := row.loadMappingVersionId, runMode := row.runMode
    enqueueSeq := row.enqueueSeq }

/-! ## Framed relations -/

/-- The relation holds across every statement of a transaction that admits and
starts nothing. -/
structure Framed (related : Store -> Store -> Prop) : Prop where
  refl (store : Store) : related store store
  trans {first second third : Store} : related first second -> related second third -> related first third
  instances {store result : Store} {selects : WorkerInstance -> Bool}
    {assign : WorkerInstance -> WorkerInstance} :
    updateInstances selects assign store = .ok result -> related store result
  newInstance {store result : Store} (row : WorkerInstance) :
    result.tables = { store.tables with workerInstances := store.tables.workerInstances ++ [row] } ->
      result.sequences = store.sequences -> related store result
  datasets {store result : Store} {now : Instant} {selects : Dataset -> Bool}
    {assign : Dataset -> Dataset} :
    updateDatasets now selects assign store = .ok result -> related store result
  jobs {store result : Store} {now : Instant} {selects : WorkerJob -> Bool}
    {assign : WorkerJob -> WorkerJob} :
    updateJobs now selects assign store = .ok result ->
      (forall job, (assign job).admission = job.admission) ->
      (forall job, selects job = true -> (assign job).status.isActive = true -> job.status.isActive = true) ->
        related store result
  runs {store result : Store} {now : Instant} {selects : Simulation -> Bool}
    {assign : Simulation -> Simulation} :
    updateSimulations now selects assign store = .ok result ->
      (forall row, (assign row).admission = row.admission) -> related store result
  events {store result : Store} {now : Instant} {values : List EventValues} :
    insertSimulationEvents now values store = .ok result -> related store result
  workerEvents {store result : Store} {now : Instant} {values : List WorkerEventValues} :
    insertWorkerJobEvents now values store = .ok result -> related store result
  artifacts {store result : Store} {rows : List Artifact} :
    insertArtifacts rows store = .ok result -> related store result
  alarms {store result : Store} {rows : List Alarm} :
    insertAlarms rows store = .ok result -> related store result

variable {related : Store -> Store -> Prop}

theorem emitQueuePositionEvents_framed (framed : Framed related)
    (accepted : emitQueuePositionEvents now store = .ok result) : related store result :=
  framed.events accepted

/-- Settling jobs activates none. -/
theorem settleJobs_framed (framed : Framed related)
    {selects : WorkerJob -> Bool} {assign : WorkerJob -> WorkerJob}
    (accepted : updateJobs now selects assign store = .ok result)
    (kept : forall job, (assign job).admission = job.admission)
    (inactive : forall job, (assign job).status.isActive = false) : related store result := by
  apply framed.jobs accepted kept
  intro job _ active
  rw [inactive job] at active
  cases active

/-! ## Worker transactions -/

theorem workerRegisterInstance_framed (framed : Framed related)
    {workerId contractVersion workerVersion : String}
    {reply : Instant}
    (accepted : workerRegisterInstance now workerId contractVersion workerVersion store =
      .ok (result, reply)) : related store result := by
  simp only [workerRegisterInstance, bind_ok_iff, require_ok_iff, exists_const] at accepted
  rcases accepted with ⟨_, _, _, accepted⟩
  split at accepted
  · simp only [bind_ok_iff, pure_ok_iff, Prod.mk.injEq] at accepted
    rcases accepted with ⟨updated, updatedAccepted, rfl, _⟩
    exact framed.instances updatedAccepted
  · simp only [bind_ok_iff, pure_ok_iff, Prod.mk.injEq, Store.install_ok_iff] at accepted
    rcases accepted with ⟨inserted, ⟨tables, sequences⟩, rfl, _⟩
    exact framed.newInstance _ tables sequences

theorem workerHeartbeatInstance_framed (framed : Framed related)
    {workerId contractVersion : String} {reply : Bool}
    (accepted : workerHeartbeatInstance now workerId contractVersion store = .ok (result, reply)) :
    related store result := by
  simp only [workerHeartbeatInstance, bind_ok_iff, pure_ok_iff, Prod.mk.injEq] at accepted
  rcases accepted with ⟨updated, updatedAccepted, rfl, _⟩
  exact framed.instances updatedAccepted

theorem finalStatus_inactive (candidate : ExpiredCandidate) : candidate.finalStatus.isActive = false := by
  rw [ExpiredCandidate.finalStatus]
  split <;> rfl

theorem candidateFor?_settledRun_admission (expired : List ExpiredCandidate) (row : Simulation) :
    (((candidateFor? expired row).map fun candidate => candidate.settledRun now row).getD
      row).admission = row.admission := by
  cases candidateFor? expired row with
  | none => rfl
  | some candidate => rfl

theorem workerRecoverExpiredLeases_framed (framed : Framed related) {reply : Nat}
    (accepted : workerRecoverExpiredLeases now store = .ok (result, reply)) : related store result := by
  simp only [workerRecoverExpiredLeases, bind_ok_iff] at accepted
  rcases accepted with ⟨_, _, released, releasedAccepted, reported, reportedAccepted, invalidated,
    invalidatedAccepted, settled, settledAccepted, emitted, emittedAccepted, accepted⟩
  have jobs := settleJobs_framed framed releasedAccepted (fun _ => rfl) fun job =>
    finalStatus_inactive (ExpiredCandidate.of store.tables.simulations job)
  have reports := framed.trans jobs (framed.workerEvents reportedAccepted)
  have datasets := framed.trans reports (framed.datasets invalidatedAccepted)
  have runs := framed.trans datasets (framed.runs settledAccepted (candidateFor?_settledRun_admission _))
  have events := framed.trans runs (framed.events emittedAccepted)
  split at accepted
  · simp only [bind_ok_iff, pure_ok_iff, Prod.mk.injEq] at accepted
    rcases accepted with ⟨announced, announcedAccepted, rfl, _⟩
    exact framed.trans events (emitQueuePositionEvents_framed framed announcedAccepted)
  · cases accepted
    exact events

theorem recordHeartbeat_framed (framed : Framed related) {jobId : String} {reply : Bool}
    (accepted : recordHeartbeat now jobId store = .ok (result, reply)) : related store result := by
  simp only [recordHeartbeat, bind_ok_iff, pure_ok_iff, Prod.mk.injEq] at accepted
  rcases accepted with ⟨beaten, beatenAccepted, reported, reportedAccepted, emitted, emittedAccepted, rfl, _⟩
  have reports := framed.trans (framed.runs beatenAccepted fun _ => rfl)
    (framed.workerEvents reportedAccepted)
  exact framed.trans reports (framed.events emittedAccepted)

theorem workerHeartbeatForWorker_framed (framed : Framed related)
    {workerId : String} {lease : Lease} {leaseSeconds : Int}
    {reply : Bool}
    (accepted : workerHeartbeatForWorker now workerId lease leaseSeconds store = .ok (result, reply)) :
    related store result := by
  simp only [workerHeartbeatForWorker, bind_ok_iff, require_ok_iff, exists_const] at accepted
  rcases accepted with ⟨_, seen, seenAccepted, accepted⟩
  have instances := framed.instances seenAccepted
  split at accepted
  · rw [bind_ok_iff] at accepted
    rcases accepted with ⟨renewed, renewedAccepted, accepted⟩
    have jobs := framed.trans instances (framed.jobs renewedAccepted (fun _ => rfl) fun _ _ => id)
    split at accepted
    · exact framed.trans jobs (recordHeartbeat_framed framed accepted)
    · cases accepted
      exact jobs
  · cases accepted
    exact instances

theorem recordEvent_framed (framed : Framed related)
    {job : WorkerJob} {event : Json} {agent : Option Int} {reply : Bool}
    (accepted : recordEvent now job event agent store = .ok (result, reply)) : related store result := by
  rw [recordEvent, bind_ok_iff] at accepted
  rcases accepted with ⟨reported, reportedAccepted, accepted⟩
  have reports := framed.workerEvents reportedAccepted
  split at accepted
  · cases accepted
    exact reports
  · simp only [bind_ok_iff, pure_ok_iff, Prod.mk.injEq] at accepted
    rcases accepted with ⟨staged, stagedAccepted, emitted, emittedAccepted, rfl, _⟩
    have runs := framed.trans reports (framed.runs stagedAccepted fun _ => rfl)
    exact framed.trans runs (framed.events emittedAccepted)

theorem workerReportEvent_framed (framed : Framed related) {lease : Lease} {event : Json} {reply : Bool}
    (accepted : workerReportEvent platform now lease event store = .ok (result, reply)) :
    related store result := by
  rw [workerReportEvent] at accepted
  split at accepted
  · cases accepted
    exact framed.refl store
  · simp only [bind_ok_iff, require_ok_iff, exists_const] at accepted
    rcases accepted with ⟨_, _, agent, _, recorded⟩
    exact recordEvent_framed framed recorded

theorem workerCompletePreflight_framed (framed : Framed related)
    {lease : Lease} {inputSha256 summarySha256 : String}
    {summary : Json} {reply : Bool}
    (accepted : workerCompletePreflight now lease inputSha256 summary summarySha256 store =
      .ok (result, reply)) : related store result := by
  rw [workerCompletePreflight] at accepted
  split at accepted
  · cases accepted
    exact framed.refl store
  · simp only [bind_ok_iff, require_ok_iff, exists_const, pure_ok_iff, Prod.mk.injEq] at accepted
    rcases accepted with ⟨validated, validatedAccepted, _, completed, completedAccepted, rfl, _⟩
    exact framed.trans (framed.datasets validatedAccepted)
      (settleJobs_framed framed completedAccepted (fun _ => rfl) fun _ => rfl)

theorem workerConfirmCancel_framed (framed : Framed related) {lease : Lease} {reply : Bool}
    (accepted : workerConfirmCancel now lease store = .ok (result, reply)) : related store result := by
  rw [workerConfirmCancel] at accepted
  split at accepted
  · cases accepted
    exact framed.refl store
  · rw [bind_ok_iff] at accepted
    rcases accepted with ⟨cancelled, cancelledAccepted, accepted⟩
    have jobs := settleJobs_framed framed cancelledAccepted (fun _ => rfl) fun _ => rfl
    split at accepted
    · cases accepted
      exact jobs
    · simp only [bind_ok_iff, pure_ok_iff, Prod.mk.injEq] at accepted
      rcases accepted with ⟨settled, settledAccepted, reported, reportedAccepted, announced,
        announcedAccepted, rfl, _⟩
      have runs := framed.trans jobs (framed.runs settledAccepted fun _ => rfl)
      have events := framed.trans runs (framed.events reportedAccepted)
      exact framed.trans events (emitQueuePositionEvents_framed framed announcedAccepted)

theorem settleCancelled_framed (framed : Framed related) {lease : Lease} {job : WorkerJob} {reply : Bool}
    (accepted : settleCancelled now lease job store = .ok (result, reply)) : related store result := by
  simp only [settleCancelled, bind_ok_iff, pure_ok_iff, Prod.mk.injEq] at accepted
  rcases accepted with ⟨cancelled, cancelledAccepted, settled, settledAccepted, reported,
    reportedAccepted, announced, announcedAccepted, rfl, _⟩
  have jobs := settleJobs_framed framed cancelledAccepted (fun _ => rfl) fun _ => rfl
  have runs := framed.trans jobs (framed.runs settledAccepted fun _ => rfl)
  have events := framed.trans runs (framed.events reportedAccepted)
  exact framed.trans events (emitQueuePositionEvents_framed framed announcedAccepted)

theorem settleFailed_framed (framed : Framed related) {lease : Lease} {job : WorkerJob} {error : Json}
    {finalStatus : JobStatus} {reply : Bool} (inactive : finalStatus.isActive = false)
    (accepted : settleFailed now lease job error finalStatus store = .ok (result, reply)) :
    related store result := by
  rw [settleFailed, bind_ok_iff] at accepted
  rcases accepted with ⟨failed, failedAccepted, accepted⟩
  have jobs := settleJobs_framed framed failedAccepted (fun _ => rfl) fun _ => inactive
  split at accepted
  · simp only [bind_ok_iff, pure_ok_iff, Prod.mk.injEq] at accepted
    rcases accepted with ⟨invalidated, invalidatedAccepted, rfl, _⟩
    exact framed.trans jobs (framed.datasets invalidatedAccepted)
  · simp only [bind_ok_iff, pure_ok_iff, Prod.mk.injEq] at accepted
    rcases accepted with ⟨settled, settledAccepted, reported, reportedAccepted, rfl, _⟩
    have runs := framed.trans jobs (framed.runs settledAccepted fun _ => rfl)
    exact framed.trans runs (framed.events reportedAccepted)

theorem workerFailJob_framed (framed : Framed related)
    {lease : Lease} {error : Json} {recoverable : Bool} {reply : Bool}
    (accepted : workerFailJob now lease error recoverable store = .ok (result, reply)) :
    related store result := by
  rw [workerFailJob, bind_ok_iff] at accepted
  rcases accepted with ⟨_, _, accepted⟩
  split at accepted
  · cases accepted
    exact framed.refl store
  · split at accepted
    · exact settleCancelled_framed framed accepted
    · exact settleFailed_framed framed (by cases recoverable <;> rfl) accepted

theorem publishRun_framed (framed : Framed related) {lease : Lease} {runId : String} {request : CommitRequest}
    {alarms : List Json} {reply : Bool}
    (accepted : publishRun platform now lease runId request alarms store = .ok (result, reply)) :
    related store result := by
  simp only [publishRun, bind_ok_iff, require_ok_iff, exists_const, pure_ok_iff, Prod.mk.injEq] at accepted
  rcases accepted with ⟨generating, generatingAccepted, _, announced, announcedAccepted, rows,
    rowsConverted, stored, storedAccepted, _, _, indexed, indexedAccepted, committed,
    committedAccepted, released, releasedAccepted, reported, reportedAccepted, emitted,
    emittedAccepted, rfl, _⟩
  have announcements := framed.trans (framed.runs generatingAccepted fun _ => rfl)
    (framed.events announcedAccepted)
  have artifacts := framed.trans announcements (framed.artifacts storedAccepted)
  have alarmRows := framed.trans artifacts (framed.alarms indexedAccepted)
  have runs := framed.trans alarmRows (framed.runs committedAccepted fun _ => rfl)
  have jobs := framed.trans runs (settleJobs_framed framed releasedAccepted (fun _ => rfl) fun _ => rfl)
  have reports := framed.trans jobs (framed.events reportedAccepted)
  exact framed.trans reports (framed.events emittedAccepted)

theorem workerCommitSimulation_framed (framed : Framed related)
    {lease : Lease} {request : CommitRequest} {reply : Bool}
    (accepted : workerCommitSimulation platform now lease request store = .ok (result, reply)) :
    related store result := by
  rw [workerCommitSimulation] at accepted
  split at accepted
  · cases accepted
    exact framed.refl store
  · rw [bind_ok_iff] at accepted
    rcases accepted with ⟨alarms, _, accepted⟩
    exact publishRun_framed framed accepted

/-- A claim recovers expired leases and may start a job. -/
theorem workerClaimNextJobForWorker_framed (framed : Framed related)
    (starts : forall {source target : Store} {attemptId leaseToken : String} {leaseSeconds : Int} {job : WorkerJob}
      {reply : Option ClaimedJob},
      startJob now attemptId leaseToken leaseSeconds job source = .ok (target, reply) -> related source target)
    {workerId attemptId leaseToken : String} {leaseSeconds : Int} {reply : Option ClaimedJob}
    (accepted : workerClaimNextJobForWorker now workerId attemptId leaseToken leaseSeconds store =
      .ok (result, reply)) : related store result := by
  simp only [workerClaimNextJobForWorker, bind_ok_iff, require_ok_iff, exists_const] at accepted
  rcases accepted with ⟨_, _, seen, seenAccepted, _, accepted⟩
  simp only [requireScheduler_ok_iff, exists_const] at accepted
  rcases accepted with ⟨_, ⟨recovered, count⟩, recoveredAccepted, accepted⟩
  have recovery := framed.trans (framed.instances seenAccepted)
    (workerRecoverExpiredLeases_framed framed recoveredAccepted)
  split at accepted
  · cases accepted
    exact recovery
  · split at accepted
    · cases accepted
      exact recovery
    · exact framed.trans recovery (starts accepted)

/-! ### Cancellation -/

theorem cancelQueuedRun_framed (framed : Framed related) {runId reason : String}
    (accepted : cancelQueuedRun now runId reason store = .ok result) : related store result := by
  simp only [cancelQueuedRun, bind_ok_iff] at accepted
  rcases accepted with ⟨cancelled, cancelledAccepted, released, releasedAccepted, reported,
    reportedAccepted, announcedAccepted⟩
  have jobs := framed.trans (framed.runs cancelledAccepted fun _ => rfl)
    (settleJobs_framed framed releasedAccepted (fun _ => rfl) fun _ => rfl)
  have events := framed.trans jobs (framed.events reportedAccepted)
  exact framed.trans events (emitQueuePositionEvents_framed framed announcedAccepted)

theorem cancelRunningRun_framed (framed : Framed related) {runId reason : String}
    (accepted : cancelRunningRun now runId reason store = .ok result) : related store result := by
  simp only [cancelRunningRun, bind_ok_iff] at accepted
  rcases accepted with ⟨requested, requestedAccepted, cancelling, cancellingAccepted, reportedAccepted⟩
  have jobs : related requested cancelling := by
    apply framed.jobs cancellingAccepted fun _ => rfl
    intro job selected _
    -- Only running jobs are selected, and they are active already.
    rw [Bool.and_eq_true, decide_eq_true_eq, decide_eq_true_eq] at selected
    rw [selected.2]
    rfl
  have runs := framed.trans (framed.runs requestedAccepted fun _ => rfl) jobs
  exact framed.trans runs (framed.events reportedAccepted)

theorem cancelSimulation_framed (framed : Framed related) {runId reason : String} {record : SimulationRecord}
    (accepted : cancelSimulation now runId reason store = .ok (result, record)) :
    related store result := by
  rw [cancelSimulation, bind_ok_iff] at accepted
  rcases accepted with ⟨found, _, accepted⟩
  split at accepted
  · simp only [bind_ok_iff, Fault.ofPg_ok_iff, pure_ok_iff, Prod.mk.injEq] at accepted
    rcases accepted with ⟨cancelled, cancelledAccepted, rfl, _⟩
    exact cancelQueuedRun_framed framed cancelledAccepted
  · simp only [bind_ok_iff, Fault.ofPg_ok_iff, pure_ok_iff, Prod.mk.injEq] at accepted
    rcases accepted with ⟨cancelling, cancellingAccepted, rfl, _⟩
    exact cancelRunningRun_framed framed cancellingAccepted
  · cases accepted
    exact framed.refl store
  · cases accepted
    exact framed.refl store
  · cases accepted

/-! ## Every transaction -/

/-- The relation holds across the other transactions as well, and across a rollback. -/
structure FramedSystem (platform : Platform) (related : Store -> Store -> Prop) : Prop where
  framed : Framed related
  registers {store result : Store} {now clock : Instant} {identifiers : Identifiers}
    {input : DatasetRegistration} {value : RegisteredDataset} :
    registerDataset platform now clock identifiers input store = .ok (result, value) -> related store result
  creates {store result : Store} {now clock : Instant} {identifiers : Identifiers} {key : String}
    {request : CreateSimulationRequest} {record : SimulationRecord} {replayed : Bool} :
    createSimulation platform now clock identifiers key request store = .ok (result, record, replayed) ->
      related store result
  profiles {store result : Store} {row : ParameterProfile} :
    insertParameterProfile row store = .ok result -> related store result
  mappings {store result : Store} {row : LoadMappingProfile} :
    insertLoadMappingProfile row store = .ok result -> related store result
  starts {store result : Store} {now : Instant} {attemptId leaseToken : String} {leaseSeconds : Int}
    {job : WorkerJob} {reply : Option ClaimedJob} :
    startJob now attemptId leaseToken leaseSeconds job store = .ok (result, reply) -> related store result
  rolledBack {store result : Store} :
    result.tables = store.tables -> store.sequences.AtMost result.sequences -> related store result

theorem FramedSystem.transaction (system : FramedSystem platform related) {call : Call}
    (step : Transaction platform store call result) : related store result := by
  cases step with
  | rolledBack _ same drawn => exact system.rolledBack same drawn
  | @committed _ now operation reply accepted =>
      cases operation with
      | registerDataset clock identifiers input =>
          rcases answer_ok_iff.mp accepted with ⟨_, done, _⟩
          exact system.registers done
      | createSimulation clock identifiers key request =>
          rcases answer_ok_iff.mp accepted with ⟨⟨record, replayed⟩, done, _⟩
          exact system.creates done
      | cancelSimulation runId reason =>
          rcases answer_ok_iff.mp accepted with ⟨_, done, _⟩
          exact cancelSimulation_framed system.framed done
      | saveParameterProfile row =>
          rcases answer_ok_iff.mp accepted with ⟨_, done, _⟩
          simp only [bind_ok_iff, Fault.ofPg_ok_iff] at done
          rcases done with ⟨saved, savedAccepted, same⟩
          cases same
          exact system.profiles savedAccepted
      | saveLoadMapping row =>
          rcases answer_ok_iff.mp accepted with ⟨_, done, _⟩
          simp only [bind_ok_iff, Fault.ofPg_ok_iff] at done
          rcases done with ⟨saved, savedAccepted, same⟩
          cases same
          exact system.mappings savedAccepted
      | registerInstance workerId contractVersion workerVersion =>
          rcases answer_ok_iff.mp accepted with ⟨_, done, _⟩
          exact workerRegisterInstance_framed system.framed (Fault.ofPg_ok_iff.mp done)
      | heartbeatInstance workerId contractVersion =>
          rcases answer_ok_iff.mp accepted with ⟨_, done, _⟩
          exact workerHeartbeatInstance_framed system.framed (Fault.ofPg_ok_iff.mp done)
      | claim workerId attemptId leaseToken leaseSeconds =>
          rcases answer_ok_iff.mp accepted with ⟨_, done, _⟩
          exact workerClaimNextJobForWorker_framed system.framed system.starts (Fault.ofPg_ok_iff.mp done)
      | heartbeat workerId lease leaseSeconds =>
          rcases answer_ok_iff.mp accepted with ⟨_, done, _⟩
          exact workerHeartbeatForWorker_framed system.framed (Fault.ofPg_ok_iff.mp done)
      | reportEvent lease event =>
          rcases answer_ok_iff.mp accepted with ⟨_, done, _⟩
          exact workerReportEvent_framed system.framed (Fault.ofPg_ok_iff.mp done)
      | completePreflight lease inputSha256 summary summarySha256 =>
          rcases answer_ok_iff.mp accepted with ⟨_, done, _⟩
          exact workerCompletePreflight_framed system.framed (Fault.ofPg_ok_iff.mp done)
      | confirmCancel lease =>
          rcases answer_ok_iff.mp accepted with ⟨_, done, _⟩
          exact workerConfirmCancel_framed system.framed (Fault.ofPg_ok_iff.mp done)
      | failJob lease error recoverable =>
          rcases answer_ok_iff.mp accepted with ⟨_, done, _⟩
          exact workerFailJob_framed system.framed (Fault.ofPg_ok_iff.mp done)
      | commitSimulation lease request =>
          rcases answer_ok_iff.mp accepted with ⟨_, done, _⟩
          exact workerCommitSimulation_framed system.framed (Fault.ofPg_ok_iff.mp done)
      | recoverExpiredLeases =>
          rcases answer_ok_iff.mp accepted with ⟨_, done, _⟩
          exact workerRecoverExpiredLeases_framed system.framed (Fault.ofPg_ok_iff.mp done)

end Queue
end FederatedIot
