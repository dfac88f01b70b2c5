import FederatedIot.Queue.Statement
import FederatedIot.Queue.Lifecycle

namespace FederatedIot
namespace Queue

open Foundation Foundation.Relation Foundation.Outcome

/-!
# The worker repository

The database functions that a worker may call, in their final versions after
all migrations.  Each function is one transaction at the instant `now`: it
returns its result with the store it commits, or it raises and the caller's
transaction is rolled back.  A `FALSE` result is a normal return, so what the
function wrote before it is committed.
-/

/-! ## Leases -/

/-- `lease_expires_at > now()`. -/
def WorkerJob.leaseLive (now : Instant) (job : WorkerJob) : Bool :=
  job.leaseExpiresAt.any fun expiry => now < expiry

/-- `lease_expires_at <= now()`. -/
def WorkerJob.leaseExpired (now : Instant) (job : WorkerJob) : Bool :=
  job.leaseExpiresAt.any fun expiry => expiry ≤ now

/-- The identity under which a worker holds a job. -/
structure Lease where
  jobId : String
  attemptId : String
  leaseToken : String
  deriving DecidableEq, Repr

/-- The common guard of the worker functions. -/
def Lease.holds (lease : Lease) (now : Instant) (job : WorkerJob) : Bool :=
  job.jobId = lease.jobId && job.attemptId = some lease.attemptId &&
    job.leaseToken = some lease.leaseToken && job.leaseLive now

/-- `SELECT * INTO selected_job ... FOR UPDATE`. -/
def selectJob? (selects : WorkerJob -> Bool) (store : Store) : Option WorkerJob :=
  store.tables.workerJobs.find? selects

/-- A worker's own lease columns, cleared on every terminal transition. -/
def WorkerJob.settle (status : JobStatus) (job : WorkerJob) : WorkerJob :=
  { job with status, attemptId := none, leaseToken := none, leaseExpiresAt := none }

def stateEvent (runId : String) (fields : List (String × Json)) : EventValues :=
  { runId, eventType := .state, payloadJson := .object fields }

/-! ## Instances -/

/-- `worker_register_instance`. -/
def workerRegisterInstance (now : Instant) (workerId contractVersion workerVersion : String)
    (store : Store) : Except PgError (Store × Instant) := do
  require (isIdentifier workerId = true) (.raised "22023" "invalid worker identifier")
  require (contractVersion = "worker.task.v1") (.raised "22023" "unsupported worker contract")
  require (isIdentifier workerVersion = true) (.raised "22023" "invalid worker version")
  if store.tables.workerInstances.any fun row => row.workerId = workerId then
    let updated ← updateInstances (fun row => row.workerId = workerId)
      (fun row => { row with
        workerContractVersion := contractVersion, workerVersion := workerVersion,
        lastHeartbeatAt := now }) store
    return (updated, now)
  else
    let inserted ← Store.install
      { store.tables with
        workerInstances := store.tables.workerInstances ++
          [{ workerId := workerId, workerContractVersion := contractVersion,
             workerVersion := workerVersion, registeredAt := now, lastHeartbeatAt := now }] }
      store.sequences
    return (inserted, now)

/-- `worker_heartbeat_instance`. -/
def workerHeartbeatInstance (now : Instant) (workerId contractVersion : String) (store : Store) :
    Except PgError (Store × Bool) := do
  let selects := fun row : WorkerInstance =>
    row.workerId = workerId && row.workerContractVersion = contractVersion
  let updated ← updateInstances selects (fun row => { row with lastHeartbeatAt := now }) store
  return (updated, store.tables.workerInstances.any selects)

/-! ## Recovery of expired leases -/

/-- A row of `expired_candidates`. -/
structure ExpiredCandidate where
  job : WorkerJob
  cancellationRequested : Bool

/-- `w.status = 'CANCELLING' OR s.cancel_requested_at IS NOT NULL` over the
left join with the job's run. -/
def isCancellationRequested (simulations : List Simulation) (job : WorkerJob) : Bool :=
  job.status = .cancelling ||
    simulations.any fun row => job.runId = some row.runId && row.cancelRequestedAt.isSome

def isExpired (now : Instant) (job : WorkerJob) : Bool :=
  job.status.isActive && job.leaseExpired now

def ExpiredCandidate.of (simulations : List Simulation) (job : WorkerJob) : ExpiredCandidate :=
  { job, cancellationRequested := isCancellationRequested simulations job }

def expiredCandidates (now : Instant) (tables : Tables) : List ExpiredCandidate :=
  (tables.workerJobs.filter (isExpired now)).map (ExpiredCandidate.of tables.simulations)

def leaseLostError : Json :=
  .object [("code", .string "LEASE_LOST"), ("recoverable", .bool true)]

namespace ExpiredCandidate

def finalStatus (candidate : ExpiredCandidate) : JobStatus :=
  if candidate.cancellationRequested then .cancelled else .failedRecoverable

def errorJson (candidate : ExpiredCandidate) : Option Json :=
  if candidate.cancellationRequested then none else some leaseLostError

/-- The row that `expired` leaves in `worker_jobs`. -/
def released (candidate : ExpiredCandidate) : WorkerJob :=
  { candidate.job.settle candidate.finalStatus with errorJson := candidate.errorJson }

/-- The values of `worker_events`. -/
def workerEvent (candidate : ExpiredCandidate) : WorkerEventValues :=
  { jobId := candidate.job.jobId, runId := candidate.job.runId, eventType := .state
    payloadJson := (Json.object
      [("status", .string candidate.finalStatus.text),
        ("error", Json.ofOption id candidate.errorJson)]).stripNulls }

/-- The condition of `invalid_datasets`. -/
def invalidates (candidate : ExpiredCandidate) (dataset : Dataset) : Bool :=
  candidate.job.jobType = .datasetPreflight && !candidate.cancellationRequested &&
    candidate.job.datasetId = dataset.datasetId

/-- The row that `updated_simulations` leaves in `simulations`. -/
def settledRun (now : Instant) (candidate : ExpiredCandidate) (row : Simulation) : Simulation :=
  { row with
    status := candidate.finalStatus.simulationStatus, currentStage := none,
    finishedAt := some now, artifactState := .incomplete, errorJson := candidate.errorJson }

/-- The values of `emitted_events`. -/
def runEvent (candidate : ExpiredCandidate) (row : Simulation) : EventValues :=
  { runId := row.runId, eventType := .state
    payloadJson := (Json.object
      [("previous_status", .string candidate.job.status.text),
        ("status", .string candidate.finalStatus.text),
        ("error", Json.ofOption id candidate.errorJson)]).stripNulls }

end ExpiredCandidate

/-- The expired candidate that a run is joined with. -/
def candidateFor? (expired : List ExpiredCandidate) (row : Simulation) : Option ExpiredCandidate :=
  expired.find? fun candidate => candidate.job.runId = some row.runId

/-- The condition of `updated_simulations`. -/
def recovers (expired : List ExpiredCandidate) (row : Simulation) : Bool :=
  row.status.hasStage && (candidateFor? expired row).isSome

/-- `worker_recover_expired_leases`. -/
def workerRecoverExpiredLeases (now : Instant) (store : Store) : Except PgError (Store × Nat) := do
  requireScheduler store
  let expired := expiredCandidates now store.tables
  let released ← updateJobs now (isExpired now)
    (fun job => (ExpiredCandidate.of store.tables.simulations job).released) store
  let reported ← insertWorkerJobEvents now (expired.map ExpiredCandidate.workerEvent) released
  let invalidated ← updateDatasets now
    (fun dataset => dataset.status = .validating &&
      expired.any fun candidate => candidate.invalidates dataset)
    (fun dataset => { dataset with
      status := .invalid, validationFinishedAt := some now, errorCode := some "PREFLIGHT_FAILED",
      errorMessage := some "LEASE_LOST" }) reported
  let settled ← updateSimulations now (recovers expired)
    (fun row => ((candidateFor? expired row).map fun candidate =>
      candidate.settledRun now row).getD row) invalidated
  let emitted ← insertSimulationEvents now
    ((store.tables.simulations.filter (recovers expired)).filterMap fun row =>
      (candidateFor? expired row).map fun candidate => candidate.runEvent row) settled
  if 0 < expired.length then
    let announced ← emitQueuePositionEvents now emitted
    return (announced, expired.length)
  else
    return (emitted, expired.length)

/-! ## Claiming -/

/-- The row that `worker_claim_next_job_for_worker` returns. -/
structure ClaimedJob where
  jobId : String
  jobType : JobType
  runId : Option String
  envelopeJson : Json
  leaseExpiresAt : Instant

/-- `ORDER BY enqueue_seq ... LIMIT 1` over the queued jobs. -/
def nextQueuedJob? (jobs : List WorkerJob) : Option WorkerJob :=
  ((jobs.filter fun job => job.status = .queued).insertionSort fun left right =>
    left.enqueueSeq ≤ right.enqueueSeq).head?

/-- The envelope handed to the worker, with its own attempt directory. -/
def claimedEnvelope (job : WorkerJob) (attemptId leaseToken : String) : Json :=
  let identified := job.envelopeJson.merge
    (.object [("attempt_id", .string attemptId), ("lease_token", .string leaseToken)])
  let directory := match job.jobType with
    | .simulation => "runs/" ++ job.runId.getD "" ++ "/tmp/" ++ attemptId
    | .datasetPreflight => "datasets/" ++ job.datasetId ++ "/preflight/tmp/" ++ attemptId
  identified.replaceAt ["output", "relative_tmp_directory"] (.string directory)

/-- The part of `worker_claim_next_job_for_worker` after a job was selected. -/
def startJob (now : Instant) (attemptId leaseToken : String) (leaseSeconds : Int)
    (selectedJob : WorkerJob) (store : Store) : Except PgError (Store × Option ClaimedJob) := do
  let claimed ← updateJobs now (fun job => job.jobId = selectedJob.jobId)
    (fun job => { job with
      status := .running, attemptId := some attemptId, lastAttemptId := some attemptId,
      leaseToken := some leaseToken, leaseExpiresAt := some (now + seconds leaseSeconds),
      lastHeartbeatAt := some now }) store
  let reply : ClaimedJob :=
    { jobId := selectedJob.jobId, jobType := selectedJob.jobType, runId := selectedJob.runId
      envelopeJson := claimedEnvelope selectedJob attemptId leaseToken
      leaseExpiresAt := now + seconds leaseSeconds }
  match selectedJob.jobType with
  | .datasetPreflight => return (claimed, some reply)
  | .simulation =>
      let selects := fun row : Simulation =>
        selectedJob.runId = some row.runId && row.status = .queued
      let started ← updateSimulations now selects
        (fun row => { row with
          status := .running, currentStage := some .preprocessing,
          startedAt := some (row.startedAt.getD now), lastHeartbeatAt := some now,
          attemptId := some attemptId }) claimed
      require (claimed.tables.simulations.any selects = true)
        (.raised "55000" "simulation was not claimable")
      let reported ← insertSimulationEvents now
        [stateEvent (selectedJob.runId.getD "")
          [("previous_status", .string "QUEUED"), ("status", .string "RUNNING")]] started
      let announced ← emitQueuePositionEvents now reported
      return (announced, some reply)

/-- `worker_claim_next_job_for_worker`. -/
def workerClaimNextJobForWorker (now : Instant) (workerId attemptId leaseToken : String)
    (leaseSeconds : Int) (store : Store) : Except PgError (Store × Option ClaimedJob) := do
  require (1 ≤ leaseSeconds ∧ leaseSeconds ≤ 600) (.raised "22023" "invalid lease duration")
  require (isIdentifier attemptId = true ∧ 16 ≤ leaseToken.length)
    (.raised "22023" "invalid lease identity")
  let selects := fun row : WorkerInstance =>
    row.workerId = workerId && row.workerContractVersion = "worker.task.v1" &&
      now - seconds leaseSeconds < row.lastHeartbeatAt
  let seen ← updateInstances selects (fun row => { row with lastHeartbeatAt := now }) store
  require (store.tables.workerInstances.any selects = true)
    (.raised "55000" "worker is not registered or heartbeat is stale")
  requireScheduler seen
  let (recovered, _) ← workerRecoverExpiredLeases now seen
  if recovered.tables.workerJobs.any fun job => job.status.isActive && job.leaseLive now then
    return (recovered, none)
  else
    match nextQueuedJob? recovered.tables.workerJobs with
    | none => return (recovered, none)
    | some selectedJob =>
        startJob now attemptId leaseToken leaseSeconds selectedJob recovered

/-! ## Heartbeats and cancellation checks -/

/-- The part of `worker_heartbeat_for_worker` after the lease was renewed. -/
def recordHeartbeat (now : Instant) (jobId : String) (store : Store) :
    Except PgError (Store × Bool) := do
  let selected := store.tables.workerJobs.filter fun job => job.jobId = jobId
  let beaten ← updateSimulations now
    (fun row => selected.any fun job => job.runId = some row.runId)
    (fun row => { row with lastHeartbeatAt := some now }) store
  let reported ← insertWorkerJobEvents now
    (selected.map fun job =>
      { jobId := job.jobId, runId := job.runId, eventType := .heartbeat
        payloadJson := .object [("status", .string job.status.text)] }) beaten
  let emitted ← insertSimulationEvents now
    (selected.filterMap fun job => job.runId.map fun runId =>
      { runId, eventType := .heartbeat
        payloadJson := .object [("status", .string job.status.text)] }) reported
  return (emitted, true)

/-- `worker_heartbeat_for_worker`. -/
def workerHeartbeatForWorker (now : Instant) (workerId : String) (lease : Lease)
    (leaseSeconds : Int) (store : Store) : Except PgError (Store × Bool) := do
  require (1 ≤ leaseSeconds ∧ leaseSeconds ≤ 600) (.raised "22023" "invalid lease duration")
  let registered := fun row : WorkerInstance =>
    row.workerId = workerId && row.workerContractVersion = "worker.task.v1"
  let seen ← updateInstances registered (fun row => { row with lastHeartbeatAt := now }) store
  if store.tables.workerInstances.any registered then
    let selects := fun job : WorkerJob => lease.holds now job && job.status.isActive
    let renewed ← updateJobs now selects
      (fun job => { job with
        leaseExpiresAt := some (now + seconds leaseSeconds), lastHeartbeatAt := some now }) seen
    if seen.tables.workerJobs.any selects then recordHeartbeat now lease.jobId renewed
    else return (renewed, false)
  else
    return (seen, false)

/-- The row that `worker_cancellation_context` returns while the lease is
valid. -/
structure CancellationContext where
  cancelRequested : Bool
  cancelRequestedAt : Option Instant

/-- `worker_cancellation_context`. -/
def workerCancellationContext (now : Instant) (lease : Lease) (store : Store) :
    Option CancellationContext :=
  (selectJob? (fun job => lease.holds now job && job.status.isActive) store).map fun job =>
    let run := store.tables.simulations.find? fun row => job.runId = some row.runId
    { cancelRequested :=
        job.status = .cancelling || run.any fun row => row.cancelRequestedAt.isSome
      cancelRequestedAt := run.bind Simulation.cancelRequestedAt }

/-! ## Events -/

/-- The condition of `invalid worker event`. -/
def invalidWorkerEvent (platform : Platform) (lease : Lease) (status : JobStatus) (event : Json) :
    Truth :=
  Truth.any
    [Truth.differs (event.text? "schema_version") (some "worker.event.v1"),
      Truth.differs (event.text? "job_id") (some lease.jobId),
      Truth.differs (event.text? "attempt_id") (some lease.attemptId),
      Truth.differs (event.text? "status") (some status.text),
      Truth.notIn (event.text? "stage") (Stage.all.map Stage.text),
      Truth.differs ((event.field? "occurred_at").map Json.typeName) (some "string"),
      Truth.differs ((event.field? "diagnostics").map Json.typeName) (some "object"),
      some (decide (65536 < platform.pgColumnSize event))]

/-- Whether the event's run identifier is refused for the job. -/
def refusedRunIdentifier (runId : Option String) (event : Json) : Bool :=
  match runId with
  | none => (event.text? "run_id").isSome
  | some run => event.text? "run_id" != some run

/-- The event's agent: absent or null, a number printed as one of the three
digits, or refused. -/
def eventAgent (event : Json) : Except PgError (Option Int) :=
  if event.hasKey "agent" then
    match event.field? "agent" with
    | none => .ok none
    | some .null => .ok none
    | some (.number value) =>
        match ([1, 2, 3] : List Int).find? fun agent => value.text = toString agent with
        | some agent => .ok (some agent)
        | none => .error (.raised "22023" "invalid worker event agent")
    | some _ => .error (.raised "22023" "invalid worker event agent")
  else .ok none

/-- The part of `worker_report_event` after the event was accepted. -/
def recordEvent (now : Instant) (selectedJob : WorkerJob) (event : Json) (agent : Option Int)
    (store : Store) : Except PgError (Store × Bool) := do
  let reported ← insertWorkerJobEvents now
    [{ jobId := selectedJob.jobId, runId := selectedJob.runId, eventType := .stage
       payloadJson := event }] store
  match selectedJob.runId with
  | none => return (reported, true)
  | some runId =>
      let staged ← updateSimulations now
        (fun row => row.runId = runId && row.status = selectedJob.status.simulationStatus)
        (fun row => { row with currentStage := (event.text? "stage").bind Stage.ofText? }) reported
      let emitted ← insertSimulationEvents now
        [{ runId, eventType := .stage
           payloadJson := (Json.object
            [("status", .string selectedJob.status.text),
              ("current_stage", Json.ofOption Json.string (event.text? "stage")),
              ("agent", Json.ofOption Json.ofInt agent),
              ("diagnostics", Json.ofOption id (event.field? "diagnostics"))]).stripNulls }] staged
      return (emitted, true)

/-- `worker_report_event`. -/
def workerReportEvent (platform : Platform) (now : Instant) (lease : Lease) (event : Json)
    (store : Store) : Except PgError (Store × Bool) :=
  match selectJob? (fun job => lease.holds now job && job.status.isActive) store with
  | none => .ok (store, false)
  | some selectedJob => do
      require ((invalidWorkerEvent platform lease selectedJob.status event).taken = false)
        (.raised "22023" "invalid worker event")
      require (refusedRunIdentifier selectedJob.runId event = false)
        (.raised "22023"
          (if selectedJob.runId.isSome then "worker event run identifier mismatch"
            else "preflight event has a run identifier"))
      let agent ← eventAgent event
      recordEvent now selectedJob event agent store

/-! ## Settling -/

/-- `worker_complete_preflight`. -/
def workerCompletePreflight (now : Instant) (lease : Lease) (inputSha256 : String) (summary : Json)
    (summarySha256 : String) (store : Store) : Except PgError (Store × Bool) :=
  match selectJob? (fun job => lease.holds now job && job.jobType = .datasetPreflight &&
      job.status = .running) store with
  | none => .ok (store, false)
  | some selectedJob => do
      let selects := fun dataset : Dataset =>
        dataset.datasetId = selectedJob.datasetId && dataset.status = .validating &&
          dataset.sha256 = inputSha256
      let validated ← updateDatasets now selects
        (fun dataset => { dataset with
          status := .valid, preflightSummaryJson := some summary,
          preflightSummarySha256 := some summarySha256, validationFinishedAt := some now,
          errorCode := none, errorMessage := none }) store
      require (store.tables.datasets.any selects = true)
        (.raised "55000" "preflight dataset hash or status mismatch")
      let completed ← updateJobs now (fun job => job.jobId = lease.jobId)
        (WorkerJob.settle .completed) validated
      return (completed, true)

/-- `worker_confirm_cancel`. -/
def workerConfirmCancel (now : Instant) (lease : Lease) (store : Store) :
    Except PgError (Store × Bool) :=
  match selectJob? (fun job => lease.holds now job && job.status = .cancelling) store with
  | none => .ok (store, false)
  | some selectedJob => do
      let cancelled ← updateJobs now (fun job => job.jobId = lease.jobId)
        (WorkerJob.settle .cancelled) store
      match selectedJob.runId with
      | none => return (cancelled, true)
      | some runId =>
          let settled ← updateSimulations now
            (fun row => row.runId = runId && row.status = .cancelling)
            (fun row => { row with
              status := .cancelled, currentStage := none, finishedAt := some now,
              artifactState := .incomplete }) cancelled
          let reported ← insertSimulationEvents now
            [stateEvent runId
              [("previous_status", .string "CANCELLING"), ("status", .string "CANCELLED")]] settled
          let announced ← emitQueuePositionEvents now reported
          return (announced, true)

/-- The branch of `worker_fail_job` in which a cancellation was requested. -/
def settleCancelled (now : Instant) (lease : Lease) (selectedJob : WorkerJob) (store : Store) :
    Except PgError (Store × Bool) := do
  let cancelled ← updateJobs now (fun job => job.jobId = lease.jobId)
    (fun job => { job.settle .cancelled with errorJson := none }) store
  let settled ← updateSimulations now
    (fun row => selectedJob.runId = some row.runId && row.status.hasStage)
    (fun row => { row with
      status := .cancelled, currentStage := none, finishedAt := some now,
      artifactState := .incomplete, errorJson := none }) cancelled
  let reported ← insertSimulationEvents now
    [stateEvent (selectedJob.runId.getD "")
      [("previous_status", .string selectedJob.status.text), ("status", .string "CANCELLED")]]
    settled
  let announced ← emitQueuePositionEvents now reported
  return (announced, true)

/-- The branch of `worker_fail_job` in which the failure is recorded. -/
def settleFailed (now : Instant) (lease : Lease) (selectedJob : WorkerJob) (error : Json)
    (finalStatus : JobStatus) (store : Store) : Except PgError (Store × Bool) := do
  let failed ← updateJobs now (fun job => job.jobId = lease.jobId)
    (fun job => { job.settle finalStatus with errorJson := some error }) store
  match selectedJob.runId with
  | none =>
      let invalidated ← updateDatasets now
        (fun dataset => dataset.datasetId = selectedJob.datasetId)
        (fun dataset => { dataset with
          status := .invalid, validationFinishedAt := some now,
          errorCode := some "PREFLIGHT_FAILED",
          errorMessage := some ((error.text? "code").getD "PREFLIGHT_FAILED") }) failed
      return (invalidated, true)
  | some runId =>
      let settled ← updateSimulations now (fun row => row.runId = runId)
        (fun row => { row with
          status := finalStatus.simulationStatus, currentStage := none, finishedAt := some now,
          errorJson := some error, artifactState := .incomplete }) failed
      let reported ← insertSimulationEvents now
        [stateEvent runId [("status", .string finalStatus.text), ("error", error)]] settled
      return (reported, true)

/-- `worker_fail_job`. -/
def workerFailJob (now : Instant) (lease : Lease) (error : Json) (recoverable : Bool)
    (store : Store) : Except PgError (Store × Bool) := do
  requireScheduler store
  match selectJob? (fun job => lease.holds now job && job.status.isActive) store with
  | none => return (store, false)
  | some selectedJob =>
      -- The intent is only consulted for a job that has a run.
      if selectedJob.runId.isSome && isCancellationRequested store.tables.simulations selectedJob then
        settleCancelled now lease selectedJob store
      else
        settleFailed now lease selectedJob error
          (if recoverable then .failedRecoverable else .failed) store

/-! ## Committing a simulation -/

/-- A record of `p_artifacts`; an absent or null column is `none`. -/
structure ArtifactItem where
  name : Option String
  relativePath : Option String
  mediaType : Option String
  sizeBytes : Option Int
  sha256 : Option String
  required : Option Bool

/-- Whether the submitted records lack a required artifact of this name. -/
def lacksArtifact (items : List ArtifactItem) (name : String) : Bool :=
  !(items.any fun item => item.name = some name && item.required = some true)

/-- A column value, or the violation of its `NOT NULL`. -/
def notNull {α : Type} : Option α -> Except PgError α
  | some value => .ok value
  | none => .error .notNullViolation

def ArtifactItem.row (now : Instant) (runId : String) (item : ArtifactItem) :
    Except PgError Artifact := do
  let name ← notNull item.name
  let relativePath ← notNull item.relativePath
  let mediaType ← notNull item.mediaType
  let sizeBytes ← notNull item.sizeBytes
  let sha256 ← notNull item.sha256
  let required ← notNull item.required
  return { runId, name, relativePath, mediaType, sizeBytes, sha256, required, createdAt := now }

/-- A decimal numeral without sign, point or leading zero. -/
def isNumeral (text : String) : Bool :=
  match text.toList with
  | [] => false
  | ['0'] => true
  | first :: rest =>
      '1' ≤ first && first ≤ '9' && rest.all fun char => '0' ≤ char && char ≤ '9'

/-- The condition of `invalid alarm result locator` for one submitted alarm. -/
def invalidAlarm (alarm : Json) : Truth :=
  let agent := alarm.text? "agent"
  let index := alarm.text? "original_running_index"
  let locator := alarm.field? "result_locator"
  Truth.any
    [some (alarm.typeName != "object"), some (!alarm.hasKey "agent"),
      some (!alarm.hasKey "original_running_index"), some (!alarm.hasKey "result_locator"),
      Truth.differs ((alarm.field? "agent").map Json.typeName) (some "number"),
      Truth.notIn agent ["1", "2", "3"],
      Truth.differs ((alarm.field? "original_running_index").map Json.typeName) (some "number"),
      index.map fun text => !isNumeral text,
      index.map fun text => decide (19 < text.length),
      index.map fun text => decide (text.length = 19 ∧ "9223372036854775807" < text),
      Truth.differs (locator.map Json.typeName) (some "object"),
      locator.map fun value => !(value.hasKey "agent" && value.hasKey "original_running_index"),
      locator.map fun value =>
        !((value.without "agent").without "original_running_index").equals (.object []),
      Truth.differs ((locator.bind (Json.field? "agent")).map Json.typeName) (some "number"),
      Truth.differs ((locator.bind (Json.field? "original_running_index")).map Json.typeName)
        (some "number"),
      Truth.differs (locator.bind (Json.text? "agent")) agent,
      Truth.differs (locator.bind (Json.text? "original_running_index")) index,
      locator.map fun value => !value.equals (.object
        [("agent", Json.ofOption id (alarm.field? "agent")),
          ("original_running_index", Json.ofOption id (alarm.field? "original_running_index"))])]

/-- The elements of the alarms argument, which must be an array when present. -/
def alarmItems : Option Json -> Except PgError (List Json)
  | none => .ok []
  | some (.array items) => .ok items
  | some _ => .error (.raised "22023" "alarms must be a JSON array")

/-- A whole number column of a record. -/
def intColumn (name : String) (record : Json) : Except PgError Int :=
  match record.field? name with
  | some (.number ⟨value, 0⟩) => .ok value
  | some .null | none => .error .notNullViolation
  | some _ => .error .invalidText

/-- A text column of a record whose values form a closed set. -/
def choiceColumn {α : Type} (name : String) (ofText? : String -> Option α) (record : Json) :
    Except PgError α := do
  let text ← notNull (record.text? name)
  match ofText? text with
  | some value => return value
  | none => .error .checkViolation

/-- The row of `alarm_index` for a submitted alarm; its locator is rebuilt from
the agent and the index. -/
def alarmRow (platform : Platform) (now : Instant) (runId : String) (record : Json) :
    Except PgError Alarm := do
  let agent ← intColumn "agent" record
  let index ← intColumn "original_running_index" record
  let timeValue ← match record.text? "time_value" with
    | none => .ok none
    | some text =>
        match platform.castTimestamptz text with
        | some instant => .ok (some instant)
        | none => .error PgError.invalidText
  let level ← choiceColumn "overall_alarm_level" AlarmLevel.ofText? record
  let alarmType ← notNull (record.text? "alarm_type")
  let reasons ← notNull ((record.field? "reasons_json").filter fun value => value != .null)
  let loadStatus ← choiceColumn "load_status" LoadStatus.ofText? record
  return { alarmId := 0, runId, agent, originalRunningIndex := index, timeValue,
           overallAlarmLevel := level, alarmType, reasonsJson := reasons, loadStatus
           resultLocatorJson := .object
            [("agent", Json.ofInt agent), ("original_running_index", Json.ofInt index)]
           createdAt := now }

/-- What a worker submits with `worker_commit_simulation`. -/
structure CommitRequest where
  manifestSha256 : String
  artifacts : List ArtifactItem
  alarms : Option Json
  stageDurations : Json

/-- The part of `worker_commit_simulation` that validates its arguments. -/
def checkCommit (request : CommitRequest) : Except PgError (List Json) := do
  let alarms ← alarmItems request.alarms
  require (alarms.all (fun alarm => !(invalidAlarm alarm).taken) = true)
    (.raised "22023" "invalid alarm result locator")
  match requiredArtifactNames.find? (lacksArtifact request.artifacts) with
  | some name => .error (.raised "22023" ("required artifact " ++ name ++ " is missing"))
  | none =>
      let manifest := (request.artifacts.find? fun item =>
        item.name = some "artifact_manifest.json").bind ArtifactItem.sha256
      require (manifest = some request.manifestSha256)
        (.raised "22023" "artifact manifest SHA-256 mismatch")
      return alarms

/-- The part of `worker_commit_simulation` after its arguments were accepted. -/
def publishRun (platform : Platform) (now : Instant) (lease : Lease) (runId : String)
    (request : CommitRequest) (alarms : List Json) (store : Store) :
    Except PgError (Store × Bool) := do
  let selects := fun row : Simulation => row.runId = runId && row.status = .running
  let generating ← updateSimulations now selects
    (fun row => { row with
      status := .generatingArtifacts, currentStage := none, artifactState := .generating }) store
  require (store.tables.simulations.any selects = true)
    (.raised "55000" "simulation is not in a committable state")
  let announced ← insertSimulationEvents now
    [stateEvent runId
      [("previous_status", .string "RUNNING"), ("status", .string "GENERATING_ARTIFACTS")]]
    generating
  let artifactRows ← request.artifacts.mapM (ArtifactItem.row now runId)
  let stored ← insertArtifacts artifactRows announced
  let alarmRows ← alarms.mapM (alarmRow platform now runId)
  let indexed ← insertAlarms alarmRows stored
  let committed ← updateSimulations now
    (fun row => row.runId = runId && row.status = .generatingArtifacts)
    (fun row => { row with
      status := .completed, artifactState := .committed, finishedAt := some now }) indexed
  let released ← updateJobs now (fun job => job.jobId = lease.jobId)
    (WorkerJob.settle .completed) committed
  let reported ← insertSimulationEvents now
    [stateEvent runId
      [("previous_status", .string "GENERATING_ARTIFACTS"), ("status", .string "COMPLETED")]]
    released
  let emitted ← insertSimulationEvents now
    [{ runId, eventType := .artifactCommitted
       payloadJson := .object
        [("status", .string "COMPLETED"), ("artifact_count", Json.ofNat request.artifacts.length),
          ("manifest_sha256", .string request.manifestSha256),
          ("stage_durations_ms", request.stageDurations)] }] reported
  return (emitted, true)

/-- `worker_commit_simulation`. -/
def workerCommitSimulation (platform : Platform) (now : Instant) (lease : Lease)
    (request : CommitRequest) (store : Store) : Except PgError (Store × Bool) :=
  match selectJob? (fun job => lease.holds now job && job.jobType = .simulation &&
      job.status = .running) store with
  | none => .ok (store, false)
  | some selectedJob => do
      let alarms ← checkCommit request
      publishRun platform now lease (selectedJob.runId.getD "") request alarms store

end Queue
end FederatedIot
