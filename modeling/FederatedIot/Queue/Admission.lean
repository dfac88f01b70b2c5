import FederatedIot.Queue.Snapshot

namespace FederatedIot
namespace Queue

open Foundation Foundation.Relation Foundation.Outcome

/-!
# Admission and cancellation

The three transactions of the API: registering a dataset, creating a run and
cancelling a run.  Each is a function of the store its statements see.  The
random identifiers that the service draws are arguments, and so is the clock
of the service, which the database clock `now` need not agree with.
-/

/-! ## Reading a run -/

structure SimulationRecord where
  runId : String
  displayName : Option String
  status : SimulationStatus
  currentStage : Option Stage
  queuePosition : Option Nat
  runMode : RunMode
  snapshotSha256 : String
  snapshot : Json
  createdAt : Instant
  startedAt : Option Instant
  finishedAt : Option Instant
  error : Option Json
  artifactState : ArtifactState
  lastHeartbeatAt : Option Instant
  latestEventId : Nat
  stageDurations : Json
  enqueueSequence : Nat
  deriving DecidableEq

/-- The queue position column of `simulationSelect`. -/
def queuePosition (simulations : List Simulation) (row : Simulation) : Option Nat :=
  if row.status = .queued then
    some (simulations.filter fun queued =>
      queued.status = .queued && queued.enqueueSeq ≤ row.enqueueSeq).length
  else none

/-- `max(event_id)` over the run's events, or zero. -/
def latestEventId (events : List SimulationEvent) (runId : String) : Nat :=
  ((events.filter fun event => event.runId = runId).map SimulationEvent.eventId).foldl max 0

/-- The durations of the newest `artifact.committed` event. -/
def stageDurations (events : List SimulationEvent) (runId : String) : Json :=
  let committed := events.filter fun event =>
    event.runId = runId && event.eventType = .artifactCommitted
  let latest := committed.find? fun event =>
    committed.all fun other => other.eventId ≤ event.eventId
  (latest.bind fun event => event.payloadJson.field? "stage_durations_ms").getD (.object [])

def simulationRow (tables : Tables) (row : Simulation) (snapshot : SimulationSnapshot) :
    SimulationRecord :=
  { runId := row.runId, displayName := row.displayName, status := row.status
    currentStage := row.currentStage, queuePosition := queuePosition tables.simulations row
    runMode := row.runMode, snapshotSha256 := snapshot.snapshotSha256
    snapshot := snapshot.snapshotJson, createdAt := row.createdAt, startedAt := row.startedAt
    finishedAt := row.finishedAt, error := row.errorJson, artifactState := row.artifactState
    lastHeartbeatAt := row.lastHeartbeatAt
    latestEventId := latestEventId tables.simulationEvents row.runId
    stageDurations := stageDurations tables.simulationEvents row.runId
    enqueueSequence := row.enqueueSeq }

def runNotFound : StableError :=
  { code := "RUN_NOT_FOUND", field := "", message := "Simulation was not found."
    recoverable := false }

/-- `simulationByID`, and `simulationByIDForUpdate` apart from its locks. -/
def simulationById (runId : String) (tables : Tables) : Except Fault SimulationRecord :=
  match tables.simulations.find? (fun row => row.runId = runId),
      tables.simulationSnapshots.find? (fun row => row.runId = runId) with
  | some row, some snapshot => .ok (simulationRow tables row snapshot)
  | _, _ => .error (.stable runNotFound)

/-! ## RegisterDataset -/

structure DatasetRegistration where
  datasetId : String
  displayName : String
  originalFilename : String
  storageKey : String
  sha256 : String
  sizeBytes : Int
  timezone : String
  utcOffset : String
  structuralStatistics : Json
  warnings : Json

/-- The record that `RegisterDataset` returns. -/
structure RegisteredDataset where
  datasetId : String
  displayName : String
  originalFilename : String
  sha256 : String
  sizeBytes : Int
  timezone : String
  utcOffset : String
  status : DatasetStatus
  structuralStatistics : Json
  warnings : Json
  preflightJobId : String
  preflightStatus : JobStatus
  preflightQueuePosition : Nat
  preflightLeaseState : String
  createdAt : Instant

def preflightQueueFull : StableError :=
  { code := "PREFLIGHT_QUEUE_FULL", field := ""
    message := "The dataset preflight queue is at capacity.", recoverable := true }

def queuedPreflights (tables : Tables) : Nat :=
  (tables.workerJobs.filter fun job =>
    job.jobType = .datasetPreflight && job.status = .queued).length

def queuedJobs (tables : Tables) : Nat :=
  (tables.workerJobs.filter fun job => job.status = .queued).length

/-- The identifiers drawn by one admission. -/
structure Identifiers where
  subjectId : String
  jobId : String
  deriving DecidableEq, Repr

/-- `RegisterDataset`; `identifiers.subjectId` is the drawn dataset identifier. -/
def registerDataset (platform : Platform) (now clock : Instant) (identifiers : Identifiers)
    (input : DatasetRegistration) (store : Store) : Except Fault (Store × RegisteredDataset) := do
  let control ← (match store.tables.schedulerControl with
    | some control => .ok control
    | none => .error (.internal "no rows in result set"))
  require ((queuedPreflights store.tables : Int) < control.preflightQueueCapacity)
    (.stable preflightQueueFull)
  let datasetId := if input.datasetId = "" then identifiers.subjectId else input.datasetId
  let (sequence, drawn) := nextSequence store
  let envelope := preflightEnvelope platform identifiers.jobId datasetId input.storageKey
    input.sha256 input.timezone
  let registered ← Fault.ofPg (insertDataset
    { datasetId, displayName := input.displayName, originalFilename := input.originalFilename
      storageKey := input.storageKey, sha256 := input.sha256, sizeBytes := input.sizeBytes
      columnsJson := requiredColumnsJson, timezone := input.timezone, utcOffset := input.utcOffset
      status := .validating, structuralStatistics := input.structuralStatistics
      warningsJson := input.warnings, preflightContractVersion := some "preprocessing.v1"
      preflightSummaryJson := none, preflightSummarySha256 := none
      validationStartedAt := some now, validationFinishedAt := none, errorCode := none
      errorMessage := none, createdAt := now, updatedAt := now } drawn)
  let enqueued ← Fault.ofPg (insertJob
    { jobId := identifiers.jobId, jobType := .datasetPreflight, datasetId, runId := none
      envelopeJson := envelope
      envelopeSha256 := platform.sha256Hex (Json.canonical envelope)
      enqueueSeq := sequence, status := .queued, attemptId := none, lastAttemptId := none
      leaseToken := none, leaseExpiresAt := none, lastHeartbeatAt := none, errorJson := none
      createdAt := now, updatedAt := now } registered)
  return (enqueued,
    { datasetId, displayName := input.displayName, originalFilename := input.originalFilename
      sha256 := input.sha256, sizeBytes := input.sizeBytes, timezone := input.timezone
      utcOffset := input.utcOffset, status := .validating
      structuralStatistics := input.structuralStatistics, warnings := input.warnings
      preflightJobId := identifiers.jobId, preflightStatus := .queued
      preflightQueuePosition := queuedJobs store.tables + 1
      preflightLeaseState := "NOT_CLAIMED", createdAt := clock })

/-! ## CreateSimulation -/

/-- `RuntimeIdentity.Validate`. -/
def RuntimeIdentity.isValid (identity : RuntimeIdentity) : Bool :=
  identity.algorithmVersion != "" && identity.workerVersion != "" &&
    identity.numericRuntime != "" &&
    identity.workerImageDigest.toList.take 7 == "sha256:".toList &&
    isSha256Hex (String.ofList (identity.workerImageDigest.toList.drop 7))

def stableError (code field message : String) : StableError :=
  { code, field, message, recoverable := true }

def idempotencyConflict : StableError :=
  stableError "IDEMPOTENCY_CONFLICT" ""
    "The Idempotency-Key was previously used with a different request."

def queueFull : StableError :=
  stableError "QUEUE_FULL" "" "The simulation queue has one execution slot and ten waiting slots."

def simulationWaitCapacity : Nat :=
  10

/-- `domain.SimulationWaitCapacity` waiting runs besides one execution slot. -/
def hasCapacity (tables : Tables) : Bool :=
  let active := (tables.simulations.filter fun row => row.status.isExecution).length
  let waiting := (tables.simulations.filter fun row => row.status = .queued).length
  !((0 < active && simulationWaitCapacity ≤ waiting) ||
    (active = 0 && simulationWaitCapacity + 1 ≤ waiting))

/-- `nullIfBlank`. -/
def nullIfBlank (value : String) : Option String :=
  if trimSpace value = "" then none else some (trimSpace value)

/-- The checks of `CreateSimulation` before its transaction begins. -/
def validateCreate (platform : Platform) (key : String) (request : CreateSimulationRequest) :
    Except StableError Unit := do
  require (platform.runtime.isValid = true)
    (stableError "WORKER_RUNTIME_NOT_CONFIGURED" ""
      "Simulation runtime identity is not configured.")
  require (16 ≤ key.utf8ByteSize ∧ key.utf8ByteSize ≤ 128)
    (stableError "REQUEST_INVALID" "Idempotency-Key"
      "Idempotency-Key must contain 16 to 128 characters.")
  request.validate

/-- The dataset that the request names, which must be valid. -/
def admissibleDataset (request : CreateSimulationRequest) (tables : Tables) :
    Except StableError Dataset :=
  match tables.datasets.find? fun row => row.datasetId = request.datasetId with
  | none => .error (stableError "DATASET_NOT_VALID" "dataset_id"
      "Dataset does not exist or is not VALID.")
  | some dataset =>
      if dataset.status = .valid then .ok dataset
      else .error (stableError "DATASET_NOT_VALID" "dataset_id"
        "Dataset must complete Worker preflight before simulation.")

/-- The parameter profile that the request names, in the mode it asks for. -/
def admissibleProfile (platform : Platform) (request : CreateSimulationRequest) (tables : Tables) :
    Except StableError ParameterProfile :=
  match tables.parameterProfiles.find? fun row =>
      row.versionId = request.parameterProfileVersionId with
  | none => .error (stableError "PROFILE_NOT_FOUND" "parameter_profile_version_id"
      "Parameter profile was not found.")
  | some profile => do
      require (request.runMode = profile.mode.text)
        (stableError "REFERENCE_CONFIG_IMMUTABLE" "run_mode"
          "Run mode must match the immutable parameter profile.")
      if request.parameterProfileVersionId = referenceProfileVersionId then
        validateReferenceProfile platform profile.normalizedJson profile.normalizedSha256
      return profile

/-- The load mapping that the request names. -/
def admissibleMapping (request : CreateSimulationRequest) (tables : Tables) :
    Except StableError LoadMappingProfile :=
  match tables.loadMappingProfiles.find? fun row => row.versionId = request.loadMappingVersionId with
  | none => .error (stableError "MAPPING_NOT_FOUND" "load_mapping_version_id"
      "Load mapping profile was not found.")
  | some mapping => do
      require (mapping.mappingType = "identity")
        (stableError "MAPPING_TYPE_NOT_APPROVED" "load_mapping_version_id"
          "Only the identity mapping is approved in S1.")
      return mapping

/-- The reads and checks of `CreateSimulation` for a key that is not used yet. -/
def checkAdmission (platform : Platform) (request : CreateSimulationRequest) (tables : Tables) :
    Except StableError AdmissionInputs := do
  let dataset ← admissibleDataset request tables
  let profile ← admissibleProfile platform request tables
  let mapping ← admissibleMapping request tables
  require (hasCapacity tables = true) queueFull
  return { dataset, profile, mapping }

/-- A stable error as the repository returns it. -/
def ofStable {α : Type} : Except StableError α -> Except Fault α
  | .ok value => .ok value
  | .error error => .error (.stable error)

@[simp]
theorem ofStable_ok_iff {α : Type} {outcome : Except StableError α} {value : α} :
    ofStable outcome = .ok value ↔ outcome = .ok value := by
  cases outcome with
  | error _ => exact ⟨fun same => (by cases same), fun same => (by cases same)⟩
  | ok _ =>
      constructor
      · intro same
        exact congrArg Except.ok (Except.ok.inj same)
      · intro same
        exact congrArg Except.ok (Except.ok.inj same)

/-- The row that an admission inserts into `simulations`. -/
def admittedRun (now : Instant) (runId : String) (sequence : Nat)
    (request : CreateSimulationRequest) (inputs : AdmissionInputs) : Simulation :=
  { runId, displayName := nullIfBlank request.displayName, datasetId := request.datasetId
    parameterProfileVersionId := request.parameterProfileVersionId
    loadMappingVersionId := request.loadMappingVersionId, runMode := inputs.profile.mode
    status := .queued, currentStage := none, enqueueSeq := sequence, cancelRequestedAt := none
    cancelReason := none, startedAt := none, finishedAt := none, errorJson := none
    artifactState := .notStarted, lastHeartbeatAt := none, attemptId := none, createdAt := now
    updatedAt := now }

/-- The job that an admission inserts beside its run. -/
def admittedJob (platform : Platform) (now : Instant) (identifiers : Identifiers) (sequence : Nat)
    (request : CreateSimulationRequest) (envelope : Json) : WorkerJob :=
  { jobId := identifiers.jobId, jobType := .simulation, datasetId := request.datasetId
    runId := some identifiers.subjectId, envelopeJson := envelope
    envelopeSha256 := platform.sha256Hex (Json.canonical envelope), enqueueSeq := sequence
    status := .queued, attemptId := none, lastAttemptId := none, leaseToken := none
    leaseExpiresAt := none, lastHeartbeatAt := none, errorJson := none, createdAt := now
    updatedAt := now }

/-- The row that records the use of an idempotency key. -/
def usedKey (platform : Platform) (now : Instant) (identifiers : Identifiers) (key : String)
    (request : CreateSimulationRequest) : IdempotencyKey :=
  { idempotencyKey := key
    requestSha256 := platform.sha256Hex (canonicalSimulationRequest request)
    runId := identifiers.subjectId, createdAt := now }

/-- The inserts of `CreateSimulation`. -/
def admitRun (platform : Platform) (now clock : Instant) (identifiers : Identifiers)
    (key : String) (request : CreateSimulationRequest) (inputs : AdmissionInputs)
    (store : Store) : Except Fault (Store × SimulationRecord) := do
  let runId := identifiers.subjectId
  let (sequence, drawn) := nextSequence store
  let snapshot ← Fault.ofText (buildSnapshot platform runId request inputs clock)
  require (safeWorkerRelativePath inputs.dataset.storageKey = true ∧
      inputs.dataset.storageKey = canonicalSourcePath request.datasetId)
    (.stable (stableError "DATASET_NOT_VALID" "dataset_id" "Dataset source storage path is invalid."))
  let envelope ← Fault.ofText (buildSimulationEnvelope platform identifiers.jobId runId request inputs)
  let simulated ← Fault.ofPg
    (insertSimulation (admittedRun now runId sequence request inputs) drawn)
  let frozen ← Fault.ofPg (insertSimulationSnapshot
    { runId, snapshotJson := snapshot
      snapshotSha256 := platform.sha256Hex (Json.canonical snapshot) } simulated)
  let enqueued ← Fault.ofPg
    (insertJob (admittedJob platform now identifiers sequence request envelope) frozen)
  let reported ← Fault.ofPg (insertSimulationEvents now
    [stateEvent runId [("status", .string "QUEUED")]] enqueued)
  let announced ← Fault.ofPg (emitQueuePositionEvents now reported)
  let keyed ← Fault.ofPg
    (insertIdempotencyKey (usedKey platform now identifiers key request) announced)
  let record ← simulationById runId keyed.tables
  return (keyed, record)

/-- The stored use of an idempotency key. -/
def storedKey? (key : String) (tables : Tables) : Option IdempotencyKey :=
  tables.idempotencyKeys.find? fun row => row.idempotencyKey = key

/-- The transaction of `CreateSimulation`, with the flag that tells a replay. -/
def createSimulationTx (platform : Platform) (now clock : Instant) (identifiers : Identifiers)
    (key : String) (request : CreateSimulationRequest) (store : Store) :
    Except Fault (Store × SimulationRecord × Bool) :=
  match storedKey? key store.tables with
  | some used => do
      require (used.requestSha256 = platform.sha256Hex (canonicalSimulationRequest request))
        (.stable idempotencyConflict)
      let record ← simulationById used.runId store.tables
      return (store, record, true)
  | none => do
      let inputs ← ofStable (checkAdmission platform request store.tables)
      let (admitted, record) ← admitRun platform now clock identifiers key request inputs store
      return (admitted, record, false)

/-- `CreateSimulation`. -/
def createSimulation (platform : Platform) (now clock : Instant) (identifiers : Identifiers)
    (key : String) (request : CreateSimulationRequest) (store : Store) :
    Except Fault (Store × SimulationRecord × Bool) := do
  ofStable (validateCreate platform key request)
  createSimulationTx platform now clock identifiers key request store

/-! ## CancelSimulation -/

def runNotCancellable : StableError :=
  { code := "RUN_NOT_CANCELLABLE", field := ""
    message := "The simulation is not cancellable in its current state.", recoverable := false }

/-- The branch of `CancelSimulation` for a queued run. -/
def cancelQueuedRun (now : Instant) (runId reason : String) (store : Store) :
    Except PgError Store := do
  let cancelled ← updateSimulations now (fun row => row.runId = runId)
    (fun row => { row with
      status := .cancelled, finishedAt := some now, artifactState := .incomplete }) store
  let released ← updateJobs now (fun job => job.runId = some runId && job.status = .queued)
    (fun job => { job with status := .cancelled }) cancelled
  let reported ← insertSimulationEvents now
    [stateEvent runId
      [("previous_status", .string "QUEUED"), ("status", .string "CANCELLED"),
        ("reason", .string reason)]] released
  emitQueuePositionEvents now reported

/-- The branch of `CancelSimulation` for a running run. -/
def cancelRunningRun (now : Instant) (runId reason : String) (store : Store) :
    Except PgError Store := do
  let requested ← updateSimulations now (fun row => row.runId = runId)
    (fun row => { row with
      status := .cancelling, cancelRequestedAt := some now, cancelReason := some reason }) store
  let cancelling ← updateJobs now (fun job => job.runId = some runId && job.status = .running)
    (fun job => { job with status := .cancelling }) requested
  insertSimulationEvents now
    [stateEvent runId
      [("previous_status", .string "RUNNING"), ("status", .string "CANCELLING"),
        ("reason", .string reason)]] cancelling

/-- `CancelSimulation`. -/
def cancelSimulation (now : Instant) (runId reason : String) (store : Store) :
    Except Fault (Store × SimulationRecord) := do
  let record ← simulationById runId store.tables
  match record.status with
  | .queued =>
      let cancelled ← Fault.ofPg (cancelQueuedRun now runId reason store)
      return (cancelled, { record with status := .cancelled, queuePosition := none })
  | .running =>
      let cancelling ← Fault.ofPg (cancelRunningRun now runId reason store)
      return (cancelling, { record with status := .cancelling })
  | .cancelling | .cancelled => return (store, record)
  | _ => .error (.stable runNotCancellable)

end Queue
end FederatedIot
