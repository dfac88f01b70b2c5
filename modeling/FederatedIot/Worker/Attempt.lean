import FederatedIot.Foundation.Interference
import FederatedIot.Queue.Bystanders
import FederatedIot.Worker.ArtifactWriter

namespace FederatedIot
namespace Worker
namespace Attempts

open Foundation Foundation.Interference Foundation.JsonText
open Queue (Lease Store Operation Reply Fault Platform)

/-!
# An attempt to run a simulation

A worker that has claimed a run renews its lease from a second thread, computes, reports
where it is, publishes the files of the results and commits the run.  At its checkpoints it
asks whether the run is being cancelled.  Everything that it learns it learns from the
answers to its requests; between two of them any other party may commit a transaction.
-/

/-! ## Failures -/

/-- `WorkerFailure` -/
structure WorkerFailure where
  code : String
  message : String
  stage : Option String
  agent : Option Nat
  recoverable : Bool

/-- What an attempt raises.  `CancelledFailure` and `LeaseLostFailure` are caught apart from
the other worker failures, and `RepositoryOperationError` is none of them. -/
inductive Failure where
  | cancelled (stage : String) (agent : Option Nat)
  | leaseLost
  | worker (failure : WorkerFailure)
  | repositoryOperation
  | exception

/-- `CancelledFailure` -/
def cancelledFailure (stage : String) (agent : Option Nat) : WorkerFailure where
  code := "CANCELLED"
  message := "Worker cancellation was observed."
  stage := some stage
  agent := agent
  recoverable := true

/-- The failure of a worker function, which has a code of its own. -/
structure StableFailure where
  failure : WorkerFailure
  own : failure.code ≠ "CANCELLED"

/-- How a computation ends. -/
inductive Ending where
  | returns
  | fails (failure : StableFailure)
  | raises

/-- What a call of the writer raises. -/
def writerFailure : Artifacts.Failure -> Failure
  | .worker message =>
      .worker
        { code := "ARTIFACT_WRITE_FAILED", message := message, stage := some "GENERATING_ARTIFACTS", agent := none
          recoverable := false }
  | .contract failure =>
      .worker
        { code := "WORKER_CONTRACT_MISMATCH", message := failure.message, stage := none, agent := none
          recoverable := false }
  | .system => .exception

/-! ## Requests -/

/-- The text or the bytes of a file. -/
inductive Contents where
  | json (payload : Document (List Char))
  | bytes (data : Artifacts.Bytes) (mediaType : String)

/-- `write_json` or `write_bytes` of a required file -/
def Contents.write (host : Artifacts.Host) (faults : Artifacts.Faults) (name : List Char) :
    Contents -> Artifacts.Call Artifacts.ArtifactItem
  | .json payload => Artifacts.writeJson host faults name payload true
  | .bytes data mediaType => Artifacts.writeBytes host faults name data mediaType true

/-- What a worker asks for: a transaction, whether the run is being cancelled (a checkpoint
names its stage), the thread of the heartbeats, or a call of the writer of the files. -/
inductive Request where
  | database (operation : Operation)
  | cancellationContext (checkpoint : Option String)
  | startThread
  | stopThread
  | heartbeatFailure
  | renewalDue
  | write (name : List Char) (contents : Contents)
  | buildManifest (runId runMode snapshotSha256 createdAt : String)
  | publish
  | abandon

def Answer : Request -> Type
  | .database _ => Except Fault Reply
  | .cancellationContext _ => Option Queue.CancellationContext
  | .startThread => Unit
  | .stopThread => Unit
  | .heartbeatFailure => Option Failure
  | .renewalDue => Bool
  | .write _ _ => Except Artifacts.Failure Artifacts.ArtifactItem
  | .buildManifest _ _ _ _ => Except Artifacts.Failure Artifacts.Manifest
  | .publish => Except Artifacts.Failure (List Artifacts.ArtifactItem)
  | .abandon => Except Artifacts.Failure Unit

abbrev Work (Value : Type) : Type :=
  Interference.Work Request Answer Failure Value

def request (call : Request) : Work (Answer call) :=
  Interference.ask call

/-- The worker with the job that it has claimed. -/
structure Setting where
  platform : Platform
  host : Artifacts.Host
  workerId : String
  leaseSeconds : Int
  lease : Lease
  runId : String
  duration : 1 ≤ leaseSeconds ∧ leaseSeconds ≤ 600

variable (setting : Setting)

/-! ## The repository -/

/-- `_boolean_call` and the check of its callers -/
def booleanCall (operation : Operation) : Work Unit := do
  let outcome : Except Fault Reply ← request (.database operation)
  match outcome with
  | .ok (.accepted true) => pure ()
  | .ok _ => throw .leaseLost
  | .error _ => throw .repositoryOperation

/-- `_renew_lease` -/
def renewLease : Work Unit :=
  booleanCall (.heartbeat setting.workerId setting.lease setting.leaseSeconds)

/-- `_cancellation_requested` -/
def cancellationRequested : Work Bool := do
  let context : Option Queue.CancellationContext ← request (.cancellationContext none)
  pure (context.any Queue.CancellationContext.cancelRequested)

/-- Whether the lease was renewed.  A lease that is lost to a cancellation is no failure. -/
def renewUnlessCancelled : Work Bool :=
  tryCatch (do
    renewLease setting
    pure true) fun failure =>
    match failure with
    | .leaseLost => do
        let cancelled ← cancellationRequested
        if cancelled then pure false else throw .leaseLost
    | other => throw other

/-- `start_task_heartbeat`, with whether there is a thread afterwards -/
def startTaskHeartbeat : Work Bool := do
  let cancelled ← cancellationRequested
  if cancelled then pure false
  else do
    let renewed ← renewUnlessCancelled setting
    if renewed then do
      let _ ← request .startThread
      pure true
    else pure false

/-- The part of `is_cancel_requested` after the state was read. -/
def isCancelRequestedLater (threaded : Bool) : Work Bool := do
  let recorded : Option Failure ← request .heartbeatFailure
  match recorded with
  | some failure => throw failure
  | none =>
      if threaded then pure false
      else do
        let due : Bool ← request .renewalDue
        if due then do
          let renewed ← renewUnlessCancelled setting
          pure !renewed
        else pure false

/-- `is_cancel_requested` at a checkpoint -/
def isCancelRequested (threaded : Bool) (stage : String) : Work Bool := do
  let state : Option Queue.CancellationContext ← request (.cancellationContext (some stage))
  match state with
  | none => throw .leaseLost
  | some context => if context.cancelRequested then pure true else isCancelRequestedLater setting threaded

/-- `check_cancel` -/
def checkCancel (threaded : Bool) (stage : String) (agent : Option Nat) : Work Unit := do
  let cancelled ← isCancelRequested setting threaded stage
  if cancelled then throw (.cancelled stage agent) else pure ()

/-- `_failure_payload` -/
def failurePayload (failure : WorkerFailure) : Json :=
  .object
    [("code", .string failure.code), ("message", .string failure.message),
      ("stage", failure.stage.elim .null Json.string), ("agent", failure.agent.elim .null fun agent => Json.ofInt agent),
      ("diagnostic_id", .string (setting.lease.jobId ++ ":" ++ setting.lease.attemptId ++ ":" ++ failure.code)),
      ("recoverable", .bool failure.recoverable)]

/-- `commit_failure` with this payload -/
def commitFailure (failure : WorkerFailure) : Work Unit :=
  if failure.code = "CANCELLED" then booleanCall (.confirmCancel setting.lease)
  else booleanCall (.failJob setting.lease (failurePayload setting failure) failure.recoverable)

/-! ## The computations -/

/-- A computation with its checkpoints, and how it ends behind the last of them. -/
structure Stretch where
  checks : List (Queue.Stage × Option Nat)
  ending : Ending

/-- A file of the results: what its contents take to make, and what they are. -/
structure Output where
  rendering : Ending
  name : List Char
  contents : Contents

/-- All that the worker computes in one attempt, and what its clock says. -/
structure Plan where
  source : Ending
  verification : Stretch
  parameters : Ending
  preprocessing : Stretch
  preparation : Ending
  contexts : Ending
  localTraining : Stretch
  anchorAggregating : Stretch
  globalDistilling : Stretch
  testing : Stretch
  alarms : Ending
  destination : Ending
  outputs : List Output
  runMode : String
  snapshotSha256 : String
  createdAt : String
  alarmRows : Option Json
  stageDurations : Json
  occurredAt : Queue.Stage -> String
  diagnostics : Queue.Stage -> List (String × Json)

variable (plan : Plan)

def Ending.work : Ending -> Work Unit
  | .returns => pure ()
  | .fails failure => throw (.worker failure.failure)
  | .raises => throw .exception

def Stretch.work (threaded : Bool) (stretch : Stretch) : Work Unit := do
  stretch.checks.forM fun check => checkCancel setting threaded check.1.text check.2
  stretch.ending.work

/-- The event of `_emit` -/
def event (stage : Queue.Stage) : Json :=
  .object
    [("schema_version", .string "worker.event.v1"), ("job_id", .string setting.lease.jobId),
      ("run_id", .string setting.runId), ("attempt_id", .string setting.lease.attemptId),
      ("status", .string "RUNNING"), ("stage", .string stage.text), ("agent", .null),
      ("occurred_at", .string (plan.occurredAt stage)), ("diagnostics", .object (plan.diagnostics stage))]

/-- `_emit` -/
def emit (stage : Queue.Stage) : Work Unit :=
  booleanCall (.reportEvent setting.lease (event setting plan stage))

/-! ## The files -/

/-- The answer of the writer, or the failure that it raises. -/
def written {Value : Type} (outcome : Except Artifacts.Failure Value) : Work Value :=
  match outcome with
  | .ok value => pure value
  | .error failure => throw (writerFailure failure)

/-- One `write_json` or `write_bytes` -/
def Output.work (output : Output) : Work Unit := do
  output.rendering.work
  let outcome : Except Artifacts.Failure Artifacts.ArtifactItem ← request (.write output.name output.contents)
  let _ ← written outcome
  pure ()

/-- The body of the `try` of `_write_simulation_artifacts` -/
def stageArtifacts : Work (List Artifacts.ArtifactItem × String) := do
  plan.outputs.forM Output.work
  let built : Except Artifacts.Failure Artifacts.Manifest ←
    request (.buildManifest setting.runId plan.runMode plan.snapshotSha256 plan.createdAt)
  let manifest ← written built
  if manifest.snapshotSha256 ≠ plan.snapshotSha256 then
    throw (.worker
      { code := "ARTIFACT_WRITE_FAILED"
        message := "Artifact manifest snapshot SHA-256 must equal the frozen task parameter snapshot SHA-256."
        stage := some "GENERATING_ARTIFACTS", agent := none, recoverable := false })
  else do
    let published : Except Artifacts.Failure (List Artifacts.ArtifactItem) ← request .publish
    let items ← written published
    match items.find? fun item => item.name = Artifacts.manifestName with
    | none => throw .exception
    | some item => pure (items, item.sha256)

/-- `_write_simulation_artifacts` -/
def writeSimulationArtifacts : Work (List Artifacts.ArtifactItem × String) := do
  plan.destination.work
  tryCatch (stageArtifacts setting plan) fun failure => do
    let outcome : Except Artifacts.Failure Unit ← request .abandon
    written outcome
    throw failure

/-- `_repository_artifacts` -/
def repositoryArtifacts (items : List Artifacts.ArtifactItem) : List Queue.ArtifactItem :=
  items.map fun item =>
    { name := some (String.ofList item.name)
      relativePath := some ("runs/" ++ setting.runId ++ "/committed/" ++ String.ofList item.name)
      mediaType := some item.mediaType, sizeBytes := some item.sizeBytes, sha256 := some item.sha256
      required := some item.required }

/-- `commit_simulation` -/
def commitSimulation (items : List Artifacts.ArtifactItem) (manifestSha256 : String) : Work Unit :=
  if Queue.isSha256Hex manifestSha256 then
    booleanCall (.commitSimulation setting.lease
      { manifestSha256 := manifestSha256, artifacts := repositoryArtifacts setting items, alarms := plan.alarmRows
        stageDurations := plan.stageDurations })
  else throw .repositoryOperation

/-! ## The run -/

/-- `_verify_dataset_hash` -/
def verifyDatasetHash (threaded : Bool) : Work Unit := do
  checkCancel setting threaded "PREPROCESSING" none
  plan.verification.work setting threaded

/-- `execute_simulation` with the stages that it reports -/
def executeSimulation (threaded : Bool) : Work Unit := do
  plan.contexts.work
  emit setting plan .localTraining
  plan.localTraining.work setting threaded
  emit setting plan .anchorAggregating
  plan.anchorAggregating.work setting threaded
  emit setting plan .globalDistilling
  plan.globalDistilling.work setting threaded
  emit setting plan .calibrating
  emit setting plan .testing
  plan.testing.work setting threaded

/-- `_run_simulation` -/
def runSimulation (threaded : Bool) : Work Unit := do
  checkCancel setting threaded "PREPROCESSING" none
  emit setting plan .preprocessing
  plan.preprocessing.work setting threaded
  checkCancel setting threaded "PREPROCESSING" none
  plan.preparation.work
  executeSimulation setting plan threaded
  plan.alarms.work
  let artifacts : List Artifacts.ArtifactItem × String ← writeSimulationArtifacts setting plan
  checkCancel setting threaded "GENERATING_ARTIFACTS" none
  commitSimulation setting plan artifacts.1 artifacts.2

/-- The body of the `try` of `run` -/
def attempt : Work Unit := do
  let threaded ← startTaskHeartbeat setting
  plan.source.work
  verifyDatasetHash setting plan threaded
  plan.parameters.work
  runSimulation setting plan threaded

/-- The `except` clauses of `run` -/
def settle (failure : Failure) : Work Unit :=
  match failure with
  | .cancelled stage agent => do
      let _ ← request .stopThread
      commitFailure setting (cancelledFailure stage agent)
      throw failure
  | .worker reported => do
      commitFailure setting reported
      throw failure
  | .leaseLost | .repositoryOperation | .exception => throw failure

/-- `run` for a simulation -/
def run : Work Unit := do
  let outcome : Except Failure Unit ←
    ExceptT.lift (ExceptT.run (tryCatch (attempt setting plan) (settle setting)))
  let _ ← request .stopThread
  match outcome with
  | .ok _ => pure ()
  | .error failure => throw failure

/-- `_run_claim` for a task that has passed its checks -/
def runClaim : Work Unit :=
  tryCatch (run setting plan) fun failure =>
    match failure with
    | .cancelled _ _ | .worker _ => pure ()
    | .leaseLost | .repositoryOperation | .exception => throw failure

/-! ## The world of the worker -/

/-- The database, the thread of the heartbeats with what it has recorded, and the files. -/
structure State where
  store : Store
  beating : Bool
  recorded : Option Failure
  writer : Artifacts.Writer

/-- A call of the writer, in which any system call may fail. -/
def Called {Value : Type} (call : Artifacts.Faults -> Artifacts.Call Value) (writer : Artifacts.Writer)
    (outcome : Except Artifacts.Failure Value) (later : Artifacts.Writer) : Prop :=
  exists faults, Foundation.Work.Leads (call faults) writer (fun value state => outcome = .ok value ∧ later = state)
    fun failure state => outcome = .error failure ∧ later = state

/-- A transaction while the lease has not run out. -/
def Transacts (store : Store) (call : Queue.Call) (later : Store) : Prop :=
  Queue.Live setting.lease call.now store ∧ Queue.Transaction setting.platform store call later

/-- What a round of the heartbeat thread records. -/
def heartbeatOutcome : Except Fault Reply -> Option Failure
  | .ok (.accepted true) => none
  | .ok _ => some .leaseLost
  | .error _ => some .repositoryOperation

/-- The answers that the worker may receive. -/
def answers (state : State) : (request : Request) -> Answer request -> State -> Prop
  | .database operation, outcome, later => exists now store,
      Transacts setting state.store ⟨now, operation, outcome⟩ store ∧ later = { state with store := store }
  | .cancellationContext _, context, later => exists now, Queue.Live setting.lease now state.store ∧
      context = Queue.workerCancellationContext now setting.lease state.store ∧ later = state
  | .startThread, _, later => later = { state with beating := true }
  | .stopThread, _, later => later = { state with beating := false }
  | .heartbeatFailure, failure, later => failure = state.recorded ∧ later = state
  | .renewalDue, _, later => later = state
  | .write name contents, outcome, later => exists writer,
      Called (fun faults => contents.write setting.host faults name) state.writer outcome writer ∧
        later = { state with writer := writer }
  | .buildManifest runId runMode snapshotSha256 createdAt, outcome, later => exists writer,
      Called (fun faults => Artifacts.buildManifest setting.host faults runId runMode snapshotSha256 createdAt)
        state.writer outcome writer ∧ later = { state with writer := writer }
  | .publish, outcome, later => exists writer,
      Called (fun faults => Artifacts.commit setting.host faults) state.writer outcome writer ∧
        later = { state with writer := writer }
  | .abandon, outcome, later => exists writer,
      Called (fun faults => Artifacts.abandon faults) state.writer outcome writer ∧
        later = { state with writer := writer }

/-- What happens beside the worker: a transaction of another party, or a round of the thread. -/
inductive Label where
  | transaction (call : Queue.Call)
  | beat (now : Queue.Instant) (outcome : Except Fault Reply)

inductive Interferes : State -> Label -> State -> Prop
  | transaction {state : State} {call : Queue.Call} {store : Store} :
      Queue.Elsewhere setting.lease call.operation -> Transacts setting state.store call store ->
        Interferes state (.transaction call) { state with store := store }
  | beat {state : State} {now : Queue.Instant} {outcome : Except Fault Reply} {store : Store} :
      state.beating = true ->
        Transacts setting state.store
          ⟨now, .heartbeat setting.workerId setting.lease setting.leaseSeconds, outcome⟩ store ->
        Interferes state (.beat now outcome)
          { state with
            store := store
            beating := (heartbeatOutcome outcome).isNone
            recorded := state.recorded.orElse fun _ => heartbeatOutcome outcome }

/-- The attempts of one worker among all the others. -/
def service : Service State Request Answer Label where
  answers := answers setting
  interferes := Interferes setting

end Attempts
end Worker
end FederatedIot
