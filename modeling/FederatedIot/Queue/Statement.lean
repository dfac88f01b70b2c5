import FederatedIot.Queue.Store

namespace FederatedIot
namespace Queue

open Foundation Foundation.Relation Foundation.Outcome

/-!
# Statements

Each statement reads a store and ends in a store or raises.  An update touches
the `updated_at` column through its trigger; an update of `simulations` also
passes `protect_terminal_simulation`, whose name sorts before the other
trigger, so that it compares the row before `updated_at` changes.  Inserting
events draws identifiers from the identity column and then runs the retention
trigger once for each inserted row.

The rule beside each statement says which tables it leaves behind.  Proofs
about transactions use these rules and never unfold a statement.
-/

variable {store result : Store}

/-! ## Updates -/

def updateDatasets (now : Instant) (selects : Dataset -> Bool) (assign : Dataset -> Dataset)
    (store : Store) : Except PgError Store :=
  Store.install
    { store.tables with
      datasets := update store.tables.datasets selects fun row =>
        { assign row with updatedAt := now } }
    store.sequences

@[simp]
theorem updateDatasets_ok_iff {now : Instant} {selects : Dataset -> Bool}
    {assign : Dataset -> Dataset} :
    updateDatasets now selects assign store = .ok result ↔
      result.tables = { store.tables with
        datasets := update store.tables.datasets selects fun row =>
          { assign row with updatedAt := now } } ∧
      result.sequences = store.sequences :=
  Store.install_ok_iff

def updateJobs (now : Instant) (selects : WorkerJob -> Bool) (assign : WorkerJob -> WorkerJob)
    (store : Store) : Except PgError Store :=
  Store.install
    { store.tables with
      workerJobs := update store.tables.workerJobs selects fun row =>
        { assign row with updatedAt := now } }
    store.sequences

@[simp]
theorem updateJobs_ok_iff {now : Instant} {selects : WorkerJob -> Bool}
    {assign : WorkerJob -> WorkerJob} :
    updateJobs now selects assign store = .ok result ↔
      result.tables = { store.tables with
        workerJobs := update store.tables.workerJobs selects fun row =>
          { assign row with updatedAt := now } } ∧
      result.sequences = store.sequences :=
  Store.install_ok_iff

/-- `protect_terminal_simulation`: a terminal row may only be rewritten as it
already is. -/
def protectTerminalSimulation (selects : Simulation -> Bool) (assign : Simulation -> Simulation)
    (rows : List Simulation) : Except PgError Unit :=
  require (∀ row ∈ rows, selects row = true -> row.status.isTerminal = true -> assign row = row)
    (.raised "55000" "terminal simulation cannot be changed")

def updateSimulations (now : Instant) (selects : Simulation -> Bool)
    (assign : Simulation -> Simulation) (store : Store) : Except PgError Store := do
  protectTerminalSimulation selects assign store.tables.simulations
  Store.install
    { store.tables with
      simulations := update store.tables.simulations selects fun row =>
        { assign row with updatedAt := now } }
    store.sequences

@[simp]
theorem updateSimulations_ok_iff {now : Instant} {selects : Simulation -> Bool}
    {assign : Simulation -> Simulation} :
    updateSimulations now selects assign store = .ok result ↔
      (∀ row ∈ store.tables.simulations, selects row = true -> row.status.isTerminal = true ->
        assign row = row) ∧
      result.tables = { store.tables with
        simulations := update store.tables.simulations selects fun row =>
          { assign row with updatedAt := now } } ∧
      result.sequences = store.sequences := by
  unfold updateSimulations protectTerminalSimulation
  rw [bind_ok_iff]
  constructor
  · rintro ⟨_, permitted, installed⟩
    exact ⟨(require_ok_iff _ _ _).mp permitted, Store.install_ok_iff.mp installed⟩
  · rintro ⟨permitted, installed⟩
    exact ⟨Unit.unit, require_of _ permitted, Store.install_ok_iff.mpr installed⟩

/-- The `worker_instances` table has no trigger. -/
def updateInstances (selects : WorkerInstance -> Bool) (assign : WorkerInstance -> WorkerInstance)
    (store : Store) : Except PgError Store :=
  Store.install
    { store.tables with workerInstances := update store.tables.workerInstances selects assign }
    store.sequences

@[simp]
theorem updateInstances_ok_iff {selects : WorkerInstance -> Bool}
    {assign : WorkerInstance -> WorkerInstance} :
    updateInstances selects assign store = .ok result ↔
      result.tables =
        { store.tables with workerInstances := update store.tables.workerInstances selects assign } ∧
      result.sequences = store.sequences :=
  Store.install_ok_iff

/-! ## Events -/

/-- The values of one inserted event. -/
structure EventValues where
  runId : String
  eventType : SimulationEventType
  payloadJson : Json

/-- Rows of an identity table: successive identifiers after the last one. -/
def numberedEvents (now : Instant) (last : Nat) (values : List EventValues) :
    List SimulationEvent :=
  values.zipIdx.map fun entry =>
    { eventId := last + 1 + entry.2, runId := entry.1.runId, eventType := entry.1.eventType,
      payloadJson := entry.1.payloadJson, occurredAt := now }

/-- `retain_simulation_events`: keep the newest `retention` events of the run. -/
def retainSimulationEvents (retention : Int) (runId : String) (events : List SimulationEvent) :
    List SimulationEvent :=
  events.filter fun event =>
    !(event.runId = runId &&
      retention ≤ (events.filter fun other =>
        other.runId = runId && event.eventId < other.eventId).length)

/-- The retention that the trigger reads from `scheduler_control`. -/
def Tables.eventRetention (tables : Tables) : Int :=
  (tables.schedulerControl.map SchedulerControl.eventRetentionPerRun).getD 0

/-- The events after an insert and its retention triggers. -/
def appendEvents (now : Instant) (last : Nat) (retention : Int) (values : List EventValues)
    (events : List SimulationEvent) : List SimulationEvent :=
  values.foldl (fun kept value => retainSimulationEvents retention value.runId kept)
    (events ++ numberedEvents now last values)

def insertSimulationEvents (now : Instant) (values : List EventValues) (store : Store) :
    Except PgError Store :=
  Store.install
    { store.tables with
      simulationEvents := appendEvents now store.sequences.simulationEventId
        store.tables.eventRetention values store.tables.simulationEvents }
    { store.sequences with
      simulationEventId := store.sequences.simulationEventId + values.length }

@[simp]
theorem insertSimulationEvents_ok_iff {now : Instant} {values : List EventValues} :
    insertSimulationEvents now values store = .ok result ↔
      result.tables = { store.tables with
        simulationEvents := appendEvents now store.sequences.simulationEventId
          store.tables.eventRetention values store.tables.simulationEvents } ∧
      result.sequences = { store.sequences with
        simulationEventId := store.sequences.simulationEventId + values.length } :=
  Store.install_ok_iff

/-- The queued runs in the order of `enqueue_seq`. -/
def queuedRuns (simulations : List Simulation) : List Simulation :=
  (simulations.filter fun row => row.status = .queued).insertionSort fun left right =>
    left.enqueueSeq ≤ right.enqueueSeq

/-- The rows of `emit_queue_position_events`. -/
def queuePositionValues (simulations : List Simulation) : List EventValues :=
  (queuedRuns simulations).zipIdx.map fun entry =>
    { runId := entry.1.runId
      eventType := .queuePosition
      payloadJson := .object
        [("status", .string "QUEUED"), ("queue_position", Json.ofNat (entry.2 + 1)),
          ("queued_count", Json.ofNat (queuedRuns simulations).length)] }

def emitQueuePositionEvents (now : Instant) (store : Store) : Except PgError Store :=
  insertSimulationEvents now (queuePositionValues store.tables.simulations) store

@[simp]
theorem emitQueuePositionEvents_ok_iff {now : Instant} :
    emitQueuePositionEvents now store = .ok result ↔
      result.tables = { store.tables with
        simulationEvents := appendEvents now store.sequences.simulationEventId
          store.tables.eventRetention (queuePositionValues store.tables.simulations)
          store.tables.simulationEvents } ∧
      result.sequences = { store.sequences with
        simulationEventId := store.sequences.simulationEventId +
          (queuePositionValues store.tables.simulations).length } :=
  insertSimulationEvents_ok_iff

/-- The values of one inserted worker event. -/
structure WorkerEventValues where
  jobId : String
  runId : Option String
  eventType : WorkerEventType
  payloadJson : Json

def numberedWorkerEvents (now : Instant) (last : Nat) (values : List WorkerEventValues) :
    List WorkerJobEvent :=
  values.zipIdx.map fun entry =>
    { eventId := last + 1 + entry.2, jobId := entry.1.jobId, runId := entry.1.runId,
      eventType := entry.1.eventType, payloadJson := entry.1.payloadJson, occurredAt := now }

def insertWorkerJobEvents (now : Instant) (values : List WorkerEventValues) (store : Store) :
    Except PgError Store :=
  Store.install
    { store.tables with
      workerJobEvents := store.tables.workerJobEvents ++
        numberedWorkerEvents now store.sequences.workerJobEventId values }
    { store.sequences with
      workerJobEventId := store.sequences.workerJobEventId + values.length }

@[simp]
theorem insertWorkerJobEvents_ok_iff {now : Instant} {values : List WorkerEventValues} :
    insertWorkerJobEvents now values store = .ok result ↔
      result.tables = { store.tables with
        workerJobEvents := store.tables.workerJobEvents ++
          numberedWorkerEvents now store.sequences.workerJobEventId values } ∧
      result.sequences = { store.sequences with
        workerJobEventId := store.sequences.workerJobEventId + values.length } :=
  Store.install_ok_iff

/-! ## Other inserts -/

def insertDataset (row : Dataset) (store : Store) : Except PgError Store :=
  Store.install { store.tables with datasets := store.tables.datasets ++ [row] } store.sequences

@[simp]
theorem insertDataset_ok_iff {row : Dataset} :
    insertDataset row store = .ok result ↔
      result.tables = { store.tables with datasets := store.tables.datasets ++ [row] } ∧
      result.sequences = store.sequences :=
  Store.install_ok_iff

def insertParameterProfile (row : ParameterProfile) (store : Store) : Except PgError Store :=
  Store.install
    { store.tables with parameterProfiles := store.tables.parameterProfiles ++ [row] }
    store.sequences

@[simp]
theorem insertParameterProfile_ok_iff {row : ParameterProfile} :
    insertParameterProfile row store = .ok result ↔
      result.tables =
        { store.tables with parameterProfiles := store.tables.parameterProfiles ++ [row] } ∧
      result.sequences = store.sequences :=
  Store.install_ok_iff

def insertLoadMappingProfile (row : LoadMappingProfile) (store : Store) : Except PgError Store :=
  Store.install
    { store.tables with loadMappingProfiles := store.tables.loadMappingProfiles ++ [row] }
    store.sequences

@[simp]
theorem insertLoadMappingProfile_ok_iff {row : LoadMappingProfile} :
    insertLoadMappingProfile row store = .ok result ↔
      result.tables =
        { store.tables with loadMappingProfiles := store.tables.loadMappingProfiles ++ [row] } ∧
      result.sequences = store.sequences :=
  Store.install_ok_iff

def insertSimulation (row : Simulation) (store : Store) : Except PgError Store :=
  Store.install { store.tables with simulations := store.tables.simulations ++ [row] }
    store.sequences

@[simp]
theorem insertSimulation_ok_iff {row : Simulation} :
    insertSimulation row store = .ok result ↔
      result.tables = { store.tables with simulations := store.tables.simulations ++ [row] } ∧
      result.sequences = store.sequences :=
  Store.install_ok_iff

def insertSimulationSnapshot (row : SimulationSnapshot) (store : Store) : Except PgError Store :=
  Store.install
    { store.tables with simulationSnapshots := store.tables.simulationSnapshots ++ [row] }
    store.sequences

@[simp]
theorem insertSimulationSnapshot_ok_iff {row : SimulationSnapshot} :
    insertSimulationSnapshot row store = .ok result ↔
      result.tables =
        { store.tables with simulationSnapshots := store.tables.simulationSnapshots ++ [row] } ∧
      result.sequences = store.sequences :=
  Store.install_ok_iff

def insertJob (row : WorkerJob) (store : Store) : Except PgError Store :=
  Store.install { store.tables with workerJobs := store.tables.workerJobs ++ [row] }
    store.sequences

@[simp]
theorem insertJob_ok_iff {row : WorkerJob} :
    insertJob row store = .ok result ↔
      result.tables = { store.tables with workerJobs := store.tables.workerJobs ++ [row] } ∧
      result.sequences = store.sequences :=
  Store.install_ok_iff

def insertIdempotencyKey (row : IdempotencyKey) (store : Store) : Except PgError Store :=
  Store.install { store.tables with idempotencyKeys := store.tables.idempotencyKeys ++ [row] }
    store.sequences

@[simp]
theorem insertIdempotencyKey_ok_iff {row : IdempotencyKey} :
    insertIdempotencyKey row store = .ok result ↔
      result.tables =
        { store.tables with idempotencyKeys := store.tables.idempotencyKeys ++ [row] } ∧
      result.sequences = store.sequences :=
  Store.install_ok_iff

def insertArtifacts (rows : List Artifact) (store : Store) : Except PgError Store :=
  Store.install { store.tables with artifacts := store.tables.artifacts ++ rows } store.sequences

@[simp]
theorem insertArtifacts_ok_iff {rows : List Artifact} :
    insertArtifacts rows store = .ok result ↔
      result.tables = { store.tables with artifacts := store.tables.artifacts ++ rows } ∧
      result.sequences = store.sequences :=
  Store.install_ok_iff

/-- Alarm rows receive successive identifiers. -/
def numberedAlarms (last : Nat) (rows : List Alarm) : List Alarm :=
  rows.zipIdx.map fun entry => { entry.1 with alarmId := last + 1 + entry.2 }

def insertAlarms (rows : List Alarm) (store : Store) : Except PgError Store :=
  Store.install
    { store.tables with
      alarmIndex := store.tables.alarmIndex ++ numberedAlarms store.sequences.alarmId rows }
    { store.sequences with alarmId := store.sequences.alarmId + rows.length }

@[simp]
theorem insertAlarms_ok_iff {rows : List Alarm} :
    insertAlarms rows store = .ok result ↔
      result.tables = { store.tables with
        alarmIndex := store.tables.alarmIndex ++ numberedAlarms store.sequences.alarmId rows } ∧
      result.sequences = { store.sequences with alarmId := store.sequences.alarmId + rows.length } :=
  Store.install_ok_iff

/-- `nextval('enqueue_sequence')`. -/
def nextSequence (store : Store) : Nat × Store :=
  (store.sequences.enqueueSequence + 1,
    { store with
      sequences := { store.sequences with
        enqueueSequence := store.sequences.enqueueSequence + 1 } })

@[simp]
theorem nextSequence_tables : (nextSequence store).2.tables = store.tables :=
  rfl

/-! ## Row locks with no change -/

/-- `PERFORM singleton FROM scheduler_control ... FOR UPDATE`, which raises
when the row is missing. -/
def requireScheduler (store : Store) : Except PgError Unit :=
  require (store.tables.schedulerControl.isSome = true)
    (.raised "55000" "scheduler control row is missing")

@[simp]
theorem requireScheduler_ok_iff {done : Unit} :
    requireScheduler store = .ok done ↔ store.tables.schedulerControl.isSome = true :=
  require_ok_iff _ _ _

end Queue
end FederatedIot
