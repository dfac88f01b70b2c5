import FederatedIot.Queue.Effects
import FederatedIot.Foundation.Transition

namespace FederatedIot
namespace Queue

open Foundation Foundation.Relation Foundation.Outcome

/-!
# The queue as a transition system

A history of the queue is a sequence of transactions by any number of API
requests and workers.  Each transaction is one atomic step at some instant of
the database clock, and nothing relates the instants of successive steps.  A
transaction that fails leaves the tables as they were, but the sequence values
it drew stay used.

The initial store is the one that the migrations leave behind.  Parameter
profiles and load mappings are saved by requests that are not modelled in
detail, so a step may insert any row of these tables that the constraints
accept.
-/

/-- A transaction with the arguments of its caller.  Identifiers drawn at
random and the clock of the service are arguments too. -/
inductive Operation where
  | registerDataset (clock : Instant) (identifiers : Identifiers) (input : DatasetRegistration)
  | createSimulation (clock : Instant) (identifiers : Identifiers) (key : String)
      (request : CreateSimulationRequest)
  | cancelSimulation (runId reason : String)
  | saveParameterProfile (row : ParameterProfile)
  | saveLoadMapping (row : LoadMappingProfile)
  | registerInstance (workerId contractVersion workerVersion : String)
  | heartbeatInstance (workerId contractVersion : String)
  | claim (workerId attemptId leaseToken : String) (leaseSeconds : Int)
  | heartbeat (workerId : String) (lease : Lease) (leaseSeconds : Int)
  | reportEvent (lease : Lease) (event : Json)
  | completePreflight (lease : Lease) (inputSha256 : String) (summary : Json)
      (summarySha256 : String)
  | confirmCancel (lease : Lease)
  | failJob (lease : Lease) (error : Json) (recoverable : Bool)
  | commitSimulation (lease : Lease) (request : CommitRequest)
  | recoverExpiredLeases

/-- The result of a committed transaction. -/
inductive Reply where
  | registered (dataset : RegisteredDataset)
  | created (record : SimulationRecord) (replayed : Bool)
  | cancelled (record : SimulationRecord)
  | saved
  | observed (instant : Instant)
  | accepted (value : Bool)
  | claimed (job : Option ClaimedJob)
  | recovered (count : Nat)

/-- The result of a transaction beside the store it commits. -/
def answer {α : Type} (reply : α -> Reply) : Except Fault (Store × α) -> Except Fault (Store × Reply)
  | .ok (store, value) => .ok (store, reply value)
  | .error fault => .error fault

@[simp]
theorem answer_ok_iff {α : Type} {reply : α -> Reply} {outcome : Except Fault (Store × α)}
    {store : Store} {value : Reply} :
    answer reply outcome = .ok (store, value) ↔
      ∃ inner, outcome = .ok (store, inner) ∧ reply inner = value := by
  cases outcome with
  | error fault =>
      constructor
      · intro same
        cases same
      · rintro ⟨_, same, _⟩
        cases same
  | ok pair =>
      rcases pair with ⟨first, second⟩
      constructor
      · intro same
        cases same
        exact ⟨second, rfl, rfl⟩
      · rintro ⟨inner, same, rfl⟩
        cases same
        rfl

@[simp]
theorem answer_error_iff {α : Type} {reply : α -> Reply} {outcome : Except Fault (Store × α)}
    {fault : Fault} : answer reply outcome = .error fault ↔ outcome = .error fault := by
  cases outcome with
  | error other =>
      constructor
      · intro same
        exact congrArg Except.error (Except.error.inj same)
      · intro same
        exact congrArg Except.error (Except.error.inj same)
  | ok pair => exact ⟨fun same => (by cases same), fun same => (by cases same)⟩

/-- Run one transaction. -/
def execute (platform : Platform) (now : Instant) (operation : Operation) (store : Store) :
    Except Fault (Store × Reply) :=
  match operation with
  | .registerDataset clock identifiers input =>
      answer .registered (registerDataset platform now clock identifiers input store)
  | .createSimulation clock identifiers key request =>
      answer (fun outcome => .created outcome.1 outcome.2)
        (createSimulation platform now clock identifiers key request store)
  | .cancelSimulation runId reason =>
      answer .cancelled (cancelSimulation now runId reason store)
  | .saveParameterProfile row =>
      answer (fun _ : Unit => .saved)
        (Fault.ofPg (insertParameterProfile row store) >>= fun saved => .ok (saved, Unit.unit))
  | .saveLoadMapping row =>
      answer (fun _ : Unit => .saved)
        (Fault.ofPg (insertLoadMappingProfile row store) >>= fun saved => .ok (saved, Unit.unit))
  | .registerInstance workerId contractVersion workerVersion =>
      answer .observed
        (Fault.ofPg (workerRegisterInstance now workerId contractVersion workerVersion store))
  | .heartbeatInstance workerId contractVersion =>
      answer .accepted (Fault.ofPg (workerHeartbeatInstance now workerId contractVersion store))
  | .claim workerId attemptId leaseToken leaseSeconds =>
      answer .claimed (Fault.ofPg
        (workerClaimNextJobForWorker now workerId attemptId leaseToken leaseSeconds store))
  | .heartbeat workerId lease leaseSeconds =>
      answer .accepted
        (Fault.ofPg (workerHeartbeatForWorker now workerId lease leaseSeconds store))
  | .reportEvent lease event =>
      answer .accepted (Fault.ofPg (workerReportEvent platform now lease event store))
  | .completePreflight lease inputSha256 summary summarySha256 =>
      answer .accepted
        (Fault.ofPg (workerCompletePreflight now lease inputSha256 summary summarySha256 store))
  | .confirmCancel lease =>
      answer .accepted (Fault.ofPg (workerConfirmCancel now lease store))
  | .failJob lease error recoverable =>
      answer .accepted (Fault.ofPg (workerFailJob now lease error recoverable store))
  | .commitSimulation lease request =>
      answer .accepted (Fault.ofPg (workerCommitSimulation platform now lease request store))
  | .recoverExpiredLeases =>
      answer .recovered (Fault.ofPg (workerRecoverExpiredLeases now store))

/-- One transaction of a history with its outcome. -/
structure Call where
  now : Instant
  operation : Operation
  outcome : Except Fault Reply

/-- No sequence went back. -/
structure Sequences.AtMost (earlier later : Sequences) : Prop where
  enqueueSequence : earlier.enqueueSequence ≤ later.enqueueSequence
  simulationEventId : earlier.simulationEventId ≤ later.simulationEventId
  workerJobEventId : earlier.workerJobEventId ≤ later.workerJobEventId
  alarmId : earlier.alarmId ≤ later.alarmId

/-- A transaction commits, or it fails and is rolled back. -/
inductive Transaction (platform : Platform) : Store -> Call -> Store -> Prop
  | committed {store result : Store} {now : Instant} {operation : Operation} {reply : Reply} :
      execute platform now operation store = .ok (result, reply) ->
        Transaction platform store ⟨now, operation, .ok reply⟩ result
  | rolledBack {store result : Store} {now : Instant} {operation : Operation} {fault : Fault} :
      execute platform now operation store = .error fault -> result.tables = store.tables ->
        store.sequences.AtMost result.sequences ->
          Transaction platform store ⟨now, operation, .error fault⟩ result

/-- The tables after the migrations at the given instant. -/
def initialTables (now : Instant) : Tables :=
  { schedulerControl := some
      { preflightQueueCapacity := 4, simulationWaitCapacity := 10, eventRetentionPerRun := 2000
        updatedAt := now }
    datasets := [], parameterProfiles := [], loadMappingProfiles := [], simulations := []
    simulationSnapshots := [], workerJobs := [], simulationEvents := [], artifacts := []
    alarmIndex := [], idempotencyKeys := [], workerInstances := [], workerJobEvents := [] }

/-- The empty database. -/
def initialStore (now : Instant) : Store where
  tables := initialTables now
  sequences :=
    { enqueueSequence := 0, simulationEventId := 0, workerJobEventId := 0, alarmId := 0 }
  checks := by constructor <;> simp [initialTables, SchedulerControl.Check]
  unique := by
    constructor <;> simp [initialTables, Keyed, KeyedWhenPresent, AtMostOne]
  foreign := by
    constructor <;> simp [initialTables, References, ReferencesWhenPresent]

/-- The histories of the queue. -/
def queueSystem (platform : Platform) : System Store Call where
  initial := fun store => ∃ now, store = initialStore now
  step := Transaction platform

/-- A store that some history of the queue leads to. -/
abbrev Reachable (platform : Platform) (store : Store) : Prop :=
  (queueSystem platform).Reachable store

variable {platform : Platform} {store result : Store}

/-! ## Steps of the lifecycle -/

/-- A committed transaction advances the lifecycle. -/
theorem execute_steps {now : Instant} {operation : Operation} {reply : Reply}
    (coherent : store.view.Coherent)
    (accepted : execute platform now operation store = .ok (result, reply)) :
    Steps store.view result.view := by
  cases operation with
  | registerDataset clock identifiers input =>
      rcases answer_ok_iff.mp accepted with ⟨_, done, _⟩
      exact registerDataset_steps done
  | createSimulation clock identifiers key request =>
      rcases answer_ok_iff.mp accepted with ⟨⟨record, replayed⟩, done, _⟩
      exact createSimulation_steps done
  | cancelSimulation runId reason =>
      rcases answer_ok_iff.mp accepted with ⟨_, done, _⟩
      exact cancelSimulation_steps coherent done
  | saveParameterProfile row =>
      rcases answer_ok_iff.mp accepted with ⟨_, done, _⟩
      simp only [bind_ok_iff, Fault.ofPg_ok_iff, insertParameterProfile_ok_iff] at done
      rcases done with ⟨saved, ⟨tables, _⟩, same⟩
      cases same
      apply Steps.of_eq
      apply view_eq_of_tables <;> rw [tables]
  | saveLoadMapping row =>
      rcases answer_ok_iff.mp accepted with ⟨_, done, _⟩
      simp only [bind_ok_iff, Fault.ofPg_ok_iff, insertLoadMappingProfile_ok_iff] at done
      rcases done with ⟨saved, ⟨tables, _⟩, same⟩
      cases same
      apply Steps.of_eq
      apply view_eq_of_tables <;> rw [tables]
  | registerInstance workerId contractVersion workerVersion =>
      rcases answer_ok_iff.mp accepted with ⟨_, done, _⟩
      exact Steps.of_eq (workerRegisterInstance_view (Fault.ofPg_ok_iff.mp done))
  | heartbeatInstance workerId contractVersion =>
      rcases answer_ok_iff.mp accepted with ⟨_, done, _⟩
      exact Steps.of_eq (workerHeartbeatInstance_view (Fault.ofPg_ok_iff.mp done))
  | claim workerId attemptId leaseToken leaseSeconds =>
      rcases answer_ok_iff.mp accepted with ⟨_, done, _⟩
      exact workerClaimNextJobForWorker_steps coherent (Fault.ofPg_ok_iff.mp done)
  | heartbeat workerId lease leaseSeconds =>
      rcases answer_ok_iff.mp accepted with ⟨_, done, _⟩
      exact Steps.of_eq (workerHeartbeatForWorker_view (Fault.ofPg_ok_iff.mp done))
  | reportEvent lease event =>
      rcases answer_ok_iff.mp accepted with ⟨_, done, _⟩
      exact Steps.of_eq (workerReportEvent_view (Fault.ofPg_ok_iff.mp done))
  | completePreflight lease inputSha256 summary summarySha256 =>
      rcases answer_ok_iff.mp accepted with ⟨_, done, _⟩
      exact workerCompletePreflight_steps (Fault.ofPg_ok_iff.mp done)
  | confirmCancel lease =>
      rcases answer_ok_iff.mp accepted with ⟨_, done, _⟩
      exact workerConfirmCancel_steps coherent (Fault.ofPg_ok_iff.mp done)
  | failJob lease error recoverable =>
      rcases answer_ok_iff.mp accepted with ⟨_, done, _⟩
      exact workerFailJob_steps coherent (Fault.ofPg_ok_iff.mp done)
  | commitSimulation lease request =>
      rcases answer_ok_iff.mp accepted with ⟨_, done, _⟩
      exact workerCommitSimulation_steps coherent (Fault.ofPg_ok_iff.mp done)
  | recoverExpiredLeases =>
      rcases answer_ok_iff.mp accepted with ⟨_, done, _⟩
      exact workerRecoverExpiredLeases_steps coherent (Fault.ofPg_ok_iff.mp done)

/-- Every transaction, failed ones included, advances the lifecycle. -/
theorem Transaction.steps {call : Call} (step : Transaction platform store call result)
    (coherent : store.view.Coherent) : Steps store.view result.view := by
  cases step with
  | committed accepted => exact execute_steps coherent accepted
  | rolledBack _ same _ => exact Steps.of_eq (view_of_tables same)

theorem initial_coherent (now : Instant) : (initialStore now).view.Coherent := by
  constructor
  · rfl
  all_goals
    intro row member
    cases member

/-- The records of the lifecycle agree in every reachable store. -/
theorem reachable_coherent (reachable : Reachable platform store) : store.view.Coherent := by
  refine System.Reachable.invariant (fun store => store.view.Coherent) ?_ ?_ reachable
  · rintro start ⟨now, rfl⟩
    exact initial_coherent now
  · intro source call target _ step coherent
    exact (step.steps coherent).coherent coherent

/-! ## Replaying a history -/

/-- The store after a transaction, which is the old one when it fails. -/
def settleCall (platform : Platform) (store : Store) (call : Instant × Operation) : Store :=
  match execute platform call.1 call.2 store with
  | .ok (result, _) => result
  | .error _ => store

/-- The store after a list of transactions. -/
def replay (platform : Platform) (history : List (Instant × Operation)) (store : Store) : Store :=
  history.foldl (settleCall platform) store

/-- The store after a transaction that commits. -/
theorem settleCall_of_ok {now : Instant} {operation : Operation} {reply : Reply}
    (accepted : execute platform now operation store = .ok (result, reply)) :
    settleCall platform store (now, operation) = result := by
  unfold settleCall
  rw [accepted]

theorem settleCall_run (call : Instant × Operation) :
    ∃ calls, (queueSystem platform).Run store calls (settleCall platform store call) := by
  cases outcome : execute platform call.1 call.2 store with
  | ok pair =>
      rcases pair with ⟨result, reply⟩
      have same : settleCall platform store call = result := settleCall_of_ok outcome
      rw [same]
      exact ⟨_, System.Run.single (Transaction.committed outcome)⟩
  | error fault =>
      have same : settleCall platform store call = store := by
        unfold settleCall
        rw [outcome]
      rw [same]
      exact ⟨[], System.Run.nil store⟩

/-- A replayed history is a run of the system. -/
theorem replay_run (history : List (Instant × Operation)) (store : Store) :
    ∃ calls, (queueSystem platform).Run store calls (replay platform history store) := by
  induction history generalizing store with
  | nil => exact ⟨[], System.Run.nil store⟩
  | cons call rest inductionHypothesis =>
      rcases @settleCall_run platform store call with ⟨firstCalls, first⟩
      rcases inductionHypothesis (settleCall platform store call) with ⟨restCalls, later⟩
      exact ⟨firstCalls ++ restCalls, first.append later⟩

theorem replay_cons (call : Instant × Operation) (rest : List (Instant × Operation)) (store : Store) :
    replay platform (call :: rest) store = replay platform rest (settleCall platform store call) :=
  rfl

theorem replay_append (first second : List (Instant × Operation)) (store : Store) :
    replay platform (first ++ second) store = replay platform second (replay platform first store) :=
  List.foldl_append

theorem replay_reachable (history : List (Instant × Operation))
    (reachable : Reachable platform store) :
    Reachable platform (replay platform history store) := by
  rcases replay_run history store with ⟨calls, run⟩
  exact reachable.run run

/-- The outcome of a transaction that does not fail. -/
theorem execute_of_isOk {now : Instant} {operation : Operation}
    (succeeds : (execute platform now operation store).isOk = true) :
    ∃ result reply, execute platform now operation store = .ok (result, reply) := by
  cases outcome : execute platform now operation store with
  | ok pair => exact ⟨pair.1, pair.2, rfl⟩
  | error fault =>
      rw [outcome] at succeeds
      cases succeeds

/-! ## A sample history -/

def sampleDigest : String :=
  "0000000000000000000000000000000000000000000000000000000000000000"

def sampleProfile : ParameterProfile :=
  { versionId := "pp_1", mode := .custom, displayName := "Sample", baseVersionId := none
    normalizedJson := .object
      [("shared_parameters", .object [("split", .object [("agent_count", Json.ofInt 3)])]),
        ("agents", referenceAgents), ("fixed_items", referenceFixedItems)]
    normalizedSha256 := "bd903a314aebbba08b0db23a270debf77c8ef06983841b765430d893b01a2e0c" }

def sampleMapping : LoadMappingProfile :=
  { versionId := "map_1", displayName := "Identity", mappingType := "identity"
    normalizedJson := .object
      [("mapping_type", .string "identity"), ("parameters", .object []),
        ("result_unit", .string "A")]
    normalizedSha256 := "eedff38d842f6a7fa76a966b5335f1f960b4983da5a3d9d36930107666323314" }

def sampleDataset : DatasetRegistration :=
  { datasetId := "ds_1", displayName := "Sample", originalFilename := "source.csv"
    storageKey := "datasets/ds_1/source.csv", sha256 := sampleDigest, sizeBytes := 10
    timezone := "Asia/Shanghai", utcOffset := "+08:00", structuralStatistics := .object []
    warnings := .array [] }

def sampleRequest : CreateSimulationRequest :=
  { datasetId := "ds_1", runMode := "CUSTOM", parameterProfileVersionId := "pp_1"
    loadMappingVersionId := "map_1"
    agentOverrides := [⟨1, some []⟩, ⟨2, some []⟩, ⟨3, some []⟩], seed := 7
    displayName := "First" }

/-- A digest that is listed for some texts and marks the others. -/
def listedDigest (digests : List (String × String)) (text : String) : String :=
  match digests.find? fun entry => entry.1 = text with
  | some entry => entry.2
  | none => "?" ++ text

theorem listedDigest_cases (digests : List (String × String)) (text : String) :
    (text, listedDigest digests text) ∈ digests ∨ listedDigest digests text = "?" ++ text := by
  unfold listedDigest
  cases found : digests.find? fun entry => entry.1 = text with
  | none => exact Or.inr rfl
  | some entry =>
      have matched := List.find?_some found
      left
      rw [← of_decide_eq_true matched]
      exact List.mem_of_find?_eq_some found

/-- Listed digests that differ from each other and from marked texts. -/
theorem listedDigest_injective {digests : List (String × String)}
    (distinct : Keyed Prod.snd digests)
    (unmarked : ∀ entry ∈ digests, entry.2.toList.head? ≠ some '?') :
    Function.Injective (listedDigest digests) := by
  have apart : forall text other : String, (text, listedDigest digests text) ∈ digests ->
      listedDigest digests text ≠ "?" ++ other := by
    intro text other listed same
    apply unmarked _ listed
    rw [same, String.toList_append]
    rfl
  intro first second same
  rcases listedDigest_cases digests first with firstListed | firstMarked
  · rcases listedDigest_cases digests second with secondListed | secondMarked
    · exact congrArg Prod.fst (distinct.eq_of_mem firstListed secondListed same)
    · exact absurd (same.trans secondMarked) (apart first second firstListed)
  · rcases listedDigest_cases digests second with secondListed | secondMarked
    · exact absurd (same.symm.trans firstMarked) (apart second first secondListed)
    · have texts := congrArg String.toList (firstMarked.symm.trans (same.trans secondMarked))
      rw [String.toList_append, String.toList_append] at texts
      exact String.toList_injective (List.append_cancel_left texts)

def fieldStandardDigests : List (String × String) :=
  [(Json.canonical (.object fieldStandardMaterial),
    "43064ad17fb882bb086f655e2f6bd4a85cce5ec6244b0586907c3c49f9e79ca4")]

/-- A platform that knows the SHA-256 digests of the given texts. -/
def platformWith (digests : List (String × String)) : Platform :=
  { sha256Hex := listedDigest digests
    pgColumnSize := fun value => value.render.length
    castTimestamptz := fun _ => none
    formatInstant := fun _ => "1970-01-01T00:00:00.000004Z"
    float64Literal := id
    runtime :=
      { algorithmVersion := "1.0", workerVersion := "1.0"
        workerImageDigest := "sha256:" ++ sampleDigest, numericRuntime := "python" } }

theorem platformWith_sha256Hex (digests : List (String × String)) :
    (platformWith digests).sha256Hex = listedDigest digests :=
  rfl

/-- What the sample run is admitted with. -/
def sampleInputs : AdmissionInputs :=
  { dataset :=
      { datasetId := "ds_1", displayName := "Sample", originalFilename := "source.csv"
        storageKey := "datasets/ds_1/source.csv", sha256 := sampleDigest, sizeBytes := 10
        columnsJson := requiredColumnsJson, timezone := "Asia/Shanghai", utcOffset := "+08:00"
        status := .valid, structuralStatistics := .object [], warningsJson := .array []
        preflightContractVersion := some "preprocessing.v1"
        preflightSummaryJson := some (.object []), preflightSummarySha256 := some sampleDigest
        validationStartedAt := some 1, validationFinishedAt := some 3, errorCode := none
        errorMessage := none, createdAt := 1, updatedAt := 3 }
    profile := sampleProfile
    mapping := sampleMapping }

def canonicalText : Except String Json -> String
  | .ok value => Json.canonical value
  | .error message => message

/-- The SHA-256 digests of the texts that the sample history digests. -/
def sampleDigests : List (String × String) :=
  fieldStandardDigests ++
    [(Json.canonical (preflightEnvelope (platformWith fieldStandardDigests) "job_1" "ds_1"
        "datasets/ds_1/source.csv" sampleDigest "Asia/Shanghai"),
        "94fdf0158a4672592e48912d99c5985930f35b90d094a5cd37c530c39b86e26d"),
      (canonicalText (buildSimulationEnvelope (platformWith fieldStandardDigests) "job_2" "run_1"
        sampleRequest sampleInputs),
        "bb8fd9ab99bedd20be8e82494f913b3a769571e6711bcd68df15f3894260c820"),
      (canonicalText (buildSnapshot (platformWith fieldStandardDigests) "run_1" sampleRequest
        sampleInputs 4),
        "d41d5d850f385bf8275466f623611c400eb318b4350230d1db3ab81ed9c7d94e"),
      (canonicalSimulationRequest sampleRequest,
        "269a3901e6c155a4aa62030438083961ef5411648b048e9eee2311c253dc02ae")]

/-- The platform of the sample history. -/
def samplePlatform : Platform :=
  platformWith sampleDigests

def sampleKey : String :=
  "0123456789abcdef"

def preflightLease : Lease :=
  ⟨"job_1", "attempt_1", "lease-token-0001"⟩

def runLease : Lease :=
  ⟨"job_2", "attempt_2", "lease-token-0002"⟩

/-- One dataset is validated. -/
def sampleSetup : List (Instant × Operation) :=
  [(0, .saveParameterProfile sampleProfile), (0, .saveLoadMapping sampleMapping),
    (0, .registerInstance "worker-1" "worker.task.v1" "1.0"),
    (1, .registerDataset 1 ⟨"ds_0", "job_1"⟩ sampleDataset),
    (2, .claim "worker-1" "attempt_1" "lease-token-0001" 60),
    (3, .completePreflight preflightLease sampleDigest (.object []) sampleDigest)]

/-- Then one run is admitted and claimed. -/
def sampleHistory : List (Instant × Operation) :=
  sampleSetup ++
    [(4, .createSimulation 4 ⟨"run_1", "job_2"⟩ sampleKey sampleRequest),
      (5, .claim "worker-1" "attempt_2" "lease-token-0002" 60)]

def sampleStore : Store :=
  replay samplePlatform sampleHistory (initialStore 0)

theorem sampleStore_reachable : Reachable samplePlatform sampleStore :=
  replay_reachable sampleHistory (System.Reachable.of_initial ⟨0, rfl⟩)

end Queue
end FederatedIot
