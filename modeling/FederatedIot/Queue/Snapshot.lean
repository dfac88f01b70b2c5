import FederatedIot.Foundation.JsonEncoding
import FederatedIot.Queue.WorkerRepository

namespace FederatedIot
namespace Queue

open Foundation Foundation.Relation Foundation.Outcome

/-!
# Requests, snapshots and envelopes

What the service computes outside the database while it admits a run: the
validation and the canonical form of a request, the snapshot that freezes the
inputs of the run, and the envelope that the worker receives.  Values of Go's
`any` are JSON values.  A stored document that the service decodes passes
through binary64 numbers, which `Platform.float64Literal` describes.
-/

/-! ## Errors -/

structure StableError where
  code : String
  field : String
  message : String
  recoverable : Bool
  deriving DecidableEq, Repr

/-- What a repository call returns besides a result: a stable error of the
API, an error of the database session, or any other error value. -/
inductive Fault where
  | stable (error : StableError)
  | postgres (error : PgError)
  | internal (message : String)
  deriving DecidableEq, Repr

namespace Fault

/-- An error of the session surfaces unchanged. -/
def ofPg {α : Type} : Except PgError α -> Except Fault α
  | .ok value => .ok value
  | .error error => .error (.postgres error)

@[simp]
theorem ofPg_ok_iff {α : Type} {outcome : Except PgError α} {value : α} :
    ofPg outcome = .ok value ↔ outcome = .ok value := by
  cases outcome with
  | error _ => exact ⟨fun same => (by cases same), fun same => (by cases same)⟩
  | ok _ =>
      constructor
      · intro same
        exact congrArg Except.ok (Except.ok.inj same)
      · intro same
        exact congrArg Except.ok (Except.ok.inj same)

/-- An error value that is not a stable error. -/
def ofText {α : Type} : Except String α -> Except Fault α
  | .ok value => .ok value
  | .error message => .error (.internal message)

@[simp]
theorem ofText_ok_iff {α : Type} {outcome : Except String α} {value : α} :
    ofText outcome = .ok value ↔ outcome = .ok value := by
  cases outcome with
  | error _ => exact ⟨fun same => (by cases same), fun same => (by cases same)⟩
  | ok _ =>
      constructor
      · intro same
        exact congrArg Except.ok (Except.ok.inj same)
      · intro same
        exact congrArg Except.ok (Except.ok.inj same)

/-- Whether `writeError` answers with 500 `INTERNAL_ERROR`. -/
def isInternalError : Fault -> Bool
  | stable _ => false
  | postgres _ => true
  | internal _ => true

end Fault

/-! ## Requests -/

/-- `unicode.IsSpace`. -/
def isSpace (char : Char) : Bool :=
  (9 ≤ char.toNat && char.toNat ≤ 13) || char.toNat = 32 || char.toNat = 0x85 ||
    char.toNat = 0xA0 || char.toNat = 0x1680 ||
    (0x2000 ≤ char.toNat && char.toNat ≤ 0x200A) || char.toNat = 0x2028 ||
    char.toNat = 0x2029 || char.toNat = 0x202F || char.toNat = 0x205F || char.toNat = 0x3000

/-- `strings.TrimSpace`. -/
def trimSpace (value : String) : String :=
  String.ofList (((value.toList.dropWhile isSpace).reverse.dropWhile isSpace).reverse)

/-- A nil map is `none`. -/
structure AgentOverride where
  agent : Int
  parameters : Option (List (String × Json))
  deriving DecidableEq

structure CreateSimulationRequest where
  datasetId : String
  runMode : String
  parameterProfileVersionId : String
  loadMappingVersionId : String
  agentOverrides : List AgentOverride
  seed : Int64
  displayName : String
  deriving DecidableEq

def agentSetError : StableError :=
  { code := "REQUEST_INVALID", field := ""
    message := "agents must contain each of 1, 2, and 3 exactly once", recoverable := true }

/-- The loop of `domain.ValidateAgentSet` with the agents seen so far. -/
def validateAgents : List Int -> List AgentOverride -> Except StableError Unit
  | _, [] => .ok Unit.unit
  | seen, agent :: rest => do
      require (1 ≤ agent.agent ∧ agent.agent ≤ 3 ∧ agent.agent ∉ seen) agentSetError
      require ((agent.parameters.getD []).length = 0)
        { code := "AGENT_OVERRIDE_NOT_ALLOWED"
          field := "agent_overrides[" ++ toString agent.agent ++ "].parameters"
          message := "Per-run Agent overrides are not accepted; use a saved CUSTOM parameter profile."
          recoverable := true }
      validateAgents (agent.agent :: seen) rest

/-- `domain.ValidateAgentSet`, with the error as `toStableError` reports it. -/
def validateAgentSet (agents : List AgentOverride) : Except StableError Unit := do
  require (agents.length = 3)
    { code := "REQUEST_INVALID", field := ""
      message := "agents must contain exactly Agent 1, Agent 2, and Agent 3", recoverable := true }
  validateAgents [] agents

/-- `CreateSimulationRequest.Validate`, with the error as `toStableError`
reports it. -/
def CreateSimulationRequest.validate (request : CreateSimulationRequest) :
    Except StableError Unit := do
  require (trimSpace request.datasetId ≠ "" ∧ trimSpace request.parameterProfileVersionId ≠ "" ∧
      trimSpace request.loadMappingVersionId ≠ "")
    { code := "REQUEST_INVALID", field := ""
      message := "Dataset, parameter profile, and load mapping are required."
      recoverable := true }
  require (request.runMode = "REFERENCE" ∨ request.runMode = "CUSTOM")
    { code := "REQUEST_INVALID", field := "run_mode"
      message := "run_mode must be REFERENCE or CUSTOM.", recoverable := true }
  require (request.seed ≠ 0)
    { code := "PARAMETER_OUT_OF_RANGE", field := "seed"
      message := "seed must be explicit and non-zero.", recoverable := true }
  validateAgentSet request.agentOverrides

def AgentOverride.json (agent : AgentOverride) : Json :=
  .object [("agent", Json.ofInt agent.agent), ("parameters", Json.ofOption Json.object agent.parameters)]

/-- The agents sorted by number, as `sort.Slice` orders them. -/
def sortedAgents (agents : List AgentOverride) : List AgentOverride :=
  agents.insertionSort fun left right => left.agent ≤ right.agent

/-- `canonicalSimulationRequest`. -/
def canonicalSimulationRequest (request : CreateSimulationRequest) : String :=
  Json.canonical (.object
    [("dataset_id", .string request.datasetId), ("run_mode", .string request.runMode),
      ("parameter_profile_version_id", .string request.parameterProfileVersionId),
      ("load_mapping_version_id", .string request.loadMappingVersionId),
      ("agent_overrides", .array ((sortedAgents request.agentOverrides).map AgentOverride.json)),
      ("seed", Json.ofInt request.seed.toInt), ("display_name", .string request.displayName)])

/-! ## Reference material -/

def referenceProfileVersionId : String :=
  "reference-v1"

def requiredColumns : List String :=
  ["Time_base", "dzdl_1", "dzdl_2", "dzdl_3", "dzdl_4", "zl", "sd"]

def requiredColumnsJson : Json :=
  .array (requiredColumns.map Json.string)

def fieldStandardMaterial : List (String × Json) :=
  [("configuration_version", .string "platform-config.v1"),
    ("zl", .object [("unit_symbol", .null), ("validation_enabled", .bool false)]),
    ("sd", .object [("unit_symbol", .null), ("validation_enabled", .bool false)]),
    ("sampling", .object [("expected_period_ms", .null), ("tolerance_ms", .null)])]

def fieldStandardSha256 (platform : Platform) : String :=
  platform.sha256Hex (Json.canonical (.object fieldStandardMaterial))

def fieldStandardSnapshot (platform : Platform) : Json :=
  .object (fieldStandardMaterial ++ [("sha256", .string (fieldStandardSha256 platform))])

def referenceAgents : Json :=
  .array
    [.object [("agent", Json.ofInt 1), ("segment", .string "EARLY"), ("parameters", .object [])],
      .object [("agent", Json.ofInt 2), ("segment", .string "MIDDLE"), ("parameters", .object [])],
      .object [("agent", Json.ofInt 3), ("segment", .string "LATE"), ("parameters", .object [])]]

def referenceFixedItems : Json :=
  .object
    [("agent_count", Json.ofInt 3), ("feature_dimension_formula", .string "4*nLag+32"),
      ("leave_one_out_global_model", .bool true), ("predict_then_update", .bool true),
      ("agent_override_whitelist", .array [])]

def referenceProfileIntegrityError : StableError :=
  { code := "REFERENCE_CONFIG_IMMUTABLE", field := "parameter_profile_version_id"
    message := "The immutable reference parameter profile is missing or invalid."
    recoverable := false }

/-- `rawJSONObject`: decode a stored document that must be an object; a JSON
null decodes to an empty map. -/
def rawJsonObject (platform : Platform) (name : String) (raw : Json) :
    Except String (List (String × Json)) :=
  match raw.mapNumbers platform.float64Literal with
  | .object fields => .ok fields
  | .null => .ok []
  | _ => .error ("decode stored " ++ name)

/-- A nonempty object among the fields. -/
def hasNonemptyObject (name : String) (fields : List (String × Json)) : Bool :=
  ((Json.lookup name fields).bind Json.asObject?).any fun values => values.length ≠ 0

/-- `validateReferenceProfile`. -/
def validateReferenceProfile (platform : Platform) (normalized : Json) (storedSha : String) :
    Except StableError Unit := do
  let profile ← (match rawJsonObject platform "reference parameter profile" normalized with
    | .ok fields => .ok fields
    | .error _ => .error referenceProfileIntegrityError)
  require (platform.sha256Hex (Json.canonical (.object profile)) = storedSha)
    referenceProfileIntegrityError
  require (Json.lookup "contract_version" profile = some (.string "parameter-profile.v1") ∧
      Json.lookup "mode" profile = some (.string "REFERENCE")) referenceProfileIntegrityError
  let agents := (Json.lookup "agents" profile).bind Json.asArray?
  let shared := ((Json.lookup "shared_parameters" profile).bind Json.asObject?).getD []
  require (hasNonemptyObject "shared_parameters" profile = true ∧
      agents.map List.length = some 3) referenceProfileIntegrityError
  require (["feature_state", "cleaning", "split", "trend"].all
      (fun group => hasNonemptyObject group shared) = true) referenceProfileIntegrityError
  let fixed ← (match (Json.lookup "fixed_items" profile).bind Json.asObject? with
    | some fixed => .ok fixed
    | none => .error referenceProfileIntegrityError)
  require (Json.canonical (.object fixed) = Json.canonical referenceFixedItems)
    referenceProfileIntegrityError

/-! ## Effective parameters -/

mutual

/-- `mergeParameterMaps`: overlay a sparse override on a parameter tree of the
same shape. -/
def mergeParameterMaps (base : List (String × Json)) :
    List (String × Json) -> Except String (List (String × Json))
  | [] => .ok base
  | (key, override) :: rest =>
      match Json.lookup key base with
      | none => .error "stored Agent override has an unknown parameter path"
      | some baseValue =>
          match mergeParameter baseValue override with
          | .ok merged => mergeParameterMaps (Json.setField key merged base) rest
          | .error message => .error message

/-- The value that one entry of the loop in `mergeParameterMaps` stores. -/
def mergeParameter (baseValue : Json) : Json -> Except String Json
  | .object overrideObject =>
      match baseValue with
      | .object baseObject =>
          match mergeParameterMaps baseObject overrideObject with
          | .ok merged => .ok (.object merged)
          | .error message => .error message
      | _ => .error "stored Agent override changes a parameter shape"
  | override =>
      match baseValue with
      | .object _ => .error "stored Agent override changes a parameter shape"
      | _ => .ok override

end

/-- One entry of the effective agents, with its number. -/
def effectiveAgent (shared : List (String × Json)) (seen : List Int) (raw : Json) :
    Except String (Int × Json) := do
  let invalid := "stored parameter profile has an invalid Agent entry"
  let agent ← (match raw.asObject? with
    | some fields => .ok fields
    | none => .error invalid)
  match (Json.lookup "agent" agent).bind Json.asInt?,
      (Json.lookup "segment" agent).bind Json.asString?,
      (Json.lookup "parameters" agent).bind Json.asObject? with
  | some identifier, some segment, some overrides =>
      require (1 ≤ identifier ∧ identifier ≤ 3 ∧ identifier ∉ seen) invalid
      let full ← mergeParameterMaps shared overrides
      return (identifier, .object
        [("agent", Json.ofInt identifier), ("segment", .string segment),
          ("parameters", .object full)])
  | _, _, _ => .error invalid

/-- The loop of `effectiveParameterSnapshot` over the stored agents. -/
def effectiveAgents (shared : List (String × Json)) :
    List Int -> List Json -> Except String (List (Int × Json))
  | _, [] => .ok []
  | seen, raw :: rest => do
      let entry ← effectiveAgent shared seen raw
      let others ← effectiveAgents shared (entry.1 :: seen) rest
      return entry :: others

/-- `effectiveParameterSnapshot`. -/
def effectiveParameterSnapshot (platform : Platform) (profileJson : Json) : Except String Json := do
  let profile ← rawJsonObject platform "parameter profile" profileJson
  let shared ← (match (Json.lookup "shared_parameters" profile).bind Json.asObject? with
    | some (field :: rest) => .ok (field :: rest)
    | _ => .error "stored parameter profile has no shared parameters")
  let agents ← (match (Json.lookup "agents" profile).bind Json.asArray? with
    | some agents =>
        if agents.length = 3 then .ok agents
        else .error "stored parameter profile has an invalid Agent collection"
    | none => .error "stored parameter profile has an invalid Agent collection")
  let entries ← effectiveAgents shared [] agents
  let sorted := entries.insertionSort fun left right => left.1 ≤ right.1
  return .object
    [("shared_parameters", .object shared), ("agents", .array (sorted.map Prod.snd))]

/-! ## Snapshots -/

def seedMap (seed : Int64) : Json :=
  .object
    [("1", Json.ofInt (seed + 1).toInt), ("2", Json.ofInt (seed + 2).toInt),
      ("3", Json.ofInt (seed + 3).toInt)]

/-- `workerRuntime`; the derived seeds wrap as 64-bit integers do. -/
def workerRuntime (identity : RuntimeIdentity) (masterSeed : Int64) : Json :=
  .object
    [("algorithm_version", .string identity.algorithmVersion),
      ("worker_version", .string identity.workerVersion),
      ("image_digest", .string identity.workerImageDigest),
      ("numeric_runtime", .string identity.numericRuntime),
      ("master_seed", Json.ofInt masterSeed.toInt),
      ("random_streams", .object
        [("generator", .string "MT19937_TWISTER_COMPAT"),
          ("seed_mapping_version", .string "reference-anchor-v1"),
          ("base_center_seed_by_agent", seedMap masterSeed),
          ("transition_center_seed_by_agent", seedMap (masterSeed + 20)),
          ("boundary_seed_by_agent", seedMap (masterSeed + 40)),
          ("public_anchor_seed", Json.ofInt (masterSeed + 100).toInt)])]

/-- What `CreateSimulation` read before it builds the snapshot. -/
structure AdmissionInputs where
  dataset : Dataset
  profile : ParameterProfile
  mapping : LoadMappingProfile

def datasetSnapshot (dataset : Dataset) : Json :=
  .object
    [("dataset_id", .string dataset.datasetId), ("display_name", .string dataset.displayName),
      ("sha256", .string dataset.sha256), ("timezone", .string dataset.timezone),
      ("columns", requiredColumnsJson)]

/-- `buildSnapshot`. -/
def buildSnapshot (platform : Platform) (runId : String) (request : CreateSimulationRequest)
    (inputs : AdmissionInputs) (clock : Instant) : Except String Json := do
  let effective ← effectiveParameterSnapshot platform inputs.profile.normalizedJson
  return .object
    [("contract_version", .string "simulation.snapshot.v1"), ("run_id", .string runId),
      ("created_at", .string (platform.formatInstant clock)),
      ("run_mode", .string request.runMode), ("dataset", datasetSnapshot inputs.dataset),
      ("parameter_profile_version_id", .string request.parameterProfileVersionId),
      ("parameter_profile_display_name", .string inputs.profile.displayName),
      ("parameter_snapshot", inputs.profile.normalizedJson.mapNumbers platform.float64Literal),
      ("parameter_sha256", .string inputs.profile.normalizedSha256),
      ("parameter_effective", effective),
      ("load_mapping_version_id", .string request.loadMappingVersionId),
      ("mapping_snapshot", inputs.mapping.normalizedJson.mapNumbers platform.float64Literal),
      ("mapping_sha256", .string inputs.mapping.normalizedSha256),
      ("agents", referenceAgents), ("field_standard_snapshot", fieldStandardSnapshot platform),
      ("runtime", workerRuntime platform.runtime request.seed)]

/-! ## Envelopes -/

def canonicalSourcePath (datasetId : String) : String :=
  "datasets/" ++ datasetId ++ "/source.csv"

/-- `safeWorkerRelativePath`. -/
def safeWorkerRelativePath (value : String) : Bool :=
  match value.toList with
  | [] => false
  | first :: rest =>
      value.utf8ByteSize ≤ 512 && isAsciiAlphanumeric first &&
        rest.all (fun char => isAsciiAlphanumeric char || char ∈ ['.', '_', '/', '-']) &&
        !hasAdjacent '/' '/' value.toList && value.toList.getLast? != some '/' &&
        (value.toList.splitOn '/').all fun part => part != ['.'] && part != ['.', '.']

/-- `canonicalWorkerDatasetPath`. -/
def canonicalWorkerDatasetPath (datasetId storageKey : String) : Except String String :=
  if safeWorkerRelativePath storageKey && storageKey = canonicalSourcePath datasetId then
    .ok (canonicalSourcePath datasetId)
  else .error "dataset storage key is not the controlled source path"

/-- `workerDatasetSnapshot`. -/
def workerDatasetSnapshot (dataset : Dataset) : Except String Json := do
  require (isIdentifier dataset.datasetId = true ∧ isSha256Hex dataset.sha256 = true ∧
      dataset.timezone = "Asia/Shanghai") "simulation snapshot has an invalid dataset object"
  let relativePath ← canonicalWorkerDatasetPath dataset.datasetId dataset.storageKey
  return .object
    [("dataset_id", .string dataset.datasetId), ("relative_path", .string relativePath),
      ("sha256", .string dataset.sha256), ("timezone", .string dataset.timezone),
      ("columns", requiredColumnsJson)]

/-- `workerParameterSnapshot`. -/
def workerParameterSnapshot (platform : Platform) (versionId sha256 : String) (raw : Json) :
    Except String Json := do
  let profile ← rawJsonObject platform "parameter profile" raw
  match (Json.lookup "shared_parameters" profile).bind Json.asObject?,
      (Json.lookup "agents" profile).bind Json.asArray?,
      (Json.lookup "fixed_items" profile).bind Json.asObject? with
  | some shared, some agents, some fixed =>
      return .object
        [("version_id", .string versionId), ("sha256", .string sha256),
          ("shared_parameters", .object shared), ("agents", .array agents),
          ("fixed_items", .object fixed)]
  | _, _, _ => .error "stored parameter profile does not satisfy the worker snapshot contract"

/-- `workerMappingSnapshot`. -/
def workerMappingSnapshot (platform : Platform) (versionId sha256 : String) (raw : Json) :
    Except String Json := do
  let mapping ← rawJsonObject platform "load mapping" raw
  match (Json.lookup "mapping_type" mapping).bind Json.asString?,
      (Json.lookup "parameters" mapping).bind Json.asObject?,
      (Json.lookup "result_unit" mapping).bind Json.asString? with
  | some mappingType, some parameters, some resultUnit =>
      return .object
        [("version_id", .string versionId), ("mapping_type", .string mappingType),
          ("parameters", .object parameters), ("result_unit", .string resultUnit),
          ("sha256", .string sha256)]
  | _, _, _ => .error "stored load mapping does not satisfy the worker snapshot contract"

def workerLimits : Json :=
  .object [("memory_bytes", Json.ofInt 10737418240), ("cancel_check_target_ms", Json.ofInt 5000)]

/-- `buildSimulationEnvelope`. -/
def buildSimulationEnvelope (platform : Platform) (jobId runId : String)
    (request : CreateSimulationRequest) (inputs : AdmissionInputs) : Except String Json := do
  let dataset ← workerDatasetSnapshot inputs.dataset
  let parameters ← workerParameterSnapshot platform request.parameterProfileVersionId
    inputs.profile.normalizedSha256 inputs.profile.normalizedJson
  let mapping ← workerMappingSnapshot platform request.loadMappingVersionId
    inputs.mapping.normalizedSha256 inputs.mapping.normalizedJson
  return .object
    [("contract_version", .string "worker.task.v1"), ("job_id", .string jobId),
      ("job_type", .string "SIMULATION"), ("run_id", .string runId), ("dataset", dataset),
      ("run_mode", .string request.runMode), ("parameter_snapshot", parameters),
      ("mapping_snapshot", mapping), ("field_standard_snapshot", fieldStandardSnapshot platform),
      ("runtime", workerRuntime platform.runtime request.seed),
      ("output", .object
        [("relative_tmp_directory", .string ("runs/" ++ runId ++ "/tmp")),
          ("required_artifact_schema", .string "artifact.manifest.v1")]),
      ("limits", workerLimits)]

/-- The envelope of a preflight job in `RegisterDataset`. -/
def preflightEnvelope (platform : Platform) (jobId datasetId storageKey sha256 timezone : String) :
    Json :=
  .object
    [("contract_version", .string "worker.task.v1"), ("job_id", .string jobId),
      ("job_type", .string "DATASET_PREFLIGHT"), ("run_id", .null),
      ("dataset", .object
        [("dataset_id", .string datasetId), ("relative_path", .string storageKey),
          ("sha256", .string sha256), ("timezone", .string timezone),
          ("columns", requiredColumnsJson)]),
      ("preprocessing", .object
        [("contract_version", .string "preprocessing.v1"),
          ("field_standard_configuration_sha256", .string (fieldStandardSha256 platform))]),
      ("output", .object
        [("relative_tmp_directory", .string ("datasets/" ++ datasetId ++ "/preflight/tmp")),
          ("required_summary_schema", .string "dataset-preflight.summary.v1")]),
      ("limits", workerLimits)]

end Queue
end FederatedIot
