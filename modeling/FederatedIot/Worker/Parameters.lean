import FederatedIot.Foundation.Decoding

namespace FederatedIot
namespace Worker

open Foundation Foundation.Outcome

/-!
# The parameters of a simulation

The worker merges the sparse parameters of each agent onto the shared tree of
its task and validates both the shared tree and the merged ones against a closed
list of paths.  It has no defaults of its own.
-/

/-! ## The parameter tree -/

/-- A bound with its text in an error message. -/
structure Bound where
  value : Rat
  text : String

def atLeast (value : Nat) : Option Bound :=
  some ⟨value, toString value⟩

/-- A bound that the source writes as a float. -/
def floatBound (value : Nat) : Option Bound :=
  some ⟨value, toString value ++ ".0"⟩

inductive ValueKind where
  | integer
  | number
  | boolean
  | string
  deriving DecidableEq

/-- `_FieldSpec` -/
structure FieldSpec where
  kind : ValueKind
  minimum : Option Bound := none
  maximum : Option Bound := none
  exclusiveMinimum : Bool := false
  allowedFlags : Option (List Bool) := none
  allowedTexts : Option (List String) := none
  nullable : Bool := false

def integerFrom (minimum : Nat) : FieldSpec :=
  { kind := .integer, minimum := atLeast minimum }

def nonnegative : FieldSpec :=
  { kind := .number, minimum := floatBound 0 }

def positive : FieldSpec :=
  { kind := .number, minimum := floatBound 0, exclusiveMinimum := true }

def unitInterval : FieldSpec :=
  { kind := .number, minimum := floatBound 0, maximum := floatBound 1 }

def positiveUnitInterval : FieldSpec :=
  { kind := .number, minimum := floatBound 0, maximum := floatBound 1, exclusiveMinimum := true }

/-- `_PARAMETER_SPEC` -/
def parameterSpec : List (String × List (String × FieldSpec)) :=
  [("feature_state",
      [("nLag", integerFrom 5), ("speed_threshold", nonnegative), ("current_threshold", nonnegative)]),
    ("cleaning",
      [("median_window", integerFrom 1), ("mad_factor", positive), ("smoothing_window", integerFrom 1)]),
    ("split",
      [("training_ratio", positive), ("calibration_ratio", positive), ("minimum_training", integerFrom 1),
        ("minimum_calibration", integerFrom 1), ("minimum_testing", integerFrom 1),
        ("agent_count", { integerFrom 3 with maximum := atLeast 3 })]),
    ("local_gp",
      [("kNN", integerFrom 1), ("adaptive_ratio", positiveUnitInterval), ("ell", positive),
        ("sigma_f", positive), ("sigma_n", positive), ("minimum_regularization", positive)]),
    ("trend",
      [("threshold", nonnegative), ("maximum_mixing", unitInterval), ("gain", { kind := .number }),
        ("maximum_step_change", positive)]),
    ("interval",
      [("confidence", positiveUnitInterval), ("calibration_window", integerFrom 1),
        ("minimum_scores", integerFrom 1), ("std_floor", positive), ("calibration_scale_min", positive),
        ("calibration_scale_max", positive), ("half_width_min", positive), ("half_width_max", positive),
        ("coverage_window", integerFrom 1),
        ("update_mode", { kind := .string, allowedTexts := some ["all_finite"] }),
        ("variance_floor", positive)]),
    ("anchors",
      [("base_centers", integerFrom 1), ("transition_centers", integerFrom 1),
        ("boundary_centers", integerFrom 1), ("transition_quantile", positiveUnitInterval),
        ("public_anchors", integerFrom 10), ("iterations", integerFrom 1), ("random_seed", integerFrom 0)]),
    ("support",
      [("scale_multiple", positive), ("minimum_weight", positive), ("minimum_query_support", unitInterval),
        ("full_weight_reference", positive)]),
    ("global_surrogate",
      [("ell", positive), ("minimum_regularization", positive), ("noise_ratio", nonnegative),
        ("cholesky_attempts", integerFrom 1),
        ("leave_one_out", { kind := .boolean, allowedFlags := some [true] })]),
    ("fusion",
      [("maximum_global_weight", unitInterval), ("initial_improvement", nonnegative),
        ("error_window", integerFrom 1), ("minimum_samples", integerFrom 1), ("win_margin", unitInterval),
        ("variance_weight", nonnegative), ("winsor_quantile", positiveUnitInterval),
        ("global_clear_threshold", unitInterval), ("neutral_upper_limit", unitInterval),
        ("persistence", integerFrom 1), ("rise_smoothing", unitInterval), ("fall_smoothing", unitInterval),
        ("disagreement_kappa", positive), ("maximum_variance_ratio", positive)]),
    ("alarms",
      [("imbalance_threshold", unitInterval), ("notice_count", integerFrom 1),
        ("warning_count", integerFrom 1), ("alarm_count", integerFrom 1),
        ("absolute_current_threshold", { nonnegative with nullable := true }),
        ("absolute_tension_threshold", { nonnegative with nullable := true })])]

/-! ## Errors -/

/-- A `ContractFailure`, or the overflow of a conversion to a double. -/
inductive ParameterFailure where
  | contract (message : String)
  | overflow
  deriving DecidableEq

/-- `sorted(set(left) - set(right))` -/
def missingFrom (left right : List String) : List String :=
  ((left.filter fun name => name ∉ right).dedup).insertionSort (· ≤ ·)

/-- `_exact_keys` -/
def exactKeys {α β : Type} (value : List (String × α)) (expected : List (String × β)) (field : String) :
    Except ParameterFailure Unit := do
  let missing := missingFrom (Fields.names expected) (Fields.names value)
  let unknown := missingFrom (Fields.names value) (Fields.names expected)
  require (missing = []) (.contract
    (field ++ " is missing required parameter paths: " ++ ", ".intercalate missing ++ "."))
  require (unknown = []) (.contract
    (field ++ " contains unknown parameter paths: " ++ ", ".intercalate unknown ++ "."))

/-- `_object` -/
def objectOf (value : PyValue) (field : String) : Except ParameterFailure (List (String × PyValue)) :=
  match value with
  | .dict fields => .ok fields
  | _ => .error (.contract (field ++ " must be an object for simulation preparation."))

/-- `value.get(name)` -/
def get (name : String) (fields : List (String × PyValue)) : PyValue :=
  (Fields.lookup name fields).getD .none

/-! ## Values -/

/-- `_integer` -/
def integerOf (value : PyValue) (field : String) (minimum maximum : Option Bound) :
    Except ParameterFailure Int :=
  match value with
  | .int number => do
      require (∀ bound ∈ minimum, bound.value ≤ number) (.contract
        (field ++ " must be greater than or equal to " ++ (minimum.map Bound.text).getD "" ++ "."))
      require (∀ bound ∈ maximum, number ≤ bound.value) (.contract
        (field ++ " must be less than or equal to " ++ (maximum.map Bound.text).getD "" ++ "."))
      return number
  | _ => .error (.contract (field ++ " must be an integer."))

/-- `float(value)` of a finite number. -/
def finiteFloat (value : PyValue) (field : String) : Except ParameterFailure Rat :=
  match value with
  | .int number =>
      if Binary64.overflows number then .error .overflow else .ok (Binary64.round number)
  | .float number => .ok number
  | _ => .error (.contract (field ++ " must be a finite number."))

/-- `_number` -/
def numberOf (value : PyValue) (field : String) (minimum maximum : Option Bound) (exclusiveMinimum : Bool) :
    Except ParameterFailure Rat := do
  let number ← finiteFloat value field
  require (∀ bound ∈ minimum, if exclusiveMinimum then bound.value < number else bound.value ≤ number)
    (.contract (field ++ " must be " ++
      (if exclusiveMinimum then "greater than" else "greater than or equal to") ++ " " ++
        (minimum.map Bound.text).getD "" ++ "."))
  require (∀ bound ∈ maximum, number ≤ bound.value) (.contract
    (field ++ " must be less than or equal to " ++ (maximum.map Bound.text).getD "" ++ "."))
  return number

/-- `_validate_value` of a value that is not null. -/
def validatePresent (value : PyValue) (spec : FieldSpec) (field : String) : Except ParameterFailure PyValue :=
  match spec.kind with
  | .boolean =>
      match value with
      | .bool flag => do
          require (∀ allowed ∈ spec.allowedFlags, flag ∈ allowed)
            (.contract (field ++ " has an unsupported value."))
          return .bool flag
      | _ => .error (.contract (field ++ " must be a boolean."))
  | .string =>
      match value with
      | .str text => do
          require (text ≠ "") (.contract (field ++ " must be a non-empty string."))
          require (∀ allowed ∈ spec.allowedTexts, text ∈ allowed)
            (.contract (field ++ " has an unsupported value."))
          return .str text
      | _ => .error (.contract (field ++ " must be a non-empty string."))
  | .integer => do
      let number ← integerOf value field spec.minimum spec.maximum
      return .int number
  | .number => do
      let number ← numberOf value field spec.minimum spec.maximum spec.exclusiveMinimum
      return .float number

/-- `_validate_value` -/
def validateValue (value : PyValue) (spec : FieldSpec) (field : String) : Except ParameterFailure PyValue :=
  match value with
  | .none =>
      if spec.nullable then .ok .none else .error (.contract (field ++ " must not be null."))
  | value => validatePresent value spec field

/-! ## Trees -/

/-- The leaf of a tree of groups. -/
def leaf (group name : String) (tree : List (String × PyValue)) : PyValue :=
  match get group tree with
  | .dict fields => get name fields
  | _ => .none

/-- The number of a leaf that was validated as one. -/
def leafNumber (group name : String) (tree : List (String × PyValue)) : Rat :=
  match leaf group name tree with
  | .int number => number
  | .float number => number
  | _ => 0

/-- `_validate_combinations` -/
def validateCombinations (tree : List (String × PyValue)) (field : String) : Except ParameterFailure Unit := do
  require (Binary64.round (leafNumber "split" "training_ratio" tree +
      leafNumber "split" "calibration_ratio" tree) < 1)
    (.contract (field ++ ".split training and calibration ratios must leave a test partition."))
  require (leafNumber "interval" "minimum_scores" tree ≤ leafNumber "interval" "calibration_window" tree)
    (.contract (field ++ ".interval.calibration_window must be at least minimum_scores."))
  require (leafNumber "interval" "calibration_scale_min" tree ≤
      leafNumber "interval" "calibration_scale_max" tree)
    (.contract (field ++ ".interval calibration scale bounds are invalid."))
  require (leafNumber "interval" "half_width_min" tree ≤ leafNumber "interval" "half_width_max" tree)
    (.contract (field ++ ".interval half-width bounds are invalid."))
  require (leafNumber "fusion" "minimum_samples" tree ≤ leafNumber "fusion" "error_window" tree)
    (.contract (field ++ ".fusion.error_window must be at least minimum_samples."))
  require (leafNumber "fusion" "neutral_upper_limit" tree ≤ leafNumber "fusion" "global_clear_threshold" tree)
    (.contract (field ++ ".fusion neutral_upper_limit must not exceed global_clear_threshold."))
  require (leafNumber "alarms" "notice_count" tree ≤ leafNumber "alarms" "warning_count" tree ∧
      leafNumber "alarms" "warning_count" tree ≤ leafNumber "alarms" "alarm_count" tree)
    (.contract (field ++ ".alarms counts must be ordered notice, warning, alarm."))

/-- One group of `_validated_parameter_tree`. -/
def validatedGroup (value : List (String × PyValue)) (field : String)
    (group : String × List (String × FieldSpec)) : Except ParameterFailure (String × PyValue) := do
  let groupValue ← objectOf (get group.1 value) (field ++ "." ++ group.1)
  exactKeys groupValue group.2 (field ++ "." ++ group.1)
  let leaves ← group.2.mapM fun entry => do
    let validated ← validateValue (get entry.1 groupValue) entry.2 (field ++ "." ++ group.1 ++ "." ++ entry.1)
    return (entry.1, validated)
  return (group.1, .dict leaves)

/-- `_validated_parameter_tree` -/
def validatedParameterTree (value : List (String × PyValue)) (field : String) :
    Except ParameterFailure (List (String × PyValue)) := do
  exactKeys value parameterSpec field
  let validated ← parameterSpec.mapM (validatedGroup value field)
  validateCombinations validated field
  return validated

/-- The check at the head of `_deep_merge`. -/
def knownKeys (base override : List (String × PyValue)) (field : String) : Except ParameterFailure Unit :=
  let unknown := missingFrom (Fields.names override) (Fields.names base)
  require (unknown = []) (.contract
    (field ++ " contains unknown parameter paths: " ++ ", ".intercalate unknown ++ "."))

mutual

/-- The loop of `_deep_merge` over the fields of the base. -/
def mergeFields (override : List (String × PyValue)) (field : String) :
    List (String × PyValue) -> Except ParameterFailure (List (String × PyValue))
  | [] => .ok []
  | (key, baseValue) :: rest => do
      let merged ← mergeValue baseValue (Fields.lookup key override) (field ++ "." ++ key)
      let others ← mergeFields override field rest
      return (key, merged) :: others

/-- The value that `_deep_merge` stores for one field of the base. -/
def mergeValue : PyValue -> Option PyValue -> String -> Except ParameterFailure PyValue
  | .dict base, .none, field => do
      let merged ← mergeFields [] field base
      return .dict merged
  | .dict base, .some (.dict override), field => do
      knownKeys base override field
      let merged ← mergeFields override field base
      return .dict merged
  | .dict _, .some _, field =>
      .error (.contract (field ++ " must be an object for a sparse override."))
  | baseValue, .none, _ => .ok baseValue
  | _, .some value, _ => .ok value

end

/-- `_deep_merge` -/
def deepMerge (base override : List (String × PyValue)) (field : String) :
    Except ParameterFailure (List (String × PyValue)) := do
  knownKeys base override field
  mergeFields override field base

/-! ## The agents of a task -/

/-- `S1_AGENT_SEGMENTS` -/
def agentSegment : Int -> Option String
  | 1 => some "EARLY"
  | 2 => some "MIDDLE"
  | 3 => some "LATE"
  | _ => none

def agentItemFields : List (String × Unit) :=
  [("agent", ()), ("segment", ()), ("parameters", ())]

/-- The loop of `_validate_s1_agent_collection` with the agents seen so far. -/
def validateAgentItems : List Int -> List PyValue -> Except ParameterFailure (List Int)
  | seen, [] => .ok seen
  | seen, item :: rest => do
      let fields ← (match item with
        | .dict fields => .ok fields
        | _ => .error (.contract "parameter_snapshot.agents must contain objects."))
      let missing := missingFrom (Fields.names agentItemFields) (Fields.names fields)
      let unknown := missingFrom (Fields.names fields) (Fields.names agentItemFields)
      require (missing = []) (.contract
        ("parameter_snapshot.agents[] is missing required fields: " ++ ", ".intercalate missing ++ "."))
      require (unknown = []) (.contract
        ("parameter_snapshot.agents[] contains forbidden fields: " ++ ", ".intercalate unknown ++ "."))
      match get "agent" fields, get "segment" fields, get "parameters" fields with
      | .int agent, .str segment, .dict _ => do
          require (agentSegment agent = some segment ∧ agent ∉ seen)
            (.contract "S1 agents must be unique 1/EARLY, 2/MIDDLE, 3/LATE.")
          validateAgentItems (agent :: seen) rest
      | .int agent, .str segment, _ => do
          require (agentSegment agent = some segment ∧ agent ∉ seen)
            (.contract "S1 agents must be unique 1/EARLY, 2/MIDDLE, 3/LATE.")
          .error (.contract "parameter_snapshot.agents[].parameters must be an object.")
      | _, _, _ => .error (.contract "S1 agents must be unique 1/EARLY, 2/MIDDLE, 3/LATE.")

/-- `_validate_s1_agent_collection` -/
def validateAgentCollection (snapshot : PyValue) : Except ParameterFailure Unit :=
  match snapshot with
  | .dict fields =>
      match get "agents" fields with
      | .list agents => do
          require (agents.length = 3) (.contract "S1 SIMULATION requires exactly three agent contexts.")
          let seen ← validateAgentItems [] agents
          require (∀ agent ∈ ([1, 2, 3] : List Int), agent ∈ seen)
            (.contract "S1 agents must contain 1/EARLY, 2/MIDDLE, and 3/LATE exactly once.")
      | _ => .error (.contract "S1 SIMULATION requires exactly three agent contexts.")
  | _ => .error (.contract "SIMULATION requires parameter_snapshot.")

/-- `PreprocessingConfig` as `_preprocessing_config` fills it. -/
structure PreprocessingConfig where
  speedStopThreshold : Rat
  currentStopThreshold : Rat
  medianWindow : Int
  madFactor : Rat
  smoothWindow : Int
  deriving DecidableEq

/-- `AgentPreparationParameters` -/
structure AgentPreparationParameters where
  effectiveParameters : List (String × PyValue)
  preprocessing : PreprocessingConfig
  nLag : Int
  trainingRatio : Rat
  calibrationRatio : Rat
  minimumTraining : Int
  minimumCalibration : Int
  minimumTesting : Int
  trendGain : Rat
  baseCenterSeed : Int

/-- `_preprocessing_config` -/
def preprocessingConfig (tree : List (String × PyValue)) : PreprocessingConfig :=
  { speedStopThreshold := leafNumber "feature_state" "speed_threshold" tree
    currentStopThreshold := leafNumber "feature_state" "current_threshold" tree
    medianWindow := ⌊leafNumber "cleaning" "median_window" tree⌋
    madFactor := leafNumber "cleaning" "mad_factor" tree
    smoothWindow := ⌊leafNumber "cleaning" "smoothing_window" tree⌋ }

/-- `_agent_preparation_parameters` -/
def agentPreparationParameters (tree : List (String × PyValue)) (baseCenterSeed : Int) :
    AgentPreparationParameters :=
  { effectiveParameters := tree
    preprocessing := preprocessingConfig tree
    nLag := ⌊leafNumber "feature_state" "nLag" tree⌋
    trainingRatio := leafNumber "split" "training_ratio" tree
    calibrationRatio := leafNumber "split" "calibration_ratio" tree
    minimumTraining := ⌊leafNumber "split" "minimum_training" tree⌋
    minimumCalibration := ⌊leafNumber "split" "minimum_calibration" tree⌋
    minimumTesting := ⌊leafNumber "split" "minimum_testing" tree⌋
    trendGain := leafNumber "trend" "gain" tree
    baseCenterSeed }

/-- `_base_center_seeds` -/
def baseCenterSeeds (raw : List (String × PyValue)) : Except ParameterFailure (Int -> Int) := do
  let runtime ← objectOf (get "runtime" raw) "runtime"
  let streams ← objectOf (get "random_streams" runtime) "runtime.random_streams"
  let path := "runtime.random_streams.base_center_seed_by_agent"
  let seedValues ← objectOf (get "base_center_seed_by_agent" streams) path
  let first ← integerOf (get "1" seedValues) (path ++ ".1") (atLeast 0) none
  let second ← integerOf (get "2" seedValues) (path ++ ".2") (atLeast 0) none
  let third ← integerOf (get "3" seedValues) (path ++ ".3") (atLeast 0) none
  return fun agent => if agent = 1 then first else if agent = 2 then second else third

/-- One turn of the loop in `simulation_preparation_parameters`. -/
def agentParameters (shared : List (String × PyValue)) (seeds : Int -> Int) (item : PyValue) :
    Except ParameterFailure (Int × AgentPreparationParameters) := do
  match item with
  | .dict fields =>
      match get "agent" fields with
      | .int agent => do
          let field := "parameter_snapshot.agents[" ++ toString agent ++ "].parameters"
          let override ← objectOf (get "parameters" fields) field
          let merged ← deepMerge shared override field
          let effective ← validatedParameterTree merged field
          return (agent, agentPreparationParameters effective (seeds agent))
      | _ => .error (.contract "S1 agents must be unique 1/EARLY, 2/MIDDLE, 3/LATE.")
  | _ => .error (.contract "parameter_snapshot.agents must contain objects.")

/-- `simulation_preparation_parameters` of a task whose agents were validated when
the task was parsed. -/
def simulationPreparationParameters (raw : List (String × PyValue)) :
    Except ParameterFailure (List (Int × AgentPreparationParameters)) := do
  validateAgentCollection (get "parameter_snapshot" raw)
  let snapshot ← objectOf (get "parameter_snapshot" raw) "parameter_snapshot"
  let sharedValue ← objectOf (get "shared_parameters" snapshot) "parameter_snapshot.shared_parameters"
  let shared ← validatedParameterTree sharedValue "parameter_snapshot.shared_parameters"
  let seeds ← baseCenterSeeds raw
  let items := (match get "agents" snapshot with
    | .list items => items
    | _ => [])
  let byAgent ← items.mapM (agentParameters shared seeds)
  require (∀ agent ∈ ([1, 2, 3] : List Int), agent ∈ byAgent.map Prod.fst)
    (.contract "S1 simulation parameters must contain exactly Agent 1, Agent 2, and Agent 3.")
  return byAgent

/-- `for_agent` -/
def forAgent (agent : Int) (byAgent : List (Int × AgentPreparationParameters)) :
    Option AgentPreparationParameters :=
  (byAgent.find? fun entry => entry.1 = agent).map Prod.snd

/-! ## What is accepted -/

/-- What one turn of the check of the collection accepts. -/
theorem validateAgentItems_cons_ok {seen result : List Int} {item : PyValue} {rest : List PyValue}
    (accepted : validateAgentItems seen (item :: rest) = .ok result) :
    ∃ fields agent segment override, item = .dict fields ∧ get "agent" fields = .int agent ∧
      get "segment" fields = .str segment ∧ get "parameters" fields = .dict override ∧
      agentSegment agent = some segment ∧ agent ∉ seen ∧ validateAgentItems (agent :: seen) rest = .ok result := by
  cases item with
  | dict fields =>
      simp only [validateAgentItems, bind_ok_iff, require_ok_iff, exists_const] at accepted
      rcases accepted with ⟨_, same, _, _, accepted⟩
      cases same
      split at accepted
      · rename_i agent segment override isAgent isSegment isOverride
        simp only [bind_ok_iff, require_ok_iff, exists_const] at accepted
        rcases accepted with ⟨⟨isKnown, unseen⟩, accepted⟩
        exact ⟨fields, agent, segment, override, rfl, isAgent, isSegment, isOverride, isKnown, unseen, accepted⟩
      · simp only [bind_ok_iff, require_ok_iff, exists_const] at accepted
        cases accepted.2
      · cases accepted
  | none | str _ | float _ | infinite _ | bool _ | list _ | int _ =>
      simp only [validateAgentItems] at accepted
      cases accepted

theorem agentSegment_range {agent : Int} {segment : String} (known : agentSegment agent = some segment) :
    1 ≤ agent ∧ agent ≤ 3 := by
  unfold agentSegment at known
  split at known
  · decide
  · decide
  · decide
  · cases known

/-- Every leaf of an accepted tree has passed the check of its specification. -/
theorem validatedParameterTree_leaf {value tree : List (String × PyValue)} {field group name : String}
    {specs : List (String × FieldSpec)} {spec : FieldSpec}
    (accepted : validatedParameterTree value field = .ok tree)
    (isGroup : Fields.lookup group parameterSpec = some specs) (isSpec : Fields.lookup name specs = some spec) :
    ∃ raw path, validateValue raw spec path = .ok (leaf group name tree) := by
  simp only [validatedParameterTree, bind_ok_iff, pure_ok_iff] at accepted
  rcases accepted with ⟨_, _, groups, converted, _, _, rfl⟩
  have groupNamed : forall (entry : String × List (String × FieldSpec)) (result : String × PyValue),
      validatedGroup value field entry = .ok result -> result.1 = entry.1 := by
    intro entry result done
    simp only [validatedGroup, bind_ok_iff, pure_ok_iff] at done
    rcases done with ⟨_, _, _, _, _, _, rfl⟩
    rfl
  rcases (Fields.lookup_mapM groupNamed converted).2 group specs isGroup with ⟨groupValue, stored, done⟩
  simp only [validatedGroup, bind_ok_iff, pure_ok_iff, Prod.mk.injEq] at done
  rcases done with ⟨raws, _, _, _, leaves, leavesConverted, _, rfl⟩
  have leafNamed : forall (entry : String × FieldSpec) (result : String × PyValue),
      (do
        let validated ← validateValue (get entry.1 raws) entry.2 (field ++ "." ++ group ++ "." ++ entry.1)
        return (entry.1, validated)) = Except.ok result -> result.1 = entry.1 := by
    intro entry result validated
    simp only [bind_ok_iff, pure_ok_iff] at validated
    rcases validated with ⟨_, _, rfl⟩
    rfl
  rcases (Fields.lookup_mapM leafNamed leavesConverted).2 name spec isSpec with ⟨leafValue, isLeaf, validated⟩
  simp only [bind_ok_iff, pure_ok_iff, Prod.mk.injEq, true_and] at validated
  rcases validated with ⟨_, validates, rfl⟩
  refine ⟨get name raws, field ++ "." ++ group ++ "." ++ name, ?_⟩
  rw [validates, leaf, get, stored, Option.getD_some]
  simp only [get, isLeaf, Option.getD_some]

/-- The check that a leaf has passed when it may not be null. -/
theorem validatePresent_leaf {value tree : List (String × PyValue)} {field group name : String}
    {specs : List (String × FieldSpec)} {spec : FieldSpec}
    (accepted : validatedParameterTree value field = .ok tree)
    (isGroup : Fields.lookup group parameterSpec = some specs) (isSpec : Fields.lookup name specs = some spec)
    (present : spec.nullable = false) : ∃ raw path, validatePresent raw spec path = .ok (leaf group name tree) := by
  rcases validatedParameterTree_leaf accepted isGroup isSpec with ⟨raw, path, validated⟩
  refine ⟨raw, path, ?_⟩
  cases raw with
  | none =>
      rw [validateValue, present] at validated
      cases validated
  | bool _ | int _ | float _ | infinite _ | str _ | list _ | dict _ => exact validated

/-- An integer leaf of an accepted tree is within its bounds. -/
theorem integerLeaf_bounds {value tree : List (String × PyValue)} {field group name : String}
    {specs : List (String × FieldSpec)} {spec : FieldSpec}
    (accepted : validatedParameterTree value field = .ok tree)
    (isGroup : Fields.lookup group parameterSpec = some specs) (isSpec : Fields.lookup name specs = some spec)
    (isInteger : spec.kind = .integer) (present : spec.nullable = false) :
    ∃ number : Int, leafNumber group name tree = number ∧ (∀ bound ∈ spec.minimum, bound.value ≤ number) ∧
      ∀ bound ∈ spec.maximum, number ≤ bound.value := by
  rcases validatePresent_leaf accepted isGroup isSpec present with ⟨raw, path, valid⟩
  simp only [validatePresent, isInteger, bind_ok_iff, pure_ok_iff] at valid
  rcases valid with ⟨number, found, isLeaf⟩
  refine ⟨number, ?_, ?_⟩
  · rw [leafNumber, ← isLeaf]
  · cases raw with
    | int whole =>
        simp only [integerOf, bind_ok_iff, pure_ok_iff, require_ok_iff, exists_const] at found
        rcases found with ⟨least, most, rfl⟩
        exact ⟨least, most⟩
    | none | str _ | float _ | infinite _ | bool _ | list _ | dict _ => cases found

/-- A number leaf of an accepted tree is within its bounds. -/
theorem numberLeaf_bounds {value tree : List (String × PyValue)} {field group name : String}
    {specs : List (String × FieldSpec)} {spec : FieldSpec}
    (accepted : validatedParameterTree value field = .ok tree)
    (isGroup : Fields.lookup group parameterSpec = some specs) (isSpec : Fields.lookup name specs = some spec)
    (isNumber : spec.kind = .number) (present : spec.nullable = false) :
    (∀ bound ∈ spec.minimum, if spec.exclusiveMinimum then bound.value < leafNumber group name tree
        else bound.value ≤ leafNumber group name tree) ∧
      ∀ bound ∈ spec.maximum, leafNumber group name tree ≤ bound.value := by
  rcases validatePresent_leaf accepted isGroup isSpec present with ⟨raw, path, valid⟩
  simp only [validatePresent, isNumber, numberOf, bind_ok_iff, pure_ok_iff, require_ok_iff, exists_const] at valid
  rcases valid with ⟨number, ⟨_, _, least, most, rfl⟩, isLeaf⟩
  rw [leafNumber, ← isLeaf]
  exact ⟨least, most⟩

/-- A text leaf of an accepted tree is one of the texts that are allowed. -/
theorem textLeaf_allowed {value tree : List (String × PyValue)} {field group name : String}
    {specs : List (String × FieldSpec)} {spec : FieldSpec}
    (accepted : validatedParameterTree value field = .ok tree)
    (isGroup : Fields.lookup group parameterSpec = some specs) (isSpec : Fields.lookup name specs = some spec)
    (isText : spec.kind = .string) (present : spec.nullable = false) :
    ∃ text, leaf group name tree = .str text ∧ ∀ allowed ∈ spec.allowedTexts, text ∈ allowed := by
  rcases validatePresent_leaf accepted isGroup isSpec present with ⟨raw, path, valid⟩
  simp only [validatePresent, isText] at valid
  cases raw with
  | str text =>
      simp only [bind_ok_iff, pure_ok_iff, require_ok_iff, exists_const] at valid
      rcases valid with ⟨_, allowed, isLeaf⟩
      exact ⟨text, isLeaf.symm, allowed⟩
  | none | bool _ | int _ | float _ | infinite _ | list _ | dict _ => cases valid

/-- The numbers of an accepted tree fit together. -/
theorem validatedParameterTree_combinations {value tree : List (String × PyValue)} {field : String}
    (accepted : validatedParameterTree value field = .ok tree) : validateCombinations tree field = .ok () := by
  simp only [validatedParameterTree, bind_ok_iff, pure_ok_iff] at accepted
  rcases accepted with ⟨_, _, validated, _, _, combined, rfl⟩
  exact combined

end Worker
end FederatedIot
