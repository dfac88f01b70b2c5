import FederatedIot.Worker.Preprocessing

namespace FederatedIot
namespace Worker

open Foundation Foundation.Outcome

/-!
# The segments of the agents

Each agent takes one of three contiguous parts of the running rows of its own
preprocessing.  The parts of two agents are parts of different sequences when
their thresholds differ.
-/

/-! ## Partitions -/

/-- `range(start, stop)` -/
def pyRange (start stop : Int) : List Int :=
  (List.range (stop - start).toNat).map fun step : Nat => start + (step : Int)

@[simp]
theorem pyRange_length (start stop : Int) : (pyRange start stop).length = (stop - start).toNat := by
  rw [pyRange, List.length_map, List.length_range]

theorem mem_pyRange {start stop index : Int} : index ∈ pyRange start stop ↔ start ≤ index ∧ index < stop := by
  rw [pyRange, List.mem_map]
  constructor
  · rintro ⟨step, member, rfl⟩
    rw [List.mem_range] at member
    omega
  · rintro ⟨after, before⟩
    refine ⟨(index - start).toNat, ?_, by omega⟩
    rw [List.mem_range]
    omega

/-- `_round_half_away_from_zero` -/
def roundHalfAwayFromZero (value : Rat) : Int :=
  if 0 ≤ value then ⌊Binary64.round (value + 1 / 2)⌋ else ⌈Binary64.round (value - 1 / 2)⌉

/-- One of the edges in `partition_contiguous_indices`, counted from one. -/
def partitionEdge (totalRows parts index : Nat) : Int :=
  roundHalfAwayFromZero (Binary64.round (1 + Binary64.round ((index * totalRows : Nat) / (parts : Rat))))

/-- The part with an index. -/
def partitionRange (totalRows parts index : Nat) : List Int :=
  pyRange (partitionEdge totalRows parts index - 1) (partitionEdge totalRows parts (index + 1) - 1)

/-- `partition_contiguous_indices` -/
def partitionContiguousIndices (totalRows parts : Nat) (minimumPartLength : Int) :
    Except PreparationFailure (List (List Int)) := do
  require (0 < parts) (.valueError "parts must be positive.")
  require (((List.range (parts + 1)).any fun index => Binary64.overflows ((index * totalRows : Nat) / (parts : Rat))) =
    false) .overflow
  let partitions := (List.range parts).map (partitionRange totalRows parts)
  (List.range parts).forM fun index =>
    require (minimumPartLength ≤ (partitionRange totalRows parts index).length)
      (.valueError ("Partition " ++ toString (index + 1) ++ " has fewer rows than its minimum length."))
  return partitions

/-- `rows[index]` for the indices of a part. -/
def rowsAt (rows : List RunningRow) (indices : List Int) : Except PreparationFailure (List RunningRow) :=
  indices.mapM fun index =>
    match rows[index.toNat]? with
    | some row => .ok row
    | none => .error .indexError

/-! ## Features -/

/-- The rows that the samples of a `FeatureDataset` are computed from: for each
sample the rows of its lags, and its own row last. -/
structure FeatureDataset where
  samples : List (List RunningRow)

/-- `build_transition_dataset` -/
def buildTransitionDataset (rows : List RunningRow) (nLag : Nat) : Except PreparationFailure FeatureDataset := do
  require (5 ≤ nLag) (.valueError "n_lag must be at least 5.")
  require (nLag < rows.length) (.valueError "A partition must contain more rows than n_lag.")
  return { samples := (List.range (rows.length - nLag)).map fun first => (rows.drop first).take (nLag + 1) }

/-- The source rows that a feature or a target is computed from. -/
def FeatureDataset.usedRows (features : FeatureDataset) : List Nat :=
  features.samples.flatten.map RunningRow.sourceRowIndex

/-- `ChronologicalSplit` by the lengths of its parts. -/
structure ChronologicalSplit where
  train : Int
  calibration : Int
  test : Int

/-- `chronological_split` -/
def chronologicalSplit (totalSamples : Nat) (trainRatio calibrationRatio : Rat) :
    Except PreparationFailure ChronologicalSplit := do
  require (0 < totalSamples ∧ 0 < trainRatio ∧ 0 < calibrationRatio ∧
      Binary64.round (trainRatio + calibrationRatio) < 1)
    (.valueError "Invalid chronological split input.")
  let trainCount := ⌊Binary64.round (trainRatio * Binary64.round totalSamples)⌋
  let calibrationCount := ⌊Binary64.round (calibrationRatio * Binary64.round totalSamples)⌋
  return { train := trainCount, calibration := calibrationCount, test := totalSamples - (trainCount + calibrationCount) }

/-! ## Contexts -/

/-- `AgentContext` -/
structure AgentContext where
  agent : Int
  segment : String
  featureDataset : FeatureDataset
  split : ChronologicalSplit
  randomSeed : Int
  outputNamespace : String

/-- `minimum_partition_rows` -/
def AgentPreparationParameters.minimumPartitionRows (parameters : AgentPreparationParameters) : Int :=
  parameters.nLag + parameters.minimumTraining + parameters.minimumCalibration + parameters.minimumTesting + 5

/-- `split.agent_count` -/
def AgentPreparationParameters.agentCount (parameters : AgentPreparationParameters) : Nat :=
  ⌊leafNumber "split" "agent_count" parameters.effectiveParameters⌋.toNat

/-- The number of an item, for the sort. -/
def itemAgent : PyValue -> Int
  | .dict fields =>
      match get "agent" fields with
      | .int agent => agent
      | _ => 0
  | _ => 0

def itemSegment : PyValue -> String
  | .dict fields =>
      match get "segment" fields with
      | .str segment => segment
      | _ => ""
  | _ => ""

/-- One turn of the loop in `prepare_simulation`. -/
def prepareAgent (datasetsByAgent : List (Int × List RunningRow)) (byAgent : List (Int × AgentPreparationParameters))
    (item : PyValue) : Except PreparationFailure AgentContext := do
  let agent := itemAgent item
  let parameters ← (match forAgent agent byAgent with
    | some parameters => .ok parameters
    | none => .error (.contract "S1 simulation parameters are missing one Agent."))
  let dataset ← (match datasetsByAgent.find? fun entry => entry.1 = agent with
    | some entry => .ok entry.2
    | none => .error (.contract ("SIMULATION preprocessing result is missing Agent " ++ toString agent ++ ".")))
  let partitions ← partitionContiguousIndices dataset.length parameters.agentCount parameters.minimumPartitionRows
  let partition ← (match partitions[(agent - 1).toNat]? with
    | some partition => .ok partition
    | none => .error .indexError)
  let rows ← rowsAt dataset partition
  let featureDataset ← buildTransitionDataset rows parameters.nLag.toNat
  let split ← chronologicalSplit featureDataset.samples.length parameters.trainingRatio parameters.calibrationRatio
  require (parameters.minimumTraining ≤ split.train ∧ parameters.minimumCalibration ≤ split.calibration ∧
      parameters.minimumTesting ≤ split.test)
    (.failed "INSUFFICIENT_SAMPLES" "Agent partition does not satisfy frozen split minima.")
  return { agent, segment := itemSegment item, featureDataset, split, randomSeed := parameters.baseCenterSeed,
           outputNamespace := "agent_" ++ toString agent }

/-- `validate_s1_contexts`; every context is made with its own runtime and stream. -/
def validateS1Contexts (contexts : List AgentContext) : Except PreparationFailure Unit := do
  require (contexts.length = 3 ∧ ∀ agent ∈ ([1, 2, 3] : List Int),
      ∃ context ∈ contexts, context.agent = agent ∧ agentSegment agent = some context.segment)
    (.valueError "S1 requires exactly Agent 1/EARLY, Agent 2/MIDDLE, and Agent 3/LATE.")
  require (contexts.map AgentContext.outputNamespace).Nodup
    (.valueError "Agent output namespaces must not be shared.")

/-- `task.parameter_agents` -/
def parameterAgents (raw : List (String × PyValue)) : List PyValue :=
  match get "parameter_snapshot" raw with
  | .dict snapshot =>
      match get "agents" snapshot with
      | .list items => items
      | _ => []
  | _ => []

/-- `prepare_simulation` -/
def prepareSimulation (raw : List (String × PyValue)) (datasetsByAgent : List (Int × List RunningRow))
    (byAgent : List (Int × AgentPreparationParameters)) : Except PreparationFailure (List AgentContext) := do
  let items := (parameterAgents raw).insertionSort fun left right => itemAgent left ≤ itemAgent right
  let contexts ← items.mapM (prepareAgent datasetsByAgent byAgent)
  validateS1Contexts contexts
  return contexts

end Worker
end FederatedIot
