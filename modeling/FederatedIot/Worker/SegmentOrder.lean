import FederatedIot.Foundation.Ranks
import FederatedIot.Worker.AgentTrees
import FederatedIot.Worker.Segments

namespace FederatedIot
namespace Worker

open Foundation Foundation.Outcome Foundation.Ranks

/-!
# The order of the segments

The rows that an agent uses are a block of the source rows that its thresholds
keep.  Two blocks of different sequences are in order exactly when a position of
the file has the first block behind it and the second one ahead.  Agents with the
same thresholds share one sequence, and its blocks are in order.
-/

/-! ## Blocks of running rows -/

theorem partitionEdge_zero (totalRows parts : Nat) : partitionEdge totalRows parts 0 = 1 := by
  have halfway : roundHalfAwayFromZero 1 = 1 := by decide +kernel
  have unit : Binary64.round (1 + Binary64.round 0) = 1 := by decide +kernel
  rw [partitionEdge, Nat.zero_mul, Nat.cast_zero, zero_div, unit, halfway]

/-- Every part of a partition has its minimum length. -/
theorem partitionContiguousIndices_ok {totalRows parts : Nat} {minimum : Int} {partitions : List (List Int)}
    (done : partitionContiguousIndices totalRows parts minimum = .ok partitions) :
    partitions = (List.range parts).map (partitionRange totalRows parts) ∧
      forall index, index < parts -> minimum ≤ (partitionRange totalRows parts index).length := by
  simp only [partitionContiguousIndices, bind_ok_iff, pure_ok_iff, require_ok_iff, exists_const] at done
  rcases done with ⟨_, _, _, checked, rfl⟩
  refine ⟨rfl, ?_⟩
  intro index inRange
  exact (require_ok_iff _ _ _).mp (forM_ok_iff.mp checked index (List.mem_range.mpr inRange))

theorem partitionEdge_lt {totalRows parts : Nat} {minimum : Int} {partitions : List (List Int)}
    (done : partitionContiguousIndices totalRows parts minimum = .ok partitions) (positive : 1 ≤ minimum)
    {index : Nat} (inRange : index < parts) :
    partitionEdge totalRows parts index < partitionEdge totalRows parts (index + 1) := by
  have long := (partitionContiguousIndices_ok done).2 index inRange
  rw [partitionRange, pyRange_length] at long
  omega

theorem one_le_partitionEdge {totalRows parts : Nat} {minimum : Int} {partitions : List (List Int)}
    (done : partitionContiguousIndices totalRows parts minimum = .ok partitions) (positive : 1 ≤ minimum)
    {index : Nat} (inRange : index ≤ parts) : 1 ≤ partitionEdge totalRows parts index := by
  induction index with
  | zero => rw [partitionEdge_zero]
  | succ index inductionHypothesis =>
      have before := inductionHypothesis (Nat.le_of_succ_le inRange)
      exact before.trans (partitionEdge_lt done positive inRange).le

theorem mem_rowsAt {rows picked : List RunningRow} {start stop : Nat}
    (done : rowsAt rows (pyRange start stop) = .ok picked) {row : RunningRow} :
    row ∈ picked ↔ ∃ index, start ≤ index ∧ index < stop ∧ rows[index]? = some row := by
  constructor
  · intro member
    rcases source_of_mapM_ok done member with ⟨index, inRange, same⟩
    rw [mem_pyRange] at inRange
    split at same
    · rename_i stored
      rw [← Except.ok.inj same]
      exact ⟨index.toNat, by omega, by omega, stored⟩
    · cases same
  · rintro ⟨index, after, before, found⟩
    have inRange : (index : Int) ∈ pyRange start stop := mem_pyRange.mpr ⟨by omega, by omega⟩
    rcases mem_of_mapM_ok done inRange with ⟨other, member, same⟩
    rw [Int.toNat_natCast, found] at same
    rw [Except.ok.inj same]
    exact member

/-- The positions of a part exist. -/
theorem rowsAt_within {rows picked : List RunningRow} {start stop : Nat}
    (done : rowsAt rows (pyRange start stop) = .ok picked) (nonempty : start < stop) : stop ≤ rows.length := by
  have inRange : ((stop - 1 : Nat) : Int) ∈ pyRange start stop := mem_pyRange.mpr ⟨by omega, by omega⟩
  rcases mem_of_mapM_ok done inRange with ⟨other, _, same⟩
  rw [Int.toNat_natCast] at same
  split at same
  · rename_i stored
    rcases List.getElem?_eq_some_iff.mp stored with ⟨within, _⟩
    omega
  · cases same

/-- The samples of a feature dataset are computed from all of its rows. -/
theorem mem_usedRows {rows : List RunningRow} {nLag : Nat} {features : FeatureDataset}
    (built : buildTransitionDataset rows nLag = .ok features) {index : Nat} :
    index ∈ features.usedRows ↔ ∃ row ∈ rows, row.sourceRowIndex = index := by
  simp only [buildTransitionDataset, bind_ok_iff, pure_ok_iff, require_ok_iff, exists_const] at built
  rcases built with ⟨_, enough, rfl⟩
  rw [FeatureDataset.usedRows, List.mem_map]
  refine exists_congr fun row => and_congr_left' ?_
  rw [List.mem_flatten]
  constructor
  · rintro ⟨window, inSamples, inWindow⟩
    rcases List.mem_map.mp inSamples with ⟨first, _, rfl⟩
    exact List.mem_of_mem_drop (List.mem_of_mem_take inWindow)
  · intro member
    rcases List.mem_iff_getElem.mp member with ⟨position, within, rfl⟩
    -- the last sample that can hold the row, or the first one for an early row
    refine ⟨(rows.drop (position - nLag)).take (nLag + 1), ?_, ?_⟩
    · exact List.mem_map.mpr ⟨position - nLag, List.mem_range.mpr (by omega), rfl⟩
    · refine List.mem_of_getElem? (i := position - (position - nLag)) ?_
      rw [List.getElem?_take_of_lt (by omega), List.getElem?_drop, List.getElem?_eq_getElem (by omega)]
      congr 1
      congr 1
      omega

/-! ## The parameters of a partition -/

/-- What a partition asks of the parameters of its agent. -/
structure PartitionParameters (parameters : AgentPreparationParameters) : Prop where
  threeParts : parameters.agentCount = 3
  nonempty : 1 ≤ parameters.minimumPartitionRows

theorem partitionParameters_of_tree {value tree : List (String × PyValue)} {field : String}
    (accepted : validatedParameterTree value field = .ok tree) (baseCenterSeed : Int) :
    PartitionParameters (agentPreparationParameters tree baseCenterSeed) := by
  have least : forall group name specs minimum (spec : FieldSpec), Fields.lookup group parameterSpec = some specs ->
      Fields.lookup name specs = some spec -> spec.kind = .integer -> spec.nullable = false ->
      spec.minimum = atLeast minimum -> ∃ number : Int, leafNumber group name tree = number ∧ (minimum : Int) ≤ number ∧
        (spec.maximum = atLeast minimum -> number = minimum) := by
    intro group name specs minimum spec isGroup isSpec isInteger present isMinimum
    rcases integerLeaf_bounds accepted isGroup isSpec isInteger present with ⟨number, same, above, below⟩
    have lower : ((minimum : Nat) : Rat) ≤ number := above _ (by rw [isMinimum, atLeast]; rfl)
    refine ⟨number, same, by exact_mod_cast lower, ?_⟩
    intro isMaximum
    have upper : (number : Rat) ≤ ((minimum : Nat) : Rat) := below _ (by rw [isMaximum, atLeast]; rfl)
    exact_mod_cast le_antisymm upper lower
  rcases least "split" "agent_count" _ 3 _ rfl rfl rfl rfl rfl with ⟨count, isCount, _, exact⟩
  rcases least "feature_state" "nLag" _ 5 _ rfl rfl rfl rfl rfl with ⟨lag, isLag, fromLag, _⟩
  rcases least "split" "minimum_training" _ 1 _ rfl rfl rfl rfl rfl with ⟨training, isTraining, fromTraining, _⟩
  rcases least "split" "minimum_calibration" _ 1 _ rfl rfl rfl rfl rfl with ⟨calibration, isCalibration, fromCalibration, _⟩
  rcases least "split" "minimum_testing" _ 1 _ rfl rfl rfl rfl rfl with ⟨testing, isTesting, fromTesting, _⟩
  constructor
  · rw [AgentPreparationParameters.agentCount, agentPreparationParameters, isCount, exact rfl, Int.floor_intCast]
    rfl
  · simp only [AgentPreparationParameters.minimumPartitionRows, agentPreparationParameters, isLag, isTraining,
      isCalibration, isTesting, Int.floor_intCast]
    omega

theorem validateAgentItems_agent {seen result : List Int} {items : List PyValue}
    (accepted : validateAgentItems seen items = .ok result) :
    ∀ item ∈ items, ∃ fields agent segment, item = .dict fields ∧ get "agent" fields = .int agent ∧
      agentSegment agent = some segment := by
  induction items generalizing seen with
  | nil => exact fun _ impossible => (by cases impossible)
  | cons head tail inductionHypothesis =>
      rcases validateAgentItems_cons_ok accepted with ⟨fields, agent, segment, _, same, isAgent, _, _, known, _, rest⟩
      intro item member
      rcases List.mem_cons.mp member with isHead | inTail
      · rw [isHead]
        exact ⟨fields, agent, segment, same, isAgent, known⟩
      · exact inductionHypothesis rest item inTail

/-- The agents of an accepted task and what their partitions rely on. -/
theorem simulationPreparationParameters_agents {raw : List (String × PyValue)}
    {byAgent : List (Int × AgentPreparationParameters)}
    (accepted : simulationPreparationParameters raw = .ok byAgent) :
    ∀ entry ∈ byAgent, (1 ≤ entry.1 ∧ entry.1 ≤ 3) ∧ PartitionParameters entry.2 := by
  simp only [simulationPreparationParameters, bind_ok_iff, pure_ok_iff, require_ok_iff, exists_const] at accepted
  rcases accepted with ⟨_, collected, snapshot, isSnapshot, _, _, shared, _, seeds, _, results, converted, _, same⟩
  subst same
  have isDict : get "parameter_snapshot" raw = .dict snapshot := by
    generalize get "parameter_snapshot" raw = value at isSnapshot
    cases value with
    | dict fields => rw [Except.ok.inj isSnapshot]
    | none | bool _ | int _ | float _ | infinite _ | str _ | list _ => cases isSnapshot
  rw [isDict, validateAgentCollection] at collected
  intro entry member
  rcases source_of_mapM_ok converted member with ⟨item, inItems, done⟩
  split at inItems
  · rename_i items isList
    simp only [isList, bind_ok_iff, require_ok_iff, exists_const] at collected
    rcases collected with ⟨_, _, valid, _⟩
    rcases validateAgentItems_agent valid item inItems with ⟨fields, agent, segment, rfl, isAgent, known⟩
    simp only [agentParameters, isAgent, bind_ok_iff, pure_ok_iff] at done
    rcases done with ⟨_, _, merged, _, tree, treeAccepted, rfl⟩
    exact ⟨agentSegment_range known, partitionParameters_of_tree treeAccepted _⟩
  · cases inItems

/-! ## The segment of an agent -/

/-- The source rows that a configuration keeps. -/
def sourceRows (config : PreprocessingConfig) (rows : List RawRow) : List Nat :=
  (rows.filter (isModelingRow config)).map RawRow.originalIndex

/-- Where the part with an index begins among the rows that an agent keeps. -/
def segmentEdge (parameters : AgentPreparationParameters) (rows : List RawRow) (index : Nat) : Nat :=
  (partitionEdge (sourceRows parameters.preprocessing rows).length 3 index - 1).toNat

/-- The position of an agent among the parts. -/
def AgentContext.part (context : AgentContext) : Nat :=
  (context.agent - 1).toNat

/-- The rows that a context uses are the part of its agent. -/
structure SegmentOf (rows : List RawRow) (parameters : AgentPreparationParameters) (context : AgentContext) :
    Prop where
  used : forall index, index ∈ context.featureDataset.usedRows ↔
    InBlock (sourceRows parameters.preprocessing rows) (segmentEdge parameters rows context.part)
      (segmentEdge parameters rows (context.part + 1)) index
  ordered : forall index, index < 3 -> segmentEdge parameters rows index < segmentEdge parameters rows (index + 1)
  inRange : context.part < 3
  within : segmentEdge parameters rows (context.part + 1) ≤ (sourceRows parameters.preprocessing rows).length

theorem prepareAgent_ok {rows : List RawRow} {datasets : List (Int × List RunningRow)}
    {byAgent : List (Int × AgentPreparationParameters)} {item : PyValue} {context : AgentContext}
    (preprocessed : preprocessAgentDatasets rows byAgent = .ok datasets)
    (relied : ∀ entry ∈ byAgent, PartitionParameters entry.2)
    (done : prepareAgent datasets byAgent item = .ok context) :
    ∃ parameters, forAgent context.agent byAgent = some parameters ∧ SegmentOf rows parameters context := by
  simp only [prepareAgent, bind_ok_iff, pure_ok_iff, require_ok_iff, exists_const] at done
  rcases done with ⟨parameters, found, dataset, isDataset, partitions, partitioned, partition, isPartition, picked,
    pickedDone, features, built, split, _, _, rfl⟩
  have isAgent : forAgent (itemAgent item) byAgent = some parameters := by
    split at found
    · rename_i same
      rw [same, Except.ok.inj found]
    · cases found
  have sources : dataset.map RunningRow.sourceRowIndex = sourceRows parameters.preprocessing rows := by
    split at isDataset
    · rename_i entry selected
      have sameAgent : entry.1 = itemAgent item := of_decide_eq_true (List.find?_some selected :)
      rcases preprocessAgents_ok (fun _ impossible => (by cases impossible)) preprocessed entry
        (List.mem_of_find?_eq_some selected) with ⟨others, othersFound, preprocessDone⟩
      rw [sameAgent, isAgent] at othersFound
      rw [← Except.ok.inj isDataset, preprocess_sourceRows preprocessDone, ← Option.some.inj othersFound, sourceRows]
    · cases isDataset
  have parametersRelied : PartitionParameters parameters := by
    rcases Option.map_eq_some_iff.mp isAgent with ⟨entry, selected, rfl⟩
    exact relied entry (List.mem_of_find?_eq_some selected)
  have sameLength : dataset.length = (sourceRows parameters.preprocessing rows).length := by
    rw [← sources, List.length_map]
  rw [parametersRelied.threeParts, sameLength] at partitioned
  have edges : forall index, index ≤ 3 ->
      partitionEdge (sourceRows parameters.preprocessing rows).length 3 index - 1 = segmentEdge parameters rows index := by
    intro index inRange
    have first := one_le_partitionEdge partitioned parametersRelied.nonempty inRange
    rw [segmentEdge, Int.toNat_of_nonneg (by omega)]
  have ordered : forall index, index < 3 ->
      segmentEdge parameters rows index < segmentEdge parameters rows (index + 1) := by
    intro index inRange
    have increasing := partitionEdge_lt partitioned parametersRelied.nonempty inRange
    have left := edges index inRange.le
    have right := edges (index + 1) inRange
    omega
  have isPart : partitions[(itemAgent item - 1).toNat]? = some partition := by
    split at isPartition
    · rename_i same
      rw [same, Except.ok.inj isPartition]
    · cases isPartition
  rw [(partitionContiguousIndices_ok partitioned).1, List.getElem?_map, Option.map_eq_some_iff] at isPart
  rcases isPart with ⟨index, isIndex, rfl⟩
  rcases List.getElem?_eq_some_iff.mp isIndex with ⟨within, same⟩
  rw [List.getElem_range] at same
  rw [List.length_range] at within
  subst same
  have inRange : (itemAgent item - 1).toNat < 3 := within
  rw [partitionRange, edges _ inRange.le, edges _ inRange] at pickedDone
  refine ⟨parameters, isAgent, ?_, ordered, inRange, ?_⟩
  · intro source
    rw [mem_usedRows built, ← sources]
    constructor
    · rintro ⟨row, member, rfl⟩
      rcases (mem_rowsAt pickedDone).mp member with ⟨position, after, before, stored⟩
      exact ⟨position, after, before, by rw [List.getElem?_map, stored]; rfl⟩
    · rintro ⟨position, after, before, stored⟩
      rw [List.getElem?_map, Option.map_eq_some_iff] at stored
      rcases stored with ⟨row, isRow, rfl⟩
      exact ⟨row, (mem_rowsAt pickedDone).mpr ⟨position, after, before, isRow⟩, rfl⟩
  · rw [← sameLength]
    exact rowsAt_within pickedDone (ordered _ inRange)

/-! ## The order of the segments -/

/-- Everything that the first agent uses lies before everything that the second
one uses. -/
def Precedes (first second : AgentContext) : Prop :=
  ∀ left ∈ first.featureDataset.usedRows, ∀ right ∈ second.featureDataset.usedRows, left < right

/-- The segments are disjoint and in the order of their agents. -/
def OrderedSegments (contexts : List AgentContext) : Prop :=
  ∀ first ∈ contexts, ∀ second ∈ contexts, first.agent < second.agent ->
    Precedes first second ∧ List.Disjoint first.featureDataset.usedRows second.featureDataset.usedRows

/-- For each two agents a position of the file by which the earlier one has met
the running rows of its segment and of those before it, and the later one no more
than the running rows before its own segment. -/
def Separated (rows : List RawRow) (byAgent : List (Int × AgentPreparationParameters)) : Prop :=
  forall earlier later first second, earlier < later -> forAgent earlier byAgent = some first ->
    forAgent later byAgent = some second ->
      ∃ position, segmentEdge first rows earlier.toNat ≤ upTo position (sourceRows first.preprocessing rows) ∧
        upTo position (sourceRows second.preprocessing rows) ≤ segmentEdge second rows (later - 1).toNat

/-- All agents classify the rows by the same thresholds. -/
def SameThresholds (byAgent : List (Int × AgentPreparationParameters)) : Prop :=
  ∀ first ∈ byAgent, ∀ second ∈ byAgent,
    first.2.preprocessing.speedStopThreshold = second.2.preprocessing.speedStopThreshold ∧
      first.2.preprocessing.currentStopThreshold = second.2.preprocessing.currentStopThreshold

theorem mem_of_forAgent {byAgent : List (Int × AgentPreparationParameters)} {agent : Int}
    {parameters : AgentPreparationParameters} (found : forAgent agent byAgent = some parameters) :
    (agent, parameters) ∈ byAgent := by
  rcases Option.map_eq_some_iff.mp found with ⟨entry, selected, rfl⟩
  have sameAgent : entry.1 = agent := of_decide_eq_true (List.find?_some selected :)
  rw [← sameAgent]
  exact List.mem_of_find?_eq_some selected

theorem sourceRows_of_thresholds {first second : PreprocessingConfig} (rows : List RawRow)
    (speed : first.speedStopThreshold = second.speedStopThreshold)
    (current : first.currentStopThreshold = second.currentStopThreshold) :
    sourceRows first rows = sourceRows second rows := by
  have same : isModelingRow first = isModelingRow second := by
    funext row
    simp only [isModelingRow, speed, current]
  rw [sourceRows, sourceRows, same]

section Pairs

variable {rows : List RawRow} {first second : AgentPreparationParameters} {earlier later : AgentContext}

theorem SegmentOf.edge_mono (segment : SegmentOf rows first earlier) {left right : Nat} (before : left ≤ right)
    (inRange : right ≤ 3) : segmentEdge first rows left ≤ segmentEdge first rows right := by
  induction before with
  | refl => exact le_rfl
  | @step right _ inductionHypothesis =>
      exact (inductionHypothesis (Nat.le_of_succ_le inRange)).trans (segment.ordered right inRange).le

/-- Two segments are in order exactly when a position separates them. -/
theorem precedes_iff (increasing : (rows.map RawRow.originalIndex).Pairwise (· < ·))
    (firstSegment : SegmentOf rows first earlier) (secondSegment : SegmentOf rows second later) :
    Precedes earlier later ↔ ∃ position,
      segmentEdge first rows (earlier.part + 1) ≤ upTo position (sourceRows first.preprocessing rows) ∧
        upTo position (sourceRows second.preprocessing rows) ≤ segmentEdge second rows later.part := by
  have kept : forall config, (sourceRows config rows).Pairwise (· < ·) := fun config =>
    increasing.sublist (List.filter_sublist.map RawRow.originalIndex)
  rw [← blocks_ordered_iff (kept _) (kept _) (firstSegment.ordered _ firstSegment.inRange) firstSegment.within
    (secondSegment.ordered _ secondSegment.inRange) secondSegment.within]
  constructor
  · intro precedes left right inFirst inSecond
    exact precedes left ((firstSegment.used left).mpr inFirst) right ((secondSegment.used right).mpr inSecond)
  · intro ordered left inFirst right inSecond
    exact ordered left right ((firstSegment.used left).mp inFirst) ((secondSegment.used right).mp inSecond)

/-- The parts of one sequence are in order. -/
theorem precedes_of_same (increasing : (rows.map RawRow.originalIndex).Pairwise (· < ·))
    (firstSegment : SegmentOf rows first earlier) (secondSegment : SegmentOf rows second later)
    (same : sourceRows first.preprocessing rows = sourceRows second.preprocessing rows)
    (before : earlier.part < later.part) : Precedes earlier later := by
  intro left inFirst right inSecond
  have sameEdge : segmentEdge first rows = segmentEdge second rows := by
    funext index
    rw [segmentEdge, segmentEdge, same]
  have leftBlock := (firstSegment.used left).mp inFirst
  rw [same, sameEdge] at leftBlock
  exact blocks_ordered (increasing.sublist (List.filter_sublist.map RawRow.originalIndex))
    (secondSegment.edge_mono before secondSegment.inRange.le) leftBlock ((secondSegment.used right).mp inSecond)

end Pairs

theorem disjoint_of_precedes {first second : AgentContext} (precedes : Precedes first second) :
    List.Disjoint first.featureDataset.usedRows second.featureDataset.usedRows :=
  fun row inFirst inSecond => Nat.lt_irrefl row (precedes row inFirst row inSecond)

/-- The segments are disjoint and in order exactly when positions of the file
separate them, and so they are when the agents share their thresholds. -/
theorem segments_ordered_iff {raw : List (String × PyValue)} {records : List (List String)}
    {valid invalid : List RawRow} {byAgent : List (Int × AgentPreparationParameters)}
    {datasets : List (Int × List RunningRow)} {contexts : List AgentContext}
    (accepted : simulationPreparationParameters raw = .ok byAgent) (read : readCsv records = .ok (valid, invalid))
    (preprocessed : preprocessAgentDatasets valid byAgent = .ok datasets)
    (prepared : prepareSimulation raw datasets byAgent = .ok contexts) :
    (OrderedSegments contexts ↔ Separated valid byAgent) ∧
      (SameThresholds byAgent -> OrderedSegments contexts) := by
  have agents := simulationPreparationParameters_agents accepted
  have increasing := readCsv_increasing read
  simp only [prepareSimulation, validateS1Contexts, bind_ok_iff, pure_ok_iff, require_ok_iff, exists_const] at prepared
  rcases prepared with ⟨results, converted, ⟨⟨_, all⟩, _⟩, rfl⟩
  have segmentOf : ∀ context ∈ results, ∃ parameters, forAgent context.agent byAgent = some parameters ∧
      SegmentOf valid parameters context := by
    intro context member
    rcases source_of_mapM_ok converted member with ⟨item, _, done⟩
    exact prepareAgent_ok preprocessed (fun entry inAgents => (agents entry inAgents).2) done
  have parts : forall (context : AgentContext) (parameters : AgentPreparationParameters), forAgent context.agent byAgent = some parameters ->
      context.part + 1 = context.agent.toNat ∧ context.part = (context.agent - 1).toNat := by
    intro context parameters found
    have range := (agents _ (mem_of_forAgent found)).1
    simp only at range
    rw [AgentContext.part]
    omega
  refine ⟨⟨?_, ?_⟩, ?_⟩
  · intro ordered earlier later first second before isFirst isSecond
    have listed : forall agent parameters, forAgent agent byAgent = some parameters ->
        ∃ context ∈ results, context.agent = agent ∧ SegmentOf valid parameters context := by
      intro agent parameters found
      have range := (agents _ (mem_of_forAgent found)).1
      simp only at range
      have inList : agent ∈ ([1, 2, 3] : List Int) := by
        simp only [List.mem_cons, List.not_mem_nil, or_false]
        omega
      rcases all agent inList with ⟨context, member, isAgent, _⟩
      rcases segmentOf context member with ⟨others, othersFound, segment⟩
      rw [isAgent, found] at othersFound
      rw [← Option.some.inj othersFound] at segment
      exact ⟨context, member, isAgent, segment⟩
    rcases listed earlier first isFirst with ⟨firstContext, firstMember, rfl, firstSegment⟩
    rcases listed later second isSecond with ⟨secondContext, secondMember, rfl, secondSegment⟩
    have precedes := (ordered firstContext firstMember secondContext secondMember before).1
    rw [precedes_iff increasing firstSegment secondSegment] at precedes
    rw [(parts firstContext first isFirst).1] at precedes
    exact precedes
  · intro separated firstContext firstMember secondContext secondMember before
    rcases segmentOf firstContext firstMember with ⟨first, isFirst, firstSegment⟩
    rcases segmentOf secondContext secondMember with ⟨second, isSecond, secondSegment⟩
    have position := separated _ _ first second before isFirst isSecond
    rw [← (parts firstContext first isFirst).1] at position
    have precedes := (precedes_iff increasing firstSegment secondSegment).mpr position
    exact ⟨precedes, disjoint_of_precedes precedes⟩
  · intro same firstContext firstMember secondContext secondMember before
    rcases segmentOf firstContext firstMember with ⟨first, isFirst, firstSegment⟩
    rcases segmentOf secondContext secondMember with ⟨second, isSecond, secondSegment⟩
    have thresholds := same _ (mem_of_forAgent isFirst) _ (mem_of_forAgent isSecond)
    have firstPart := parts firstContext first isFirst
    have secondPart := parts secondContext second isSecond
    have range := (agents _ (mem_of_forAgent isFirst)).1
    simp only at range
    have precedes := precedes_of_same increasing firstSegment secondSegment
      (sourceRows_of_thresholds valid thresholds.1 thresholds.2) (by omega)
    exact ⟨precedes, disjoint_of_precedes precedes⟩

/-! ## A task with different thresholds -/

/-- The contexts of a task over the records of a file. -/
def preparedContexts (raw : List (String × PyValue)) (records : List (List String)) : Option (List AgentContext) := do
  let byAgent ← (simulationPreparationParameters raw).toOption
  let rows ← (readCsv records).toOption
  let datasets ← (preprocessAgentDatasets rows.1 byAgent).toOption
  (prepareSimulation raw datasets byAgent).toOption

theorem preparedContexts_some {raw : List (String × PyValue)} {records : List (List String)}
    {contexts : List AgentContext} (prepared : preparedContexts raw records = some contexts) :
    ∃ byAgent valid invalid datasets, simulationPreparationParameters raw = .ok byAgent ∧
      readCsv records = .ok (valid, invalid) ∧ preprocessAgentDatasets valid byAgent = .ok datasets ∧
      prepareSimulation raw datasets byAgent = .ok contexts := by
  have ok_of_toOption : forall {ε α : Type} {outcome : Except ε α} {value : α},
      outcome.toOption = some value -> outcome = .ok value := by
    intro ε α outcome value same
    cases outcome with
    | ok other => rw [Option.some.inj same]
    | error failure => cases same
  rcases Option.bind_eq_some_iff.mp prepared with ⟨byAgent, accepted, prepared⟩
  rcases Option.bind_eq_some_iff.mp prepared with ⟨rows, read, prepared⟩
  rcases Option.bind_eq_some_iff.mp prepared with ⟨datasets, preprocessed, prepared⟩
  exact ⟨byAgent, rows.1, rows.2, datasets, ok_of_toOption accepted, ok_of_toOption read, ok_of_toOption preprocessed,
    ok_of_toOption prepared⟩

/-- Small segments are enough. -/
def smallTree : List (String × Json) :=
  Json.setField "feature_state" (.object
      [("nLag", digits 5 0), ("speed_threshold", digits 1 2), ("current_threshold", digits 1 0)])
    (Json.setField "split" (.object
        [("training_ratio", digits 7 1), ("calibration_ratio", digits 15 2), ("minimum_training", digits 1 0),
          ("minimum_calibration", digits 1 0), ("minimum_testing", digits 1 0), ("agent_count", digits 3 0)])
      sampleTree)

/-- The first agent has a threshold of its own. -/
def thresholdTask (threshold : Int) : List (String × PyValue) :=
  [("parameter_snapshot", (Json.object
      [("version_id", .string "custom-v1"), ("sha256", .string Queue.sampleDigest),
        ("shared_parameters", .object smallTree),
        ("agents", .array
          [.object [("agent", digits 1 0), ("segment", .string "EARLY"), ("parameters", .object
              [("feature_state", .object [("current_threshold", digits threshold 0)])])],
            .object [("agent", digits 2 0), ("segment", .string "MIDDLE"), ("parameters", .object [])],
            .object [("agent", digits 3 0), ("segment", .string "LATE"), ("parameters", .object [])]]),
        ("fixed_items", .object [])]).loads),
    ("runtime", (Queue.workerRuntime Queue.samplePlatform.runtime 7).loads)]

/-- A weak load is followed by a strong one. -/
def risingLoad : List (List String) :=
  expectedColumns :: (List.replicate 39 ["2026-01-01 00:00:00", "2", "2", "2", "2", "1", "1"] ++
    List.replicate 39 ["2026-01-01 00:00:01", "10", "10", "10", "10", "1", "1"])

/-- The first agent starts with the strong load, in the midst of the second one. -/
theorem segments_overlap :
    ∃ byAgent valid invalid datasets contexts, simulationPreparationParameters (thresholdTask 5) = .ok byAgent ∧
      readCsv risingLoad = .ok (valid, invalid) ∧ preprocessAgentDatasets valid byAgent = .ok datasets ∧
      prepareSimulation (thresholdTask 5) datasets byAgent = .ok contexts ∧
      ∃ first ∈ contexts, ∃ second ∈ contexts, first.agent = 1 ∧ second.agent = 2 ∧
        40 ∈ first.featureDataset.usedRows ∧ 40 ∈ second.featureDataset.usedRows := by
  have shared : ((preparedContexts (thresholdTask 5) risingLoad).map fun contexts =>
      (decide (∃ first ∈ contexts, ∃ second ∈ contexts, first.agent = 1 ∧ second.agent = 2 ∧
        40 ∈ first.featureDataset.usedRows ∧ 40 ∈ second.featureDataset.usedRows))) = some true := by
    decide +kernel
  rcases Option.map_eq_some_iff.mp shared with ⟨contexts, prepared, overlap⟩
  rcases preparedContexts_some prepared with ⟨byAgent, valid, invalid, datasets, accepted, read, preprocessed, done⟩
  exact ⟨byAgent, valid, invalid, datasets, contexts, accepted, read, preprocessed, done, of_decide_eq_true overlap⟩

/-- With the threshold of the others the first agent starts with the weak load. -/
theorem segments_ordered_iff_sample :
    ∃ byAgent valid contexts, simulationPreparationParameters (thresholdTask 1) = .ok byAgent ∧
      preparedContexts (thresholdTask 1) risingLoad = some contexts ∧
      (OrderedSegments contexts ↔ Separated valid byAgent) ∧ (SameThresholds byAgent -> OrderedSegments contexts) := by
  have prepares : (preparedContexts (thresholdTask 1) risingLoad).isSome = true := by decide +kernel
  rcases Option.isSome_iff_exists.mp prepares with ⟨contexts, prepared⟩
  rcases preparedContexts_some prepared with ⟨byAgent, valid, invalid, datasets, accepted, read, preprocessed, done⟩
  exact ⟨byAgent, valid, contexts, accepted, prepared, segments_ordered_iff accepted read preprocessed done⟩

end Worker
end FederatedIot
