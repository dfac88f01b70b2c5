import FederatedIot.Worker.Anchors
import FederatedIot.Worker.FeatureLayout
import FederatedIot.Worker.FusionRun

namespace FederatedIot
namespace Worker
namespace Simulation

open Foundation Foundation.Outcome Foundation.Positions Foundation.Clusters Foundation.Windows

/-!
# How a simulation ends

With parameters that are accepted and samples of the declared shape no stage fails but for
want of calibration samples.  A stage settles: it ends with what the next one needs, or it
says that there are too few samples, and then there are.
-/

/-! ## Settled stages -/

/-- The stage ends with a value, or it refuses because there is not enough. -/
def Settles {Value : Type} (enough : Prop) (outcome : Except SimulationFailure Value) (holds : Value -> Prop) : Prop :=
  (exists value, outcome = .ok value ∧ holds value) ∨
    ¬ enough ∧ exists message, outcome = .error (.fusion (.worker "INSUFFICIENT_SAMPLES" message "CALIBRATING"))

section Settles

variable {Value Result Item : Type} {enough least : Prop} {outcome : Except SimulationFailure Value} {holds : Value -> Prop}

theorem Settles.ok {value : Value} (fact : holds value) : Settles enough (.ok value) holds :=
  Or.inl ⟨value, rfl, fact⟩

/-- A stage and the stages after it. -/
theorem Settles.bind {rest : Value -> Except SimulationFailure Result} {after : Result -> Prop}
    (first : Settles enough outcome holds) (second : forall value, holds value -> Settles enough (rest value) after) :
    Settles enough (outcome >>= rest) after := by
  rcases first with ⟨value, made, fact⟩ | ⟨few, message, refused⟩
  · rw [made, ok_bind]
    exact second value fact
  · rw [refused, error_bind]
    exact Or.inr ⟨few, message, rfl⟩

/-- A stage whose value is known. -/
theorem Settles.next {value : Value} {rest : Value -> Except SimulationFailure Result} {after : Result -> Prop}
    (made : outcome = .ok value) (remaining : Settles enough (rest value) after) : Settles enough (outcome >>= rest) after := by
  rw [made, ok_bind]
  exact remaining

/-- A stage that needs less. -/
theorem Settles.mono (first : Settles least outcome holds) (more : enough -> least) : Settles enough outcome holds :=
  first.imp id fun refused => ⟨fun plenty => refused.1 (more plenty), refused.2⟩

theorem Settles.of_arithmetic {outcome : Except AggregationError Value}
    (made : exists value, outcome = .ok value ∧ holds value) : Settles enough (arithmetic outcome) holds := by
  rcases made with ⟨value, rfl, fact⟩
  exact Settles.ok fact

/-- The same stage for each of several items. -/
theorem Settles.mapM {items : List Item} {stage : Item -> Except SimulationFailure Result} {related : Item -> Result -> Prop}
    (each : ∀ item ∈ items, Settles enough (stage item) (related item)) :
    Settles enough (items.mapM stage) (List.Forall₂ related items) := by
  induction items with
  | nil => exact Settles.ok List.Forall₂.nil
  | cons item rest inductionHypothesis =>
      rw [List.mapM_cons]
      refine Settles.bind (each item List.mem_cons_self) fun result fact => ?_
      refine Settles.bind (inductionHypothesis fun other inside => each other (List.mem_cons_of_mem _ inside)) fun results facts => ?_
      exact Settles.ok (List.Forall₂.cons fact facts)

theorem mapM_length {Fault : Type} {items : List Item} {compute : Item -> Except Fault Result}
    (each : ∀ item ∈ items, exists result, compute item = .ok result) :
    exists results, items.mapM compute = .ok results ∧ results.length = items.length := by
  rcases mapM_total each with ⟨results, made⟩
  exact ⟨results, made, (mapM_ok_iff.mp made).length_eq.symm⟩

/-- What a related element comes from. -/
theorem forall₂_left {related : Item -> Result -> Prop} {items : List Item} {results : List Result}
    (all : List.Forall₂ related items results) {result : Result} (listed : result ∈ results) :
    exists item, item ∈ items ∧ related item result := by
  induction all with
  | nil => exact absurd listed List.not_mem_nil
  | cons here _ inductionHypothesis =>
      rcases List.mem_cons.mp listed with rfl | later
      · exact ⟨_, List.mem_cons_self, here⟩
      · rcases inductionHypothesis later with ⟨item, inside, fact⟩
        exact ⟨item, List.mem_cons_of_mem _ inside, fact⟩

/-- What holds of each result holds of all of them. -/
theorem mapM_all {Fault : Type} {items : List Item} {compute : Item -> Except Fault Result} {holds : Result -> Prop}
    (each : ∀ item ∈ items, exists result, compute item = .ok result ∧ holds result) :
    exists results, items.mapM compute = .ok results ∧ results.length = items.length ∧ ∀ result ∈ results, holds result := by
  induction items with
  | nil => exact ⟨[], rfl, rfl, fun _ inside => absurd inside List.not_mem_nil⟩
  | cons item rest inductionHypothesis =>
      rcases each item List.mem_cons_self with ⟨result, made, fact⟩
      rcases inductionHypothesis fun other inside => each other (List.mem_cons_of_mem _ inside) with
        ⟨results, others, length, facts⟩
      refine ⟨result :: results, ?_, congrArg Nat.succ length, List.forall_mem_cons.mpr ⟨fact, facts⟩⟩
      rw [List.mapM_cons, made, ok_bind, others, ok_bind]
      rfl

end Settles

/-! ## Accepted contexts -/

/-- A context with accepted parameters and with samples of one width, all of whose positions are
of samples. -/
structure Accepted (context : AgentContext ℝ) : Prop where
  parameters : exists value field, validatedParameterTree value field = .ok context.parameters
  confident : leafNumber "interval" "confidence" context.parameters < 1
  widths : ∀ row ∈ context.dataset.values, row.length = 4 * context.count "feature_state" "nLag" + 32
  targets : context.dataset.targets.length = context.dataset.values.length
  trends : context.dataset.trends.length = context.dataset.values.length
  transitionScores : context.dataset.transitionScores.length = context.dataset.values.length
  sourceRows : context.dataset.sourceRows.length = context.dataset.values.length
  inside : ∀ index ∈ context.split.train ++ context.split.calibration ++ context.split.test,
    index < context.dataset.values.length
  train : context.split.train ≠ []
  test : context.split.test ≠ []
  means : context.standardization.means.length = 4 * context.count "feature_state" "nLag" + 32
  stds : context.standardization.sampleStds.length = 4 * context.count "feature_state" "nLag" + 32
  positive : ∀ std ∈ context.standardization.sampleStds, 0 < std

/-- The width of the samples of a context. -/
def AgentContext.width (context : AgentContext ℝ) : Nat :=
  4 * context.count "feature_state" "nLag" + 32

/-- The calibration has as many samples as the windows need. -/
def AgentContext.Enough (context : AgentContext ℝ) : Prop :=
  context.settings.minimumScores ≤ context.split.calibration.length ∧
    context.settings.minimumSamples ≤ context.split.calibration.length

section Accepted

variable {context : AgentContext ℝ} {enough : Prop} {group name : String} {specs : List (String × FieldSpec)}

theorem Accepted.number_pos (accepted : Accepted context) (isGroup : Fields.lookup group parameterSpec = some specs)
    (isSpec : Fields.lookup name specs = some Worker.positive) : 0 < context.number group name := by
  rcases accepted.parameters with ⟨value, field, valid⟩
  exact Fusion.numberLeaf_pos valid isGroup isSpec

theorem Accepted.count_ge (accepted : Accepted context) {least : Nat}
    (isGroup : Fields.lookup group parameterSpec = some specs)
    (isSpec : Fields.lookup name specs = some (integerFrom least)) : least ≤ context.count group name := by
  rcases accepted.parameters with ⟨value, field, valid⟩
  rcases integerLeaf_bounds valid isGroup isSpec rfl rfl with ⟨number, isLeaf, bounded, _⟩
  have bound : (least : Rat) ≤ number := bounded ⟨least, _⟩ rfl
  have enough : (least : Int) ≤ number := by exact_mod_cast bound
  rw [AgentContext.count, Fusion.countLeaf, isLeaf, Int.floor_intCast]
  omega

theorem Accepted.valid (accepted : Accepted context) : context.settings.Valid := by
  rcases accepted.parameters with ⟨value, field, valid⟩
  exact Fusion.fusionSettings_valid valid accepted.confident

theorem countLeaf_mono {tree : List (String × PyValue)} {group first second : String}
    (ordered : leafNumber group first tree ≤ leafNumber group second tree) :
    Fusion.countLeaf group first tree ≤ Fusion.countLeaf group second tree :=
  Int.toNat_le_toNat (Int.floor_le_floor ordered)

/-- The windows are at least as long as they have to be. -/
theorem Accepted.windows (accepted : Accepted context) :
    context.settings.minimumScores ≤ context.settings.calibrationWindow ∧
      context.settings.minimumSamples ≤ context.settings.errorWindow := by
  rcases accepted.parameters with ⟨value, field, valid⟩
  have combined := validatedParameterTree_combinations valid
  simp only [validateCombinations, bind_ok_iff, require_ok_iff, exists_const] at combined
  exact ⟨countLeaf_mono combined.2.1, countLeaf_mono combined.2.2.2.2.1⟩

/-! ## Samples and predictions -/

theorem itemsOf_settles {Item : Type} {values : List Item} {indices : List Nat}
    (inside : ∀ index ∈ indices, index < values.length) : Settles enough (itemsOf values indices) fun items =>
      items.length = indices.length ∧ ∀ item ∈ items, item ∈ values := by
  refine Settles.of_arithmetic (mapM_all fun index listed => ?_)
  rcases readAt_total AggregationError.indexError (inside index listed) with ⟨value, found, read⟩
  exact ⟨value, read, List.mem_of_getElem? found⟩

/-- Positions of a part of the samples. -/
theorem Accepted.part (accepted : Accepted context) {indices : List Nat} (listed : indices = context.split.train ∨
    indices = context.split.calibration ∨ indices = context.split.test) :
    ∀ index ∈ indices, index < context.dataset.values.length := by
  intro index member
  refine accepted.inside index ?_
  rw [List.mem_append, List.mem_append]
  rcases listed with rfl | rfl | rfl
  · exact Or.inl (Or.inl member)
  · exact Or.inl (Or.inr member)
  · exact Or.inr member

theorem transform_ok (accepted : Accepted context) {matrix : List (List ℝ)}
    (widths : ∀ row ∈ matrix, row.length = context.width) : exists rows, context.standardization.transform matrix = .ok rows ∧
      rows.length = matrix.length ∧ ∀ row ∈ rows, row.length = context.width := by
  refine mapM_all fun row inside => ?_
  have scaled : ∀ entry ∈ row.zipIdx, exists value, (do
      let center ← readAt AggregationError.indexError context.standardization.means entry.2
      let std ← readAt AggregationError.indexError context.standardization.sampleStds entry.2
      divide (entry.1 - center) std) = .ok value ∧ True := by
    intro entry listed
    have within : entry.2 < context.width := by
      rw [← widths row inside]
      exact (List.getElem?_eq_some_iff.mp (List.mem_zipIdx_iff_getElem?.mp listed)).1
    rcases readAt_total AggregationError.indexError (accepted.means.symm ▸ within :
      entry.2 < context.standardization.means.length) with ⟨center, _, readCenter⟩
    rcases readAt_total AggregationError.indexError (accepted.stds.symm ▸ within :
      entry.2 < context.standardization.sampleStds.length) with ⟨std, found, readStd⟩
    rw [readCenter, ok_bind, readStd, ok_bind, divide, if_neg (accepted.positive std (List.mem_of_getElem? found)).ne']
    exact ⟨_, rfl, trivial⟩
  rcases mapM_all scaled with ⟨values, made, length, _⟩
  exact ⟨values, made, by rw [length, List.length_zipIdx, widths row inside]⟩

theorem queriesAt_settles (accepted : Accepted context) {indices : List Nat}
    (inside : ∀ index ∈ indices, index < context.dataset.values.length) : Settles enough (context.queriesAt indices) fun rows =>
      rows.length = indices.length ∧ ∀ row ∈ rows, row.length = context.width := by
  refine Settles.bind (itemsOf_settles inside) fun values facts => Settles.of_arithmetic ?_
  rcases transform_ok accepted fun row listed => accepted.widths row (facts.2 row listed) with ⟨rows, made, length, widths⟩
  exact ⟨rows, made, length.trans facts.1, widths⟩

variable {invCdf : ℝ -> ℝ}

theorem localGpPredict_settles {model : LocalGPModel ℝ} {width : Nat} (sound : model.Sound width) {queries : List (List ℝ)}
    (widths : ∀ query ∈ queries, query.length = width) :
    Settles enough (arithmetic (localGpPredict (realFunctions invCdf) model queries)) fun predicted =>
      predicted.1.length = queries.length ∧ predicted.2.1.length = queries.length := by
  have each : ∀ query ∈ queries, exists answer, localAnswer (realFunctions invCdf) model query = .ok answer ∧ True :=
    fun query inside => (localAnswer_ok sound (widths query inside)).imp fun answer made => ⟨made.1, trivial⟩
  rcases mapM_all each with ⟨answers, made, length, _⟩
  refine Settles.of_arithmetic ⟨_, by rw [localGpPredict, made, ok_bind]; rfl, ?_, ?_⟩
  · rw [List.length_map, length]
  · rw [List.length_map, length]

theorem blendAt_settles (accepted : Accepted context) {means : List ℝ} {indices : List Nat}
    (inside : ∀ index ∈ indices, index < context.dataset.values.length) (length : means.length = indices.length) :
    Settles enough (context.blendAt means indices) fun values => values.length = indices.length := by
  refine Settles.bind (itemsOf_settles fun index listed => accepted.trends.symm ▸ inside index listed) fun trends areTrends => ?_
  refine Settles.bind (itemsOf_settles fun index listed => accepted.transitionScores.symm ▸ inside index listed)
    fun scores areScores => Settles.ok ?_
  rw [AgentContext.limit, length_applyRateLimit, AgentContext.blend, applyTransitionBlend, List.length_map, List.length_zip,
    List.length_zip, length, areTrends.1, areScores.1, min_self, min_self]

theorem effective_floor (context : AgentContext ℝ) (stds : List ℝ) :
    ∀ std ∈ context.effective stds, context.settings.stdFloor ≤ std := by
  intro std member
  rcases List.mem_map.mp member with ⟨value, _, rfl⟩
  exact le_max_right _ _

theorem length_effective (context : AgentContext ℝ) (stds : List ℝ) : (context.effective stds).length = stds.length :=
  List.length_map _

theorem scores_settles {targets predictions stds : List ℝ} {count : Nat} (targetCount : targets.length = count)
    (predictionCount : predictions.length = count) (stdCount : stds.length = count) (positive : ∀ std ∈ stds, 0 < std) :
    Settles enough (arithmetic (scores targets predictions stds)) fun values => values.length = count := by
  have each : ∀ entry ∈ targets.zip (predictions.zip stds), exists value,
      divide |entry.1 - entry.2.1| entry.2.2 = .ok value ∧ True := by
    intro entry listed
    have isStd := (List.of_mem_zip (List.of_mem_zip listed).2).2
    exact ⟨_, if_neg (positive _ isStd).ne', trivial⟩
  rcases mapM_all each with ⟨values, made, length, _⟩
  refine Settles.of_arithmetic ⟨values, made, ?_⟩
  rw [length, List.length_zip, List.length_zip, targetCount, predictionCount, stdCount, min_self, min_self]

/-- A window is as long as it has to be exactly when there are enough scores. -/
theorem initialWindow_settles (accepted : Accepted context) (label : String) {values : List ℝ} {count : Nat}
    (length : values.length = count) :
    Settles (context.settings.minimumScores ≤ count) (context.initialWindow label values) fun window =>
      context.settings.minimumScores ≤ count ∧ window ≠ [] ∧
        Fusion.initialWindow context.settings (toString context.agent) label (values.map some) = .ok window := by
  have all : (values.map some).filterMap id = values := by
    rw [List.filterMap_map]
    exact List.filterMap_some
  have size : (fromEnd context.settings.calibrationWindow values).length = min context.settings.calibrationWindow count := by
    rw [fromEnd_length accepted.valid.calibrationWindow, length]
  have enough : context.settings.minimumScores ≤ (fromEnd context.settings.calibrationWindow values).length ↔
      context.settings.minimumScores ≤ count := by
    have windows := accepted.windows.1
    rw [size]
    omega
  have opened : Fusion.initialWindow context.settings (toString context.agent) label (values.map some) = (do
      require (context.settings.minimumScores ≤ (fromEnd context.settings.calibrationWindow values).length)
        (.worker "INSUFFICIENT_SAMPLES"
          ("Agent " ++ toString context.agent ++ " has insufficient " ++ label ++ " calibration scores.") "CALIBRATING")
      return fromEnd context.settings.calibrationWindow values) := by
    unfold Fusion.initialWindow
    rw [all]
  unfold AgentContext.initialWindow
  by_cases plenty : context.settings.minimumScores ≤ count
  · rw [opened, require_of _ (enough.mpr plenty)]
    refine Settles.ok ⟨plenty, List.ne_nil_of_length_pos ?_, rfl⟩
    exact accepted.valid.minimumScores.trans_le (enough.mpr plenty)
  · rw [opened, require_refused _ fun wrong => plenty (enough.mp wrong)]
    exact Or.inr ⟨plenty, _, rfl⟩

theorem initialErrors_settles (accepted : Accepted context) (label : String) {targets predictions : List ℝ} {count : Nat}
    (targetCount : targets.length = count) (predictionCount : predictions.length = count) :
    Settles (context.settings.minimumSamples ≤ count) (context.initialErrors label targets predictions) fun window =>
      context.settings.minimumSamples ≤ count ∧ Fusion.initialErrors context.settings (toString context.agent) label targets
        (predictions.map some) = .ok window := by
  have length : (Fusion.squaredErrors targets (predictions.map some)).length = count := by
    have all : Fusion.squaredErrors targets (predictions.map some) =
        (targets.zip predictions).map fun pair => (pair.1 - pair.2) ^ 2 := by
      unfold Fusion.squaredErrors
      rw [List.zip_map_right, List.filterMap_map, ← List.filterMap_eq_map]
      rfl
    rw [all, List.length_map, List.length_zip, targetCount, predictionCount, min_self]
  have enough : context.settings.minimumSamples ≤ (fromEnd context.settings.errorWindow
      (Fusion.squaredErrors targets (predictions.map some))).length ↔ context.settings.minimumSamples ≤ count := by
    have windows := accepted.windows.2
    rw [fromEnd_length accepted.valid.errorWindow, length]
    omega
  unfold AgentContext.initialErrors Fusion.initialErrors
  dsimp only
  by_cases plenty : context.settings.minimumSamples ≤ count
  · rw [require_of _ (enough.mpr plenty)]
    exact Settles.ok ⟨plenty, rfl⟩
  · rw [require_refused _ fun wrong => plenty (enough.mp wrong)]
    exact Or.inr ⟨plenty, _, rfl⟩

/-! ## Local models -/

/-- What a local model leaves for the stages after it. -/
structure LocalFit.Fits (fit : LocalFit ℝ) (context : AgentContext ℝ) : Prop where
  sound : fit.model.Sound context.width
  train : fit.model.xTrain.length = context.split.train.length
  calibrationMean : fit.calibrationMean.length = context.split.calibration.length
  calibrationStd : fit.calibrationStd.length = context.split.calibration.length
  testMean : fit.testMean.length = context.split.test.length
  testStd : fit.testStd.length = context.split.test.length
  testFloor : ∀ std ∈ fit.testStd, context.settings.stdFloor ≤ std
  window : exists scores, Fusion.initialWindow context.settings (toString context.agent) "local" scores = .ok fit.scoreWindow
  calibrated : context.settings.minimumScores ≤ context.split.calibration.length

theorem neighborCount_pos {requested count : Nat} (adaptiveRatio : Rat) (asked : 0 < requested) (present : 0 < count) :
    0 < neighborCount requested adaptiveRatio count := by
  unfold neighborCount
  dsimp only
  split <;> omega

theorem localModel_sound (accepted : Accepted context) {xTrain : List (List ℝ)} {yTrain : List ℝ}
    (xCount : xTrain.length = context.split.train.length) (widths : ∀ row ∈ xTrain, row.length = context.width)
    (yCount : yTrain.length = context.split.train.length) : (context.localModel xTrain yTrain).Sound context.width := by
  have present : 0 < xTrain.length := xCount.symm ▸ List.length_pos_of_ne_nil accepted.train
  constructor
  · exact List.ne_nil_of_length_pos present
  · exact yCount.trans xCount.symm
  · exact widths
  · exact neighborCount_pos _ (accepted.count_ge rfl rfl) present
  · exact (accepted.number_pos rfl rfl).ne'
  · exact lt_max_of_lt_right (accepted.number_pos rfl rfl)

theorem fitLocal_settles (accepted : Accepted context) :
    Settles (context.settings.minimumScores ≤ context.split.calibration.length)
      (fitLocal (realFunctions invCdf) context) fun fit => fit.Fits context := by
  have train := accepted.part (Or.inl rfl)
  have calibration := accepted.part (Or.inr (Or.inl rfl))
  have test := accepted.part (Or.inr (Or.inr rfl))
  refine Settles.bind (queriesAt_settles accepted train) fun xTrain areX => ?_
  refine Settles.bind (itemsOf_settles fun index listed => accepted.targets.symm ▸ train index listed) fun yTrain areY => ?_
  have sound := localModel_sound accepted areX.1 areX.2 areY.1
  refine Settles.bind (queriesAt_settles accepted calibration) fun calibrationX areCalibration => ?_
  refine Settles.bind (queriesAt_settles accepted test) fun testX areTest => ?_
  refine Settles.bind (localGpPredict_settles sound areCalibration.2) fun calibrated areCalibrated => ?_
  refine Settles.bind (localGpPredict_settles sound areTest.2) fun tested areTested => ?_
  refine Settles.bind (blendAt_settles accepted calibration (areCalibrated.1.trans areCalibration.1)) fun mean meanCount => ?_
  refine Settles.bind (blendAt_settles accepted test (areTested.1.trans areTest.1)) fun testMean testCount => ?_
  refine Settles.bind (itemsOf_settles fun index listed => accepted.targets.symm ▸ calibration index listed)
    fun targets areTargets => ?_
  have stdCount : (context.effective calibrated.2.1).length = context.split.calibration.length :=
    (length_effective context _).trans (areCalibrated.2.trans areCalibration.1)
  have positive : ∀ std ∈ context.effective calibrated.2.1, 0 < std := fun std listed =>
    accepted.valid.stdFloor.trans_le (effective_floor context _ std listed)
  refine Settles.bind (scores_settles areTargets.1 meanCount stdCount positive) fun values valueCount => ?_
  refine Settles.bind (initialWindow_settles accepted "local" valueCount) fun window isWindow => ?_
  rcases (Fusion.scoreQuantile_ok isWindow.2.1 : exists q, Fusion.scoreQuantile context.settings window = .ok q) with ⟨q, quantile⟩
  refine Settles.next (congrArg fusing quantile) (Settles.ok ?_)
  exact ⟨sound, areX.1, meanCount, stdCount, testCount, (length_effective context _).trans (areTested.2.trans areTest.1),
    effective_floor context _, ⟨_, isWindow.2.2⟩, isWindow.1⟩

/-! ## Public anchors -/

theorem empiricalQuantile_ok (values : List ℝ) (probability : ℝ) :
    exists quantile, empiricalQuantile values probability = .ok quantile := by
  unfold empiricalQuantile
  by_cases nonempty : values = []
  · exact ⟨none, if_pos nonempty⟩
  · rw [if_neg nonempty]
    dsimp only
    have positive := List.length_pos_of_ne_nil nonempty
    have sorted : (values.insertionSort (· ≤ ·)).length = values.length := List.length_insertionSort _ _
    rcases readAt_total AggregationError.indexError (by rw [sorted]; omega :
      (min (max (⌈min (max probability 0) 1 * (values.length : ℝ)⌉ - 1) 0) (values.length - 1 : Int)).toNat <
        (values.insertionSort (· ≤ ·)).length) with ⟨value, _, read⟩
    rw [read]
    exact ⟨some value, rfl⟩

theorem length_unstandardize {row means stds : List ℝ} {width : Nat} (rowWidth : row.length = width)
    (meanWidth : means.length = width) (stdWidth : stds.length = width) : (unstandardize row means stds).length = width := by
  rw [unstandardize, List.length_map, List.length_zip, List.length_zip, rowWidth, meanWidth, stdWidth, min_self, min_self]

theorem transitionCenters_ok {input : List (List ℝ)} {width : Nat} (widths : ∀ point ∈ input, point.length = width) {count : Int}
    (positive : 0 < count) (iterations seed : Int) : exists centers, transitionCenters input count iterations seed = .ok centers ∧
      ∀ center ∈ centers, center.length = width := by
  unfold transitionCenters
  by_cases empty : input = []
  · exact ⟨[], if_pos empty, fun center listed => absurd listed List.not_mem_nil⟩
  · rw [if_neg empty]
    have present := List.length_pos_of_ne_nil empty
    rcases simpleKmeans_ok ⟨empty, widths⟩ (show 0 < min count (input.length : Int) by omega) iterations seed with
      ⟨centers, made, _, centerWidths⟩
    exact ⟨centers, made, centerWidths⟩

theorem localCenters_settles (accepted : Accepted context) {fit : LocalFit ℝ} (fits : fit.Fits context) :
    Settles enough (localCenters context fit) fun centers =>
      centers ≠ [] ∧ ∀ center ∈ centers, center.length = context.width := by
  have train := accepted.part (Or.inl rfl)
  have uniform : UniformPoints fit.model.xTrain context.width := ⟨fits.sound.trained, fits.sound.widths⟩
  have base := accepted.count_ge (rfl : Fields.lookup "anchors" parameterSpec = some _)
    (rfl : Fields.lookup "base_centers" _ = some (integerFrom 1))
  have transitions := accepted.count_ge (rfl : Fields.lookup "anchors" parameterSpec = some _)
    (rfl : Fields.lookup "transition_centers" _ = some (integerFrom 1))
  have boundaries := accepted.count_ge (rfl : Fields.lookup "anchors" parameterSpec = some _)
    (rfl : Fields.lookup "boundary_centers" _ = some (integerFrom 1))
  refine Settles.bind (itemsOf_settles fun index listed => accepted.transitionScores.symm ▸ train index listed)
    fun scores areScores => ?_
  dsimp only
  rcases simpleKmeans_ok uniform (show (0 : Int) < context.count "anchors" "base_centers" by omega)
    (context.count "anchors" "iterations") (context.count "anchors" "random_seed" + context.agent) with
    ⟨centers, clustered, count, widths⟩
  refine Settles.next (congrArg arithmetic clustered) ?_
  rcases empiricalQuantile_ok scores (context.number "anchors" "transition_quantile") with ⟨threshold, isThreshold⟩
  refine Settles.next (congrArg arithmetic isThreshold) ?_
  have among : ∀ point ∈ (((fit.model.xTrain.zip scores).filter fun entry =>
      threshold.any fun least => decide (least ≤ entry.2)).map Prod.fst), point.length = context.width := by
    intro point listed
    rcases List.mem_map.mp listed with ⟨entry, inside, rfl⟩
    exact fits.sound.widths _ (List.of_mem_zip (List.mem_filter.mp inside).1).1
  rcases transitionCenters_ok among (show (0 : Int) < context.count "anchors" "transition_centers" by omega)
    (context.count "anchors" "iterations") (context.count "anchors" "random_seed" + context.agent + 20) with
    ⟨transition, moved, transitionWidths⟩
  refine Settles.next (congrArg arithmetic moved) ?_
  have present := List.length_pos_of_ne_nil uniform.present
  rcases initialCenters_ok uniform (show 0 < (min (context.count "anchors" "boundary_centers" : Int)
    fit.model.xTrain.length).toNat by omega) false (context.count "anchors" "random_seed" + context.agent + 40) with
    ⟨boundary, drawn, placed, _⟩
  refine Settles.next (congrArg arithmetic (farthestPointSubset_eq (by omega) uniform.present drawn)) (Settles.ok ?_)
  constructor
  · intro nothing
    have some : centers ≠ [] := List.ne_nil_of_length_pos (by omega)
    rcases List.exists_mem_of_ne_nil centers some with ⟨center, listed⟩
    have unique : center ∈ stableUniqueRows (centers ++ transition ++ boundary) :=
      mem_stableUniqueRows.mpr (List.mem_append_left _ (List.mem_append_left _ listed))
    rw [List.map_eq_nil_iff.mp nothing] at unique
    exact List.not_mem_nil unique
  · intro center listed
    rcases List.mem_map.mp listed with ⟨point, unique, rfl⟩
    refine length_unstandardize ?_ accepted.means accepted.stds
    rcases List.mem_append.mp (mem_stableUniqueRows.mp unique) with either | isBoundary
    · rcases List.mem_append.mp either with isBase | isTransition
      · exact widths point isBase
      · exact transitionWidths point isTransition
    · exact (placed.within point isBoundary).length

theorem start_le_foldl_max (counts : List Nat) (start : Nat) : start ≤ counts.foldl max start := by
  induction counts generalizing start with
  | nil => exact le_refl start
  | cons head tail inductionHypothesis => exact (le_max_left start head).trans (inductionHypothesis _)

theorem le_foldl_max {counts : List Nat} {count : Nat} (listed : count ∈ counts) (start : Nat) :
    count ≤ counts.foldl max start := by
  induction counts generalizing start with
  | nil => exact absurd listed List.not_mem_nil
  | cons head tail inductionHypothesis =>
      rcases List.mem_cons.mp listed with rfl | inTail
      · exact (le_max_right start count).trans (start_le_foldl_max tail _)
      · exact inductionHypothesis inTail _

theorem publicAnchors_settles (sha256 : String -> List Nat) {contexts : List (AgentContext ℝ)} (member : context ∈ contexts)
    (accepted : Accepted context) {merged : List (List ℝ)} {width : Nat} (present : merged ≠ [])
    (widths : ∀ center ∈ merged, center.length = width) :
    Settles enough (publicAnchors (realFunctions invCdf) sha256 contexts merged) fun anchors =>
      anchors ≠ [] ∧ ∀ anchor ∈ anchors, anchor.length = width := by
  rcases @standardization_ok invCdf merged width present widths with ⟨means, stds, standardized, scales⟩
  have rows : (merged.mapM fun point => standardizeRow point means stds) = Except.ok (merged.map (scaledRow means stds)) :=
    Cholesky.mapM_eq_map fun row _ => standardizeRow_ok scales.positive
  have meanCount : means.length = width := by rw [scales.means, List.length_ofFn]
  have uniform : UniformPoints (merged.map (scaledRow means stds)) width := by
    refine ⟨fun empty => present (List.map_eq_nil_iff.mp empty), fun point listed => ?_⟩
    rcases List.mem_map.mp listed with ⟨row, inside, rfl⟩
    exact length_scaledRow scales (widths row inside)
  have asked : 10 ≤ context.count "anchors" "public_anchors" := accepted.count_ge rfl rfl
  have most : context.count "anchors" "public_anchors" ≤
      (contexts.map fun context => context.count "anchors" "public_anchors").foldl max 0 := by
    apply le_foldl_max
    exact List.mem_map.mpr ⟨context, member, rfl⟩
  have several := List.length_pos_of_ne_nil uniform.present
  rcases simpleKmeans_ok uniform (show (0 : Int) < min (((contexts.map fun context =>
      context.count "anchors" "public_anchors").foldl max 0 : Nat) : Int) ((merged.map (scaledRow means stds)).length : Int) by omega)
    ((contexts.map fun context => context.count "anchors" "iterations").foldl max 0 : Nat)
    (publicAnchorSeed sha256 (contexts.map fun context => context.count "anchors" "random_seed")) with
    ⟨centers, clustered, count, centerWidths⟩
  unfold publicAnchors
  refine Settles.next (require_of _ present) ?_
  refine Settles.next (congrArg arithmetic standardized) ?_
  refine Settles.next (congrArg arithmetic rows) ?_
  refine Settles.next (congrArg arithmetic clustered) (Settles.ok ?_)
  refine ⟨fun empty => ?_, fun anchor listed => ?_⟩
  · have none := congrArg List.length (List.map_eq_nil_iff.mp empty)
    rw [count, List.length_nil] at none
    omega
  · rcases List.mem_map.mp listed with ⟨center, inside, rfl⟩
    exact length_unstandardize (centerWidths center inside) meanCount scales.count

/-! ## Contributions -/

/-- What an agent contributes at so many anchors. -/
structure Contributes (contribution : AgentContribution ℝ) (anchors : Nat) : Prop where
  means : contribution.anchorMeans.length = anchors
  variances : contribution.anchorVariances.length = anchors
  support : contribution.anchorSupport.length = anchors

theorem trendAndScoreColumns_ok {nLag : Nat} (enough : 5 ≤ nLag) : exists trend score,
    Features.trendAndScoreColumns nLag = .ok (trend, score) ∧ trend < 4 * nLag + 32 ∧ score < 4 * nLag + 32 := by
  have inside (name : String) (listed : name ∈ Features.transitionNames) :
      (Features.orderedNames nLag).idxOf name < 4 * nLag + 32 := by
    rw [← Features.orderedNames_length, List.idxOf_lt_length_iff, Features.orderedNames]
    exact List.mem_append_right _ listed
  refine ⟨_, _, ?_, inside "Iavg_trend" (by decide), inside "transition_score" (by decide)⟩
  rw [Features.trendAndScoreColumns, Features.featureNames, require_of _ enough]
  rfl

theorem readColumn_ok {rows : List (List ℝ)} {column width : Nat} (inside : column < width)
    (widths : ∀ row ∈ rows, row.length = width) : exists values,
      rows.mapM (fun row => readAt AggregationError.indexError row column) = .ok values ∧ values.length = rows.length := by
  refine mapM_length fun row listed => ?_
  rcases readAt_total AggregationError.indexError ((widths row listed).symm ▸ inside : column < row.length) with ⟨value, _, read⟩
  exact ⟨value, read⟩

theorem nearestDistances_ok {training : List (List ℝ)} (present : training ≠ []) (queries : List (List ℝ)) :
    exists distances, nearestDistances (realFunctions invCdf) training queries = .ok distances ∧
      distances.length = queries.length := by
  refine mapM_length fun query _ => ?_
  rcases Simulation.least_ok (fun empty => present (List.map_eq_nil_iff.mp empty) :
    training.map (squaredDistance query) ≠ []) with ⟨nearest, isNearest, _⟩
  rw [isNearest, ok_bind]
  exact ⟨_, rfl⟩

theorem supportAt_ok {denominator : ℝ} (positive : 0 < denominator) (distance : ℝ) :
    exists value, supportAt (realFunctions invCdf) denominator distance = .ok value := by
  rw [supportAt, divide, if_neg positive.ne']
  exact ⟨_, rfl⟩

theorem anchorSupport_ok (scale : ℝ) (entry : ℝ × Nat) :
    exists value, anchorSupport (realFunctions invCdf) context scale entry = .ok value := by
  rcases @supportAt_ok invCdf (max (context.number "support" "scale_multiple" * scale) (1 / 10 ^ 8))
    (lt_max_of_lt_right (by norm_num)) entry.1 with ⟨value, isValue⟩
  rw [anchorSupport, isValue, ok_bind]
  exact ⟨_, rfl⟩

theorem calibratedVariances_ok (laws : (realFunctions invCdf).Laws) (accepted : Accepted context)
    (band : ℝ -> ℝ) (stds : List ℝ) : exists variances,
      (stds.mapM fun std => Fusion.calibratedVariance (realFunctions invCdf) context.settings (band std)) = .ok variances ∧
        variances.length = stds.length := by
  refine mapM_length fun std _ => ?_
  rcases Fusion.calibratedVariance_ok laws accepted.valid (band std) with ⟨variance, made, _⟩
  exact ⟨variance, made⟩

theorem contribution_settles (laws : (realFunctions invCdf).Laws) (accepted : Accepted context) {fit : LocalFit ℝ}
    (fits : fit.Fits context) {anchors : List (List ℝ)} (widths : ∀ anchor ∈ anchors, anchor.length = context.width) :
    Settles enough (contribution (realFunctions invCdf) context fit anchors) fun made => Contributes made anchors.length := by
  have scaledWidth (point : List ℝ) (inside : point ∈ anchors) :
      (scaledRow context.standardization.means context.standardization.sampleStds point).length = context.width := by
    rw [scaledRow, List.length_map, List.length_zip, List.length_zip, accepted.means, accepted.stds, widths point inside,
      AgentContext.width, min_self, min_self]
  have queries : (anchors.mapM fun point => standardizeRow point context.standardization.means
      context.standardization.sampleStds) =
      Except.ok (anchors.map (scaledRow context.standardization.means context.standardization.sampleStds)) :=
    Cholesky.mapM_eq_map fun row _ => standardizeRow_ok accepted.positive
  have queryWidths : ∀ query ∈ anchors.map (scaledRow context.standardization.means context.standardization.sampleStds),
      query.length = context.width := by
    intro query listed
    rcases List.mem_map.mp listed with ⟨point, inside, rfl⟩
    exact scaledWidth point inside
  have lags : 5 ≤ context.count "feature_state" "nLag" := accepted.count_ge rfl rfl
  rcases trendAndScoreColumns_ok lags with ⟨trend, score, columns, trendInside, scoreInside⟩
  rcases readColumn_ok trendInside widths with ⟨trends, readTrends, trendCount⟩
  rcases readColumn_ok scoreInside widths with ⟨scores, readScores, scoreCount⟩
  unfold contribution
  refine Settles.next (congrArg arithmetic queries) ?_
  refine Settles.bind (localGpPredict_settles fits.sound queryWidths) fun predicted lengths => ?_
  rw [List.length_map] at lengths
  refine Settles.next (congrArg (Except.mapError SimulationFailure.features) columns) ?_
  refine Settles.next (congrArg arithmetic readTrends) ?_
  refine Settles.next (congrArg arithmetic readScores) ?_
  rcases calibratedVariances_ok laws accepted (fun std => Fusion.halfWidth context.settings fit.initialQ
    (max std context.settings.stdFloor)) predicted.2.1 with ⟨variances, areVariances, varianceCount⟩
  refine Settles.next (congrArg fusing areVariances) ?_
  rcases supportScale_ok Real.sqrt middle false fit.model.xTrain 300 with ⟨scale, isScale⟩
  refine Settles.next (congrArg arithmetic isScale) ?_
  rcases @nearestDistances_ok invCdf _ fits.sound.trained (anchors.map (scaledRow context.standardization.means
    context.standardization.sampleStds)) with ⟨distances, areDistances, distanceCount⟩
  refine Settles.next (congrArg arithmetic areDistances) ?_
  rcases mapM_length fun entry (_ : entry ∈ distances.zipIdx) => @anchorSupport_ok context invCdf scale entry with
    ⟨support, areSupport, supportCount⟩
  refine Settles.next (congrArg arithmetic areSupport) (Settles.ok ?_)
  rw [List.length_map] at distanceCount
  rw [List.length_zipIdx] at supportCount
  refine ⟨?_, varianceCount.trans lengths.2, supportCount.trans distanceCount⟩
  dsimp only
  rw [AgentContext.blend, applyTransitionBlend, List.length_map, List.length_zip, List.length_zip, lengths.1, trendCount,
    scoreCount, min_self, min_self]

/-! ## Global models -/

/-- What a global model leaves for the loop. -/
structure GlobalFit.Fits (made : GlobalFit ℝ) (context : AgentContext ℝ) : Prop where
  testMean : made.testMean.length = context.split.test.length
  testStd : made.testStd.length = context.split.test.length
  testFloor : ∀ std ∈ made.testStd, context.settings.stdFloor ≤ std
  testSupport : made.testSupport.length = context.split.test.length
  scoreWindow : exists scores, Fusion.initialWindow context.settings (toString context.agent) "global" scores =
    .ok made.scoreWindow
  fusedScoreWindow : exists scores, Fusion.initialWindow context.settings (toString context.agent) "fused" scores =
    .ok made.fusedScoreWindow
  errors : exists targets localMean globalMean,
    Fusion.initialErrors context.settings (toString context.agent) "local" targets localMean = .ok made.localErrorWindow ∧
      Fusion.initialErrors context.settings (toString context.agent) "global" targets globalMean = .ok made.globalErrorWindow

/-- Estimates of so many anchors for each of the agents. -/
structure Estimated (estimates : List (AnchorEstimate ℝ)) (anchors : Nat) : Prop where
  count : estimates.length = anchors
  looMeans : ∀ estimate ∈ estimates, estimate.looMeans.length = 3
  looVariances : ∀ estimate ∈ estimates, estimate.looVariances.length = 3

theorem leftOut_ok {estimates : List (AnchorEstimate ℝ)} {field : AnchorEstimate ℝ -> List ℝ}
    (three : ∀ estimate ∈ estimates, (field estimate).length = 3) (agent : context.agent ∈ [1, 2, 3]) :
    exists values, leftOut context field estimates = .ok values ∧ values.length = estimates.length := by
  have inside : context.agent - 1 < 3 := by
    have listed : context.agent = 1 ∨ context.agent = 2 ∨ context.agent = 3 := by simpa using agent
    omega
  rcases mapM_length fun estimate (listed : estimate ∈ estimates) => by
      rcases readAt_total AggregationError.indexError ((three estimate listed).symm ▸ inside :
        context.agent - 1 < (field estimate).length) with ⟨value, _, read⟩
      exact ⟨value, read⟩ with ⟨values, made, length⟩
  exact ⟨values, congrArg arithmetic made, length⟩

theorem surrogateSettings_valid (accepted : Accepted context) :
    (surrogateSettings context.parameters : SurrogateSettings ℝ).Valid where
  ell := (@Accepted.number_pos context "global_surrogate" "ell" _ accepted rfl rfl).ne'
  minimumRegularization := @Accepted.number_pos context "global_surrogate" "minimum_regularization" _ accepted rfl rfl
  choleskyAttempts := @Accepted.count_ge context "global_surrogate" "cholesky_attempts" _ accepted 1 rfl rfl

theorem surrogateSupport_ok {settings : SurrogateSettings ℝ} {x : List (List ℝ)} {y noise : List ℝ} {varianceFloor : ℝ}
    {width : Nat} {model : SurrogateGPModel ℝ} (fits : model.Fits settings x y noise varianceFloor width) (present : x ≠ [])
    (scaleMultiple minimumWeight : ℝ) (queries : List (List ℝ)) : exists values,
      surrogateSupport (realFunctions invCdf) scaleMultiple minimumWeight model queries = .ok values ∧
        values.length = queries.length := by
  have standardized : (queries.mapM fun query => standardizeRow query model.meanX model.stdX) =
      Except.ok (queries.map (scaledRow model.meanX model.stdX)) :=
    Cholesky.mapM_eq_map fun row _ => standardizeRow_ok fits.scales.positive
  have some : model.xTrain ≠ [] := by
    rw [fits.points]
    exact fun empty => present (List.map_eq_nil_iff.mp empty)
  rcases @nearestDistances_ok invCdf _ some (queries.map (scaledRow model.meanX model.stdX)) with ⟨distances, areDistances, length⟩
  rcases mapM_length fun distance (_ : distance ∈ distances) => by
      rcases @supportAt_ok invCdf (max (scaleMultiple * model.supportScale) (1 / 10 ^ 8)) (lt_max_of_lt_right (by norm_num))
        distance with ⟨value, isValue⟩
      exact ⟨if value < minimumWeight then 0 else min (max value 0) 1, (by rw [isValue, ok_bind]; rfl : (do
        let value ← supportAt (realFunctions invCdf) (max (scaleMultiple * model.supportScale) (1 / 10 ^ 8)) distance
        return if value < minimumWeight then 0 else min (max value 0) 1) = _)⟩ with ⟨values, made, count⟩
  refine ⟨values, ?_, by rw [count, length, List.length_map]⟩
  rw [surrogateSupport, standardized, ok_bind, areDistances, ok_bind]
  exact made

theorem rmse_ok {actual predicted : List ℝ} (present : actual ≠ []) (others : predicted ≠ []) :
    exists error, rmse (realFunctions invCdf) actual predicted = .ok error := by
  have nonempty : (actual.zip predicted).map (fun entry => (entry.1 - entry.2) ^ 2) ≠ [] := by
    refine List.ne_nil_of_length_pos ?_
    rw [List.length_map, List.length_zip]
    exact lt_min (List.length_pos_of_ne_nil present) (List.length_pos_of_ne_nil others)
  rw [rmse, mean_ok nonempty, ok_bind]
  exact ⟨_, rfl⟩

theorem length_blendModels {alpha : ℝ} {localMean globalMean gates : List ℝ} {count : Nat} (locals : localMean.length = count)
    (globals : globalMean.length = count) (gateCount : gates.length = count) :
    (blendModels alpha localMean globalMean gates).length = count := by
  rw [blendModels, List.length_map, List.length_zip, List.length_zip, locals, globals, gateCount, min_self, min_self]

theorem chooseAlpha_ok {targets localMean globalMean gates : List ℝ} {count : Nat} (positive : 0 < count)
    (targetCount : targets.length = count) (locals : localMean.length = count) (globals : globalMean.length = count)
    (gateCount : gates.length = count) : exists chosen,
      chooseAlpha (realFunctions invCdf) context targets localMean globalMean gates = .ok chosen ∧ chosen.2.length = count := by
  have present {values : List ℝ} (length : values.length = count) : values ≠ [] := List.ne_nil_of_length_pos (length ▸ positive)
  have blended := @length_blendModels (optimizeAlpha targets localMean globalMean context.settings.maximumGlobalWeight)
    localMean globalMean gates count locals globals gateCount
  rcases @rmse_ok invCdf targets localMean (present targetCount) (present locals) with ⟨localError, isLocal⟩
  rcases @rmse_ok invCdf targets _ (present targetCount) (present blended) with ⟨blendedError, isBlended⟩
  unfold chooseAlpha
  dsimp only
  rw [isLocal, ok_bind, isBlended, ok_bind]
  refine ⟨_, rfl, ?_⟩
  split
  · exact locals
  · exact blended

theorem fusedDeviations_pos (laws : (realFunctions invCdf).Laws) (accepted : Accepted context) {alpha : ℝ}
    {localMean globalMean localVariance globalVariance gates : List ℝ} :
    ∀ std ∈ fusedDeviations (realFunctions invCdf) context.settings alpha localMean globalMean localVariance globalVariance gates,
      0 < std := by
  intro std listed
  rcases List.mem_map.mp listed with ⟨entry, _, rfl⟩
  exact laws.sqrt_pos _ (lt_max_of_lt_right accepted.valid.varianceFloor)

theorem fitGlobal_settles (laws : (realFunctions invCdf).Laws) (accepted : Accepted context)
    (agent : context.agent ∈ [1, 2, 3]) {fit : LocalFit ℝ} (fits : fit.Fits context) {anchors : List (List ℝ)}
    (present : anchors ≠ []) (widths : ∀ anchor ∈ anchors, anchor.length = context.width) {estimates : List (AnchorEstimate ℝ)}
    (estimated : Estimated estimates anchors.length) :
    Settles (context.settings.minimumSamples ≤ context.split.calibration.length)
      (fitGlobal (realFunctions invCdf) context fit anchors estimates) fun made =>
        made.Fits context ∧ context.settings.minimumSamples ≤ context.split.calibration.length := by
  have calibration := accepted.part (Or.inr (Or.inl rfl))
  have test := accepted.part (Or.inr (Or.inr rfl))
  have positive : 0 < context.split.calibration.length := accepted.valid.minimumScores.trans_le fits.calibrated
  have valid := surrogateSettings_valid accepted
  have floor : 0 < context.settings.varianceFloor := accepted.valid.varianceFloor
  rcases leftOut_ok estimated.looMeans agent with ⟨looMeans, areMeans, meanCount⟩
  rcases leftOut_ok estimated.looVariances agent with ⟨looVariances, areVariances, varianceCount⟩
  rw [estimated.count] at meanCount varianceCount
  rcases @trainSurrogate_ok invCdf _ anchors looMeans looVariances context.settings.varianceFloor context.width valid floor
    present widths meanCount varianceCount with ⟨model, trained, modelFits⟩
  refine Settles.next areMeans (Settles.next areVariances (Settles.next trained ?_))
  refine Settles.bind (itemsOf_settles calibration) fun calibrationX areCalibration => ?_
  refine Settles.bind (itemsOf_settles test) fun testX areTest => ?_
  rcases surrogatePredict_ok valid floor widths modelFits fun query listed => accepted.widths query (areCalibration.2 query listed)
    with ⟨calibrated, areCalibrated, calibratedAnswers⟩
  rcases surrogatePredict_ok valid floor widths modelFits fun query listed => accepted.widths query (areTest.2 query listed)
    with ⟨tested, areTested, testedAnswers⟩
  have calibratedCount : calibrated.length = context.split.calibration.length :=
    calibratedAnswers.length_eq.symm.trans areCalibration.1
  have testedCount : tested.length = context.split.test.length := testedAnswers.length_eq.symm.trans areTest.1
  refine Settles.next (congrArg arithmetic areCalibrated) (Settles.next (congrArg arithmetic areTested) ?_)
  dsimp only
  have globalCount : (context.limit (calibrated.map Prod.fst)).length = context.split.calibration.length := by
    rw [AgentContext.limit, length_applyRateLimit, List.length_map, calibratedCount]
  have stdCount : (context.effective (calibrated.map Prod.snd)).length = context.split.calibration.length := by
    rw [length_effective, List.length_map, calibratedCount]
  have stdPositive : ∀ std ∈ context.effective (calibrated.map Prod.snd), 0 < std := fun std listed =>
    accepted.valid.stdFloor.trans_le (effective_floor context _ std listed)
  refine Settles.bind (itemsOf_settles fun index listed => accepted.targets.symm ▸ calibration index listed)
    fun targets areTargets => ?_
  refine Settles.bind (scores_settles areTargets.1 globalCount stdCount stdPositive) fun globalScores scoreCount => ?_
  rcases @surrogateSupport_ok invCdf _ _ _ _ _ _ model modelFits present (context.number "support" "scale_multiple")
    (context.number "support" "minimum_weight") calibrationX with ⟨support, areSupport, supportCount⟩
  refine Settles.next (congrArg arithmetic areSupport) ?_
  have gateCount : (support.map fun value => min 1 (value / max context.settings.fullWeightReference machineEpsilon)).length =
      context.split.calibration.length := (List.length_map _).trans (supportCount.trans areCalibration.1)
  rcases @chooseAlpha_ok context invCdf targets fit.calibrationMean _ _ _ positive areTargets.1 fits.calibrationMean
    globalCount gateCount with ⟨chosen, isChosen, chosenCount⟩
  refine Settles.next (congrArg arithmetic isChosen) ?_
  refine Settles.bind ((initialWindow_settles accepted "global" scoreCount).mono fun _ => fits.calibrated)
    fun globalWindow isGlobal => ?_
  rcases (Fusion.scoreQuantile_ok isGlobal.2.1 : exists q, Fusion.scoreQuantile context.settings globalWindow = .ok q)
    with ⟨globalQ, isQ⟩
  refine Settles.next (congrArg fusing isQ) ?_
  rcases calibratedVariances_ok laws accepted (Fusion.halfWidth context.settings fit.initialQ) fit.calibrationStd with
    ⟨localVariances, areLocal, localCount⟩
  refine Settles.next (congrArg fusing areLocal) ?_
  rcases calibratedVariances_ok laws accepted (Fusion.halfWidth context.settings globalQ)
    (context.effective (calibrated.map Prod.snd)) with ⟨globalVariances, areGlobal, globalVarianceCount⟩
  refine Settles.next (congrArg fusing areGlobal) ?_
  have fusedCount : (fusedDeviations (realFunctions invCdf) context.settings chosen.1 fit.calibrationMean
      (context.limit (calibrated.map Prod.fst)) localVariances globalVariances
      (support.map fun value => min 1 (value / max context.settings.fullWeightReference machineEpsilon))).length =
        context.split.calibration.length := by
    rw [fusedDeviations, List.length_map, List.length_zip, List.length_zip, List.length_zip, List.length_zip,
      fits.calibrationMean, globalCount, localCount, fits.calibrationStd, globalVarianceCount, stdCount, gateCount, min_self,
      min_self, min_self, min_self]
  refine Settles.bind (scores_settles areTargets.1 chosenCount fusedCount (fusedDeviations_pos laws accepted))
    fun fusedScores fusedScoreCount => ?_
  rcases @surrogateSupport_ok invCdf _ _ _ _ _ _ model modelFits present (context.number "support" "scale_multiple")
    (context.number "support" "minimum_weight") testX with ⟨testSupport, areTestSupport, testSupportCount⟩
  refine Settles.next (congrArg arithmetic areTestSupport) ?_
  refine Settles.bind ((initialWindow_settles accepted "fused" fusedScoreCount).mono fun _ => fits.calibrated)
    fun fusedWindow isFused => ?_
  refine Settles.bind (initialErrors_settles accepted "local" areTargets.1 fits.calibrationMean) fun localErrors isLocal => ?_
  refine Settles.bind (initialErrors_settles accepted "global" areTargets.1 globalCount) fun globalErrors isErrors =>
    Settles.ok ⟨?_, isLocal.1⟩
  refine ⟨?_, ?_, effective_floor context _, testSupportCount.trans areTest.1, ⟨_, isGlobal.2.2⟩, ⟨_, isFused.2.2⟩,
    ⟨_, _, _, isLocal.2, isErrors.2⟩⟩
  · dsimp only
    rw [AgentContext.limit, length_applyRateLimit, List.length_map, testedCount]
  · dsimp only
    rw [length_effective, List.length_map, testedCount]

end Accepted

/-! ## Whole simulations -/

section Whole

variable {invCdf : ℝ -> ℝ} {sha256 : String -> List Nat} {contexts ordered : List (AgentContext ℝ)} {enough : Prop} {width : Nat}

theorem aggregateAnchor_estimated {varianceFloor : ℝ} {raw means variances : List ℝ} {estimate : AnchorEstimate ℝ}
    (made : aggregateAnchor varianceFloor raw means variances = .ok estimate) :
    estimate.looMeans.length = 3 ∧ estimate.looVariances.length = 3 := by
  simp only [aggregateAnchor, bind_ok_iff, pure_ok_iff] at made
  rcases made with ⟨_, _, _, _, loo, left, rfl⟩
  have length : loo.length = 3 := (mapM_ok_iff.mp left).length_eq.symm
  exact ⟨(List.length_map _).trans length, (List.length_map _).trans length⟩

theorem aggregate_estimated {varianceFloor : ℝ} (floor : 0 < varianceFloor) {contributions : List (AgentContribution ℝ)}
    {anchors : Nat} (complete : Complete contributions anchors) :
    exists estimates, aggregate varianceFloor contributions = .ok estimates ∧ Estimated estimates anchors := by
  rcases aggregate_complete floor complete with ⟨estimates, made, count⟩
  rcases aggregate_ok made with ⟨_, _, _, converted⟩
  have each : ∀ estimate ∈ estimates, estimate.looMeans.length = 3 ∧ estimate.looVariances.length = 3 := by
    intro estimate listed
    rcases List.getElem?_of_mem listed with ⟨index, found⟩
    rcases List.getElem?_eq_some_iff.mp found with ⟨inside, rfl⟩
    have related := mapM_ok_iff.mp converted
    have here := related.get (related.length_eq.symm ▸ inside) inside
    simp only [List.get_eq_getElem, bind_ok_iff] at here
    rcases here with ⟨_, _, _, _, _, _, anchored⟩
    exact aggregateAnchor_estimated anchored
  exact ⟨estimates, made, count, fun estimate listed => (each estimate listed).1, fun estimate listed => (each estimate listed).2⟩

theorem validateFeatureWidths_ok (accepted : ∀ context ∈ ordered, Accepted context) :
    validateFeatureWidths ordered = .ok PUnit.unit := by
  have present : ∀ context ∈ ordered, context.dataset.values ≠ [] := by
    intro context listed empty
    rcases List.exists_mem_of_ne_nil _ (accepted context listed).train with ⟨index, member⟩
    have inside := (accepted context listed).part (Or.inl rfl) index member
    rw [empty] at inside
    exact Nat.not_lt_zero index inside
  have widths : ∀ context ∈ ordered,
      (context.dataset.values.headD []).length = 4 * context.count "feature_state" "nLag" + 32 := by
    intro context listed
    rcases List.exists_cons_of_ne_nil (present context listed) with ⟨first, rest, split⟩
    rw [split]
    exact (accepted context listed).widths first (split ▸ List.mem_cons_self)
  rw [validateFeatureWidths, require_of _ present]
  exact require_of _ widths

theorem sharedFloor_ok (present : ordered ≠ []) (accepted : ∀ context ∈ ordered, Accepted context) :
    exists floor, sharedFloor ordered = .ok floor ∧ 0 < floor := by
  rcases greatest_ok (fun empty => present (List.map_eq_nil_iff.mp empty) :
    (ordered.map fun context => context.settings.varianceFloor) ≠ []) with ⟨floor, isFloor, listed, _⟩
  rcases List.mem_map.mp listed with ⟨context, member, rfl⟩
  exact ⟨_, congrArg arithmetic isFloor, (accepted context member).valid.varianceFloor⟩

/-- What the stages before the loop leave for it. -/
structure Prepared.Fits (prepared : Prepared ℝ) (ordered : List (AgentContext ℝ)) : Prop where
  fits : List.Forall₂ (fun context fit => LocalFit.Fits fit context) ordered prepared.fits
  globals : List.Forall₂ (fun entry made => GlobalFit.Fits made entry.1) (ordered.zip prepared.fits) prepared.globals

theorem prepare_settles (laws : (realFunctions invCdf).Laws) (agents : ordered.map AgentContext.agent = [1, 2, 3])
    (accepted : ∀ context ∈ ordered, Accepted context) (shared : ∀ context ∈ ordered, context.width = width) :
    Settles (∀ context ∈ ordered, context.Enough) (prepare (realFunctions invCdf) sha256 ordered) fun prepared =>
      prepared.Fits ordered ∧ ∀ context ∈ ordered, context.Enough := by
  have three : ordered.length = 3 := by rw [← List.length_map AgentContext.agent, agents]; rfl
  have present : ordered ≠ [] := List.ne_nil_of_length_pos (by rw [three]; exact Nat.succ_pos 2)
  have known : ∀ context ∈ ordered, context.agent ∈ [1, 2, 3] := by
    intro context listed
    rw [← agents]
    exact List.mem_map_of_mem listed
  rcases List.exists_mem_of_ne_nil ordered present with ⟨head, headListed⟩
  refine Settles.next (require_of _ agents) (Settles.next (validateFeatureWidths_ok accepted) ?_)
  refine Settles.bind (Settles.mapM fun context (listed : context ∈ ordered) => by
    exact (fitLocal_settles (accepted context listed)).mono fun plenty => (plenty context listed).1) fun fits areFits => ?_
  have fitsAt (entry : AgentContext ℝ × LocalFit ℝ) (listed : entry ∈ ordered.zip fits) : LocalFit.Fits entry.2 entry.1 :=
    List.forall₂_zip areFits listed
  have listedAt (entry : AgentContext ℝ × LocalFit ℝ) (listed : entry ∈ ordered.zip fits) : entry.1 ∈ ordered :=
    (List.of_mem_zip listed).1
  have zipped : (ordered.zip fits).length = 3 := by rw [List.length_zip, ← areFits.length_eq, min_self, three]
  refine Settles.bind (Settles.mapM fun entry (listed : entry ∈ ordered.zip fits) =>
    localCenters_settles (accepted _ (listedAt entry listed)) (fitsAt entry listed)) fun centers areCenters => ?_
  have flattened : centers.flatten ≠ [] ∧ ∀ center ∈ centers.flatten, center.length = width := by
    constructor
    · intro empty
      have none := List.flatten_eq_nil_iff.mp empty
      have several : centers ≠ [] :=
        List.ne_nil_of_length_pos (by rw [← areCenters.length_eq, zipped]; exact Nat.succ_pos 2)
      rcases List.exists_mem_of_ne_nil centers several with ⟨own, listed⟩
      rcases forall₂_left areCenters listed with ⟨entry, _, nonempty, _⟩
      exact nonempty (none own listed)
    · intro center member
      rcases List.mem_flatten.mp member with ⟨own, listed, inside⟩
      rcases forall₂_left areCenters listed with ⟨entry, entryListed, _, widths⟩
      exact (widths center inside).trans (shared _ (listedAt entry entryListed))
  refine Settles.bind (publicAnchors_settles sha256 headListed (accepted head headListed) flattened.1 flattened.2)
    fun anchors areAnchors => ?_
  have widthsAt (entry : AgentContext ℝ × LocalFit ℝ) (listed : entry ∈ ordered.zip fits) :
      ∀ anchor ∈ anchors, anchor.length = entry.1.width := fun anchor inside =>
    (areAnchors.2 anchor inside).trans (shared _ (listedAt entry listed)).symm
  refine Settles.bind (Settles.mapM fun entry (listed : entry ∈ ordered.zip fits) =>
    contribution_settles laws (accepted _ (listedAt entry listed)) (fitsAt entry listed) (widthsAt entry listed))
    fun contributions areContributions => ?_
  have complete : Complete contributions anchors.length := by
    have each : ∀ item ∈ contributions, Contributes item anchors.length := fun item listed =>
      (forall₂_left areContributions listed).elim fun entry both => both.2
    exact ⟨areContributions.length_eq.symm.trans zipped, fun item listed => (each item listed).means,
      fun item listed => (each item listed).variances, fun item listed => (each item listed).support⟩
  rcases sharedFloor_ok present accepted with ⟨floor, isFloor, floorPositive⟩
  refine Settles.next isFloor ?_
  rcases aggregate_estimated floorPositive complete with ⟨estimates, aggregated, estimated⟩
  refine Settles.next (congrArg arithmetic aggregated) ?_
  refine Settles.bind (Settles.mapM fun entry (listed : entry ∈ ordered.zip fits) =>
    (fitGlobal_settles laws (accepted _ (listedAt entry listed)) (known _ (listedAt entry listed)) (fitsAt entry listed)
      areAnchors.1 (widthsAt entry listed) estimated).mono fun plenty => (plenty _ (listedAt entry listed)).2)
    fun globals areGlobals => Settles.ok ?_
  refine ⟨⟨areFits, areGlobals.imp fun _ _ => And.left⟩, fun context listed => ?_⟩
  rcases List.getElem?_of_mem listed with ⟨index, found⟩
  rcases List.getElem?_eq_some_iff.mp found with ⟨inside, rfl⟩
  have fitInside : index < fits.length := areFits.length_eq ▸ inside
  have zipInside : index < (ordered.zip fits).length := by
    rw [List.length_zip]
    exact lt_min inside fitInside
  have madeInside : index < globals.length := areGlobals.length_eq ▸ zipInside
  have isLocal := areFits.get inside fitInside
  have isGlobal := areGlobals.get zipInside madeInside
  simp only [List.get_eq_getElem, List.getElem_zip] at isLocal isGlobal
  exact ⟨isLocal.calibrated, isGlobal.2⟩

theorem onlineFuse_ok (laws : (realFunctions invCdf).Laws) {context : AgentContext ℝ} (accepted : Accepted context)
    {fit : LocalFit ℝ} {made : GlobalFit ℝ} (fits : fit.Fits context) (makes : made.Fits context) :
    exists rows, Fusion.onlineFuse (realFunctions invCdf) (fusionContext context fit made) = .ok rows ∧
      rows.length = context.split.test.length ∧ ∀ row ∈ rows, row.prediction.Bounded context.settings := by
  have test := accepted.part (Or.inr (Or.inr rfl))
  rcases fits.window with ⟨localScores, isLocal⟩
  rcases makes.scoreWindow with ⟨globalScores, isGlobal⟩
  rcases makes.fusedScoreWindow with ⟨fusedScores, isFused⟩
  rcases makes.errors with ⟨targets, localMean, globalMean, localErrors, globalErrors⟩
  have prepared : Fusion.Prepared { localScores, globalScores, fusedScores, targets, localMean, globalMean }
      (fusionContext context fit made) := {
    someTest := List.length_pos_of_ne_nil accepted.test
    localTestMean := fits.testMean, localTestStd := fits.testStd, globalTestMean := makes.testMean
    globalTestStd := makes.testStd, globalTestSupport := makes.testSupport
    targets := fun index listed => accepted.targets.symm ▸ test index listed
    sourceRows := fun index listed => accepted.sourceRows.symm ▸ test index listed
    localFloor := fits.testFloor, globalFloor := makes.testFloor, localScoreWindow := isLocal
    globalScoreWindow := isGlobal, fusedScoreWindow := isFused, localErrorWindow := localErrors
    globalErrorWindow := globalErrors }
  have valid : (Fusion.fusionSettings (fusionContext context fit made).parameters : Fusion.FusionSettings ℝ).Valid :=
    accepted.valid
  rcases Fusion.initialState_ok valid prepared with ⟨first, started, follows⟩
  have nothing : Fusion.Counted ([] : List (Fusion.FusionRow ℝ)) := fun index row found => by cases found
  rcases Fusion.fuseFrom_ok laws valid prepared (fun entry listed => List.mem_of_mem_take listed) follows nothing with
    ⟨rows, last, ran, length, bounded, _⟩
  refine ⟨rows, ?_, ?_, bounded⟩
  · rw [Fusion.onlineFuse, Fusion.fuseFirst]
    rw [started, ok_bind, ran, ok_bind]
    rfl
  · rw [length, List.length_take, List.length_zipIdx, min_self]
    rfl

/-- An agent with thirty samples that are all the same. -/
noncomputable def steadyContext (agent : Nat) : AgentContext ℝ where
  agent
  parameters := Fusion.Sample.parameters
  dataset :=
    { values := List.replicate 30 (List.replicate (4 * Fusion.countLeaf "feature_state" "nLag" Fusion.Sample.parameters + 32) 0)
      targets := List.replicate 30 1, trends := List.replicate 30 1, transitionScores := List.replicate 30 0
      sourceRows := List.replicate 30
        { iavgRaw := 1, zlRaw := 1, iimbRaw := 0, isSpikeSample := false, motorZeroWarning := false } }
  split := { train := [0, 1], calibration := List.range 25, test := [27, 28] }
  standardization :=
    { means := List.replicate (4 * Fusion.countLeaf "feature_state" "nLag" Fusion.Sample.parameters + 32) 0
      sampleStds := List.replicate (4 * Fusion.countLeaf "feature_state" "nLag" Fusion.Sample.parameters + 32) 1 }

theorem steadyContext_accepted (agent : Nat) : Accepted (steadyContext agent) where
  parameters := ⟨_, _, Fusion.Sample.accepted⟩
  confident := Fusion.Sample.leaves.2.2.2.2.2
  widths := fun row listed => by
    rw [List.eq_of_mem_replicate listed]
    exact List.length_replicate
  targets := List.length_replicate.trans List.length_replicate.symm
  trends := List.length_replicate.trans List.length_replicate.symm
  transitionScores := List.length_replicate.trans List.length_replicate.symm
  sourceRows := List.length_replicate.trans List.length_replicate.symm
  inside := fun index listed => by
    have below : index < 30 := (show ∀ index ∈ [0, 1] ++ List.range 25 ++ [27, 28], index < 30 by decide) index listed
    exact below.trans_eq List.length_replicate.symm
  train := List.cons_ne_nil _ _
  test := List.cons_ne_nil _ _
  means := List.length_replicate
  stds := List.length_replicate
  positive := fun std listed => List.eq_of_mem_replicate listed ▸ one_pos

theorem steadyContext_enough (agent : Nat) : (steadyContext agent).Enough := by
  rcases Fusion.Sample.leaves with ⟨_, scores, _, samples, _⟩
  constructor
  · change Fusion.countLeaf "interval" "minimum_scores" Fusion.Sample.parameters ≤ 25
    omega
  · change Fusion.countLeaf "fusion" "minimum_samples" Fusion.Sample.parameters ≤ 25
    omega

end Whole

end Simulation
end Worker
end FederatedIot
