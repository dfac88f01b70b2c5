import FederatedIot.Worker.Fusion
import FederatedIot.Worker.AgentTrees
import Mathlib.Analysis.Convex.Basic

namespace FederatedIot
namespace Worker
namespace Fusion

open Foundation Foundation.Outcome Foundation.Windows

/-!
# Runs of the fusion

Every limit of a row comes from a clamp of one pass, so it needs the limits of the
parameters only.  The windows, the counts and the runs are carried from pass to pass:
after any number of rows they are what the calibration and the rows so far determine.
-/

section

variable {K : Type} [Field K] [LinearOrder K]

/-! ## What is assumed and what holds -/

/-- What the loop relies on: roots of positive numbers and quantiles above the median are positive. -/
structure Functions.Laws (functions : Functions K) : Prop where
  sqrt_pos : forall value : K, 0 < value -> 0 < functions.sqrt value
  invCdf_pos : forall probability : K, 1 / 2 < probability -> probability < 1 -> 0 < functions.invCdf probability

/-- The limits of the parameters that the loop relies on. -/
structure FusionSettings.Valid (settings : FusionSettings K) : Prop where
  confidence : 0 < settings.confidence ∧ settings.confidence < 1
  calibrationWindow : 0 < settings.calibrationWindow
  minimumScores : 0 < settings.minimumScores
  stdFloor : 0 < settings.stdFloor
  halfWidths : settings.halfWidthMin ≤ settings.halfWidthMax
  updateMode : settings.updateMode = "all_finite"
  varianceFloor : 0 < settings.varianceFloor
  maximumGlobalWeight : 0 ≤ settings.maximumGlobalWeight ∧ settings.maximumGlobalWeight ≤ 1
  errorWindow : 0 < settings.errorWindow
  minimumSamples : 0 < settings.minimumSamples

/-- What the calibration of an agent hands to the windows. -/
structure Calibration (K : Type) where
  localScores : List (Option K)
  globalScores : List (Option K)
  fusedScores : List (Option K)
  targets : List K
  localMean : List (Option K)
  globalMean : List (Option K)

/-- The context of an agent after the stages before the loop. -/
structure Prepared (calibration : Calibration K) (context : FusionContext K) : Prop where
  someTest : 0 < context.test.length
  localTestMean : context.runtime.localTestMean.length = context.test.length
  localTestStd : context.runtime.localTestStd.length = context.test.length
  globalTestMean : context.runtime.globalTestMean.length = context.test.length
  globalTestStd : context.runtime.globalTestStd.length = context.test.length
  globalTestSupport : context.runtime.globalTestSupport.length = context.test.length
  targets : ∀ index ∈ context.test, index < context.targets.length
  sourceRows : ∀ index ∈ context.test, index < context.sourceRows.length
  localFloor : ∀ std ∈ context.runtime.localTestStd, (fusionSettings context.parameters).stdFloor ≤ std
  globalFloor : ∀ std ∈ context.runtime.globalTestStd, (fusionSettings context.parameters).stdFloor ≤ std
  localScoreWindow : initialWindow (fusionSettings context.parameters) (toString context.agent) "local"
    calibration.localScores = .ok context.runtime.localScoreWindow
  globalScoreWindow : initialWindow (fusionSettings context.parameters) (toString context.agent) "global"
    calibration.globalScores = .ok context.runtime.globalScoreWindow
  fusedScoreWindow : initialWindow (fusionSettings context.parameters) (toString context.agent) "fused"
    calibration.fusedScores = .ok context.runtime.fusedScoreWindow
  localErrorWindow : initialErrors (fusionSettings context.parameters) (toString context.agent) "local"
    calibration.targets calibration.localMean = .ok context.runtime.localErrorWindow
  globalErrorWindow : initialErrors (fusionSettings context.parameters) (toString context.agent) "global"
    calibration.targets calibration.globalMean = .ok context.runtime.globalErrorWindow

/-- The limits of what is settled of a point. -/
structure Prediction.Bounded (settings : FusionSettings K) (prediction : Prediction K) : Prop where
  alphaRaw : 0 ≤ prediction.weights.alphaRaw ∧ prediction.weights.alphaRaw ≤ settings.maximumGlobalWeight
  alpha : 0 ≤ prediction.weights.alpha ∧ prediction.weights.alpha ≤ settings.maximumGlobalWeight
  between : min prediction.point.localPrediction prediction.point.globalPrediction ≤
      prediction.fused.fusedPrediction ∧
    prediction.fused.fusedPrediction ≤ max prediction.point.localPrediction prediction.point.globalPrediction
  localBand : settings.halfWidthMin ≤ prediction.bands.localBand ∧
    prediction.bands.localBand ≤ settings.halfWidthMax
  globalBand : settings.halfWidthMin ≤ prediction.bands.globalBand ∧
    prediction.bands.globalBand ≤ settings.halfWidthMax
  fusedBand : settings.halfWidthMin ≤ prediction.fused.fusedBand ∧
    prediction.fused.fusedBand ≤ settings.halfWidthMax
  localVariance : settings.varianceFloor ≤ prediction.bands.localVariance
  globalVariance : settings.varianceFloor ≤ prediction.bands.globalVariance
  fusedVariance : settings.varianceFloor ≤ prediction.fused.fusedVariance
  oneBetter : prediction.comparison.localBetter = 0 ∨ prediction.comparison.globalBetter = 0

def FusionRow.isHeavy (row : FusionRow K) : Bool :=
  decide (row.loadStatus = .heavy)

def FusionRow.isLight (row : FusionRow K) : Bool :=
  decide (row.loadStatus = .light)

def FusionRow.localScore (row : FusionRow K) : K :=
  |row.target - row.prediction.point.localPrediction| / row.prediction.point.localStd

def FusionRow.globalScore (row : FusionRow K) : K :=
  |row.target - row.prediction.point.globalPrediction| / row.prediction.point.globalStd

def FusionRow.fusedScore (row : FusionRow K) : K :=
  |row.target - row.prediction.fused.fusedPrediction| / row.prediction.fused.fusedStdRaw

def FusionRow.localError (row : FusionRow K) : K :=
  (row.target - row.prediction.point.localPrediction) ^ 2

def FusionRow.globalError (row : FusionRow K) : K :=
  (row.target - row.prediction.point.globalPrediction) ^ 2

/-- All values that a window has been given, in their order. -/
structure Available (K : Type) where
  localScores : List K
  globalScores : List K
  fusedScores : List K
  localErrors : List K
  globalErrors : List K

/-- The finite values of the calibration, and then those of the rows. -/
def available (calibration : Calibration K) (rows : List (FusionRow K)) : Available K where
  localScores := calibration.localScores.filterMap id ++ rows.map FusionRow.localScore
  globalScores := calibration.globalScores.filterMap id ++ rows.map FusionRow.globalScore
  fusedScores := calibration.fusedScores.filterMap id ++ rows.map FusionRow.fusedScore
  localErrors := squaredErrors calibration.targets calibration.localMean ++ rows.map FusionRow.localError
  globalErrors := squaredErrors calibration.targets calibration.globalMean ++ rows.map FusionRow.globalError

/-- A window that holds the last ones of its values, and at least one. -/
structure IsWindow (count : Nat) (values window : List K) : Prop where
  last : window = fromEnd count values
  nonempty : window ≠ []

/-- The windows are what the calibration and the rows determine. -/
structure FusionState.Windows (settings : FusionSettings K) (calibration : Calibration K) (rows : List (FusionRow K))
    (state : FusionState K) : Prop where
  localScores : IsWindow settings.calibrationWindow (available calibration rows).localScores state.localWindow
  globalScores : IsWindow settings.calibrationWindow (available calibration rows).globalScores state.globalWindow
  fusedScores : IsWindow settings.calibrationWindow (available calibration rows).fusedScores state.fusedWindow
  localErrors : IsWindow settings.errorWindow (available calibration rows).localErrors state.localErrors
  globalErrors : IsWindow settings.errorWindow (available calibration rows).globalErrors state.globalErrors

/-- The counts of a row are the runs that it ends. -/
def Counted (rows : List (FusionRow K)) : Prop :=
  forall index row, rows[index]? = some row ->
    row.highCount = streak FusionRow.isHeavy (rows.take (index + 1)) ∧
      row.lowCount = streak FusionRow.isLight (rows.take (index + 1)) ∧ (row.highCount = 0 ∨ row.lowCount = 0)

/-- What is carried from pass to pass. -/
structure FusionState.Follows (settings : FusionSettings K) (calibration : Calibration K) (rows : List (FusionRow K))
    (state : FusionState K) : Prop where
  windows : state.Windows settings calibration rows
  oneBetter : state.localBetter = 0 ∨ state.globalBetter = 0
  high : state.highCount = streak FusionRow.isHeavy rows
  low : state.lowCount = streak FusionRow.isLight rows

variable [IsStrictOrderedRing K] [FloorRing K] {functions : Functions K} {settings : FusionSettings K}

/-! ## One pass -/

omit [Field K] [LinearOrder K] [IsStrictOrderedRing K] [FloorRing K] in
theorem item_ok {values : List K} {index : Nat} (inside : index < values.length) :
    ∃ value, item values index = .ok value ∧ value ∈ values := by
  refine ⟨values[index], ?_, List.getElem_mem inside⟩
  rw [item, List.getElem?_eq_getElem inside]

omit [Field K] [LinearOrder K] [IsStrictOrderedRing K] [FloorRing K] in
/-- A position kept between the ends of a list. -/
theorem item_between {values : List K} (nonempty : values ≠ []) (position : Int) :
    ∃ value, item values (min (max position 0) (values.length - 1 : Int)).toNat = .ok value := by
  have positive := List.length_pos_of_ne_nil nonempty
  rcases @item_ok K values _ (show (min (max position 0) (values.length - 1 : Int)).toNat < values.length by omega)
    with ⟨value, found, _⟩
  exact ⟨value, found⟩

omit [Field K] [IsStrictOrderedRing K] [FloorRing K] in
theorem sorted_ne_nil {values : List K} (nonempty : values ≠ []) : values.insertionSort (· ≤ ·) ≠ [] := by
  rw [Ne, ← List.length_eq_zero_iff, List.length_insertionSort, List.length_eq_zero_iff]
  exact nonempty

omit [IsStrictOrderedRing K] in
theorem scoreQuantile_ok {values : List K} (nonempty : values ≠ []) :
    ∃ q, scoreQuantile settings values = .ok q := by
  have sorted := sorted_ne_nil nonempty
  simp only [scoreQuantile, bind_ok_iff, pure_ok_iff, require_ok_iff, exists_const]
  rcases item_between sorted (⌈(((values.insertionSort (· ≤ ·)).length + 1 : Nat) : K) * settings.confidence⌉ - 1)
    with ⟨score, found⟩
  exact ⟨_, sorted, score, found, rfl⟩

omit [IsStrictOrderedRing K] in
theorem robustRecentMean_ok {values : List K} (quantile : K) (nonempty : values ≠ [])
    (nonnegative : ∀ value ∈ values, 0 ≤ value) : ∃ recent, robustRecentMean values quantile = .ok recent := by
  have kept : values.filter (fun value => 0 ≤ value) = values :=
    List.filter_eq_self.mpr fun value member => decide_eq_true (nonnegative value member)
  have sorted := sorted_ne_nil nonempty
  simp only [robustRecentMean, kept, bind_ok_iff, require_ok_iff, exists_const]
  rcases item_between sorted (⌈min (max quantile 0) 1 * ((values.insertionSort (· ≤ ·)).length : K)⌉ - 1)
    with ⟨cap, found⟩
  have divisor : (((values.insertionSort (· ≤ ·)).map fun value => min value cap).length : K) ≠ 0 := by
    rw [List.length_map]
    exact_mod_cast List.length_pos_of_ne_nil sorted |>.ne'
  exact ⟨_, sorted, cap, found, if_neg divisor⟩

omit [FloorRing K] in
theorem calibratedVariance_ok (laws : functions.Laws) (valid : settings.Valid) (band : K) :
    ∃ variance, calibratedVariance functions settings band = .ok variance ∧ settings.varianceFloor ≤ variance := by
  have positive : 0 < normalMultiplier functions settings.confidence := by
    rcases valid.confidence with ⟨above, below⟩
    apply laws.invCdf_pos
    · linarith
    · linarith
  simp only [calibratedVariance, quotient, if_neg positive.ne', bind_ok_iff, pure_ok_iff]
  exact ⟨_, ⟨_, rfl, rfl⟩, le_max_right _ _⟩

omit [IsStrictOrderedRing K] [FloorRing K] in
theorem halfWidth_bounds (valid : settings.Valid) (q std : K) :
    settings.halfWidthMin ≤ halfWidth settings q std ∧ halfWidth settings q std ≤ settings.halfWidthMax :=
  ⟨le_clamp valid.halfWidths _, clamp_le _ _ _⟩

/-- The limits of the bands. -/
structure Bands.Bounded (settings : FusionSettings K) (bands : Bands K) : Prop where
  localBand : settings.halfWidthMin ≤ bands.localBand ∧ bands.localBand ≤ settings.halfWidthMax
  globalBand : settings.halfWidthMin ≤ bands.globalBand ∧ bands.globalBand ≤ settings.halfWidthMax
  localVariance : settings.varianceFloor ≤ bands.localVariance
  globalVariance : settings.varianceFloor ≤ bands.globalVariance

theorem bands_ok (laws : functions.Laws) (valid : settings.Valid) {state : FusionState K} (point : FusionPoint K)
    (someLocal : state.localWindow ≠ []) (someGlobal : state.globalWindow ≠ []) (someFused : state.fusedWindow ≠ []) :
    ∃ made, bands functions settings state point = .ok made ∧ made.Bounded settings := by
  rcases @scoreQuantile_ok K _ _ _ settings _ someLocal with ⟨localQ, isLocal⟩
  rcases @scoreQuantile_ok K _ _ _ settings _ someGlobal with ⟨globalQ, isGlobal⟩
  rcases @scoreQuantile_ok K _ _ _ settings _ someFused with ⟨fusedQ, isFused⟩
  rcases calibratedVariance_ok laws valid (halfWidth settings localQ point.localStd) with
    ⟨localVariance, localOk, localFloor⟩
  rcases calibratedVariance_ok laws valid (halfWidth settings globalQ point.globalStd) with
    ⟨globalVariance, globalOk, globalFloor⟩
  simp only [bands, bind_ok_iff, pure_ok_iff]
  exact ⟨_, ⟨_, isLocal, _, isGlobal, _, isFused, _, localOk, _, globalOk, rfl⟩,
    ⟨halfWidth_bounds valid _ _, halfWidth_bounds valid _ _, localFloor, globalFloor⟩⟩

theorem betterCounts_one (globalClear localClear : Bool) {localBetter globalBetter : Nat}
    (one : localBetter = 0 ∨ globalBetter = 0) :
    (betterCounts globalClear localClear localBetter globalBetter).1 = 0 ∨
      (betterCounts globalClear localClear localBetter globalBetter).2 = 0 := by
  unfold betterCounts
  cases globalClear with
  | true => exact Or.inl rfl
  | false =>
      cases localClear with
      | true => exact Or.inr rfl
      | false =>
          change localBetter - 1 = 0 ∨ globalBetter - 1 = 0
          omega

omit [IsStrictOrderedRing K] in
theorem compareModels_ok {state : FusionState K} (support : K) (someLocal : state.localErrors ≠ [])
    (someGlobal : state.globalErrors ≠ []) (localErrors : ∀ error ∈ state.localErrors, 0 ≤ error)
    (globalErrors : ∀ error ∈ state.globalErrors, 0 ≤ error) (one : state.localBetter = 0 ∨ state.globalBetter = 0) :
    ∃ comparison, compareModels settings state support = .ok comparison ∧
      (comparison.localBetter = 0 ∨ comparison.globalBetter = 0) := by
  rcases robustRecentMean_ok settings.winsorQuantile someLocal localErrors with ⟨recentLocal, localOk⟩
  rcases robustRecentMean_ok settings.winsorQuantile someGlobal globalErrors with ⟨recentGlobal, globalOk⟩
  simp only [compareModels, bind_ok_iff, pure_ok_iff]
  exact ⟨_, ⟨_, localOk, _, globalOk, rfl⟩, betterCounts_one _ _ one⟩

omit [IsStrictOrderedRing K] [FloorRing K] in
theorem weights_ok (laws : functions.Laws) (valid : settings.Valid) (fusionAlpha : K) (state : FusionState K)
    (point : FusionPoint K) (made : Bands K) (comparison : Comparison K) :
    ∃ weighed, weights functions settings fusionAlpha state point made comparison = .ok weighed ∧
      (0 ≤ weighed.alphaRaw ∧ weighed.alphaRaw ≤ settings.maximumGlobalWeight) ∧
      (0 ≤ weighed.alpha ∧ weighed.alpha ≤ settings.maximumGlobalWeight) := by
  have root : 0 < functions.sqrt (max (made.localVariance + made.globalVariance) settings.varianceFloor) :=
    laws.sqrt_pos _ (lt_max_of_lt_right valid.varianceFloor)
  have heaviest := valid.maximumGlobalWeight.1
  simp only [weights, quotient, if_neg root.ne', bind_ok_iff, pure_ok_iff]
  exact ⟨_, ⟨_, rfl, rfl⟩, ⟨le_clamp heaviest _, clamp_le _ _ _⟩, ⟨le_clamp heaviest _, clamp_le _ _ _⟩⟩

omit [FloorRing K] in
/-- A weight up to 1 mixes two numbers to one between them. -/
theorem mix_between {alpha first second : K} (least : 0 ≤ alpha) (most : alpha ≤ 1) :
    min first second ≤ (1 - alpha) * first + alpha * second ∧
      (1 - alpha) * first + alpha * second ≤ max first second := by
  have whole : 1 - alpha + alpha = 1 := sub_add_cancel 1 alpha
  exact ⟨Convex.min_le_combo first second (sub_nonneg.mpr most) least whole,
    Convex.combo_le_max first second (sub_nonneg.mpr most) least whole⟩

omit [FloorRing K] in
theorem fuse_ok (laws : functions.Laws) (valid : settings.Valid) (point : FusionPoint K) (made : Bands K) {alpha : K}
    (least : 0 ≤ alpha) (most : alpha ≤ settings.maximumGlobalWeight) :
    ∃ fused, fuse functions settings point made alpha = .ok fused ∧ 0 < fused.fusedStdRaw ∧
      (min point.localPrediction point.globalPrediction ≤ fused.fusedPrediction ∧
        fused.fusedPrediction ≤ max point.localPrediction point.globalPrediction) ∧
      (settings.halfWidthMin ≤ fused.fusedBand ∧ fused.fusedBand ≤ settings.halfWidthMax) ∧
      settings.varianceFloor ≤ fused.fusedVariance := by
  have root : 0 < functions.sqrt (mixtureVariance settings point.localPrediction point.globalPrediction
      made.localVariance made.globalVariance alpha) :=
    laws.sqrt_pos _ (lt_max_of_lt_right valid.varianceFloor)
  rcases calibratedVariance_ok laws valid (halfWidth settings made.fusedQ (functions.sqrt (mixtureVariance settings
    point.localPrediction point.globalPrediction made.localVariance made.globalVariance alpha))) with
    ⟨variance, varianceOk, floor⟩
  simp only [fuse, bind_ok_iff, pure_ok_iff]
  exact ⟨_, ⟨_, varianceOk, rfl⟩, root, mix_between least (most.trans valid.maximumGlobalWeight.2),
    halfWidth_bounds valid _ _, floor⟩

/-- What a pass needs of its variables. -/
structure FusionState.Ready (state : FusionState K) : Prop where
  localWindow : state.localWindow ≠ []
  globalWindow : state.globalWindow ≠ []
  fusedWindow : state.fusedWindow ≠ []
  localErrors : state.localErrors ≠ [] ∧ ∀ error ∈ state.localErrors, 0 ≤ error
  globalErrors : state.globalErrors ≠ [] ∧ ∀ error ∈ state.globalErrors, 0 ≤ error
  oneBetter : state.localBetter = 0 ∨ state.globalBetter = 0

theorem predict_ok (laws : functions.Laws) (valid : settings.Valid) (fusionAlpha : K) {state : FusionState K}
    (ready : state.Ready) (point : FusionPoint K) :
    ∃ prediction, predict functions settings fusionAlpha state point = .ok prediction ∧
      prediction.point = point ∧ 0 < prediction.fused.fusedStdRaw ∧ prediction.Bounded settings := by
  rcases bands_ok laws valid point ready.localWindow ready.globalWindow ready.fusedWindow with
    ⟨made, bandsOk, bounded⟩
  rcases @compareModels_ok K _ _ _ settings state point.support ready.localErrors.1 ready.globalErrors.1
    ready.localErrors.2 ready.globalErrors.2 ready.oneBetter with ⟨comparison, comparisonOk, oneBetter⟩
  rcases weights_ok laws valid fusionAlpha state point made comparison with ⟨weighed, weightsOk, raw, smoothed⟩
  rcases fuse_ok laws valid point made smoothed.1 smoothed.2 with ⟨fused, fuseOk, root, between, band, variance⟩
  simp only [predict, bind_ok_iff, pure_ok_iff]
  exact ⟨_, ⟨made, bandsOk, comparison, comparisonOk, weighed, weightsOk, fused, fuseOk, rfl⟩, rfl, root,
    ⟨raw, smoothed, between, bounded.localBand, bounded.globalBand, band, bounded.localVariance,
      bounded.globalVariance, variance, oneBetter⟩⟩

/-! ## The windows -/

variable {calibration : Calibration K} {rows : List (FusionRow K)} {state : FusionState K}

omit [Field K] [LinearOrder K] [IsStrictOrderedRing K] [FloorRing K] in
theorem IsWindow.push {count : Nat} {values window : List K} (isWindow : IsWindow count values window)
    (positive : 0 < count) (value : K) : IsWindow count (values ++ [value]) (Windows.push count window value) := by
  have last : Windows.push count window value = fromEnd count (values ++ [value]) := by
    rw [isWindow.last, push_fromEnd positive]
  refine ⟨last, ?_⟩
  rw [last, Ne, fromEnd_eq_nil_iff positive]
  exact List.append_ne_nil_of_right_ne_nil _ (List.cons_ne_nil _ _)

omit [Field K] [LinearOrder K] [IsStrictOrderedRing K] [FloorRing K] in
theorem IsWindow.of_initialWindow {agent label : String} {values : List (Option K)} {window : List K}
    (valid : 0 < settings.minimumScores) (made : initialWindow settings agent label values = .ok window) :
    IsWindow settings.calibrationWindow (values.filterMap id) window := by
  simp only [initialWindow, bind_ok_iff, pure_ok_iff, require_ok_iff, exists_const] at made
  rcases made with ⟨enough, rfl⟩
  exact ⟨rfl, List.ne_nil_of_length_pos (Nat.lt_of_lt_of_le valid enough)⟩

omit [LinearOrder K] [IsStrictOrderedRing K] [FloorRing K] in
theorem IsWindow.of_initialErrors {agent label : String} {targets window : List K} {predictions : List (Option K)}
    (valid : 0 < settings.minimumSamples)
    (made : initialErrors settings agent label targets predictions = .ok window) :
    IsWindow settings.errorWindow (squaredErrors targets predictions) window := by
  simp only [initialErrors, bind_ok_iff, pure_ok_iff, require_ok_iff, exists_const] at made
  rcases made with ⟨enough, rfl⟩
  exact ⟨rfl, List.ne_nil_of_length_pos (Nat.lt_of_lt_of_le valid enough)⟩

omit [FloorRing K] in
/-- Errors are squares. -/
theorem errors_nonneg {count : Nat} {targets window : List K} {predictions : List (Option K)}
    {error : FusionRow K -> K} (square : forall row, 0 ≤ error row)
    (isWindow : IsWindow count (squaredErrors targets predictions ++ rows.map error) window) :
    ∀ value ∈ window, 0 ≤ value := by
  intro value member
  rw [isWindow.last] at member
  rcases List.mem_append.mp (mem_of_mem_fromEnd member) with early | late
  · rcases List.mem_filterMap.mp early with ⟨pair, _, found⟩
    rcases Option.map_eq_some_iff.mp found with ⟨estimated, _, rfl⟩
    exact sq_nonneg _
  · rcases List.mem_map.mp late with ⟨row, _, rfl⟩
    exact square row

omit [FloorRing K] in
theorem FusionState.Follows.ready (follows : state.Follows settings calibration rows) : state.Ready where
  localWindow := follows.windows.localScores.nonempty
  globalWindow := follows.windows.globalScores.nonempty
  fusedWindow := follows.windows.fusedScores.nonempty
  localErrors := ⟨follows.windows.localErrors.nonempty,
    errors_nonneg (fun _ => sq_nonneg _) follows.windows.localErrors⟩
  globalErrors := ⟨follows.windows.globalErrors.nonempty,
    errors_nonneg (fun _ => sq_nonneg _) follows.windows.globalErrors⟩
  oneBetter := follows.oneBetter

omit [IsStrictOrderedRing K] [FloorRing K] in
theorem pushScore_eq (valid : settings.Valid) (window : List K) (score : K) :
    pushScore settings window score = Windows.push settings.calibrationWindow window score :=
  if_pos valid.updateMode

omit [IsStrictOrderedRing K] [FloorRing K] in
/-- What a pass hands on when none of its divisors is zero. -/
theorem advance_ok (valid : settings.Valid) (follows : state.Follows settings calibration rows) {row : FusionRow K}
    (localStd : row.prediction.point.localStd ≠ 0) (globalStd : row.prediction.point.globalStd ≠ 0)
    (fusedStd : row.prediction.fused.fusedStdRaw ≠ 0)
    (oneBetter : row.prediction.comparison.localBetter = 0 ∨ row.prediction.comparison.globalBetter = 0)
    (high : row.highCount = streak FusionRow.isHeavy (rows ++ [row]))
    (low : row.lowCount = streak FusionRow.isLight (rows ++ [row])) :
    ∃ next, advance settings state row = .ok next ∧ next.Follows settings calibration (rows ++ [row]) := by
  have grown : available calibration (rows ++ [row]) =
      { localScores := (available calibration rows).localScores ++ [row.localScore]
        globalScores := (available calibration rows).globalScores ++ [row.globalScore]
        fusedScores := (available calibration rows).fusedScores ++ [row.fusedScore]
        localErrors := (available calibration rows).localErrors ++ [row.localError]
        globalErrors := (available calibration rows).globalErrors ++ [row.globalError] } := by
    simp only [available, List.map_append, List.map_cons, List.map_nil, List.append_assoc]
  simp only [advance, quotient, if_neg localStd, if_neg globalStd, if_neg fusedStd, bind_ok_iff, pure_ok_iff]
  refine ⟨_, ⟨_, rfl, _, rfl, _, rfl, rfl⟩, ⟨?_, oneBetter, high, low⟩⟩
  rcases follows.windows with ⟨localScores, globalScores, fusedScores, localErrors, globalErrors⟩
  simp only [pushScore_eq valid]
  constructor
  · rw [grown]
    exact localScores.push valid.calibrationWindow row.localScore
  · rw [grown]
    exact globalScores.push valid.calibrationWindow row.globalScore
  · rw [grown]
    exact fusedScores.push valid.calibrationWindow row.fusedScore
  · rw [grown]
    exact localErrors.push valid.errorWindow row.localError
  · rw [grown]
    exact globalErrors.push valid.errorWindow row.globalError

omit [IsStrictOrderedRing K] [FloorRing K] in
/-- A row continues the runs of the rows before it. -/
theorem observe_counts (follows : state.Follows settings calibration rows) (prediction : Prediction K) (target : K)
    (sourceRow : SourceRow K) {row : FusionRow K} (isRow : observe settings state prediction target sourceRow = row) :
    row.highCount = streak FusionRow.isHeavy (rows ++ [row]) ∧
      row.lowCount = streak FusionRow.isLight (rows ++ [row]) := by
  rw [streak_concat, streak_concat, ← follows.high, ← follows.low, ← isRow]
  exact ⟨if_congr decide_eq_true_iff.symm rfl rfl, if_congr decide_eq_true_iff.symm rfl rfl⟩

/-! ## The loop -/

variable {context : FusionContext K}

/-- One pass of a prepared context. -/
theorem fusePoint_ok (laws : functions.Laws) (valid : (fusionSettings context.parameters : FusionSettings K).Valid)
    (prepared : Prepared calibration context)
    (follows : state.Follows (fusionSettings context.parameters) calibration rows) {entry : Nat × Nat}
    (isEntry : entry ∈ context.test.zipIdx) :
    ∃ row next, fusePoint functions context state entry = .ok (row, next) ∧
      row.prediction.Bounded (fusionSettings context.parameters) ∧
      next.Follows (fusionSettings context.parameters) calibration (rows ++ [row]) ∧
      row.highCount = streak FusionRow.isHeavy (rows ++ [row]) ∧
      row.lowCount = streak FusionRow.isLight (rows ++ [row]) := by
  have position : entry.2 < context.test.length := List.snd_lt_of_mem_zipIdx isEntry
  have source : entry.1 ∈ context.test := List.fst_mem_of_mem_zipIdx isEntry
  rcases @item_ok K context.runtime.localTestMean entry.2 (by rw [prepared.localTestMean]; exact position) with
    ⟨localPrediction, localOk, _⟩
  rcases @item_ok K context.runtime.globalTestMean entry.2 (by rw [prepared.globalTestMean]; exact position) with
    ⟨globalPrediction, globalOk, _⟩
  rcases @item_ok K context.runtime.localTestStd entry.2 (by rw [prepared.localTestStd]; exact position) with
    ⟨localStd, localStdOk, localMember⟩
  rcases @item_ok K context.runtime.globalTestStd entry.2 (by rw [prepared.globalTestStd]; exact position) with
    ⟨globalStd, globalStdOk, globalMember⟩
  rcases @item_ok K context.runtime.globalTestSupport entry.2 (by rw [prepared.globalTestSupport]; exact position) with
    ⟨support, supportOk, _⟩
  rcases @item_ok K context.targets entry.1 (prepared.targets entry.1 source) with ⟨target, targetOk, _⟩
  rcases @item_ok _ context.sourceRows entry.1 (prepared.sourceRows entry.1 source) with ⟨sourceRow, sourceOk, _⟩
  rcases predict_ok laws valid context.runtime.fusionAlpha follows.ready
    { localPrediction, globalPrediction, localStd, globalStd, support } with
    ⟨prediction, predictOk, isPoint, root, bounded⟩
  have localPositive := valid.stdFloor.trans_le (prepared.localFloor localStd localMember)
  have globalPositive := valid.stdFloor.trans_le (prepared.globalFloor globalStd globalMember)
  generalize isRow : observe (fusionSettings context.parameters) state prediction target sourceRow = row
  rcases observe_counts follows prediction target sourceRow isRow with ⟨high, low⟩
  have isPrediction : row.prediction = prediction := by
    rw [← isRow]
    rfl
  rcases advance_ok valid follows (by rw [isPrediction, isPoint]; exact localPositive.ne')
    (by rw [isPrediction, isPoint]; exact globalPositive.ne') (by rw [isPrediction]; exact root.ne')
    (by rw [isPrediction]; exact bounded.oneBetter) high low with ⟨next, advanceOk, nextFollows⟩
  refine ⟨row, next, ?_, by rw [isPrediction]; exact bounded, nextFollows, high, low⟩
  simp only [fusePoint, readPoint, bind_ok_iff, pure_ok_iff]
  exact ⟨_, ⟨_, localOk, _, globalOk, _, localStdOk, _, globalStdOk, _, supportOk, rfl⟩, _, predictOk, _, targetOk, _,
    sourceOk, next, by rw [isRow]; exact advanceOk, by rw [isRow]⟩

omit [Field K] [LinearOrder K] [IsStrictOrderedRing K] [FloorRing K] in
theorem Counted.concat (counted : Counted rows) {row : FusionRow K}
    (high : row.highCount = streak FusionRow.isHeavy (rows ++ [row]))
    (low : row.lowCount = streak FusionRow.isLight (rows ++ [row])) : Counted (rows ++ [row]) := by
  intro index other found
  by_cases before : index < rows.length
  · rw [List.getElem?_append_left before] at found
    rw [List.take_append_of_le_length before]
    exact counted index other found
  · have last := (List.getElem?_eq_some_iff.mp found).1
    rw [List.length_append, List.length_singleton] at last
    obtain rfl : index = rows.length := by omega
    rw [List.getElem?_concat_length, Option.some_inj] at found
    rw [List.take_of_length_le (by simp), ← found]
    refine ⟨high, low, ?_⟩
    rw [high, low]
    apply streak_exclusive
    intro row heavy
    rw [FusionRow.isHeavy, decide_eq_true_eq] at heavy
    rw [FusionRow.isLight, heavy]
    rfl

/-- Any number of passes. -/
theorem fuseFrom_ok (laws : functions.Laws) (valid : (fusionSettings context.parameters : FusionSettings K).Valid)
    (prepared : Prepared calibration context) {entries : List (Nat × Nat)}
    (inside : ∀ entry ∈ entries, entry ∈ context.test.zipIdx)
    (follows : state.Follows (fusionSettings context.parameters) calibration rows) (counted : Counted rows) :
    ∃ more last, fuseFrom functions context state entries = .ok (more, last) ∧ more.length = entries.length ∧
      (∀ row ∈ more, row.prediction.Bounded (fusionSettings context.parameters)) ∧
      last.Follows (fusionSettings context.parameters) calibration (rows ++ more) ∧ Counted (rows ++ more) := by
  induction entries generalizing state rows with
  | nil =>
      refine ⟨[], state, rfl, rfl, fun _ member => absurd member List.not_mem_nil, ?_⟩
      rw [List.append_nil]
      exact ⟨follows, counted⟩
  | cons entry rest inductionHypothesis =>
      rcases fusePoint_ok laws valid prepared follows (inside entry List.mem_cons_self) with
        ⟨row, next, passed, bounded, nextFollows, high, low⟩
      rcases inductionHypothesis (fun other later => inside other (List.mem_cons_of_mem _ later)) nextFollows
        (counted.concat high low) with ⟨more, last, ran, length, allBounded, lastFollows, lastCounted⟩
      rw [List.append_assoc, List.singleton_append] at lastFollows lastCounted
      refine ⟨row :: more, last, ?_, congrArg Nat.succ length, List.forall_mem_cons.mpr ⟨bounded, allBounded⟩,
        lastFollows, lastCounted⟩
      rw [fuseFrom, passed, ok_bind, ran, ok_bind]
      rfl

/-! ## The first pass -/

omit [IsStrictOrderedRing K] in
theorem initialWinnerCounts_ok {localErrors globalErrors : List K} (someLocal : localErrors ≠ [])
    (someGlobal : globalErrors ≠ []) (locals : ∀ error ∈ localErrors, 0 ≤ error)
    (globals : ∀ error ∈ globalErrors, 0 ≤ error) :
    ∃ better, initialWinnerCounts settings localErrors globalErrors = .ok better ∧
      (better.1 = 0 ∨ better.2 = 0) := by
  rcases robustRecentMean_ok settings.winsorQuantile someLocal locals with ⟨localMean, localOk⟩
  rcases robustRecentMean_ok settings.winsorQuantile someGlobal globals with ⟨globalMean, globalOk⟩
  simp only [initialWinnerCounts, bind_ok_iff, pure_ok_iff]
  refine ⟨_, ⟨_, localOk, _, globalOk, rfl⟩, ?_⟩
  split
  · exact Or.inl rfl
  · split
    · exact Or.inr rfl
    · exact Or.inl rfl

theorem initialState_ok (valid : (fusionSettings context.parameters : FusionSettings K).Valid)
    (prepared : Prepared calibration context) :
    ∃ first, initialState (fusionSettings context.parameters) context.runtime = .ok first ∧
      first.Follows (fusionSettings context.parameters) calibration [] := by
  have localErrors := IsWindow.of_initialErrors valid.minimumSamples prepared.localErrorWindow
  have globalErrors := IsWindow.of_initialErrors valid.minimumSamples prepared.globalErrorWindow
  rcases @item_ok K context.runtime.globalTestSupport 0 (by rw [prepared.globalTestSupport]; exact prepared.someTest)
    with ⟨support, supportOk, _⟩
  have squares : forall {predictions : List (Option K)} {window : List K},
      IsWindow (fusionSettings context.parameters : FusionSettings K).errorWindow
        (squaredErrors calibration.targets predictions) window -> ∀ error ∈ window, 0 ≤ error := by
    intro predictions window isWindow
    rw [← List.append_nil (squaredErrors calibration.targets predictions), ← @List.map_nil _ K FusionRow.localError]
      at isWindow
    exact errors_nonneg (fun _ => sq_nonneg _) isWindow
  rcases @initialWinnerCounts_ok K _ _ _ (fusionSettings context.parameters) _ _ localErrors.nonempty
    globalErrors.nonempty (squares localErrors) (squares globalErrors) with ⟨better, betterOk, one⟩
  have start : available calibration [] =
      { localScores := calibration.localScores.filterMap id, globalScores := calibration.globalScores.filterMap id
        fusedScores := calibration.fusedScores.filterMap id
        localErrors := squaredErrors calibration.targets calibration.localMean
        globalErrors := squaredErrors calibration.targets calibration.globalMean } := by
    simp only [available, List.map_nil, List.append_nil]
  simp only [initialState, bind_ok_iff, pure_ok_iff]
  refine ⟨_, ⟨_, supportOk, _, betterOk, rfl⟩, ⟨?_, one, rfl, rfl⟩⟩
  constructor
  · rw [start]
    exact IsWindow.of_initialWindow valid.minimumScores prepared.localScoreWindow
  · rw [start]
    exact IsWindow.of_initialWindow valid.minimumScores prepared.globalScoreWindow
  · rw [start]
    exact IsWindow.of_initialWindow valid.minimumScores prepared.fusedScoreWindow
  · rw [start]
    exact localErrors
  · rw [start]
    exact globalErrors

/-! ## Accepted parameters -/

section

variable {value tree : List (String × PyValue)} {field group name : String} {specs : List (String × FieldSpec)}

omit [LinearOrder K] [IsStrictOrderedRing K] [FloorRing K] in
theorem countLeaf_pos (accepted : validatedParameterTree value field = .ok tree)
    (isGroup : Fields.lookup group parameterSpec = some specs)
    (isSpec : Fields.lookup name specs = some (integerFrom 1)) : 0 < countLeaf group name tree := by
  rcases integerLeaf_bounds accepted isGroup isSpec rfl rfl with ⟨number, isLeaf, least, _⟩
  have bound : ((1 : Nat) : Rat) ≤ number := least ⟨1, _⟩ rfl
  have atLeastOne : 1 ≤ number := by exact_mod_cast bound
  rw [countLeaf, isLeaf, Int.floor_intCast]
  omega

omit [FloorRing K] in
theorem numberLeaf_pos (accepted : validatedParameterTree value field = .ok tree)
    (isGroup : Fields.lookup group parameterSpec = some specs)
    (isSpec : Fields.lookup name specs = some positive) : 0 < (numberLeaf group name tree : K) := by
  have bounds := (numberLeaf_bounds accepted isGroup isSpec rfl rfl).1 ⟨0, _⟩ rfl
  exact Rat.cast_pos.mpr bounds

end

omit [FloorRing K] in
/-- The parameters of an accepted tree are within the limits. -/
theorem fusionSettings_valid {value tree : List (String × PyValue)} {field : String}
    (accepted : validatedParameterTree value field = .ok tree)
    (confident : leafNumber "interval" "confidence" tree < 1) : (fusionSettings tree : FusionSettings K).Valid := by
  have combined := validatedParameterTree_combinations accepted
  simp only [validateCombinations, bind_ok_iff, require_ok_iff, exists_const] at combined
  rcases combined with ⟨_, _, _, halfWidths, _⟩
  have confidence := @numberLeaf_bounds value tree field "interval" "confidence" _ _ accepted rfl rfl rfl rfl
  have weight := @numberLeaf_bounds value tree field "fusion" "maximum_global_weight" _ _ accepted rfl rfl rfl rfl
  have lightest : (0 : Rat) ≤ leafNumber "fusion" "maximum_global_weight" tree := weight.1 ⟨0, _⟩ rfl
  have heaviest : leafNumber "fusion" "maximum_global_weight" tree ≤ ((1 : Nat) : Rat) := weight.2 ⟨1, _⟩ rfl
  have least : (0 : Rat) < leafNumber "interval" "confidence" tree := confidence.1 ⟨0, _⟩ rfl
  rcases @textLeaf_allowed value tree field "interval" "update_mode" _ _ accepted rfl rfl rfl rfl with
    ⟨mode, isMode, allowed⟩
  constructor
  · exact ⟨Rat.cast_pos.mpr least, (Rat.cast_lt.mpr confident).trans_eq Rat.cast_one⟩
  · exact countLeaf_pos accepted rfl rfl
  · exact countLeaf_pos accepted rfl rfl
  · exact numberLeaf_pos accepted rfl rfl
  · exact Rat.cast_le.mpr halfWidths
  · have only := List.mem_singleton.mp (allowed _ rfl)
    change textLeaf "interval" "update_mode" tree = _
    rw [textLeaf, isMode, only]
  · exact numberLeaf_pos accepted rfl rfl
  · exact ⟨Rat.cast_nonneg.mpr lightest, (Rat.cast_le.mpr heaviest).trans_eq (by rw [Nat.cast_one, Rat.cast_one])⟩
  · exact countLeaf_pos accepted rfl rfl
  · exact countLeaf_pos accepted rfl rfl

/-- After every number of rows of a prepared context, every row is within its limits, the counts of the rows are
the runs that they end, and the windows hold the last of their values. -/
theorem online_fusion_invariants {context : FusionContext K} {calibration : Calibration K} (laws : functions.Laws)
    {value : List (String × PyValue)} {field : String}
    (accepted : validatedParameterTree value field = .ok context.parameters)
    (confident : leafNumber "interval" "confidence" context.parameters < 1)
    (prepared : Prepared calibration context) {count : Nat} (within : count ≤ context.test.length) :
    ∃ rows state, fuseFirst functions context count = .ok (rows, state) ∧ rows.length = count ∧
      (∀ row ∈ rows, row.prediction.Bounded (fusionSettings context.parameters)) ∧ Counted rows ∧
      state.Follows (fusionSettings context.parameters) calibration rows ∧
      (count = context.test.length -> onlineFuse functions context = .ok rows) := by
  have valid : (fusionSettings context.parameters : FusionSettings K).Valid := fusionSettings_valid accepted confident
  rcases initialState_ok valid prepared with ⟨first, firstOk, follows⟩
  have nothing : Counted ([] : List (FusionRow K)) := fun index row found => by cases found
  rcases fuseFrom_ok laws valid prepared (fun entry member => List.mem_of_mem_take member) follows nothing with
    ⟨rows, state, ran, length, bounded, last, counted⟩
  rw [List.length_take, List.length_zipIdx, Nat.min_eq_left within] at length
  have passes : fuseFirst functions context count = .ok (rows, state) := by
    rw [fuseFirst, firstOk, ok_bind, ran]
  refine ⟨rows, state, passes, length, bounded, counted, last, ?_⟩
  intro whole
  rw [onlineFuse, ← whole, passes, ok_bind]
  rfl

end

/-! ## A context of one point -/

namespace Sample

/-- Exact on squares. -/
def root (value : Rat) : Rat :=
  (Nat.sqrt value.num.toNat : Rat) / Nat.sqrt value.den

/-- Exact where they are called: at the roots of squares, at 0 and at the quantile of 0.975. -/
def functions : Functions Rat where
  sqrt := root
  exp := fun _ => 1
  invCdf := fun _ => 1959963984540054 / 1000000000000000

theorem functions_laws : functions.Laws where
  sqrt_pos value positive := by
    have numerator : 0 < value.num := Rat.num_pos.mpr positive
    exact div_pos (Nat.cast_pos.mpr (Nat.sqrt_pos.mpr (by omega))) (Nat.cast_pos.mpr (Nat.sqrt_pos.mpr value.den_pos))
  invCdf_pos _ _ _ := by
    change (0 : Rat) < 1959963984540054 / 1000000000000000
    norm_num

def value : List (String × PyValue) :=
  (asDict? (Json.object sampleTree).loads).getD []

@[irreducible] def parameters : List (String × PyValue) :=
  (validatedParameterTree value "parameters").toOption.getD []

theorem accepted : validatedParameterTree value "parameters" = .ok parameters := by
  rcases ok_of_isOk (show (validatedParameterTree value "parameters").isOk = true by decide +kernel) with ⟨tree, ok⟩
  rw [parameters, ok]
  rfl

theorem leaves : countLeaf "interval" "calibration_window" parameters = 300 ∧
    countLeaf "interval" "minimum_scores" parameters = 20 ∧ countLeaf "fusion" "error_window" parameters = 50 ∧
    countLeaf "fusion" "minimum_samples" parameters = 20 ∧
    (numberLeaf "interval" "std_floor" parameters : Rat) ≤ 1 ∧ leafNumber "interval" "confidence" parameters < 1 := by
  decide +kernel

def calibration : Calibration Rat where
  localScores := List.replicate 20 (some 3)
  globalScores := List.replicate 21 (some 4)
  fusedScores := none :: List.replicate 20 (some 3)
  targets := List.replicate 20 10
  localMean := List.replicate 20 (some 10)
  globalMean := List.replicate 20 (some 11)

def context : FusionContext Rat where
  agent := 1
  parameters
  targets := [10, 20]
  sourceRows := List.replicate 2
    { iavgRaw := 20, zlRaw := 1, iimbRaw := 0, isSpikeSample := false, motorZeroWarning := false }
  test := [1]
  runtime :=
    { localTestMean := [10], localTestStd := [1], globalTestMean := [10], globalTestStd := [1]
      globalTestSupport := [1 / 2]
      localScoreWindow := List.replicate 20 3, globalScoreWindow := List.replicate 21 4
      fusedScoreWindow := List.replicate 20 3
      localErrorWindow := List.replicate 20 0, globalErrorWindow := List.replicate 20 1, fusionAlpha := 0 }

theorem window_ok {label : String} {values : List (Option Rat)} {window : List Rat}
    (made : fromEnd 300 (values.filterMap id) = window) (enough : 20 ≤ window.length) :
    initialWindow (fusionSettings parameters) "1" label values = .ok window := by
  rcases leaves with ⟨size, least, _⟩
  simp only [initialWindow, fusionSettings, size, least, made, bind_ok_iff, require_ok_iff, pure_ok_iff, exists_const]
  exact ⟨enough, trivial⟩

theorem errors_ok {label : String} {targets window : List Rat} {predictions : List (Option Rat)}
    (made : fromEnd 50 (squaredErrors targets predictions) = window) (enough : 20 ≤ window.length) :
    initialErrors (fusionSettings parameters) "1" label targets predictions = .ok window := by
  rcases leaves with ⟨_, _, size, least, _⟩
  simp only [initialErrors, fusionSettings, size, least, made, bind_ok_iff, require_ok_iff, pure_ok_iff, exists_const]
  exact ⟨enough, trivial⟩

theorem prepared : Prepared calibration context where
  someTest := by decide
  localTestMean := rfl
  localTestStd := rfl
  globalTestMean := rfl
  globalTestStd := rfl
  globalTestSupport := rfl
  targets := by decide
  sourceRows := by decide
  localFloor std member := by
    rw [List.mem_singleton.mp member]
    exact leaves.2.2.2.2.1
  globalFloor std member := by
    rw [List.mem_singleton.mp member]
    exact leaves.2.2.2.2.1
  localScoreWindow := window_ok rfl (by decide)
  globalScoreWindow := window_ok rfl (by decide)
  fusedScoreWindow := window_ok rfl (by decide)
  localErrorWindow := errors_ok (by decide +kernel) (by decide)
  globalErrorWindow := errors_ok (by decide +kernel) (by decide)

end Sample

theorem online_fusion_invariants_sample :
    ∃ rows state, fuseFirst Sample.functions Sample.context 1 = .ok (rows, state) ∧ rows.length = 1 ∧
      (∀ row ∈ rows, row.prediction.Bounded (fusionSettings Sample.context.parameters)) ∧ Counted rows ∧
      state.Follows (fusionSettings Sample.context.parameters) Sample.calibration rows := by
  rcases @online_fusion_invariants Rat _ _ _ _ Sample.functions Sample.context Sample.calibration
    Sample.functions_laws Sample.value "parameters" Sample.accepted Sample.leaves.2.2.2.2.2 Sample.prepared 1
    (by decide) with ⟨rows, state, ran, length, bounded, counted, follows, _⟩
  exact ⟨rows, state, ran, length, bounded, counted, follows⟩

end Fusion
end Worker
end FederatedIot
