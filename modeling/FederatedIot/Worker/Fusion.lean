import FederatedIot.Foundation.Windows
import FederatedIot.Worker.Aggregation
import FederatedIot.Worker.Parameters
import Mathlib.Algebra.Order.Floor.Ring
import Mathlib.Data.List.Sort

namespace FederatedIot
namespace Worker
namespace Fusion

open Foundation Foundation.Outcome Foundation.Windows

/-!
# Online fusion

The loop over the test part of an agent mixes the local and the global prediction of
each point by a weight that it adapts.  Everything of a point is settled before its
target is read; afterwards the target moves the windows.

The arithmetic is exact.  A division by zero, an index out of range and an infinite
mean end the loop here; the first two end it in the source as well.
-/

inductive FusionFailure where
  | zeroDivision
  | indexError
  /-- `math.inf` would be computed with. -/
  | infinite
  /-- `WorkerFailure` -/
  | worker (code message stage : String)
  deriving DecidableEq

/-- The functions of `math` and `statistics` that the loop calls. -/
structure Functions (K : Type) where
  sqrt : K -> K
  exp : K -> K
  /-- `NormalDist().inv_cdf` -/
  invCdf : K -> K

/-! ## Parameters -/

/-- The parameters that the loop reads. -/
structure FusionSettings (K : Type) where
  confidence : K
  calibrationWindow : Nat
  minimumScores : Nat
  stdFloor : K
  calibrationScaleMin : K
  calibrationScaleMax : K
  halfWidthMin : K
  halfWidthMax : K
  updateMode : String
  varianceFloor : K
  minimumQuerySupport : K
  fullWeightReference : K
  maximumGlobalWeight : K
  errorWindow : Nat
  minimumSamples : Nat
  winMargin : K
  varianceWeight : K
  winsorQuantile : K
  globalClearThreshold : K
  neutralUpperLimit : K
  persistence : Nat
  riseSmoothing : K
  fallSmoothing : K
  disagreementKappa : K
  maximumVarianceRatio : K
  imbalanceThreshold : K
  noticeCount : Nat
  warningCount : Nat
  alarmCount : Nat
  absoluteCurrentThreshold : Option K
  absoluteTensionThreshold : Option K

/-- `int(parameters[group][name])` -/
def countLeaf (group name : String) (tree : List (String × PyValue)) : Nat :=
  ⌊leafNumber group name tree⌋.toNat

def textLeaf (group name : String) (tree : List (String × PyValue)) : String :=
  match leaf group name tree with
  | .str text => text
  | _ => ""

section

variable {K : Type} [Field K] [LinearOrder K]

/-- `float(parameters[group][name])` -/
def numberLeaf (group name : String) (tree : List (String × PyValue)) : K :=
  (leafNumber group name tree : K)

/-- A leaf that may be null. -/
def optionalLeaf (group name : String) (tree : List (String × PyValue)) : Option K :=
  match leaf group name tree with
  | .none => none
  | _ => some (numberLeaf group name tree)

/-- What the loop reads of the parameter tree of a context. -/
def fusionSettings (tree : List (String × PyValue)) : FusionSettings K where
  confidence := numberLeaf "interval" "confidence" tree
  calibrationWindow := countLeaf "interval" "calibration_window" tree
  minimumScores := countLeaf "interval" "minimum_scores" tree
  stdFloor := numberLeaf "interval" "std_floor" tree
  calibrationScaleMin := numberLeaf "interval" "calibration_scale_min" tree
  calibrationScaleMax := numberLeaf "interval" "calibration_scale_max" tree
  halfWidthMin := numberLeaf "interval" "half_width_min" tree
  halfWidthMax := numberLeaf "interval" "half_width_max" tree
  updateMode := textLeaf "interval" "update_mode" tree
  varianceFloor := numberLeaf "interval" "variance_floor" tree
  minimumQuerySupport := numberLeaf "support" "minimum_query_support" tree
  fullWeightReference := numberLeaf "support" "full_weight_reference" tree
  maximumGlobalWeight := numberLeaf "fusion" "maximum_global_weight" tree
  errorWindow := countLeaf "fusion" "error_window" tree
  minimumSamples := countLeaf "fusion" "minimum_samples" tree
  winMargin := numberLeaf "fusion" "win_margin" tree
  varianceWeight := numberLeaf "fusion" "variance_weight" tree
  winsorQuantile := numberLeaf "fusion" "winsor_quantile" tree
  globalClearThreshold := numberLeaf "fusion" "global_clear_threshold" tree
  neutralUpperLimit := numberLeaf "fusion" "neutral_upper_limit" tree
  persistence := countLeaf "fusion" "persistence" tree
  riseSmoothing := numberLeaf "fusion" "rise_smoothing" tree
  fallSmoothing := numberLeaf "fusion" "fall_smoothing" tree
  disagreementKappa := numberLeaf "fusion" "disagreement_kappa" tree
  maximumVarianceRatio := numberLeaf "fusion" "maximum_variance_ratio" tree
  imbalanceThreshold := numberLeaf "alarms" "imbalance_threshold" tree
  noticeCount := countLeaf "alarms" "notice_count" tree
  warningCount := countLeaf "alarms" "warning_count" tree
  alarmCount := countLeaf "alarms" "alarm_count" tree
  absoluteCurrentThreshold := optionalLeaf "alarms" "absolute_current_threshold" tree
  absoluteTensionThreshold := optionalLeaf "alarms" "absolute_tension_threshold" tree

/-! ## Windows -/

/-- `values[index]` -/
def item {Item : Type} (values : List Item) (index : Nat) : Except FusionFailure Item :=
  match values[index]? with
  | some value => .ok value
  | none => .error .indexError

/-- `left / right` -/
def quotient (left right : K) : Except FusionFailure K :=
  if right = 0 then .error .zeroDivision else .ok (left / right)

/-- `_initial_window`.  A score that is not finite is missing. -/
def initialWindow (settings : FusionSettings K) (agent label : String) (values : List (Option K)) :
    Except FusionFailure (List K) := do
  let window := fromEnd settings.calibrationWindow (values.filterMap id)
  require (settings.minimumScores ≤ window.length) (.worker "INSUFFICIENT_SAMPLES"
    ("Agent " ++ agent ++ " has insufficient " ++ label ++ " calibration scores.") "CALIBRATING")
  return window

/-- The squared errors of the predictions that are finite. -/
def squaredErrors (targets : List K) (predictions : List (Option K)) : List K :=
  (targets.zip predictions).filterMap fun pair => pair.2.map fun estimated => (pair.1 - estimated) ^ 2

/-- `_initial_errors` -/
def initialErrors (settings : FusionSettings K) (agent label : String) (targets : List K)
    (predictions : List (Option K)) : Except FusionFailure (List K) := do
  let window := fromEnd settings.errorWindow (squaredErrors targets predictions)
  require (settings.minimumSamples ≤ window.length) (.worker "INSUFFICIENT_SAMPLES"
    ("Agent " ++ agent ++ " has insufficient " ++ label ++ " calibration errors.") "CALIBRATING")
  return window

variable [FloorRing K]

/-- `_score_quantile` -/
def scoreQuantile (settings : FusionSettings K) (values : List K) : Except FusionFailure K := do
  let filtered := values.insertionSort (· ≤ ·)
  require (filtered ≠ []) (.worker "NUMERICAL_FAILURE" "Calibration score window is empty." "TESTING")
  let index := min (max (⌈((filtered.length + 1 : Nat) : K) * settings.confidence⌉ - 1) 0) (filtered.length - 1 : Int)
  let score ← item filtered index.toNat
  return clamp settings.calibrationScaleMin settings.calibrationScaleMax score

/-- `_mean` -/
def mean (values : List K) : Except FusionFailure K :=
  quotient values.sum (values.length : K)

/-- `_robust_recent_mean` -/
def robustRecentMean (values : List K) (quantile : K) : Except FusionFailure K := do
  let filtered := (values.filter fun value => 0 ≤ value).insertionSort (· ≤ ·)
  require (filtered ≠ []) .infinite
  let index := min (max (⌈min (max quantile 0) 1 * (filtered.length : K)⌉ - 1) 0) (filtered.length - 1 : Int)
  let cap ← item filtered index.toNat
  mean (filtered.map fun value => min value cap)

/-! ## Widths and variances -/

/-- `_half_width` -/
def halfWidth (settings : FusionSettings K) (q std : K) : K :=
  clamp settings.halfWidthMin settings.halfWidthMax (q * std)

/-- `_normal_multiplier` -/
def normalMultiplier (functions : Functions K) (confidence : K) : K :=
  functions.invCdf ((1 + confidence) / 2)

/-- The variance of a normal distribution with this half width. -/
def calibratedVariance (functions : Functions K) (settings : FusionSettings K) (band : K) :
    Except FusionFailure K := do
  let std ← quotient band (normalMultiplier functions settings.confidence)
  return max (std ^ 2) settings.varianceFloor

/-- `_mixture_variance`, its last step the root that the loop takes of it -/
def mixtureVariance (settings : FusionSettings K) (localMean globalMean localVariance globalVariance weight : K) : K :=
  let alpha := min (max weight 0) 1
  max ((1 - alpha) * max localVariance settings.varianceFloor + alpha * max globalVariance settings.varianceFloor +
    alpha * (1 - alpha) * (localMean - globalMean) ^ 2) settings.varianceFloor

/-! ## Alarms -/

inductive LoadStatus where
  | heavy
  | light
  | normal
  deriving DecidableEq

def LoadStatus.text : LoadStatus -> String
  | .heavy => "Heavy load"
  | .light => "Light load"
  | .normal => "Normal load"

inductive AlarmLevel where
  | none
  | notice
  | warning
  | alarm
  deriving DecidableEq

def AlarmLevel.text : AlarmLevel -> String
  | .none => "None"
  | .notice => "Notice"
  | .warning => "Warning"
  | .alarm => "Alarm"

def AlarmLevel.rank : AlarmLevel -> Nat
  | .none => 0
  | .notice => 1
  | .warning => 2
  | .alarm => 3

/-- What the alarms read of a source row. -/
structure SourceRow (K : Type) where
  iavgRaw : K
  zlRaw : K
  iimbRaw : K
  isSpikeSample : Bool
  motorZeroWarning : Bool

structure AlarmFields where
  loadLevel : AlarmLevel
  loadReason : String
  dataLevel : AlarmLevel
  dataReason : String
  overallLevel : AlarmLevel
  overallReason : String

/-- `_append_reason` -/
def appendReason (current addition : String) : String :=
  if current = "" then addition else if addition = "" then current else current ++ "; " ++ addition

/-- The level of a run of that length. -/
def loadAlarm (settings : FusionSettings K) (status : LoadStatus) (count : Nat) : AlarmLevel × String :=
  if settings.alarmCount ≤ count then
    (.alarm, if status = .heavy then "Continuous heavy load / possible overload"
      else "Continuous light load / possible empty running")
  else if settings.warningCount ≤ count then
    (.warning, if status = .heavy then "Continuous heavy-load warning" else "Continuous light-load warning")
  else if settings.noticeCount ≤ count then
    (.notice, if status = .heavy then "Single-point heavy-load trend" else "Single-point light-load trend")
  else (.none, "")

/-- One more reason, and the level that it brings. -/
def raise (condition : Bool) (level : AlarmLevel) (addition : String) (current : AlarmLevel × String) :
    AlarmLevel × String :=
  if condition then (level, appendReason current.2 addition) else current

/-- `_alarm_fields` -/
def alarmFields (settings : FusionSettings K) (status : LoadStatus) (highCount lowCount : Nat) (row : SourceRow K) :
    AlarmFields :=
  let count := if status = .heavy then highCount else if status = .light then lowCount else 0
  let load := raise (settings.absoluteTensionThreshold.any fun threshold => threshold < row.zlRaw) .alarm
    "Absolute tension threshold exceeded"
    (raise (settings.absoluteCurrentThreshold.any fun threshold => threshold < row.iavgRaw) .alarm
      "Absolute current threshold exceeded" (loadAlarm settings status count))
  let data := raise (settings.imbalanceThreshold < row.iimbRaw) .warning "Motor imbalance warning"
    (raise row.motorZeroWarning .warning "Motor zero warning"
      (raise row.isSpikeSample .warning "Spike/data-quality abnormality" (.none, "")))
  { loadLevel := load.1, loadReason := load.2, dataLevel := data.1, dataReason := data.2
    overallLevel := if data.1.rank ≤ load.1.rank then load.1 else data.1
    overallReason := appendReason load.2 data.2 }

/-! ## The state of the loop -/

/-- What the stages before the loop leave for it. -/
structure Runtime (K : Type) where
  localTestMean : List K
  localTestStd : List K
  globalTestMean : List K
  globalTestStd : List K
  globalTestSupport : List K
  localScoreWindow : List K
  globalScoreWindow : List K
  fusedScoreWindow : List K
  localErrorWindow : List K
  globalErrorWindow : List K
  fusionAlpha : K

/-- What the loop reads of an `AgentContext`. -/
structure FusionContext (K : Type) where
  agent : Nat
  parameters : List (String × PyValue)
  targets : List K
  sourceRows : List (SourceRow K)
  test : List Nat
  runtime : Runtime K

/-- The variables that a point hands on to the next one. -/
structure FusionState (K : Type) where
  localWindow : List K
  globalWindow : List K
  fusedWindow : List K
  localErrors : List K
  globalErrors : List K
  alphaPrevious : K
  localBetter : Nat
  globalBetter : Nat
  highCount : Nat
  lowCount : Nat

/-- `_initial_winner_counts`: how often the local and the global model have been better -/
def initialWinnerCounts (settings : FusionSettings K) (localErrors globalErrors : List K) :
    Except FusionFailure (Nat × Nat) := do
  let localMean ← robustRecentMean localErrors settings.winsorQuantile
  let globalMean ← robustRecentMean globalErrors settings.winsorQuantile
  return if globalMean ≤ (1 - settings.winMargin) * localMean then (0, settings.persistence)
    else if localMean ≤ (1 - settings.winMargin) * globalMean then (settings.persistence, 0)
    else (0, 0)

/-- The variables before the first point. -/
def initialState (settings : FusionSettings K) (runtime : Runtime K) : Except FusionFailure (FusionState K) := do
  let support ← item runtime.globalTestSupport 0
  let better ← initialWinnerCounts settings runtime.localErrorWindow runtime.globalErrorWindow
  return {
    localWindow := runtime.localScoreWindow, globalWindow := runtime.globalScoreWindow
    fusedWindow := runtime.fusedScoreWindow
    localErrors := runtime.localErrorWindow, globalErrors := runtime.globalErrorWindow
    alphaPrevious := runtime.fusionAlpha * min 1 (support / max settings.fullWeightReference machineEpsilon)
    localBetter := better.1, globalBetter := better.2, highCount := 0, lowCount := 0 }

/-! ## A point -/

/-- What is read of a point before its target. -/
structure FusionPoint (K : Type) where
  localPrediction : K
  globalPrediction : K
  localStd : K
  globalStd : K
  support : K

def readPoint (runtime : Runtime K) (point : Nat) : Except FusionFailure (FusionPoint K) := do
  let localPrediction ← item runtime.localTestMean point
  let globalPrediction ← item runtime.globalTestMean point
  let localStd ← item runtime.localTestStd point
  let globalStd ← item runtime.globalTestStd point
  let support ← item runtime.globalTestSupport point
  return { localPrediction, globalPrediction, localStd, globalStd, support }

structure Bands (K : Type) where
  localQ : K
  globalQ : K
  fusedQ : K
  localBand : K
  globalBand : K
  localVariance : K
  globalVariance : K

/-- The quantiles of the windows, and what they make of the deviations of the two models. -/
def bands (functions : Functions K) (settings : FusionSettings K) (state : FusionState K) (point : FusionPoint K) :
    Except FusionFailure (Bands K) := do
  let localQ ← scoreQuantile settings state.localWindow
  let globalQ ← scoreQuantile settings state.globalWindow
  let fusedQ ← scoreQuantile settings state.fusedWindow
  let localVariance ← calibratedVariance functions settings (halfWidth settings localQ point.localStd)
  let globalVariance ← calibratedVariance functions settings (halfWidth settings globalQ point.globalStd)
  return {
    localQ, globalQ, fusedQ, localVariance, globalVariance
    localBand := halfWidth settings localQ point.localStd
    globalBand := halfWidth settings globalQ point.globalStd }

structure Comparison (K : Type) where
  recentLocal : K
  recentGlobal : K
  globalClear : Bool
  localClear : Bool
  localBetter : Nat
  globalBetter : Nat

/-- The local and the global count after a comparison. -/
def betterCounts (globalClear localClear : Bool) (localBetter globalBetter : Nat) : Nat × Nat :=
  if globalClear then (0, globalBetter + 1)
  else if localClear then (localBetter + 1, 0)
  else (localBetter - 1, globalBetter - 1)

/-- Which of the models has lately been better. -/
def compareModels (settings : FusionSettings K) (state : FusionState K) (support : K) :
    Except FusionFailure (Comparison K) := do
  let recentLocal ← robustRecentMean state.localErrors settings.winsorQuantile
  let recentGlobal ← robustRecentMean state.globalErrors settings.winsorQuantile
  let globalClear := decide (recentGlobal ≤ (1 - settings.winMargin) * recentLocal ∧
    settings.minimumQuerySupport ≤ support)
  let localClear := decide (recentLocal ≤ (1 - settings.winMargin) * recentGlobal ∨
    support < settings.minimumQuerySupport)
  let better := betterCounts globalClear localClear state.localBetter state.globalBetter
  return { recentLocal, recentGlobal, globalClear, localClear, localBetter := better.1, globalBetter := better.2 }

structure Weights (K : Type) where
  localReliability : K
  globalReliability : K
  disagreement : K
  alphaRaw : K
  alpha : K

/-- The weight by reliability, and the gate of the support, after the overrides by persistence. -/
def overriddenWeight (functions : Functions K) (settings : FusionSettings K) (bands : Bands K)
    (comparison : Comparison K) (disagreement support weight : K) : K × K :=
  let supportGate := min 1 (support / max settings.fullWeightReference machineEpsilon)
  if settings.persistence ≤ comparison.localBetter then (0, supportGate)
  else if settings.persistence ≤ comparison.globalBetter then
    (max weight settings.globalClearThreshold, max supportGate (3 / 4))
  else
    let disagreementGate :=
      functions.exp (-(1 / 2) * (disagreement / max settings.disagreementKappa machineEpsilon) ^ 2)
    let varianceGate :=
      min 1 (settings.maximumVarianceRatio * bands.localVariance / max bands.globalVariance machineEpsilon)
    (min weight settings.neutralUpperLimit * disagreementGate * varianceGate, supportGate)

/-- The weight of the global model, raw and smoothed. -/
def weights (functions : Functions K) (settings : FusionSettings K) (fusionAlpha : K) (state : FusionState K)
    (point : FusionPoint K) (bands : Bands K) (comparison : Comparison K) : Except FusionFailure (Weights K) := do
  let localReliability :=
    1 / max (comparison.recentLocal + settings.varianceWeight * bands.localVariance) machineEpsilon
  let globalReliability :=
    point.support / max (comparison.recentGlobal + settings.varianceWeight * bands.globalVariance) machineEpsilon
  let alphaReliability := globalReliability / max (localReliability + globalReliability) machineEpsilon
  let reliable := clamp 0 settings.maximumGlobalWeight (1 / 5 * fusionAlpha + 4 / 5 * alphaReliability)
  let disagreement ← quotient |point.globalPrediction - point.localPrediction|
    (functions.sqrt (max (bands.localVariance + bands.globalVariance) settings.varianceFloor))
  let overridden := overriddenWeight functions settings bands comparison disagreement point.support reliable
  let alphaRaw := clamp 0 settings.maximumGlobalWeight (overridden.1 * overridden.2)
  let smoothing := if state.alphaPrevious ≤ alphaRaw then settings.riseSmoothing else settings.fallSmoothing
  return {
    localReliability, globalReliability, disagreement, alphaRaw
    alpha := clamp 0 settings.maximumGlobalWeight (smoothing * state.alphaPrevious + (1 - smoothing) * alphaRaw) }

structure Fused (K : Type) where
  fusedPrediction : K
  fusedStdRaw : K
  fusedBand : K
  fusedVariance : K

/-- The two predictions in one. -/
def fuse (functions : Functions K) (settings : FusionSettings K) (point : FusionPoint K) (bands : Bands K)
    (alpha : K) : Except FusionFailure (Fused K) := do
  let fusedStdRaw := functions.sqrt (mixtureVariance settings point.localPrediction point.globalPrediction
    bands.localVariance bands.globalVariance alpha)
  let fusedBand := halfWidth settings bands.fusedQ fusedStdRaw
  let fusedVariance ← calibratedVariance functions settings fusedBand
  return {
    fusedPrediction := (1 - alpha) * point.localPrediction + alpha * point.globalPrediction
    fusedStdRaw, fusedBand, fusedVariance }

/-- All that is settled of a point before its target is read. -/
structure Prediction (K : Type) where
  point : FusionPoint K
  bands : Bands K
  comparison : Comparison K
  weights : Weights K
  fused : Fused K

def predict (functions : Functions K) (settings : FusionSettings K) (fusionAlpha : K) (state : FusionState K)
    (point : FusionPoint K) : Except FusionFailure (Prediction K) := do
  let bands ← bands functions settings state point
  let comparison ← compareModels settings state point.support
  let weights ← weights functions settings fusionAlpha state point bands comparison
  let fused ← fuse functions settings point bands weights.alpha
  return { point, bands, comparison, weights, fused }

/-! ## Its target -/

/-- The columns of a result row that the loop computes. -/
structure FusionRow (K : Type) where
  prediction : Prediction K
  target : K
  localInside : Bool
  globalInside : Bool
  fusedInside : Bool
  loadStatus : LoadStatus
  highCount : Nat
  lowCount : Nat
  alarms : AlarmFields

/-- `centre - band <= target <= centre + band` -/
def inside (centre band target : K) : Bool :=
  decide (centre - band ≤ target ∧ target ≤ centre + band)

def loadStatus (fused : Fused K) (target : K) : LoadStatus :=
  if fused.fusedPrediction + fused.fusedBand < target then .heavy
  else if target < fused.fusedPrediction - fused.fusedBand then .light
  else .normal

/-- The row of a point. -/
def observe (settings : FusionSettings K) (state : FusionState K) (prediction : Prediction K) (target : K)
    (sourceRow : SourceRow K) : FusionRow K :=
  let status := loadStatus prediction.fused target
  let highCount := if status = .heavy then state.highCount + 1 else 0
  let lowCount := if status = .light then state.lowCount + 1 else 0
  { prediction, target
    localInside := inside prediction.point.localPrediction prediction.bands.localBand target
    globalInside := inside prediction.point.globalPrediction prediction.bands.globalBand target
    fusedInside := inside prediction.fused.fusedPrediction prediction.fused.fusedBand target
    loadStatus := status, highCount, lowCount
    alarms := alarmFields settings status highCount lowCount sourceRow }

/-- The window of the scores after a point, when the mode updates it. -/
def pushScore (settings : FusionSettings K) (window : List K) (score : K) : List K :=
  if settings.updateMode = "all_finite" then push settings.calibrationWindow window score else window

/-- The variables after a point. -/
def advance (settings : FusionSettings K) (state : FusionState K) (row : FusionRow K) :
    Except FusionFailure (FusionState K) := do
  let prediction := row.prediction
  let localError := row.target - prediction.point.localPrediction
  let globalError := row.target - prediction.point.globalPrediction
  let fusedError := row.target - prediction.fused.fusedPrediction
  let localScore ← quotient |localError| prediction.point.localStd
  let globalScore ← quotient |globalError| prediction.point.globalStd
  let fusedScore ← quotient |fusedError| prediction.fused.fusedStdRaw
  return {
    localWindow := pushScore settings state.localWindow localScore
    globalWindow := pushScore settings state.globalWindow globalScore
    fusedWindow := pushScore settings state.fusedWindow fusedScore
    localErrors := push settings.errorWindow state.localErrors (localError ^ 2)
    globalErrors := push settings.errorWindow state.globalErrors (globalError ^ 2)
    alphaPrevious := prediction.weights.alpha
    localBetter := prediction.comparison.localBetter, globalBetter := prediction.comparison.globalBetter
    highCount := row.highCount, lowCount := row.lowCount }

/-! ## The loop -/

/-- One pass of the loop. -/
def fusePoint (functions : Functions K) (context : FusionContext K) (state : FusionState K)
    (entry : Nat × Nat) : Except FusionFailure (FusionRow K × FusionState K) := do
  let settings := fusionSettings context.parameters
  let point ← readPoint context.runtime entry.2
  let prediction ← predict functions settings context.runtime.fusionAlpha state point
  let target ← item context.targets entry.1
  let sourceRow ← item context.sourceRows entry.1
  let row := observe settings state prediction target sourceRow
  let next ← advance settings state row
  return (row, next)

/-- The passes for some of the test points, each with its position. -/
def fuseFrom (functions : Functions K) (context : FusionContext K) :
    FusionState K -> List (Nat × Nat) -> Except FusionFailure (List (FusionRow K) × FusionState K)
  | state, [] => .ok ([], state)
  | state, entry :: rest => do
      let first ← fusePoint functions context state entry
      let others ← fuseFrom functions context first.2 rest
      return (first.1 :: others.1, others.2)

/-- The first rows of the loop, and the variables after them. -/
def fuseFirst (functions : Functions K) (context : FusionContext K) (count : Nat) :
    Except FusionFailure (List (FusionRow K) × FusionState K) := do
  let state ← initialState (fusionSettings context.parameters) context.runtime
  fuseFrom functions context state (context.test.zipIdx.take count)

/-- `_online_fuse` -/
def onlineFuse (functions : Functions K) (context : FusionContext K) : Except FusionFailure (List (FusionRow K)) := do
  let result ← fuseFirst functions context context.test.length
  return result.1

end

end Fusion
end Worker
end FederatedIot
