import FederatedIot.Worker.Features
import FederatedIot.Worker.LocalPosterior

namespace FederatedIot
namespace Worker
namespace Simulation

open Foundation Foundation.Outcome Foundation.Positions Foundation.Clusters Cholesky Matrix

/-!
# Global surrogates

A surrogate is a Gaussian process over the public anchors.  Each anchor has its own noise,
and the anchors are standardized first.  The factor is tried with more and more jitter.
-/

attribute [local instance] two_atLeastTwo ten_atLeastTwo

/-- What ends a simulation. -/
inductive SimulationFailure where
  | arithmetic (error : AggregationError)
  | features (failure : Features.FeatureFailure)
  | fusion (failure : Fusion.FusionFailure)

/-- What fails as the arithmetic of Python does. -/
def arithmetic {Value : Type} (outcome : Except AggregationError Value) : Except SimulationFailure Value :=
  outcome.mapError SimulationFailure.arithmetic

/-- What fails as the fusion does. -/
def fusing {Value : Type} (outcome : Except Fusion.FusionFailure Value) : Except SimulationFailure Value :=
  outcome.mapError SimulationFailure.fusion

section Source

variable {K : Type} [Field K] [LinearOrder K] (functions : Fusion.Functions K)

/-! ## Statistics -/

/-- The middle of the sorted values. -/
def middle (values : List K) : K :=
  let ordered := values.insertionSort (· ≤ ·)
  if values.length % 2 = 1 then ordered.getD (values.length / 2) 0
  else (ordered.getD (values.length / 2 - 1) 0 + ordered.getD (values.length / 2) 0) / 2

/-- `_median` -/
def median (values : List K) : Except AggregationError K :=
  if values = [] then .error (.valueError "no median for empty data") else .ok (middle values)

/-- `_sample_std` -/
def sampleStd (values : List K) : Except AggregationError K :=
  if 2 ≤ values.length then do
    let center ← mean values
    let variance ← divide (values.map fun value => (value - center) ^ 2).sum ((values.length : K) - 1)
    return functions.sqrt variance
  else .ok 0

/-- A column of the rows. -/
def featureColumn (rows : List (List K)) (index : Nat) : Except AggregationError (List K) :=
  rows.mapM fun row => readAt .indexError row index

/-- One entry of the deviations in `_standardization` -/
def deviation (values : List K) : Except AggregationError K := do
  let std ← sampleStd functions values
  return if std < machineEpsilon then max std 1 else std

/-- `_standardization` -/
def standardization (rows : List (List K)) : Except AggregationError (List K × List K) := do
  let first ← readAt .indexError rows 0
  let means ← (List.range first.length).mapM fun index => do
    let values ← featureColumn rows index
    mean values
  let stds ← (List.range first.length).mapM fun index => do
    let values ← featureColumn rows index
    deviation functions values
  return (means, stds)

/-- `_standardize_row` -/
def standardizeRow (row means stds : List K) : Except AggregationError (List K) :=
  (row.zip (means.zip stds)).mapM fun entry => divide (entry.1 - entry.2.1) entry.2.2

/-! ## Training -/

/-- What the training reads of the parameters. -/
structure SurrogateSettings (K : Type) where
  ell : K
  minimumRegularization : K
  noiseRatio : K
  choleskyAttempts : Nat

def surrogateSettings (tree : List (String × PyValue)) : SurrogateSettings K where
  ell := Fusion.numberLeaf "global_surrogate" "ell" tree
  minimumRegularization := Fusion.numberLeaf "global_surrogate" "minimum_regularization" tree
  noiseRatio := Fusion.numberLeaf "global_surrogate" "noise_ratio" tree
  choleskyAttempts := Fusion.countLeaf "global_surrogate" "cholesky_attempts" tree

/-- `SurrogateGPModel` -/
structure SurrogateGPModel (K : Type) where
  meanX : List K
  stdX : List K
  xTrain : List (List K)
  yCenter : K
  sigmaF : K
  ell : K
  cholesky : List (List K)
  alpha : List K
  observationNoise : K
  supportScale : K
  jitter : K

/-- The jitter after a factor that was not found. -/
def nextJitter (settings : SurrogateSettings K) (jitter : K) : K :=
  if jitter = 0 then max (1 / 10 ^ 10) (settings.minimumRegularization * (1 / 1000)) else jitter * 10

/-- The factor and its jitter, when one of the attempts finds it. -/
def factorize (settings : SurrogateSettings K) (base : List (List K)) (diagonal : List K) :
    Nat -> K -> Except AggregationError (Option (List (List K) × K))
  | 0, _ => .ok none
  | attempts + 1, jitter => do
      let candidate ← addToDiagonal base (diagonal.map fun value => value + jitter)
      match cholesky functions.sqrt candidate with
      | .ok lower => .ok (some (lower, jitter))
      | .error (.valueError _) => factorize settings base diagonal attempts (nextJitter settings jitter)
      | .error fault => .error fault

/-- `_train_surrogate_python` -/
def trainSurrogate (settings : SurrogateSettings K) (x : List (List K)) (y noise : List K) (varianceFloor : K) :
    Except SimulationFailure (SurrogateGPModel K) := do
  let scales ← arithmetic (standardization functions x)
  let standardized ← arithmetic (x.mapM fun row => standardizeRow row scales.1 scales.2)
  let yCenter ← arithmetic (mean y)
  let spread ← arithmetic (sampleStd functions y)
  let sigmaF := max 1 spread
  let base ← arithmetic (kernelMatrix functions standardized standardized sigmaF settings.ell)
  let diagonal := noise.map fun value => max value varianceFloor + settings.minimumRegularization
  let found ← arithmetic (factorize functions settings base diagonal settings.choleskyAttempts 0)
  match found with
  | none => .error (.fusion (.worker "NUMERICAL_FAILURE" "Global surrogate GP Cholesky factorization failed."
      "GLOBAL_DISTILLING"))
  | some factor => do
      let alpha ← arithmetic (solveCholesky factor.1 (y.map fun value => value - yCenter))
      let typical ← arithmetic (median noise)
      let scale ← arithmetic (supportScale functions.sqrt middle false standardized (min 300 standardized.length))
      return {
        meanX := scales.1, stdX := scales.2, xTrain := standardized, yCenter, sigmaF, ell := settings.ell
        cholesky := factor.1, alpha, observationNoise := max (settings.noiseRatio * typical) varianceFloor
        supportScale := scale, jitter := factor.2 }

/-! ## Predictions -/

/-- One turn of the loop of `_surrogate_predict_python`: the mean and the deviation at a query. -/
def surrogateAnswer (model : SurrogateGPModel K) (query : List K) : Except AggregationError (K × K) := do
  let standardized ← standardizeRow query model.meanX model.stdX
  let vector ← model.xTrain.mapM fun point =>
    kernelEntry functions model.sigmaF model.ell (squaredDistance point standardized)
  let forward ← forwardSolve model.cholesky vector
  return (model.yCenter + dot vector model.alpha,
    functions.sqrt (max (model.sigmaF ^ 2 - dot forward forward) 0 + model.observationNoise))

/-- `_surrogate_predict_python` -/
def surrogatePredict (model : SurrogateGPModel K) (queries : List (List K)) :
    Except AggregationError (List K × List K) := do
  let answers ← queries.mapM (surrogateAnswer functions model)
  return (answers.map Prod.fst, answers.map Prod.snd)

/-- `_nearest_distances` -/
def nearestDistances (training queries : List (List K)) : Except AggregationError (List K) :=
  queries.mapM fun query => do
    let nearest ← least (training.map (squaredDistance query))
    return functions.sqrt nearest

/-- How much a point at a distance is supported. -/
def supportAt (denominator distance : K) : Except AggregationError K := do
  let ratio ← divide distance denominator
  return functions.exp (-(1 / 2) * ratio ^ 2)

/-- `_surrogate_support` -/
def surrogateSupport (scaleMultiple minimumWeight : K) (model : SurrogateGPModel K) (queries : List (List K)) :
    Except AggregationError (List K) := do
  let standardized ← queries.mapM fun query => standardizeRow query model.meanX model.stdX
  let distances ← nearestDistances functions model.xTrain standardized
  distances.mapM fun distance => do
    let value ← supportAt functions (max (scaleMultiple * model.supportScale) (1 / 10 ^ 8)) distance
    return if value < minimumWeight then 0 else min (max value 0) 1

end Source

/-! ## Standardized points -/

section Standardized

variable {invCdf : ℝ -> ℝ} {rows : List (List ℝ)} {row means stds values : List ℝ} {width : Nat}

@[simp]
theorem arithmetic_ok {Value : Type} (value : Value) : arithmetic (.ok value) = .ok value :=
  rfl

theorem sampleStd_ok (values : List ℝ) :
    exists std, sampleStd (realFunctions invCdf) values = .ok std ∧ 0 ≤ std := by
  unfold sampleStd
  by_cases several : 2 ≤ values.length
  · have nonempty : values ≠ [] := List.ne_nil_of_length_pos (by omega)
    have divisor : (values.length : ℝ) - 1 ≠ 0 := by
      have : (2 : ℝ) ≤ values.length := by exact_mod_cast several
      linarith
    rw [if_pos several, mean_ok nonempty, ok_bind, divide, if_neg divisor, ok_bind]
    exact ⟨_, rfl, Real.sqrt_nonneg _⟩
  · rw [if_neg several]
    exact ⟨0, rfl, le_refl 0⟩

theorem deviation_ok (values : List ℝ) : exists std, deviation (realFunctions invCdf) values = .ok std ∧ 0 < std := by
  rcases @sampleStd_ok invCdf values with ⟨std, made, _⟩
  unfold deviation
  rw [made, ok_bind]
  by_cases small : std < machineEpsilon
  · rw [if_pos small]
    exact ⟨_, rfl, lt_max_of_lt_right one_pos⟩
  · rw [if_neg small]
    exact ⟨_, rfl, machineEpsilon_pos.trans_le (not_lt.mp small)⟩

theorem featureColumn_ok (widths : ∀ row ∈ rows, row.length = width) {index : Nat} (inside : index < width) :
    featureColumn rows index = .ok (rows.map fun row => row.getD index 0) := by
  refine mapM_eq_map fun row member => ?_
  have within : index < row.length := (widths row member).symm ▸ inside
  rw [readAt_ok_iff, List.getD_eq_getElem?_getD, List.getElem?_eq_getElem within]
  rfl

/-- What each position gives. -/
theorem mapM_range_ok {Value : Type} {compute : Nat -> Except AggregationError Value} {size : Nat}
    {holds : Nat -> Value -> Prop} (each : forall index, index < size -> exists value, compute index = .ok value ∧ holds index value) :
    exists values, (List.range size).mapM compute = .ok values ∧ values.length = size ∧
      forall index value, values[index]? = some value -> holds index value := by
  rcases mapM_related fun index (inside : index ∈ List.range size) => each index (List.mem_range.mp inside) with
    ⟨values, made, related⟩
  have count : values.length = size := related.length_eq.symm.trans List.length_range
  refine ⟨values, made, count, fun index value found => ?_⟩
  rcases List.getElem?_eq_some_iff.mp found with ⟨within, rfl⟩
  have here := related.get (by rw [List.length_range, ← count]; exact within) within
  rw [List.get_eq_getElem, List.getElem_range] at here
  exact here

/-- The means of the columns, and positive deviations. -/
structure Scales (rows : List (List ℝ)) (width : Nat) (means stds : List ℝ) : Prop where
  means : means = List.ofFn fun axis : Fin width => (rows.map fun row => row.getD axis 0).sum / rows.length
  count : stds.length = width
  positive : ∀ std ∈ stds, 0 < std

theorem standardization_ok (nonempty : rows ≠ []) (widths : ∀ row ∈ rows, row.length = width) :
    exists means stds, standardization (realFunctions invCdf) rows = .ok (means, stds) ∧ Scales rows width means stds := by
  cases rows with
  | nil => exact absurd rfl nonempty
  | cons head tail =>
      have headWidth : head.length = width := widths head List.mem_cons_self
      have columns (index : Nat) (inside : index < width) := featureColumn_ok widths inside
      rcases @mapM_range_ok ℝ (fun index => do
          let values ← featureColumn (head :: tail) index
          mean values) width (fun index value => value = ((head :: tail).map fun row => row.getD index 0).sum / (head :: tail).length)
        (fun index inside => by
          rw [columns index inside, ok_bind,
            @mean_ok ((head :: tail).map fun row => row.getD index 0) (List.cons_ne_nil _ _), List.length_map]
          exact ⟨_, rfl, rfl⟩) with ⟨means, madeMeans, meanCount, eachMean⟩
      rcases @mapM_range_ok ℝ (fun index => do
          let values ← featureColumn (head :: tail) index
          deviation (realFunctions invCdf) values) width (fun _ value => 0 < value)
        (fun index inside => by
          rw [columns index inside, ok_bind]
          exact deviation_ok _) with ⟨stds, madeStds, stdCount, eachStd⟩
      refine ⟨means, stds, ?_, ?_, stdCount, fun std member => ?_⟩
      · unfold standardization
        rw [show readAt AggregationError.indexError (head :: tail) 0 = .ok head from rfl, ok_bind, headWidth, madeMeans, ok_bind,
          madeStds, ok_bind]
        rfl
      · apply List.ext_getElem?
        intro index
        rcases Nat.lt_or_ge index width with inside | outside
        · have within : index < means.length := meanCount.symm ▸ inside
          rw [List.getElem?_eq_getElem within, List.getElem?_ofFn, dif_pos inside]
          exact congrArg some (eachMean index _ (List.getElem?_eq_getElem within))
        · rw [List.getElem?_eq_none (meanCount.symm ▸ outside), List.getElem?_ofFn, dif_neg (Nat.not_lt.mpr outside)]
      · rcases List.getElem?_of_mem member with ⟨index, found⟩
        exact eachStd index std found

/-- A row in units of the deviations. -/
noncomputable def scaledRow (means stds row : List ℝ) : List ℝ :=
  (row.zip (means.zip stds)).map fun entry => (entry.1 - entry.2.1) / entry.2.2

theorem standardizeRow_ok (positive : ∀ std ∈ stds, 0 < std) :
    standardizeRow row means stds = .ok (scaledRow means stds row) := by
  refine mapM_eq_map fun entry member => ?_
  have isStd := (List.of_mem_zip (List.of_mem_zip member).2).2
  rw [divide, if_neg (positive _ isStd).ne']

theorem length_scaledRow (scales : Scales rows width means stds) (rowWidth : row.length = width) :
    (scaledRow means stds row).length = width := by
  rw [scaledRow, List.length_map, List.length_zip, List.length_zip, scales.means, List.length_ofFn, scales.count, min_self,
    rowWidth, min_self]

end Standardized

/-! ## The trained process -/

/-- The limits of the parameters of the training. -/
structure SurrogateSettings.Valid (settings : SurrogateSettings ℝ) : Prop where
  ell : settings.ell ≠ 0
  minimumRegularization : 0 < settings.minimumRegularization
  choleskyAttempts : 0 < settings.choleskyAttempts

/-- The noise of the anchors. -/
noncomputable def SurrogateSettings.noiseOf (settings : SurrogateSettings ℝ) (varianceFloor : ℝ) (noise : List ℝ) {size : Nat}
    (anchor : Fin size) : ℝ :=
  max (noise.getD anchor 0) varianceFloor + settings.minimumRegularization

/-- A process that is trained without jitter on standardized anchors. -/
structure SurrogateGPModel.Fits (model : SurrogateGPModel ℝ) (settings : SurrogateSettings ℝ) (x : List (List ℝ))
    (y noise : List ℝ) (varianceFloor : ℝ) (width : Nat) : Prop where
  scales : Scales x width model.meanX model.stdX
  points : model.xTrain = x.map (scaledRow model.meanX model.stdX)
  center : model.yCenter = y.sum / y.length
  sigmaF : 1 ≤ model.sigmaF
  ell : model.ell = settings.ell
  factor : exists lower : Matrix (Fin model.xTrain.length) (Fin model.xTrain.length) ℝ,
    model.cholesky = rowsOf lower ∧ IsFactor lower ∧ lower * lowerᵀ =
      kernelAmong model.sigmaF model.ell model.xTrain + diagonal (settings.noiseOf varianceFloor noise)
  alpha : model.alpha = List.ofFn ((kernelAmong model.sigmaF model.ell model.xTrain +
    diagonal (settings.noiseOf varianceFloor noise))⁻¹ *ᵥ fun anchor => listValues model.xTrain.length y anchor - model.yCenter)
  observationNoise : varianceFloor ≤ model.observationNoise
  jitter : model.jitter = 0

section Trained

variable {invCdf : ℝ -> ℝ} {settings : SurrogateSettings ℝ} {x points : List (List ℝ)} {y noise query : List ℝ}
  {varianceFloor sigmaF : ℝ} {width : Nat} {model : SurrogateGPModel ℝ}

theorem noiseOf_pos (valid : settings.Valid) (floor : 0 < varianceFloor) {size : Nat} (anchor : Fin size) :
    0 < settings.noiseOf varianceFloor noise anchor :=
  add_pos (lt_max_of_lt_right floor) valid.minimumRegularization

/-- The first attempt finds the factor. -/
theorem factorize_ok (valid : settings.Valid) (floor : 0 < varianceFloor) (widths : ∀ point ∈ points, point.length = width)
    (aligned : noise.length = points.length) :
    exists lower : Matrix (Fin points.length) (Fin points.length) ℝ, factorize (realFunctions invCdf) settings
        (rowsOf (kernelAmong sigmaF settings.ell points))
        (noise.map fun value => max value varianceFloor + settings.minimumRegularization) settings.choleskyAttempts 0 =
      .ok (some (rowsOf lower, 0)) ∧ IsFactor lower ∧ lower * lowerᵀ =
        kernelAmong sigmaF settings.ell points + diagonal (settings.noiseOf varianceFloor noise) := by
  have definite := @posDef_kernelAmong sigmaF settings.ell points width widths
    (settings.noiseOf varianceFloor noise) (noiseOf_pos valid floor)
  rcases cholesky_of_posDef definite with ⟨lower, made, factor, product⟩
  have realMade : cholesky (realFunctions invCdf).sqrt (rowsOf (kernelAmong sigmaF settings.ell points +
      diagonal (settings.noiseOf varianceFloor noise))) = .ok (rowsOf lower) := made
  refine ⟨lower, ?_, factor, product⟩
  cases attempts : settings.choleskyAttempts with
  | zero => exact absurd valid.choleskyAttempts (by rw [attempts]; exact lt_irrefl 0)
  | succ count =>
      have added : ((noise.map fun value => max value varianceFloor + settings.minimumRegularization).map
          fun value => value + 0) = List.ofFn (settings.noiseOf varianceFloor noise : Fin points.length -> ℝ) := by
        rw [List.map_map, map_listValues aligned]
        refine congrArg List.ofFn (funext fun anchor => ?_)
        dsimp only [Function.comp_apply]
        rw [add_zero]
        rfl
      unfold factorize
      rw [added, addToDiagonal_rowsOf, ok_bind]
      rw [realMade]

theorem trainSurrogate_ok (valid : settings.Valid) (floor : 0 < varianceFloor) (nonempty : x ≠ [])
    (widths : ∀ point ∈ x, point.length = width) (yCount : y.length = x.length) (noiseCount : noise.length = x.length) :
    exists model, trainSurrogate (realFunctions invCdf) settings x y noise varianceFloor = .ok model ∧
      model.Fits settings x y noise varianceFloor width := by
  rcases @standardization_ok invCdf x width nonempty widths with ⟨means, stds, standardized, scales⟩
  have someY : y ≠ [] := List.ne_nil_of_length_pos (yCount ▸ List.length_pos_of_ne_nil nonempty)
  have someNoise : noise ≠ [] := List.ne_nil_of_length_pos (noiseCount ▸ List.length_pos_of_ne_nil nonempty)
  rcases @sampleStd_ok invCdf y with ⟨spread, isSpread, _⟩
  have rows : (x.mapM fun row => standardizeRow row means stds) = Except.ok (x.map (scaledRow means stds)) :=
    mapM_eq_map fun row _ => standardizeRow_ok scales.positive
  have count : (x.map (scaledRow means stds)).length = x.length := List.length_map _
  have scaledWidths : ∀ point ∈ x.map (scaledRow means stds), point.length = width := by
    intro point member
    rcases List.mem_map.mp member with ⟨row, inside, rfl⟩
    exact length_scaledRow scales (widths row inside)
  rcases @factorize_ok invCdf settings (x.map (scaledRow means stds)) noise varianceFloor (max 1 spread) width valid floor
    scaledWidths (noiseCount.trans count.symm) with ⟨lower, found, factor, product⟩
  have definite := @posDef_kernelAmong (max 1 spread) settings.ell (x.map (scaledRow means stds)) width scaledWidths
    (settings.noiseOf varianceFloor noise) (noiseOf_pos valid floor)
  have isMedian : median noise = .ok (middle noise) := if_neg someNoise
  rcases supportScale_ok Real.sqrt middle false (x.map (scaledRow means stds))
    (min 300 ((x.map (scaledRow means stds)).length : Int)) with ⟨scale, isScale⟩
  unfold trainSurrogate
  rw [standardized, arithmetic_ok, ok_bind]
  dsimp only
  rw [rows, arithmetic_ok, ok_bind, mean_ok someY, arithmetic_ok, ok_bind, isSpread, arithmetic_ok, ok_bind,
    kernelMatrix_ok valid.ell, arithmetic_ok, ok_bind, found, arithmetic_ok, ok_bind]
  dsimp only
  rw [map_listValues (yCount.trans count.symm), solveCholesky_inverse definite factor product, arithmetic_ok, ok_bind, isMedian,
    arithmetic_ok, ok_bind]
  change exists model, (arithmetic (supportScale Real.sqrt middle false _ _) >>= _) = _ ∧ _
  rw [isScale, arithmetic_ok, ok_bind]
  exact ⟨_, rfl, scales, rfl, rfl, le_max_left 1 spread, rfl, ⟨lower, rfl, factor, product⟩, rfl, le_max_right _ _, rfl⟩

/-- What a query is answered with: the posterior of the process at the standardized query. -/
structure SurrogateGPModel.Answers (model : SurrogateGPModel ℝ) (settings : SurrogateSettings ℝ) (y noise : List ℝ)
    (varianceFloor : ℝ) (query : List ℝ) (answer : ℝ × ℝ) : Prop where
  mean : answer.1 = processMean model.sigmaF model.ell model.xTrain (settings.noiseOf varianceFloor noise)
    (listValues model.xTrain.length y) model.yCenter (scaledRow model.meanX model.stdX query)
  variance : answer.2 ^ 2 = processVariance model.sigmaF model.ell model.xTrain (settings.noiseOf varianceFloor noise)
    (scaledRow model.meanX model.stdX query) + model.observationNoise
  between : model.observationNoise ≤ answer.2 ^ 2 ∧ answer.2 ^ 2 ≤ model.sigmaF ^ 2 + model.observationNoise
  positive : 0 < answer.2

theorem surrogateAnswer_ok (valid : settings.Valid) (floor : 0 < varianceFloor) (widths : ∀ point ∈ x, point.length = width)
    (fits : model.Fits settings x y noise varianceFloor width) (queryWidth : query.length = width) :
    exists answer, surrogateAnswer (realFunctions invCdf) model query = .ok answer ∧
      model.Answers settings y noise varianceFloor query answer := by
  have scale : model.ell ≠ 0 := fits.ell ▸ valid.ell
  have pointWidths : ∀ point ∈ model.xTrain, point.length = width := by
    intro point member
    rw [fits.points] at member
    rcases List.mem_map.mp member with ⟨row, inside, rfl⟩
    exact length_scaledRow fits.scales (widths row inside)
  have scaledWidth := length_scaledRow fits.scales queryWidth
  have noisy (anchor : Fin model.xTrain.length) : 0 < settings.noiseOf varianceFloor noise anchor := noiseOf_pos valid floor anchor
  have definite := @posDef_kernelAmong model.sigmaF model.ell model.xTrain width pointWidths _ noisy
  have between := @processVariance_between model.sigmaF model.ell model.xTrain _ width pointWidths _ noisy scaledWidth
  have vector : (model.xTrain.mapM fun point => kernelEntry (realFunctions invCdf) model.sigmaF model.ell
      (squaredDistance point (scaledRow model.meanX model.stdX query))) =
      .ok (List.ofFn (kernelWith model.sigmaF model.ell model.xTrain (scaledRow model.meanX model.stdX query))) := by
    rw [mapM_eq_map fun point _ => kernelEntry_ok scale _, ofFn_map]
    rfl
  rcases fits.factor with ⟨lower, isLower, factor, product⟩
  rcases forwardSolve_square definite factor product
    (kernelWith model.sigmaF model.ell model.xTrain (scaledRow model.meanX model.stdX query)) with ⟨forward, solved, square⟩
  have positive := floor.trans_le fits.observationNoise
  have variance : max (model.sigmaF ^ 2 - forward ⬝ᵥ forward) 0 + model.observationNoise =
      processVariance model.sigmaF model.ell model.xTrain (settings.noiseOf varianceFloor noise)
        (scaledRow model.meanX model.stdX query) + model.observationNoise := by
    rw [square]
    exact congrArg (· + model.observationNoise) (max_eq_left between.1)
  have deviation : (realFunctions invCdf).sqrt (max (model.sigmaF ^ 2 - forward ⬝ᵥ forward) 0 + model.observationNoise) ^ 2 =
      processVariance model.sigmaF model.ell model.xTrain (settings.noiseOf varianceFloor noise)
        (scaledRow model.meanX model.stdX query) + model.observationNoise := by
    rw [variance]
    exact Real.sq_sqrt (add_nonneg between.1 positive.le)
  unfold surrogateAnswer
  rw [standardizeRow_ok fits.scales.positive, ok_bind, vector, ok_bind, isLower, solved, ok_bind, fits.alpha, dot_ofFn, dot_ofFn]
  refine ⟨_, rfl, rfl, deviation, ?_, ?_⟩
  · dsimp only
    rw [deviation]
    constructor <;> linarith [between.1, between.2]
  · dsimp only
    rw [variance]
    exact Real.sqrt_pos.mpr (by linarith [between.1])

theorem surrogatePredict_ok (valid : settings.Valid) (floor : 0 < varianceFloor) (widths : ∀ point ∈ x, point.length = width)
    (fits : model.Fits settings x y noise varianceFloor width) {queries : List (List ℝ)}
    (queryWidths : ∀ query ∈ queries, query.length = width) :
    exists answers, surrogatePredict (realFunctions invCdf) model queries = .ok (answers.map Prod.fst, answers.map Prod.snd) ∧
      List.Forall₂ (model.Answers settings y noise varianceFloor) queries answers := by
  rcases mapM_related fun query (inside : query ∈ queries) =>
    surrogateAnswer_ok valid floor widths fits (queryWidths query inside) with ⟨answers, made, related⟩
  refine ⟨answers, ?_, related⟩
  rw [surrogatePredict, made, ok_bind]
  rfl

/-- The surrogate of any anchors is trained at the first attempt, and it answers every query with
the posterior of a process over the standardized anchors.  Its variance is never cut off at 0. -/
theorem surrogate_posterior (invCdf : ℝ -> ℝ) (valid : settings.Valid) (floor : 0 < varianceFloor) (nonempty : x ≠ [])
    (widths : ∀ point ∈ x, point.length = width) (yCount : y.length = x.length) (noiseCount : noise.length = x.length) :
    exists model, trainSurrogate (realFunctions invCdf) settings x y noise varianceFloor = .ok model ∧
      model.Fits settings x y noise varianceFloor width ∧
      forall queries : List (List ℝ), (∀ query ∈ queries, query.length = width) ->
        exists answers, surrogatePredict (realFunctions invCdf) model queries =
            .ok (answers.map Prod.fst, answers.map Prod.snd) ∧
          List.Forall₂ (model.Answers settings y noise varianceFloor) queries answers := by
  rcases @trainSurrogate_ok invCdf settings x y noise varianceFloor width valid floor nonempty widths yCount noiseCount with
    ⟨model, trained, fits⟩
  exact ⟨model, trained, fits, fun queries queryWidths => surrogatePredict_ok valid floor widths fits queryWidths⟩

theorem surrogate_posterior_two :
    exists model, trainSurrogate (realFunctions id) { ell := 1, minimumRegularization := 1, noiseRatio := 1, choleskyAttempts := 3 }
        [[0], [1]] [1, 2] [1, 1] 1 = .ok model ∧
      model.Fits { ell := 1, minimumRegularization := 1, noiseRatio := 1, choleskyAttempts := 3 } [[0], [1]] [1, 2] [1, 1] 1 1 := by
  rcases @surrogate_posterior { ell := 1, minimumRegularization := 1, noiseRatio := 1, choleskyAttempts := 3 }
    [[0], [1]] [1, 2] [1, 1] 1 1 id ⟨one_ne_zero, one_pos, Nat.succ_pos 2⟩ one_pos (List.cons_ne_nil _ _)
    (fun point inside => by rcases List.mem_pair.mp inside with rfl | rfl <;> rfl) rfl rfl with ⟨model, trained, fits, _⟩
  exact ⟨model, trained, fits⟩

end Trained

end Simulation
end Worker
end FederatedIot
