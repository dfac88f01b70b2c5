import FederatedIot.Worker.Posterior

namespace FederatedIot
namespace Worker
namespace Simulation

open Foundation Foundation.Outcome Foundation.Positions Foundation.Clusters Cholesky Matrix

/-!
# Predictions of a local model

A query is answered from the nearest training points, and of two at one distance from the
earlier.  The factor of their kernel is always made, so the process is given up only when
its mean leaves the bounds of the values or the factor is badly conditioned.
-/

attribute [local instance] two_atLeastTwo ten_atLeastTwo

/-! ## Lists of values -/

section Values

variable {values : List ℝ} {size : Nat}

theorem greatest_ok (nonempty : values ≠ []) :
    exists largest, greatest values = .ok largest ∧ largest ∈ values ∧ ∀ value ∈ values, value ≤ largest := by
  cases values with
  | nil => exact absurd rfl nonempty
  | cons head tail =>
      refine ⟨_, rfl, ?_⟩
      clear nonempty
      induction tail generalizing head with
      | nil => exact ⟨List.mem_singleton_self head, fun value inside => (List.mem_singleton.mp inside).le⟩
      | cons next rest inductionHypothesis =>
          rcases inductionHypothesis (max head next) with ⟨member, above⟩
          rw [List.foldl_cons]
          refine ⟨?_, fun value inside => ?_⟩
          · rcases List.mem_cons.mp member with isHead | inRest
            · rw [isHead]
              rcases max_choice head next with same | same <;> rw [same]
              · exact List.mem_cons_self
              · exact List.mem_cons_of_mem _ List.mem_cons_self
            · exact List.mem_cons_of_mem _ (List.mem_cons_of_mem _ inRest)
          · have first := above (max head next) List.mem_cons_self
            rcases List.mem_cons.mp inside with rfl | later
            · exact (le_max_left _ _).trans first
            · rcases List.mem_cons.mp later with rfl | inRest
              · exact (le_max_right _ _).trans first
              · exact above value (List.mem_cons_of_mem _ inRest)

theorem least_ok (nonempty : values ≠ []) :
    exists smallest, least values = .ok smallest ∧ smallest ∈ values ∧ ∀ value ∈ values, smallest ≤ value := by
  cases values with
  | nil => exact absurd rfl nonempty
  | cons head tail =>
      refine ⟨tail.foldl min head, rfl, ?_, fun value inside => ?_⟩
      · rcases foldl_min_mem tail head with same | member
        · rw [same]
          exact List.mem_cons_self
        · exact List.mem_cons_of_mem _ member
      · exact foldl_min_le (List.mem_cons.mp inside)

theorem boundIndex_lt (share : Rat) {count : Nat} (positive : 0 < count) : boundIndex share count < count := by
  unfold boundIndex
  omega

/-- The bounds are the values with a margin. -/
theorem localBounds_ok (nonempty : values ≠ []) : exists low high smallest largest, localBounds values = .ok (low, high) ∧
    smallest ∈ values ∧ largest ∈ values ∧ (∀ value ∈ values, smallest ≤ value ∧ value ≤ largest) ∧
    smallest - max 2 (1 / 2 * (largest - smallest)) ≤ low ∧ high ≤ largest + max 2 (1 / 2 * (largest - smallest)) := by
  rcases greatest_ok nonempty with ⟨largest, isLargest, hasLargest, below⟩
  rcases least_ok nonempty with ⟨smallest, isSmallest, hasSmallest, above⟩
  have positive := List.length_pos_of_ne_nil nonempty
  have sorted : (values.insertionSort (· ≤ ·)).length = values.length := List.length_insertionSort _ _
  have read (share : Rat) : exists value, readAt AggregationError.indexError (values.insertionSort (· ≤ ·))
      (boundIndex share values.length) = .ok value ∧ value ∈ values := by
    rcases readAt_total AggregationError.indexError
      (by rw [sorted]; exact boundIndex_lt share positive : boundIndex share values.length < (values.insertionSort (· ≤ ·)).length)
      with ⟨value, isValue⟩
    exact ⟨value, isValue.2, (List.mem_insertionSort _).mp (List.mem_of_getElem? isValue.1)⟩
  rcases read (1 / 100) with ⟨low, isLow, hasLow⟩
  rcases read (99 / 100) with ⟨high, isHigh, hasHigh⟩
  refine ⟨low - max 2 (1 / 2 * (largest - smallest)), high + max 2 (1 / 2 * (largest - smallest)), smallest, largest, ?_,
    hasSmallest, hasLargest, fun value inside => ⟨above value inside, below value inside⟩, ?_, ?_⟩
  · unfold localBounds
    dsimp only
    rw [isLow, ok_bind, isHigh, ok_bind, isLargest, ok_bind, isSmallest, ok_bind]
    rfl
  · have least := above low hasLow
    linarith
  · have most := below high hasHigh
    linarith

/-- What holds of each answer holds of all of them. -/
theorem mapM_related {Item Answer Fault : Type} {answer : Item -> Except Fault Answer} {related : Item -> Answer -> Prop}
    {items : List Item} (each : ∀ item ∈ items, exists value, answer item = .ok value ∧ related item value) :
    exists answers, items.mapM answer = .ok answers ∧ List.Forall₂ related items answers := by
  induction items with
  | nil => exact ⟨[], rfl, List.Forall₂.nil⟩
  | cons item rest inductionHypothesis =>
      rcases inductionHypothesis fun other inside => each other (List.mem_cons_of_mem _ inside) with ⟨answers, made, others⟩
      rcases each item List.mem_cons_self with ⟨value, isValue, holds⟩
      refine ⟨value :: answers, ?_, List.Forall₂.cons holds others⟩
      rw [List.mapM_cons, isValue, ok_bind, made, ok_bind]
      rfl

/-- The values of a list at the positions of a vector. -/
def listValues (size : Nat) (values : List ℝ) (index : Fin size) : ℝ :=
  values.getD index 0

theorem ofFn_listValues (length : values.length = size) : List.ofFn (listValues size values) = values := by
  subst length
  refine (congrArg List.ofFn (funext fun index => ?_)).trans (List.ofFn_get values)
  exact (List.getD_eq_getElem?_getD).trans (by rw [List.getElem?_eq_getElem index.isLt]; rfl)

theorem map_listValues (length : values.length = size) (change : ℝ -> ℝ) :
    values.map change = List.ofFn fun index => change (listValues size values index) := by
  nth_rewrite 1 [← ofFn_listValues length]
  exact List.map_ofFn

theorem mean_ok (nonempty : values ≠ []) : mean values = .ok (values.sum / values.length) := by
  have nonzero : (values.length : ℝ) ≠ 0 := by exact_mod_cast (List.length_pos_of_ne_nil nonempty).ne'
  rw [mean, divide, if_neg nonzero]

theorem diagonal_rowsOf (lower : Matrix (Fin size) (Fin size) ℝ) :
    ((List.range (rowsOf lower).length).mapM fun index => entryAt (rowsOf lower) index index) =
      .ok (List.ofFn fun index => lower index index) := by
  have length : (rowsOf lower).length = size := List.length_ofFn
  rw [length, rowsOf_eq_matrixOf]
  have each : ∀ index ∈ List.range size, entryAt (matrixOf size (gridOf lower)) index index = .ok (gridOf lower index index) :=
    fun index member => entryAt_matrixOf (List.mem_range.mp member) (List.mem_range.mp member)
  rw [mapM_eq_map each]
  refine congrArg Except.ok ?_
  change vectorOf size (fun index => gridOf lower index index) = _
  rw [← ofFn_valuesOf]
  exact congrArg List.ofFn (funext fun index => gridOf_val lower index index)

end Values

/-! ## The nearest points -/

section Neighbors

variable {model : LocalGPModel ℝ} {query : List ℝ}

/-- The points that are nearest to a query, with their squared distances and positions. -/
structure Nearest (model : LocalGPModel ℝ) (query : List ℝ) (chosen : List (ℝ × Nat)) : Prop where
  count : chosen.length = min model.kNeighbors model.xTrain.length
  distinct : (chosen.map Prod.snd).Nodup
  measured : ∀ point ∈ chosen, (model.xTrain.map (squaredDistance query))[point.2]? = some point.1
  closer : ∀ point ∈ chosen, forall other position, (model.xTrain.map (squaredDistance query))[position]? = some other ->
    position ∉ chosen.map Prod.snd -> point.1 < other ∨ point.1 = other ∧ point.2 < position

theorem isTotal_nearer (first second : ℝ × Nat) :
    (first.1 < second.1 ∨ first.1 = second.1 ∧ first.2 ≤ second.2) ∨
      second.1 < first.1 ∨ second.1 = first.1 ∧ second.2 ≤ first.2 := by
  rcases lt_trichotomy first.1 second.1 with nearer | same | farther
  · exact Or.inl (Or.inl nearer)
  · rcases Nat.le_total first.2 second.2 with earlier | later
    · exact Or.inl (Or.inr ⟨same, earlier⟩)
    · exact Or.inr (Or.inr ⟨same.symm, later⟩)
  · exact Or.inr (Or.inl farther)

theorem isTrans_nearer {first second third : ℝ × Nat}
    (left : first.1 < second.1 ∨ first.1 = second.1 ∧ first.2 ≤ second.2)
    (right : second.1 < third.1 ∨ second.1 = third.1 ∧ second.2 ≤ third.2) :
    first.1 < third.1 ∨ first.1 = third.1 ∧ first.2 ≤ third.2 := by
  rcases left with nearer | ⟨same, earlier⟩
  · rcases right with farther | ⟨equal, _⟩
    · exact Or.inl (nearer.trans farther)
    · exact Or.inl (nearer.trans_eq equal)
  · rcases right with farther | ⟨equal, after⟩
    · exact Or.inl (same.trans_lt farther)
    · exact Or.inr ⟨same.trans equal, earlier.trans after⟩

/-- The neighbors are the nearest points. -/
theorem nearest_neighbors : Nearest model query (neighbors model query) := by
  let measures := model.xTrain.map (squaredDistance query)
  let nearer : ℝ × Nat -> ℝ × Nat -> Prop :=
    fun first second => first.1 < second.1 ∨ first.1 = second.1 ∧ first.2 ≤ second.2
  let sorted := measures.zipIdx.insertionSort nearer
  have perm : sorted.Perm measures.zipIdx := List.perm_insertionSort nearer _
  have ordered : sorted.Pairwise nearer :=
    @List.pairwise_insertionSort _ nearer _ ⟨isTotal_nearer⟩ ⟨fun _ _ _ => isTrans_nearer⟩ _
  have split : neighbors model query ++ sorted.drop model.kNeighbors = sorted := List.take_append_drop _ _
  have positions : (sorted.map Prod.snd).Nodup := by
    rw [(perm.map Prod.snd).nodup_iff, List.zipIdx_map_snd]
    exact List.nodup_range'
  constructor
  · rw [neighbors, List.length_take, List.length_insertionSort, List.length_zipIdx, List.length_map]
  · exact ((List.take_sublist _ _).map Prod.snd).nodup positions
  · intro point inside
    exact List.mem_zipIdx_iff_getElem?.mp (perm.mem_iff.mp (List.mem_of_mem_take inside))
  · intro point inside other position found outside
    have present : (other, position) ∈ sorted :=
      perm.mem_iff.mpr (List.mem_zipIdx_iff_getElem?.mpr found)
    rw [← split] at present ordered
    have left : (other, position) ∈ sorted.drop model.kNeighbors :=
      (List.mem_append.mp present).resolve_left fun wrong => outside (List.mem_map_of_mem wrong)
    rcases (List.pairwise_append.mp ordered).2.2 point inside (other, position) left with less | ⟨same, before⟩
    · exact Or.inl less
    · refine Or.inr ⟨same, lt_of_le_of_ne before fun equal => outside ?_⟩
      exact List.mem_map.mpr ⟨point, inside, equal⟩

end Neighbors

/-! ## The process -/

/-- The kernel among points, with the regularization. -/
noncomputable def LocalGPModel.kernel (model : LocalGPModel ℝ) (points : List (List ℝ)) :
    Matrix (Fin points.length) (Fin points.length) ℝ :=
  kernelAmong model.sigmaF model.ell points + diagonal fun _ => model.regularization

/-- The mean of the process at a query, given the values at points. -/
noncomputable def LocalGPModel.posteriorMean (model : LocalGPModel ℝ) (points : List (List ℝ)) (values query : List ℝ) : ℝ :=
  processMean model.sigmaF model.ell points (fun _ => model.regularization) (listValues points.length values)
    (values.sum / values.length) query

/-- The variance of the process at a query. -/
noncomputable def LocalGPModel.posteriorVariance (model : LocalGPModel ℝ) (points : List (List ℝ)) (query : List ℝ) : ℝ :=
  processVariance model.sigmaF model.ell points (fun _ => model.regularization) query

/-- The process is near the values, and its factor is well conditioned. -/
def Trusted (low high candidate : ℝ) {size : Nat} (lower : Matrix (Fin size) (Fin size) ℝ) : Prop :=
  low ≤ candidate ∧ candidate ≤ high ∧ forall first second, lower second second ≤ 10 ^ 5 * lower first first

section Process

variable {invCdf : ℝ -> ℝ} {model : LocalGPModel ℝ} {points : List (List ℝ)} {values query : List ℝ} {width : Nat}

theorem conditioned_iff {size : Nat} {lower : Matrix (Fin size) (Fin size) ℝ} (factor : IsFactor lower) {smallest largest : ℝ}
    (hasSmallest : exists index, lower index index = smallest) (hasLargest : exists index, lower index index = largest)
    (between : forall index, smallest ≤ lower index index ∧ lower index index ≤ largest) :
    1 / 10 ^ 10 ≤ (smallest / largest) ^ 2 ↔ forall first second, lower second second ≤ 10 ^ 5 * lower first first := by
  rcases hasSmallest with ⟨small, isSmallest⟩
  rcases hasLargest with ⟨large, isLargest⟩
  have positiveSmall : 0 < smallest := isSmallest ▸ factor.positive small
  have positiveLarge : 0 < largest := isLargest ▸ factor.positive large
  have root : (1 : ℝ) / 10 ^ 10 = (1 / 10 ^ 5) ^ 2 := by norm_num
  rw [root, sq_le_sq₀ (by positivity) (by positivity), div_le_div_iff₀ (by positivity) positiveLarge, one_mul]
  constructor
  · intro bound first second
    have lowest := (between first).1
    have highest := (between second).2
    linarith
  · intro bound
    have extreme := bound small large
    rw [isSmallest, isLargest] at extreme
    linarith

/-- The candidate is the posterior of the process. -/
theorem localCandidate_ok (nonempty : points ≠ []) (aligned : values.length = points.length)
    (widths : ∀ point ∈ points, point.length = width) (scale : model.ell ≠ 0) (noise : 0 < model.regularization) :
    exists low high, exists lower : Matrix (Fin points.length) (Fin points.length) ℝ,
      localBounds values = .ok (low, high) ∧ IsFactor lower ∧ lower * lowerᵀ = model.kernel points ∧
      exists answer : Option (ℝ × ℝ), localCandidate (realFunctions invCdf) model points values
          (points.map (squaredDistance query)) = .ok answer ∧
        (Trusted low high (model.posteriorMean points values query) lower -> answer =
          some (model.posteriorMean points values query,
            max (model.posteriorVariance points query + model.regularization) machineEpsilon)) ∧
        (¬ Trusted low high (model.posteriorMean points values query) lower -> answer = none) := by
  have someValues : values ≠ [] := List.ne_nil_of_length_pos (aligned ▸ List.length_pos_of_ne_nil nonempty)
  have definite : (model.kernel points).PosDef := posDef_kernelAmong widths fun _ => noise
  rcases cholesky_of_posDef definite with ⟨lower, made, factor, product⟩
  rcases localBounds_ok someValues with ⟨low, high, _, _, isBounds, _⟩
  have someDiagonal : List.ofFn (fun index => lower index index) ≠ [] :=
    List.ne_nil_of_length_pos (by rw [List.length_ofFn]; exact List.length_pos_of_ne_nil nonempty)
  rcases least_ok someDiagonal with ⟨smallest, isSmallest, hasSmallest, above⟩
  rcases greatest_ok someDiagonal with ⟨largest, isLargest, hasLargest, below⟩
  have conditioned := conditioned_iff factor (List.mem_ofFn.mp hasSmallest) (List.mem_ofFn.mp hasLargest)
    fun index => ⟨above _ (List.mem_ofFn.mpr ⟨index, rfl⟩), below _ (List.mem_ofFn.mpr ⟨index, rfl⟩)⟩
  have positive : largest ≠ 0 := by
    rcases List.mem_ofFn.mp hasLargest with ⟨index, same⟩
    exact same ▸ (factor.positive index).ne'
  have vector : ((points.map (squaredDistance query)).mapM (kernelEntry (realFunctions invCdf) model.sigmaF model.ell)) =
      .ok (List.ofFn (kernelWith model.sigmaF model.ell points query)) := by
    rw [mapM_eq_map fun distance _ => kernelEntry_ok scale distance, List.map_map, ofFn_map]
    refine congrArg Except.ok (congrArg List.ofFn (funext fun point => ?_))
    exact congrArg (kernelValue model.sigmaF model.ell) (squaredDistance_comm query (points.get point))
  have regularized : addToDiagonal (rowsOf (kernelAmong model.sigmaF model.ell points))
      ((rowsOf (kernelAmong model.sigmaF model.ell points)).map fun _ => model.regularization) = .ok (rowsOf (model.kernel points)) := by
    have constants : ((rowsOf (kernelAmong model.sigmaF model.ell points)).map fun _ => model.regularization) =
        List.ofFn fun _ : Fin points.length => model.regularization := List.map_ofFn
    rw [constants]
    exact addToDiagonal_rowsOf _ _
  refine ⟨low, high, lower, isBounds, factor, product,
    if low ≤ model.posteriorMean points values query ∧ model.posteriorMean points values query ≤ high ∧
      1 / 10 ^ 10 ≤ (smallest / largest) ^ 2 then some (model.posteriorMean points values query,
        max (model.posteriorVariance points query + model.regularization) machineEpsilon) else none, ?_, ?_, ?_⟩
  · unfold localCandidate
    rw [kernelMatrix_ok scale, ok_bind, regularized, ok_bind]
    change ((cholesky Real.sqrt (rowsOf (model.kernel points))) >>= _) = _
    rw [made, ok_bind, mean_ok someValues, ok_bind, map_listValues aligned, solveCholesky_inverse definite factor product, ok_bind, vector,
      ok_bind, solveCholesky_inverse definite factor product, ok_bind]
    dsimp only
    rw [isBounds, ok_bind, diagonal_rowsOf, ok_bind, isSmallest, ok_bind, isLargest, ok_bind, divide, if_neg positive, ok_bind,
      dot_ofFn, dot_ofFn]
    rfl
  · intro trusted
    exact if_pos ⟨trusted.1, trusted.2.1, conditioned.mpr trusted.2.2⟩
  · intro doubted
    exact if_neg fun wrong => doubted ⟨wrong.1, wrong.2.1, conditioned.mp wrong.2.2⟩

end Process

/-! ## The weighted mean -/

/-- The weights of points at squared distances. -/
noncomputable def LocalGPModel.weights (model : LocalGPModel ℝ) (distances : List ℝ) : List ℝ :=
  distances.map fun value => Real.exp (-(1 / 2) * value / model.ell ^ 2)

/-- The weighted mean of the values. -/
noncomputable def LocalGPModel.weightedMean (model : LocalGPModel ℝ) (distances values : List ℝ) : ℝ :=
  dot (model.weights distances) values / max (model.weights distances).sum machineEpsilon

/-- How far the values are from their weighted mean. -/
noncomputable def LocalGPModel.weightedSpread (model : LocalGPModel ℝ) (distances values : List ℝ) : ℝ :=
  dot (model.weights distances) (values.map fun value => (value - model.weightedMean distances values) ^ 2) /
    max (model.weights distances).sum machineEpsilon

section Weighted

variable {invCdf : ℝ -> ℝ} {model : LocalGPModel ℝ} {distances values weights : List ℝ}

theorem machineEpsilon_pos : (0 : ℝ) < machineEpsilon := by
  unfold machineEpsilon
  norm_num

theorem weights_nonnegative : ∀ weight ∈ model.weights distances, 0 ≤ weight := by
  intro weight inside
  rcases List.mem_map.mp inside with ⟨distance, _, rfl⟩
  exact (Real.exp_pos _).le

theorem dot_nonnegative (left : ∀ weight ∈ weights, 0 ≤ weight) (right : ∀ value ∈ values, 0 ≤ value) :
    0 ≤ dot weights values := by
  induction weights generalizing values with
  | nil => exact le_refl 0
  | cons weight rest inductionHypothesis =>
      cases values with
      | nil => exact le_refl 0
      | cons value others =>
          have tail := inductionHypothesis (fun item inside => left item (List.mem_cons_of_mem _ inside))
            fun item inside => right item (List.mem_cons_of_mem _ inside)
          exact add_nonneg (mul_nonneg (left _ List.mem_cons_self) (right _ List.mem_cons_self)) tail

theorem weightedLocalFallback_ok (scale : model.ell ≠ 0) :
    weightedLocalFallback (realFunctions invCdf) values distances model.ell model.regularization =
      .ok (model.weightedMean distances values,
        max (model.weightedSpread distances values + model.regularization) machineEpsilon) := by
  have weights : (distances.mapM fun value => do
      let exponent ← divide (-(1 / 2) * value) (model.ell ^ 2)
      return (realFunctions invCdf).exp exponent) = Except.ok (model.weights distances) := by
    refine mapM_eq_map fun value _ => ?_
    rw [divide, if_neg (pow_ne_zero 2 scale)]
    rfl
  unfold weightedLocalFallback
  rw [weights, ok_bind]
  rfl

theorem weightedSpread_nonnegative : 0 ≤ model.weightedSpread distances values := by
  refine div_nonneg (dot_nonnegative weights_nonnegative fun value inside => ?_) (le_max_of_le_right machineEpsilon_pos.le)
  rcases List.mem_map.mp inside with ⟨given, _, rfl⟩
  exact sq_nonneg _

end Weighted

/-! ## Answers -/

/-- A trained model: points of one width with a value each. -/
structure LocalGPModel.Sound (model : LocalGPModel ℝ) (width : Nat) : Prop where
  trained : model.xTrain ≠ []
  aligned : model.yTrain.length = model.xTrain.length
  widths : ∀ point ∈ model.xTrain, point.length = width
  several : 0 < model.kNeighbors
  scale : model.ell ≠ 0
  noise : 0 < model.regularization

/-- The points at the chosen positions. -/
def LocalGPModel.pointsAt (model : LocalGPModel ℝ) (chosen : List (ℝ × Nat)) : List (List ℝ) :=
  chosen.map fun place => model.xTrain.getD place.2 []

/-- The values at the chosen positions. -/
def LocalGPModel.valuesAt (model : LocalGPModel ℝ) (chosen : List (ℝ × Nat)) : List ℝ :=
  chosen.map fun place => model.yTrain.getD place.2 0

/-- What a model answers from chosen points.  The process is given up only when it is not to be
trusted. -/
structure LocalGPModel.Answers (model : LocalGPModel ℝ) (query : List ℝ) (chosen : List (ℝ × Nat))
    (answer : LocalAnswer ℝ) : Prop where
  choice : exists low high, exists lower : Matrix (Fin (model.pointsAt chosen).length) (Fin (model.pointsAt chosen).length) ℝ,
    localBounds (model.valuesAt chosen) = .ok (low, high) ∧ IsFactor lower ∧
      lower * lowerᵀ = model.kernel (model.pointsAt chosen) ∧ (answer.fellBack = false ↔
        Trusted low high (model.posteriorMean (model.pointsAt chosen) (model.valuesAt chosen) query) lower)
  process : answer.fellBack = false ->
    answer.mean = model.posteriorMean (model.pointsAt chosen) (model.valuesAt chosen) query ∧
      answer.std ^ 2 = max (model.posteriorVariance (model.pointsAt chosen) query + model.regularization) machineEpsilon ∧
      0 ≤ model.posteriorVariance (model.pointsAt chosen) query ∧
      model.posteriorVariance (model.pointsAt chosen) query ≤ model.sigmaF ^ 2
  weighted : answer.fellBack = true ->
    answer.mean = model.weightedMean (chosen.map Prod.fst) (model.valuesAt chosen) ∧
      answer.std ^ 2 =
        max (model.weightedSpread (chosen.map Prod.fst) (model.valuesAt chosen) + model.regularization) machineEpsilon
  certain : 0 < answer.std ∧ model.regularization ≤ answer.std ^ 2

section Answers

variable {invCdf : ℝ -> ℝ} {model : LocalGPModel ℝ} {chosen : List (ℝ × Nat)} {query : List ℝ} {queries : List (List ℝ)}
  {width : Nat}

/-- What is read at the chosen positions. -/
theorem points_ok (sound : model.Sound width) (nearest : Nearest model query chosen) :
    (chosen.mapM fun point => readAt AggregationError.indexError model.xTrain point.2) = .ok (model.pointsAt chosen) ∧
      (chosen.mapM fun point => readAt AggregationError.indexError model.yTrain point.2) = .ok (model.valuesAt chosen) ∧
      chosen.map Prod.fst = (model.pointsAt chosen).map (squaredDistance query) ∧
      ∀ point ∈ model.pointsAt chosen, point.length = width := by
  have found (place : ℝ × Nat) (inside : place ∈ chosen) :
      exists point, model.xTrain[place.2]? = some point ∧ squaredDistance query point = place.1 := by
    have measured := nearest.measured place inside
    rw [List.getElem?_map] at measured
    exact Option.map_eq_some_iff.mp measured
  refine ⟨mapM_eq_map fun place inside => ?_, mapM_eq_map fun place inside => ?_, ?_, fun point member => ?_⟩
  · rcases found place inside with ⟨point, isPoint, _⟩
    rw [readAt_ok_iff, List.getD_eq_getElem?_getD, isPoint]
    rfl
  · rcases found place inside with ⟨point, isPoint, _⟩
    have within : place.2 < model.yTrain.length := sound.aligned ▸ (List.getElem?_eq_some_iff.mp isPoint).1
    rw [readAt_ok_iff, List.getD_eq_getElem?_getD, List.getElem?_eq_getElem within]
    rfl
  · unfold LocalGPModel.pointsAt
    rw [List.map_map]
    refine List.map_congr_left fun place inside => ?_
    rcases found place inside with ⟨point, isPoint, same⟩
    dsimp only [Function.comp_apply]
    rw [List.getD_eq_getElem?_getD, isPoint]
    exact same.symm
  · rcases List.mem_map.mp member with ⟨place, inside, rfl⟩
    rcases found place inside with ⟨point, isPoint, _⟩
    rw [List.getD_eq_getElem?_getD, isPoint]
    exact sound.widths point (List.mem_of_getElem? isPoint)

/-- The deviation of a variance that is not clamped below the regularization. -/
theorem deviation_of_variance {variance noise : ℝ} (nonnegative : 0 ≤ variance) :
    0 < Real.sqrt (max (max (variance + noise) machineEpsilon) machineEpsilon) ∧
      Real.sqrt (max (max (variance + noise) machineEpsilon) machineEpsilon) ^ 2 = max (variance + noise) machineEpsilon ∧
      noise ≤ max (variance + noise) machineEpsilon := by
  have positive : 0 < max (variance + noise) machineEpsilon := lt_max_of_lt_right machineEpsilon_pos
  rw [max_eq_left (le_max_right _ _)]
  exact ⟨Real.sqrt_pos.mpr positive, Real.sq_sqrt positive.le, le_max_of_le_left (by linarith)⟩

theorem localAnswer_ok (sound : model.Sound width) (queryWidth : query.length = width) :
    exists answer, localAnswer (realFunctions invCdf) model query = .ok answer ∧
      Nearest model query (neighbors model query) ∧ model.Answers query (neighbors model query) answer := by
  have nearest : Nearest model query (neighbors model query) := nearest_neighbors
  rcases points_ok sound nearest with ⟨points, values, distances, widths⟩
  have several : 0 < (neighbors model query).length := by
    rw [nearest.count]
    exact lt_min sound.several (List.length_pos_of_ne_nil sound.trained)
  have nonempty : model.pointsAt (neighbors model query) ≠ [] :=
    List.ne_nil_of_length_pos (by rw [LocalGPModel.pointsAt, List.length_map]; exact several)
  have aligned : (model.valuesAt (neighbors model query)).length = (model.pointsAt (neighbors model query)).length := by
    rw [LocalGPModel.pointsAt, LocalGPModel.valuesAt, List.length_map, List.length_map]
  rcases @localCandidate_ok invCdf model _ _ query width nonempty aligned widths sound.scale sound.noise with
    ⟨low, high, lower, bounds, factor, product, candidate, isCandidate, trusted, doubted⟩
  have between : 0 ≤ model.posteriorVariance (model.pointsAt (neighbors model query)) query ∧
      model.posteriorVariance (model.pointsAt (neighbors model query)) query ≤ model.sigmaF ^ 2 :=
    processVariance_between widths (fun _ => sound.noise) queryWidth
  have spread : 0 ≤ model.weightedSpread ((neighbors model query).map Prod.fst) (model.valuesAt (neighbors model query)) :=
    weightedSpread_nonnegative
  unfold localAnswer
  dsimp only
  rw [points, ok_bind, values, ok_bind, weightedLocalFallback_ok sound.scale, ok_bind]
  rw [← distances] at isCandidate
  rw [isCandidate]
  by_cases trust : Trusted low high
      (model.posteriorMean (model.pointsAt (neighbors model query)) (model.valuesAt (neighbors model query)) query) lower
  · rw [trusted trust]
    have deviation := @deviation_of_variance _ model.regularization between.1
    exact ⟨_, rfl, nearest, ⟨low, high, lower, bounds, factor, product, iff_of_true rfl trust⟩,
      fun _ => ⟨rfl, deviation.2.1, between⟩, fun wrong => (by cases wrong), deviation.1, deviation.2.2.trans_eq deviation.2.1.symm⟩
  · rw [doubted trust]
    have deviation := @deviation_of_variance _ model.regularization spread
    exact ⟨_, rfl, nearest, ⟨low, high, lower, bounds, factor, product, iff_of_false (fun wrong => by cases wrong) trust⟩,
      fun wrong => (by cases wrong), fun _ => ⟨rfl, deviation.2.1⟩, deviation.1, deviation.2.2.trans_eq deviation.2.1.symm⟩

/-- Two points with a value each. -/
noncomputable def referenceModel : LocalGPModel ℝ where
  xTrain := [[0], [1]]
  yTrain := [1, 2]
  kNeighbors := 2
  ell := 1
  sigmaF := 1
  sigmaN := 1
  regularization := 1

theorem referenceModel_sound : referenceModel.Sound 1 where
  trained := List.cons_ne_nil _ _
  aligned := rfl
  widths := by
    intro point inside
    rcases List.mem_pair.mp inside with rfl | rfl <;> rfl
  several := Nat.succ_pos 1
  scale := one_ne_zero
  noise := one_pos

end Answers

end Simulation
end Worker
end FederatedIot
