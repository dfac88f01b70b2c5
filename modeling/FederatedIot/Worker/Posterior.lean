import FederatedIot.Worker.LocalModel

namespace FederatedIot
namespace Worker
namespace Simulation

open Foundation Foundation.Outcome Foundation.Positions Foundation.Clusters Foundation.Kernels Cholesky Matrix

/-!
# Posteriors of Gaussian processes

Over the reals the lists that the models work with are the rows of a kernel between the
training points.  With noise on its diagonal it is definite, whether or not points are
equal.  What is left of the variance of a query is never negative.
-/

attribute [local instance] two_atLeastTwo ten_atLeastTwo

/-- The exact square root and exponential. -/
noncomputable def realFunctions (invCdf : ℝ -> ℝ) : Fusion.Functions ℝ where
  sqrt := Real.sqrt
  exp := Real.exp
  invCdf := invCdf

section Lists

variable {invCdf : ℝ -> ℝ} {sigmaF ell : ℝ} {points : List (List ℝ)} {query : List ℝ} {size : Nat}

/-- The kernel at a squared distance. -/
noncomputable def kernelValue (sigmaF ell distance : ℝ) : ℝ :=
  sigmaF ^ 2 * Real.exp (-(1 / 2) * distance / ell ^ 2)

/-- The kernel between points. -/
noncomputable def kernelAmong (sigmaF ell : ℝ) (points : List (List ℝ)) :
    Matrix (Fin points.length) (Fin points.length) ℝ :=
  of fun first second => kernelValue sigmaF ell (squaredDistance (points.get first) (points.get second))

/-- The kernel between points and a query. -/
noncomputable def kernelWith (sigmaF ell : ℝ) (points : List (List ℝ)) (query : List ℝ) (point : Fin points.length) : ℝ :=
  kernelValue sigmaF ell (squaredDistance (points.get point) query)

theorem kernelEntry_ok (nonzero : ell ≠ 0) (distance : ℝ) :
    kernelEntry (realFunctions invCdf) sigmaF ell distance = .ok (kernelValue sigmaF ell distance) := by
  rw [kernelEntry, divide, if_neg (pow_ne_zero 2 nonzero)]
  rfl

theorem ofFn_map {β γ : Type} (values : List β) (change : β -> γ) :
    values.map change = List.ofFn fun index : Fin values.length => change (values.get index) := by
  nth_rewrite 1 [← List.ofFn_get values]
  rw [List.map_ofFn]
  rfl

theorem kernelMatrix_ok (nonzero : ell ≠ 0) (points : List (List ℝ)) :
    kernelMatrix (realFunctions invCdf) points points sigmaF ell = .ok (rowsOf (kernelAmong sigmaF ell points)) := by
  have row (a : List ℝ) : (points.mapM fun b => kernelEntry (realFunctions invCdf) sigmaF ell (squaredDistance a b)) =
      .ok (points.map fun b => kernelValue sigmaF ell (squaredDistance a b)) :=
    mapM_eq_map fun b _ => kernelEntry_ok nonzero _
  rw [kernelMatrix, mapM_eq_map fun a _ => row a, ofFn_map]
  refine congrArg Except.ok (congrArg List.ofFn (funext fun first => ?_))
  rw [ofFn_map]
  rfl

theorem dot_ofFn (left right : Fin size -> ℝ) : dot (List.ofFn left) (List.ofFn right) = left ⬝ᵥ right := by
  induction size with
  | zero => rfl
  | succ size inductionHypothesis =>
      have tail := inductionHypothesis (left ∘ Fin.succ) (right ∘ Fin.succ)
      unfold dot at tail ⊢
      rw [List.ofFn_succ, List.ofFn_succ, List.zipWith_cons_cons, List.sum_cons]
      exact (congrArg (left 0 * right 0 + ·) tail).trans (Fin.sum_univ_succ fun index => left index * right index).symm

/-- Values are added to the entries of the diagonal. -/
theorem addToDiagonal_matrixOf (entry : Nat -> Nat -> ℝ) (added : Nat -> ℝ) (count : Nat) (within : count ≤ size) :
    ((List.range count).map fun index => (added index, index)).foldlM (fun matrix entry => do
        let given ← entryAt matrix entry.2 entry.2
        setEntry matrix entry.2 entry.2 (given + entry.1)) (matrixOf size entry) =
      Except.ok (matrixOf size fun row column =>
        if row = column ∧ row < count then entry row column + added row else entry row column) := by
  induction count with
  | zero =>
      refine congrArg Except.ok (congrArg (matrixOf size) ?_)
      funext row column
      rw [if_neg fun wrong => Nat.not_lt_zero row wrong.2]
  | succ count inductionHypothesis =>
      rw [List.range_succ, List.map_append, List.foldlM_append, inductionHypothesis (by omega), ok_bind, List.map_cons,
        List.map_nil, List.foldlM_cons]
      dsimp only
      rw [entryAt_matrixOf within within, ok_bind, setEntry_matrixOf within within, ok_bind, List.foldlM_nil]
      refine congrArg Except.ok (congrArg (matrixOf size) ?_)
      funext row column
      by_cases same : row = count
      · by_cases diagonal : column = count
        · rw [same, diagonal, setAt_self, if_neg fun wrong => lt_irrefl count wrong.2,
            if_pos ⟨rfl, Nat.lt_succ_self count⟩]
        · rw [same, setAt_column diagonal, if_neg fun wrong => diagonal wrong.1.symm,
            if_neg fun wrong => diagonal wrong.1.symm]
      · rw [setAt_row same]
        refine if_congr (and_congr_right fun _ => ?_) rfl rfl
        omega

theorem zipIdx_ofFn (values : Fin size -> ℝ) :
    (List.ofFn values).zipIdx = (List.range size).map fun index => (entriesOf values index, index) := by
  rw [ofFn_eq_vectorOf]
  exact zipIdx_vectorOf size _

theorem addToDiagonal_rowsOf (matrix : Matrix (Fin size) (Fin size) ℝ) (added : Fin size -> ℝ) :
    addToDiagonal (rowsOf matrix) (List.ofFn added) = .ok (rowsOf (matrix + diagonal added)) := by
  rw [addToDiagonal, zipIdx_ofFn, rowsOf_eq_matrixOf, addToDiagonal_matrixOf _ _ size (le_refl size), ← rowsOf_squareOf]
  refine congrArg Except.ok (congrArg rowsOf ?_)
  ext row column
  rw [squareOf, of_apply, Matrix.add_apply, diagonal_apply, gridOf_val]
  by_cases same : row = column
  · rw [if_pos ⟨congrArg Fin.val same, row.isLt⟩, if_pos same, entriesOf_inside added row.isLt]
  · rw [if_neg fun wrong => same (Fin.ext wrong.1), if_neg same, add_zero]

/-- The mean of a process at a query, given the values at points that have noise. -/
noncomputable def processMean (sigmaF ell : ℝ) (points : List (List ℝ)) (noise values : Fin points.length -> ℝ) (center : ℝ)
    (query : List ℝ) : ℝ :=
  center + kernelWith sigmaF ell points query ⬝ᵥ
    (kernelAmong sigmaF ell points + diagonal noise)⁻¹ *ᵥ fun point => values point - center

/-- The variance of a process at a query, given points that have noise. -/
noncomputable def processVariance (sigmaF ell : ℝ) (points : List (List ℝ)) (noise : Fin points.length -> ℝ)
    (query : List ℝ) : ℝ :=
  sigmaF ^ 2 - kernelWith sigmaF ell points query ⬝ᵥ
    (kernelAmong sigmaF ell points + diagonal noise)⁻¹ *ᵥ kernelWith sigmaF ell points query

end Lists

/-! ## Definite kernels -/

section Definite

variable {sigmaF ell : ℝ} {points : List (List ℝ)} {query : List ℝ} {width : Nat}

/-- A point of a list as a vector. -/
def axesOf (width : Nat) (point : List ℝ) (axis : Fin width) : ℝ :=
  point.getD axis 0

theorem squaredDistance_axes {left right : List ℝ} (leftWidth : left.length = width) (rightWidth : right.length = width) :
    squaredDistance left right = ∑ axis, (axesOf width left axis - axesOf width right axis) ^ 2 := by
  rw [squaredDistance_eq_sum leftWidth rightWidth]
  exact (Fin.sum_univ_eq_sum_range (fun axis => (left.getD axis 0 - right.getD axis 0) ^ 2) width).symm

theorem kernelValue_eq {left right : List ℝ} (leftWidth : left.length = width) (rightWidth : right.length = width) :
    kernelValue sigmaF ell (squaredDistance left right) =
      sigmaF ^ 2 * Real.exp (-(1 / (2 * ell ^ 2) * ∑ axis, (axesOf width left axis - axesOf width right axis) ^ 2)) := by
  rw [kernelValue, squaredDistance_axes leftWidth rightWidth]
  refine congrArg (fun exponent => sigmaF ^ 2 * Real.exp exponent) ?_
  rw [← one_div_mul_one_div]
  ring

/-- The points and the query. -/
def placesOf (width : Nat) (points : List (List ℝ)) (query : List ℝ) (place : Option (Fin points.length)) :
    Fin width -> ℝ :=
  axesOf width (place.elim query fun point => (points.get point))

variable (widths : ∀ point ∈ points, point.length = width)

include widths

theorem kernelAmong_eq : kernelAmong sigmaF ell points =
    gaussian (sigmaF ^ 2) (1 / (2 * ell ^ 2)) fun point : Fin points.length => axesOf width (points.get point) := by
  ext first second
  rw [kernelAmong, of_apply, kernelValue_eq (widths _ (List.get_mem _ _)) (widths _ (List.get_mem _ _))]
  rfl

/-- The kernel with noise is definite. -/
theorem posDef_kernelAmong {noise : Fin points.length -> ℝ} (positive : forall point, 0 < noise point) :
    (kernelAmong sigmaF ell points + diagonal noise).PosDef := by
  rw [kernelAmong_eq widths]
  exact posDef_noise (posSemidef_gaussian (sq_nonneg _) (by positivity) _) positive

/-- What the points explain of the variance at a query. -/
theorem explained_between {noise : Fin points.length -> ℝ} (positive : forall point, 0 < noise point)
    (queryWidth : query.length = width) :
    0 ≤ kernelWith sigmaF ell points query ⬝ᵥ
        (kernelAmong sigmaF ell points + diagonal noise)⁻¹ *ᵥ kernelWith sigmaF ell points query ∧
      kernelWith sigmaF ell points query ⬝ᵥ
        (kernelAmong sigmaF ell points + diagonal noise)⁻¹ *ᵥ kernelWith sigmaF ell points query ≤ sigmaF ^ 2 := by
  have definite : (kernelAmong sigmaF ell points + diagonal noise).PosDef := posDef_kernelAmong widths positive
  have solves := inverse_solves definite (kernelWith sigmaF ell points query)
  have semidefinite : (gaussian (sigmaF ^ 2) (1 / (2 * ell ^ 2)) (placesOf width points query)).PosSemidef :=
    posSemidef_gaussian (sq_nonneg _) (by positivity) _
  have among (first second : Fin points.length) :
      gaussian (sigmaF ^ 2) (1 / (2 * ell ^ 2)) (placesOf width points query) (some first) (some second) =
        kernelAmong sigmaF ell points first second := by
    rw [kernelAmong_eq widths]
    rfl
  have between (point : Fin points.length) :
      gaussian (sigmaF ^ 2) (1 / (2 * ell ^ 2)) (placesOf width points query) (some point) none =
        kernelWith sigmaF ell points query point := by
    rw [kernelWith, kernelValue_eq (widths _ (List.get_mem _ _)) queryWidth]
    rfl
  have own : gaussian (sigmaF ^ 2) (1 / (2 * ell ^ 2)) (placesOf width points query) none none = sigmaF ^ 2 := by
    rw [gaussian, of_apply]
    simp only [sub_self, ne_eq, OfNat.ofNat_ne_zero, not_false_eq_true, zero_pow, Finset.sum_const_zero, mul_zero, neg_zero,
      Real.exp_zero, mul_one]
  have bounds := @explained_bounds _ _ _ noise
    ((kernelAmong sigmaF ell points + diagonal noise)⁻¹ *ᵥ kernelWith sigmaF ell points query) semidefinite
    (fun point => (positive point).le) fun point => ?_
  · simp only [between, own] at bounds
    exact bounds
  · simp only [among, between]
    nth_rewrite 3 [← solves]
    rw [add_mulVec, Pi.add_apply, mulVec_diagonal]
    rfl

/-- What is left of the variance at a query. -/
theorem processVariance_between {noise : Fin points.length -> ℝ} (positive : forall point, 0 < noise point)
    (queryWidth : query.length = width) :
    0 ≤ processVariance sigmaF ell points noise query ∧ processVariance sigmaF ell points noise query ≤ sigmaF ^ 2 := by
  have explained := @explained_between sigmaF ell points query width widths noise positive queryWidth
  unfold processVariance
  constructor <;> linarith [explained.1, explained.2]

end Definite

end Simulation
end Worker
end FederatedIot
