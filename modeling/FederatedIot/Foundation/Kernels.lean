import Mathlib.Analysis.Matrix.Order
import Mathlib.Analysis.SpecialFunctions.Exponential
import Mathlib.Algebra.BigOperators.Option

namespace Foundation
namespace Kernels

open Matrix Finset

/-!
# Gaussian kernels

The exponential of every entry of a positive semidefinite matrix is positive semidefinite,
since its form is the limit of those of the powers.  So is the kernel of points that falls
with the squared distance.  With noise on its diagonal the kernel is definite, and the part
of a further point that the others explain is no more than all of it.
-/

variable {Point Axis : Type*} [Fintype Point] [Fintype Axis] {matrix : Matrix Point Point ℝ}

/-! ## Entries -/

/-- The form of a matrix, entry by entry. -/
theorem form_eq_sum (matrix : Matrix Point Point ℝ) (vector : Point -> ℝ) :
    vector ⬝ᵥ matrix *ᵥ vector = ∑ row, ∑ column, vector row * matrix row column * vector column := by
  refine sum_congr rfl fun row _ => ?_
  rw [mulVec, dotProduct, mul_sum]
  exact sum_congr rfl fun column _ => (mul_assoc _ _ _).symm

theorem posSemidef_power (semidefinite : matrix.PosSemidef) (exponent : Nat) :
    (matrix.map fun value => value ^ exponent).PosSemidef := by
  induction exponent with
  | zero =>
      have ones : (matrix.map fun value => value ^ 0) = vecMulVec 1 (star 1) := by
        ext row column
        rw [map_apply, pow_zero, vecMulVec_apply, star_one, Pi.one_apply, Pi.one_apply, mul_one]
      rw [ones]
      exact posSemidef_vecMulVec_self_star 1
  | succ exponent inductionHypothesis =>
      have product : (matrix.map fun value => value ^ (exponent + 1)) =
          (matrix.map fun value => value ^ exponent) ⊙ matrix := by
        ext row column
        rw [map_apply, hadamard_apply, map_apply, pow_succ]
      rw [product]
      exact inductionHypothesis.hadamard semidefinite

/-- The exponential of every entry keeps a matrix positive semidefinite. -/
theorem posSemidef_exp (semidefinite : matrix.PosSemidef) : (matrix.map Real.exp).PosSemidef := by
  refine PosSemidef.of_dotProduct_mulVec_nonneg (semidefinite.isHermitian.map Real.exp fun _ => rfl) fun vector => ?_
  rw [star_trivial]
  have terms : HasSum
      (fun exponent : Nat => (vector ⬝ᵥ (matrix.map fun value => value ^ exponent) *ᵥ vector) / exponent.factorial)
      (vector ⬝ᵥ (matrix.map Real.exp) *ᵥ vector) := by
    simp only [form_eq_sum, sum_div]
    refine hasSum_sum fun row _ => hasSum_sum fun column _ => ?_
    simp only [map_apply]
    have series := (NormedSpace.expSeries_div_hasSum_exp (matrix row column)).mul_left (vector row)
    have scaled := series.mul_right (vector column)
    rw [← Real.exp_eq_exp_ℝ] at scaled
    refine scaled.congr_fun fun exponent => ?_
    rw [mul_div_assoc', div_mul_eq_mul_div]
  refine terms.nonneg fun exponent => ?_
  have form := (posSemidef_power semidefinite exponent).dotProduct_mulVec_nonneg vector
  rw [star_trivial] at form
  exact div_nonneg form (Nat.cast_nonneg _)

/-! ## The kernel -/

/-- A kernel that falls with the squared distance of the points. -/
noncomputable def gaussian (amplitude rate : ℝ) (points : Point -> Axis -> ℝ) : Matrix Point Point ℝ :=
  of fun first second => amplitude * Real.exp (-(rate * ∑ axis, (points first axis - points second axis) ^ 2))

omit [Fintype Point] in
/-- The kernel is the product of the exponential of the products of the points with what
belongs to each point alone. -/
theorem gaussian_eq_hadamard (rate : ℝ) (points : Point -> Axis -> ℝ) :
    gaussian 1 rate points =
      vecMulVec (fun point => Real.exp (-(rate * ∑ axis, points point axis ^ 2)))
          (star fun point => Real.exp (-(rate * ∑ axis, points point axis ^ 2))) ⊙
        ((2 * rate) • (of points * (of points)ᴴ)).map Real.exp := by
  ext first second
  rw [gaussian, of_apply, one_mul, hadamard_apply, vecMulVec_apply, star_trivial, map_apply, Matrix.smul_apply, mul_apply,
    ← Real.exp_add, ← Real.exp_add]
  refine congrArg Real.exp ?_
  simp only [of_apply, conjTranspose_apply, star_trivial, smul_eq_mul, mul_sum, ← sum_neg_distrib, ← sum_add_distrib]
  exact sum_congr rfl fun axis _ => by ring

theorem posSemidef_gaussian {amplitude rate : ℝ} (positive : 0 ≤ amplitude) (falls : 0 ≤ rate)
    (points : Point -> Axis -> ℝ) : (gaussian amplitude rate points).PosSemidef := by
  have scaled : gaussian amplitude rate points = amplitude • gaussian 1 rate points := by
    ext first second
    rw [gaussian, of_apply, Matrix.smul_apply, gaussian, of_apply, one_mul, smul_eq_mul]
  rw [scaled, gaussian_eq_hadamard]
  refine PosSemidef.smul (PosSemidef.hadamard (posSemidef_vecMulVec_self_star _) (posSemidef_exp ?_)) positive
  exact PosSemidef.smul (posSemidef_self_mul_conjTranspose _) (by positivity)

omit [Fintype Point] in
/-- With noise on its diagonal a semidefinite matrix is definite. -/
theorem posDef_noise [DecidableEq Point] (semidefinite : matrix.PosSemidef) {noise : Point -> ℝ}
    (positive : forall point, 0 < noise point) : (matrix + diagonal noise).PosDef :=
  (PosDef.diagonal positive).posSemidef_add semidefinite

/-! ## What other points explain -/

section Explained

variable {extended : Matrix (Option Point) (Option Point) ℝ} {noise weights : Point -> ℝ}

omit [Fintype Point] in
theorem extended_symm (semidefinite : extended.PosSemidef) (point : Point) :
    extended none (some point) = extended (some point) none := by
  have symmetric := semidefinite.isHermitian.apply (some point) none
  rw [star_trivial] at symmetric
  exact symmetric

/-- The part of a further point that weights of the others explain is not negative, and no more
than all of it. -/
theorem explained_bounds (semidefinite : extended.PosSemidef) (nonnegative : forall point, 0 ≤ noise point)
    (solves : forall point, ∑ other, extended (some point) (some other) * weights other + noise point * weights point =
      extended (some point) none) :
    0 ≤ ∑ point, extended (some point) none * weights point ∧
      ∑ point, extended (some point) none * weights point ≤ extended none none := by
  have noises : 0 ≤ ∑ point, noise point * weights point ^ 2 :=
    sum_nonneg fun point _ => mul_nonneg (nonnegative point) (sq_nonneg _)
  -- The form of the weights among the points, by what they solve.
  have form : ∑ point, ∑ other, weights point * extended (some point) (some other) * weights other =
      ∑ point, extended (some point) none * weights point - ∑ point, noise point * weights point ^ 2 := by
    rw [← sum_sub_distrib]
    refine sum_congr rfl fun point _ => ?_
    rw [← solves point, add_mul, sum_mul]
    have each : ∑ other, weights point * extended (some point) (some other) * weights other =
        ∑ other, extended (some point) (some other) * weights other * weights point :=
      sum_congr rfl fun other _ => by ring
    rw [each]
    ring
  have points := semidefinite.dotProduct_mulVec_nonneg fun place => place.elim 0 weights
  have all := semidefinite.dotProduct_mulVec_nonneg fun place => place.elim (-1) weights
  rw [star_trivial, form_eq_sum] at points all
  simp only [Fintype.sum_option, Option.elim_none, Option.elim_some, zero_mul, mul_zero, zero_add,
    sum_const_zero] at points
  simp only [Fintype.sum_option, Option.elim_none, Option.elim_some, sum_add_distrib, extended_symm semidefinite] at all
  rw [form] at points all
  have crossed : ∑ point, weights point * extended (some point) none * -1 =
      -∑ point, extended (some point) none * weights point := by
    rw [← sum_neg_distrib]
    exact sum_congr rfl fun point _ => by ring
  have crossing : ∑ point, -1 * extended (some point) none * weights point =
      -∑ point, extended (some point) none * weights point := by
    rw [← sum_neg_distrib]
    exact sum_congr rfl fun point _ => by ring
  rw [crossed, crossing] at all
  constructor <;> linarith

end Explained

end Kernels
end Foundation
