import FederatedIot.Foundation.Kernels
import FederatedIot.Worker.RealCholesky
import Mathlib.LinearAlgebra.Matrix.NonsingularInverse

namespace FederatedIot
namespace Worker
namespace Cholesky

open Foundation Foundation.Outcome Foundation.Triangular Finset Matrix

/-!
# Systems with a definite matrix

With the factor of a definite matrix the solves answer with the product of its inverse, and
the square of the first solve is the form of the inverse.
-/

variable {size : Nat} {matrix lower : Matrix (Fin size) (Fin size) ℝ}

theorem isSymm_of_posDef (definite : matrix.PosDef) : matrix.IsSymm := by
  have hermitian := definite.isHermitian
  rw [IsHermitian, conjTranspose_eq_transpose_of_trivial] at hermitian
  exact hermitian

/-- A definite matrix has a factor. -/
theorem cholesky_of_posDef (definite : matrix.PosDef) : exists lower : Matrix (Fin size) (Fin size) ℝ,
    cholesky Real.sqrt (rowsOf matrix) = .ok (rowsOf lower) ∧ IsFactor lower ∧ lower * lowerᵀ = matrix := by
  have symmetric := isSymm_of_posDef definite
  rcases cholesky_cases isRoot_sqrt (gridOf_symm symmetric) with ⟨entries, made, factor⟩ | ⟨_, indefinite⟩
  · rw [rowsOf_eq_matrixOf]
    exact ⟨squareOf size entries, by rw [made, rowsOf_squareOf], isFactor_of_hasFactor symmetric factor⟩
  · exact absurd ((positiveDefinite_gridOf symmetric).mpr definite) indefinite

theorem inverse_solves (definite : matrix.PosDef) (right : Fin size -> ℝ) : matrix *ᵥ (matrix⁻¹ *ᵥ right) = right := by
  have unit : IsUnit matrix.det := (isUnit_iff_isUnit_det matrix).mp definite.isUnit
  rw [mulVec_mulVec, mul_nonsing_inv matrix unit, one_mulVec]

theorem inverse_unique (definite : matrix.PosDef) {right answer : Fin size -> ℝ} (solves : matrix *ᵥ answer = right) :
    answer = matrix⁻¹ *ᵥ right := by
  have unit : IsUnit matrix.det := (isUnit_iff_isUnit_det matrix).mp definite.isUnit
  rw [← solves, mulVec_mulVec, nonsing_inv_mul matrix unit, one_mulVec]

/-- The two solves multiply by the inverse. -/
theorem solveCholesky_inverse (definite : matrix.PosDef) (factor : IsFactor lower) (product : lower * lowerᵀ = matrix)
    (right : Fin size -> ℝ) :
    solveCholesky (rowsOf lower) (List.ofFn right) = .ok (List.ofFn (matrix⁻¹ *ᵥ right)) := by
  rcases solveCholesky_ok factor.nonzero (entriesOf right) with ⟨middle, unknown, solved, lowerSolves, upperSolves⟩
  have answers : matrix *ᵥ valuesOf size unknown = right := by
    rw [← product, ← mulVec_mulVec, (upper_solution factor upperSolves _).mpr rfl]
    exact (lower_solution factor lowerSolves _).mpr rfl
  rw [rowsOf_eq_matrixOf, ofFn_eq_vectorOf, solved, ← ofFn_valuesOf, inverse_unique definite answers]

/-- The square of the first solve is the form of the inverse. -/
theorem forwardSolve_square (definite : matrix.PosDef) (factor : IsFactor lower) (product : lower * lowerᵀ = matrix)
    (right : Fin size -> ℝ) : exists forward : Fin size -> ℝ,
      forwardSolve (rowsOf lower) (List.ofFn right) = .ok (List.ofFn forward) ∧
        forward ⬝ᵥ forward = right ⬝ᵥ matrix⁻¹ *ᵥ right := by
  rcases forwardSolve_ok factor.nonzero (entriesOf right) with ⟨unknown, solved, solves⟩
  have isForward : lower *ᵥ valuesOf size unknown = right := (lower_solution factor solves _).mpr rfl
  refine ⟨valuesOf size unknown, ?_, ?_⟩
  · rw [rowsOf_eq_matrixOf, ofFn_eq_vectorOf, solved, ofFn_valuesOf]
  · have transposed : lowerᵀ *ᵥ (matrix⁻¹ *ᵥ right) = valuesOf size unknown := by
      have both := inverse_solves definite right
      nth_rewrite 1 [← product] at both
      rw [← mulVec_mulVec] at both
      exact ((lower_solution factor solves _).mp both)
    calc
      valuesOf size unknown ⬝ᵥ valuesOf size unknown
          = valuesOf size unknown ⬝ᵥ lowerᵀ *ᵥ (matrix⁻¹ *ᵥ right) := by rw [transposed]
      _ = (lower *ᵥ valuesOf size unknown) ⬝ᵥ matrix⁻¹ *ᵥ right := by
          rw [dotProduct_mulVec, vecMul_transpose]
      _ = right ⬝ᵥ matrix⁻¹ *ᵥ right := by rw [isForward]

end Cholesky
end Worker
end FederatedIot
