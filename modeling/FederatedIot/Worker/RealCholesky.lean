import FederatedIot.Worker.Cholesky
import Mathlib.Algebra.BigOperators.Fin
import Mathlib.Algebra.Order.Star.Real
import Mathlib.Analysis.Real.Sqrt
import Mathlib.LinearAlgebra.Matrix.PosDef

namespace FederatedIot
namespace Worker
namespace Cholesky

open Foundation.Triangular Finset Matrix

/-!
# Factors over the reals

The rows of a real square matrix are read as entries of a row and a column, which are zero
outside.  With the exact square root the factor exists for a symmetric matrix when and only
when the matrix is positive definite, and the solves answer with the one solution.
-/

variable {size : Nat}

/-! ## Finite vectors as lists -/

section Values

variable {β : Type}

/-- The first entries as a finite vector. -/
def valuesOf (size : Nat) (entry : Nat -> β) (index : Fin size) : β :=
  entry index

theorem ofFn_valuesOf (entry : Nat -> β) : List.ofFn (valuesOf size entry) = vectorOf size entry := by
  apply List.ext_getElem?
  intro index
  rw [List.getElem?_ofFn]
  by_cases inside : index < size
  · rw [dif_pos inside, getElem?_vectorOf inside, valuesOf]
  · rw [dif_neg inside, List.getElem?_eq_none (by rw [length_vectorOf]; omega)]

variable [Zero β]

/-- The entries of a finite vector. -/
def entriesOf (values : Fin size -> β) (index : Nat) : β :=
  if inside : index < size then values ⟨index, inside⟩ else 0

theorem entriesOf_inside (values : Fin size -> β) {index : Nat} (inside : index < size) :
    entriesOf values index = values ⟨index, inside⟩ :=
  dif_pos inside

@[simp]
theorem valuesOf_entriesOf (values : Fin size -> β) : valuesOf size (entriesOf values) = values :=
  funext fun index => entriesOf_inside values index.isLt

theorem ofFn_eq_vectorOf (values : Fin size -> β) : List.ofFn values = vectorOf size (entriesOf values) := by
  rw [← ofFn_valuesOf, valuesOf_entriesOf]

end Values

/-- The rows of a matrix. -/
def rowsOf (matrix : Matrix (Fin size) (Fin size) ℝ) : List (List ℝ) :=
  List.ofFn fun row => List.ofFn (matrix row)

/-- The matrix of the first entries. -/
def squareOf (size : Nat) (entry : Nat -> Nat -> ℝ) : Matrix (Fin size) (Fin size) ℝ :=
  of fun row column => entry row column

/-- The entries of a matrix. -/
def gridOf (matrix : Matrix (Fin size) (Fin size) ℝ) (row column : Nat) : ℝ :=
  entriesOf (fun index => entriesOf (matrix index) column) row

theorem gridOf_inside (matrix : Matrix (Fin size) (Fin size) ℝ) {row column : Nat} (rowInside : row < size)
    (columnInside : column < size) : gridOf matrix row column = matrix ⟨row, rowInside⟩ ⟨column, columnInside⟩ := by
  rw [gridOf, entriesOf_inside _ rowInside, entriesOf_inside _ columnInside]

theorem gridOf_val (matrix : Matrix (Fin size) (Fin size) ℝ) (row column : Fin size) :
    gridOf matrix row column = matrix row column :=
  gridOf_inside matrix row.isLt column.isLt

theorem rowsOf_squareOf (entry : Nat -> Nat -> ℝ) : rowsOf (squareOf size entry) = matrixOf size entry := by
  have row (index : Fin size) : List.ofFn (squareOf size entry index) =
      valuesOf size (fun row => vectorOf size (entry row)) index :=
    ofFn_valuesOf (entry index)
  exact (congrArg List.ofFn (funext row)).trans (ofFn_valuesOf fun index => vectorOf size (entry index))

theorem rowsOf_eq_matrixOf (matrix : Matrix (Fin size) (Fin size) ℝ) :
    rowsOf matrix = matrixOf size (gridOf matrix) := by
  rw [← rowsOf_squareOf]
  refine congrArg rowsOf ?_
  ext row column
  exact (gridOf_val matrix row column).symm

/-! ## Factors -/

/-- A lower triangular matrix with a positive diagonal. -/
structure IsFactor (lower : Matrix (Fin size) (Fin size) ℝ) : Prop where
  above : forall row column, row < column -> lower row column = 0
  positive : forall row, 0 < lower row row

theorem isRoot_sqrt : IsRoot Real.sqrt := by
  intro value positive
  exact ⟨Real.sqrt_pos.mpr positive, Real.mul_self_sqrt positive.le⟩

theorem gridOf_symm {matrix : Matrix (Fin size) (Fin size) ℝ} (symmetric : matrix.IsSymm) (row column : Nat)
    (rowInside : row < size) (columnInside : column < size) :
    gridOf matrix row column = gridOf matrix column row := by
  rw [gridOf_inside matrix rowInside columnInside, gridOf_inside matrix columnInside rowInside]
  exact symmetric.apply ⟨column, columnInside⟩ ⟨row, rowInside⟩

/-- The quadratic form of the entries is that of the matrix. -/
theorem form_entries (matrix : Matrix (Fin size) (Fin size) ℝ) (vector : Nat -> ℝ) :
    ∑ i ∈ range size, ∑ j ∈ range size, vector i * gridOf matrix i j * vector j =
      valuesOf size vector ⬝ᵥ matrix *ᵥ valuesOf size vector := by
  rw [← Fin.sum_univ_eq_sum_range fun i => ∑ j ∈ range size, vector i * gridOf matrix i j * vector j]
  refine sum_congr rfl fun i _ => ?_
  rw [← Fin.sum_univ_eq_sum_range fun j => vector i * gridOf matrix i j * vector j, mulVec, dotProduct, mul_sum]
  refine sum_congr rfl fun j _ => ?_
  rw [gridOf_val, mul_assoc]
  rfl

theorem positiveDefinite_gridOf {matrix : Matrix (Fin size) (Fin size) ℝ} (symmetric : matrix.IsSymm) :
    PositiveDefinite (gridOf matrix) size ↔ matrix.PosDef := by
  have hermitian : matrix.IsHermitian := by
    rw [IsHermitian, conjTranspose_eq_transpose_of_trivial]
    exact symmetric
  rw [posDef_iff_dotProduct_mulVec]
  constructor
  · intro definite
    refine ⟨hermitian, fun vector nonzero => ?_⟩
    rcases Function.ne_iff.mp nonzero with ⟨position, other⟩
    have entry : entriesOf vector position ≠ 0 := by
      rw [entriesOf_inside vector position.isLt]
      exact other
    have positive := definite (entriesOf vector) ⟨position, position.isLt, entry⟩
    rw [form_entries, valuesOf_entriesOf] at positive
    rw [star_trivial]
    exact positive
  · rintro ⟨_, definite⟩ vector ⟨position, inside, nonzero⟩
    rw [form_entries]
    have other : valuesOf size vector ≠ 0 := Function.ne_iff.mpr ⟨⟨position, inside⟩, nonzero⟩
    have positive := definite other
    rw [star_trivial] at positive
    exact positive

/-- The factor of the entries as a matrix. -/
theorem isFactor_of_hasFactor {matrix : Matrix (Fin size) (Fin size) ℝ} {lower : Nat -> Nat -> ℝ}
    (symmetric : matrix.IsSymm) (factor : HasFactor (gridOf matrix) lower size) :
    IsFactor (squareOf size lower) ∧ squareOf size lower * (squareOf size lower)ᵀ = matrix := by
  have triangular : IsFactor (squareOf size lower) :=
    ⟨fun row column order => factor.above row column order row.isLt, fun row => factor.positive row row.isLt⟩
  refine ⟨triangular, ?_⟩
  ext row column
  rw [mul_apply, ← gridOf_val matrix, ← factor.product_all (gridOf_symm symmetric) row.isLt column.isLt]
  exact Fin.sum_univ_eq_sum_range (fun k => lower row k * lower column k) size

/-! ## Systems -/

section Systems

variable {lower : Matrix (Fin size) (Fin size) ℝ} {right : Fin size -> ℝ} {unknown middle : Nat -> ℝ}

theorem IsFactor.nonzero (factor : IsFactor lower) (row : Nat) (inside : row < size) : gridOf lower row row ≠ 0 := by
  rw [gridOf_inside lower inside inside]
  exact (factor.positive ⟨row, inside⟩).ne'

theorem IsFactor.grid_above (factor : IsFactor lower) {row column : Nat} (order : row < column)
    (inside : column < size) : gridOf lower row column = 0 := by
  rw [gridOf_inside lower (order.trans inside) inside]
  exact factor.above ⟨row, order.trans inside⟩ ⟨column, inside⟩ order

theorem sum_entries (term : Nat -> ℝ) (places : Finset Nat) (within : places ⊆ range size)
    (none : forall index, index < size -> index ∉ places -> term index = 0) :
    ∑ index : Fin size, term index = ∑ index ∈ places, term index := by
  rw [Fin.sum_univ_eq_sum_range]
  exact (sum_subset within fun index member outside => none index (mem_range.mp member) outside).symm

/-- The equations of the lower system. -/
theorem mulVec_iff_lower (factor : IsFactor lower) : (lower *ᵥ valuesOf size unknown) = right ↔
    forall row, row < size -> LowerRow (gridOf lower) unknown (entriesOf right) row := by
  have row (index : Fin size) : (lower *ᵥ valuesOf size unknown) index =
      ∑ column ∈ range (index + 1), gridOf lower index column * unknown column := by
    rw [mulVec, dotProduct, ← sum_entries _ _ (range_subset_range.mpr index.isLt)]
    · exact sum_congr rfl fun column _ => by rw [gridOf_val, valuesOf]
    · intro column inside outside
      rw [factor.grid_above (by rw [mem_range] at outside; omega) inside, zero_mul]
  constructor
  · intro solves index inside
    rw [LowerRow, ← row ⟨index, inside⟩, solves]
    exact (entriesOf_inside right inside).symm
  · intro solves
    funext index
    rw [row, solves index index.isLt, entriesOf_inside right index.isLt]

/-- The equations of the transposed system. -/
theorem mulVec_iff_upper (factor : IsFactor lower) : (lowerᵀ *ᵥ valuesOf size unknown) = valuesOf size middle ↔
    forall row, row < size -> UpperRow (gridOf lower) size unknown middle row := by
  have row (index : Fin size) : (lowerᵀ *ᵥ valuesOf size unknown) index =
      ∑ column ∈ Ico (index : Nat) size, gridOf lower column index * unknown column := by
    rw [mulVec, dotProduct, ← @sum_entries size]
    · exact sum_congr rfl fun column _ => by rw [gridOf_val, transpose_apply, valuesOf]
    · intro column member
      exact mem_range.mpr (mem_Ico.mp member).2
    · intro column inside outside
      rw [factor.grid_above (by rw [mem_Ico] at outside; omega) index.isLt, zero_mul]
  constructor
  · intro solves index inside
    rw [UpperRow, ← row ⟨index, inside⟩, solves, valuesOf]
  · intro solves
    funext index
    rw [row, solves index index.isLt, valuesOf]

theorem lower_solution (factor : IsFactor lower)
    (solves : forall row, row < size -> LowerRow (gridOf lower) unknown (entriesOf right) row)
    (other : Fin size -> ℝ) : lower *ᵥ other = right ↔ other = valuesOf size unknown := by
  have made := (mulVec_iff_lower factor).mpr solves
  constructor
  · intro answers
    rw [← valuesOf_entriesOf other] at answers
    funext index
    rw [← entriesOf_inside other index.isLt]
    exact lower_unique factor.nonzero ((mulVec_iff_lower factor).mp answers) solves index index.isLt
  · intro same
    rw [same, made]

theorem upper_solution (factor : IsFactor lower)
    (solves : forall row, row < size -> UpperRow (gridOf lower) size unknown middle row) (other : Fin size -> ℝ) :
    (lowerᵀ *ᵥ other) = valuesOf size middle ↔ other = valuesOf size unknown := by
  have made := (mulVec_iff_upper factor).mpr solves
  constructor
  · intro answers
    rw [← valuesOf_entriesOf other] at answers
    funext index
    rw [← entriesOf_inside other index.isLt]
    exact upper_unique factor.nonzero ((mulVec_iff_upper factor).mp answers) solves size index index.isLt (by omega)
  · intro same
    rw [same, made]

end Systems

/-! ## The factor and the solves -/

/-- The factor of a symmetric matrix is made when and only when the matrix is positive
definite, and with any factor the solves answer with the one solution. -/
theorem cholesky_and_solves :
    (forall (size : Nat) (matrix : Matrix (Fin size) (Fin size) ℝ), matrix.IsSymm ->
      (matrix.PosDef -> exists lower : Matrix (Fin size) (Fin size) ℝ,
        cholesky Real.sqrt (rowsOf matrix) = .ok (rowsOf lower) ∧ IsFactor lower ∧ lower * lowerᵀ = matrix) ∧
      (¬matrix.PosDef -> cholesky Real.sqrt (rowsOf matrix) = .error notPositiveDefinite)) ∧
    forall (size : Nat) (lower : Matrix (Fin size) (Fin size) ℝ), IsFactor lower -> forall right : Fin size -> ℝ,
      (exists answer : Fin size -> ℝ, solveCholesky (rowsOf lower) (List.ofFn right) = .ok (List.ofFn answer) ∧
        forall other, (lower * lowerᵀ) *ᵥ other = right ↔ other = answer) ∧
      exists answer : Fin size -> ℝ, forwardSolve (rowsOf lower) (List.ofFn right) = .ok (List.ofFn answer) ∧
        forall other, lower *ᵥ other = right ↔ other = answer := by
  refine ⟨fun size matrix symmetric => ?_, fun size lower factor right => ⟨?_, ?_⟩⟩
  · rw [rowsOf_eq_matrixOf, ← positiveDefinite_gridOf symmetric]
    have symmetricGrid := gridOf_symm symmetric
    rcases cholesky_cases isRoot_sqrt symmetricGrid with ⟨lower, made, factor⟩ | ⟨refused, indefinite⟩
    · refine ⟨fun _ => ⟨squareOf size lower, ?_, isFactor_of_hasFactor symmetric factor⟩, ?_⟩
      · rw [made, rowsOf_squareOf]
      · exact fun indefinite => absurd (factor.positiveDefinite symmetricGrid) indefinite
    · exact ⟨fun definite => absurd definite indefinite, fun _ => refused⟩
  · rcases solveCholesky_ok factor.nonzero (entriesOf right) with ⟨middle, unknown, solved, lowerSolves, upperSolves⟩
    refine ⟨valuesOf size unknown, ?_, fun other => ?_⟩
    · rw [rowsOf_eq_matrixOf, ofFn_eq_vectorOf, solved, ofFn_valuesOf]
    · rw [← mulVec_mulVec, lower_solution factor lowerSolves, upper_solution factor upperSolves]
  · rcases forwardSolve_ok factor.nonzero (entriesOf right) with ⟨unknown, solved, solves⟩
    refine ⟨valuesOf size unknown, ?_, lower_solution factor solves⟩
    rw [rowsOf_eq_matrixOf, ofFn_eq_vectorOf, solved, ofFn_valuesOf]

/-- The unit matrix. -/
theorem cholesky_and_solves_unit :
    (exists lower : Matrix (Fin 2) (Fin 2) ℝ,
      cholesky Real.sqrt (rowsOf (1 : Matrix (Fin 2) (Fin 2) ℝ)) = .ok (rowsOf lower) ∧ IsFactor lower ∧
        lower * lowerᵀ = 1) ∧
    exists answer : Fin 2 -> ℝ,
      solveCholesky (rowsOf (1 : Matrix (Fin 2) (Fin 2) ℝ)) [3, 4] = .ok (List.ofFn answer) ∧
      forall other : Fin 2 -> ℝ, ((1 : Matrix (Fin 2) (Fin 2) ℝ) * 1ᵀ) *ᵥ other = ![3, 4] ↔ other = answer := by
  have unit : IsFactor (1 : Matrix (Fin 2) (Fin 2) ℝ) := ⟨fun _ _ order => one_apply_ne order.ne, fun row => by
    rw [one_apply_eq]
    exact one_pos⟩
  exact ⟨(cholesky_and_solves.1 2 1 isSymm_one).1 PosDef.one, (cholesky_and_solves.2 2 1 unit ![3, 4]).1⟩

end Cholesky
end Worker
end FederatedIot
