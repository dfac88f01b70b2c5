import Mathlib.Algebra.BigOperators.Intervals
import Mathlib.Algebra.BigOperators.Ring.Finset
import Mathlib.Algebra.Field.Basic
import Mathlib.Algebra.Order.BigOperators.Group.Finset
import Mathlib.Algebra.Order.Field.Basic
import Mathlib.Tactic.Abel
import Mathlib.Tactic.LinearCombination
import Mathlib.Tactic.Ring

namespace Foundation
namespace Triangular

open Finset

/-!
# Triangular systems and factors

The entries of a matrix are a function of a row and a column.  A lower triangular system
is solved from the first row on and its transpose from the last row back, and neither has
another solution while no entry of the diagonal is zero.  A symmetric matrix that is a
lower triangular one times its transpose is positive definite.  When all rows before one
have a factor and what remains of the diagonal there is not positive, the matrix is not
positive definite.
-/

section Systems

variable {α : Type*} [Field α]

/-! ## Systems -/

/-- One equation of the lower system. -/
def LowerRow (lower : Nat -> Nat -> α) (unknown right : Nat -> α) (row : Nat) : Prop :=
  ∑ column ∈ range (row + 1), lower row column * unknown column = right row

/-- One equation of the transposed system. -/
def UpperRow (lower : Nat -> Nat -> α) (size : Nat) (unknown right : Nat -> α) (row : Nat) : Prop :=
  ∑ column ∈ Ico row size, lower column row * unknown column = right row

variable {lower : Nat -> Nat -> α} {size row : Nat} {unknown other right : Nat -> α}

/-- The value that solves an equation of the lower system after the earlier ones. -/
def lowerValue (lower : Nat -> Nat -> α) (unknown right : Nat -> α) (row : Nat) : α :=
  (right row - ∑ column ∈ range row, lower row column * unknown column) / lower row row

/-- The value that solves an equation of the transposed system after the later ones. -/
def upperValue (lower : Nat -> Nat -> α) (size : Nat) (unknown right : Nat -> α) (row : Nat) : α :=
  (right row - ∑ column ∈ Ico (row + 1) size, lower column row * unknown column) / lower row row

theorem lowerRow_iff (nonzero : lower row row ≠ 0) :
    LowerRow lower unknown right row ↔ unknown row = lowerValue lower unknown right row := by
  rw [LowerRow, lowerValue, sum_range_succ, eq_div_iff nonzero, eq_sub_iff_add_eq', mul_comm (unknown row)]

theorem upperRow_iff (inside : row < size) (nonzero : lower row row ≠ 0) :
    UpperRow lower size unknown right row ↔ unknown row = upperValue lower size unknown right row := by
  rw [UpperRow, upperValue, sum_eq_sum_Ico_succ_bot inside, eq_div_iff nonzero, eq_sub_iff_add_eq,
    mul_comm (unknown row)]

/-! ## Solutions row by row -/

/-- What is set at a place does not change a sum over other places. -/
theorem sum_update {places : Finset Nat} {place : Nat} {value : α} (factor : Nat -> α) (outside : place ∉ places) :
    ∑ column ∈ places, factor column * Function.update unknown place value column =
      ∑ column ∈ places, factor column * unknown column := by
  refine sum_congr rfl fun column member => ?_
  have other : column ≠ place := by
    intro same
    rw [same] at member
    exact outside member
  rw [Function.update_of_ne other]

theorem lowerRow_update {value : α} {later : Nat} (before : row < later) :
    LowerRow lower (Function.update unknown later value) right row ↔ LowerRow lower unknown right row := by
  rw [LowerRow, sum_update _ (by rw [mem_range]; omega), LowerRow]

theorem lowerRow_self (nonzero : lower row row ≠ 0) :
    LowerRow lower (Function.update unknown row (lowerValue lower unknown right row)) right row := by
  rw [lowerRow_iff nonzero, Function.update_self, lowerValue, lowerValue, sum_update _ notMem_range_self]

theorem upperRow_update {value : α} {earlier : Nat} (before : earlier < row) :
    UpperRow lower size (Function.update unknown earlier value) right row ↔
      UpperRow lower size unknown right row := by
  rw [UpperRow, sum_update _ (by rw [mem_Ico]; omega), UpperRow]

theorem upperRow_self (inside : row < size) (nonzero : lower row row ≠ 0) :
    UpperRow lower size (Function.update unknown row (upperValue lower size unknown right row)) right row := by
  rw [upperRow_iff inside nonzero, Function.update_self, upperValue, upperValue,
    sum_update _ (by rw [mem_Ico]; omega)]

/-- The lower system has one solution. -/
theorem lower_unique (nonzero : forall row, row < size -> lower row row ≠ 0)
    (solves : forall row, row < size -> LowerRow lower unknown right row)
    (otherSolves : forall row, row < size -> LowerRow lower other right row) (row : Nat) (inside : row < size) :
    unknown row = other row := by
  induction row using Nat.strongRecOn with
  | ind row inductionHypothesis =>
      rw [(lowerRow_iff (nonzero row inside)).mp (solves row inside),
        (lowerRow_iff (nonzero row inside)).mp (otherSolves row inside)]
      have earlier : ∑ column ∈ range row, lower row column * unknown column =
          ∑ column ∈ range row, lower row column * other column := by
        refine sum_congr rfl fun column member => ?_
        have before := mem_range.mp member
        rw [inductionHypothesis column before (before.trans inside)]
      rw [lowerValue, lowerValue, earlier]

/-- The transposed system has one solution. -/
theorem upper_unique (nonzero : forall row, row < size -> lower row row ≠ 0)
    (solves : forall row, row < size -> UpperRow lower size unknown right row)
    (otherSolves : forall row, row < size -> UpperRow lower size other right row) (remaining : Nat) :
    forall row, row < size -> size ≤ row + remaining -> unknown row = other row := by
  induction remaining with
  | zero =>
      intro row inside beyond
      omega
  | succ remaining inductionHypothesis =>
      intro row inside _
      rw [(upperRow_iff inside (nonzero row inside)).mp (solves row inside),
        (upperRow_iff inside (nonzero row inside)).mp (otherSolves row inside)]
      have later : ∑ column ∈ Ico (row + 1) size, lower column row * unknown column =
          ∑ column ∈ Ico (row + 1) size, lower column row * other column := by
        refine sum_congr rfl fun column member => ?_
        have range := mem_Ico.mp member
        rw [inductionHypothesis column range.2 (by omega)]
      rw [upperValue, upperValue, later]

/-- The transposed system has a solution. -/
theorem upper_exists (nonzero : forall row, row < size -> lower row row ≠ 0) (right : Nat -> α) (solved : Nat) :
    exists unknown : Nat -> α, forall row, row < size -> size ≤ row + solved ->
      UpperRow lower size unknown right row := by
  induction solved with
  | zero => exact ⟨right, fun row inside beyond => by omega⟩
  | succ solved inductionHypothesis =>
      rcases inductionHypothesis with ⟨unknown, solves⟩
      by_cases more : solved < size
      · let next := size - (solved + 1)
        refine ⟨Function.update unknown next (upperValue lower size unknown right next), ?_⟩
        intro row inside near
        by_cases same : row = next
        · rw [same]
          exact upperRow_self (by omega) (nonzero next (by omega))
        · exact (upperRow_update (by omega)).mpr (solves row inside (by omega))
      · exact ⟨unknown, fun row inside _ => solves row inside (by omega)⟩

/-! ## Products with the transpose -/

/-- The quadratic form of a product is a sum of squares. -/
theorem quadratic_form (lower : Nat -> Nat -> α) (vector : Nat -> α) (size rank : Nat) :
    ∑ i ∈ range size, ∑ j ∈ range size, vector i * (∑ k ∈ range rank, lower i k * lower j k) * vector j =
      ∑ k ∈ range rank, (∑ i ∈ range size, vector i * lower i k) ^ 2 := by
  have spread (i j : Nat) : vector i * (∑ k ∈ range rank, lower i k * lower j k) * vector j =
      ∑ k ∈ range rank, vector i * lower i k * (vector j * lower j k) := by
    rw [mul_sum, sum_mul]
    exact sum_congr rfl fun k _ => by ring
  calc ∑ i ∈ range size, ∑ j ∈ range size, vector i * (∑ k ∈ range rank, lower i k * lower j k) * vector j
      = ∑ i ∈ range size, ∑ j ∈ range size, ∑ k ∈ range rank, vector i * lower i k * (vector j * lower j k) :=
        sum_congr rfl fun i _ => sum_congr rfl fun j _ => spread i j
    _ = ∑ i ∈ range size, ∑ k ∈ range rank, ∑ j ∈ range size, vector i * lower i k * (vector j * lower j k) :=
        sum_congr rfl fun i _ => sum_comm
    _ = ∑ k ∈ range rank, ∑ i ∈ range size, ∑ j ∈ range size, vector i * lower i k * (vector j * lower j k) :=
        sum_comm
    _ = ∑ k ∈ range rank, (∑ i ∈ range size, vector i * lower i k) ^ 2 := by
        refine sum_congr rfl fun k _ => ?_
        rw [sq, sum_mul_sum]

/-- A form with one entry in the corner. -/
theorem corner_form (vector : Nat -> α) (rank : Nat) (value : α) :
    ∑ i ∈ range (rank + 1), ∑ j ∈ range (rank + 1), vector i * (if i = rank ∧ j = rank then value else 0) * vector j =
      value * vector rank ^ 2 := by
  have none {i j : Nat} (other : ¬(i = rank ∧ j = rank)) :
      vector i * (if i = rank ∧ j = rank then value else 0) * vector j = 0 := by
    rw [if_neg other, mul_zero, zero_mul]
  have last := mem_range.mpr (Nat.lt_succ_self rank)
  rw [sum_eq_single_of_mem rank last fun i _ other => sum_eq_zero fun j _ => none fun both => other both.1,
    sum_eq_single_of_mem rank last fun j _ other => none fun both => other both.2, if_pos ⟨rfl, rfl⟩]
  ring

end Systems

/-! ## Positive definite matrices -/

section Definite

variable {α : Type*} [Field α] [LinearOrder α]

/-- The rows before a rank are those of a lower triangular factor. -/
structure HasFactor (matrix lower : Nat -> Nat -> α) (rank : Nat) : Prop where
  product : forall row column, column ≤ row -> row < rank ->
    ∑ k ∈ range (column + 1), lower row k * lower column k = matrix row column
  above : forall row column, row < column -> row < rank -> lower row column = 0
  positive : forall row, row < rank -> 0 < lower row row

/-- The quadratic form is positive. -/
def PositiveDefinite (matrix : Nat -> Nat -> α) (size : Nat) : Prop :=
  forall vector : Nat -> α, (exists i, i < size ∧ vector i ≠ 0) ->
    0 < ∑ i ∈ range size, ∑ j ∈ range size, vector i * matrix i j * vector j

variable {matrix lower : Nat -> Nat -> α} {size rank : Nat} {vector : Nat -> α}

/-- A product of two rows ends with the diagonal of the second one. -/
theorem HasFactor.sum_row (factor : HasFactor matrix lower rank) (row : Nat) {column : Nat} (inside : column < rank) :
    ∑ k ∈ range rank, lower row k * lower column k = ∑ k ∈ range (column + 1), lower row k * lower column k := by
  refine (sum_subset (range_subset_range.mpr (by omega)) fun k _ outside => ?_).symm
  rw [factor.above column k (by rw [mem_range] at outside; omega) inside, mul_zero]

theorem HasFactor.product_all (factor : HasFactor matrix lower rank)
    (symmetric : forall i j, i < rank -> j < rank -> matrix i j = matrix j i) {i j : Nat} (iInside : i < rank)
    (jInside : j < rank) : ∑ k ∈ range rank, lower i k * lower j k = matrix i j := by
  have ordered {row column : Nat} (order : column ≤ row) (inside : row < rank) :
      ∑ k ∈ range rank, lower row k * lower column k = matrix row column := by
    rw [factor.sum_row row (by omega), factor.product row column order inside]
  rcases le_total j i with order | order
  · exact ordered order iInside
  · rw [symmetric i j iInside jInside, ← ordered order jInside]
    exact sum_congr rfl fun k _ => mul_comm _ _

/-- The sum over a column is that of an equation of the transposed system. -/
theorem HasFactor.sum_column (factor : HasFactor matrix lower size) {k : Nat} (inside : k < size) :
    ∑ i ∈ range size, vector i * lower i k = ∑ i ∈ Ico k size, lower i k * vector i := by
  rw [range_eq_Ico, ← sum_Ico_consecutive _ (Nat.zero_le k) inside.le]
  have none : ∑ i ∈ Ico 0 k, vector i * lower i k = 0 := by
    refine sum_eq_zero fun i member => ?_
    have before := (mem_Ico.mp member).2
    rw [factor.above i k before (before.trans inside), mul_zero]
  rw [none, zero_add]
  exact sum_congr rfl fun i _ => mul_comm _ _

/-- A leading part of a positive definite matrix is positive definite. -/
theorem PositiveDefinite.leading (definite : PositiveDefinite matrix size) (within : rank ≤ size) :
    PositiveDefinite matrix rank := by
  rintro vector ⟨position, inside, nonzero⟩
  let extended (i : Nat) : α := if i < rank then vector i else 0
  have early {i : Nat} (member : i ∈ range rank) : extended i = vector i := if_pos (mem_range.mp member)
  have late {i : Nat} (outside : i ∉ range rank) : extended i = 0 :=
    if_neg fun before => outside (mem_range.mpr before)
  have subset : range rank ⊆ range size := range_subset_range.mpr within
  have same : ∑ i ∈ range size, ∑ j ∈ range size, extended i * matrix i j * extended j =
      ∑ i ∈ range rank, ∑ j ∈ range rank, vector i * matrix i j * vector j := by
    rw [← sum_subset subset fun i _ outside => ?_]
    · refine sum_congr rfl fun i iMember => ?_
      rw [← sum_subset subset fun j _ outside => ?_]
      · exact sum_congr rfl fun j jMember => by rw [early iMember, early jMember]
      · rw [late outside, mul_zero]
    · exact sum_eq_zero fun j _ => by rw [late outside, zero_mul, zero_mul]
  rw [← same]
  refine definite extended ⟨position, inside.trans_le within, ?_⟩
  rw [early (mem_range.mpr inside)]
  exact nonzero

/-! ## The row after a factor -/

/-- What is left of a diagonal entry after the columns before it. -/
def remainder (matrix lower : Nat -> Nat -> α) (row : Nat) : α :=
  matrix row row - ∑ k ∈ range row, lower row k * lower row k

/-- The entries before the diagonal of a row are those of a factor. -/
def HasRow (matrix lower : Nat -> Nat -> α) (row : Nat) : Prop :=
  forall column, column < row -> ∑ k ∈ range (column + 1), lower row k * lower column k = matrix row column

/-- Only the corner differs from a product of rows. -/
theorem HasFactor.entry (factor : HasFactor matrix lower rank) (row : HasRow matrix lower rank)
    (symmetric : forall i j, i ≤ rank -> j ≤ rank -> matrix i j = matrix j i) {i j : Nat} (iBound : i ≤ rank)
    (jBound : j ≤ rank) : matrix i j = ∑ k ∈ range rank, lower i k * lower j k +
      (if i = rank ∧ j = rank then remainder matrix lower rank else 0) := by
  by_cases both : i = rank ∧ j = rank
  · rw [if_pos both, both.1, both.2, remainder, add_sub_cancel]
  · rw [if_neg both, add_zero]
    by_cases iLast : i = rank
    · rw [iLast, factor.sum_row rank (by omega), row j (by omega)]
    · by_cases jLast : j = rank
      · rw [jLast, symmetric i rank iBound (le_refl rank), ← row i (by omega), ← factor.sum_row rank (by omega)]
        exact sum_congr rfl fun k _ => mul_comm _ _
      · exact (factor.product_all (fun i j iIn jIn => symmetric i j iIn.le jIn.le) (by omega) (by omega)).symm

theorem HasFactor.bordered_form (factor : HasFactor matrix lower rank) (row : HasRow matrix lower rank)
    (symmetric : forall i j, i ≤ rank -> j ≤ rank -> matrix i j = matrix j i) :
    ∑ i ∈ range (rank + 1), ∑ j ∈ range (rank + 1), vector i * matrix i j * vector j =
      ∑ k ∈ range rank, (∑ i ∈ range (rank + 1), vector i * lower i k) ^ 2 +
        remainder matrix lower rank * vector rank ^ 2 := by
  rw [← quadratic_form, ← corner_form, ← sum_add_distrib]
  refine sum_congr rfl fun i iMember => ?_
  rw [← sum_add_distrib]
  refine sum_congr rfl fun j jMember => ?_
  have bounds := And.intro (mem_range.mp iMember) (mem_range.mp jMember)
  rw [factor.entry row symmetric (Nat.le_of_lt_succ bounds.1) (Nat.le_of_lt_succ bounds.2)]
  ring

/-! ## Factors and definiteness -/

variable [IsStrictOrderedRing α]

/-- A matrix with a factor is positive definite. -/
theorem HasFactor.positiveDefinite (factor : HasFactor matrix lower size)
    (symmetric : forall i j, i < size -> j < size -> matrix i j = matrix j i) : PositiveDefinite matrix size := by
  rintro vector ⟨position, inside, nonzero⟩
  have squares : ∑ i ∈ range size, ∑ j ∈ range size, vector i * matrix i j * vector j =
      ∑ k ∈ range size, (∑ i ∈ range size, vector i * lower i k) ^ 2 := by
    rw [← quadratic_form]
    refine sum_congr rfl fun i iMember => sum_congr rfl fun j jMember => ?_
    rw [factor.product_all symmetric (mem_range.mp iMember) (mem_range.mp jMember)]
  rw [squares]
  refine lt_of_le_of_ne (sum_nonneg fun k _ => sq_nonneg _) fun zero => nonzero ?_
  have solves : forall row, row < size -> UpperRow lower size vector (fun _ => 0) row := by
    intro row rowInside
    have term := (sum_eq_zero_iff_of_nonneg fun k _ => sq_nonneg _).mp zero.symm row (mem_range.mpr rowInside)
    rw [UpperRow, ← factor.sum_column rowInside]
    exact pow_eq_zero_iff two_ne_zero |>.mp term
  have trivially : forall row, row < size -> UpperRow lower size (fun _ => (0 : α)) (fun _ => 0) row := by
    intro row _
    exact sum_eq_zero fun column _ => mul_zero _
  exact upper_unique (fun row rowInside => (factor.positive row rowInside).ne') solves trivially size position inside
    (by omega)

/-- Without a positive remainder the matrix is not positive definite. -/
theorem HasFactor.not_positiveDefinite (factor : HasFactor matrix lower rank) (row : HasRow matrix lower rank)
    (symmetric : forall i j, i ≤ rank -> j ≤ rank -> matrix i j = matrix j i)
    (left : remainder matrix lower rank ≤ 0) : ¬PositiveDefinite matrix (rank + 1) := by
  intro definite
  rcases upper_exists (fun row before => (factor.positive row before).ne') (fun k => -lower rank k) rank with
    ⟨solution, solves⟩
  -- The sums of the columns vanish at this vector, and only the remainder is left of the form.
  let vector : Nat -> α := Function.update solution rank 1
  have atRank : vector rank = 1 := Function.update_self rank 1 solution
  have before {i : Nat} (early : i < rank) : vector i = solution i := Function.update_of_ne early.ne 1 solution
  have cancelled : ∑ k ∈ range rank, (∑ i ∈ range (rank + 1), vector i * lower i k) ^ 2 = 0 := by
    refine sum_eq_zero fun k member => ?_
    have inside := mem_range.mp member
    have solved : ∑ i ∈ range rank, vector i * lower i k = -lower rank k := by
      refine (factor.sum_column inside).trans ?_
      refine Eq.trans (sum_congr rfl fun i iMember => ?_) (solves k inside (by omega))
      rw [before (mem_Ico.mp iMember).2]
    rw [sum_range_succ, solved, atRank, one_mul, neg_add_cancel, zero_pow two_ne_zero]
  have positive := definite vector ⟨rank, Nat.lt_succ_self rank, by rw [atRank]; exact one_ne_zero⟩
  rw [factor.bordered_form row symmetric, cancelled, atRank, one_pow, mul_one, zero_add] at positive
  exact absurd positive left.not_gt

end Definite
end Triangular
end Foundation
