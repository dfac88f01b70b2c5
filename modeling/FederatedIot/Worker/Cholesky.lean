import FederatedIot.Foundation.Positions
import FederatedIot.Foundation.Triangular
import FederatedIot.Worker.Aggregation
import Mathlib.Data.List.Forall2

namespace FederatedIot
namespace Worker
namespace Cholesky

open Foundation Foundation.Outcome Foundation.Positions Foundation.Triangular Finset

/-!
# Factors of kernel matrices

The factor of a kernel matrix is made row by row in a matrix of zeros, and a row ends with
the square root of what is left of the diagonal.  A system with the factor is solved from
the first row on, and one with its transpose from the last row back.  The arithmetic is
exact, and the square root is a parameter.
-/

variable {α : Type} [Field α] [LinearOrder α]

/-! ## The functions of the source -/

/-- `matrix[row][column]` -/
def entryAt (matrix : List (List α)) (row column : Nat) : Except AggregationError α := do
  let line ← readAt .indexError matrix row
  readAt .indexError line column

/-- `matrix[row][column] = value` -/
def setEntry (matrix : List (List α)) (row column : Nat) (value : α) : Except AggregationError (List (List α)) := do
  let line ← readAt .indexError matrix row
  let changed ← writeAt .indexError line column value
  writeAt .indexError matrix row changed

/-- The product of two rows before a column. -/
def rowProduct (lower : List (List α)) (row column : Nat) : Except AggregationError α := do
  let products ← (List.range column).mapM fun index => do
    let left ← entryAt lower row index
    let right ← entryAt lower column index
    return left * right
  return products.sum

def notPositiveDefinite : AggregationError :=
  .valueError "matrix is not positive definite"

/-- One turn of the inner loop. -/
def choleskyEntry (sqrt : α -> α) (matrix lower : List (List α)) (row column : Nat) :
    Except AggregationError (List (List α)) := do
  let given ← entryAt matrix row column
  let products ← rowProduct lower row column
  let value := given - products
  if row = column then do
    require (0 < value) notPositiveDefinite
    setEntry lower row column (sqrt value)
  else do
    let pivot ← entryAt lower column column
    let quotient ← divide value pivot
    setEntry lower row column quotient

def choleskyRow (sqrt : α -> α) (matrix lower : List (List α)) (row : Nat) :
    Except AggregationError (List (List α)) :=
  (List.range (row + 1)).foldlM (fun lower column => choleskyEntry sqrt matrix lower row column) lower

/-- `_cholesky` -/
def cholesky (sqrt : α -> α) (matrix : List (List α)) : Except AggregationError (List (List α)) :=
  (List.range matrix.length).foldlM (choleskyRow sqrt matrix)
    (List.replicate matrix.length (List.replicate matrix.length 0))

/-- One turn of the loop of `_forward_solve`. -/
def forwardRow (lower : List (List α)) (output : List α) (entry : α × Nat) : Except AggregationError (List α) := do
  let products ← (List.range entry.2).mapM fun index => do
    let left ← entryAt lower entry.2 index
    let known ← readAt .indexError output index
    return left * known
  let pivot ← entryAt lower entry.2 entry.2
  let quotient ← divide (entry.1 - products.sum) pivot
  return output ++ [quotient]

/-- `_forward_solve` -/
def forwardSolve (lower : List (List α)) (values : List α) : Except AggregationError (List α) :=
  values.zipIdx.foldlM (forwardRow lower) []

/-- One turn of the loop of `_solve_cholesky`. -/
def backwardRow (lower : List (List α)) (forward : List α) (count : Nat) (output : List α) (row : Nat) :
    Except AggregationError (List α) := do
  let given ← readAt .indexError forward row
  let products ← (List.range' (row + 1) (count - (row + 1))).mapM fun index => do
    let left ← entryAt lower index row
    let known ← readAt .indexError output index
    return left * known
  let pivot ← entryAt lower row row
  let quotient ← divide (given - products.sum) pivot
  writeAt .indexError output row quotient

/-- `_solve_cholesky` -/
def solveCholesky (lower : List (List α)) (values : List α) : Except AggregationError (List α) := do
  let forward ← forwardSolve lower values
  (List.range values.length).reverse.foldlM (backwardRow lower forward values.length) (List.replicate values.length 0)

/-! ## Lists and their entries -/

/-- The list of the first entries. -/
def vectorOf (size : Nat) (entry : Nat -> α) : List α :=
  (List.range size).map entry

/-- The rows of a square matrix. -/
def matrixOf (size : Nat) (entry : Nat -> Nat -> α) : List (List α) :=
  (List.range size).map fun row => vectorOf size (entry row)

/-- The entries with another one at one place. -/
def setAt (entry : Nat -> Nat -> α) (row column : Nat) (value : α) : Nat -> Nat -> α :=
  Function.update entry row (Function.update (entry row) column value)

section Entries

variable {β : Type} {size : Nat} {entry : Nat -> Nat -> β} {row column : Nat} {value : β} {values : Nat -> β}

@[simp]
theorem length_vectorOf : (vectorOf size values).length = size := by
  rw [vectorOf, List.length_map, List.length_range]

theorem getElem?_vectorOf (inside : row < size) : (vectorOf size values)[row]? = some (values row) := by
  rw [vectorOf, List.getElem?_map, List.getElem?_range inside, Option.map_some]

theorem vectorOf_congr {others : Nat -> β} (same : forall index, index < size -> values index = others index) :
    vectorOf size values = vectorOf size others :=
  List.map_congr_left fun index member => same index (List.mem_range.mp member)

theorem set_vectorOf : (vectorOf size values).set row value = vectorOf size (Function.update values row value) := by
  apply List.ext_getElem?
  intro index
  by_cases inside : index < size
  · rw [getElem?_vectorOf inside]
    by_cases same : row = index
    · rw [same, List.getElem?_set_self (by rw [length_vectorOf]; exact inside), Function.update_self]
    · rw [List.getElem?_set_ne same, getElem?_vectorOf inside, Function.update_of_ne (Ne.symm same)]
  · rw [List.getElem?_eq_none (by rw [List.length_set, length_vectorOf]; omega),
      List.getElem?_eq_none (by rw [length_vectorOf]; omega)]

theorem readAt_vectorOf (fault : AggregationError) (inside : row < size) :
    readAt fault (vectorOf size values) row = .ok (values row) :=
  readAt_of_some (getElem?_vectorOf inside)

theorem writeAt_vectorOf (fault : AggregationError) (inside : row < size) :
    writeAt fault (vectorOf size values) row value = .ok (vectorOf size (Function.update values row value)) := by
  rw [writeAt_of_inside fault (by rw [length_vectorOf]; exact inside), set_vectorOf]

theorem entryAt_matrixOf (rowInside : row < size) (columnInside : column < size) :
    entryAt (matrixOf size entry) row column = .ok (entry row column) := by
  unfold entryAt
  rw [matrixOf, ← vectorOf, readAt_vectorOf _ rowInside, ok_bind, readAt_vectorOf _ columnInside]

theorem setEntry_matrixOf (rowInside : row < size) (columnInside : column < size) :
    setEntry (matrixOf size entry) row column value = .ok (matrixOf size (setAt entry row column value)) := by
  unfold setEntry
  rw [matrixOf, ← vectorOf, readAt_vectorOf _ rowInside, ok_bind, writeAt_vectorOf _ columnInside, ok_bind,
    writeAt_vectorOf _ rowInside, matrixOf, ← vectorOf]
  refine congrArg Except.ok (vectorOf_congr fun index _ => ?_)
  unfold setAt
  by_cases same : index = row
  · rw [same, Function.update_self, Function.update_self]
  · rw [Function.update_of_ne same, Function.update_of_ne same]

theorem setAt_row {index : Nat} (other : index ≠ row) : setAt entry row column value index = entry index :=
  Function.update_of_ne other _ _

theorem setAt_column {index : Nat} (other : index ≠ column) :
    setAt entry row column value row index = entry row index := by
  rw [setAt, Function.update_self, Function.update_of_ne other]

/-- No row changes before the column. -/
theorem setAt_before {other index : Nat} (before : index < column) :
    setAt entry row column value other index = entry other index := by
  by_cases same : other = row
  · rw [same, setAt_column before.ne]
  · rw [setAt_row same]

theorem setAt_self : setAt entry row column value row column = value := by
  rw [setAt, Function.update_self, Function.update_self]

end Entries

/-- A list that is made of values that all succeed. -/
theorem mapM_eq_map {β γ : Type} {convert : β -> Except AggregationError γ} {total : β -> γ} {values : List β}
    (each : ∀ value ∈ values, convert value = .ok (total value)) : values.mapM convert = .ok (values.map total) :=
  mapM_ok_iff.mpr (List.forall₂_map_right_iff.mpr (List.forall₂_same.mpr each))

omit [LinearOrder α] in
theorem sum_range_map (count : Nat) (term : Nat -> α) :
    ((List.range count).map term).sum = ∑ k ∈ range count, term k := by
  rw [← List.sum_toFinset term List.nodup_range, List.toFinset_range]

omit [LinearOrder α] in
theorem sum_range'_map (start stop : Nat) (term : Nat -> α) :
    ((List.range' start (stop - start)).map term).sum = ∑ k ∈ Ico start stop, term k := by
  rw [sum_Ico_eq_sum_range, ← sum_range_map, List.range'_eq_map_range, List.map_map]
  rfl

/-! ## The factor -/

section Factor

variable {size : Nat} {matrix lower : Nat -> Nat -> α} {row column : Nat}

omit [LinearOrder α] in
theorem rowProduct_ok (rowInside : row < size) (columnInside : column < size) :
    rowProduct (matrixOf size lower) row column = .ok (∑ k ∈ range column, lower row k * lower column k) := by
  unfold rowProduct
  have each : ∀ index ∈ List.range column, (do
      let left ← entryAt (matrixOf size lower) row index
      let right ← entryAt (matrixOf size lower) column index
      return left * right) = Except.ok (lower row index * lower column index) := by
    intro index member
    have inside := (List.mem_range.mp member).trans columnInside
    rw [entryAt_matrixOf rowInside inside, ok_bind, entryAt_matrixOf columnInside inside, ok_bind]
    rfl
  rw [mapM_eq_map each, ok_bind, sum_range_map]
  rfl

/-- The rows before one are those of a factor, and its first entries too; the rest is zero. -/
structure Progress (matrix lower : Nat -> Nat -> α) (row column : Nat) : Prop where
  factor : HasFactor matrix lower row
  entries : forall other, other < column ->
    ∑ k ∈ range (other + 1), lower row k * lower other k = matrix row other
  ahead : forall other, column ≤ other -> lower row other = 0
  later : forall i j, row < i -> lower i j = 0

/-- The entries of a row leave the factor before it. -/
theorem HasFactor.setAt (factor : HasFactor matrix lower row) (column : Nat) (value : α) :
    HasFactor matrix (setAt lower row column value) row where
  product i j order inside := by
    rw [setAt_row inside.ne, setAt_row (by omega)]
    exact factor.product i j order inside
  above i j order inside := by
    rw [setAt_row inside.ne]
    exact factor.above i j order inside
  positive i inside := by
    rw [setAt_row inside.ne]
    exact factor.positive i inside

omit [LinearOrder α] in
theorem products_setAt {first second count : Nat} {value : α} (before : count ≤ column) :
    ∑ k ∈ range count, setAt lower row column value first k * setAt lower row column value second k =
      ∑ k ∈ range count, lower first k * lower second k := by
  refine sum_congr rfl fun k member => ?_
  have early := (mem_range.mp member).trans_le before
  rw [setAt_before early, setAt_before early]

/-- The entry before the diagonal that completes its product. -/
theorem Progress.entry (progress : Progress matrix lower row column) (before : column < row) :
    Progress matrix (setAt lower row column
      ((matrix row column - ∑ k ∈ range column, lower row k * lower column k) / lower column column))
      row (column + 1) where
  factor := HasFactor.setAt progress.factor _ _
  entries other inside := by
    by_cases same : other = column
    · have pivot := (progress.factor.positive column before).ne'
      rw [same, sum_range_succ, products_setAt (le_refl column), setAt_self, setAt_row before.ne,
        div_mul_cancel₀ _ pivot, add_sub_cancel]
    · rw [products_setAt (by omega)]
      exact progress.entries other (by omega)
  ahead other beyond := by
    rw [setAt_column (by omega)]
    exact progress.ahead other (by omega)
  later i j after := by
    rw [setAt_row after.ne']
    exact progress.later i j after

/-- A positive square root of what is left completes the row. -/
theorem Progress.diagonal (progress : Progress matrix lower row row) {root : α} (positive : 0 < root)
    (square : root * root = remainder matrix lower row) : Progress matrix (setAt lower row row root) (row + 1) 0 where
  factor :=
    { product := by
        intro i j order inside
        by_cases same : i = row
        · rw [same]
          by_cases last : j = row
          · rw [last, sum_range_succ, products_setAt (le_refl row), setAt_self, square, remainder, add_sub_cancel]
          · rw [products_setAt (by omega)]
            exact progress.entries j (by omega)
        · rw [products_setAt (by omega)]
          exact progress.factor.product i j order (by omega)
      above := by
        intro i j order inside
        by_cases same : i = row
        · rw [same, setAt_column (by omega)]
          exact progress.ahead j (by omega)
        · rw [setAt_row same]
          exact progress.factor.above i j order (by omega)
      positive := by
        intro i inside
        by_cases same : i = row
        · rw [same, setAt_self]
          exact positive
        · rw [setAt_row same]
          exact progress.factor.positive i (by omega) }
  entries other none := absurd none (Nat.not_lt_zero other)
  ahead other _ := by
    rw [setAt_row (Nat.succ_ne_self row)]
    exact progress.later (row + 1) other (Nat.lt_succ_self row)
  later i j after := by
    rw [setAt_row (by omega)]
    exact progress.later i j (by omega)

/-! ## Runs of the loops -/

variable {sqrt : α -> α}

theorem choleskyEntry_before (progress : Progress matrix lower row column) (before : column < row)
    (inside : row < size) : exists next,
      choleskyEntry sqrt (matrixOf size matrix) (matrixOf size lower) row column = .ok (matrixOf size next) ∧
      Progress matrix next row (column + 1) := by
  have columnInside := before.trans inside
  have pivot := (progress.factor.positive column before).ne'
  refine ⟨_, ?_, progress.entry before⟩
  unfold choleskyEntry
  rw [entryAt_matrixOf inside columnInside, ok_bind, rowProduct_ok inside columnInside, ok_bind]
  dsimp only
  rw [if_neg before.ne', entryAt_matrixOf columnInside columnInside, ok_bind, divide, if_neg pivot, ok_bind,
    setEntry_matrixOf inside columnInside]

/-- The entries before the diagonal. -/
theorem choleskyRow_before (progress : Progress matrix lower row 0) (inside : row < size) (count : Nat)
    (within : count ≤ row) : exists next, (List.range count).foldlM
        (fun lower column => choleskyEntry sqrt (matrixOf size matrix) lower row column) (matrixOf size lower) =
      .ok (matrixOf size next) ∧ Progress matrix next row count := by
  induction count with
  | zero => exact ⟨lower, rfl, progress⟩
  | succ count inductionHypothesis =>
      rcases inductionHypothesis (by omega) with ⟨middle, reached, held⟩
      rcases @choleskyEntry_before α _ _ size matrix middle row count sqrt held (by omega) inside with
        ⟨next, made, holds⟩
      refine ⟨next, ?_, holds⟩
      rw [List.range_succ, List.foldlM_append, reached, ok_bind, List.foldlM_cons, made, ok_bind]
      rfl

/-- Roots of positive values. -/
def IsRoot (sqrt : α -> α) : Prop :=
  forall value, 0 < value -> 0 < sqrt value ∧ sqrt value * sqrt value = value

/-- A row is completed, or the leading matrix that it ends is not positive definite. -/
theorem choleskyRow_cases [IsStrictOrderedRing α] (isRoot : IsRoot sqrt) (progress : Progress matrix lower row 0)
    (inside : row < size) (symmetric : forall i j, i < size -> j < size -> matrix i j = matrix j i) :
    (exists next, choleskyRow sqrt (matrixOf size matrix) (matrixOf size lower) row = .ok (matrixOf size next) ∧
      Progress matrix next (row + 1) 0) ∨
    (choleskyRow sqrt (matrixOf size matrix) (matrixOf size lower) row = .error notPositiveDefinite ∧
      ¬PositiveDefinite matrix (row + 1)) := by
  rcases @choleskyRow_before α _ _ size matrix lower row sqrt progress inside row (le_refl row) with
    ⟨middle, reached, held⟩
  have last : choleskyRow sqrt (matrixOf size matrix) (matrixOf size lower) row =
      choleskyEntry sqrt (matrixOf size matrix) (matrixOf size middle) row row := by
    rw [choleskyRow, List.range_succ, List.foldlM_append, reached, ok_bind, List.foldlM_cons]
    exact bind_pure _
  have entry : choleskyEntry sqrt (matrixOf size matrix) (matrixOf size middle) row row =
      require (0 < remainder matrix middle row) notPositiveDefinite >>= fun _ =>
        setEntry (matrixOf size middle) row row (sqrt (remainder matrix middle row)) := by
    unfold choleskyEntry
    rw [entryAt_matrixOf inside inside, ok_bind, rowProduct_ok inside inside, ok_bind]
    exact if_pos rfl
  rw [last, entry]
  by_cases positive : 0 < remainder matrix middle row
  · left
    refine ⟨_, ?_, held.diagonal (isRoot _ positive).1 (isRoot _ positive).2⟩
    rw [require_of _ positive, ok_bind, setEntry_matrixOf inside inside]
  · right
    rw [require_refused _ positive, error_bind]
    refine ⟨rfl, held.factor.not_positiveDefinite held.entries ?_ (not_lt.mp positive)⟩
    intro i j iBound jBound
    exact symmetric i j (by omega) (by omega)

theorem choleskyRows_cases [IsStrictOrderedRing α] (isRoot : IsRoot sqrt)
    (symmetric : forall i j, i < size -> j < size -> matrix i j = matrix j i) (count : Nat) (within : count ≤ size) :
    (exists lower, (List.range count).foldlM (choleskyRow sqrt (matrixOf size matrix)) (matrixOf size fun _ _ => 0) =
      .ok (matrixOf size lower) ∧ Progress matrix lower count 0) ∨
    ((List.range count).foldlM (choleskyRow sqrt (matrixOf size matrix)) (matrixOf size fun _ _ => 0) =
      .error notPositiveDefinite ∧ ¬PositiveDefinite matrix size) := by
  induction count with
  | zero =>
      left
      refine ⟨fun _ _ => 0, rfl, ⟨⟨?_, ?_, ?_⟩, ?_, fun _ _ => rfl, fun _ _ _ => rfl⟩⟩
      · intro i j _ none
        exact absurd none (Nat.not_lt_zero i)
      · intro i j _ none
        exact absurd none (Nat.not_lt_zero i)
      · intro i none
        exact absurd none (Nat.not_lt_zero i)
      · intro other none
        exact absurd none (Nat.not_lt_zero other)
  | succ count inductionHypothesis =>
      rw [List.range_succ, List.foldlM_append]
      rcases inductionHypothesis (by omega) with ⟨lower, reached, progress⟩ | ⟨failed, indefinite⟩
      · rw [reached, ok_bind, List.foldlM_cons]
        rcases choleskyRow_cases isRoot progress (show count < size by omega) symmetric with
          ⟨next, made, holds⟩ | ⟨failed, indefinite⟩
        · left
          rw [made, ok_bind]
          exact ⟨next, rfl, holds⟩
        · right
          rw [failed, error_bind]
          exact ⟨rfl, fun definite => indefinite (definite.leading within)⟩
      · right
        rw [failed, error_bind]
        exact ⟨rfl, indefinite⟩

omit [LinearOrder α] in
/-- Zeros in all places. -/
theorem replicate_zeros (size : Nat) :
    List.replicate size (List.replicate size (0 : α)) = matrixOf size fun _ _ => 0 := by
  rw [matrixOf, vectorOf, List.map_const', List.map_const', List.length_range]

/-- There is a factor, or the matrix is not positive definite. -/
theorem cholesky_cases [IsStrictOrderedRing α] (isRoot : IsRoot sqrt)
    (symmetric : forall i j, i < size -> j < size -> matrix i j = matrix j i) :
    (exists lower, cholesky sqrt (matrixOf size matrix) = .ok (matrixOf size lower) ∧ HasFactor matrix lower size) ∨
      (cholesky sqrt (matrixOf size matrix) = .error notPositiveDefinite ∧ ¬PositiveDefinite matrix size) := by
  have length : (matrixOf size matrix).length = size := length_vectorOf
  unfold cholesky
  rw [length, replicate_zeros]
  rcases choleskyRows_cases isRoot symmetric size (le_refl size) with ⟨lower, made, progress⟩ | refused
  · exact Or.inl ⟨lower, made, progress.factor⟩
  · exact Or.inr refused

end Factor

/-! ## The solves -/

section Solves

variable {size : Nat} {lower : Nat -> Nat -> α} {right : Nat -> α}

omit [Field α] [LinearOrder α] in
theorem zipIdx_vectorOf (size : Nat) (values : Nat -> α) :
    (vectorOf size values).zipIdx = (List.range size).map fun index => (values index, index) := by
  apply List.ext_getElem?
  intro index
  rw [List.getElem?_zipIdx, vectorOf, List.getElem?_map, List.getElem?_map]
  by_cases inside : index < size
  · rw [List.getElem?_range inside, Option.map_some, Option.map_some, Option.map_some, Nat.zero_add]
  · rw [List.getElem?_eq_none (by rw [List.length_range]; omega)]
    rfl

omit [Field α] [LinearOrder α] in
theorem vectorOf_succ (count : Nat) (values : Nat -> α) (value : α) :
    vectorOf count values ++ [value] = vectorOf (count + 1) (Function.update values count value) := by
  have same : vectorOf count values = vectorOf count (Function.update values count value) :=
    vectorOf_congr fun index before => (Function.update_of_ne before.ne _ _).symm
  rw [same, vectorOf, vectorOf, List.range_succ, List.map_append, List.map_cons, List.map_nil, Function.update_self]

theorem forwardRow_ok {known : Nat -> α} {row : Nat} (inside : row < size) (pivot : lower row row ≠ 0) :
    forwardRow (matrixOf size lower) (vectorOf row known) (right row, row) =
      .ok (vectorOf (row + 1) (Function.update known row (lowerValue lower known right row))) := by
  have each : ∀ index ∈ List.range row, (do
      let left ← entryAt (matrixOf size lower) row index
      let value ← readAt AggregationError.indexError (vectorOf row known) index
      return left * value) = Except.ok (lower row index * known index) := by
    intro index member
    have before := List.mem_range.mp member
    rw [entryAt_matrixOf inside (before.trans inside), ok_bind, readAt_vectorOf _ before, ok_bind]
    rfl
  unfold forwardRow
  dsimp only
  rw [mapM_eq_map each, ok_bind, entryAt_matrixOf inside inside, ok_bind, divide, if_neg pivot, ok_bind,
    sum_range_map, ← vectorOf_succ]
  rfl

/-- The rows up to one. -/
theorem forwardRows_ok (nonzero : forall row, row < size -> lower row row ≠ 0) (right : Nat -> α) (count : Nat)
    (within : count ≤ size) :
    exists unknown, ((List.range count).map fun index => (right index, index)).foldlM
        (forwardRow (matrixOf size lower)) [] = .ok (vectorOf count unknown) ∧ forall row, row < count -> LowerRow lower unknown right row := by
  induction count with
  | zero => exact ⟨right, rfl, fun row none => absurd none (Nat.not_lt_zero row)⟩
  | succ count inductionHypothesis =>
      rcases inductionHypothesis (by omega) with ⟨known, reached, solves⟩
      refine ⟨Function.update known count (lowerValue lower known right count), ?_, fun row before => ?_⟩
      · rw [List.range_succ, List.map_append, List.foldlM_append, reached, ok_bind, List.map_cons, List.map_nil,
          List.foldlM_cons, forwardRow_ok within (nonzero count within), ok_bind]
        rfl
      · by_cases same : row = count
        · rw [same]
          exact lowerRow_self (nonzero count within)
        · exact (lowerRow_update (by omega)).mpr (solves row (by omega))

/-- The lower system is solved. -/
theorem forwardSolve_ok (nonzero : forall row, row < size -> lower row row ≠ 0) (right : Nat -> α) :
    exists unknown, forwardSolve (matrixOf size lower) (vectorOf size right) = .ok (vectorOf size unknown) ∧
      forall row, row < size -> LowerRow lower unknown right row := by
  unfold forwardSolve
  rw [zipIdx_vectorOf]
  exact forwardRows_ok nonzero right size (le_refl size)

theorem backwardRow_ok {forward known : Nat -> α} {row : Nat} (inside : row < size) (pivot : lower row row ≠ 0) :
    backwardRow (matrixOf size lower) (vectorOf size forward) size (vectorOf size known) row =
      .ok (vectorOf size (Function.update known row (upperValue lower size known forward row))) := by
  have each : ∀ index ∈ List.range' (row + 1) (size - (row + 1)), (do
      let left ← entryAt (matrixOf size lower) index row
      let value ← readAt AggregationError.indexError (vectorOf size known) index
      return left * value) = Except.ok (lower index row * known index) := by
    intro index member
    have bounds := List.mem_range'_1.mp member
    have below : index < size := by omega
    rw [entryAt_matrixOf below inside, ok_bind, readAt_vectorOf _ below, ok_bind]
    rfl
  unfold backwardRow
  rw [readAt_vectorOf _ inside, ok_bind, mapM_eq_map each, ok_bind, entryAt_matrixOf inside inside, ok_bind, divide,
    if_neg pivot, ok_bind, sum_range'_map, writeAt_vectorOf _ inside]
  rfl

/-- The rows from the last one back. -/
theorem backwardRows_ok (nonzero : forall row, row < size -> lower row row ≠ 0) (forward : Nat -> α) (count : Nat)
    (within : count ≤ size) (known : Nat -> α)
    (solved : forall row, row < size -> count ≤ row -> UpperRow lower size known forward row) :
    exists unknown, (List.range count).reverse.foldlM (backwardRow (matrixOf size lower) (vectorOf size forward) size)
        (vectorOf size known) = .ok (vectorOf size unknown) ∧
      forall row, row < size -> UpperRow lower size unknown forward row := by
  induction count generalizing known with
  | zero => exact ⟨known, rfl, fun row inside => solved row inside (Nat.zero_le row)⟩
  | succ count inductionHypothesis =>
      rw [List.range_succ, List.reverse_append, List.reverse_singleton, List.singleton_append, List.foldlM_cons,
        backwardRow_ok within (nonzero count within), ok_bind]
      refine inductionHypothesis (by omega) _ fun row inside behind => ?_
      by_cases same : row = count
      · rw [same]
        exact upperRow_self within (nonzero count within)
      · exact (upperRow_update (by omega)).mpr (solved row inside (by omega))

/-- The system with the factor and then the one with its transpose are solved. -/
theorem solveCholesky_ok (nonzero : forall row, row < size -> lower row row ≠ 0) (right : Nat -> α) :
    exists middle unknown, solveCholesky (matrixOf size lower) (vectorOf size right) = .ok (vectorOf size unknown) ∧
      (forall row, row < size -> LowerRow lower middle right row) ∧
      forall row, row < size -> UpperRow lower size unknown middle row := by
  rcases forwardSolve_ok nonzero right with ⟨middle, solved, lowerSolves⟩
  have zeros : List.replicate size (0 : α) = vectorOf size fun _ => 0 := by
    rw [vectorOf, List.map_const', List.length_range]
  rcases backwardRows_ok nonzero middle size (le_refl size) (fun _ => 0) fun row inside beyond => by omega with
    ⟨unknown, reached, upperSolves⟩
  refine ⟨middle, unknown, ?_, lowerSolves, upperSolves⟩
  unfold solveCholesky
  rw [solved, ok_bind, length_vectorOf, zeros]
  exact reached

end Solves

end Cholesky
end Worker
end FederatedIot
