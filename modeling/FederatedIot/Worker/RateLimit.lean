import FederatedIot.Foundation.Feedback
import FederatedIot.Worker.Clustering
import FederatedIot.Worker.PartitionCover

namespace FederatedIot
namespace Worker

open Foundation Foundation.Outcome Foundation.Positions Foundation.Clusters Foundation.Feedback

/-!
# Rate limits and samples of points

A limited prediction follows the prediction, but from one value to the next it moves no
farther than the greatest step.  The scale of the support is measured between points that
are spread evenly over all of them.  The arithmetic is exact.
-/

/-! ## Limited predictions -/

section Limit

variable {α : Type} [AddCommGroup α] [LinearOrder α]

/-- The value after the last output. -/
def limitStep (maximumStep last value : α) : α :=
  min (max value (last - maximumStep)) (last + maximumStep)

/-- `_apply_rate_limit` -/
def applyRateLimit (values : List α) (maximumStep : α) : List α :=
  match values with
  | [] => []
  | first :: rest => first :: feed (limitStep maximumStep) first rest

/-- The difference is no greater than the step. -/
def Within (maximumStep last value : α) : Prop :=
  |value - last| ≤ maximumStep

variable {maximumStep previous value : α} {values : List α} {index : Nat}

@[simp]
theorem length_applyRateLimit : (applyRateLimit values maximumStep).length = values.length := by
  cases values with
  | nil => rfl
  | cons first rest => exact congrArg Nat.succ (length_feed first rest)

theorem head?_applyRateLimit : (applyRateLimit values maximumStep).head? = values.head? := by
  cases values with
  | nil => rfl
  | cons first rest => rfl

theorem applyRateLimit_take (count : Nat) :
    applyRateLimit (values.take count) maximumStep = (applyRateLimit values maximumStep).take count := by
  cases values with
  | nil =>
      rw [List.take_nil]
      exact List.take_nil.symm
  | cons first rest =>
      cases count with
      | zero => rfl
      | succ count =>
          change first :: feed _ first (rest.take count) = first :: (feed _ first rest).take count
          rw [feed_take]

/-- One value of a limited prediction. -/
theorem applyRateLimit_getElem? (before : (applyRateLimit values maximumStep)[index]? = some previous)
    (given : values[index + 1]? = some value) :
    (applyRateLimit values maximumStep)[index + 1]? = some (limitStep maximumStep previous value) := by
  cases values with
  | nil => cases given
  | cons first rest => exact feed_getElem? before given

/-! ## Steps -/

variable [IsOrderedAddMonoid α]

theorem within_iff {last : α} :
    Within maximumStep last value ↔ value ≤ last + maximumStep ∧ last - maximumStep ≤ value := by
  unfold Within
  rw [abs_sub_le_iff, sub_le_iff_le_add', sub_le_comm]

theorem limitStep_within (positive : 0 < maximumStep) (last value : α) :
    Within maximumStep last (limitStep maximumStep last value) := by
  refine within_iff.mpr ⟨min_le_right _ _, le_min (le_max_right _ _) ?_⟩
  exact (sub_le_self last positive.le).trans (le_add_of_nonneg_right positive.le)

/-- A value that is near enough passes, and no other. -/
theorem limitStep_eq_iff (positive : 0 < maximumStep) {last : α} :
    limitStep maximumStep last value = value ↔ Within maximumStep last value := by
  constructor
  · intro same
    have within := limitStep_within positive last value
    rw [same] at within
    exact within
  · intro within
    rcases within_iff.mp within with ⟨above, below⟩
    rw [limitStep, max_eq_left below, min_eq_left above]

/-- The output is between the last one and the input. -/
theorem limitStep_between (positive : 0 < maximumStep) (last value : α) :
    min last value ≤ limitStep maximumStep last value ∧ limitStep maximumStep last value ≤ max last value := by
  have down : last - maximumStep ≤ last := sub_le_self last positive.le
  have up : last ≤ last + maximumStep := le_add_of_nonneg_right positive.le
  constructor
  · exact le_min ((min_le_right _ _).trans (le_max_left _ _)) ((min_le_left _ _).trans up)
  · exact (min_le_left _ _).trans (max_le (le_max_right _ _) (down.trans (le_max_left _ _)))

/-! ## The shape of a limited prediction -/

theorem applyRateLimit_isChain (positive : 0 < maximumStep) :
    List.IsChain (Within maximumStep) (applyRateLimit values maximumStep) := by
  cases values with
  | nil => exact List.IsChain.nil
  | cons first rest => exact feed_isChain (limitStep_within positive) first rest

/-- A prediction passes exactly when it never moves too far. -/
theorem applyRateLimit_eq_self_iff (positive : 0 < maximumStep) :
    applyRateLimit values maximumStep = values ↔ List.IsChain (Within maximumStep) values := by
  have passes : (fun last value => limitStep maximumStep last value = value) = Within maximumStep := by
    funext last value
    exact propext (limitStep_eq_iff positive)
  cases values with
  | nil => exact ⟨fun _ => List.IsChain.nil, fun _ => rfl⟩
  | cons first rest =>
      change first :: feed _ first rest = first :: rest ↔ _
      rw [List.cons.injEq, feed_eq_self_iff, passes]
      exact and_iff_right rfl

theorem applyRateLimit_twice (positive : 0 < maximumStep) :
    applyRateLimit (applyRateLimit values maximumStep) maximumStep = applyRateLimit values maximumStep :=
  (applyRateLimit_eq_self_iff positive).mpr (applyRateLimit_isChain positive)

/-- What a limited prediction has to do with the prediction. -/
structure Limited (values : List α) (maximumStep : α) : Prop where
  length : (applyRateLimit values maximumStep).length = values.length
  first : (applyRateLimit values maximumStep).head? = values.head?
  bounded : List.IsChain (Within maximumStep) (applyRateLimit values maximumStep)
  causal : forall count, applyRateLimit (values.take count) maximumStep = (applyRateLimit values maximumStep).take count
  between : forall index previous value, (applyRateLimit values maximumStep)[index]? = some previous ->
    values[index + 1]? = some value -> exists current, (applyRateLimit values maximumStep)[index + 1]? = some current ∧
      (min previous value ≤ current ∧ current ≤ max previous value) ∧ (current = value ↔ Within maximumStep previous value)
  passes : applyRateLimit values maximumStep = values ↔ List.IsChain (Within maximumStep) values
  twice : applyRateLimit (applyRateLimit values maximumStep) maximumStep = applyRateLimit values maximumStep

theorem limited (positive : 0 < maximumStep) (values : List α) : Limited values maximumStep where
  length := length_applyRateLimit
  first := head?_applyRateLimit
  bounded := applyRateLimit_isChain positive
  causal := applyRateLimit_take
  between _ _ _ before given :=
    ⟨_, applyRateLimit_getElem? before given, limitStep_between positive _ _, limitStep_eq_iff positive⟩
  passes := applyRateLimit_eq_self_iff positive
  twice := applyRateLimit_twice positive

end Limit

/-! ## Samples of points -/

/-- `_linspace_indices` -/
def linspaceIndices (length : Nat) (count : Int) : List Int :=
  if count = 1 then [0]
  else (pyRange 0 count).map fun index =>
    exactRoundHalfAway ((index * ((length : Int) - 1) : Int) / ((count - 1 : Int) : Rat))

/-- The positions of the points that `_support_scale` compares, for each selected point.  In the
matrix of the other path these are the entries beside the diagonal, which is infinite. -/
def supportComparisons (length : Nat) (maximum : Int) : List (List (Int × Int)) :=
  let indices := linspaceIndices length (min length maximum)
  indices.zipIdx.map fun point =>
    (indices.zipIdx.filter fun other => other.2 ≠ point.2).map fun other => (point.1, other.1)

section Support

variable {α : Type} [Field α] [LinearOrder α] (sqrt : α -> α) (median : List α -> α)

/-- The distance to the nearest of the others, when there is one and it is not at the point. -/
def nearestDistance (numpy : Bool) (squares : List α) : Option α :=
  let nearest := if numpy then squares.min?.map sqrt else (squares.map sqrt).min?
  nearest.filter fun distance => 0 < distance

/-- `_support_scale`, on the path of `_support_scale_numpy` or on that of `_support_scale_python` -/
def supportScale (numpy : Bool) (points : List (List α)) (maximum : Int) : Except AggregationError α :=
  if points.length < 2 then .ok 1
  else do
    let squares ← (supportComparisons points.length maximum).mapM fun row => row.mapM fun pair => do
      let point ← readAt .indexError points pair.1.toNat
      let other ← readAt .indexError points pair.2.toNat
      return squaredDistance point other
    let nearest := squares.filterMap (nearestDistance sqrt numpy)
    return if nearest = [] then 1 else median nearest

end Support

/-! ## Spread positions -/

section Spread

variable {length : Nat} {count maximum : Int}

theorem exactRoundHalfAway_of_nonneg {value : Rat} (nonnegative : 0 ≤ value) : exactRoundHalfAway value = ⌊value + 1 / 2⌋ :=
  if_pos nonnegative

theorem exactRoundHalfAway_intCast {value : Int} (nonnegative : 0 ≤ value) : exactRoundHalfAway value = value := by
  rw [exactRoundHalfAway_of_nonneg (by exact_mod_cast nonnegative), Int.floor_intCast_add]
  have half : ⌊(1 / 2 : Rat)⌋ = 0 := by decide +kernel
  rw [half, add_zero]

/-- The position with an index. -/
def spreadPosition (length : Nat) (count index : Int) : Int :=
  exactRoundHalfAway ((index * ((length : Int) - 1) : Int) / ((count - 1 : Int) : Rat))

theorem linspaceIndices_eq (several : 2 ≤ count) :
    linspaceIndices length count = (pyRange 0 count).map (spreadPosition length count) :=
  if_neg (by omega)

theorem spreadPosition_first (length : Nat) (count : Int) : spreadPosition length count 0 = 0 := by
  unfold spreadPosition
  rw [zero_mul, Int.cast_zero, zero_div, ← Int.cast_zero, exactRoundHalfAway_intCast (le_refl 0)]

theorem spreadPosition_last (several : 2 ≤ count) (within : count ≤ length) :
    spreadPosition length count (count - 1) = length - 1 := by
  have nonzero : ((count - 1 : Int) : Rat) ≠ 0 := by exact_mod_cast (show count - 1 ≠ 0 by omega)
  unfold spreadPosition
  rw [Int.cast_mul, mul_div_cancel_left₀ _ nonzero, exactRoundHalfAway_intCast (by omega)]

/-- From one index to the next the position grows by one at least. -/
theorem spreadPosition_lt (several : 2 ≤ count) (within : count ≤ length) {first second : Int} (nonnegative : 0 ≤ first)
    (before : first < second) : spreadPosition length count first < spreadPosition length count second := by
  have divisor : (0 : Rat) < ((count - 1 : Int) : Rat) := by exact_mod_cast (show 0 < count - 1 by omega)
  have share (index : Int) (atLeast : 0 ≤ index) :
      (0 : Rat) ≤ (index * ((length : Int) - 1) : Int) / ((count - 1 : Int) : Rat) := by
    have wide : 0 ≤ (length : Int) - 1 := by omega
    exact div_nonneg (Int.cast_nonneg (mul_nonneg atLeast wide)) divisor.le
  have product : first * ((length : Int) - 1) + (count - 1) ≤ second * ((length : Int) - 1) := by
    calc first * ((length : Int) - 1) + (count - 1) ≤ first * ((length : Int) - 1) + 1 * ((length : Int) - 1) := by omega
      _ = (first + 1) * ((length : Int) - 1) := (add_mul _ _ _).symm
      _ ≤ second * ((length : Int) - 1) := mul_le_mul_of_nonneg_right (by omega) (by omega)
  have apart : ((first * ((length : Int) - 1) : Int) : Rat) / ((count - 1 : Int) : Rat) + 1 ≤
      ((second * ((length : Int) - 1) : Int) : Rat) / ((count - 1 : Int) : Rat) := by
    rw [div_add_one divisor.ne', div_le_div_iff_of_pos_right divisor]
    exact_mod_cast product
  unfold spreadPosition
  rw [exactRoundHalfAway_of_nonneg (share first nonnegative), exactRoundHalfAway_of_nonneg (share second (by omega))]
  refine Int.lt_of_add_one_le ?_
  rw [← Int.floor_add_one]
  exact Int.floor_le_floor (by linarith only [apart])

theorem linspaceIndices_pairwise (several : 2 ≤ count) (within : count ≤ length) :
    (linspaceIndices length count).Pairwise (· < ·) := by
  rw [linspaceIndices_eq several, List.pairwise_map]
  refine (pyRange_pairwise 0 count).imp_of_mem ?_
  intro first second isFirst _ before
  exact spreadPosition_lt several within (mem_pyRange.mp isFirst).1 before

theorem linspaceIndices_head? (several : 2 ≤ count) : (linspaceIndices length count).head? = some 0 := by
  have split := @pyRange_append 0 1 count (by omega) (by omega)
  rw [linspaceIndices_eq several, ← split, List.map_append, List.head?_append]
  change some (spreadPosition length count (0 + (0 : Nat))) = some 0
  rw [Nat.cast_zero, add_zero, spreadPosition_first]

theorem linspaceIndices_getLast? (several : 2 ≤ count) (within : count ≤ length) :
    (linspaceIndices length count).getLast? = some ((length : Int) - 1) := by
  have split := @pyRange_append 0 (count - 1) count (by omega) (by omega)
  have single : pyRange (count - 1) count = [count - 1] := by
    rw [pyRange, show (count - (count - 1)).toNat = 1 by omega]
    exact congrArg (fun index => [index]) (Int.add_zero _)
  rw [linspaceIndices_eq several, ← split, single, List.map_append, List.map_cons, List.map_nil, List.getLast?_concat,
    spreadPosition_last several within]

/-- The positions are different, whatever their number. -/
theorem linspaceIndices_nodup (within : count ≤ length) : (linspaceIndices length count).Nodup := by
  rcases lt_trichotomy count 1 with fewer | one | more
  · have none : pyRange 0 count = [] := by
      rw [pyRange, show (count - 0).toNat = 0 by omega]
      rfl
    rw [linspaceIndices, if_neg (by omega), none]
    exact List.nodup_nil
  · rw [linspaceIndices, if_pos one]
    exact List.nodup_singleton 0
  · exact (linspaceIndices_pairwise more within).imp fun before => before.ne

/-- No point is compared with itself. -/
theorem supportComparisons_ne {row : List (Int × Int)} {pair : Int × Int} (inRows : row ∈ supportComparisons length maximum)
    (inRow : pair ∈ row) : pair.1 ≠ pair.2 := by
  rcases List.mem_map.mp inRows with ⟨point, isPoint, rfl⟩
  rcases List.mem_map.mp inRow with ⟨other, isOther, rfl⟩
  rcases List.mem_filter.mp isOther with ⟨inside, different⟩
  intro same
  refine of_decide_eq_true different ?_
  have pointAt := List.mk_mem_zipIdx_iff_getElem?.mp isPoint
  have otherAt := List.mk_mem_zipIdx_iff_getElem?.mp inside
  dsimp only at same
  rw [same] at pointAt
  have nodup := @linspaceIndices_nodup length (min length maximum) (min_le_left _ _)
  exact ((List.getElem?_inj (List.getElem?_eq_some_iff.mp otherAt).1 nodup).mp (otherAt.trans pointAt.symm))

theorem mem_linspaceIndices (within : count ≤ length) {position : Int}
    (member : position ∈ linspaceIndices length count) : 0 ≤ position ∧ position < length := by
  by_cases one : count = 1
  · rw [linspaceIndices, if_pos one, List.mem_singleton] at member
    omega
  · rw [linspaceIndices, if_neg one] at member
    rcases List.mem_map.mp member with ⟨index, inRange, rfl⟩
    rcases mem_pyRange.mp inRange with ⟨nonnegative, below⟩
    have several : 2 ≤ count := by omega
    change 0 ≤ spreadPosition length count index ∧ spreadPosition length count index < length
    have first := spreadPosition_first length count
    have last := spreadPosition_last several within
    constructor
    · rcases eq_or_lt_of_le nonnegative with same | after
      · rw [← same, first]
      · have rises := spreadPosition_lt several within (le_refl 0) after
        omega
    · rcases eq_or_lt_of_le (Int.le_sub_one_of_lt below) with same | before
      · rw [same, last]
        omega
      · have rises := spreadPosition_lt several within nonnegative before
        omega

/-- Every point that is asked for is there. -/
theorem supportScale_ok {α : Type} [Field α] [LinearOrder α] (sqrt : α -> α) (median : List α -> α) (numpy : Bool)
    (points : List (List α)) (maximum : Int) : exists scale, supportScale sqrt median numpy points maximum = .ok scale := by
  unfold supportScale
  by_cases few : points.length < 2
  · exact ⟨1, if_pos few⟩
  · rw [if_neg few]
    have inside {position : Int} (member : position ∈ linspaceIndices points.length (min points.length maximum)) :
        position.toNat < points.length := by
      have range := mem_linspaceIndices (min_le_left _ _) member
      omega
    have rows : ∀ row ∈ supportComparisons points.length maximum, exists squares, (row.mapM fun pair => do
        let point ← readAt AggregationError.indexError points pair.1.toNat
        let other ← readAt AggregationError.indexError points pair.2.toNat
        return squaredDistance point other) = .ok squares := by
      intro row inRows
      refine mapM_total fun pair inRow => ?_
      rcases List.mem_map.mp inRows with ⟨point, isPoint, rfl⟩
      rcases List.mem_map.mp inRow with ⟨other, isOther, rfl⟩
      have pointMember := List.fst_mem_of_mem_zipIdx isPoint
      have otherMember := List.fst_mem_of_mem_zipIdx (List.mem_filter.mp isOther).1
      rcases readAt_total AggregationError.indexError (inside pointMember) with ⟨first, _, readFirst⟩
      rcases readAt_total AggregationError.indexError (inside otherMember) with ⟨second, _, readSecond⟩
      refine ⟨squaredDistance first second, ?_⟩
      dsimp only
      rw [readFirst, ok_bind, readSecond, ok_bind]
      rfl
    rcases mapM_total rows with ⟨squares, areSquares⟩
    rw [areSquares]
    exact ⟨_, rfl⟩

end Spread

/-- The predictions are limited, and the positions are spread from the first to the last. -/
theorem limited_and_spread {α : Type} [AddCommGroup α] [LinearOrder α] [IsOrderedAddMonoid α] :
    (forall (values : List α) (maximumStep : α), 0 < maximumStep -> Limited values maximumStep) ∧
      (forall (length : Nat) (count : Int), 2 ≤ count -> count ≤ length ->
        (linspaceIndices length count).Pairwise (· < ·) ∧ (linspaceIndices length count).head? = some 0 ∧
          (linspaceIndices length count).getLast? = some ((length : Int) - 1)) ∧
      forall (length : Nat) (maximum : Int), ∀ row ∈ supportComparisons length maximum, ∀ pair ∈ row, pair.1 ≠ pair.2 := by
  refine ⟨fun values maximumStep positive => limited positive values, ?_, ?_⟩
  · intro length count several within
    exact ⟨linspaceIndices_pairwise several within, linspaceIndices_head? several, linspaceIndices_getLast? several within⟩
  · intro length maximum row inRows pair inRow
    exact supportComparisons_ne inRows inRow

theorem limited_and_spread_sample : Limited [0, 5, 3, -4] (2 : Int) ∧ applyRateLimit [0, 5, 3, -4] (2 : Int) = [0, 2, 3, 1] ∧
    (linspaceIndices 10 4).Pairwise (· < ·) ∧ linspaceIndices 10 4 = [0, 3, 6, 9] :=
  ⟨limited_and_spread.1 [0, 5, 3, -4] 2 (by decide), by decide,
    ((@limited_and_spread Int _ _ _).2.1 10 4 (by decide) (by decide)).1, by decide +kernel⟩

end Worker
end FederatedIot
