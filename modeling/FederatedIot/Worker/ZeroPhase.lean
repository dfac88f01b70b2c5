import FederatedIot.Foundation.MovingAverage
import FederatedIot.Worker.Preprocessing
import Mathlib.Algebra.BigOperators.Field
import Mathlib.Algebra.BigOperators.GroupWithZero.Action
import Mathlib.Algebra.BigOperators.Ring.Finset
import Mathlib.Tactic.FieldSimp

namespace FederatedIot
namespace Worker

open Foundation Foundation.Outcome

/-!
# The zero-phase filter

A signal is extended at both ends by an odd reflection, averaged forward and then
backward, and trimmed.  The states of the two filters start as if the first value
had always been there, and the part of the output that this reaches is trimmed
away.  What is left weighs the neighbours of a position by their distance.
-/

/-! ## The filter of the source -/

/-- `_fir_filter_with_state` -/
def firFilterWithState (values : List Rat) (coefficient : Rat) (state : List Rat) : List Rat :=
  MovingAverage.filter coefficient state values

/-- `3 * (window - 1)` -/
def edgeOf (window : Nat) : Nat :=
  3 * (window - 1)

/-- The odd reflection of a signal at both of its ends. -/
def extendedBy (edge : Nat) (source : List Rat) : List Rat :=
  ((List.range edge).map fun step => 2 * source.getD 0 0 - source.getD (edge - step) 0) ++ source ++
    (List.range edge).map fun step =>
      2 * source.getD (source.length - 1) 0 - source.getD (source.length - 2 - step) 0

/-- The state of the filter for a constant signal of ones. -/
def initialState (window : Nat) (coefficient : Rat) : List Rat :=
  (List.range (window - 1)).map fun index => coefficient * (window - index - 1 : Nat)

/-- `_zero_phase_fir` -/
def zeroPhaseFir (source : List Rat) (window : Nat) : Except PreparationFailure (List Rat) := do
  let edge := edgeOf window
  require (edge < source.length)
    (.failed "INSUFFICIENT_SAMPLES" "Signal is too short for the frozen zero-phase FIR path.")
  let coefficient := 1 / (window : Rat)
  let extended := extendedBy edge source
  let state := initialState window coefficient
  let forward := firFilterWithState extended coefficient (state.map fun kept => kept * extended.getD 0 0)
  let backwardReversed := firFilterWithState forward.reverse coefficient
    (state.map fun kept => kept * forward.getD (forward.length - 1) 0)
  return (backwardReversed.reverse.take (backwardReversed.length - edge)).drop edge

/-! ## The closed form -/

/-- The signal at every position, reflected beyond its ends. -/
def oddReflection (source : List Rat) (position : Int) : Rat :=
  if position < 0 then 2 * source.getD 0 0 - source.getD (-position).toNat 0
  else if position < source.length then source.getD position.toNat 0
  else
    2 * source.getD (source.length - 1) 0 - source.getD (2 * (source.length - 1) - position : Int).toNat 0

/-- The weighted mean of the neighbours of a position. -/
def weightedMean (window : Nat) (source : List Rat) (position : Int) : Rat :=
  ∑ shift ∈ MovingAverage.near window,
    ((window - |shift| : Int) : Rat) / window ^ 2 * oddReflection source (position + shift)

/-- The weighted means of all positions. -/
def smoothed (window : Nat) (source : List Rat) : List Rat :=
  (List.range source.length).map fun position : Nat => weightedMean window source position

variable {window edge : Nat} {source : List Rat}

theorem getD_append_left {first second : List Rat} {index : Nat} (inside : index < first.length) :
    (first ++ second).getD index 0 = first.getD index 0 := by
  rw [List.getD_eq_getElem?_getD, List.getD_eq_getElem?_getD, List.getElem?_append_left inside]

theorem getD_append_right {first second : List Rat} (index : Nat) :
    (first ++ second).getD (first.length + index) 0 = second.getD index 0 := by
  rw [List.getD_eq_getElem?_getD, List.getD_eq_getElem?_getD, List.getElem?_append_right (Nat.le_add_right _ _),
    Nat.add_sub_cancel_left]

theorem getD_map_range {count index : Nat} (inside : index < count) (value : Nat -> Rat) :
    ((List.range count).map value).getD index 0 = value index := by
  rw [List.getD_eq_getElem?_getD, List.getElem?_map, List.getElem?_range inside]
  rfl

theorem extendedBy_length (edge : Nat) (source : List Rat) :
    (extendedBy edge source).length = edge + source.length + edge := by
  simp only [extendedBy, List.length_append, List.length_map, List.length_range]

/-- The extension shows the reflected signal, shifted by the edge. -/
theorem extendedBy_getD (long : edge < source.length) {position : Int} (after : -(edge : Int) ≤ position)
    (before : position < source.length + edge) :
    (extendedBy edge source).getD (edge + position).toNat 0 = oddReflection source position := by
  have leftLength : ((List.range edge).map fun step => 2 * source.getD 0 0 - source.getD (edge - step) 0).length =
      edge := by
    rw [List.length_map, List.length_range]
  rw [extendedBy, oddReflection, List.append_assoc]
  by_cases left : position < 0
  · rw [if_pos left, getD_append_left (by rw [leftLength]; omega), getD_map_range (by omega),
      show edge - (edge + position).toNat = (-position).toNat by omega]
  · obtain ⟨index, rfl⟩ : ∃ index : Nat, position = index := ⟨position.toNat, by omega⟩
    rw [if_neg left, show ((edge : Int) + index).toNat = edge + index by omega]
    have shifted := @getD_append_right
      ((List.range edge).map fun step => 2 * source.getD 0 0 - source.getD (edge - step) 0)
      (source ++ (List.range edge).map fun step =>
        2 * source.getD (source.length - 1) 0 - source.getD (source.length - 2 - step) 0) index
    rw [leftLength] at shifted
    rw [shifted]
    by_cases middle : (index : Int) < source.length
    · rw [if_pos middle, getD_append_left (by omega), Int.toNat_natCast]
    · obtain ⟨step, rfl⟩ : ∃ step : Nat, index = source.length + step := ⟨index - source.length, by omega⟩
      rw [if_neg middle, getD_append_right, getD_map_range (by omega),
        show (2 * ((source.length : Int) - 1) - (source.length + step : Nat)).toNat = source.length - 2 - step by omega]

/-! ## The two passes -/

theorem getD_of_getElem? {values : List Rat} {index : Nat} {value : Rat} (found : values[index]? = some value) :
    values.getD index 0 = value := by
  rw [List.getD_eq_getElem?_getD, found]
  rfl

theorem head?_eq_getD {values : List Rat} (nonempty : 0 < values.length) : values.head? = some (values.getD 0 0) := by
  cases values with
  | nil => exact absurd nonempty (Nat.lt_irrefl 0)
  | cons first rest => rfl

theorem reverse_getD {values : List Rat} {index : Nat} (inside : index < values.length) :
    values.reverse.getD index 0 = values.getD (values.length - 1 - index) 0 := by
  rw [List.getD_eq_getElem?_getD, List.getD_eq_getElem?_getD, List.getElem?_reverse inside]

/-- A pass over values, in the steady state of the first of them. -/
theorem pass_getD {values : List Rat} (coefficient : Rat) (wide : 2 ≤ window) {index : Nat}
    (inside : index < values.length) :
    (firFilterWithState values coefficient
        ((initialState window coefficient).map fun kept => kept * values.getD 0 0)).getD index 0 =
      coefficient * ∑ age ∈ Finset.range window, values.getD (index - age) 0 := by
  have steady : (initialState window coefficient).map (fun kept => kept * values.getD 0 0) =
      MovingAverage.delayOf coefficient window fun _ => values.getD 0 0 := by
    rw [MovingAverage.delayOf_const, initialState, List.map_map]
    apply List.map_congr_left
    intro step _
    rw [Nat.sub_right_comm]
    rfl
  have starts := head?_eq_getD (Nat.zero_lt_of_lt inside)
  apply getD_of_getElem?
  rw [firFilterWithState, steady, MovingAverage.filter_steady wide starts inside]

theorem pass_length (values : List Rat) (coefficient : Rat) (state : List Rat) :
    (firFilterWithState values coefficient state).length = values.length :=
  MovingAverage.filter_length state

/-- What both passes make of a position of the signal. -/
theorem two_passes (wide : 3 ≤ window) (long : edgeOf window < source.length) {forward backward : List Rat}
    (isForward : forward = firFilterWithState (extendedBy (edgeOf window) source) (1 / (window : Rat))
      ((initialState window (1 / (window : Rat))).map fun kept =>
        kept * (extendedBy (edgeOf window) source).getD 0 0))
    (isBackward : backward = firFilterWithState forward.reverse (1 / (window : Rat))
      ((initialState window (1 / (window : Rat))).map fun kept => kept * forward.getD (forward.length - 1) 0))
    {position : Nat} (inside : position < source.length) :
    backward.reverse.getD (edgeOf window + position) 0 = weightedMean window source position := by
  have twice : 2 ≤ window := Nat.le_of_succ_le wide
  have edgeWide : window - 1 + (window - 1) ≤ edgeOf window := by
    rw [edgeOf]
    omega
  have extendedLength := extendedBy_length (edgeOf window) source
  have forwardLength : forward.length = edgeOf window + source.length + edgeOf window := by
    rw [isForward, pass_length, extendedLength]
  have backwardLength : backward.length = edgeOf window + source.length + edgeOf window := by
    rw [isBackward, pass_length, List.length_reverse, forwardLength]
  have steady : forward.getD (forward.length - 1) 0 = forward.reverse.getD 0 0 := by
    rw [reverse_getD (by omega), Nat.sub_zero]
  -- A value of the forward pass that the trimmed part of the backward one reads.
  have ahead : ∀ age ∈ Finset.range window,
      forward.reverse.getD (forward.length - 1 - (edgeOf window + position) - age) 0 =
        1 / (window : Rat) * ∑ back ∈ Finset.range window, oddReflection source (position + (age - back)) := by
    intro age member
    rw [Finset.mem_range] at member
    rw [reverse_getD (by omega), show forward.length - 1 - (forward.length - 1 - (edgeOf window + position) - age) =
      edgeOf window + position + age by omega, isForward, pass_getD _ twice (by omega)]
    congr 1
    apply Finset.sum_congr rfl
    intro back backMember
    rw [Finset.mem_range] at backMember
    rw [← extendedBy_getD long (by omega) (by omega)]
    congr 1
    omega
  rw [reverse_getD (by omega), isBackward, steady, pass_length, List.length_reverse,
    pass_getD _ twice (by rw [List.length_reverse]; omega), Finset.sum_congr rfl ahead, ← Finset.mul_sum, weightedMean,
    MovingAverage.sum_sum_sub (fun shift => oddReflection source (position + shift)) window, Finset.mul_sum,
    Finset.mul_sum]
  apply Finset.sum_congr rfl
  intro shift _
  ring

/-- The filter returns the weighted means. -/
theorem zeroPhaseFir_ok (wide : 3 ≤ window) (long : edgeOf window < source.length) :
    zeroPhaseFir source window = .ok (smoothed window source) := by
  rw [zeroPhaseFir]
  simp only [require_of _ long]
  apply congrArg Except.ok
  have extendedLength := extendedBy_length (edgeOf window) source
  generalize isForward : firFilterWithState (extendedBy (edgeOf window) source) _ _ = forward
  generalize isBackward : firFilterWithState forward.reverse _ _ = backward
  have length : backward.length = edgeOf window + source.length + edgeOf window := by
    rw [← isBackward, pass_length, List.length_reverse, ← isForward, pass_length, extendedLength]
  apply List.ext_getElem?
  intro position
  rw [List.getElem?_drop, List.getElem?_take]
  by_cases inside : position < source.length
  · have passed := two_passes wide long isForward.symm isBackward.symm inside
    have within : edgeOf window + position < backward.reverse.length := by
      rw [List.length_reverse]
      omega
    rw [List.getD_eq_getElem?_getD, List.getElem?_eq_getElem within] at passed
    rw [if_pos (by omega), List.getElem?_eq_getElem within, smoothed, List.getElem?_map, List.getElem?_range inside,
      Option.map_some, ← passed]
    rfl
  · rw [if_neg (by omega), smoothed, List.getElem?_map, List.getElem?_eq_none (by rw [List.length_range]; omega)]
    rfl

/-! ## Consequences -/

theorem smoothed_length (window : Nat) (source : List Rat) : (smoothed window source).length = source.length := by
  rw [smoothed, List.length_map, List.length_range]

/-- The reflection of a combination of signals. -/
theorem oddReflection_combine {first second : List Rat} (sameLength : first.length = second.length)
    (left right : Rat) (position : Int) :
    oddReflection (List.zipWith (fun one other => left * one + right * other) first second) position =
      left * oddReflection first position + right * oddReflection second position := by
  have entry : forall index, (List.zipWith (fun one other => left * one + right * other) first second).getD index 0 =
      left * first.getD index 0 + right * second.getD index 0 := by
    intro index
    rw [List.getD_eq_getElem?_getD, List.getD_eq_getElem?_getD, List.getD_eq_getElem?_getD, List.getElem?_zipWith]
    by_cases inside : index < first.length
    · rw [List.getElem?_eq_getElem inside, List.getElem?_eq_getElem (sameLength ▸ inside)]
      rfl
    · rw [List.getElem?_eq_none (Nat.not_lt.mp inside),
        List.getElem?_eq_none (Nat.not_lt.mp (sameLength ▸ inside))]
      change (0 : Rat) = left * 0 + right * 0
      ring
  have length : (List.zipWith (fun one other => left * one + right * other) first second).length = first.length := by
    rw [List.length_zipWith, ← sameLength, Nat.min_self]
  simp only [oddReflection, entry, length, ← sameLength]
  split
  · ring
  · split <;> ring

theorem weightedMean_combine {first second : List Rat} (sameLength : first.length = second.length)
    (left right : Rat) (position : Int) :
    weightedMean window (List.zipWith (fun one other => left * one + right * other) first second) position =
      left * weightedMean window first position + right * weightedMean window second position := by
  simp only [weightedMean, oddReflection_combine sameLength, mul_add, Finset.sum_add_distrib, Finset.mul_sum]
  congr 1
  · exact Finset.sum_congr rfl fun shift _ => by ring
  · exact Finset.sum_congr rfl fun shift _ => by ring

/-- The reflection of a reversed signal. -/
theorem oddReflection_reverse {position : Int} (after : -(source.length : Int) < position)
    (before : position < 2 * source.length - 1) :
    oddReflection source.reverse position = oddReflection source (source.length - 1 - position) := by
  rw [oddReflection, oddReflection, List.length_reverse]
  by_cases left : position < 0
  · rw [if_pos left, if_neg (by omega), if_neg (by omega), reverse_getD (by omega), reverse_getD (by omega),
      Nat.sub_zero]
    congr 2
    omega
  · rw [if_neg left]
    by_cases middle : position < source.length
    · rw [if_pos middle, if_neg (by omega), if_pos (by omega), reverse_getD (by omega)]
      congr 1
      omega
    · rw [if_neg middle, if_pos (by omega), reverse_getD (by omega), reverse_getD (by omega), Nat.sub_self]
      congr 2
      omega

/-- The weights are the same on both sides. -/
theorem weightedMean_reverse (narrow : window ≤ source.length) {position : Nat} (inside : position < source.length) :
    weightedMean window source.reverse position = weightedMean window source (source.length - 1 - position : Nat) := by
  rw [weightedMean, weightedMean]
  apply Finset.sum_nbij' (fun shift => -shift) (fun shift => -shift)
  · intro shift member
    rw [MovingAverage.mem_near] at member ⊢
    omega
  · intro shift member
    rw [MovingAverage.mem_near] at member ⊢
    omega
  · intro shift _
    exact neg_neg shift
  · intro shift _
    exact neg_neg shift
  · intro shift member
    rw [MovingAverage.mem_near] at member
    rw [oddReflection_reverse (by omega) (by omega), abs_neg]
    congr 2
    omega

/-- The reflection of a straight line goes on with it. -/
theorem oddReflection_affine {level slope : Rat}
    (affine : source = (List.range source.length).map fun index : Nat => level + slope * index) {position : Int}
    (after : -(source.length : Int) < position) (before : position < 2 * source.length - 1) :
    oddReflection source position = level + slope * position := by
  have entry : forall index, index < source.length -> source.getD index 0 = level + slope * index := by
    intro index inside
    rw [affine]
    exact getD_map_range inside _
  rw [oddReflection]
  by_cases left : position < 0
  · rw [if_pos left, entry 0 (by omega), entry _ (by omega)]
    have size : (((-position).toNat : Nat) : Rat) = -position := by
      exact_mod_cast (show (((-position).toNat : Nat) : Int) = -position by omega)
    rw [size, Nat.cast_zero]
    ring
  · rw [if_neg left]
    by_cases middle : position < source.length
    · rw [if_pos middle, entry _ (by omega)]
      have size : ((position.toNat : Nat) : Rat) = position := by
        exact_mod_cast (show ((position.toNat : Nat) : Int) = position by omega)
      rw [size]
    · rw [if_neg middle, entry _ (by omega), entry _ (by omega)]
      have size : (((2 * ((source.length : Int) - 1) - position).toNat : Nat) : Rat) =
          2 * ((source.length - 1 : Nat) : Rat) - position := by
        exact_mod_cast (show (((2 * ((source.length : Int) - 1) - position).toNat : Nat) : Int) =
          2 * ((source.length - 1 : Nat) : Int) - position by omega)
      rw [size]
      ring

/-- The weights sum to one, and they balance. -/
theorem weights_balance (positive : 0 < window) :
    (∑ shift ∈ MovingAverage.near window, ((window - |shift| : Int) : Rat) / window ^ 2 = 1) ∧
      ∑ shift ∈ MovingAverage.near window, ((window - |shift| : Int) : Rat) / window ^ 2 * shift = 0 := by
  have nonzero : (window : Rat) ≠ 0 := by exact_mod_cast positive.ne'
  have pairs := MovingAverage.sum_sum_sub (fun _ => (1 : Rat)) window
  have differences := MovingAverage.sum_sum_sub (fun shift => (shift : Rat)) window
  have cancels : ∑ first ∈ Finset.range window, ∑ second ∈ Finset.range window, ((first - second : Int) : Rat) = 0 := by
    simp only [Int.cast_sub, Int.cast_natCast, Finset.sum_sub_distrib, Finset.sum_const, Finset.card_range]
    rw [← Finset.smul_sum, sub_self]
  rw [cancels] at differences
  simp only [Finset.sum_const, Finset.card_range, nsmul_eq_mul, mul_one] at pairs
  constructor
  · rw [← Finset.sum_div, ← pairs]
    field_simp
  · rw [Finset.sum_congr rfl fun shift _ => div_mul_eq_mul_div _ _ _, ← Finset.sum_div, ← differences, zero_div]

/-- A straight line keeps its values. -/
theorem weightedMean_affine (wide : 3 ≤ window) (narrow : window ≤ source.length) {level slope : Rat}
    (affine : source = (List.range source.length).map fun index : Nat => level + slope * index) {position : Nat}
    (inside : position < source.length) : weightedMean window source position = level + slope * position := by
  have shifts : ∀ shift ∈ MovingAverage.near window,
      ((window - |shift| : Int) : Rat) / window ^ 2 * oddReflection source (position + shift) =
        ((window - |shift| : Int) : Rat) / window ^ 2 * (level + slope * position) +
          ((window - |shift| : Int) : Rat) / window ^ 2 * shift * slope := by
    intro shift member
    rw [MovingAverage.mem_near] at member
    rw [oddReflection_affine affine (by omega) (by omega)]
    push_cast
    ring
  rcases weights_balance (Nat.lt_of_lt_of_le (by decide : 0 < 3) wide) with ⟨whole, balanced⟩
  rw [weightedMean, Finset.sum_congr rfl shifts, Finset.sum_add_distrib, ← Finset.sum_mul, ← Finset.sum_mul, whole,
    balanced]
  ring

theorem smoothed_getElem? {position : Nat} (inside : position < source.length) :
    (smoothed window source)[position]? = some (weightedMean window source position) := by
  rw [smoothed, List.getElem?_map, List.getElem?_range inside, Option.map_some]

theorem smoothed_none {position : Nat} (outside : ¬position < source.length) :
    (smoothed window source)[position]? = none :=
  List.getElem?_eq_none (by rw [smoothed_length]; omega)

theorem smoothed_reverse (narrow : window ≤ source.length) :
    smoothed window source.reverse = (smoothed window source).reverse := by
  apply List.ext_getElem?
  intro position
  by_cases inside : position < source.length
  · rw [smoothed_getElem? (by rw [List.length_reverse]; exact inside), weightedMean_reverse narrow inside,
      List.getElem?_reverse (by rw [smoothed_length]; exact inside), smoothed_length,
      smoothed_getElem? (by omega)]
  · rw [smoothed_none (by rw [List.length_reverse]; exact inside), List.getElem?_eq_none]
    rw [List.length_reverse, smoothed_length]
    omega

theorem smoothed_combine {first second : List Rat} (sameLength : first.length = second.length) (left right : Rat) :
    smoothed window (List.zipWith (fun one other => left * one + right * other) first second) =
      List.zipWith (fun one other => left * one + right * other) (smoothed window first)
        (smoothed window second) := by
  have length : (List.zipWith (fun one other => left * one + right * other) first second).length = first.length := by
    rw [List.length_zipWith, ← sameLength, Nat.min_self]
  apply List.ext_getElem?
  intro position
  rw [List.getElem?_zipWith]
  by_cases inside : position < first.length
  · rw [smoothed_getElem? (by rw [length]; exact inside), smoothed_getElem? inside,
      smoothed_getElem? (sameLength ▸ inside), weightedMean_combine sameLength]
  · rw [smoothed_none (by rw [length]; exact inside), smoothed_none inside]

theorem smoothed_affine (wide : 3 ≤ window) (narrow : window ≤ source.length) {level slope : Rat}
    (affine : source = (List.range source.length).map fun index : Nat => level + slope * index) :
    smoothed window source = source := by
  rw [smoothed]
  conv => rhs; rw [affine]
  apply List.map_congr_left
  intro position member
  exact weightedMean_affine wide narrow affine (List.mem_range.mp member)

/-- The filter is the weighted mean of the neighbours.  It is linear, commutes with
reversal and leaves straight lines as they are. -/
theorem zero_phase_closed_form (wide : 3 ≤ window) (long : edgeOf window < source.length) :
    ∃ output, zeroPhaseFir source window = .ok output ∧ output.length = source.length ∧
      (forall position, position < source.length ->
        output[position]? = some (weightedMean window source position)) ∧
      (forall other left right, source.length = other.length ->
        ∃ otherOutput, zeroPhaseFir other window = .ok otherOutput ∧
          zeroPhaseFir (List.zipWith (fun one other => left * one + right * other) source other) window =
            .ok (List.zipWith (fun one other => left * one + right * other) output otherOutput)) ∧
      zeroPhaseFir source.reverse window = .ok output.reverse ∧
      ((∃ level slope : Rat, source = (List.range source.length).map fun index : Nat => level + slope * index) ->
        output = source) := by
  have narrow : window ≤ source.length := by
    rw [edgeOf] at long
    omega
  refine ⟨_, zeroPhaseFir_ok wide long, smoothed_length window source, ?_, ?_, ?_, ?_⟩
  · intro position inside
    exact smoothed_getElem? inside
  · intro other left right sameLength
    have combined : (List.zipWith (fun one other => left * one + right * other) source other).length =
        source.length := by
      rw [List.length_zipWith, ← sameLength, Nat.min_self]
    refine ⟨_, zeroPhaseFir_ok wide (sameLength ▸ long), ?_⟩
    rw [zeroPhaseFir_ok wide (combined ▸ long), smoothed_combine sameLength]
  · rw [zeroPhaseFir_ok wide (by rw [List.length_reverse]; exact long), smoothed_reverse narrow]
  · rintro ⟨level, slope, affine⟩
    exact smoothed_affine wide narrow affine

/-- A rising line of ten values. -/
theorem zero_phase_closed_form_sample :
    ∃ output, zeroPhaseFir [1, 3, 5, 7, 9, 11, 13, 15, 17, 19] 3 = .ok output ∧
      output = [1, 3, 5, 7, 9, 11, 13, 15, 17, 19] := by
  rcases @zero_phase_closed_form 3 [1, 3, 5, 7, 9, 11, 13, 15, 17, 19] (by decide) (by decide) with
    ⟨output, filtered, _, _, _, _, kept⟩
  exact ⟨output, filtered, kept ⟨1, 2, by decide +kernel⟩⟩

end Worker
end FederatedIot
