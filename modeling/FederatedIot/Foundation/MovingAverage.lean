import Mathlib.Algebra.BigOperators.Intervals
import Mathlib.Algebra.Order.Group.Int.Sum
import Mathlib.Tactic.LinearCombination
import Mathlib.Tactic.Ring

namespace Foundation
namespace MovingAverage

/-!
# Moving averages

A filter with equal coefficients, in transposed form, keeps the scaled sums of its
last inputs in a delay line.  A line that starts as if the first input had always
been there makes the output at each position a sum over the inputs before it, where
positions before the first stand for the first.

Two such sums, one after the other in opposite directions, weigh each neighbour by
its distance.
-/

variable {K : Type*} [CommRing K]

/-! ## The delay line -/

/-- The outputs of the filter from a delay line on. -/
def filter (coefficient : K) : List K -> List K -> List K
  | _, [] => []
  | delay, value :: rest =>
      (coefficient * value + delay.headD 0) ::
        filter coefficient ((delay.tail.map fun kept => coefficient * value + kept) ++ [coefficient * value]) rest

/-- The delay line after inputs, given by their age. -/
def delayOf (coefficient : K) (window : Nat) (history : Nat -> K) : List K :=
  (List.range (window - 1)).map fun index =>
    coefficient * ∑ age ∈ Finset.range (window - 1 - index), history age

/-- The inputs by their age after one more. -/
def push (value : K) (history : Nat -> K) : Nat -> K
  | 0 => value
  | age + 1 => history age

/-- The inputs by their age after the first ones of a list. -/
def past (values : List K) (history : Nat -> K) (index age : Nat) : K :=
  if age ≤ index then values.getD (index - age) 0 else history (age - index - 1)

variable {coefficient value : K} {window : Nat} {history : Nat -> K} {values : List K}

theorem sum_push (count : Nat) :
    ∑ age ∈ Finset.range (count + 1), push value history age = value + ∑ age ∈ Finset.range count, history age := by
  rw [Finset.sum_range_succ']
  exact add_comm _ _

theorem filter_length (delay : List K) : (filter coefficient delay values).length = values.length := by
  induction values generalizing delay with
  | nil => rfl
  | cons value rest inductionHypothesis => exact congrArg Nat.succ (inductionHypothesis _)

/-- The head of the line completes the sum of the new input. -/
theorem delayOf_head (wide : 2 ≤ window) :
    coefficient * value + (delayOf coefficient window history).headD 0 =
      coefficient * ∑ age ∈ Finset.range window, push value history age := by
  obtain ⟨count, rfl⟩ : ∃ count, window = count + 2 := ⟨window - 2, by omega⟩
  rw [sum_push, mul_add, delayOf, show count + 2 - 1 = count + 1 from rfl, List.range_succ_eq_map]
  rfl

/-- The line after one more input. -/
theorem delayOf_push (wide : 2 ≤ window) :
    ((delayOf coefficient window history).tail.map fun kept => coefficient * value + kept) ++ [coefficient * value] =
      delayOf coefficient window (push value history) := by
  obtain ⟨count, rfl⟩ : ∃ count, window = count + 2 := ⟨window - 2, by omega⟩
  have last : coefficient * value =
      coefficient * ∑ age ∈ Finset.range (count + 2 - 1 - count), push value history age := by
    rw [show count + 2 - 1 - count = 0 + 1 by omega, sum_push, Finset.sum_range_zero, add_zero]
  rw [delayOf, delayOf, show count + 2 - 1 = count + 1 from rfl, List.range_succ_eq_map, List.map_cons, List.tail_cons,
    List.map_map, List.map_map, ← List.range_succ_eq_map, List.range_succ, List.map_append, List.map_cons,
    List.map_nil]
  congr 1
  · apply List.map_congr_left
    intro index member
    have before := List.mem_range.mp member
    have shifted : count + 1 - index = (count + 1 - (index + 1)) + 1 := by omega
    rw [shifted, sum_push, mul_add]
    rfl
  · exact congrArg (fun final => [final]) last

theorem past_push (rest : List K) (index : Nat) :
    past rest (push value history) index = past (value :: rest) history (index + 1) := by
  funext age
  simp only [past]
  by_cases recent : age ≤ index
  · obtain ⟨before, same⟩ : ∃ before, index - age = before := ⟨_, rfl⟩
    rw [if_pos recent, if_pos (by omega), show index + 1 - age = (index - age) + 1 by omega, List.getD_cons_succ]
  · rw [if_neg recent]
    by_cases first : age = index + 1
    · rw [first, if_pos (Nat.le_refl _), Nat.sub_self, List.getD_cons_zero, Nat.add_sub_cancel_left]
      rfl
    · rw [if_neg (by omega), show age - index - 1 = (age - (index + 1) - 1) + 1 by omega]
      rfl

/-- The output at a position is the scaled sum of the inputs up to it. -/
theorem filter_getElem? (wide : 2 ≤ window) {index : Nat} (inside : index < values.length) :
    (filter coefficient (delayOf coefficient window history) values)[index]? =
      some (coefficient * ∑ age ∈ Finset.range window, past values history index age) := by
  induction values generalizing history index with
  | nil => exact absurd inside (Nat.not_lt_zero index)
  | cons value rest inductionHypothesis =>
      rw [filter, delayOf_push wide]
      cases index with
      | zero =>
          rw [List.getElem?_cons_zero, delayOf_head wide]
          have same : push value history = past (value :: rest) history 0 := by
            funext age
            cases age with
            | zero => rfl
            | succ age => rfl
          rw [same]
      | succ index =>
          rw [List.getElem?_cons_succ, inductionHypothesis (Nat.lt_of_succ_lt_succ inside), past_push]

/-- A line that starts in the steady state of the first input. -/
theorem filter_steady (wide : 2 ≤ window) {first : K} {index : Nat} (starts : values.head? = some first)
    (inside : index < values.length) :
    (filter coefficient (delayOf coefficient window fun _ => first) values)[index]? =
      some (coefficient * ∑ age ∈ Finset.range window, values.getD (index - age) 0) := by
  rw [filter_getElem? wide inside]
  congr 2
  apply Finset.sum_congr rfl
  intro age _
  rw [past]
  split
  · rfl
  · rename_i old
    rcases List.head?_eq_some_iff.mp starts with ⟨rest, rfl⟩
    rw [show index - age = 0 by omega, List.getD_cons_zero]

/-- The steady state of a constant input. -/
theorem delayOf_const (first : K) :
    delayOf coefficient window (fun _ => first) =
      (List.range (window - 1)).map fun index => coefficient * (window - 1 - index : Nat) * first := by
  apply List.map_congr_left
  intro index _
  rw [Finset.sum_const, Finset.card_range, nsmul_eq_mul, mul_assoc]

/-! ## Two averages in opposite directions -/

/-- The shifts by less than a window, in both directions. -/
def near (window : Nat) : Finset Int :=
  @Finset.Ioo Int Int.instLinearOrder.toPartialOrder.toPreorder Int.instLocallyFiniteOrder (-(window : Int)) window

theorem mem_near {window : Nat} {shift : Int} : shift ∈ near window ↔ -(window : Int) < shift ∧ shift < window :=
  Finset.mem_Ioo

theorem sum_near (f : Int -> K) (window : Nat) :
    ∑ shift ∈ near (window + 1), f shift =
      ∑ step ∈ Finset.range (2 * window + 1), f (step - window) := by
  apply Finset.sum_nbij' (fun shift : Int => (shift + window).toNat) (fun step : Nat => (step : Int) - window)
  · intro shift member
    rw [mem_near] at member
    rw [Finset.mem_range]
    omega
  · intro step member
    rw [Finset.mem_range] at member
    rw [mem_near]
    omega
  · intro shift member
    rw [mem_near] at member
    omega
  · intro step _
    omega
  · intro shift member
    rw [mem_near] at member
    congr 1
    omega

/-- The differences of the last position of a window to the others, both ways. -/
theorem sum_border (f : Int -> K) (window : Nat) :
    (∑ first ∈ Finset.range window, f (first - window)) + ∑ second ∈ Finset.range (window + 1), f (window - second) =
      ∑ shift ∈ near (window + 1), f shift := by
  have flipped := Finset.sum_flip (n := window) fun step : Nat => f step
  have same : ∑ second ∈ Finset.range (window + 1), f (window - second) =
      ∑ second ∈ Finset.range (window + 1), f ((window - second : Nat) : Int) := by
    apply Finset.sum_congr rfl
    intro second member
    rw [Nat.cast_sub (Nat.le_of_lt_succ (Finset.mem_range.mp member))]
  have parted := Finset.sum_range_add (fun step : Nat => f (step - window)) window (window + 1)
  rw [sum_near, same, flipped, show 2 * window + 1 = window + (window + 1) by omega, parted]
  congr 1
  apply Finset.sum_congr rfl
  intro step _
  congr 1
  push_cast
  ring

/-- The pairs of positions in a window, by their difference. -/
theorem sum_sum_sub (f : Int -> K) (window : Nat) :
    ∑ first ∈ Finset.range window, ∑ second ∈ Finset.range window, f (first - second) =
      ∑ shift ∈ near window, ((window - |shift| : Int) : K) * f shift := by
  induction window with
  | zero => rfl
  | succ window inductionHypothesis =>
      have grown : ∑ first ∈ Finset.range (window + 1), ∑ second ∈ Finset.range (window + 1), f (first - second) =
          (∑ first ∈ Finset.range window, ∑ second ∈ Finset.range window, f (first - second)) +
            ((∑ first ∈ Finset.range window, f (first - window)) +
              ∑ second ∈ Finset.range (window + 1), f (window - second)) := by
        rw [Finset.sum_range_succ, ← add_assoc, ← Finset.sum_add_distrib]
        congr 1
        exact Finset.sum_congr rfl fun first _ => Finset.sum_range_succ _ _
      have inner : ∑ shift ∈ near window, ((window - |shift| : Int) : K) * f shift =
          ∑ shift ∈ near (window + 1), ((window - |shift| : Int) : K) * f shift := by
        apply Finset.sum_subset
        · intro shift member
          rw [mem_near] at member ⊢
          omega
        · intro shift member outside
          rw [mem_near] at member outside
          have border : (window : Int) - |shift| = 0 := by
            rcases abs_cases shift with ⟨size, _⟩ | ⟨size, _⟩ <;> omega
          rw [border, Int.cast_zero, zero_mul]
      rw [grown, inductionHypothesis, inner, sum_border, ← Finset.sum_add_distrib]
      push_cast
      apply Finset.sum_congr rfl
      intro shift _
      ring

end MovingAverage
end Foundation
