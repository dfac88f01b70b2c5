import Mathlib.Data.List.Basic
import Mathlib.Order.Nat

namespace Foundation
namespace Ranks

/-!
# Ranks in increasing lists

An element of an increasing list is at most a bound exactly when more elements
than its position are.  So one block of an increasing list lies before a block
of another one exactly when a bound separates their counts.
-/

variable {values firsts seconds : List Nat}

/-- How many values are at most the bound. -/
def upTo (bound : Nat) (values : List Nat) : Nat :=
  values.countP fun value => value ≤ bound

theorem upTo_cons (bound head : Nat) (tail : List Nat) :
    upTo bound (head :: tail) = upTo bound tail + if head ≤ bound then 1 else 0 := by
  rw [upTo, List.countP_cons, upTo]
  simp only [decide_eq_true_eq]

theorem upTo_eq_zero {bound : Nat} (beyond : ∀ value ∈ values, bound < value) : upTo bound values = 0 := by
  rw [upTo, List.countP_eq_zero]
  intro value member
  have above := beyond value member
  simp only [decide_eq_true_eq]
  omega

theorem lt_upTo_iff (increasing : values.Pairwise (· < ·)) {index value bound : Nat}
    (found : values[index]? = some value) : index < upTo bound values ↔ value ≤ bound := by
  induction values generalizing index with
  | nil => cases found
  | cons head tail inductionHypothesis =>
      rw [List.pairwise_cons] at increasing
      rw [upTo_cons]
      cases index with
      | zero =>
          rw [List.getElem?_cons_zero, Option.some_inj] at found
          rw [← found]
          by_cases within : head ≤ bound
          · rw [if_pos within]
            exact iff_of_true (Nat.succ_pos _) within
          · have none : upTo bound tail = 0 :=
              upTo_eq_zero fun later member => (not_le.mp within).trans (increasing.1 later member)
            rw [if_neg within, none]
            exact iff_of_false (Nat.lt_irrefl 0) within
      | succ index =>
          rw [List.getElem?_cons_succ] at found
          have later : head < value := increasing.1 value (List.mem_of_getElem? found)
          rw [← inductionHypothesis increasing.2 found]
          by_cases within : head ≤ bound
          · rw [if_pos within]
            exact Nat.succ_lt_succ_iff
          · have none : upTo bound tail = 0 :=
              upTo_eq_zero fun other member => (not_le.mp within).trans (increasing.1 other member)
            rw [if_neg within, none]
            omega

/-- The values at the positions of a block. -/
def InBlock (values : List Nat) (start stop value : Nat) : Prop :=
  ∃ index, start ≤ index ∧ index < stop ∧ values[index]? = some value

/-- Of two blocks of one list the one that ends first precedes the other. -/
theorem blocks_ordered (increasing : values.Pairwise (· < ·)) {start stop start' stop' left right : Nat}
    (apart : stop ≤ start') (inLeft : InBlock values start stop left) (inRight : InBlock values start' stop' right) :
    left < right := by
  rcases inLeft with ⟨index, _, before, isLeft⟩
  rcases inRight with ⟨index', after, _, isRight⟩
  rcases List.getElem?_eq_some_iff.mp isLeft with ⟨within, rfl⟩
  rcases List.getElem?_eq_some_iff.mp isRight with ⟨within', rfl⟩
  exact List.pairwise_iff_getElem.mp increasing index index' within within' (by omega)

/-- A block of an increasing list precedes a block of another one exactly when a
bound has the whole first block below it and nothing of the second. -/
theorem blocks_ordered_iff (firstIncreasing : firsts.Pairwise (· < ·)) (secondIncreasing : seconds.Pairwise (· < ·))
    {start stop start' stop' : Nat} (nonempty : start < stop) (within : stop ≤ firsts.length)
    (nonempty' : start' < stop') (within' : stop' ≤ seconds.length) :
    (forall left right, InBlock firsts start stop left -> InBlock seconds start' stop' right -> left < right) ↔
      ∃ bound, stop ≤ upTo bound firsts ∧ upTo bound seconds ≤ start' := by
  have isLast : firsts[stop - 1]? = some firsts[stop - 1] := List.getElem?_eq_getElem (by omega)
  have isFirst : seconds[start']? = some seconds[start'] := List.getElem?_eq_getElem (by omega)
  constructor
  · intro ordered
    refine ⟨firsts[stop - 1], ?_, ?_⟩
    · have counted := (lt_upTo_iff firstIncreasing isLast).mpr (le_refl firsts[stop - 1])
      omega
    · have apart := ordered _ _ ⟨stop - 1, by omega, by omega, isLast⟩ ⟨start', le_rfl, nonempty', isFirst⟩
      exact not_lt.mp fun counted => absurd ((lt_upTo_iff secondIncreasing isFirst).mp counted) (not_le.mpr apart)
  · rintro ⟨bound, reached, ahead⟩ left right ⟨index, _, before, isLeft⟩ ⟨index', after, _, isRight⟩
    have below : left ≤ bound := (lt_upTo_iff firstIncreasing isLeft).mp (by omega)
    have above : ¬right ≤ bound := fun counted => by
      have lateRank := (lt_upTo_iff secondIncreasing isRight).mpr counted
      omega
    omega

end Ranks
end Foundation
