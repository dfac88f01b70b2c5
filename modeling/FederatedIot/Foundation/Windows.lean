import Mathlib.Data.List.Basic
import Mathlib.Data.List.Induction
import Mathlib.Order.Lattice
import Mathlib.Order.MinMax

namespace Foundation
namespace Windows

/-!
# Windows, runs and limits

What a loop remembers of the values it has seen: the last few of them, the length of
the run that the latest one belongs to, and a value kept between two limits.  A
window that drops its oldest values after each new one is the end of the list of all
values, as if it had been cut from it once.
-/

variable {α : Type*}

/-! ## Windows -/

/-- `values[-count:]` -/
def fromEnd (count : Nat) (values : List α) : List α :=
  if count = 0 then values else values.drop (values.length - count)

/-- Append a value, and then delete all but the last ones. -/
def push (maximum : Nat) (values : List α) (value : α) : List α :=
  if maximum < (values ++ [value]).length then fromEnd maximum (values ++ [value]) else values ++ [value]

variable {count : Nat} {values : List α}

theorem fromEnd_eq_drop (positive : 0 < count) : fromEnd count values = values.drop (values.length - count) :=
  if_neg positive.ne'

theorem fromEnd_length (positive : 0 < count) : (fromEnd count values).length = min count values.length := by
  rw [fromEnd_eq_drop positive, List.length_drop]
  omega

theorem fromEnd_eq_nil_iff (positive : 0 < count) : fromEnd count values = [] ↔ values = [] := by
  rw [← List.length_eq_zero_iff, ← List.length_eq_zero_iff, fromEnd_length positive]
  omega

theorem mem_of_mem_fromEnd {value : α} (member : value ∈ fromEnd count values) : value ∈ values := by
  unfold fromEnd at member
  split at member
  · exact member
  · exact List.mem_of_mem_drop member

/-- One more value at the end of the list and of its window. -/
theorem push_fromEnd (positive : 0 < count) (value : α) :
    push count (fromEnd count values) value = fromEnd count (values ++ [value]) := by
  have length := @fromEnd_length α count values positive
  rw [push, List.length_append, List.length_singleton, length]
  split
  · rename_i full
    have long : count ≤ values.length := by omega
    rw [fromEnd_eq_drop positive, fromEnd_eq_drop positive, fromEnd_eq_drop positive]
    simp only [List.length_append, List.length_drop, List.length_singleton]
    rw [List.drop_append_of_le_length (by rw [List.length_drop]; omega),
      List.drop_append_of_le_length (by omega), List.drop_drop]
    congr 2
    omega
  · rename_i short
    rw [fromEnd_eq_drop positive, fromEnd_eq_drop positive, List.length_append, List.length_singleton,
      show values.length - count = 0 by omega, show values.length + 1 - count = 0 by omega]
    rfl

/-! ## Runs -/

/-- The length of the run of such values at the end of a list. -/
def streak (holds : α -> Bool) (values : List α) : Nat :=
  (values.reverse.takeWhile holds).length

theorem streak_nil (holds : α -> Bool) : streak holds [] = 0 :=
  rfl

theorem streak_concat (holds : α -> Bool) (values : List α) (value : α) :
    streak holds (values ++ [value]) = if holds value then streak holds values + 1 else 0 := by
  rw [streak, List.reverse_concat, List.takeWhile_cons]
  cases holds value with
  | true => rfl
  | false => rfl

/-- Two kinds of values that exclude each other have no common run. -/
theorem streak_exclusive {first second : α -> Bool} (excludes : forall value, first value = true -> second value = false)
    (values : List α) : streak first values = 0 ∨ streak second values = 0 := by
  induction values using List.reverseRecOn with
  | nil => exact Or.inl rfl
  | append_singleton values value _ =>
      rw [streak_concat, streak_concat]
      cases isFirst : first value with
      | true => exact Or.inr (by rw [excludes value isFirst]; rfl)
      | false => exact Or.inl rfl

/-! ## Limits -/

variable {K : Type*} [LinearOrder K]

/-- `min(max(value, low), high)` -/
def clamp (low high value : K) : K :=
  min (max value low) high

theorem le_clamp {low high : K} (ordered : low ≤ high) (value : K) : low ≤ clamp low high value :=
  le_min (le_max_right value low) ordered

theorem clamp_le (low high value : K) : clamp low high value ≤ high :=
  min_le_right _ _

end Windows
end Foundation
