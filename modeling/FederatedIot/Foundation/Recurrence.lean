import Mathlib.Data.List.Basic

namespace Foundation

/-!
# Recurrences in place

A term of the sequence is made of three earlier ones: the oldest of a window, the one
after it, and one at a fixed lag.  A program keeps only the window and replaces it
position by position.  What it reads behind the position is not replaced yet, and what it
reads from the start of the window again is replaced already.  Both are the terms that the
recurrence asks for, so a whole turn leaves the next window.
-/

/-- A window, a lag inside of it, and what is made of three terms. -/
structure Recurrence (α : Type*) where
  width : Nat
  lag : Nat
  wide : 1 < width
  inside : lag < width
  next : α -> α -> α -> α

namespace Recurrence

variable {α β : Type*} (recurrence : Recurrence α)

/-- The sequence that begins as given. -/
def term (start : Nat -> α) (index : Nat) : α :=
  if index < recurrence.width then start index
  else
    recurrence.next (term start (index - recurrence.width)) (term start (index - recurrence.width + 1))
      (term start (index - recurrence.width + recurrence.lag))
termination_by index
decreasing_by
  all_goals
    have wide := recurrence.wide
    have inside := recurrence.inside
    omega

variable {recurrence} {start : Nat -> α}

theorem term_of_lt {index : Nat} (early : index < recurrence.width) : recurrence.term start index = start index := by
  rw [term, if_pos early]

theorem term_add (index : Nat) :
    recurrence.term start (index + recurrence.width) =
      recurrence.next (recurrence.term start index) (recurrence.term start (index + 1))
        (recurrence.term start (index + recurrence.lag)) := by
  conv_lhs => rw [term, if_neg (Nat.not_lt.mpr (Nat.le_add_left _ _)), Nat.add_sub_cancel]

/-- A map that respects the terms respects the sequence. -/
theorem map_term {other : Recurrence β} {convert : α -> β} (width : recurrence.width = other.width)
    (lag : recurrence.lag = other.lag)
    (respects : forall oldest following lagged,
      convert (recurrence.next oldest following lagged) = other.next (convert oldest) (convert following) (convert lagged))
    (index : Nat) : convert (recurrence.term start index) = other.term (fun early => convert (start early)) index := by
  induction index using Nat.strongRecOn with
  | ind index inductionHypothesis =>
      by_cases early : index < recurrence.width
      · rw [term_of_lt early, term_of_lt (width ▸ early)]
      · have wide := recurrence.wide
        have inside := recurrence.inside
        have split : index = index - recurrence.width + recurrence.width := by omega
        have otherSplit : index = index - recurrence.width + other.width := by omega
        conv_lhs => rw [split, term_add, respects]
        conv_rhs => rw [otherSplit, term_add]
        rw [inductionHypothesis _ (by omega), inductionHypothesis _ (by omega), inductionHypothesis _ (by omega), lag]

/-! ## Windows -/

/-- The window of the terms from an index on. -/
structure IsWindow (recurrence : Recurrence α) (start : Nat -> α) (first : Nat) (state : List α) : Prop where
  length : state.length = recurrence.width
  terms : forall position, position < recurrence.width ->
    state[position]? = some (recurrence.term start (first + position))

/-- Replace one position. -/
def replaceAt (recurrence : Recurrence α) (fallback : α) (state : List α) (position : Nat) : List α :=
  state.set position
    (recurrence.next (state.getD position fallback) (state.getD ((position + 1) % recurrence.width) fallback)
      (state.getD ((position + recurrence.lag) % recurrence.width) fallback))

/-- The next window stands before the position, and the old one from there on. -/
structure IsReplaced (recurrence : Recurrence α) (start : Nat -> α) (first replaced : Nat) (state : List α) : Prop where
  length : state.length = recurrence.width
  new : forall position, position < replaced ->
    state[position]? = some (recurrence.term start (first + recurrence.width + position))
  old : forall position, replaced ≤ position -> position < recurrence.width ->
    state[position]? = some (recurrence.term start (first + position))

variable {first replaced : Nat} {state : List α} {fallback : α}

/-- What is read some way behind the position that is replaced. -/
theorem IsReplaced.read (holds : IsReplaced recurrence start first replaced state) {behind : Nat}
    (inside : replaced < recurrence.width) (near : behind < recurrence.width) :
    state.getD ((replaced + behind) % recurrence.width) fallback = recurrence.term start (first + (replaced + behind)) := by
  rw [List.getD_eq_getElem?_getD]
  by_cases wraps : replaced + behind < recurrence.width
  · rw [Nat.mod_eq_of_lt wraps, holds.old _ (Nat.le_add_right _ _) wraps]
    rfl
  · have position : (replaced + behind) % recurrence.width = replaced + behind - recurrence.width := by
      rw [Nat.mod_eq_sub_mod (by omega), Nat.mod_eq_of_lt (by omega)]
    rw [position, holds.new _ (by omega)]
    exact congrArg (recurrence.term start) (by omega)

theorem IsReplaced.step (holds : IsReplaced recurrence start first replaced state) (inside : replaced < recurrence.width) :
    IsReplaced recurrence start first (replaced + 1) (recurrence.replaceAt fallback state replaced) := by
  have here : state.getD replaced fallback = recurrence.term start (first + replaced) := by
    rw [List.getD_eq_getElem?_getD, holds.old replaced (Nat.le_refl _) inside]
    rfl
  have after := @IsReplaced.read _ _ _ _ _ _ fallback holds 1 inside recurrence.wide
  have lagged := @IsReplaced.read _ _ _ _ _ _ fallback holds recurrence.lag inside recurrence.inside
  have value : recurrence.next (recurrence.term start (first + replaced)) (recurrence.term start (first + (replaced + 1)))
      (recurrence.term start (first + (replaced + recurrence.lag))) =
        recurrence.term start (first + recurrence.width + replaced) := by
    rw [Nat.add_right_comm, term_add, Nat.add_assoc, Nat.add_assoc]
  unfold replaceAt
  rw [here, after, lagged, value]
  refine ⟨by rw [List.length_set, holds.length], ?_, ?_⟩
  · intro position before
    by_cases same : position = replaced
    · rw [same, List.getElem?_set_self (by rw [holds.length]; exact inside)]
    · rw [List.getElem?_set_ne (Ne.symm same)]
      exact holds.new position (by omega)
  · intro position behind below
    rw [List.getElem?_set_ne (by omega)]
    exact holds.old position (by omega) below

/-- After some positions. -/
theorem IsReplaced.steps (window : IsWindow recurrence start first state) (count : Nat) (within : count ≤ recurrence.width) :
    IsReplaced recurrence start first count ((List.range count).foldl (recurrence.replaceAt fallback) state) := by
  induction count with
  | zero => exact ⟨window.length, fun position before => absurd before (Nat.not_lt_zero position),
      fun position _ below => window.terms position below⟩
  | succ count inductionHypothesis =>
      rw [List.range_succ, List.foldl_append]
      exact (inductionHypothesis (by omega)).step (by omega)

/-- A whole turn leaves the next window. -/
theorem IsWindow.regenerate (window : IsWindow recurrence start first state) :
    IsWindow recurrence start (first + recurrence.width)
      ((List.range recurrence.width).foldl (recurrence.replaceAt fallback) state) := by
  have replaced := @IsReplaced.steps _ _ _ _ _ fallback window recurrence.width (Nat.le_refl _)
  exact ⟨replaced.length, fun position below => replaced.new position below⟩

end Recurrence
end Foundation
