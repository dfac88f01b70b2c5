import FederatedIot.Foundation.Outcome
import Mathlib.Data.List.Induction

namespace Foundation
namespace Positions

open Outcome

universe u

variable {ε β : Type u}

/-!
# Positions of a list

Reads and writes that are refused outside of a list, and two sweeps over a list
of marks.  The first sweep notes at every position the last unmarked position
before it, the second one, from the end, the next unmarked position after it.
-/

/-! ## Access -/

def readAt (fault : ε) (values : List β) (index : Nat) : Except ε β :=
  values[index]?.elim (.error fault) .ok

def writeAt (fault : ε) (values : List β) (index : Nat) (value : β) : Except ε (List β) :=
  if index < values.length then .ok (values.set index value) else .error fault

@[simp]
theorem readAt_ok_iff {fault : ε} {values : List β} {index : Nat} {value : β} :
    readAt fault values index = .ok value ↔ values[index]? = some value := by
  unfold readAt
  cases values[index]? with
  | none => simp
  | some found => simp

theorem readAt_of_some {fault : ε} {values : List β} {index : Nat} {value : β} (present : values[index]? = some value) :
    readAt fault values index = .ok value :=
  readAt_ok_iff.mpr present

theorem readAt_total {values : List β} {index : Nat} (fault : ε) (inside : index < values.length) :
    ∃ value, values[index]? = some value ∧ readAt fault values index = .ok value :=
  ⟨values[index], List.getElem?_eq_getElem inside, readAt_of_some (List.getElem?_eq_getElem inside)⟩

theorem writeAt_of_inside {values : List β} {index : Nat} (fault : ε) (inside : index < values.length) (value : β) :
    writeAt fault values index value = .ok (values.set index value) :=
  if_pos inside

/-! ## The last unmarked position before -/

/-- Unmarked, with marks from there to the position. -/
structure IsPrevious (marks : List Bool) (index position : Nat) : Prop where
  before : position < index
  unmarked : marks[position]? = some false
  between : forall middle, position < middle -> middle < index -> marks[middle]? = some true

structure IsNext (marks : List Bool) (index position : Nat) : Prop where
  after : index < position
  unmarked : marks[position]? = some false
  between : forall middle, index < middle -> middle < position -> marks[middle]? = some true

/-- One sweep, from the last unmarked position so far. -/
def sweepBefore : Nat -> Option Nat -> List Bool -> List (Option Nat)
  | _, _, [] => []
  | index, last, marked :: rest =>
      last :: sweepBefore (index + 1) (if marked then last else some index) rest

/-- The answer of a sweep to what lies before a position. -/
def AnswersBefore (marks : List Bool) (index : Nat) : Option Nat -> Prop
  | none => forall position, position < index -> marks[position]? = some true
  | some position => IsPrevious marks index position

/-- The answer of a sweep to what lies after a position. -/
def AnswersAfter (marks : List Bool) (index : Nat) : Option Nat -> Prop
  | none => forall position, index < position -> position < marks.length -> marks[position]? = some true
  | some position => IsNext marks index position

/-- The answer at the next position. -/
theorem AnswersBefore.step {marks : List Bool} {index : Nat} {last : Option Nat} {marked : Bool}
    (answers : AnswersBefore marks index last) (here : marks[index]? = some marked) :
    AnswersBefore marks (index + 1) (if marked then last else some index) := by
  cases marked with
  | true =>
      cases last with
      | none =>
          intro position below
          by_cases same : position = index
          · exact same ▸ here
          · exact answers position (by omega)
      | some position =>
          refine ⟨Nat.lt_succ_of_lt answers.before, answers.unmarked, ?_⟩
          intro middle after below
          by_cases same : middle = index
          · exact same ▸ here
          · exact answers.between middle after (by omega)
  | false =>
      refine ⟨Nat.lt_succ_self index, here, ?_⟩
      intro middle after below
      omega

/-- The sweep answers at every position that it passes. -/
theorem sweepBefore_answers {marks passed rest : List Bool} (split : marks = passed ++ rest) {last : Option Nat}
    (answers : AnswersBefore marks passed.length last) {index : Nat} (inside : index < rest.length) :
    ∃ found, (sweepBefore passed.length last rest)[index]? = some found ∧
      AnswersBefore marks (passed.length + index) found := by
  induction rest generalizing passed last index with
  | nil => exact absurd inside (Nat.not_lt_zero index)
  | cons marked rest inductionHypothesis =>
      cases index with
      | zero => exact ⟨last, rfl, answers⟩
      | succ index =>
          have here : marks[passed.length]? = some marked := by simp [split]
          have longer : (passed ++ [marked]).length = passed.length + 1 := List.length_append
          have resplit : marks = (passed ++ [marked]) ++ rest := by rw [split, List.append_assoc]; rfl
          have next := @inductionHypothesis (passed ++ [marked]) resplit
            (if marked then last else some passed.length) (longer.symm ▸ answers.step here) index
            (Nat.lt_of_succ_lt_succ inside)
          rw [longer] at next
          rcases next with ⟨found, atIndex, answer⟩
          exact ⟨found, atIndex, (show passed.length + 1 + index = passed.length + (index + 1) by omega) ▸ answer⟩

/-! ## The next unmarked position after -/

/-- The sweep from the end: what it notes at each position, and the first
unmarked position of all. -/
def sweepAfter : Nat -> List Bool -> List (Option Nat) × Option Nat
  | _, [] => ([], none)
  | index, marked :: rest =>
      let later := sweepAfter (index + 1) rest
      (later.2 :: later.1, if marked then later.2 else some index)

/-- What the sweep hands on is the first unmarked position from its start. -/
def FirstFrom (marks : List Bool) (start : Nat) : Option Nat -> Prop
  | none => forall position, start ≤ position -> position < marks.length -> marks[position]? = some true
  | some position => start ≤ position ∧ marks[position]? = some false ∧
      forall middle, start ≤ middle -> middle < position -> marks[middle]? = some true

theorem FirstFrom.answers {marks : List Bool} {index : Nat} {found : Option Nat}
    (first : FirstFrom marks (index + 1) found) : AnswersAfter marks index found := by
  cases found with
  | none => exact fun position after inside => first position after inside
  | some position => exact ⟨first.1, first.2.1, fun middle after below => first.2.2 middle after below⟩

theorem sweepAfter_first {marks passed rest : List Bool} (split : marks = passed ++ rest) :
    FirstFrom marks passed.length (sweepAfter passed.length rest).2 ∧
      forall index, index < rest.length ->
        ∃ found, (sweepAfter passed.length rest).1[index]? = some found ∧
          AnswersAfter marks (passed.length + index) found := by
  induction rest generalizing passed with
  | nil =>
      constructor
      · intro position after inside
        rw [split, List.append_nil] at inside
        omega
      · intro index inside
        exact absurd inside (Nat.not_lt_zero index)
  | cons marked rest inductionHypothesis =>
      have here : marks[passed.length]? = some marked := by simp [split]
      have longer : (passed ++ [marked]).length = passed.length + 1 := List.length_append
      have later := @inductionHypothesis (passed ++ [marked]) (by rw [split, List.append_assoc]; rfl)
      rw [longer] at later
      constructor
      · cases marked with
        | false =>
            refine ⟨Nat.le_refl _, here, ?_⟩
            intro middle after below
            omega
        | true =>
            change FirstFrom marks passed.length (sweepAfter (passed.length + 1) rest).2
            have first := later.1
            cases found : (sweepAfter (passed.length + 1) rest).2 with
            | none =>
                rw [found] at first
                intro position after inside
                by_cases same : position = passed.length
                · exact same ▸ here
                · exact first position (by omega) inside
            | some position =>
                rw [found] at first
                refine ⟨Nat.le_of_succ_le first.1, first.2.1, ?_⟩
                intro middle after below
                by_cases same : middle = passed.length
                · exact same ▸ here
                · exact first.2.2 middle (by omega) below
      · intro index inside
        cases index with
        | zero => exact ⟨_, rfl, later.1.answers⟩
        | succ index =>
            rcases later.2 index (Nat.lt_of_succ_lt_succ inside) with ⟨found, atIndex, answer⟩
            exact ⟨found, atIndex, (show passed.length + 1 + index = passed.length + (index + 1) by omega) ▸ answer⟩

/-! ## Both sweeps from the ends of a list -/

def nearestBefore (marks : List Bool) : List (Option Nat) :=
  sweepBefore 0 none marks

def nearestAfter (marks : List Bool) : List (Option Nat) :=
  (sweepAfter 0 marks).1

theorem nearestBefore_answers {marks : List Bool} {index : Nat} (inside : index < marks.length) :
    ∃ found, (nearestBefore marks)[index]? = some found ∧ AnswersBefore marks index found := by
  have start : AnswersBefore marks ([] : List Bool).length none := fun position below =>
    absurd below (Nat.not_lt_zero position)
  have answer := @sweepBefore_answers marks [] marks rfl none start index inside
  rwa [List.length_nil, Nat.zero_add] at answer

theorem nearestAfter_answers {marks : List Bool} {index : Nat} (inside : index < marks.length) :
    ∃ found, (nearestAfter marks)[index]? = some found ∧ AnswersAfter marks index found := by
  have answer := (@sweepAfter_first marks [] marks rfl).2 index inside
  rwa [List.length_nil, Nat.zero_add] at answer

theorem IsPrevious.unique {marks : List Bool} {index first second : Nat} (one : IsPrevious marks index first)
    (other : IsPrevious marks index second) : first = second := by
  rcases Nat.lt_trichotomy first second with less | same | greater
  · have marked := one.between second less other.before
    rw [other.unmarked] at marked
    cases marked
  · exact same
  · have marked := other.between first greater one.before
    rw [one.unmarked] at marked
    cases marked

theorem IsNext.unique {marks : List Bool} {index first second : Nat} (one : IsNext marks index first)
    (other : IsNext marks index second) : first = second := by
  rcases Nat.lt_trichotomy first second with less | same | greater
  · have marked := other.between first one.after less
    rw [one.unmarked] at marked
    cases marked
  · exact same
  · have marked := one.between second other.after greater
    rw [other.unmarked] at marked
    cases marked

end Positions
end Foundation
