import Mathlib.Data.List.Basic
import Mathlib.Data.List.Forall2

namespace Foundation

/-- The one proof by which every decision about a list of texts goes. -/
instance textLawfulBEq : LawfulBEq (List Char) :=
  inferInstance

namespace Outcome

universe u

variable {ε : Type u} {α β : Type u}

/-!
# Computations that may be refused

A statement list that stops at its first error is a computation in `Except`.
The rules below read a successful outcome backwards.  A sequence succeeds only
when its first part succeeds and the rest succeeds on what that part returned,
so an accepted transaction can be taken apart one statement at a time without
unfolding the statements themselves.
-/

@[simp]
theorem pure_ok_iff {value result : α} :
    (pure value : Except ε α) = Except.ok result ↔ value = result := by
  constructor
  · intro same
    exact Except.ok.inj same
  · intro same
    exact congrArg Except.ok same

@[simp]
theorem bind_ok_iff {first : Except ε α} {rest : α -> Except ε β} {result : β} :
    (first >>= rest) = Except.ok result ↔
      ∃ value, first = Except.ok value ∧ rest value = Except.ok result := by
  cases first with
  | error fault =>
      constructor
      · intro same
        cases same
      · rintro ⟨value, same, _⟩
        cases same
  | ok value =>
      constructor
      · intro same
        exact ⟨value, rfl, same⟩
      · rintro ⟨other, same, accepted⟩
        cases same
        exact accepted

/-- A change of the fault keeps what succeeds. -/
theorem mapError_ok_iff {δ : Type u} {change : ε -> δ} {outcome : Except ε α} {value : α} :
    outcome.mapError change = .ok value ↔ outcome = .ok value := by
  cases outcome with
  | error fault => exact iff_of_false (by rintro ⟨⟩) (by rintro ⟨⟩)
  | ok other =>
      constructor
      · rintro ⟨⟩
        rfl
      · rintro ⟨⟩
        rfl

/-- A computation that has succeeded continues with its value. -/
theorem ok_bind (value : α) (rest : α -> Except ε β) : (Except.ok value >>= rest) = rest value :=
  rfl

/-- Nothing runs after a refusal. -/
theorem error_bind (fault : ε) (rest : α -> Except ε β) :
    (Except.error fault >>= rest) = Except.error fault :=
  rfl

/-- Continue only when the condition holds. -/
def require (condition : Prop) [Decidable condition] (fault : ε) : Except ε PUnit :=
  if condition then Except.ok PUnit.unit else Except.error fault

@[simp]
theorem require_ok_iff (condition : Prop) [Decidable condition] (fault : ε) (result : PUnit) :
    require condition fault = Except.ok result ↔ condition := by
  unfold require
  by_cases holds : condition
  · rw [if_pos holds]
    exact ⟨fun _ => holds, fun _ => rfl⟩
  · rw [if_neg holds]
    exact ⟨fun same => (by cases same), fun held => absurd held holds⟩

theorem require_of {condition : Prop} [Decidable condition] (fault : ε) (holds : condition) :
    require condition fault = Except.ok PUnit.unit :=
  (require_ok_iff condition fault PUnit.unit).mpr holds

theorem require_refused {condition : Prop} [Decidable condition] (fault : ε) (fails : ¬condition) :
    require condition fault = Except.error fault :=
  if_neg fails

@[simp]
theorem error_ne_ok (fault : ε) (result : α) :
    (Except.error fault : Except ε α) = Except.ok result ↔ False :=
  ⟨fun same => (by cases same), False.elim⟩

/-! ## The faults of a computation -/

/-- Every fault of the computation is one of the allowed ones. -/
def OnlyRefuses (allowed : ε -> Prop) (outcome : Except ε α) : Prop :=
  forall fault, outcome = Except.error fault -> allowed fault

namespace OnlyRefuses

variable {allowed : ε -> Prop}

theorem ok (value : α) : OnlyRefuses allowed (Except.ok value : Except ε α) := by
  intro fault same
  cases same

theorem error {fault : ε} (permitted : allowed fault) :
    OnlyRefuses allowed (Except.error fault : Except ε α) := by
  intro other same
  rw [← Except.error.inj same]
  exact permitted

theorem require {condition : Prop} [Decidable condition] {fault : ε} (permitted : allowed fault) :
    OnlyRefuses allowed (require condition fault) := by
  unfold Outcome.require
  split
  · exact ok _
  · exact error permitted

theorem bind {first : Except ε α} {rest : α -> Except ε β} (before : OnlyRefuses allowed first)
    (after : forall value, first = Except.ok value -> OnlyRefuses allowed (rest value)) :
    OnlyRefuses allowed (first >>= rest) := by
  cases outcome : first with
  | error fault =>
      rw [error_bind]
      exact error (before fault outcome)
  | ok value =>
      rw [ok_bind]
      exact after value outcome

end OnlyRefuses

/-- A check of every element succeeds when it succeeds on each. -/
theorem forM_ok_iff {α ε : Type} {check : α -> Except ε Unit} {values : List α} :
    values.forM check = Except.ok () ↔ ∀ value ∈ values, check value = Except.ok () := by
  induction values with
  | nil => exact iff_of_true rfl (fun _ impossible => (by cases impossible))
  | cons head tail inductionHypothesis =>
      change (check head >>= fun _ => tail.forM check) = Except.ok () ↔ _
      rw [bind_ok_iff, List.forall_mem_cons, ← inductionHypothesis]
      exact ⟨fun ⟨_, first, rest⟩ => ⟨first, rest⟩, fun ⟨first, rest⟩ => ⟨_, first, rest⟩⟩

/-- When every element of a list was converted, each has its image in the
result. -/
theorem mem_of_mapM_ok {α β ε : Type} {convert : α -> Except ε β} {values : List α}
    {results : List β} (converted : values.mapM convert = Except.ok results) {value : α}
    (member : value ∈ values) : ∃ result ∈ results, convert value = Except.ok result := by
  induction values generalizing results with
  | nil => cases member
  | cons head tail inductionHypothesis =>
      rw [List.mapM_cons] at converted
      simp only [bind_ok_iff, pure_ok_iff] at converted
      rcases converted with ⟨first, firstConverted, rest, restConverted, rfl⟩
      rcases List.mem_cons.mp member with isHead | inTail
      · rw [isHead]
        exact ⟨first, List.mem_cons_self, firstConverted⟩
      · rcases inductionHypothesis restConverted inTail with ⟨result, resultMember, same⟩
        exact ⟨result, List.mem_cons_of_mem first resultMember, same⟩

/-- A conversion of a list succeeds when every element converts, in order. -/
theorem mapM_ok_iff {α : Type*} {β ε : Type u} {convert : α -> Except ε β} {values : List α} {results : List β} :
    values.mapM convert = Except.ok results ↔
      List.Forall₂ (fun value result => convert value = Except.ok result) values results := by
  induction values generalizing results with
  | nil =>
      rw [List.mapM_nil, List.forall₂_nil_left_iff, pure_ok_iff]
      exact eq_comm
  | cons head tail inductionHypothesis =>
      rw [List.mapM_cons, List.forall₂_cons_left_iff]
      constructor
      · intro converted
        rcases bind_ok_iff.mp converted with ⟨first, firstConverted, converted⟩
        rcases bind_ok_iff.mp converted with ⟨rest, restConverted, same⟩
        exact ⟨first, rest, firstConverted, inductionHypothesis.mp restConverted,
          (pure_ok_iff.mp same).symm⟩
      · rintro ⟨first, rest, firstConverted, restConverted, rfl⟩
        rw [firstConverted, ok_bind, inductionHypothesis.mpr restConverted]
        rfl

/-- Every element of the converted list comes from one of the list. -/
theorem source_of_mapM_ok {α : Type*} {β ε : Type u} {convert : α -> Except ε β} {values : List α}
    {results : List β} (converted : values.mapM convert = Except.ok results) {result : β}
    (member : result ∈ results) : ∃ value ∈ values, convert value = Except.ok result := by
  have pairs := mapM_ok_iff.mp converted
  clear converted
  induction pairs with
  | nil => cases member
  | @cons value first values results headConverted _ inductionHypothesis =>
      rcases List.mem_cons.mp member with isFirst | inRest
      · rw [isFirst]
        exact ⟨value, List.mem_cons_self, headConverted⟩
      · rcases inductionHypothesis inRest with ⟨source, sourceMember, same⟩
        exact ⟨source, List.mem_cons_of_mem value sourceMember, same⟩

/-- A conversion that succeeds on every element of a list succeeds on the list. -/
theorem mapM_total {α : Type*} {β ε : Type u} {convert : α -> Except ε β} {values : List α}
    (total : ∀ value ∈ values, ∃ result, convert value = Except.ok result) :
    ∃ results, values.mapM convert = Except.ok results := by
  induction values with
  | nil => exact ⟨[], rfl⟩
  | cons head tail inductionHypothesis =>
      rcases total head List.mem_cons_self with ⟨first, firstConverted⟩
      rcases inductionHypothesis fun value member => total value (List.mem_cons_of_mem head member) with
        ⟨rest, restConverted⟩
      refine ⟨first :: rest, ?_⟩
      rw [List.mapM_cons, firstConverted, ok_bind, restConverted]
      rfl

/-- The refusal of a sequence is that of one of its values. -/
theorem mapM_error {α : Type*} {β ε : Type u} {convert : α -> Except ε β} {values : List α} {fault : ε}
    (refused : values.mapM convert = Except.error fault) : ∃ value ∈ values, convert value = Except.error fault := by
  induction values with
  | nil => cases refused
  | cons head tail inductionHypothesis =>
      rw [List.mapM_cons] at refused
      cases first : convert head with
      | error reason =>
          rw [first, error_bind] at refused
          cases refused
          exact ⟨head, List.mem_cons_self, first⟩
      | ok result =>
          rw [first, ok_bind] at refused
          cases rest : tail.mapM convert with
          | error reason =>
              rw [rest, error_bind] at refused
              cases refused
              rcases inductionHypothesis rest with ⟨value, member, isRefused⟩
              exact ⟨value, List.mem_cons_of_mem head member, isRefused⟩
          | ok results =>
              rw [rest, ok_bind] at refused
              cases refused

/-- Two conversions whose results agree on what is read from them. -/
theorem mapM_agree {α γ : Type*} {β ε : Type u} {first second : α -> Except ε β} {read : β -> γ}
    {values : List α} {firstResults secondResults : List β}
    (agree : forall value left right, first value = Except.ok left -> second value = Except.ok right ->
      read left = read right)
    (firstConverted : values.mapM first = Except.ok firstResults)
    (secondConverted : values.mapM second = Except.ok secondResults) :
    firstResults.map read = secondResults.map read := by
  have left := mapM_ok_iff.mp firstConverted
  have right := mapM_ok_iff.mp secondConverted
  clear firstConverted secondConverted
  induction left generalizing secondResults with
  | nil =>
      cases right
      rfl
  | cons headConverted _ inductionHypothesis =>
      cases right with
      | cons otherConverted rest =>
          rw [List.map_cons, List.map_cons, inductionHypothesis rest,
            agree _ _ _ headConverted otherConverted]

end Outcome
end Foundation
