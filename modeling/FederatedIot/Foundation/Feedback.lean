import Mathlib.Data.List.Basic

namespace Foundation
namespace Feedback

/-!
# Recursion on the previous output

An output is made of the previous output and the next input.  Whatever holds between an
output and what is made of it holds all along the outputs, and inputs that are all their
own outputs pass unchanged.
-/

universe u v

variable {α : Type u} {β : Type v}

/-- The outputs after the last one. -/
def feed (step : α -> β -> α) : α -> List β -> List α
  | _, [] => []
  | last, value :: rest => step last value :: feed step (step last value) rest

section Outputs

variable {step : α -> β -> α}

@[simp]
theorem length_feed (last : α) (values : List β) : (feed step last values).length = values.length := by
  induction values generalizing last with
  | nil => rfl
  | cons value rest inductionHypothesis =>
      rw [feed, List.length_cons, inductionHypothesis, List.length_cons]

/-- The first outputs are those of the first inputs. -/
theorem feed_take (last : α) (values : List β) (count : Nat) :
    feed step last (values.take count) = (feed step last values).take count := by
  induction values generalizing last count with
  | nil => rw [List.take_nil, feed, List.take_nil]
  | cons value rest inductionHypothesis =>
      cases count with
      | zero => rfl
      | succ count => rw [List.take_succ_cons, feed, feed, List.take_succ_cons, inductionHypothesis]

theorem feed_isChain {relation : α -> α -> Prop} (related : forall last value, relation last (step last value))
    (last : α) (values : List β) : List.IsChain relation (last :: feed step last values) := by
  induction values generalizing last with
  | nil => exact List.IsChain.singleton last
  | cons value rest inductionHypothesis => exact List.IsChain.cons_cons (related last value) (inductionHypothesis _)

/-- One output. -/
theorem feed_getElem? {last previous : α} {value : β} {values : List β} {index : Nat}
    (before : (last :: feed step last values)[index]? = some previous) (given : values[index]? = some value) :
    (feed step last values)[index]? = some (step previous value) := by
  induction values generalizing last index with
  | nil => cases given
  | cons head rest inductionHypothesis =>
      cases index with
      | zero =>
          cases before
          cases given
          rfl
      | succ index => exact inductionHypothesis before given

end Outputs

/-! ## Inputs that pass -/

variable {step : α -> α -> α}

/-- Nothing changes exactly when every input is the output after the one before. -/
theorem feed_eq_self_iff {last : α} {values : List α} :
    feed step last values = values ↔ List.IsChain (fun before value => step before value = value) (last :: values) := by
  induction values generalizing last with
  | nil => exact ⟨fun _ => List.IsChain.singleton last, fun _ => rfl⟩
  | cons value rest inductionHypothesis =>
      rw [feed, List.cons.injEq, List.isChain_cons_cons]
      constructor
      · rintro ⟨same, others⟩
        rw [same] at others
        exact ⟨same, inductionHypothesis.mp others⟩
      · rintro ⟨same, others⟩
        rw [same]
        exact ⟨rfl, inductionHypothesis.mpr others⟩

end Feedback
end Foundation
