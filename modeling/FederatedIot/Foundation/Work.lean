import Mathlib.Logic.Basic

namespace Foundation
namespace Work

/-!
# Work that may fail half-way

Work on a state returns a value or fails, and what it has changed until then stays
changed.  The rules below say where the work leads from one state, for a sequence
step by step, so that a description of the parts gives one of the whole.
-/

variable {ε σ τ α β : Type}

/-! ## Steps -/

/-- Fail under a condition. -/
def refuse (condition : Prop) [Decidable condition] (failure : ε) : EStateM ε σ Unit :=
  if condition then throw failure else pure ()

/-- Work on a part of the state. -/
def within (part : σ -> τ) (replace : τ -> σ -> σ) (work : EStateM ε τ α) : EStateM ε σ α := fun whole =>
  match work (part whole) with
  | .ok value changed => .ok value (replace changed whole)
  | .error failure changed => .error failure (replace changed whole)

/-- When the work fails the clean-up runs, and the failure is reported as another one
unless the clean-up fails itself. -/
def caught (failure : ε) (cleanUp work : EStateM ε σ Unit) : EStateM ε σ Unit := fun start =>
  match work start with
  | .ok value state => .ok value state
  | .error _ broken =>
      match cleanUp broken with
      | .ok _ cleaned => .error failure cleaned
      | .error other left => .error other left

/-! ## Where work leads -/

/-- The work returns, or fails, as described. -/
def Leads (work : EStateM ε σ α) (start : σ) (returned : α -> σ -> Prop) (failed : ε -> σ -> Prop) : Prop :=
  match work start with
  | .ok value state => returned value state
  | .error failure state => failed failure state

namespace Leads

variable {work : EStateM ε σ α} {next : α -> EStateM ε σ β} {start state : σ} {value : α} {failure : ε}
  {returned middle otherReturned : α -> σ -> Prop} {result : β -> σ -> Prop} {failed otherFailed : ε -> σ -> Prop}

theorem of_ok (leads : Leads work start returned failed) (done : work start = .ok value state) :
    returned value state := by
  rw [Leads, done] at leads
  exact leads

theorem of_error (leads : Leads work start returned failed) (done : work start = .error failure state) :
    failed failure state := by
  rw [Leads, done] at leads
  exact leads

theorem weaken (leads : Leads work start returned failed)
    (returns : forall value state, returned value state -> otherReturned value state)
    (fails : forall failure state, failed failure state -> otherFailed failure state) :
    Leads work start otherReturned otherFailed := by
  unfold Leads
  cases done : work start with
  | ok value state => exact returns value state (leads.of_ok done)
  | error failure state => exact fails failure state (leads.of_error done)

theorem both (first : Leads work start returned failed) (second : Leads work start otherReturned otherFailed) :
    Leads work start (fun value state => returned value state ∧ otherReturned value state)
      fun failure state => failed failure state ∧ otherFailed failure state := by
  unfold Leads
  cases done : work start with
  | ok value state => exact ⟨first.of_ok done, second.of_ok done⟩
  | error failure state => exact ⟨first.of_error done, second.of_error done⟩

theorem pure (holds : returned value start) : Leads (Pure.pure value) start returned failed :=
  holds

theorem throw (holds : failed failure start) : Leads (throw failure) start returned failed :=
  holds

theorem bind (first : Leads work start middle failed)
    (rest : forall value state, middle value state -> Leads (next value) state result failed) :
    Leads (work >>= next) start result failed := by
  change (match EStateM.bind work next start with
    | .ok value state => result value state
    | .error failure state => failed failure state)
  rw [EStateM.bind]
  cases done : work start with
  | ok value state => exact rest value state (first.of_ok done)
  | error failure state => exact first.of_error done

theorem map {change : α -> β} (leads : Leads work start (fun value => result (change value)) failed) :
    Leads (change <$> work) start result failed :=
  bind leads fun _ _ holds => holds

theorem after_get {next : σ -> EStateM ε σ β} (rest : Leads (next start) start result failed) :
    Leads (get >>= next) start result failed :=
  rest

theorem after_modify {change : σ -> σ} {next : PUnit -> EStateM ε σ β}
    (rest : Leads (next ⟨⟩) (change start) result failed) : Leads (modify change >>= next) start result failed :=
  rest

theorem modify {change : σ -> σ} {returned : PUnit -> σ -> Prop} (holds : returned ⟨⟩ (change start)) :
    Leads (modify change) start returned failed :=
  holds

theorem refuse {condition : Prop} [Decidable condition] {returned : Unit -> σ -> Prop}
    (refused : condition -> failed failure start) (passed : ¬condition -> returned () start) :
    Leads (refuse condition failure) start returned failed := by
  unfold Work.refuse
  by_cases holds : condition
  · rw [if_pos holds]
    exact throw (refused holds)
  · rw [if_neg holds]
    exact pure (passed holds)

theorem after_refuse {condition : Prop} [Decidable condition] {next : Unit -> EStateM ε σ β}
    (refused : condition -> failed failure start) (rest : ¬condition -> Leads (next ()) start result failed) :
    Leads (Work.refuse condition failure >>= next) start result failed := by
  have passes : Leads (Work.refuse condition failure) start (fun _ state => ¬condition ∧ state = start) failed :=
    refuse refused fun passed => ⟨passed, rfl⟩
  refine passes.bind ?_
  rintro _ state ⟨passed, rfl⟩
  exact rest passed

theorem within {part : σ -> τ} {replace : τ -> σ -> σ} {work : EStateM ε τ α}
    (inner : Leads work (part start) (fun value changed => returned value (replace changed start))
      fun failure changed => failed failure (replace changed start)) :
    Leads (within part replace work) start returned failed := by
  unfold Leads Work.within
  cases done : work (part start) with
  | ok value changed => exact inner.of_ok done
  | error failure changed => exact inner.of_error done

theorem caught {cleanUp work : EStateM ε σ Unit} {returned : Unit -> σ -> Prop} {broken : σ -> Prop}
    (body : Leads work start returned fun _ state => broken state)
    (cleans : forall state, broken state -> Leads cleanUp state (fun _ cleaned => failed failure cleaned) failed) :
    Leads (caught failure cleanUp work) start returned failed := by
  unfold Leads Work.caught
  cases done : work start with
  | ok value state => exact body.of_ok done
  | error other state =>
      have cleaned := cleans state (body.of_error done)
      dsimp only
      cases ended : cleanUp state with
      | ok value left => exact cleaned.of_ok ended
      | error reason left => exact cleaned.of_error ended

end Leads

end Work
end Foundation
