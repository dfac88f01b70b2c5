import Mathlib.Logic.Basic
import Mathlib.Data.List.Basic

namespace Foundation

/-!
# Labelled transition systems

A system has initial states and labelled steps.  A run is a finite sequence of
steps with the list of their labels, and a state is reachable when some run
from an initial state ends in it.

The rules package the inductions over runs.  An invariant is checked on one
step, a stable property is checked on one step between reachable states, and
an event that spends something which is never restored happens at most once.
A simulation turns every run of one system into a run of a more abstract one.
-/

/-- Initial states and labelled steps. -/
structure System (State : Type*) (Label : Type*) where
  initial : State -> Prop
  step : State -> Label -> State -> Prop

namespace System

variable {State Label AbstractState AbstractLabel : Type*}

/-- A finite sequence of steps with its labels. -/
inductive Run (system : System State Label) : State -> List Label -> State -> Prop
  | nil (state : State) : Run system state [] state
  | cons {source middle target : State} {label : Label} {labels : List Label} :
      system.step source label middle -> Run system middle labels target ->
        Run system source (label :: labels) target

/-- A state that some run from an initial state ends in. -/
def Reachable (system : System State Label) (state : State) : Prop :=
  ∃ start labels, system.initial start ∧ system.Run start labels state

namespace Run

variable {system : System State Label} {source middle target : State}
  {labels moreLabels : List Label}

theorem append (first : system.Run source labels middle)
    (second : system.Run middle moreLabels target) :
    system.Run source (labels ++ moreLabels) target := by
  induction first with
  | nil _ => exact second
  | cons step _ inductionHypothesis =>
      exact Run.cons step (inductionHypothesis second)

theorem single {label : Label} (step : system.step source label target) :
    system.Run source [label] target :=
  Run.cons step (Run.nil target)

/-- The last step of a run. -/
theorem unsnoc {label : Label} (run : system.Run source (labels ++ [label]) target) :
    ∃ before, system.Run source labels before ∧ system.step before label target := by
  induction labels generalizing source with
  | nil =>
      cases run with
      | cons step rest =>
          cases rest
          exact ⟨source, Run.nil source, step⟩
  | cons head rest inductionHypothesis =>
      cases run with
      | cons step later =>
          rcases inductionHypothesis later with ⟨before, earlier, last⟩
          exact ⟨before, Run.cons step earlier, last⟩

/-- The step of a run that carries a given label. -/
theorem of_mem {label : Label} (run : system.Run source labels target) (member : label ∈ labels) :
    ∃ earlier before after later, system.Run source earlier before ∧
      system.step before label after ∧ system.Run after later target := by
  induction run with
  | nil _ => cases member
  | @cons first second last head rest step tail inductionHypothesis =>
      rcases List.mem_cons.mp member with same | inRest
      · rw [same]
        exact ⟨[], first, second, rest, Run.nil first, step, tail⟩
      · rcases inductionHypothesis inRest with ⟨earlier, before, after, later, prefixRun, middle, suffix⟩
        exact ⟨head :: earlier, before, after, later, Run.cons step prefixRun, middle, suffix⟩

/-- The step of a run at a given position, with what ran before and after it. -/
theorem split {label : Label} {index : Nat} (run : system.Run source labels target)
    (found : labels[index]? = some label) :
    ∃ before after, system.Run source (labels.take index) before ∧ system.step before label after ∧
      system.Run after (labels.drop (index + 1)) target := by
  induction run generalizing index with
  | nil state =>
      rw [List.getElem?_nil] at found
      cases found
  | @cons first second last head rest step later inductionHypothesis =>
      cases index with
      | zero =>
          rw [List.getElem?_cons_zero] at found
          cases found
          exact ⟨first, second, Run.nil first, step, later⟩
      | succ index =>
          rw [List.getElem?_cons_succ] at found
          rcases inductionHypothesis found with ⟨before, after, earlier, middle, suffix⟩
          exact ⟨before, after, Run.cons step earlier, middle, suffix⟩

/-- A property kept by every step is kept by every run. -/
theorem invariant (property : State -> Prop)
    (kept : forall source label target, system.step source label target ->
      property source -> property target)
    (run : system.Run source labels target) (holds : property source) : property target := by
  induction run with
  | nil _ => exact holds
  | cons step _ inductionHypothesis =>
      exact inductionHypothesis (kept _ _ _ step holds)

/-- Performing labels one after the other is a run. -/
theorem of_replay {perform : Label -> State -> Option State}
    (performs : forall source label target, perform label source = some target ->
      system.step source label target)
    (replayed : labels.foldlM (fun state label => perform label state) source = some target) :
    system.Run source labels target := by
  induction labels generalizing source with
  | nil =>
      cases replayed
      exact Run.nil _
  | cons label rest inductionHypothesis =>
      rw [List.foldlM_cons] at replayed
      rcases Option.bind_eq_some_iff.mp replayed with ⟨middle, performed, continued⟩
      exact Run.cons (performs source label middle performed) (inductionHypothesis continued)

end Run

namespace Reachable

variable {system : System State Label} {source target : State} {labels : List Label}

theorem of_initial (initial : system.initial source) : system.Reachable source :=
  ⟨source, [], initial, Run.nil source⟩

theorem run (reachable : system.Reachable source) (run : system.Run source labels target) :
    system.Reachable target := by
  rcases reachable with ⟨start, earlier, initial, before⟩
  exact ⟨start, earlier ++ labels, initial, before.append run⟩

theorem step {label : Label} (reachable : system.Reachable source)
    (step : system.step source label target) : system.Reachable target :=
  reachable.run (Run.single step)

/-- A property of the initial states kept by every step between reachable
states holds in every reachable state. -/
theorem invariant (property : State -> Prop)
    (start : forall state, system.initial state -> property state)
    (kept : forall source label target, system.Reachable source ->
      system.step source label target -> property source -> property target)
    (reachable : system.Reachable target) : property target := by
  rcases reachable with ⟨first, labels, initial, run⟩
  have both : system.Reachable target ∧ property target :=
    Run.invariant (fun state => system.Reachable state ∧ property state)
      (fun source label target step held =>
        ⟨held.1.step step, kept source label target held.1 step held.2⟩)
      run ⟨of_initial initial, start first initial⟩
  exact both.2

/-- A property kept by every step between reachable states is kept by every
run from a reachable state. -/
theorem stable (property : State -> Prop)
    (kept : forall source label target, system.Reachable source ->
      system.step source label target -> property source -> property target)
    (reachable : system.Reachable source) (run : system.Run source labels target)
    (holds : property source) : property target := by
  have both : system.Reachable target ∧ property target :=
    Run.invariant (fun state => system.Reachable state ∧ property state)
      (fun source label target step held =>
        ⟨held.1.step step, kept source label target held.1 step held.2⟩)
      run ⟨reachable, holds⟩
  exact both.2

/-- An event that is impossible once its resource is spent, and that spends
it, does not occur after the resource has been spent. -/
theorem never (spent : State -> Prop) (event : Label -> Bool)
    (kept : forall source label target, system.Reachable source ->
      system.step source label target -> spent source -> spent target)
    (blocked : forall source label target, system.Reachable source ->
      system.step source label target -> spent source -> event label = false)
    (reachable : system.Reachable source) (run : system.Run source labels target)
    (holds : spent source) : labels.countP event = 0 := by
  induction run with
  | nil _ => rfl
  | cons step _ inductionHypothesis =>
      have passed := blocked _ _ _ reachable step holds
      rw [List.countP_cons_of_neg (by simp [passed])]
      exact inductionHypothesis (reachable.step step) (kept _ _ _ reachable step holds)

/-- An event that spends a resource which no step restores occurs at most
once in a run. -/
theorem once (spent : State -> Prop) (event : Label -> Bool)
    (kept : forall source label target, system.Reachable source ->
      system.step source label target -> spent source -> spent target)
    (blocked : forall source label target, system.Reachable source ->
      system.step source label target -> spent source -> event label = false)
    (spends : forall source label target, system.Reachable source ->
      system.step source label target -> event label = true -> spent target)
    (reachable : system.Reachable source) (run : system.Run source labels target) :
    labels.countP event ≤ 1 := by
  induction run with
  | nil _ => exact Nat.zero_le 1
  | @cons first middle last label rest step later inductionHypothesis =>
      cases occurs : event label with
      | true =>
          have after := never spent event kept blocked (reachable.step step) later
            (spends _ _ _ reachable step occurs)
          rw [List.countP_cons_of_pos occurs]
          exact Nat.succ_le_succ (Nat.le_of_eq after)
      | false =>
          rw [List.countP_cons_of_neg (by simp [occurs])]
          exact inductionHypothesis (reachable.step step)

end Reachable

/-- The runs of a system all of whose states are admitted. -/
def restrict (system : System State Label) (admits : State -> Prop) : System State Label where
  initial := fun state => system.initial state ∧ admits state
  step := fun source label target => system.step source label target ∧ admits target

/-- A state reached by admitted states is reachable and admitted. -/
theorem Reachable.of_restrict {system : System State Label} {admits : State -> Prop} {state : State}
    (reachable : (system.restrict admits).Reachable state) : system.Reachable state ∧ admits state := by
  refine Reachable.invariant (fun state => system.Reachable state ∧ admits state) ?_ ?_ reachable
  · rintro start ⟨initial, admitted⟩
    exact ⟨Reachable.of_initial initial, admitted⟩
  · rintro source label target _ ⟨step, admitted⟩ ⟨before, _⟩
    exact ⟨before.step step, admitted⟩

/-- The runs of a system all of whose steps are admitted in the state they
start from. -/
def restrictSteps (system : System State Label) (admits : State -> Label -> Prop) :
    System State Label where
  initial := system.initial
  step := fun source label target => system.step source label target ∧ admits source label

theorem Run.of_restrictSteps {system : System State Label} {admits : State -> Label -> Prop}
    {source target : State} {labels : List Label}
    (run : (system.restrictSteps admits).Run source labels target) :
    system.Run source labels target := by
  induction run with
  | nil state => exact Run.nil state
  | cons step _ inductionHypothesis => exact Run.cons step.1 inductionHypothesis

theorem Reachable.of_restrictSteps {system : System State Label} {admits : State -> Label -> Prop}
    {state : State} (reachable : (system.restrictSteps admits).Reachable state) :
    system.Reachable state := by
  rcases reachable with ⟨start, labels, initial, run⟩
  exact ⟨start, labels, initial, run.of_restrictSteps⟩

/-- Every step of the concrete system is matched by a run of the abstract one. -/
structure Simulates (concrete : System State Label) (abstraction : System AbstractState AbstractLabel)
    (related : State -> AbstractState -> Prop) : Prop where
  start : forall state, concrete.initial state ->
    ∃ abstractState, abstraction.initial abstractState ∧ related state abstractState
  follow : forall source label target abstractSource, concrete.Reachable source ->
    concrete.step source label target -> related source abstractSource ->
      ∃ abstractLabels abstractTarget,
        abstraction.Run abstractSource abstractLabels abstractTarget ∧ related target abstractTarget

namespace Simulates

variable {concrete : System State Label} {abstraction : System AbstractState AbstractLabel}
  {related : State -> AbstractState -> Prop}

theorem run (simulates : Simulates concrete abstraction related) {source target : State}
    {labels : List Label} {abstractSource : AbstractState} (reachable : concrete.Reachable source)
    (run : concrete.Run source labels target) (holds : related source abstractSource) :
    ∃ abstractLabels abstractTarget,
      abstraction.Run abstractSource abstractLabels abstractTarget ∧
        related target abstractTarget := by
  induction run generalizing abstractSource with
  | nil state => exact ⟨[], abstractSource, Run.nil abstractSource, holds⟩
  | cons step _ inductionHypothesis =>
      rcases simulates.follow _ _ _ _ reachable step holds with
        ⟨firstLabels, abstractMiddle, firstRun, middleRelated⟩
      rcases inductionHypothesis (reachable.step step) middleRelated with
        ⟨restLabels, abstractTarget, restRun, targetRelated⟩
      exact ⟨firstLabels ++ restLabels, abstractTarget, firstRun.append restRun, targetRelated⟩

theorem reachable (simulates : Simulates concrete abstraction related) {state : State}
    (reachable : concrete.Reachable state) :
    ∃ abstractState, abstraction.Reachable abstractState ∧ related state abstractState := by
  rcases reachable with ⟨start, labels, initial, run⟩
  rcases simulates.start start initial with ⟨abstractStart, abstractInitial, startRelated⟩
  rcases simulates.run (Reachable.of_initial initial) run startRelated with
    ⟨abstractLabels, abstractState, abstractRun, stateRelated⟩
  exact ⟨abstractState, ⟨abstractStart, abstractLabels, abstractInitial, abstractRun⟩, stateRelated⟩

end Simulates

end System
end Foundation
