import FederatedIot.Foundation.JsonSame
import FederatedIot.Profiles.Materialization

namespace FederatedIot
namespace Profiles

open Foundation Foundation.JsonText Foundation.JsonText.Document Foundation.Outcome

/-!
# Requests in another order

An accepted request is accepted with its members in any order, and what is materialized
is the same.  A complete object is completed to itself, up to the order.
-/

/-! ## Leaves -/

theorem validateValue_scalar {constraint : Constraint} {value : Value} (valid : constraint.validateValue value = true) :
    value.isScalar = true := by
  cases value with
  | object members => cases validateValue_leaf valid
  | array items =>
      unfold Constraint.validateValue Constraint.validateValueWithoutAllowed at valid
      rw [Bool.and_eq_true] at valid
      cases type : constraint.type <;> rw [type] at valid <;> cases valid.1
  | null | bool | number | string => rfl

namespace ConstraintDocument

variable {document : ConstraintDocument}

theorem completeLeaf_scalar {field : List Char} {reference actual out : Value}
    (accepted : document.completeLeaf field reference actual = .ok out) : actual.isScalar = true := by
  unfold completeLeaf at accepted
  simp only [bind_ok_iff, require_ok_iff, pure_ok_iff] at accepted
  rcases accepted with ⟨_, valid, _⟩
  rcases validateLeaf_ok_iff.mp valid with ⟨_, _, _, satisfied⟩
  exact validateValue_scalar satisfied

theorem sparseLeaf_scalar {field key : List Char} {value out : Value}
    (accepted : document.sparseLeaf field key value = .ok out) : value.isScalar = true := by
  unfold sparseLeaf at accepted
  split at accepted
  · cases accepted
  · simp only [bind_ok_iff] at accepted
    rcases accepted with ⟨_, valid, _⟩
    rcases validateLeaf_ok_iff.mp valid with ⟨_, _, _, satisfied⟩
    exact validateValue_scalar satisfied

/-! ## Complete objects -/

section Complete

variable {field : List Char} {reference actual other out : Value}

/-- The order of what is completed does not matter. -/
theorem completeValue_reordered (accepted : document.completeValue field reference actual = .ok out)
    (same : Same actual other) (distinct : actual.Distinct) (otherDistinct : other.Distinct) :
    document.completeValue field reference other = .ok out := by
  revert other
  refine completed_induction (motive := fun field reference actual out => actual.Distinct -> forall {other : Value},
    Same actual other -> other.Distinct -> document.completeValue field reference other = .ok out) ?_ ?_ accepted distinct
  · intro field reference actual out leaf isAccepted _ other same _
    rw [same.eq_of_scalar (completeLeaf_scalar isAccepted), completeValue_leaf leaf]
    exact isAccepted
  · intro field reference actual completed known _ each isDistinct other same isOtherDistinct
    rcases same.object_left with ⟨others, rfl⟩
    refine completeValue_object_ok_iff.mpr ⟨completed, ?_, each.imp ?_, rfl⟩
    · intro name unknown
      rw [member?_eq_none_iff, ← same.names.mem_iff, ← member?_eq_none_iff]
      exact known name unknown
    · rintro member completedMember ⟨named, value, present, accepts⟩
      rcases same.found isDistinct.names isOtherDistinct.names present with ⟨otherValue, otherPresent, sameValue⟩
      refine ⟨named, otherValue, otherPresent, ?_⟩
      exact accepts (isDistinct.member present) sameValue (isOtherDistinct.member otherPresent)

/-- A complete object keeps its members. -/
theorem completeValue_same (accepted : document.completeValue field reference actual = .ok out)
    (referenceDistinct : reference.Distinct) (distinct : actual.Distinct) : Same actual out := by
  revert referenceDistinct distinct
  refine completed_induction (motive := fun _ reference actual out => reference.Distinct -> actual.Distinct ->
    Same actual out) ?_ ?_ accepted
  · intro field reference actual out _ isAccepted _ _
    rw [(completeLeaf_eq isAccepted).1]
    exact Same.refl _
  · intro field reference actual completed known _ each referenceDistinct distinct
    have names := names_eq each
    refine Same.object distinct.names (by rw [← names]; exact referenceDistinct.names) fun name => ?_
    cases inReference : member? name reference with
    | none =>
        have inCompleted : member? name completed = none := by
          rw [member?_eq_none_iff, ← names, ← member?_eq_none_iff]
          exact inReference
        rw [known name inReference, inCompleted]
        exact Option.Rel.none
    | some child =>
        have related := member?_rel each name
        rw [inReference] at related
        cases inCompleted : member? name completed with
        | none =>
            rw [inCompleted] at related
            cases related
        | some value =>
            rw [inCompleted] at related
            cases related with
            | some held =>
                rcases held with ⟨given, present, sameValue⟩
                rw [present]
                exact Option.Rel.some (sameValue (referenceDistinct.member inReference) (distinct.member present))

end Complete

/-! ## Sparse objects -/

section Sparse

variable {field key : List Char} {value other reference out : Value} {members others group : Members}

theorem sparseValue_group {field key : List Char} {members reference : Members} :
    document.sparseValue field key (.object members) (.object reference) = .ok (.object members) ↔
      List.Forall₂ (document.KeepsMember (field ++ '.' :: key) reference) members members := by
  rw [sparseValue_object, ← sparseMembers_ok_iff]
  cases document.sparseMembers (field ++ '.' :: key) reference members with
  | error reason =>
      constructor
      · intro wrong
        cases wrong
      · intro wrong
        cases wrong
  | ok kept =>
      constructor
      · intro same
        exact congrArg Except.ok (Document.object.inj (Except.ok.inj same))
      · intro same
        exact congrArg (fun members => Except.ok (Document.object members)) (Except.ok.inj same)

/-- Each member of the same object has its place when each of the other has. -/
theorem keepsMembers_reordered (same : Same (.object members) (.object others))
    (distinct : (Document.object members).Distinct) (otherDistinct : (Document.object others).Distinct)
    (each : forall name value, member? name members = some value -> exists child, member? name group = some child ∧
      forall {other : Value}, Same value other -> other.Distinct -> document.sparseValue field name other child = .ok other) :
    List.Forall₂ (document.KeepsMember field group) others others := by
  rw [List.forall₂_same]
  rintro ⟨name, otherValue⟩ inside
  have otherPresent := member?_of_mem otherDistinct.names inside
  rcases same.symm.found otherDistinct.names distinct.names otherPresent with ⟨value, present, sameValue⟩
  rcases each name value present with ⟨child, isChild, accepts⟩
  exact ⟨rfl, child, isChild, accepts sameValue.symm (otherDistinct.member otherPresent)⟩

/-- The order of a sparse value does not matter. -/
theorem sparseValue_reordered (accepted : document.sparseValue field key value reference = .ok out)
    (same : Same value other) (distinct : value.Distinct) (otherDistinct : other.Distinct) :
    document.sparseValue field key other reference = .ok other := by
  revert other
  refine sparse_induction (motive := fun field key value reference _ => value.Distinct -> forall {other : Value},
    Same value other -> other.Distinct -> document.sparseValue field key other reference = .ok other) ?_ ?_ accepted distinct
  · intro field key value reference out leaf isAccepted _ other same _
    have isOut : document.sparseValue field key value reference = document.sparseLeaf field key value := sparseValue_leaf leaf
    rw [same.eq_of_scalar (sparseLeaf_scalar isAccepted), isOut, isAccepted]
    rw [← isOut] at isAccepted
    rw [sparseValue_eq isAccepted]
  · intro field key members reference kept each isDistinct other same isOtherDistinct
    rcases same.object_left with ⟨others, rfl⟩
    refine sparseValue_group.mpr (keepsMembers_reordered same isDistinct isOtherDistinct ?_)
    intro name value present
    have related := member?_rel each name
    rw [present] at related
    cases inKept : member? name kept with
    | none =>
        rw [inKept] at related
        cases related
    | some keptValue =>
        rw [inKept] at related
        cases related with
        | some held =>
            rcases held with ⟨child, isChild, accepts⟩
            exact ⟨child, isChild, fun sameValue => accepts (isDistinct.member present) sameValue⟩

theorem sparseMembers_reordered (accepted : document.sparseMembers field group members = .ok members)
    (same : Same (.object members) (.object others)) (distinct : (Document.object members).Distinct)
    (otherDistinct : (Document.object others).Distinct) : document.sparseMembers field group others = .ok others := by
  refine sparseMembers_ok_iff.mpr (keepsMembers_reordered same distinct otherDistinct ?_)
  intro name value present
  have each := sparseMembers_ok_iff.mp accepted
  rw [List.forall₂_same] at each
  rcases each (name, value) (mem_of_member? present) with ⟨_, child, isChild, accepts⟩
  exact ⟨child, isChild, fun sameValue => sparseValue_reordered accepts sameValue (distinct.member present)⟩

end Sparse

end ConstraintDocument

/-! ## Requests -/

/-- The objects differ in the order of their members. -/
def Object.Same (first second : Object) : Prop :=
  Document.Same (.object first.members) (.object second.members)

/-- The same parameters for the same agent, whose segment may be left out. -/
structure AgentOverride.Same (first second : AgentOverride) : Prop where
  agent : second.agent = first.agent
  segment : second.segment = [] ∨ second.segment = fixedSegment second.agent
  parameters : Option.Rel Object.Same first.parameters second.parameters

namespace ConstraintDocument

theorem agentObject_same (agent : Int) (segment : List Char) {first second : Object} (same : first.Same second) :
    Document.Same (agentObject agent segment first.members) (agentObject agent segment second.members) := by
  have parameters : (Document.object first.members).sort byText = (Document.object second.members).sort byText := same
  change Document.object (orderMembers byText [(_, _), (_, _), (_, (Document.object first.members).sort byText)]) = _
  rw [parameters]
  rfl

variable {document : ConstraintDocument} {reference : Members} {referenceAgents : List Value} {object other : Object}
  {agents others : List AgentOverride} {profile : MaterializedProfile}

theorem Accepts.reordered {agent otherAgent : AgentOverride} (accepts : document.Accepts reference agent object)
    (same : agent.Same otherAgent) : exists other, object.Same other ∧ document.Accepts reference otherAgent other := by
  rcases accepts with ⟨_, given, accepted⟩
  have related := same.parameters
  rw [given] at related
  cases otherGiven : otherAgent.parameters with
  | none =>
      rw [otherGiven] at related
      cases related
  | some other =>
      rw [otherGiven] at related
      cases related with
      | some held =>
          refine ⟨other, held, same.segment, otherGiven, ?_⟩
          rw [same.agent]
          exact sparseMembers_reordered accepted held object.distinct other.distinct

/-- The same request is materialized to the same parameters. -/
theorem materialize_reordered
    (done : document.materialize reference referenceAgents (some object) agents = .ok profile)
    (sameShared : object.Same other) (sameAgents : List.Forall₂ AgentOverride.Same agents others) :
    exists again, document.materialize reference referenceAgents (some other) others = .ok again ∧
      again.shared = profile.shared ∧ Document.Same (.array profile.agents) (.array again.agents) := by
  rcases materialize_ok_iff.mp done with
    ⟨valid, ⟨given, isGiven, completed⟩, segments, numbers, overrides, accepts, areAgents⟩
  cases isGiven
  have value : document.completeValue "shared_parameters".toList (.object reference) (.object object.members) =
      .ok (.object profile.shared) := by
    rw [completeValue_object, completed]
    rfl
  have otherValue := completeValue_reordered value sameShared object.distinct other.distinct
  have otherCompleted : document.validateCompleteObject "shared_parameters".toList reference other.members =
      .ok profile.shared := by
    rw [completeValue_object] at otherValue
    cases outcome : document.validateCompleteObject "shared_parameters".toList reference other.members with
    | error reason =>
        rw [outcome] at otherValue
        cases otherValue
    | ok members =>
        rw [outcome] at otherValue
        cases otherValue
        rfl
  have otherNumbers : others.map AgentOverride.agent = agents.map AgentOverride.agent := by
    rw [← List.forall₂_eq_eq_eq, List.forall₂_map_left_iff, List.forall₂_map_right_iff]
    exact sameAgents.flip.imp fun _ _ same => same.agent
  have otherPerm : (others.map AgentOverride.agent).Perm agentNumbers := by rwa [otherNumbers]
  have nodup : (others.map AgentOverride.agent).Nodup := otherPerm.nodup_iff.mpr (by decide)
  have each : ∀ otherAgent ∈ others, (overrides otherAgent.agent).Same (parametersOf others otherAgent.agent) ∧
      document.Accepts reference otherAgent (parametersOf others otherAgent.agent) := by
    intro otherAgent inside
    rcases exists_of_mem sameAgents inside with ⟨agent, isAgent, same⟩
    rcases (accepts agent isAgent).reordered same with ⟨override, sameOverride, accepted⟩
    rw [parametersOf_eq nodup inside accepted.2.1, same.agent]
    exact ⟨sameOverride, accepted⟩
  refine ⟨{ shared := profile.shared, agents := agentNumbers.map fun agent =>
    agentObject agent (fixedSegment agent) (parametersOf others agent).members }, ?_, rfl, ?_⟩
  · exact materialize_ok_iff.mpr ⟨valid, ⟨other, rfl, otherCompleted⟩, segments, otherPerm, parametersOf others,
      fun otherAgent inside => (each otherAgent inside).2, rfl⟩
  · rw [areAgents]
    refine Document.Same.array ?_
    rw [List.forall₂_map_left_iff, List.forall₂_map_right_iff, List.forall₂_same]
    intro number isNumber
    rcases List.mem_map.mp (otherPerm.mem_iff.mpr isNumber) with ⟨otherAgent, inside, rfl⟩
    exact agentObject_same _ _ (each otherAgent inside).1

end ConstraintDocument

end Profiles
end FederatedIot
