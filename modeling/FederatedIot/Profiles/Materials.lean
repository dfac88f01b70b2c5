import FederatedIot.Profiles.Materialization
import FederatedIot.Profiles.Repository

namespace FederatedIot
namespace Profiles

open Foundation Foundation.JsonText Foundation.JsonText.Document Foundation.Outcome Queue

/-!
# What a call is about to store

A call that has read the reference has the canonical text of a custom profile with the
immutable base, and the digest of that text.  Before that it fails with an error of its
own, and never with a conflict.
-/

theorem mapError_ok_iff {First Second Value : Type} {convert : First -> Second} {outcome : Except First Value}
    {value : Value} : outcome.mapError convert = .ok value ↔ outcome = .ok value := by
  cases outcome with
  | ok found =>
      constructor
      · intro same
        exact congrArg Except.ok (Except.ok.inj same)
      · intro same
        exact congrArg Except.ok (Except.ok.inj same)
  | error fault =>
      constructor
      · intro wrong
        cases wrong
      · intro wrong
        cases wrong

theorem onlyRefuses_mapError {First Second Value : Type} {allowed : First -> Prop} {wider : Second -> Prop}
    {convert : First -> Second} {outcome : Except First Value} (only : OnlyRefuses allowed outcome)
    (converts : forall fault, allowed fault -> wider (convert fault)) : OnlyRefuses wider (outcome.mapError convert) := by
  cases outcome with
  | ok value => exact OnlyRefuses.ok value
  | error fault => exact OnlyRefuses.error (converts fault (only fault rfl))

/-! ## Materials -/

/-- The canonical text of a custom profile and its digest. -/
structure Sound (platform : ProfilePlatform) (input : ProfileInput) (material : Material) : Prop where
  base : input.baseVersionId = referenceProfileVersionId
  normalized : material.normalized =
    canonicalJson (customProfile input.baseVersionId material.shared material.agents material.fixed)
  digest : material.normalizedSha256 = platform.sha256Hex material.normalized

theorem normalizeCustomProfileBase_ok {input normalized : ProfileInput}
    (accepted : normalizeCustomProfileBase input = .ok normalized) : normalized.baseVersionId = referenceProfileVersionId := by
  unfold normalizeCustomProfileBase at accepted
  simp only [bind_ok_iff, require_ok_iff, pure_ok_iff] at accepted
  rcases accepted with ⟨_, isBase, rfl⟩
  exact isBase

namespace ProfileCall

variable {platform : ProfilePlatform} {constraints : Option ConstraintDocument} {call : ProfileCall}
  {rows : List ProfileRow} {input : ProfileInput} {material : Material}

theorem prepare_ok (accepted : call.prepare = .ok input) : input.baseVersionId = referenceProfileVersionId := by
  cases call with
  | create given =>
      simp only [prepare, bind_ok_iff] at accepted
      rcases accepted with ⟨_, _, normalized⟩
      exact normalizeCustomProfileBase_ok normalized
  | «import» given =>
      simp only [prepare, bind_ok_iff] at accepted
      rcases accepted with ⟨_, _, normalized⟩
      exact normalizeCustomProfileBase_ok normalized

theorem materialize_sound (materialized : call.materialize platform constraints rows = .ok (input, material)) :
    Sound platform input material := by
  unfold materialize at materialized
  simp only [bind_ok_iff, mapError_ok_iff] at materialized
  rcases materialized with ⟨prepared, isPrepared, made, isMade, rest⟩
  have same : prepared = input ∧ made = material := by
    cases call with
    | create given => exact Prod.mk.inj (pure_ok_iff.mp rest)
    | «import» given =>
        simp only [bind_ok_iff, pure_ok_iff] at rest
        rcases rest with ⟨_, _, pair⟩
        exact Prod.mk.inj pair
  rcases same with ⟨rfl, rfl⟩
  unfold materializeCustomProfile at isMade
  simp only [bind_ok_iff, pure_ok_iff, mapError_ok_iff] at isMade
  rcases isMade with ⟨_, _, _, _, _, _, rfl⟩
  exact ⟨prepare_ok isPrepared, rfl, rfl⟩

end ProfileCall

/-! ## Errors -/

/-- The errors of a materialization are those of a request. -/
def Requested : MaterializeFailure -> Prop
  | .validation error => error.code ≠ customProfileConflictError.code
  | .reference => True
  | .panic => True

theorem requested_of_code {code message : String} {field : List Char} (different : code ≠ "REFERENCE_CONFIG_IMMUTABLE") :
    Requested (.validation { code, field, message }) :=
  different

theorem unknownPath_requested (field : List Char) : Requested (unknownPath field) :=
  requested_of_code (by decide)

theorem missingPath_requested (field : List Char) : Requested (missingPath field) :=
  requested_of_code (by decide)

theorem typeError_requested (field : List Char) : Requested (typeError field) :=
  requested_of_code (by decide)

namespace ConstraintDocument

variable {document : ConstraintDocument}

theorem validateLeaf_requested (path field : List Char) (value : Value) :
    OnlyRefuses Requested (document.validateLeaf path field value) := by
  unfold validateLeaf
  cases document.constraint? path with
  | none => exact OnlyRefuses.error (unknownPath_requested field)
  | some constraint =>
      exact OnlyRefuses.bind (OnlyRefuses.require (requested_of_code (by decide))) fun _ _ =>
        OnlyRefuses.require (requested_of_code (by decide))

theorem requireKnown_requested (field : List Char) (reference actual : Members) :
    OnlyRefuses Requested (requireKnown field reference actual) := by
  unfold requireKnown
  split
  · exact OnlyRefuses.ok _
  · exact OnlyRefuses.error (unknownPath_requested _)

theorem completeLeaf_requested (field : List Char) (reference actual : Value) :
    OnlyRefuses Requested (document.completeLeaf field reference actual) := by
  unfold completeLeaf
  refine OnlyRefuses.bind (validateLeaf_requested _ _ _) fun _ _ => ?_
  exact OnlyRefuses.bind (OnlyRefuses.require (requested_of_code (by decide))) fun _ _ => OnlyRefuses.ok _

theorem completeMembers_requested {field : List Char} {members given : Members}
    (each : ∀ member ∈ members, forall field actual, OnlyRefuses Requested (document.completeValue field member.2 actual)) :
    OnlyRefuses Requested (document.completeMembers field members given) := by
  intro failure refused
  rcases completeMembers_error refused with ⟨member, isMember, ⟨_, rfl⟩ | ⟨value, _, isRefused⟩⟩
  · exact missingPath_requested _
  · exact each member isMember _ _ failure isRefused

theorem completeValue_requested (reference : Value) :
    forall field actual, OnlyRefuses Requested (document.completeValue field reference actual) := by
  have hereditary : Hereditary fun reference : Value =>
      forall field actual, OnlyRefuses Requested (document.completeValue field reference actual) := by
    refine ⟨?_, fun _ => ?_, fun _ => ?_, fun _ => ?_, fun _ _ => ?_, ?_⟩
    iterate 5
      intro field actual
      rw [completeValue_leaf rfl]
      exact completeLeaf_requested _ _ _
    intro members each field actual
    cases actual with
    | object given =>
        rw [completeValue]
        exact OnlyRefuses.bind (requireKnown_requested _ _ _) fun _ _ =>
          OnlyRefuses.bind (completeMembers_requested each) fun _ _ => OnlyRefuses.ok _
    | null | bool | number | string | array =>
        rw [completeValue_mistyped rfl]
        exact OnlyRefuses.error (typeError_requested _)
  exact hereditary.all reference

theorem sparseLeaf_requested (field key : List Char) (value : Value) :
    OnlyRefuses Requested (document.sparseLeaf field key value) := by
  unfold sparseLeaf
  split
  · exact OnlyRefuses.error trivial
  · exact OnlyRefuses.bind (validateLeaf_requested _ _ _) fun _ _ => OnlyRefuses.ok _

theorem sparseMembers_requested {field : List Char} {reference members : Members}
    (each : ∀ member ∈ members, forall field key child,
      OnlyRefuses Requested (document.sparseValue field key member.2 child)) :
    OnlyRefuses Requested (document.sparseMembers field reference members) := by
  intro failure refused
  rcases sparseMembers_error refused with ⟨member, isMember, ⟨_, rfl⟩ | ⟨child, _, isRefused⟩⟩
  · exact unknownPath_requested _
  · exact each member isMember _ _ _ failure isRefused

theorem sparseValue_requested (value : Value) :
    forall field key reference, OnlyRefuses Requested (document.sparseValue field key value reference) := by
  have leafCase : forall {value reference : Value} {field key : List Char}, reference.isObject = false ->
      OnlyRefuses Requested (document.sparseValue field key value reference) := by
    intro value reference field key isLeaf
    rw [sparseValue_leaf isLeaf]
    exact sparseLeaf_requested _ _ _
  have hereditary : Hereditary fun value : Value =>
      forall field key reference, OnlyRefuses Requested (document.sparseValue field key value reference) := by
    refine ⟨?_, fun _ => ?_, fun _ => ?_, fun _ => ?_, fun _ _ => ?_, ?_⟩
    iterate 5
      intro field key reference
      cases reference with
      | object members =>
          rw [sparseValue_mistyped rfl]
          exact OnlyRefuses.error (typeError_requested _)
      | null | bool | number | string | array => exact leafCase rfl
    intro members each field key reference
    cases reference with
    | object reference =>
        rw [sparseValue_object]
        intro failure refused
        cases outcome : document.sparseMembers (field ++ '.' :: key) reference members with
        | ok kept =>
            rw [outcome] at refused
            cases refused
        | error reason =>
            rw [outcome] at refused
            cases refused
            exact sparseMembers_requested each _ outcome
    | null | bool | number | string | array => exact leafCase rfl
  exact hereditary.all value

theorem agentEntry_requested (reference : Members) (expected : List (Int × List Char)) (agent : AgentOverride) :
    OnlyRefuses Requested (document.agentEntry reference expected agent) := by
  unfold agentEntry
  refine OnlyRefuses.bind ?_ fun _ _ => ?_
  · cases expected.lookup agent.agent with
    | none => exact OnlyRefuses.error (requested_of_code (by decide))
    | some segment => exact OnlyRefuses.ok _
  · refine OnlyRefuses.bind (OnlyRefuses.require (requested_of_code (by decide))) fun _ _ => OnlyRefuses.bind ?_ fun _ _ => ?_
    · cases agent.parameters with
      | none => exact OnlyRefuses.error (requested_of_code (by decide))
      | some parameters => exact OnlyRefuses.ok _
    · exact OnlyRefuses.bind (sparseMembers_requested fun member _ => sparseValue_requested member.2) fun _ _ =>
        OnlyRefuses.ok _

theorem foldlM_materializeAgent_requested (reference : Members) (expected : List (Int × List Char))
    (agents : List AgentOverride) (done : List (Int × Value)) :
    OnlyRefuses Requested (agents.foldlM (document.materializeAgent reference expected) done) := by
  induction agents generalizing done with
  | nil => exact OnlyRefuses.ok _
  | cons agent rest inductionHypothesis =>
      rw [List.foldlM_cons]
      refine OnlyRefuses.bind ?_ fun next _ => inductionHypothesis next
      refine OnlyRefuses.bind (OnlyRefuses.require (requested_of_code (by decide))) fun _ _ => ?_
      exact OnlyRefuses.bind (agentEntry_requested _ _ _) fun _ _ => OnlyRefuses.ok _

theorem materialize_requested (reference : Members) (referenceAgents : List Value) (shared : Option Object)
    (agents : List AgentOverride) :
    OnlyRefuses Requested (document.materialize reference referenceAgents shared agents) := by
  unfold materialize
  refine OnlyRefuses.bind (OnlyRefuses.require trivial) fun _ _ => OnlyRefuses.bind ?_ fun object _ => ?_
  · cases shared with
    | none => exact OnlyRefuses.error (requested_of_code (by decide))
    | some object => exact OnlyRefuses.ok _
  · refine OnlyRefuses.bind ?_ fun _ _ => OnlyRefuses.bind ?_ fun expected _ => ?_
    · exact OnlyRefuses.bind (requireKnown_requested _ _ _) fun _ _ =>
        completeMembers_requested fun member _ => completeValue_requested member.2
    · cases referenceAgentSegments referenceAgents with
      | none => exact OnlyRefuses.error trivial
      | some segments => exact OnlyRefuses.ok _
    · refine OnlyRefuses.bind (OnlyRefuses.require (requested_of_code (by decide))) fun _ _ => ?_
      exact OnlyRefuses.bind (foldlM_materializeAgent_requested _ _ _ _) fun _ _ => OnlyRefuses.ok _

end ConstraintDocument

/-- No unique violation and no conflict. -/
def Harmless (failure : Failure) : Prop :=
  failure ≠ .stable customProfileConflictError ∧ forall name, failure ≠ .database (.uniqueViolation name)

theorem harmless_stable {error : StableError} (different : error ≠ customProfileConflictError) : Harmless (.stable error) :=
  ⟨fun same => different (Failure.stable.inj same), fun _ => Failure.noConfusion⟩

theorem harmless_of_code {code field message : String} {recoverable : Bool}
    (different : code ≠ "REFERENCE_CONFIG_IMMUTABLE") : Harmless (.stable { code, field, message, recoverable }) :=
  harmless_stable fun same => different (congrArg StableError.code same)

theorem parameterValidationError_harmless {failure : MaterializeFailure} (requested : Requested failure) :
    Harmless (parameterValidationError failure) := by
  cases failure with
  | validation error => exact harmless_of_code requested
  | reference => exact harmless_of_code (by decide)
  | panic => exact ⟨Failure.noConfusion, fun _ => Failure.noConfusion⟩

theorem referenceProfileComponents_harmless (platform : ProfilePlatform) (rows : List ProfileRow) :
    OnlyRefuses (fun error => error ≠ customProfileConflictError) (referenceProfileComponents platform rows) := by
  unfold referenceProfileComponents validatedReferenceProfile
  refine OnlyRefuses.bind ?_ fun normalized _ => ?_
  · split
    · exact OnlyRefuses.error (by decide)
    · exact OnlyRefuses.bind (OnlyRefuses.require (by decide)) fun _ _ => OnlyRefuses.ok _
  · cases (rawJsonObject normalized).bind profileComponents with
    | none => exact OnlyRefuses.error (by decide)
    | some components => exact OnlyRefuses.ok _

theorem normalizeCustomProfileBase_harmless (input : ProfileInput) :
    OnlyRefuses (fun error => error ≠ customProfileConflictError) (normalizeCustomProfileBase input) := by
  unfold normalizeCustomProfileBase
  exact OnlyRefuses.bind (OnlyRefuses.require (by decide)) fun _ _ => OnlyRefuses.ok _

theorem ProfileCall.prepare_harmless (call : ProfileCall) :
    OnlyRefuses (fun error => error ≠ customProfileConflictError) call.prepare := by
  cases call with
  | create given =>
      refine OnlyRefuses.bind ?_ fun _ _ => normalizeCustomProfileBase_harmless _
      exact OnlyRefuses.bind (OnlyRefuses.require (by decide)) fun _ _ => OnlyRefuses.require (by decide)
  | «import» given =>
      refine OnlyRefuses.bind ?_ fun _ _ => normalizeCustomProfileBase_harmless _
      refine OnlyRefuses.bind (OnlyRefuses.require (by decide)) fun _ _ => ?_
      exact OnlyRefuses.bind (OnlyRefuses.require (by decide)) fun _ _ => OnlyRefuses.require (by decide)

theorem verifyParameterConstraints_harmless (constraints : Option ConstraintDocument) :
    OnlyRefuses (fun error => error ≠ customProfileConflictError) (verifyParameterConstraints constraints) := by
  cases constraints with
  | none => exact OnlyRefuses.error (by decide)
  | some document => exact OnlyRefuses.bind (OnlyRefuses.require (by decide)) fun _ _ => OnlyRefuses.ok _

theorem validateImportedMaterial_harmless (input : ImportProfileInput) (material : Material) :
    OnlyRefuses (fun error => error ≠ customProfileConflictError) (validateImportedMaterial input material) :=
  OnlyRefuses.bind (OnlyRefuses.require (by decide)) fun _ _ => OnlyRefuses.require (by decide)

/-- Before its statements on the profiles a call has no conflict. -/
theorem ProfileCall.materialize_harmless (platform : ProfilePlatform) (constraints : Option ConstraintDocument)
    (call : ProfileCall) (rows : List ProfileRow) :
    OnlyRefuses Harmless (call.materialize platform constraints rows) := by
  unfold ProfileCall.materialize
  refine OnlyRefuses.bind (onlyRefuses_mapError call.prepare_harmless fun _ => harmless_stable) fun input _ => ?_
  refine OnlyRefuses.bind ?_ fun material _ => ?_
  · unfold materializeCustomProfile
    refine OnlyRefuses.bind ?_ fun document _ => OnlyRefuses.bind ?_ fun reference _ => OnlyRefuses.bind ?_ fun _ _ =>
      OnlyRefuses.ok _
    · exact onlyRefuses_mapError (verifyParameterConstraints_harmless constraints) fun _ => harmless_stable
    · exact onlyRefuses_mapError (referenceProfileComponents_harmless platform rows) fun _ => harmless_stable
    · exact onlyRefuses_mapError (document.materialize_requested _ _ _ _) fun _ => parameterValidationError_harmless
  · cases call with
    | create given => exact OnlyRefuses.ok _
    | «import» given =>
        have checked := onlyRefuses_mapError (validateImportedMaterial_harmless given material) fun _ => harmless_stable
        exact OnlyRefuses.bind checked fun _ _ => OnlyRefuses.ok _

end Profiles
end FederatedIot
