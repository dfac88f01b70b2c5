import FederatedIot.Foundation.Jsonb
import FederatedIot.Foundation.Relation
import FederatedIot.Profiles.Constraints
import FederatedIot.Queue.Snapshot

namespace FederatedIot
namespace Profiles

open Foundation Foundation.JsonText Foundation.Relation Foundation.Outcome Queue

/-!
# The repository of parameter profiles

A custom profile is stored with its parameters and with the canonical text of
the whole profile, by whose digest it is found again.  No two profiles have one
digest.  A profile is looked up before it is inserted and, when another call has
inserted it in the meantime, once more after that.  These are separate
statements and no transaction holds them together.
-/

/-! ## Errors -/

/-- An error of the database, with the constraint that a statement violates. -/
inductive DatabaseError where
  | uniqueViolation (constraint : String)
  | checkViolation
  | foreignKeyViolation
  | invalidText
  deriving DecidableEq, Repr

/-- What a call fails with: an error of the interface, one of the database, or a panic. -/
inductive Failure where
  | stable (error : StableError)
  | database (error : DatabaseError)
  | panic
  deriving DecidableEq, Repr

def normalizedSha256Key : String :=
  "parameter_profiles_normalized_sha256_key"

def isNormalizedProfileUniqueViolation (error : DatabaseError) : Bool :=
  error = .uniqueViolation normalizedSha256Key

def customProfileConflictError : StableError :=
  { code := "REFERENCE_CONFIG_IMMUTABLE", field := "parameter_profile_version_id"
    message := "A conflicting immutable parameter profile already exists.", recoverable := false }

def referenceProfileIntegrityError : StableError :=
  { code := "REFERENCE_CONFIG_IMMUTABLE", field := "parameter_profile_version_id"
    message := "The immutable reference parameter profile is missing or invalid.", recoverable := false }

def parameterConstraintsError : StableError :=
  { code := "PARAMETER_CONSTRAINTS_INVALID", field := "parameter_constraints"
    message := "The parameter constraints configuration is missing or invalid.", recoverable := false }

def parameterValidationError : MaterializeFailure -> Failure
  | .validation error =>
      .stable { code := error.code, field := String.ofList error.field, message := error.message, recoverable := true }
  | .reference => .stable parameterConstraintsError
  | .panic => .panic

/-! ## Rows -/

/-- A row of `parameter_profiles`. -/
structure ProfileRow where
  versionId : List Char
  mode : RunMode
  displayName : List Char
  baseVersionId : Option (List Char)
  contractVersion : List Char
  sharedParameters : Document Decimal
  agentsJson : Document Decimal
  fixedItems : Document Decimal
  normalizedJson : Document Decimal
  normalizedSha256 : List Char
  immutable : Bool
  createdAt : Queue.Instant
  updatedAt : Queue.Instant

/-- `INSERT INTO parameter_profiles`, with the constraints in the order in which they are tested. -/
def insertProfile (row : ProfileRow) (rows : List ProfileRow) : Except DatabaseError (List ProfileRow) := do
  require (row.immutable = true ∧ (row.mode = .reference -> row.baseVersionId = none)) .checkViolation
  require (row.versionId ∉ rows.map ProfileRow.versionId) (.uniqueViolation "parameter_profiles_pkey")
  require (row.normalizedSha256 ∉ rows.map ProfileRow.normalizedSha256) (.uniqueViolation normalizedSha256Key)
  require (row.mode = .reference -> ∀ other ∈ rows, other.mode ≠ .reference)
    (.uniqueViolation "parameter_profiles_one_reference")
  require (∀ base ∈ row.baseVersionId, base ∈ (rows ++ [row]).map ProfileRow.versionId) .foreignKeyViolation
  return rows ++ [row]

/-- A parameter of the type `jsonb`. -/
def jsonbParameter (text : List Char) : Except DatabaseError (Document Decimal) :=
  (Jsonb.ofText text).elim (.error .invalidText) .ok

/-! ## Code outside the repository -/

/-- The digest of a text and the printed form of an instant. -/
structure ProfilePlatform where
  sha256Hex : List Char -> List Char
  formatTime : Queue.Instant -> List Char

/-- `CanonicalJSON` of a decoded value.  A map has no order that `normalize` could change. -/
def canonicalJson (value : Value) : List Char :=
  marshal value

/-- `CanonicalJSON` of a raw message. -/
def canonicalRaw (text : List Char) : Option (List Char) :=
  (unmarshal text).map canonicalJson

/-! ## The reference -/

def referenceProfileVersionId : List Char :=
  "reference-v1".toList

/-- `domain.ParameterContractVersion` -/
def parameterContractVersion : List Char :=
  "parameter-profile.v1".toList

def ratio (name : String) (numerator denominator : Nat) : List Char × Value :=
  (name.toList, .number (Double.ofFraction numerator denominator))

def whole (name : String) (value : Nat) : List Char × Value :=
  ratio name value 1

def flag (name : String) (value : Bool) : List Char × Value :=
  (name.toList, .bool value)

def word (name value : String) : List Char × Value :=
  (name.toList, .string value.toList)

def group (name : String) (members : Members) : List Char × Value :=
  (name.toList, .object members)

def referenceAgents : List Value :=
  [ConstraintDocument.agentObject 1 "EARLY".toList [], ConstraintDocument.agentObject 2 "MIDDLE".toList [],
    ConstraintDocument.agentObject 3 "LATE".toList []]

def referenceFixedItems : Members :=
  [whole "agent_count" 3, word "feature_dimension_formula" "4*nLag+32", flag "leave_one_out_global_model" true,
    flag "predict_then_update" true, ("agent_override_whitelist".toList, .array [])]

def referenceSharedParameters : Members :=
  [group "feature_state" [whole "nLag" 8, ratio "speed_threshold" 1 100, whole "current_threshold" 1],
    group "cleaning" [whole "median_window" 21, whole "mad_factor" 5, whole "smoothing_window" 5],
    group "split"
      [ratio "training_ratio" 70 100, ratio "calibration_ratio" 15 100, whole "minimum_training" 80,
        whole "minimum_calibration" 30, whole "minimum_testing" 30, whole "agent_count" 3],
    group "local_gp"
      [whole "kNN" 100, ratio "adaptive_ratio" 10 100, whole "ell" 5, whole "sigma_f" 1, ratio "sigma_n" 10 100,
        ratio "minimum_regularization" 1 100],
    group "trend"
      [whole "threshold" 1, ratio "maximum_mixing" 75 100, whole "gain" 1, ratio "maximum_step_change" 25 10],
    group "interval"
      [ratio "confidence" 95 100, whole "calibration_window" 300, whole "minimum_scores" 20, ratio "std_floor" 20 100,
        ratio "calibration_scale_min" 5 10, whole "calibration_scale_max" 10, whole "half_width_min" 1,
        whole "half_width_max" 8, whole "coverage_window" 200, word "update_mode" "all_finite",
        ratio "variance_floor" 1 (10 ^ 8)],
    group "anchors"
      [whole "base_centers" 100, whole "transition_centers" 30, whole "boundary_centers" 20,
        ratio "transition_quantile" 75 100, whole "public_anchors" 300, whole "iterations" 60, whole "random_seed" 2026],
    group "support"
      [ratio "scale_multiple" 25 10, ratio "minimum_weight" 1 (10 ^ 5), ratio "minimum_query_support" 3 100,
        ratio "full_weight_reference" 35 100],
    group "global_surrogate"
      [whole "ell" 5, ratio "minimum_regularization" 1 (10 ^ 4), ratio "noise_ratio" 25 100, whole "cholesky_attempts" 10,
        flag "leave_one_out" true],
    group "fusion"
      [ratio "maximum_global_weight" 98 100, ratio "initial_improvement" 1 1000, whole "error_window" 50,
        whole "minimum_samples" 20, ratio "win_margin" 5 100, ratio "variance_weight" 25 100,
        ratio "winsor_quantile" 90 100, ratio "global_clear_threshold" 85 100, ratio "neutral_upper_limit" 70 100,
        whole "persistence" 5, ratio "rise_smoothing" 85 100, ratio "fall_smoothing" 55 100,
        ratio "disagreement_kappa" 25 10, whole "maximum_variance_ratio" 2],
    group "alarms"
      [ratio "imbalance_threshold" 15 100, whole "notice_count" 1, whole "warning_count" 3, whole "alarm_count" 5,
        ("absolute_current_threshold".toList, .null), ("absolute_tension_threshold".toList, .null)]]

def referenceProfile : Value :=
  .object
    [("contract_version".toList, .string parameterContractVersion), word "mode" "REFERENCE",
      ("shared_parameters".toList, .object referenceSharedParameters), ("agents".toList, .array referenceAgents),
      ("fixed_items".toList, .object referenceFixedItems)]

/-- The canonical text that `referenceProfileSeed` makes. -/
def referenceNormalized : List Char :=
  canonicalJson referenceProfile

/-- The insert of `EnsureReferenceProfiles` into an empty table. -/
def seedReference (platform : ProfilePlatform) (now : Queue.Instant) : Except DatabaseError (List ProfileRow) := do
  let shared ← jsonbParameter (marshal (.object referenceSharedParameters))
  let agents ← jsonbParameter (marshal (.array referenceAgents))
  let fixed ← jsonbParameter (marshal (.object referenceFixedItems))
  let normalized ← jsonbParameter referenceNormalized
  insertProfile
    { versionId := referenceProfileVersionId, mode := .reference, displayName := "Reference-compatible".toList
      baseVersionId := none, contractVersion := parameterContractVersion, sharedParameters := shared
      agentsJson := agents, fixedItems := fixed, normalizedJson := normalized
      normalizedSha256 := platform.sha256Hex referenceNormalized, immutable := true, createdAt := now
      updatedAt := now } []

/-- Whether a member of the object is an object with some member. -/
def hasGroup (members : Members) (name : String) : Bool :=
  match Document.member? name.toList members with
  | some (.object (_ :: _)) => true
  | _ => false

/-- `rawJSONObject`.  The word `null` leaves an empty map. -/
def rawJsonObject (text : List Char) : Option Members :=
  match unmarshal text with
  | some (.object members) => some members
  | some .null => some []
  | _ => none

/-- The shared parameters, the agents and the fixed items of the reference. -/
structure ReferenceComponents where
  shared : Members
  agents : List Value
  fixed : Members

/-- The parts of a profile that are objects and a list. -/
def profileComponents (profile : Members) : Option ReferenceComponents :=
  match Document.member? "shared_parameters".toList profile, Document.member? "agents".toList profile,
      Document.member? "fixed_items".toList profile with
  | some (.object shared), some (.array agents), some (.object fixed) => some { shared, agents, fixed }
  | _, _, _ => none

def validateReferenceProfile (platform : ProfilePlatform) (normalized storedSha : List Char) : Bool :=
  match rawJsonObject normalized with
  | none => false
  | some profile =>
      platform.sha256Hex (canonicalJson (.object profile)) = storedSha &&
        (Document.member? "contract_version".toList profile).any
          (fun value => valuesEqual value (.string parameterContractVersion)) &&
        (Document.member? "mode".toList profile).any
          (fun value => valuesEqual value (.string RunMode.reference.text.toList)) &&
        match profileComponents profile with
        | none => false
        | some components =>
            components.shared ≠ [] && components.agents.length = 3 &&
              (["feature_state", "cleaning", "split", "trend"].all (hasGroup components.shared)) &&
              canonicalJson (.object referenceFixedItems) = canonicalJson (.object components.fixed)

/-- `validatedReferenceProfile` -/
def validatedReferenceProfile (platform : ProfilePlatform) (rows : List ProfileRow) :
    Except StableError (List Char) :=
  match rows.find? fun row => row.versionId = referenceProfileVersionId && row.mode = .reference && row.immutable with
  | none => .error referenceProfileIntegrityError
  | some row => do
      require (validateReferenceProfile platform (Jsonb.text row.normalizedJson) row.normalizedSha256 = true)
        referenceProfileIntegrityError
      return Jsonb.text row.normalizedJson

def referenceProfileComponents (platform : ProfilePlatform) (rows : List ProfileRow) :
    Except StableError ReferenceComponents := do
  let normalized ← validatedReferenceProfile platform rows
  ((rawJsonObject normalized).bind profileComponents).elim (.error referenceProfileIntegrityError) .ok

/-! ## Materialization -/

structure ProfileInput where
  displayName : List Char
  baseVersionId : List Char
  shared : Option Object
  agents : List AgentOverride

/-- What a call is about to store. -/
structure Material where
  shared : Members
  agents : List Value
  fixed : Members
  normalized : List Char
  normalizedSha256 : List Char

/-- The whole of a custom profile. -/
def customProfile (baseVersionId : List Char) (shared : Members) (agents : List Value) (fixed : Members) : Value :=
  .object
    [("contract_version".toList, .string parameterContractVersion), word "mode" RunMode.custom.text,
      ("base_version_id".toList, .string baseVersionId), ("shared_parameters".toList, .object shared),
      ("agents".toList, .array agents), ("fixed_items".toList, .object fixed)]

/-- `VerifyParameterConstraints`, for a document that may have failed to load. -/
def verifyParameterConstraints (constraints : Option ConstraintDocument) : Except StableError ConstraintDocument :=
  match constraints with
  | none => .error parameterConstraintsError
  | some document => do
      require (document.validateReference (.object referenceSharedParameters) = true) parameterConstraintsError
      return document

def materializeCustomProfile (platform : ProfilePlatform) (constraints : Option ConstraintDocument)
    (input : ProfileInput) (rows : List ProfileRow) : Except Failure Material := do
  let document ← (verifyParameterConstraints constraints).mapError .stable
  let reference ← (referenceProfileComponents platform rows).mapError .stable
  let materialized ← (document.materialize reference.shared reference.agents input.shared input.agents).mapError
    parameterValidationError
  let normalized := canonicalJson
    (customProfile input.baseVersionId materialized.shared materialized.agents reference.fixed)
  let normalizedSha256 := platform.sha256Hex normalized
  return { materialized with fixed := reference.fixed, normalized, normalizedSha256 }

/-! ## Statements -/

structure ProfileRecord where
  versionId : List Char
  mode : RunMode
  displayName : List Char
  baseVersionId : Option (List Char)
  shared : List Char
  agents : List Char
  fixedItems : List Char
  normalizedSha256 : List Char
  immutable : Bool
  createdAt : Queue.Instant
  updatedAt : Queue.Instant

/-- The columns of a row as they are scanned. -/
def ProfileRow.record (row : ProfileRow) : ProfileRecord :=
  { versionId := row.versionId, mode := row.mode, displayName := row.displayName, baseVersionId := row.baseVersionId
    shared := Jsonb.text row.sharedParameters, agents := Jsonb.text row.agentsJson
    fixedItems := Jsonb.text row.fixedItems, normalizedSha256 := row.normalizedSha256, immutable := row.immutable
    createdAt := row.createdAt, updatedAt := row.updatedAt }

def validateExactCustomProfile (platform : ProfilePlatform) (record : ProfileRecord)
    (normalized expectedNormalized expectedSha expectedBaseVersionId : List Char) : Except StableError Unit := do
  require ((canonicalRaw normalized).any (fun canonical =>
      platform.sha256Hex canonical = expectedSha && canonical = expectedNormalized) = true) customProfileConflictError
  require (record.mode = .custom ∧ record.immutable = true ∧ record.baseVersionId = some expectedBaseVersionId ∧
    record.normalizedSha256 = expectedSha) customProfileConflictError

/-- `exactCustomProfileByNormalized` -/
def exactCustomProfileByNormalized (platform : ProfilePlatform) (expectedNormalized expectedSha
    expectedBaseVersionId : List Char) (rows : List ProfileRow) : Except StableError (Option ProfileRecord) :=
  match rows.find? fun row => row.normalizedSha256 = expectedSha with
  | none => .ok none
  | some row => do
      validateExactCustomProfile platform row.record (Jsonb.text row.normalizedJson) expectedNormalized expectedSha
        expectedBaseVersionId
      return some row.record

/-- The insert of `persistCustomProfile`. -/
def insertCustomProfile (versionId displayName baseVersionId : List Char) (material : Material) (now : Queue.Instant)
    (rows : List ProfileRow) : Except DatabaseError (List ProfileRow) := do
  require (Char.ofNat 0 ∉ displayName) .invalidText
  let shared ← jsonbParameter (marshal (.object material.shared))
  let agents ← jsonbParameter (marshal (.array material.agents))
  let fixed ← jsonbParameter (marshal (.object material.fixed))
  let normalized ← jsonbParameter material.normalized
  insertProfile
    { versionId, mode := .custom, displayName, baseVersionId := some baseVersionId
      contractVersion := parameterContractVersion, sharedParameters := shared, agentsJson := agents
      fixedItems := fixed, normalizedJson := normalized, normalizedSha256 := material.normalizedSha256
      immutable := true, createdAt := now, updatedAt := now } rows

/-- The record that answers an insert. -/
def createdRecord (versionId displayName baseVersionId : List Char) (material : Material) (clock : Queue.Instant) :
    ProfileRecord :=
  { versionId, mode := .custom, displayName, baseVersionId := some baseVersionId
    shared := marshal (.object material.shared), agents := marshal (.array material.agents)
    fixedItems := marshal (.object material.fixed), normalizedSha256 := material.normalizedSha256
    immutable := true, createdAt := clock, updatedAt := clock }

/-! ## Calls -/

/-- `unicode.IsSpace` -/
def isUnicodeSpace (char : Char) : Bool :=
  (9 ≤ char.toNat && char.toNat ≤ 13) || char.toNat ∈ [0x20, 0x85, 0xA0, 0x1680, 0x2028, 0x2029, 0x202F, 0x205F, 0x3000] ||
    (0x2000 ≤ char.toNat && char.toNat ≤ 0x200A)

/-- `unicode.IsControl` -/
def isUnicodeControl (char : Char) : Bool :=
  char.toNat < 32 || (127 ≤ char.toNat && char.toNat ≤ 159)

def validateProfileDisplayName (displayName : List Char) : Except StableError Unit := do
  require (displayName.head?.all (fun char => !isUnicodeSpace char) = true ∧
      displayName.getLast?.all (fun char => !isUnicodeSpace char) = true ∧ displayName ≠ [] ∧
        displayName.length ≤ 128)
    { code := "REQUEST_INVALID", field := "display_name"
      message := "display_name must be non-blank valid UTF-8 with at most 128 characters.", recoverable := true }
  require (displayName.all (fun char => !isUnicodeControl char) = true)
    { code := "REQUEST_INVALID", field := "display_name"
      message := "display_name must not contain control characters.", recoverable := true }

def normalizeCustomProfileBase (input : ProfileInput) : Except StableError ProfileInput := do
  let normalized :=
    if input.baseVersionId = [] then { input with baseVersionId := referenceProfileVersionId } else input
  require (normalized.baseVersionId = referenceProfileVersionId)
    { code := "PARAMETER_NOT_ALLOWED", field := "base_version_id"
      message := "CUSTOM profiles must use the immutable reference base.", recoverable := true }
  return normalized

structure ImportProfileInput where
  input : ProfileInput
  contractVersion : List Char
  mode : List Char
  fixedItems : Option Object
  normalizedSha256 : List Char
  immutable : Bool

/-- The checks of an import before its parameters are materialized. -/
def validateImportHeader (input : ImportProfileInput) : Except StableError Unit := do
  require (input.contractVersion = parameterContractVersion)
    { code := "REQUEST_INVALID", field := "contract_version"
      message := "The parameter profile contract version is not supported.", recoverable := true }
  require (input.mode = RunMode.custom.text.toList)
    { code := "PARAMETER_NOT_ALLOWED", field := "mode", message := "Only CUSTOM profiles can be imported."
      recoverable := true }
  require (input.immutable = true)
    { code := "REQUEST_INVALID", field := "immutable"
      message := "Imported parameter profiles must be immutable.", recoverable := true }

/-- The checks of an import against what its parameters are materialized to.  An absent map is
normalized to an empty one. -/
def validateImportedMaterial (input : ImportProfileInput) (material : Material) : Except StableError Unit := do
  require (canonicalJson (.object (input.fixedItems.elim [] Object.members)) =
      canonicalJson (.object material.fixed))
    { code := "PARAMETER_NOT_ALLOWED", field := "fixed_items"
      message := "Fixed S1 topology items cannot be changed.", recoverable := true }
  require (input.normalizedSha256 = material.normalizedSha256)
    { code := "REQUEST_INVALID", field := "normalized_sha256"
      message := "The imported parameter profile hash does not match its canonical values.", recoverable := true }

/-- A call of `CreateCustomProfile` or of `ImportCustomProfile`. -/
inductive ProfileCall where
  | create (input : ProfileInput)
  | import (input : ImportProfileInput)

namespace ProfileCall

def input : ProfileCall -> ProfileInput
  | create input => input
  | .import input => input.input

/-- What a call does before its first statement. -/
def prepare : ProfileCall -> Except StableError ProfileInput
  | create input => do
      validateProfileDisplayName input.displayName
      normalizeCustomProfileBase input
  | .import input => do
      validateImportHeader input
      normalizeCustomProfileBase input.input

/-- What a call does with its first statement, which reads the reference. -/
def materialize (platform : ProfilePlatform) (constraints : Option ConstraintDocument) (call : ProfileCall)
    (rows : List ProfileRow) : Except Failure (ProfileInput × Material) := do
  let input ← call.prepare.mapError .stable
  let material ← materializeCustomProfile platform constraints input rows
  match call with
  | create _ => return (input, material)
  | .import imported => do
      (validateImportedMaterial imported material).mapError .stable
      return (input, material)

end ProfileCall

/-- `persistCustomProfile`, with no other call in between.  The flag tells that the profile was found. -/
def persistCustomProfile (platform : ProfilePlatform) (versionId : List Char) (now clock : Queue.Instant)
    (input : ProfileInput) (material : Material) (rows : List ProfileRow) :
    Except Failure (List ProfileRow × ProfileRecord × Bool) :=
  let lookUp := exactCustomProfileByNormalized platform material.normalized material.normalizedSha256
    input.baseVersionId
  match lookUp rows with
  | .error error => .error (.stable error)
  | .ok (some existing) => .ok (rows, existing, true)
  | .ok none =>
      match insertCustomProfile versionId input.displayName input.baseVersionId material now rows with
      | .ok inserted =>
          .ok (inserted, createdRecord versionId input.displayName input.baseVersionId material clock, false)
      | .error error =>
          if isNormalizedProfileUniqueViolation error then
            match lookUp rows with
            | .error error => .error (.stable error)
            | .ok (some existing) => .ok (rows, existing, true)
            | .ok none => .error (.stable customProfileConflictError)
          else .error (.database error)

/-- `CreateCustomProfile` and `ImportCustomProfile`, with no other call in between. -/
def ProfileCall.perform (platform : ProfilePlatform) (constraints : Option ConstraintDocument)
    (versionId : List Char) (now clock : Queue.Instant) (call : ProfileCall) (rows : List ProfileRow) :
    Except Failure (List ProfileRow × ProfileRecord × Bool) :=
  match call.materialize platform constraints rows with
  | .error failure => .error failure
  | .ok (input, material) => persistCustomProfile platform versionId now clock input material rows

/-- `GetParameterProfile` -/
def getParameterProfile (versionId : List Char) (rows : List ProfileRow) : Except StableError ProfileRecord :=
  match rows.find? fun row => row.versionId = versionId with
  | none => .error
      { code := "PROFILE_NOT_FOUND", field := "", message := "Parameter profile was not found.", recoverable := false }
  | some row => .ok row.record

end Profiles
end FederatedIot
