import FederatedIot.Profiles.Reordering
import FederatedIot.Profiles.Repository

namespace FederatedIot
namespace Profiles

open Foundation Foundation.JsonText Foundation.JsonText.Document Foundation.Outcome Queue

/-!
# Exported profiles

The export of a profile is the document that also answers a request for it.  An import
reads that document again, whatever the order of its members, and passes what it needs of
it to the repository.
-/

/-! ## Responses -/

/-- The name of a type in the constraints. -/
def ParameterType.name : ParameterType -> String
  | .integer => "integer"
  | .number => "number"
  | .boolean => "boolean"
  | .string => "string"
  | .unsupported name => name

def optionalNumber (bound : Option Double) : Value :=
  bound.elim .null .number

def Constraint.response (constraint : Constraint) : Value :=
  .object
    [word "type" constraint.type.name, flag "editable" constraint.editable, flag "nullable" constraint.nullable,
      ("minimum".toList, optionalNumber constraint.minimum), ("maximum".toList, optionalNumber constraint.maximum),
      ("allowed_values".toList, constraint.allowedValues.elim .null .array)]

/-- `APIResponse` -/
def ConstraintDocument.apiResponse (document : ConstraintDocument) : Value :=
  .object
    [word "contract_version" document.contractVersion,
      group "paths" (document.paths.map fun entry => (entry.1, entry.2.response))]

/-- `EditablePaths` -/
def ConstraintDocument.editablePaths (document : ConstraintDocument) : List (List Char) :=
  ((document.paths.filter fun entry => entry.2.editable).map Prod.fst).insertionSort fun first second =>
    textLe first second = true

/-- `rawOrObject` -/
def rawOrObject (text : List Char) : Value :=
  (unmarshal text).getD .null

def profileMembers (platform : ProfilePlatform) (document : ConstraintDocument) (record : ProfileRecord) : Members :=
  [("version_id".toList, .string record.versionId), word "mode" record.mode.text,
    ("display_name".toList, .string record.displayName),
    ("base_version_id".toList, record.baseVersionId.elim .null .string), flag "immutable" record.immutable,
    ("contract_version".toList, .string parameterContractVersion),
    ("shared_parameters".toList, rawOrObject record.shared), ("agents".toList, rawOrObject record.agents),
    ("fixed_items".toList, rawOrObject record.fixedItems), ("constraints".toList, document.apiResponse),
    ("editable_paths".toList, .array (document.editablePaths.map .string)),
    ("normalized_sha256".toList, .string record.normalizedSha256),
    ("created_at".toList, .string (platform.formatTime record.createdAt)),
    ("updated_at".toList, .string (platform.formatTime record.updatedAt))]

/-- `profileResponse` -/
def profileResponse (platform : ProfilePlatform) (document : ConstraintDocument) (record : ProfileRecord) : Value :=
  .object (profileMembers platform document record)

/-- `exportParameterProfile`, up to the body of its answer. -/
def exportParameterProfile (platform : ProfilePlatform) (constraints : Option ConstraintDocument)
    (versionId : List Char) (rows : List ProfileRow) : Except StableError (List Char) := do
  let record ← getParameterProfile versionId rows
  let document ← verifyParameterConstraints constraints
  return marshal (profileResponse platform document record)

/-! ## Bodies -/

/-- The members of a body with no field that is not known. -/
def knownFields (names : List String) : Value -> Option Members
  | .null => some []
  | .object members => if members.all (fun member => member.1 ∈ names.map String.toList) = true then some members else none
  | _ => none

/-- A field of the type `string`.  It may be absent. -/
def textField (name : String) (members : Members) : Option (List Char) :=
  match Document.member? name.toList members with
  | none | some .null => some []
  | some (.string text) => some text
  | some _ => none

/-- A field of the type `bool`. -/
def boolField (name : String) (members : Members) : Option Bool :=
  match Document.member? name.toList members with
  | none | some .null => some false
  | some (.bool value) => some value
  | some _ => none

/-- A field of the type `int`. -/
def intField (name : String) (members : Members) : Option Int :=
  match Document.member? name.toList members with
  | none | some .null => some 0
  | some (.number double) =>
      if double.value.den = 1 ∧ -2 ^ 63 ≤ double.value ∧ double.value < 2 ^ 63 then some double.value.num else none
  | some _ => none

/-- A map with the last member of every name. -/
def Object.ofMembers (members : Members) : Object where
  members := keepLast (collapseMembers members)
  distinct := distinct_collapse (.object members)

/-- A field of the type `map[string]any`. -/
def mapField (name : String) (members : Members) : Option (Option Object) :=
  match Document.member? name.toList members with
  | none | some .null => some none
  | some (.object fields) => some (some (Object.ofMembers fields))
  | some _ => none

/-- A field that is a list. -/
def listField {Item : Type} (readItem : Value -> Option Item) (name : String) (members : Members) : Option (List Item) :=
  match Document.member? name.toList members with
  | none | some .null => some []
  | some (.array items) => items.mapM readItem
  | some _ => none

/-- `profileImportAgent` -/
def importAgent (value : Value) : Option AgentOverride := do
  let members ← knownFields ["agent", "segment", "parameters"] value
  let agent ← intField "agent" members
  let segment ← textField "segment" members
  let parameters ← mapField "parameters" members
  return { agent, segment, parameters }

/-- An element of a list of strings. -/
def importPath : Value -> Option (List Char)
  | .null => some []
  | .string path => some path
  | _ => none

/-- The fields that an import knows. -/
def importFields : List String :=
  ["version_id", "mode", "display_name", "base_version_id", "contract_version", "shared_parameters", "agents",
    "fixed_items", "normalized_sha256", "immutable", "created_at", "updated_at", "constraints", "editable_paths"]

/-- What `importParameterProfile` decodes of its body. -/
def decodeImport (body : Value) : Option ImportProfileInput := do
  let members ← knownFields importFields body
  let _ ← textField "version_id" members
  let mode ← textField "mode" members
  let displayName ← textField "display_name" members
  let baseVersionId ← textField "base_version_id" members
  let contractVersion ← textField "contract_version" members
  let shared ← mapField "shared_parameters" members
  let agents ← listField importAgent "agents" members
  let fixedItems ← mapField "fixed_items" members
  let normalizedSha256 ← textField "normalized_sha256" members
  let immutable ← boolField "immutable" members
  let _ ← textField "created_at" members
  let _ ← textField "updated_at" members
  let _ ← listField importPath "editable_paths" members
  return {
    input := { displayName, baseVersionId, shared, agents }
    contractVersion, mode, fixedItems, normalizedSha256, immutable }

def requestJsonError : StableError :=
  { code := "REQUEST_INVALID", field := "", message := "Request JSON is invalid.", recoverable := true }

def importModeError : StableError :=
  { code := "REQUEST_INVALID", field := "mode", message := "mode must be REFERENCE or CUSTOM.", recoverable := true }

/-- `importParameterProfile`, up to the record that it answers with. -/
def importParameterProfile (platform : ProfilePlatform) (constraints : Option ConstraintDocument)
    (versionId : List Char) (now clock : Queue.Instant) (body : List Char) (rows : List ProfileRow) :
    Except Failure (List ProfileRow × ProfileRecord × Bool) := do
  let input ← ((unmarshal body).bind decodeImport).elim (.error (.stable requestJsonError)) .ok
  require (input.mode ∈ [[], RunMode.reference.text.toList, RunMode.custom.text.toList]) (.stable importModeError)
  ProfileCall.perform platform constraints versionId now clock (.import input) rows

/-! ## The same body -/

section Fields

variable {name : String} {members others : Members}

/-- The fields of an object in any order, as far as their values have distinct names. -/
structure SameFields (members others : Members) : Prop where
  names : (members.map Prod.fst).Perm (others.map Prod.fst)
  found : forall {name value}, member? name members = some value -> value.Distinct ->
    exists other, member? name others = some other ∧ Same value other

theorem SameFields.of_same (same : Same (.object members) (.object others)) (distinct : (Document.object members).Distinct)
    (otherDistinct : (Document.object others).Distinct) : SameFields members others where
  names := same.names
  found present _ := same.found distinct.names otherDistinct.names present

/-- The fields of a document that was sent, decoded and put in another order. -/
theorem SameFields.of_decoded {received sent : Value} (nodup : (members.map Prod.fst).Nodup)
    (decoded : unmarshal (marshal (.object members)) = some received) (reorder : Reorder received sent) :
    exists others, sent = .object others ∧ SameFields members others := by
  have sortedNames : ((orderMembers byText (sortMembers byText members)).map Prod.fst).Perm (members.map Prod.fst) := by
    have perm : ((orderMembers byText (sortMembers byText members)).map Prod.fst).Perm ((sortMembers byText members).map Prod.fst) :=
      (orderMembers_perm _).map Prod.fst
    rw [sortMembers_eq, List.map_map] at perm
    rw [sortMembers_eq]
    exact perm
  have names : (collapseMembers (orderMembers byText (sortMembers byText members))).map Prod.fst =
      (orderMembers byText (sortMembers byText members)).map Prod.fst := by
    rw [collapseMembers_eq, List.map_map]
    rfl
  have collapsedNodup : ((collapseMembers (orderMembers byText (sortMembers byText members))).map Prod.fst).Nodup := by
    rw [names]
    exact sortedNames.nodup_iff.mpr nodup
  have isReceived : received = .object (collapseMembers (orderMembers byText (sortMembers byText members))) := by
    rw [unmarshal_marshal_collapse] at decoded
    refine (Option.some.inj decoded).symm.trans ?_
    exact congrArg Document.object (keepLast_of_nodup collapsedNodup)
  have distinct := distinct_of_unmarshal decoded
  have same := reorder.same distinct
  rw [isReceived] at same
  rcases same.object_left with ⟨others, rfl⟩
  have otherNodup := (reorder.distinct distinct).names
  refine ⟨others, rfl, ?_, ?_⟩
  · rw [← names] at sortedNames
    exact sortedNames.symm.trans same.names
  · intro name value present valueDistinct
    have isSorted : member? name (collapseMembers (orderMembers byText (sortMembers byText members))) =
        some (value.sort byText) := by
      rw [collapseMembers_eq, member?_map, member?_sorted nodup, present]
      exact congrArg some (valueDistinct.sort byText).collapse
    rcases same.found collapsedNodup otherNodup isSorted with ⟨other, isOther, held⟩
    exact ⟨other, isOther, ((reorder_sort byText value).same valueDistinct).trans held⟩

theorem SameFields.scalar (fields : SameFields members others) {name : List Char} {value : Value}
    (present : member? name members = some value) (scalar : value.isScalar = true) : member? name others = some value := by
  rcases fields.found present (Distinct.of_scalar scalar) with ⟨other, isOther, same⟩
  rw [isOther, same.eq_of_scalar scalar]

theorem SameFields.known (fields : SameFields members others) {names : List String}
    (each : ∀ name ∈ members.map Prod.fst, name ∈ names.map String.toList) :
    knownFields names (.object others) = some others := by
  refine if_pos (List.all_eq_true.mpr fun member inside => decide_eq_true ?_)
  exact each _ (fields.names.mem_iff.mpr (List.mem_map_of_mem inside))

theorem SameFields.textField (fields : SameFields members others) {text : List Char}
    (present : member? name.toList members = some (.string text)) : textField name others = some text := by
  rw [Profiles.textField, fields.scalar present rfl]

theorem SameFields.boolField (fields : SameFields members others) {value : Bool}
    (present : member? name.toList members = some (.bool value)) : boolField name others = some value := by
  rw [Profiles.boolField, fields.scalar present rfl]

theorem Object.ofMembers_members {members : Members} (distinct : (Document.object members).Distinct) :
    (Object.ofMembers members).members = members :=
  Document.object.inj distinct.collapse

/-- A map is read up to its order. -/
theorem SameFields.mapField (fields : SameFields members others) {nested : Members} {value : Value}
    (present : member? name.toList members = some value) (same : Same (.object nested) value)
    (distinct : value.Distinct) (otherDistinct : (Document.object others).Distinct) :
    exists object, mapField name others = some (some object) ∧ Same (.object nested) (.object object.members) := by
  rcases fields.found present distinct with ⟨other, isOther, sameOther⟩
  rcases (same.trans sameOther).object_left with ⟨given, rfl⟩
  refine ⟨Object.ofMembers given, ?_, ?_⟩
  · rw [Profiles.mapField, isOther]
  · rw [Object.ofMembers_members (otherDistinct.member isOther)]
    exact same.trans sameOther

/-- A list whose items are read is read. -/
theorem mapM_exists {Item : Type} {readItem : Value -> Option Item} {Source : Type} {related : Source -> Item -> Prop}
    {sources : List Source} {items : List Value} {given : Source -> Value}
    (each : ∀ source ∈ sources, forall item, Same (given source) item -> item.Distinct ->
      exists read, readItem item = some read ∧ related source read)
    (same : List.Forall₂ Same (sources.map given) items) (distinct : ∀ item ∈ items, item.Distinct) :
    exists reads, items.mapM readItem = some reads ∧ List.Forall₂ related sources reads := by
  induction sources generalizing items with
  | nil =>
      cases same
      exact ⟨[], rfl, List.Forall₂.nil⟩
  | cons source rest inductionHypothesis =>
      rw [List.map_cons] at same
      cases same with
      | @cons _ item _ others sameItem sameRest =>
          rcases each source List.mem_cons_self item sameItem (distinct item List.mem_cons_self) with ⟨read, isRead, held⟩
          rcases inductionHypothesis (fun other inside => each other (List.mem_cons_of_mem _ inside)) sameRest
            (fun other inside => distinct other (List.mem_cons_of_mem _ inside)) with ⟨reads, areRead, all⟩
          refine ⟨read :: reads, ?_, List.Forall₂.cons held all⟩
          rw [List.mapM_cons, isRead, areRead]
          rfl

/-- A list is read when its items are. -/
theorem SameFields.listField (fields : SameFields members others) {Item : Type} {readItem : Value -> Option Item}
    {Source : Type} {related : Source -> Item -> Prop} {sources : List Source} {given : Source -> Value} {value : Value}
    (present : member? name.toList members = some value) (same : Same (.array (sources.map given)) value)
    (distinct : value.Distinct) (otherDistinct : (Document.object others).Distinct)
    (each : ∀ source ∈ sources, forall item, Same (given source) item -> item.Distinct ->
      exists read, readItem item = some read ∧ related source read) :
    exists reads, listField readItem name others = some reads ∧ List.Forall₂ related sources reads := by
  rcases fields.found present distinct with ⟨other, isOther, sameOther⟩
  rcases (same.trans sameOther).array_left with ⟨items, rfl, sameItems⟩
  rcases mapM_exists each sameItems fun item => (otherDistinct.member isOther).item with ⟨reads, areRead, all⟩
  refine ⟨reads, ?_, all⟩
  rw [Profiles.listField, isOther]
  exact areRead

end Fields

/-! ## Agents -/

namespace ConstraintDocument

theorem agentObject_names (agent : Int) (segment : List Char) (override : Members) :
    ([("agent".toList, agentNumber agent), ("segment".toList, .string segment),
      ("parameters".toList, .object override)].map (Prod.fst : List Char × Value -> List Char)).Nodup := by
  change (["agent", "segment", "parameters"].map String.toList).Nodup
  decide

theorem distinct_agentObject (agent : Int) (override : Object) :
    (agentObject agent (fixedSegment agent) override.members).Distinct := by
  refine Distinct.object (agentObject_names _ _ _) fun member inside => ?_
  simp only [List.mem_cons, List.not_mem_nil, or_false] at inside
  rcases inside with rfl | rfl | rfl
  · exact Distinct.number _
  · exact Distinct.string _
  · exact override.distinct

/-- The object of an agent is read as an override for it. -/
theorem importAgent_same {agent : Int} (known : agent ∈ agentNumbers) (override : Object) {other : Value}
    (same : Document.Same (agentObject agent (fixedSegment agent) override.members) other) (distinct : other.Distinct) :
    exists given, importAgent other = some given ∧
      (AgentOverride.mk agent (fixedSegment agent) (some override)).Same given := by
  rcases same.object_left with ⟨others, rfl⟩
  have fields := SameFields.of_same same (distinct_agentObject agent override) distinct
  have isKnown : knownFields ["agent", "segment", "parameters"] (.object others) = some others :=
    fields.known fun name inside => inside
  have isAgent : intField "agent" others = some agent := by
    have number : ∀ agent ∈ agentNumbers, intField "agent" [("agent".toList, agentNumber agent)] = some agent := by
      decide +kernel
    have present : member? "agent".toList others = some (agentNumber agent) := fields.scalar rfl rfl
    rw [intField, present]
    exact number agent known
  have isSegment : textField "segment" others = some (fixedSegment agent) := fields.textField rfl
  rcases @SameFields.mapField "parameters" _ _ fields override.members _ rfl (Same.refl _) override.distinct distinct with
    ⟨object, isObject, sameObject⟩
  refine ⟨{ agent, segment := fixedSegment agent, parameters := some object }, ?_, rfl, Or.inr rfl, ?_⟩
  · rw [importAgent, isKnown]
    change (intField "agent" others).bind _ = _
    rw [isAgent, Option.bind_some, isSegment]
    change (mapField "parameters" others).bind _ = _
    rw [isObject]
    rfl
  · exact Option.Rel.some sameObject

end ConstraintDocument

end Profiles
end FederatedIot
