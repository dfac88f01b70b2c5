import FederatedIot.Foundation.Decoding

namespace FederatedIot
namespace Frontend

open Foundation

/-!
# The parameters on display

The rail of a run and the details of its snapshot show the parameters of each
agent: the shared tree of the frozen profile with the sparse parameters of the
agent laid over it.
-/

mutual

/-- `cloneJson`: an infinity has no text. -/
def cloneJson : JsValue -> JsValue
  | .infinite _ => .null
  | .array items => .array (cloneItems items)
  | .object fields => .object (cloneFields fields)
  | other => other

def cloneItems : List JsValue -> List JsValue
  | [] => []
  | item :: rest => cloneJson item :: cloneItems rest

def cloneFields : List (String × JsValue) -> List (String × JsValue)
  | [] => []
  | (name, value) :: rest => (name, cloneJson value) :: cloneFields rest

end

/-- `cloneJson(shared ?? {})` as an object whose fields can be set.  A primitive
has no such fields, and an array with names is not a document. -/
def mergeTarget : Option JsValue -> Option (List (String × JsValue))
  | none | some .null => some []
  | some (.object fields) => some (cloneFields fields)
  | _ => none

mutual

/-- The loop of `mergeParameterValues` over the fields of the overrides. -/
def mergeParameterEntries (merged : List (String × JsValue)) :
    List (String × JsValue) -> Except String (List (String × JsValue))
  | [] => .ok merged
  | (key, value) :: rest =>
      match mergeParameterEntry (Fields.lookup key merged) value with
      | .ok next => mergeParameterEntries (Fields.set key next merged) rest
      | .error message => .error message

/-- The value that one turn of the loop stores. -/
def mergeParameterEntry (current : Option JsValue) : JsValue -> Except String JsValue
  | .object overrides =>
      match mergeTarget current with
      | some fields =>
          match mergeParameterEntries fields overrides with
          | .ok merged => .ok (.object merged)
          | .error message => .error message
      | none =>
          match overrides with
          | [] => .ok (cloneJson (current.getD .null))
          | _ => .error "TypeError"
  | value => .ok (cloneJson value)

end

/-- `mergeParameterValues` of a shared tree and overrides that is an object. -/
def mergeParameterValues (shared : Option JsValue) (overrides : List (String × JsValue)) : Except String JsValue :=
  mergeParameterEntry shared (.object overrides)

/-- The field of a value, as optional chaining reads it. -/
def fieldOf (name : String) : JsValue -> Option JsValue
  | .object fields => Fields.lookup name fields
  | _ => none

/-- `Number(item?.agent) === agent` for an item whose agent is a number. -/
def isAgent (agent : Int) (item : JsValue) : Bool :=
  match fieldOf "agent" item with
  | some (.number value) => value = agent
  | _ => false

/-- The tree of the agent in `frozenRailGroup`. -/
def shownParameters (profile : JsValue) (agent : Int) : Except String JsValue :=
  let items := (match fieldOf "agents" profile with
    | some (.array items) => items
    | _ => [])
  let selected := items.find? (isAgent agent)
  let overrides := (match selected.bind (fieldOf "parameters") with
    | some (.object overrides) => overrides
    | _ => [])
  mergeParameterValues (fieldOf "shared_parameters" profile) overrides

/-! ## Clones -/

theorem cloneFields_eq (fields : List (String × JsValue)) :
    cloneFields fields = Fields.mapValues cloneJson fields := by
  induction fields with
  | nil => rfl
  | cons head tail inductionHypothesis =>
      rw [cloneFields, inductionHypothesis, Fields.mapValues, Fields.mapValues, List.map_cons]

mutual

theorem cloneJson_cloneJson : forall value : JsValue, cloneJson (cloneJson value) = cloneJson value
  | .null | .boolean _ | .number _ | .infinite _ | .string _ => rfl
  | .array items => congrArg JsValue.array (cloneItems_cloneItems items)
  | .object fields => congrArg JsValue.object (cloneFields_cloneFields fields)

theorem cloneItems_cloneItems : forall items : List JsValue, cloneItems (cloneItems items) = cloneItems items
  | [] => rfl
  | item :: rest => by
      rw [cloneItems, cloneItems, cloneJson_cloneJson item, cloneItems_cloneItems rest]

theorem cloneFields_cloneFields : forall fields : List (String × JsValue),
    cloneFields (cloneFields fields) = cloneFields fields
  | [] => rfl
  | (name, value) :: rest => by
      rw [cloneFields, cloneFields, cloneJson_cloneJson value, cloneFields_cloneFields rest]

end

/-- The loop of `mergeParameterValues` is an overlay. -/
theorem mergeParameterEntries_eq (merged entries : List (String × JsValue)) :
    mergeParameterEntries merged entries = Fields.overlay mergeParameterEntry merged entries := by
  induction entries generalizing merged with
  | nil => rfl
  | cons head tail inductionHypothesis =>
      rw [mergeParameterEntries, Fields.overlay]
      cases mergeParameterEntry (Fields.lookup head.1 merged) head.2 with
      | ok next => exact inductionHypothesis _
      | error message => rfl

theorem mergeParameterEntry_object {current : Option JsValue} {fields overrides merged : List (String × JsValue)}
    (target : mergeTarget current = some fields) (done : mergeParameterEntries fields overrides = .ok merged) :
    mergeParameterEntry current (.object overrides) = .ok (.object merged) := by
  unfold mergeParameterEntry
  simp only [target, done]

end Frontend
end FederatedIot
