import FederatedIot.Foundation.JsonPaths
import FederatedIot.Foundation.Outcome
import Mathlib.Data.List.Infix

namespace Foundation

/-- The double nearest to a fraction. -/
def Double.ofFraction (numerator denominator : Nat) : Double :=
  if finite : Binary64.overflows (Binary64.round (numerator / denominator)) = false then
    { negative := false
      magnitude := Binary64.round (numerator / denominator)
      nonnegative := Binary64.round_nonneg (by positivity)
      rounded := Binary64.round_round _
      finite := finite }
  else
    { negative := false, magnitude := 0, nonnegative := le_refl 0, rounded := by decide +kernel
      finite := by decide +kernel }

/-- The number of a double. -/
def Double.value (double : Double) : Rat :=
  if double.negative then -double.magnitude else double.magnitude

end Foundation

namespace FederatedIot
namespace Profiles

open Foundation Foundation.JsonText Foundation.Outcome

/-!
# Parameter constraints

A deployment supplies one constraint for every leaf of the reference parameters.
A custom profile gives a value to every leaf and, for each agent, to some of
them.  Each value has to satisfy the constraint of its path.
-/

/-- A decoded value of any type. -/
abbrev Value := Document Double

/-- The members of a decoded object, in some order. -/
abbrev Members := List (List Char × Value)

/-- A decoded object has no name twice. -/
structure Object where
  members : Members
  distinct : (Document.object members).Distinct

/-! ## Constraints -/

inductive ParameterType where
  | integer | number | boolean | string
  | unsupported (name : String)
  deriving DecidableEq

/-- The validation rule of one leaf.  An absent bound is not applied. -/
structure Constraint where
  type : ParameterType
  editable : Bool
  nullable : Bool
  minimum : Option Double
  maximum : Option Double
  allowedValues : Option (List Value)

/-- The allowlist of a deployment. -/
structure ConstraintDocument where
  contractVersion : String
  paths : List (List Char × Constraint)
  distinct : (paths.map Prod.fst).Nodup

/-- `parameters.ContractVersion` -/
def parametersContractVersion : String :=
  "parameter-constraints.v1"

/-- An override of some parameters of one agent. -/
structure AgentOverride where
  agent : Int
  segment : List Char
  parameters : Option Object

structure MaterializedProfile where
  shared : Members
  agents : List Value

structure ValidationError where
  code : String
  field : List Char
  message : String
  deriving DecidableEq

/-- What stops a materialization: an error of the request, one of the deployment, or a slice
beyond the end of a text. -/
inductive MaterializeFailure where
  | validation (error : ValidationError)
  | reference
  | panic
  deriving DecidableEq

/-! ## Values -/

def asNumber : Value -> Option Rat
  | .number double => some double.value
  | _ => none

/-- An integer in the range of the type `int`. -/
def asInteger (value : Value) : Option Int :=
  (asNumber value).bind fun number =>
    if number.den = 1 ∧ -2 ^ 63 ≤ number ∧ number ≤ 2 ^ 63 then some number.num else none

/-- Numbers are compared as numbers, and other leaves as they are. -/
def valuesEqual : Value -> Value -> Bool
  | .number left, .number right => left.value = right.value
  | .null, .null => true
  | .bool left, .bool right => left = right
  | .string left, .string right => left = right
  | _, _ => false

namespace Constraint

def validateValueWithoutAllowed (constraint : Constraint) (value : Value) : Bool :=
  match value with
  | .null => constraint.nullable
  | value =>
      match constraint.type with
      | .boolean => match value with
          | .bool _ => true
          | _ => false
      | .string => match value with
          | .string _ => true
          | _ => false
      | .unsupported _ => false
      | .integer | .number => match asNumber value with
          | none => false
          | some numeric =>
              (constraint.type = .number || numeric.den = 1) &&
                constraint.minimum.all (fun minimum => minimum.value ≤ numeric) &&
                constraint.maximum.all (fun maximum => numeric ≤ maximum.value)

def validateValue (constraint : Constraint) (value : Value) : Bool :=
  constraint.validateValueWithoutAllowed value &&
    match value, constraint.allowedValues with
    | .null, _ => true
    | _, none => true
    | value, some allowedValues => allowedValues.any (valuesEqual value)

end Constraint

/-! ## The reference -/

mutual

/-- The leaves of a tree with their paths.  No group is empty. -/
def flattenReference (path : List Char) : Value -> Option Members
  | .object [] => none
  | .object (member :: rest) => flattenMembers path (member :: rest)
  | leaf => some [(path, leaf)]

def flattenMembers (path : List Char) : Members -> Option Members
  | [] => some []
  | (key, nested) :: rest =>
      (flattenReference (if path = [] then key else path ++ '.' :: key) nested).bind fun leaves =>
        (flattenMembers path rest).map fun others => leaves ++ others

end

/-- `fixedPaths` -/
def fixedPaths : List (List Char) :=
  ["split.agent_count".toList, "global_surrogate.leave_one_out".toList]

namespace ConstraintDocument

variable (document : ConstraintDocument)

def constraint? (path : List Char) : Option Constraint :=
  (document.paths.find? fun entry => entry.1 = path).map Prod.snd

/-- The document is a complete allowlist for the reference. -/
def validateReference (reference : Value) : Bool :=
  document.contractVersion = parametersContractVersion && document.paths ≠ [] &&
    match flattenReference [] reference with
    | none => false
    | some flattened =>
        let leaves := Document.keepLast flattened
        leaves.length = document.paths.length &&
          (leaves.all fun leaf => (document.constraint? leaf.1).any fun constraint => constraint.validateValue leaf.2) &&
          (document.paths.all fun entry => leaves.any fun leaf => leaf.1 = entry.1) &&
          document.paths.all fun entry => entry.2.editable != fixedPaths.contains entry.1

end ConstraintDocument

/-! ## Errors -/

def unknownPath (field : List Char) : MaterializeFailure :=
  .validation { code := "PARAMETER_NOT_ALLOWED", field, message := "Parameter path is not editable." }

def missingPath (field : List Char) : MaterializeFailure :=
  .validation { code := "REQUEST_INVALID", field, message := "Every editable shared parameter must be supplied." }

def typeError (field : List Char) : MaterializeFailure :=
  .validation { code := "PARAMETER_OUT_OF_RANGE", field, message := "Parameter value has an invalid type." }

/-- `strings.TrimPrefix` -/
def trimPrefix (text start : List Char) : List Char :=
  if start <+: text then text.drop start.length else text

/-- `strings.Index` -/
def indexOf (text marker : List Char) : Option Nat :=
  (List.range (text.length + 1)).find? fun index => marker <+: text.drop index

def parametersMarker : List Char :=
  ".parameters".toList

/-- `agentParameterPrefix`.  The slice goes one character beyond the marker. -/
def agentParameterPrefix (field : List Char) : Option (List Char) :=
  match indexOf field parametersMarker with
  | none => some []
  | some index =>
      if index + parametersMarker.length + 1 ≤ field.length then
        some (field.take (index + parametersMarker.length + 1))
      else none

namespace ConstraintDocument

variable (document : ConstraintDocument)

def validateLeaf (path field : List Char) (value : Value) : Except MaterializeFailure Unit :=
  match document.constraint? path with
  | none => .error (unknownPath field)
  | some constraint => do
      require (constraint.editable = true ∨ indexOf field parametersMarker = none)
        (.validation
          { code := "PARAMETER_NOT_ALLOWED", field
            message := "This fixed S1 parameter cannot be overridden for an Agent." })
      require (constraint.validateValue value = true)
        (.validation
          { code := "PARAMETER_OUT_OF_RANGE", field
            message := "Parameter value does not satisfy its declared constraint." })

/-! ## Complete and sparse objects -/

/-- Whether a leaf may be changed. -/
def isEditable (path : List Char) : Bool :=
  (document.constraint? path).any Constraint.editable

/-- Every name of the object is one of the reference. -/
def requireKnown (field : List Char) (reference actual : Members) : Except MaterializeFailure Unit :=
  match actual.find? fun member => member.1 ∉ reference.map Prod.fst with
  | none => .ok Unit.unit
  | some member => .error (unknownPath (field ++ '.' :: member.1))

/-- A leaf of a complete object. -/
def completeLeaf (field : List Char) (reference actual : Value) : Except MaterializeFailure Value := do
  let path := trimPrefix field "shared_parameters.".toList
  document.validateLeaf path field actual
  require (document.isEditable path = true ∨ valuesEqual actual reference = true)
    (.validation
      { code := "PARAMETER_NOT_ALLOWED", field
        message := "This fixed S1 parameter must retain its reference value." })
  return actual

mutual

/-- One value of a complete object, against the value of the reference. -/
def completeValue (field : List Char) : (reference actual : Value) -> Except MaterializeFailure Value
  | .object reference, .object actual => do
      requireKnown field reference actual
      let completed ← completeMembers field reference actual
      return .object completed
  | .object _, _ => .error (typeError field)
  | reference, actual => document.completeLeaf field reference actual

/-- The values of a complete object in the order of the reference. -/
def completeMembers (field : List Char) : (reference actual : Members) -> Except MaterializeFailure Members
  | [], _ => .ok []
  | (key, referenceValue) :: rest, actual =>
      match Document.member? key actual with
      | none => .error (missingPath (field ++ '.' :: key))
      | some actualValue => do
          let value ← completeValue (field ++ '.' :: key) referenceValue actualValue
          let others ← completeMembers field rest actual
          return (key, value) :: others

end

def validateCompleteObject (field : List Char) (reference actual : Members) : Except MaterializeFailure Members := do
  requireKnown field reference actual
  document.completeMembers field reference actual

/-- A leaf of a sparse object.  The path is what stands behind the prefix of the agent. -/
def sparseLeaf (field key : List Char) (value : Value) : Except MaterializeFailure Value :=
  match agentParameterPrefix field with
  | none => .error .panic
  | some start => do
      document.validateLeaf (trimPrefix (field ++ '.' :: key) start) (field ++ '.' :: key) value
      return value

mutual

/-- One value of a sparse object, against the value of the reference. -/
def sparseValue (field key : List Char) : (value reference : Value) -> Except MaterializeFailure Value
  | .object nested, .object reference => do
      let result ← sparseMembers (field ++ '.' :: key) reference nested
      return .object result
  | _, .object _ => .error (typeError (field ++ '.' :: key))
  | value, _ => document.sparseLeaf field key value

/-- `validateSparseObject` -/
def sparseMembers (field : List Char) (reference : Members) : Members -> Except MaterializeFailure Members
  | [] => .ok []
  | (key, value) :: rest =>
      match Document.member? key reference with
      | none => .error (unknownPath (field ++ '.' :: key))
      | some referenceValue => do
          let result ← sparseValue field key value referenceValue
          let others ← sparseMembers field reference rest
          return (key, result) :: others

end

end ConstraintDocument

/-! ## Agents -/

/-- The number of an agent as it is encoded. -/
def agentNumber (agent : Int) : Value :=
  .number (Double.ofFraction agent.toNat 1)

/-- One object of the reference agents. -/
def addSegment (segments : List (Int × List Char)) (raw : Value) : Option (List (Int × List Char)) :=
  match raw with
  | .object members =>
      match (Document.member? "agent".toList members).bind asInteger, Document.member? "segment".toList members with
      | some agent, some (.string segment) =>
          if agent < 1 ∨ 3 < agent ∨ ((segments.lookup agent).any fun earlier => earlier ≠ []) = true then none
          else some ((segments.filter fun entry => entry.1 ≠ agent) ++ [(agent, segment)])
      | _, _ => none
  | _ => none

/-- `referenceAgentSegments` -/
def referenceAgentSegments (reference : List Value) : Option (List (Int × List Char)) :=
  (reference.foldlM addSegment []).bind fun segments =>
    if segments.lookup 1 = some "EARLY".toList ∧ segments.lookup 2 = some "MIDDLE".toList ∧
        segments.lookup 3 = some "LATE".toList then
      some segments
    else none

/-- `agents[%d]` and a name -/
def agentField (agent : Int) (name : String) : List Char :=
  ("agents[" ++ toString agent ++ "]." ++ name).toList

namespace ConstraintDocument

variable (document : ConstraintDocument)

/-- The object that is stored for an agent. -/
def agentObject (agent : Int) (segment : List Char) (override : Members) : Value :=
  .object
    [("agent".toList, agentNumber agent), ("segment".toList, .string segment), ("parameters".toList, .object override)]

def repeatedAgent : MaterializeFailure :=
  .validation
    { code := "REQUEST_INVALID", field := "agents".toList
      message := "agents must contain each of 1, 2, and 3 exactly once." }

/-- The entry for one override. -/
def agentEntry (reference : Members) (expected : List (Int × List Char)) (agent : AgentOverride) :
    Except MaterializeFailure (Int × Value) := do
  let segment ← (expected.lookup agent.agent).elim (.error repeatedAgent) .ok
  require (agent.segment = [] ∨ agent.segment = segment)
    (.validation
      { code := "PARAMETER_NOT_ALLOWED", field := agentField agent.agent "segment"
        message := "Agent segment is fixed by the S1 topology." })
  let parameters ← agent.parameters.elim
    (.error (.validation
      { code := "REQUEST_INVALID", field := agentField agent.agent "parameters"
        message := "Agent parameters must be an object." })) .ok
  let override ← document.sparseMembers (agentField agent.agent "parameters") reference parameters.members
  return (agent.agent, agentObject agent.agent segment override)

/-- The turn of one override in the loop over the agents. -/
def materializeAgent (reference : Members) (expected : List (Int × List Char))
    (done : List (Int × Value)) (agent : AgentOverride) : Except MaterializeFailure (List (Int × Value)) := do
  require (agent.agent ∉ done.map Prod.fst) repeatedAgent
  let entry ← document.agentEntry reference expected agent
  return done ++ [entry]

/-- The overrides by the numbers of their agents. -/
def orderAgents (agents : List (Int × Value)) : List Value :=
  (agents.insertionSort fun left right => left.1 ≤ right.1).map Prod.snd

/-- `Materialize` -/
def materialize (referenceShared : Members) (referenceAgents : List Value) (shared : Option Object)
    (agents : List AgentOverride) : Except MaterializeFailure MaterializedProfile := do
  require (document.validateReference (.object referenceShared) = true) .reference
  let shared ← shared.elim
    (.error (.validation
      { code := "REQUEST_INVALID", field := "shared_parameters".toList
        message := "shared_parameters must contain every editable reference parameter." })) .ok
  let completed ← document.validateCompleteObject "shared_parameters".toList referenceShared shared.members
  let expected ← (referenceAgentSegments referenceAgents).elim (.error .reference) .ok
  require (agents.length = expected.length)
    (.validation
      { code := "REQUEST_INVALID", field := "agents".toList
        message := "agents must contain exactly Agent 1, Agent 2, and Agent 3." })
  let materialized ← agents.foldlM (document.materializeAgent referenceShared expected) []
  return { shared := completed, agents := orderAgents materialized }

end ConstraintDocument

end Profiles
end FederatedIot
