import Mathlib.Algebra.Group.Nat.Defs
import Mathlib.Algebra.Ring.Int.Defs
import Mathlib.Data.List.Basic
import Mathlib.Data.List.Sort

namespace Foundation

/-!
# JSON values and three-valued conditions

Numbers are decimal literals.  A literal keeps its scale, so that the text of
`1.0` differs from the text of `1` although the two compare as equal.  Objects
are lists of fields; the readers below take the first field of a name.

A condition over columns that may be absent has three truth values.  A branch
on such a condition is taken only when the condition is true, so an unknown
condition behaves as a false one there but not under negation.
-/

/-- A condition of a query: true, false, or unknown. -/
abbrev Truth := Option Bool

namespace Truth

def not : Truth -> Truth
  | some value => some (!value)
  | none => none

/-- Disjunction is true as soon as one side is, even beside an unknown. -/
def or : Truth -> Truth -> Truth
  | some true, _ => some true
  | _, some true => some true
  | some false, some false => some false
  | _, _ => none

/-- Conjunction is false as soon as one side is. -/
def and : Truth -> Truth -> Truth
  | some false, _ => some false
  | _, some false => some false
  | some true, some true => some true
  | _, _ => none

/-- `left <> right`, unknown when a side is absent. -/
def differs {α : Type*} [DecidableEq α] : Option α -> Option α -> Truth
  | some left, some right => some (decide (left ≠ right))
  | _, _ => none

/-- `value NOT IN (choices)`, unknown when the value is absent. -/
def notIn {α : Type*} [DecidableEq α] (value : Option α) (choices : List α) : Truth :=
  value.map fun present => decide (present ∉ choices)

/-- Whether a branch guarded by the condition is taken. -/
def taken (condition : Truth) : Bool :=
  condition == some true

/-- The disjunction of a list of conditions. -/
def any (conditions : List Truth) : Truth :=
  conditions.foldr or (some false)

@[simp]
theorem taken_or (left right : Truth) : (or left right).taken = (left.taken || right.taken) := by
  rcases left with _ | (_ | _) <;> rcases right with _ | (_ | _) <;> rfl

theorem taken_any (conditions : List Truth) :
    (any conditions).taken = conditions.any taken := by
  induction conditions with
  | nil => rfl
  | cons head tail inductionHypothesis =>
      change (or head (any tail)).taken = (head.taken || tail.any taken)
      rw [taken_or, inductionHypothesis]

theorem differs_not_taken {α : Type*} [DecidableEq α] {left right : Option α} {value : α}
    (passed : (differs left right).taken = false) (present : right = some value) :
    left = none ∨ left = some value := by
  subst present
  cases left with
  | none => exact Or.inl rfl
  | some other =>
      right
      by_contra different
      have apart : other ≠ value := fun same => different (congrArg some same)
      simp [differs, taken, apart] at passed

theorem differs_taken_iff {α : Type*} [DecidableEq α] {left : Option α} {value : α} :
    (differs left (some value)).taken = true ↔ ∃ present, left = some present ∧ present ≠ value := by
  cases left with
  | none => simp [differs, taken]
  | some present => simp [differs, taken]

theorem notIn_taken_iff {α : Type*} [DecidableEq α] {value : Option α} {choices : List α} :
    (notIn value choices).taken = true ↔ ∃ present, value = some present ∧ present ∉ choices := by
  cases value with
  | none => simp [notIn, taken]
  | some present => simp [notIn, taken]

end Truth

/-- A decimal literal: an integer divided by a power of ten. -/
structure Decimal where
  mantissa : Int
  scale : Nat
  deriving DecidableEq, Repr

namespace Decimal

def ofInt (value : Int) : Decimal :=
  ⟨value, 0⟩

/-- Equality of the denoted numbers, whatever the scales. -/
def equals (left right : Decimal) : Bool :=
  left.mantissa * 10 ^ right.scale == right.mantissa * 10 ^ left.scale

/-- The literal with exactly `scale` digits after the point. -/
def text (literal : Decimal) : String :=
  let sign := if literal.mantissa < 0 then "-" else ""
  let magnitude := literal.mantissa.natAbs
  let whole := toString (magnitude / 10 ^ literal.scale)
  if literal.scale = 0 then sign ++ whole
  else
    let digits := toString (magnitude % 10 ^ literal.scale)
    let zeros := String.ofList (List.replicate (literal.scale - digits.length) '0')
    sign ++ whole ++ "." ++ zeros ++ digits

end Decimal

inductive Json where
  | null
  | bool (value : Bool)
  | number (value : Decimal)
  | string (value : String)
  | array (items : List Json)
  | object (fields : List (String × Json))

namespace Json

def ofInt (value : Int) : Json :=
  number (Decimal.ofInt value)

def ofNat (value : Nat) : Json :=
  ofInt value

/-- An absent column becomes a JSON null. -/
def ofOption {α : Type*} (encode : α -> Json) : Option α -> Json
  | some value => encode value
  | none => null

mutual

def decideEq : (left right : Json) -> Decidable (left = right)
  | null, null => isTrue rfl
  | bool left, bool right => decidable_of_iff (left = right) (by simp)
  | number left, number right => decidable_of_iff (left = right) (by simp)
  | string left, string right => decidable_of_iff (left = right) (by simp)
  | array left, array right =>
      match decideEqItems left right with
      | isTrue same => isTrue (congrArg array same)
      | isFalse different => isFalse fun same => different (Json.array.inj same)
  | object left, object right =>
      match decideEqFields left right with
      | isTrue same => isTrue (congrArg object same)
      | isFalse different => isFalse fun same => different (Json.object.inj same)
  | null, bool _ | null, number _ | null, string _ | null, array _ | null, object _ =>
      isFalse nofun
  | bool _, null | bool _, number _ | bool _, string _ | bool _, array _ | bool _, object _ =>
      isFalse nofun
  | number _, null | number _, bool _ | number _, string _ | number _, array _
  | number _, object _ => isFalse nofun
  | string _, null | string _, bool _ | string _, number _ | string _, array _
  | string _, object _ => isFalse nofun
  | array _, null | array _, bool _ | array _, number _ | array _, string _ | array _, object _ =>
      isFalse nofun
  | object _, null | object _, bool _ | object _, number _ | object _, string _
  | object _, array _ => isFalse nofun

def decideEqItems : (left right : List Json) -> Decidable (left = right)
  | [], [] => isTrue rfl
  | [], _ :: _ => isFalse nofun
  | _ :: _, [] => isFalse nofun
  | left :: lefts, right :: rights =>
      match decideEq left right, decideEqItems lefts rights with
      | isTrue same, isTrue rest => isTrue (by rw [same, rest])
      | isFalse different, _ => isFalse fun same => different (List.cons.inj same).1
      | _, isFalse different => isFalse fun same => different (List.cons.inj same).2

def decideEqFields : (left right : List (String × Json)) -> Decidable (left = right)
  | [], [] => isTrue rfl
  | [], _ :: _ => isFalse nofun
  | _ :: _, [] => isFalse nofun
  | (leftName, left) :: lefts, (rightName, right) :: rights =>
      if sameName : leftName = rightName then
        match decideEq left right, decideEqFields lefts rights with
        | isTrue same, isTrue rest => isTrue (by rw [sameName, same, rest])
        | isFalse different, _ =>
            isFalse fun same => different (Prod.mk.inj (List.cons.inj same).1).2
        | _, isFalse different => isFalse fun same => different (List.cons.inj same).2
      else isFalse fun same => sameName (Prod.mk.inj (List.cons.inj same).1).1

end

instance jsonDecidableEq : DecidableEq Json :=
  decideEq

/-! ## Readers -/

/-- The field of an object, absent for other values. -/
def field? (name : String) : Json -> Option Json
  | object fields => (fields.find? fun field => field.1 = name).map Prod.snd
  | _ => none

/-- Whether an object has the field; an array or a text is asked for the name
as an element. -/
def hasKey (name : String) : Json -> Bool
  | object fields => fields.any fun field => field.1 = name
  | array items => items.any fun item => item == string name
  | string value => value = name
  | _ => false

def typeName : Json -> String
  | null => "null"
  | bool _ => "boolean"
  | number _ => "number"
  | string _ => "string"
  | array _ => "array"
  | object _ => "object"

def hexDigit (value : Nat) : Char :=
  ("0123456789abcdef".toList).getD value '0'

/-- Escape one character of a text in the store's own rendering. -/
def escapeChar (char : Char) : List Char :=
  match char with
  | '"' => ['\\', '"']
  | '\\' => ['\\', '\\']
  | '\n' => ['\\', 'n']
  | '\r' => ['\\', 'r']
  | '\t' => ['\\', 't']
  | other =>
      if other.toNat = 8 then ['\\', 'b']
      else if other.toNat = 12 then ['\\', 'f']
      else if other.toNat < 32 then
        ['\\', 'u', '0', '0', hexDigit (other.toNat / 16), hexDigit (other.toNat % 16)]
      else [other]

def quote (value : String) : String :=
  "\"" ++ String.ofList (value.toList.flatMap escapeChar) ++ "\""

mutual

/-- The text of a value as the store prints it. -/
def render : Json -> String
  | null => "null"
  | bool value => if value then "true" else "false"
  | number value => value.text
  | string value => quote value
  | array items => "[" ++ renderItems items ++ "]"
  | object fields => "\x7b" ++ renderFields fields ++ "\x7d"

def renderItems : List Json -> String
  | [] => ""
  | [last] => render last
  | item :: rest => render item ++ ", " ++ renderItems rest

def renderFields : List (String × Json) -> String
  | [] => ""
  | [(name, value)] => quote name ++ ": " ++ render value
  | (name, value) :: rest => quote name ++ ": " ++ render value ++ ", " ++ renderFields rest

end

/-- A value as text: the content of a string, nothing for null. -/
def asText : Json -> Option String
  | null => none
  | string value => some value
  | other => some (render other)

/-- The field of an object as text. -/
def text? (name : String) (value : Json) : Option String :=
  (value.field? name).bind asText

/-! ## Equality of stored values -/

mutual

/-- Equality as the store decides it: numbers by value, objects by field. -/
def equals : Json -> Json -> Bool
  | null, null => true
  | bool left, bool right => left == right
  | number left, number right => left.equals right
  | string left, string right => left == right
  | array left, array right => equalsItems left right
  | object left, object right => left.length == right.length && equalsFields left right
  | _, _ => false

def equalsItems : List Json -> List Json -> Bool
  | [], [] => true
  | left :: lefts, right :: rights => equals left right && equalsItems lefts rights
  | _, _ => false

def equalsFields : List (String × Json) -> List (String × Json) -> Bool
  | [], _ => true
  | (name, value) :: rest, others =>
      (match others.find? fun field => field.1 = name with
        | some (_, other) => equals value other
        | none => false) && equalsFields rest others

end

/-! ## Updates of objects -/

/-- Remove a field from an object. -/
def without (name : String) : Json -> Json
  | object fields => object (fields.filter fun field => !(field.1 = name))
  | other => other

/-- Replace a field of a field list, or add it at the end. -/
def setField (name : String) (value : Json) : List (String × Json) -> List (String × Json)
  | [] => [(name, value)]
  | (other, old) :: rest =>
      if other = name then (name, value) :: rest else (other, old) :: setField name value rest

/-- Concatenate two objects; the fields of the right one win. -/
def merge : Json -> Json -> Json
  | object left, object right =>
      object (right.foldl (fun fields field => setField field.1 field.2 fields) left)
  | left, _ => left

/-- Replace the value at an existing path of objects; a missing path leaves
the value as it is. -/
def replaceAt : List String -> Json -> Json -> Json
  | [], _, whole => whole
  | [name], value, object fields =>
      if fields.any fun field => field.1 = name then object (setField name value fields)
      else object fields
  | name :: rest, value, object fields =>
      object (fields.map fun field =>
        if field.1 = name then (field.1, replaceAt rest value field.2) else field)
  | _, _, other => other


mutual

def stripNulls : Json -> Json
  | array items => array (stripNullItems items)
  | object fields => object (stripNullFields fields)
  | other => other

def stripNullItems : List Json -> List Json
  | [] => []
  | item :: rest => stripNulls item :: stripNullItems rest

def stripNullFields : List (String × Json) -> List (String × Json)
  | [] => []
  | (_, null) :: rest => stripNullFields rest
  | (name, value) :: rest => (name, stripNulls value) :: stripNullFields rest

end

/-! ## Numbers -/

mutual

/-- Rewrite every number of a value. -/
def mapNumbers (rewrite : Decimal -> Decimal) : Json -> Json
  | number value => number (rewrite value)
  | array items => array (mapItemNumbers rewrite items)
  | object fields => object (mapFieldNumbers rewrite fields)
  | other => other

def mapItemNumbers (rewrite : Decimal -> Decimal) : List Json -> List Json
  | [] => []
  | item :: rest => mapNumbers rewrite item :: mapItemNumbers rewrite rest

def mapFieldNumbers (rewrite : Decimal -> Decimal) : List (String × Json) -> List (String × Json)
  | [] => []
  | (name, value) :: rest => (name, mapNumbers rewrite value) :: mapFieldNumbers rewrite rest

end

/-- The field of a field list. -/
def lookup (name : String) (fields : List (String × Json)) : Option Json :=
  (fields.find? fun field => field.1 = name).map Prod.snd

def asString? : Json -> Option String
  | string value => some value
  | _ => none

def asArray? : Json -> Option (List Json)
  | array items => some items
  | _ => none

def asObject? : Json -> Option (List (String × Json))
  | object fields => some fields
  | _ => none

/-- The integer denoted by a number whose literal has no fractional part. -/
def asInt? : Json -> Option Int
  | number value =>
      if value.mantissa % 10 ^ value.scale = 0 then some (value.mantissa / 10 ^ value.scale)
      else none
  | _ => none

/-! ## Reading an updated value -/

section

variable {name : String}

theorem find?_setField_other {other : String} (different : other ≠ name) (value : Json)
    (fields : List (String × Json)) :
    (setField other value fields).find? (fun field => field.1 = name) =
      fields.find? fun field => field.1 = name := by
  induction fields with
  | nil => simp [setField, different]
  | cons head rest inductionHypothesis =>
      unfold setField
      by_cases replaced : head.1 = other
      · simp [replaced, different]
      · rw [if_neg replaced, List.find?_cons, List.find?_cons, inductionHypothesis]

/-- A merge keeps the fields that the right side does not name. -/
theorem field?_merge_other {right : List (String × Json)}
    (unnamed : ∀ field ∈ right, field.1 ≠ name) (left : Json) :
    (merge left (object right)).field? name = left.field? name := by
  cases left with
  | object fields =>
      have folded : (right.foldl (fun fields field => setField field.1 field.2 fields) fields).find?
          (fun field => field.1 = name) = fields.find? fun field => field.1 = name := by
        induction right generalizing fields with
        | nil => rfl
        | cons head rest inductionHypothesis =>
            rw [List.foldl_cons,
              inductionHypothesis (fun field member => unnamed field (List.mem_cons_of_mem _ member)),
              find?_setField_other (unnamed head List.mem_cons_self)]
      exact congrArg (Option.map Prod.snd) folded
  | null | bool _ | number _ | string _ | array _ => rfl

theorem field?_mapNumbers {rewrite : Decimal -> Decimal} (value : Json) :
    (value.mapNumbers rewrite).field? name = (value.field? name).map (mapNumbers rewrite) := by
  cases value with
  | object fields =>
      change ((mapFieldNumbers rewrite fields).find? fun field => field.1 = name).map Prod.snd =
        ((fields.find? fun field => field.1 = name).map Prod.snd).map (mapNumbers rewrite)
      induction fields with
      | nil => rfl
      | cons head rest inductionHypothesis =>
          rw [mapFieldNumbers, List.find?_cons, List.find?_cons]
          cases decide (head.1 = name) with
          | true => rfl
          | false => exact inductionHypothesis
  | null | bool _ | number _ | string _ | array _ => rfl

theorem mapNumbers_eq_string {rewrite : Decimal -> Decimal} {value : Json} {text : String} :
    value.mapNumbers rewrite = string text ↔ value = string text := by
  cases value with
  | number _ | array _ | object _ =>
      unfold mapNumbers
      constructor <;> intro same <;> cases same
  | null | bool _ | string _ => exact Iff.rfl

end

end Json
end Foundation
