import FederatedIot.Foundation.Binary64
import FederatedIot.Foundation.Fields
import FederatedIot.Foundation.Json

namespace Foundation

/-!
# Decoded documents

A decoder chooses what becomes of the numbers of a document.  Python keeps a
literal without a fraction as an integer of any size and makes a double of the
others.  A browser makes a double of every literal.  Beyond the doubles there is
an infinity.  A name stands once in each object of a document.
-/

/-- The number that a literal denotes. -/
def Decimal.value (literal : Decimal) : Rat :=
  literal.mantissa / 10 ^ literal.scale

/-- A value of Python as `json.loads` makes them. -/
inductive PyValue where
  | none
  | bool (value : Bool)
  | int (value : Int)
  | float (value : Rat)
  | infinite (negative : Bool)
  | str (value : String)
  | list (items : List PyValue)
  | dict (fields : List (String × PyValue))

/-- A value of a browser as `JSON.parse` makes them. -/
inductive JsValue where
  | null
  | boolean (value : Bool)
  | number (value : Rat)
  | infinite (negative : Bool)
  | string (value : String)
  | array (items : List JsValue)
  | object (fields : List (String × JsValue))

namespace Decimal

def loads (literal : Decimal) : PyValue :=
  if literal.scale = 0 then .int literal.mantissa
  else if Binary64.overflows literal.value then .infinite (literal.mantissa < 0)
  else .float (Binary64.round literal.value)

def parse (literal : Decimal) : JsValue :=
  if Binary64.overflows literal.value then .infinite (literal.mantissa < 0)
  else .number (Binary64.round literal.value)

theorem value_of_scale_zero {literal : Decimal} (whole : literal.scale = 0) :
    literal.value = literal.mantissa := by
  rw [value, whole, pow_zero, div_one]

end Decimal

namespace Json

mutual

/-- `json.loads` -/
def loads : Json -> PyValue
  | null => .none
  | bool value => .bool value
  | number literal => literal.loads
  | string value => .str value
  | array items => .list (loadsItems items)
  | object fields => .dict (loadsFields fields)

def loadsItems : List Json -> List PyValue
  | [] => []
  | item :: rest => loads item :: loadsItems rest

def loadsFields : List (String × Json) -> List (String × PyValue)
  | [] => []
  | (name, value) :: rest => (name, loads value) :: loadsFields rest

end

mutual

/-- `JSON.parse` -/
def parse : Json -> JsValue
  | null => .null
  | bool value => .boolean value
  | number literal => literal.parse
  | string value => .string value
  | array items => .array (parseItems items)
  | object fields => .object (parseFields fields)

def parseItems : List Json -> List JsValue
  | [] => []
  | item :: rest => parse item :: parseItems rest

def parseFields : List (String × Json) -> List (String × JsValue)
  | [] => []
  | (name, value) :: rest => (name, parse value) :: parseFields rest

end

mutual

/-- No object of the value has a name twice, and every number is in the range of
the doubles. -/
def wellFormed : Json -> Bool
  | number literal => !Binary64.overflows literal.value
  | array items => wellFormedItems items
  | object fields => decide (Fields.names fields).Nodup && wellFormedFields fields
  | _ => true

def wellFormedItems : List Json -> Bool
  | [] => true
  | item :: rest => wellFormed item && wellFormedItems rest

def wellFormedFields : List (String × Json) -> Bool
  | [] => true
  | (_, value) :: rest => wellFormed value && wellFormedFields rest

end

/-! ## Parts of decoded documents -/

theorem loadsItems_eq (items : List Json) : loadsItems items = items.map loads := by
  induction items with
  | nil => rfl
  | cons head tail inductionHypothesis => rw [loadsItems, inductionHypothesis, List.map_cons]

theorem parseItems_eq (items : List Json) : parseItems items = items.map parse := by
  induction items with
  | nil => rfl
  | cons head tail inductionHypothesis => rw [parseItems, inductionHypothesis, List.map_cons]

theorem setField_eq (name : String) (value : Json) (fields : List (String × Json)) :
    setField name value fields = Fields.set name value fields := by
  induction fields with
  | nil => rfl
  | cons head tail inductionHypothesis => rw [setField, Fields.set, inductionHypothesis]

theorem loadsFields_eq (fields : List (String × Json)) : loadsFields fields = Fields.mapValues loads fields := by
  induction fields with
  | nil => rfl
  | cons head tail inductionHypothesis => rw [loadsFields, inductionHypothesis, Fields.mapValues, Fields.mapValues,
      List.map_cons]

theorem parseFields_eq (fields : List (String × Json)) : parseFields fields = Fields.mapValues parse fields := by
  induction fields with
  | nil => rfl
  | cons head tail inductionHypothesis => rw [parseFields, inductionHypothesis, Fields.mapValues, Fields.mapValues,
      List.map_cons]

theorem mapFieldNumbers_eq (rewrite : Decimal -> Decimal) (fields : List (String × Json)) :
    mapFieldNumbers rewrite fields = Fields.mapValues (mapNumbers rewrite) fields := by
  induction fields with
  | nil => rfl
  | cons head tail inductionHypothesis => rw [mapFieldNumbers, inductionHypothesis, Fields.mapValues,
      Fields.mapValues, List.map_cons]

theorem wellFormed_object {fields : List (String × Json)} (formed : (object fields).wellFormed = true) :
    (Fields.names fields).Nodup ∧ ∀ field ∈ fields, field.2.wellFormed = true := by
  rw [wellFormed, Bool.and_eq_true, decide_eq_true_eq] at formed
  refine ⟨formed.1, ?_⟩
  have values := formed.2
  clear formed
  induction fields with
  | nil => exact fun _ member => (by cases member)
  | cons head tail inductionHypothesis =>
      rw [wellFormedFields, Bool.and_eq_true] at values
      intro field member
      rcases List.mem_cons.mp member with isHead | inTail
      · rw [isHead]
        exact values.1
      · exact inductionHypothesis values.2 field inTail

/-- A field of a well-formed object is well formed. -/
theorem wellFormed_lookup {fields : List (String × Json)} {name : String} {value : Json}
    (formed : (object fields).wellFormed = true) (found : Fields.lookup name fields = some value) :
    value.wellFormed = true :=
  (wellFormed_object formed).2 (name, value) (Fields.mem_of_lookup found)

theorem wellFormed_array {items : List Json} (formed : (array items).wellFormed = true) :
    ∀ item ∈ items, item.wellFormed = true := by
  rw [wellFormed] at formed
  induction items with
  | nil => exact fun _ member => (by cases member)
  | cons head tail inductionHypothesis =>
      rw [wellFormedItems, Bool.and_eq_true] at formed
      intro item member
      rcases List.mem_cons.mp member with isHead | inTail
      · rw [isHead]
        exact formed.1
      · exact inductionHypothesis formed.2 item inTail

end Json
end Foundation
