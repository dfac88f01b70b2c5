import FederatedIot.Foundation.Json

namespace Foundation
namespace Json

/-!
# Canonical encoding

The compact encoding of a JSON value with the fields of every object in the
order of their names.  Texts are escaped as an HTML-safe encoder escapes them:
besides the quotation mark, the backslash and the control characters, the
three markup characters and the two line separators take the six-character
form.
-/

/-- The escape of a character in the six-character hexadecimal form. -/
def hexEscape (code : Nat) : List Char :=
  ['\\', 'u', hexDigit (code / 4096 % 16), hexDigit (code / 256 % 16), hexDigit (code / 16 % 16),
    hexDigit (code % 16)]

/-- The characters that the encoder writes in the six-character form: markup,
line separators and the controls without a short form. -/
def needsHexEscape (char : Char) : Bool :=
  char.toNat < 32 || char = '<' || char = '>' || char = '&' || char.toNat = 0x2028 ||
    char.toNat = 0x2029

def encodeChar (char : Char) : List Char :=
  if char = '"' then ['\\', '"']
  else if char = '\\' then ['\\', '\\']
  else if char = '\n' then ['\\', 'n']
  else if char = '\r' then ['\\', 'r']
  else if char = '\t' then ['\\', 't']
  else if char.toNat = 8 then ['\\', 'b']
  else if char.toNat = 12 then ['\\', 'f']
  else if needsHexEscape char then hexEscape char.toNat
  else [char]

def encodeText (value : List Char) : List Char :=
  value.flatMap encodeChar

def encodeString (value : String) : List Char :=
  '"' :: (encodeText value.toList ++ ['"'])

mutual

def encodeChars : Json -> List Char
  | null => "null".toList
  | bool value => if value then "true".toList else "false".toList
  | number value => value.text.toList
  | string value => encodeString value
  | array items => '[' :: (encodeItems items ++ [']'])
  | object fields => '\x7b' :: (encodeFields fields ++ ['\x7d'])

def encodeItems : List Json -> List Char
  | [] => []
  | [last] => encodeChars last
  | item :: rest => encodeChars item ++ ',' :: encodeItems rest

def encodeFields : List (String × Json) -> List Char
  | [] => []
  | [(name, value)] => encodeString name ++ ':' :: encodeChars value
  | (name, value) :: rest => encodeString name ++ ':' :: (encodeChars value ++ ',' :: encodeFields rest)

end

/-- Order the fields of an object by name. -/
def orderFields (fields : List (String × Json)) : List (String × Json) :=
  fields.insertionSort fun left right => left.1 ≤ right.1

mutual

def sortKeys : Json -> Json
  | array items => array (sortItemKeys items)
  | object fields => object (orderFields (sortFieldKeys fields))
  | other => other

def sortItemKeys : List Json -> List Json
  | [] => []
  | item :: rest => sortKeys item :: sortItemKeys rest

def sortFieldKeys : List (String × Json) -> List (String × Json)
  | [] => []
  | (name, value) :: rest => (name, sortKeys value) :: sortFieldKeys rest

end

/-- The canonical text of a value. -/
def canonical (value : Json) : String :=
  String.ofList (encodeChars (sortKeys value))

end Json
end Foundation
