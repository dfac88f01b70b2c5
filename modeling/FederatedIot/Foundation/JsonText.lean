import FederatedIot.Foundation.JsonInjective
import Mathlib.Data.List.TakeWhile

namespace Foundation
namespace JsonText

/-!
# Texts of JSON documents

A document has the members of its objects in the order of a text, repeated
names included.  Its numbers may be of any type; in the document that a text
stands for they are the literals of the grammar.  The printer writes a document
without spaces, and the reader takes every text of the grammar.

The reader counts its calls down.  Twice the length of a text are enough for
every document that the text can hold.
-/

/-! ## Literals of numbers -/

def isDigits (text : List Char) : Bool :=
  !text.isEmpty && text.all Char.isDigit

/-- Nothing, or an exponent. -/
def isExponent : List Char -> Bool
  | [] => true
  | mark :: '+' :: digits => (mark = 'e' || mark = 'E') && isDigits digits
  | mark :: '-' :: digits => (mark = 'e' || mark = 'E') && isDigits digits
  | mark :: digits => (mark = 'e' || mark = 'E') && isDigits digits

/-- Nothing, or the digits after a point and an exponent. -/
def isFraction : List Char -> Bool
  | '.' :: digit :: rest => digit.isDigit && isExponent (rest.dropWhile Char.isDigit)
  | text => isExponent text

/-- The whole part has no superfluous zero in front. -/
def isUnsigned : List Char -> Bool
  | '0' :: rest => isFraction rest
  | digit :: rest => digit.isDigit && isFraction (rest.dropWhile Char.isDigit)
  | [] => false

def isNumeral : List Char -> Bool
  | '-' :: rest => isUnsigned rest
  | text => isUnsigned text

/-- A number as it is written. -/
structure Numeral where
  text : List Char
  valid : isNumeral text = true
  deriving DecidableEq

/-- The characters that can stand in a number. -/
def isNumeralChar (char : Char) : Bool :=
  char.isDigit || char = '-' || char = '+' || char = '.' || char = 'e' || char = 'E'

/-- The text does not continue a number. -/
def Stops (rest : List Char) : Prop :=
  ∀ char ∈ rest.head?, isNumeralChar char = false

/-! ## Documents -/

inductive Document (Number : Type*) where
  | null
  | bool (value : Bool)
  | number (value : Number)
  | string (value : List Char)
  | array (items : List (Document Number))
  | object (members : List (List Char × Document Number))

def printString (value : List Char) : List Char :=
  '"' :: (Json.encodeText value ++ ['"'])

mutual

/-- The compact text of a document. -/
def print : Document Numeral -> List Char
  | .null => ['n', 'u', 'l', 'l']
  | .bool true => ['t', 'r', 'u', 'e']
  | .bool false => ['f', 'a', 'l', 's', 'e']
  | .number value => value.text
  | .string value => printString value
  | .array items => '[' :: (printItems items ++ [']'])
  | .object members => '\x7b' :: (printMembers members ++ ['\x7d'])

def printItems : List (Document Numeral) -> List Char
  | [] => []
  | [last] => print last
  | item :: rest => print item ++ ',' :: printItems rest

def printMembers : List (List Char × Document Numeral) -> List Char
  | [] => []
  | [(name, value)] => printString name ++ ':' :: print value
  | (name, value) :: rest => printString name ++ ':' :: (print value ++ ',' :: printMembers rest)

end

/-! ## Reading a string -/

/-- A character of a string as it is written: itself, or by its code. -/
inductive CodeUnit where
  | literal (char : Char)
  | code (value : Nat)

def hexDigit? (char : Char) : Option Nat :=
  if char.isDigit then some (char.toNat - 48)
  else if 97 ≤ char.toNat && char.toNat ≤ 102 then some (char.toNat - 87)
  else if 65 ≤ char.toNat && char.toNat ≤ 70 then some (char.toNat - 55)
  else none

def hexCode? (first second third fourth : Char) : Option Nat :=
  match hexDigit? first, hexDigit? second, hexDigit? third, hexDigit? fourth with
  | some a, some b, some c, some d => some (a * 4096 + b * 256 + c * 16 + d)
  | _, _, _, _ => none

/-- What a backslash and the character after it stand for. -/
def shortEscape? : Char -> Option Char
  | '"' => some '"'
  | '\\' => some '\\'
  | '/' => some '/'
  | 'b' => some (Char.ofNat 8)
  | 'f' => some (Char.ofNat 12)
  | 'n' => some '\n'
  | 'r' => some '\r'
  | 't' => some '\t'
  | _ => none

/-- The characters of a string up to its closing quotation mark, and the text
after it. -/
def readUnits : List Char -> Option (List CodeUnit × List Char)
  | '"' :: rest => some ([], rest)
  | '\\' :: 'u' :: first :: second :: third :: fourth :: rest =>
      (hexCode? first second third fourth).bind fun value =>
        (readUnits rest).map fun read => (.code value :: read.1, read.2)
  | '\\' :: escape :: rest =>
      (shortEscape? escape).bind fun char =>
        (readUnits rest).map fun read => (.literal char :: read.1, read.2)
  | char :: rest =>
      if char = '\\' || char.toNat < 32 then none
      else (readUnits rest).map fun read => (.literal char :: read.1, read.2)
  | [] => none

def isHighSurrogate (code : Nat) : Bool :=
  0xD800 ≤ code && code < 0xDC00

def isLowSurrogate (code : Nat) : Bool :=
  0xDC00 ≤ code && code < 0xE000

/-- Two codes of a surrogate pair make one character.  A surrogate that stands
alone becomes the replacement character. -/
def joinUnits : List CodeUnit -> List Char
  | .literal char :: rest => char :: joinUnits rest
  | .code high :: .code low :: rest =>
      if isHighSurrogate high && isLowSurrogate low then
        Char.ofNat ((high - 0xD800) * 1024 + (low - 0xDC00) + 0x10000) :: joinUnits rest
      else
        (if isHighSurrogate high || isLowSurrogate high then Char.ofNat 0xFFFD else Char.ofNat high) ::
          joinUnits (.code low :: rest)
  | .code value :: rest =>
      (if isHighSurrogate value || isLowSurrogate value then Char.ofNat 0xFFFD else Char.ofNat value) ::
        joinUnits rest
  | [] => []

/-- A string after its opening quotation mark. -/
def readString (text : List Char) : Option (List Char × List Char) :=
  (readUnits text).map fun read => (joinUnits read.1, read.2)

/-! ## Reading a document -/

def isSpace (char : Char) : Bool :=
  char = ' ' || char = '\t' || char = '\n' || char = '\r'

def skipSpace (text : List Char) : List Char :=
  text.dropWhile isSpace

/-- A number or one of the three words. -/
def readAtom : List Char -> Option (Document Numeral × List Char)
  | 'n' :: 'u' :: 'l' :: 'l' :: rest => some (.null, rest)
  | 't' :: 'r' :: 'u' :: 'e' :: rest => some (.bool true, rest)
  | 'f' :: 'a' :: 'l' :: 's' :: 'e' :: rest => some (.bool false, rest)
  | text =>
      if valid : isNumeral (text.takeWhile isNumeralChar) = true then
        some (.number ⟨text.takeWhile isNumeralChar, valid⟩, text.dropWhile isNumeralChar)
      else none

mutual

def readValue : Nat -> List Char -> Option (Document Numeral × List Char)
  | 0, _ => none
  | fuel + 1, text =>
      match skipSpace text with
      | '"' :: rest => (readString rest).map fun read => (.string read.1, read.2)
      | '[' :: rest =>
          match skipSpace rest with
          | ']' :: rest => some (.array [], rest)
          | other => (readItems fuel other).map fun read => (.array read.1, read.2)
      | '\x7b' :: rest =>
          match skipSpace rest with
          | '\x7d' :: rest => some (.object [], rest)
          | other => (readMembers fuel other).map fun read => (.object read.1, read.2)
      | other => readAtom other

/-- The items of an array up to its closing bracket. -/
def readItems : Nat -> List Char -> Option (List (Document Numeral) × List Char)
  | 0, _ => none
  | fuel + 1, text =>
      (readValue fuel text).bind fun item =>
        match skipSpace item.2 with
        | ',' :: rest => (readItems fuel rest).map fun read => (item.1 :: read.1, read.2)
        | ']' :: rest => some ([item.1], rest)
        | _ => none

/-- The members of an object up to its closing brace. -/
def readMembers : Nat -> List Char -> Option (List (List Char × Document Numeral) × List Char)
  | 0, _ => none
  | fuel + 1, text =>
      match skipSpace text with
      | '"' :: rest =>
          (readString rest).bind fun name =>
            match skipSpace name.2 with
            | ':' :: rest =>
                (readValue fuel rest).bind fun value =>
                  match skipSpace value.2 with
                  | ',' :: rest =>
                      (readMembers fuel rest).map fun read => ((name.1, value.1) :: read.1, read.2)
                  | '\x7d' :: rest => some ([(name.1, value.1)], rest)
                  | _ => none
            | _ => none
      | _ => none

end

/-- The document of a text that holds nothing else. -/
def parse (text : List Char) : Option (Document Numeral) :=
  (readValue (2 * text.length + 2) text).bind fun read =>
    if skipSpace read.2 = [] then some read.1 else none

/-! ## Numbers are read back -/

theorem isNumeralChar_of_isDigit {char : Char} (digit : char.isDigit = true) :
    isNumeralChar char = true := by
  unfold isNumeralChar
  rw [digit]
  rfl

theorem isNumeralChar_dropWhile {text : List Char}
    (rest : ∀ char ∈ text.dropWhile Char.isDigit, isNumeralChar char = true) :
    ∀ char ∈ text, isNumeralChar char = true := by
  intro char member
  rw [← @List.takeWhile_append_dropWhile _ Char.isDigit text, List.mem_append] at member
  rcases member with digit | other
  · exact isNumeralChar_of_isDigit (List.mem_takeWhile_imp digit)
  · exact rest char other

theorem isNumeralChar_digits {text : List Char} (digits : isDigits text = true) :
    ∀ char ∈ text, isNumeralChar char = true := by
  unfold isDigits at digits
  rw [Bool.and_eq_true, List.all_eq_true] at digits
  exact fun char member => isNumeralChar_of_isDigit (digits.2 char member)

theorem isNumeralChar_exponent {text : List Char} (exponent : isExponent text = true) :
    ∀ char ∈ text, isNumeralChar char = true := by
  have marked : forall {mark : Char}, (mark = 'e' || mark = 'E') = true ->
      isNumeralChar mark = true := by
    intro mark isMark
    rw [Bool.or_eq_true, decide_eq_true_eq, decide_eq_true_eq] at isMark
    rcases isMark with same | same <;> rw [same] <;> decide
  unfold isExponent at exponent
  split at exponent
  · intro char member
    cases member
  all_goals
    rw [Bool.and_eq_true] at exponent
    intro char member
    have within := isNumeralChar_digits exponent.2
    rcases List.mem_cons.mp member with same | later
    · rw [same]
      exact marked exponent.1
  · rcases List.mem_cons.mp later with same | digit
    · rw [same]
      decide
    · exact within char digit
  · rcases List.mem_cons.mp later with same | digit
    · rw [same]
      decide
    · exact within char digit
  · exact within char later

theorem isNumeralChar_fraction {text : List Char} (fraction : isFraction text = true) :
    ∀ char ∈ text, isNumeralChar char = true := by
  unfold isFraction at fraction
  split at fraction
  · rw [Bool.and_eq_true] at fraction
    intro char member
    rcases List.mem_cons.mp member with same | inside
    · rw [same]
      decide
    · rcases List.mem_cons.mp inside with same | later
      · rw [same]
        exact isNumeralChar_of_isDigit fraction.1
      · exact isNumeralChar_dropWhile (isNumeralChar_exponent fraction.2) char later
  · exact isNumeralChar_exponent fraction

theorem isNumeralChar_unsigned {text : List Char} (unsigned : isUnsigned text = true) :
    ∀ char ∈ text, isNumeralChar char = true := by
  unfold isUnsigned at unsigned
  split at unsigned
  · intro char member
    rcases List.mem_cons.mp member with same | later
    · rw [same]
      decide
    · exact isNumeralChar_fraction unsigned char later
  · rw [Bool.and_eq_true] at unsigned
    intro char member
    rcases List.mem_cons.mp member with same | later
    · rw [same]
      exact isNumeralChar_of_isDigit unsigned.1
    · exact isNumeralChar_dropWhile (isNumeralChar_fraction unsigned.2) char later
  · cases unsigned

theorem Numeral.isNumeralChar (value : Numeral) : ∀ char ∈ value.text, isNumeralChar char = true := by
  have valid := value.valid
  unfold isNumeral at valid
  split at valid
  · rename_i text rest same
    rw [same]
    intro char member
    rcases List.mem_cons.mp member with first | later
    · rw [first]
      decide
    · exact isNumeralChar_unsigned valid char later
  · exact isNumeralChar_unsigned valid

theorem Numeral.text_ne_nil (value : Numeral) : value.text ≠ [] := by
  intro empty
  have valid := value.valid
  rw [empty] at valid
  cases valid

/-- A text over an alphabet, followed by a text that does not begin with one of
its characters. -/
theorem span_append {alphabet : Char -> Bool} {text rest : List Char}
    (within : ∀ char ∈ text, alphabet char = true)
    (stops : ∀ char ∈ rest.head?, alphabet char = false) :
    (text ++ rest).takeWhile alphabet = text ∧ (text ++ rest).dropWhile alphabet = rest := by
  rw [List.takeWhile_append_of_pos within, List.dropWhile_append_of_pos within]
  cases rest with
  | nil => exact ⟨List.append_nil _, rfl⟩
  | cons first later =>
      have other := stops first rfl
      rw [List.takeWhile_cons_of_neg (by rw [other]; decide),
        List.dropWhile_cons_of_neg (by rw [other]; decide), List.append_nil]
      exact ⟨rfl, rfl⟩

/-- A number is read back when what follows does not continue it. -/
theorem readAtom_number (value : Numeral) {rest : List Char} (stops : Stops rest) :
    readAtom (value.text ++ rest) = some (.number value, rest) := by
  rcases span_append value.isNumeralChar stops with ⟨taken, dropped⟩
  rcases List.exists_cons_of_ne_nil value.text_ne_nil with ⟨first, others, begins⟩
  have numeral : JsonText.isNumeralChar first = true :=
    value.isNumeralChar first (by rw [begins]; exact List.mem_cons_self)
  have apart : forall word : Char, JsonText.isNumeralChar word = false -> first ≠ word := by
    intro word other same
    rw [same, other] at numeral
    cases numeral
  unfold readAtom
  split
  · rename_i same
    rw [begins] at same
    exact absurd (List.cons.inj same).1 (apart 'n' (by decide))
  · rename_i same
    rw [begins] at same
    exact absurd (List.cons.inj same).1 (apart 't' (by decide))
  · rename_i same
    rw [begins] at same
    exact absurd (List.cons.inj same).1 (apart 'f' (by decide))
  · simp only [taken, dropped]
    rw [dif_pos value.valid]

/-! ## Strings are read back -/

theorem hexDigit?_hexDigit : ∀ value < 16, hexDigit? (Json.hexDigit value) = some value := by
  decide

/-- What an encoded character is read as. -/
def unitOf (char : Char) : CodeUnit :=
  if char = '"' || char = '\\' || char = '\n' || char = '\r' || char = '\t' || char.toNat = 8 ||
      char.toNat = 12 then .literal char
  else if Json.needsHexEscape char then .code char.toNat
  else .literal char

theorem readUnits_hexEscape {code : Nat} (short : code < 65536) (rest : List Char) :
    readUnits (Json.hexEscape code ++ rest) =
      (readUnits rest).map fun read => (.code code :: read.1, read.2) := by
  have digit : forall value : Nat, hexDigit? (Json.hexDigit (value % 16)) = some (value % 16) :=
    fun value => hexDigit?_hexDigit (value % 16) (Nat.mod_lt value (by omega))
  have together : code / 4096 % 16 * 4096 + code / 256 % 16 * 256 + code / 16 % 16 * 16 + code % 16 =
      code := by omega
  change (hexCode? _ _ _ _).bind _ = _
  unfold hexCode?
  rw [digit, digit, digit, digit]
  simp only [Option.bind_some, together]
  rfl

/-- The characters with a short form. -/
def isShort (char : Char) : Prop :=
  char = '"' ∨ char = '\\' ∨ char = '\n' ∨ char = '\r' ∨ char = '\t' ∨ char.toNat = 8 ∨ char.toNat = 12

theorem readUnits_short {char : Char} (short : isShort char) (rest : List Char) :
    readUnits (Json.encodeChar char ++ rest) =
      (readUnits rest).map fun read => (.literal char :: read.1, read.2) := by
  rcases short with same | same | same | same | same | code | code
  · rw [same]
    rfl
  · rw [same]
    rfl
  · rw [same]
    rfl
  · rw [same]
    rfl
  · rw [same]
    rfl
  · have same : char = Char.ofNat 8 := by rw [← code, Char.ofNat_toNat]
    rw [same]
    rfl
  · have same : char = Char.ofNat 12 := by rw [← code, Char.ofNat_toNat]
    rw [same]
    rfl

theorem encodeChar_long {char : Char} (long : ¬isShort char) :
    Json.encodeChar char =
      if Json.needsHexEscape char then Json.hexEscape char.toNat else [char] := by
  unfold isShort at long
  simp only [not_or] at long
  rcases long with ⟨quotation, backslash, newline, carriage, tab, backspace, formFeed⟩
  unfold Json.encodeChar
  rw [if_neg quotation, if_neg backslash, if_neg newline, if_neg carriage, if_neg tab,
    if_neg backspace, if_neg formFeed]

theorem readUnits_plain {char : Char} (long : ¬isShort char)
    (plain : Json.needsHexEscape char = false) (rest : List Char) :
    readUnits (char :: rest) = (readUnits rest).map fun read => (.literal char :: read.1, read.2) := by
  have visible : ¬char.toNat < 32 := by
    intro control
    unfold Json.needsHexEscape at plain
    rw [decide_eq_true control] at plain
    cases plain
  conv_lhs => unfold readUnits
  split
  · rename_i same
    exact absurd (Or.inl (List.cons.inj same).1) long
  · rename_i same
    exact absurd (Or.inr (Or.inl (List.cons.inj same).1)) long
  · rename_i same
    exact absurd (Or.inr (Or.inl (List.cons.inj same).1)) long
  · rename_i same
    cases same
    have notBackslash : char ≠ '\\' := fun same => long (Or.inr (Or.inl same))
    rw [decide_eq_false notBackslash, decide_eq_false visible]
    rfl
  · rename_i same
    cases same

/-- What an encoded character is read as. -/
theorem readUnits_encodeChar (char : Char) (rest : List Char) :
    readUnits (Json.encodeChar char ++ rest) =
        (readUnits rest).map (fun read => (.literal char :: read.1, read.2)) ∨
      Json.needsHexEscape char = true ∧ readUnits (Json.encodeChar char ++ rest) =
        (readUnits rest).map fun read => (.code char.toNat :: read.1, read.2) := by
  by_cases short : isShort char
  · exact Or.inl (readUnits_short short rest)
  · rw [encodeChar_long short]
    cases needs : Json.needsHexEscape char with
    | true => exact Or.inr ⟨rfl, readUnits_hexEscape (Json.short_of_needsHexEscape needs) rest⟩
    | false => exact Or.inl (readUnits_plain short needs rest)

/-- Units that stand for a text: each character is written as itself or, below
the surrogates, by its code. -/
inductive Spells : List CodeUnit -> List Char -> Prop
  | nil : Spells [] []
  | literal (char : Char) {units : List CodeUnit} {text : List Char} :
      Spells units text -> Spells (.literal char :: units) (char :: text)
  | code {char : Char} {units : List CodeUnit} {text : List Char} :
      char.toNat < 0xD800 -> Spells units text -> Spells (.code char.toNat :: units) (char :: text)

theorem joinUnits_code {code : Nat} (low : code < 0xD800) (units : List CodeUnit) :
    joinUnits (.code code :: units) = Char.ofNat code :: joinUnits units := by
  have notHigh : isHighSurrogate code = false := by
    unfold isHighSurrogate
    rw [decide_eq_false (by omega)]
    rfl
  have notLow : isLowSurrogate code = false := by
    unfold isLowSurrogate
    rw [decide_eq_false (by omega)]
    rfl
  cases units with
  | nil =>
      unfold joinUnits
      rw [notHigh, notLow]
      rfl
  | cons next rest =>
      cases next with
      | literal char =>
          unfold joinUnits
          rw [notHigh, notLow]
          rfl
      | code value =>
          conv_lhs => unfold joinUnits
          rw [notHigh, notLow]
          rfl

theorem Spells.joinUnits {units : List CodeUnit} {text : List Char} (spells : Spells units text) :
    joinUnits units = text := by
  induction spells with
  | nil => rfl
  | literal char _ inductionHypothesis =>
      change char :: JsonText.joinUnits _ = _
      rw [inductionHypothesis]
  | code low _ inductionHypothesis =>
      rw [joinUnits_code low, inductionHypothesis, Char.ofNat_toNat]

theorem toNat_of_needsHexEscape {char : Char} (needs : Json.needsHexEscape char = true) :
    char.toNat < 0xD800 := by
  unfold Json.needsHexEscape at needs
  simp only [Bool.or_eq_true, decide_eq_true_eq] at needs
  rcases needs with ((((control | less) | greater) | ampersand) | line) | paragraph
  · omega
  · rw [less]
    decide
  · rw [greater]
    decide
  · rw [ampersand]
    decide
  · omega
  · omega

theorem readUnits_encodeText (text rest : List Char) :
    ∃ units, readUnits (Json.encodeText text ++ '"' :: rest) = some (units, rest) ∧
      Spells units text := by
  induction text with
  | nil => exact ⟨[], rfl, Spells.nil⟩
  | cons char tail inductionHypothesis =>
      rcases inductionHypothesis with ⟨units, read, spells⟩
      unfold Json.encodeText at read ⊢
      rw [List.flatMap_cons, List.append_assoc]
      rcases readUnits_encodeChar char (tail.flatMap Json.encodeChar ++ '"' :: rest) with
        literal | ⟨needs, code⟩
      · rw [literal, read]
        exact ⟨_, rfl, Spells.literal char spells⟩
      · rw [code, read]
        exact ⟨_, rfl, Spells.code (toNat_of_needsHexEscape needs) spells⟩

/-- A string is read back. -/
theorem readString_encodeText (text rest : List Char) :
    readString (Json.encodeText text ++ '"' :: rest) = some (text, rest) := by
  rcases readUnits_encodeText text rest with ⟨units, read, spells⟩
  unfold readString
  rw [read, Option.map_some, spells.joinUnits]

end JsonText
end Foundation
