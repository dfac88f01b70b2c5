import FederatedIot.Foundation.Binary64

namespace Foundation
namespace NumberText

/-!
# Numbers read from texts

The readings of Go's package `strconv`: decimal integers of 64 bits, and
floating-point numbers in decimal and hexadecimal notation.  A floating-point
number is computed exactly and rounded once.
-/

def isDigit (c : Char) : Bool :=
  48 ≤ c.toNat && c.toNat ≤ 57

def digit (c : Char) : Nat :=
  c.toNat - 48

/-- The lower case of an ASCII letter. -/
def lower (c : Char) : Char :=
  if 65 ≤ c.toNat && c.toNat ≤ 90 then Char.ofNat (c.toNat + 32) else c

def isHexLetter (c : Char) : Bool :=
  97 ≤ (lower c).toNat && (lower c).toNat ≤ 102

/-- The number that the digits denote. -/
def digitsValue (base : Nat) (value : Nat) (digits : List Nat) : Nat :=
  digits.foldl (fun sum next => sum * base + next) value

/-! ## Integers -/

/-- The sign and what follows it. -/
def readSign : List Char -> Bool × List Char
  | '+' :: rest => (false, rest)
  | '-' :: rest => (true, rest)
  | text => (false, text)

/-- A decimal integer of 64 bits. -/
def parseInt (text : List Char) : Option Int :=
  let signed := readSign text
  if signed.2.isEmpty || !signed.2.all isDigit then none
  else
    let magnitude := digitsValue 10 0 (signed.2.map digit)
    if signed.1 then if magnitude ≤ 2 ^ 63 then some (-(magnitude : Int)) else none
    else if magnitude < 2 ^ 63 then some magnitude else none

/-! ## Floating-point numbers -/

/-- What was read of the mantissa: its digits without the dot, how many of them
follow the dot, and whether there was a dot, a digit or an underscore. -/
structure Mantissa where
  value : Nat := 0
  fraction : Nat := 0
  sawDot : Bool := false
  sawDigits : Bool := false
  underscores : Bool := false

def Mantissa.digit (mantissa : Mantissa) (base next : Nat) : Mantissa :=
  { mantissa with
    value := mantissa.value * base + next
    fraction := if mantissa.sawDot then mantissa.fraction + 1 else mantissa.fraction
    sawDigits := true }

/-- Reads digits, underscores and one dot, up to the first other character. -/
def readMantissa (hex : Bool) (mantissa : Mantissa) : List Char -> Mantissa × List Char
  | [] => (mantissa, [])
  | c :: rest =>
      if c == '_' then readMantissa hex { mantissa with underscores := true } rest
      else if c == '.' then
        if mantissa.sawDot then (mantissa, c :: rest)
        else readMantissa hex { mantissa with sawDot := true } rest
      else if isDigit c then readMantissa hex (mantissa.digit (if hex then 16 else 10) (digit c)) rest
      else if hex && isHexLetter c then readMantissa hex (mantissa.digit 16 ((lower c).toNat - 87)) rest
      else (mantissa, c :: rest)

/-- The digits of an exponent.  From five digits on it does not grow. -/
def readExponentDigits (value : Nat) (underscores : Bool) : List Char -> (Nat × Bool) × List Char
  | [] => ((value, underscores), [])
  | c :: rest =>
      if c == '_' then readExponentDigits value true rest
      else if isDigit c then
        readExponentDigits (if value < 10000 then value * 10 + digit c else value) underscores rest
      else ((value, underscores), c :: rest)

/-- The signed exponent, which begins with a digit. -/
def readExponent (text : List Char) : Option ((Int × Bool) × List Char) :=
  let signed := readSign text
  match signed.2 with
  | [] => none
  | c :: rest =>
      if isDigit c then
        let read := readExponentDigits 0 false (c :: rest)
        some ((if signed.1 then -(read.1.1 : Int) else read.1.1, read.1.2), read.2)
      else none

/-- The kind of the character before, for the check of the underscores. -/
inductive Before where
  | digit
  | underscore
  | other
deriving DecidableEq

/-- An underscore stands between digits. -/
def underscoresBetween (hex : Bool) (before : Before) : List Char -> Bool
  | [] => before ≠ .underscore
  | c :: rest =>
      if isDigit c || (hex && isHexLetter c) then underscoresBetween hex .digit rest
      else if c == '_' then before = .digit && underscoresBetween hex .underscore rest
      else before ≠ .underscore && underscoresBetween hex .other rest

/-- A base prefix counts as a digit. -/
def underscoreOK (text : List Char) : Bool :=
  match (readSign text).2 with
  | '0' :: mark :: rest =>
      if lower mark == 'b' || lower mark == 'o' || lower mark == 'x' then
        underscoresBetween (lower mark == 'x') .digit rest
      else underscoresBetween false .other ('0' :: mark :: rest)
  | unsigned => underscoresBetween false .other unsigned

/-- The digits after a base prefix for hexadecimal notation, which needs more
than the prefix. -/
def hexDigits? : List Char -> Option (List Char)
  | '0' :: mark :: c :: rest => if lower mark == 'x' then some (c :: rest) else none
  | _ => none

/-- The value of a text in the syntax of floating-point numbers. -/
def readFloat (text : List Char) : Option Rat :=
  let signed := readSign text
  let hex := (hexDigits? signed.2).isSome
  let (mantissa, rest) := readMantissa hex {} ((hexDigits? signed.2).getD signed.2)
  if !mantissa.sawDigits then none
  else
    let exponent : Option ((Int × Bool) × List Char) :=
      match rest with
      | c :: tail =>
          if lower c == (if hex then 'p' else 'e') then readExponent tail
          else if hex then none
          else some ((0, false), c :: tail)
      | [] => if hex then none else some ((0, false), [])
    match exponent with
    | some ((power, underscores), []) =>
        if (mantissa.underscores || underscores) && !underscoreOK text then none
        else
          let magnitude : Rat :=
            if hex then mantissa.value / 16 ^ mantissa.fraction * 2 ^ power
            else mantissa.value / 10 ^ mantissa.fraction * 10 ^ power
          some (if signed.1 then -magnitude else magnitude)
    | _ => none

inductive ParsedFloat where
  | finite (value : Rat)
  | infinite (negative : Bool)
  | notANumber
deriving DecidableEq, Repr

/-- The names of the values that are not finite, in any case. -/
def special (text : List Char) : Option ParsedFloat :=
  let signed := readSign text
  let name := signed.2.map lower
  if name = "inf".toList || name = "infinity".toList then some (.infinite signed.1)
  else if text.map lower = "nan".toList then some .notANumber
  else none

/-- The nearest double, and nothing when the text is no number or out of range. -/
def parseFloat (text : List Char) : Option ParsedFloat :=
  match special text with
  | some value => some value
  | none =>
      match readFloat text with
      | some value => if Binary64.overflows value then none else some (.finite (Binary64.round value))
      | none => none

example : parseFloat "1_23.50_0_0e+1_2".toList = some (.finite 123500000000000) ∧
    parseFloat "0x1p-2".toList = some (.finite (1 / 4)) ∧ parseFloat "1e999".toList = none ∧
      parseFloat "123_.5".toList = none := by decide +kernel

end NumberText
end Foundation
