import FederatedIot.Foundation.NumberText
import Mathlib.Data.List.DropRight

namespace Foundation
namespace PythonText

open NumberText

/-!
# Numbers read from texts, in Python

The constructor `float` reads decimal notation with underscores between digits.
It takes the blanks and the decimal digits of every script, and a number beyond
the doubles is an infinity.
-/

/-- The zeros of the scripts, each followed by its nine other digits. -/
def decimalZeros : List Nat :=
  [0x30, 0x660, 0x6F0, 0x7C0, 0x966, 0x9E6, 0xA66, 0xAE6, 0xB66, 0xBE6, 0xC66, 0xCE6, 0xD66, 0xDE6, 0xE50, 0xED0,
    0xF20, 0x1040, 0x1090, 0x17E0, 0x1810, 0x1946, 0x19D0, 0x1A80, 0x1A90, 0x1B50, 0x1BB0, 0x1C40, 0x1C50, 0xA620,
    0xA8D0, 0xA900, 0xA9D0, 0xA9F0, 0xAA50, 0xABF0, 0xFF10, 0x104A0, 0x10D30, 0x11066, 0x110F0, 0x11136, 0x111D0,
    0x112F0, 0x11450, 0x114D0, 0x11650, 0x116C0, 0x11730, 0x118E0, 0x11950, 0x11C50, 0x11D50, 0x11DA0, 0x11F50,
    0x16A60, 0x16AC0, 0x16B50, 0x1D7CE, 0x1D7D8, 0x1D7E2, 0x1D7EC, 0x1D7F6, 0x1E140, 0x1E2F0, 0x1E4F0, 0x1E950,
    0x1FBF0]

/-- `str.isspace` of one character. -/
def isSpace (c : Char) : Bool :=
  c.toNat ∈ [0x85, 0xA0, 0x1680, 0x2028, 0x2029, 0x202F, 0x205F, 0x3000] || c.toNat == 0x20 ||
    (0x9 ≤ c.toNat && c.toNat ≤ 0xD) || (0x1C ≤ c.toNat && c.toNat ≤ 0x1F) ||
    (0x2000 ≤ c.toNat && c.toNat ≤ 0x200A)

/-- The ASCII digit of a decimal digit. -/
def toAsciiDigit (c : Char) : Char :=
  match decimalZeros.find? fun first => first ≤ c.toNat && c.toNat ≤ first + 9 with
  | some first => Char.ofNat (48 + (c.toNat - first))
  | none => c

/-- `str.strip` of the given characters. -/
def strip (drop : Char -> Bool) (text : List Char) : List Char :=
  (text.dropWhile drop).rdropWhile drop

/-- The exponent after the mantissa, zero when the text ends there. -/
def exponent? : List Char -> Option Int
  | [] => some 0
  | mark :: rest =>
      let signed := readSign rest
      if lower mark != 'e' || signed.2.isEmpty || !signed.2.all isDigit then none
      else
        let magnitude := digitsValue 10 0 (signed.2.map digit)
        some (if signed.1 then -(magnitude : Int) else magnitude)

/-- The digits after the dot, and what follows them. -/
def fractionDigits : List Char -> List Char × List Char
  | '.' :: rest => rest.span isDigit
  | text => ([], text)

/-- The magnitude of a decimal number without its sign. -/
def decimal? (text : List Char) : Option Rat :=
  let whole := text.span isDigit
  let fraction := fractionDigits whole.2
  let digits := whole.1 ++ fraction.1
  if digits.isEmpty then none
  else
    (exponent? fraction.2).map fun power =>
      (digitsValue 10 0 (digits.map digit) : Rat) / 10 ^ fraction.1.length * (10 : Rat) ^ power

/-- What `float` reads from an ASCII text without blanks and underscores. -/
def asciiFloat (text : List Char) : Option ParsedFloat :=
  let signed := readSign text
  let name := signed.2.map lower
  if name = "inf".toList || name = "infinity".toList then some (.infinite signed.1)
  else if name = "nan".toList then some .notANumber
  else
    (decimal? signed.2).map fun magnitude =>
      if Binary64.overflows magnitude then .infinite signed.1
      else .finite (Binary64.round (if signed.1 then -magnitude else magnitude))

/-- `float`, and nothing for a `ValueError`. -/
def float (text : List Char) : Option ParsedFloat :=
  let ascii := (strip isSpace text).map toAsciiDigit
  if underscoresBetween false .other ascii then asciiFloat (ascii.filter fun c => c != '_') else none

example : float " 1_2.5e+1\n".toList = some (.finite 125) ∧ float "-1e999".toList = some (.infinite true) ∧
    float "٣".toList = some (.finite 3) ∧ float "0x1p-2".toList = none ∧ float "1__0".toList = none := by
  decide +kernel

end PythonText
end Foundation
