import FederatedIot.Foundation.Binary64
import FederatedIot.Foundation.JsonText

namespace Foundation

open JsonText

/-!
# Doubles as JSON numbers

A double has a sign and a magnitude, so that the two zeros differ.  A number is
read by computing its decimal value exactly and rounding once.  A double is
written with the fewest digits that are read back as the same double, and of
two such decimals the nearer one is taken.  Magnitudes below a millionth and
from a thousand trillions of millions on get an exponent.
-/

/-! ## The value of a number -/

namespace JsonText

def digitsValue (digits : List Char) : Nat :=
  Nat.ofDigitChars 10 digits 0

def readExponent : List Char -> Int
  | _ :: '-' :: digits => -(digitsValue digits : Int)
  | _ :: '+' :: digits => digitsValue digits
  | _ :: digits => digitsValue digits
  | [] => 0

/-- The digits before the point, those after it, and the exponent. -/
def readParts (text : List Char) : List Char × List Char × Int :=
  match text.dropWhile Char.isDigit with
  | '.' :: rest =>
      (text.takeWhile Char.isDigit, rest.takeWhile Char.isDigit,
        readExponent (rest.dropWhile Char.isDigit))
  | rest => (text.takeWhile Char.isDigit, [], readExponent rest)

def partsValue (parts : List Char × List Char × Int) : Rat :=
  digitsValue (parts.1 ++ parts.2.1) * 10 ^ (parts.2.2 - parts.2.1.length)

namespace Numeral

def negative (value : Numeral) : Bool :=
  value.text.head? = some '-'

def unsigned (value : Numeral) : List Char :=
  if value.negative then value.text.tail else value.text

/-- The decimal value without its sign. -/
def magnitude (value : Numeral) : Rat :=
  partsValue (readParts value.unsigned)

end Numeral
end JsonText

/-! ## Doubles -/

structure Double where
  negative : Bool
  magnitude : Rat
  nonnegative : 0 ≤ magnitude
  rounded : Binary64.round magnitude = magnitude
  finite : Binary64.overflows magnitude = false
  deriving DecidableEq

/-- What a number is read as.  Go refuses a number that is out of range, and
JavaScript reads it as an infinity. -/
inductive Reading where
  | finite (value : Double)
  | infinite (negative : Bool)
  deriving DecidableEq

/-! ## Written numbers -/

/-- The fraction with its point. -/
def point (fraction : List Char) : List Char :=
  if fraction = [] then [] else '.' :: fraction

/-- The digits and the exponent are those of a number. -/
structure Written (whole fraction tail : List Char) : Prop where
  wholeDigits : ∀ char ∈ whole, char.isDigit = true
  leading : whole = ['0'] ∨ ∃ first rest, whole = first :: rest ∧ first ≠ '0'
  fractionDigits : ∀ char ∈ fraction, char.isDigit = true
  exponent : isExponent tail = true

namespace Written

variable {whole fraction tail : List Char}

theorem tail_stops (exponent : isExponent tail = true) :
    ∀ char ∈ tail.head?, char.isDigit = false ∧ char ≠ '.' := by
  intro char member
  have marked : forall {mark : Char} {rest : List Char}, tail = mark :: rest ->
      (mark = 'e' || mark = 'E') = true -> char.isDigit = false ∧ char ≠ '.' := by
    intro mark rest same isMark
    rw [same, List.head?_cons, Option.mem_some] at member
    rw [Bool.or_eq_true, decide_eq_true_eq, decide_eq_true_eq] at isMark
    rw [← member]
    rcases isMark with lower | upper
    · rw [lower]
      decide
    · rw [upper]
      decide
  unfold isExponent at exponent
  split at exponent
  · cases member
  all_goals
    rw [Bool.and_eq_true] at exponent
    exact marked rfl exponent.1

theorem point_stops (written : Written whole fraction tail) :
    ∀ char ∈ (point fraction ++ tail).head?, char.isDigit = false := by
  intro char member
  unfold point at member
  split at member
  · exact (tail_stops written.exponent char member).1
  · rw [List.cons_append, List.head?_cons, Option.mem_some] at member
    rw [← member]
    decide

theorem readParts (written : Written whole fraction tail) :
    readParts (whole ++ (point fraction ++ tail)) = (whole, fraction, readExponent tail) := by
  rcases span_append written.wholeDigits written.point_stops with ⟨taken, dropped⟩
  rcases span_append written.fractionDigits (fun char member => (tail_stops written.exponent char member).1) with
    ⟨takenFraction, droppedFraction⟩
  unfold JsonText.readParts
  rw [taken, dropped]
  unfold point
  by_cases none : fraction = []
  · rw [if_pos none, none, List.nil_append]
    split
    · rename_i rest
      exact absurd rfl (tail_stops written.exponent '.' rfl).2
    · rfl
  · rw [if_neg none, List.cons_append]
    simp only [takenFraction, droppedFraction]

theorem isFraction (written : Written whole fraction tail) :
    isFraction (point fraction ++ tail) = true := by
  have stops := tail_stops written.exponent
  unfold point
  by_cases none : fraction = []
  · rw [if_pos none, List.nil_append]
    unfold JsonText.isFraction
    split
    · exact absurd rfl (stops '.' rfl).2
    · exact written.exponent
  · rw [if_neg none]
    rcases List.exists_cons_of_ne_nil none with ⟨first, rest, same⟩
    have digits := written.fractionDigits
    rw [same] at digits ⊢
    change (first.isDigit && isExponent ((rest ++ tail).dropWhile Char.isDigit)) = true
    rw [digits first List.mem_cons_self, Bool.true_and,
      (span_append (fun char member => digits char (List.mem_cons_of_mem _ member))
        (fun char member => (stops char member).1)).2]
    exact written.exponent

theorem isUnsigned (written : Written whole fraction tail) :
    isUnsigned (whole ++ (point fraction ++ tail)) = true := by
  rcases written.leading with zero | ⟨first, rest, same, notZero⟩
  · rw [zero]
    exact written.isFraction
  · have digits := written.wholeDigits
    rw [same] at digits ⊢
    rw [List.cons_append]
    unfold JsonText.isUnsigned
    split
    · rename_i other
      exact absurd (List.cons.inj other).1 notZero
    · rename_i other
      cases other
      rw [digits first List.mem_cons_self, Bool.true_and,
        (span_append (fun char member => digits char (List.mem_cons_of_mem _ member)) written.point_stops).2]
      exact written.isFraction
    · rename_i other
      cases other

end Written

/-! ## Layouts -/

/-- The digits of a positive number, or a zero. -/
structure Digits (digits : List Char) : Prop where
  all : ∀ char ∈ digits, char.isDigit = true
  leading : digits = ['0'] ∨ ∃ first rest, digits = first :: rest ∧ first ≠ '0'

theorem toDigits_leading {value : Nat} (positive : 0 < value) :
    ∃ first rest, Nat.toDigits 10 value = first :: rest ∧ first ≠ '0' := by
  induction value using Nat.strongRecOn with
  | ind value inductionHypothesis =>
      by_cases small : value < 10
      · refine ⟨value.digitChar, [], Nat.toDigits_of_lt_base small, ?_⟩
        have nonzero : ∀ digit < 10, 0 < digit -> Nat.digitChar digit ≠ '0' := by decide
        exact nonzero value small positive
      · rw [Nat.toDigits_of_base_le (by omega) (by omega)]
        rcases inductionHypothesis (value / 10) (by omega) (by omega) with ⟨first, rest, same, nonzero⟩
        exact ⟨first, rest ++ [(value % 10).digitChar], by rw [same, List.cons_append], nonzero⟩

theorem digits_toDigits (value : Nat) : Digits (Nat.toDigits 10 value) where
  all _ member := toDigits_isDigit member
  leading := by
    by_cases zero : value = 0
    · exact Or.inl (by rw [zero]; rfl)
    · exact Or.inr (toDigits_leading (by omega))

/-- The digits with the point where the exponent puts it. -/
def plainParts (digits : List Char) (exponent : Int) : List Char × List Char × List Char :=
  if 0 ≤ exponent then (digits ++ List.replicate exponent.toNat '0', [], [])
  else
    let places := (-exponent).toNat
    if places < digits.length then
      (digits.take (digits.length - places), digits.drop (digits.length - places), [])
    else (['0'], List.replicate (places - digits.length) '0' ++ digits, [])

/-- The exponent with its sign. -/
def exponentText (shifted : Int) : List Char :=
  'e' :: (if shifted < 0 then '-' else '+') :: Nat.toDigits 10 shifted.natAbs

/-- The digits with the point after the first one, and the exponent that this
takes. -/
def scientificParts (digits : List Char) (exponent : Int) : List Char × List Char × List Char :=
  let shifted := exponent + (digits.length - 1 : Nat)
  (digits.take 1, digits.drop 1,
    exponentText shifted)

def joinParts (parts : List Char × List Char × List Char) : List Char :=
  parts.1 ++ (point parts.2.1 ++ parts.2.2)

/-- The parts are those of a number with the value. -/
structure Denotes (parts : List Char × List Char × List Char) (value : Rat) : Prop where
  written : Written parts.1 parts.2.1 parts.2.2
  value : partsValue (parts.1, parts.2.1, readExponent parts.2.2) = value

section

variable {digits : List Char}

theorem digitsValue_zeros (count : Nat) (digits : List Char) :
    digitsValue (List.replicate count '0' ++ digits) = digitsValue digits := by
  unfold digitsValue
  rw [Nat.ofDigitChars_append, Nat.ofDigitChars_replicate_zero, Nat.mul_zero]

theorem digitsValue_append_zeros (digits : List Char) (count : Nat) :
    digitsValue (digits ++ List.replicate count '0') = 10 ^ count * digitsValue digits := by
  unfold digitsValue
  rw [Nat.ofDigitChars_append, Nat.ofDigitChars_replicate_zero]

theorem isDigit_zeros (count : Nat) : ∀ char ∈ List.replicate count '0', char.isDigit = true := by
  intro char member
  rw [List.eq_of_mem_replicate member]
  decide

theorem isDigit_append {first second : List Char} (firstDigits : ∀ char ∈ first, char.isDigit = true)
    (secondDigits : ∀ char ∈ second, char.isDigit = true) :
    ∀ char ∈ first ++ second, char.isDigit = true := by
  intro char member
  rcases List.mem_append.mp member with before | after
  · exact firstDigits char before
  · exact secondDigits char after

theorem plainParts_whole {exponent : Int} (isDigits : Digits digits) (whole : 0 ≤ exponent)
    (zero : digits = ['0'] -> exponent = 0) :
    Denotes (plainParts digits exponent) (digitsValue digits * 10 ^ exponent) := by
  unfold plainParts
  rw [if_pos whole]
  refine ⟨⟨isDigit_append isDigits.all (isDigit_zeros _), ?_, (fun _ member => by cases member), rfl⟩, ?_⟩
  · rcases isDigits.leading with isZero | ⟨first, rest, same, nonzero⟩
    · left
      rw [zero isZero, isZero]
      rfl
    · right
      exact ⟨first, rest ++ List.replicate exponent.toNat '0', by rw [same, List.cons_append], nonzero⟩
  · unfold partsValue
    simp only [List.append_nil]
    rw [digitsValue_append_zeros]
    rcases Int.eq_ofNat_of_zero_le whole with ⟨count, same⟩
    rw [same]
    simp [readExponent, mul_comm]

theorem plainParts_split {exponent : Int} (isDigits : Digits digits) (negative : exponent < 0)
    (fits : (-exponent).toNat < digits.length) :
    Denotes (plainParts digits exponent) (digitsValue digits * 10 ^ exponent) := by
  unfold plainParts
  rw [if_neg (by omega)]
  simp only
  rw [if_pos fits]
  have kept : digits.take (digits.length - (-exponent).toNat) ≠ [] := by
    intro empty
    have length := congrArg List.length empty
    rw [List.length_take, List.length_nil] at length
    omega
  refine ⟨⟨fun char member => isDigits.all char (List.mem_of_mem_take member), ?_,
    fun char member => isDigits.all char (List.mem_of_mem_drop member), rfl⟩, ?_⟩
  · rcases isDigits.leading with isZero | ⟨first, rest, same, nonzero⟩
    · rw [isZero] at fits
      simp only [List.length_singleton] at fits
      omega
    · right
      rcases List.exists_cons_of_ne_nil kept with ⟨head, tail, taken⟩
      refine ⟨head, tail, taken, ?_⟩
      have prefixed := List.take_append_drop (digits.length - (-exponent).toNat) digits
      rw [taken] at prefixed
      conv_rhs at prefixed => rw [same]
      rw [(List.cons.inj prefixed).1]
      exact nonzero
  · unfold partsValue
    simp only [List.take_append_drop]
    have length : ((digits.drop (digits.length - (-exponent).toNat)).length : Int) = -exponent := by
      rw [List.length_drop]
      omega
    rw [length]
    simp [readExponent]

theorem plainParts_small {exponent : Int} (isDigits : Digits digits) (negative : exponent < 0)
    (beyond : digits.length ≤ (-exponent).toNat) :
    Denotes (plainParts digits exponent) (digitsValue digits * 10 ^ exponent) := by
  unfold plainParts
  rw [if_neg (by omega)]
  simp only
  rw [if_neg (by omega)]
  refine ⟨⟨fun char member => ?_, Or.inl rfl, isDigit_append (isDigit_zeros _) isDigits.all, rfl⟩, ?_⟩
  · rw [List.mem_singleton.mp member]
    decide
  · unfold partsValue
    simp only
    have length : ((List.replicate ((-exponent).toNat - digits.length) '0' ++ digits).length : Int) =
        -exponent := by
      rw [List.length_append, List.length_replicate]
      omega
    have value : digitsValue (['0'] ++ (List.replicate ((-exponent).toNat - digits.length) '0' ++ digits)) =
        digitsValue digits := by
      rw [← List.append_assoc]
      exact digitsValue_zeros (_ + 1) digits
    rw [length, value]
    simp [readExponent]

theorem denotes_plainParts {exponent : Int} (isDigits : Digits digits)
    (zero : digits = ['0'] -> exponent = 0) :
    Denotes (plainParts digits exponent) (digitsValue digits * 10 ^ exponent) := by
  by_cases whole : 0 ≤ exponent
  · exact plainParts_whole isDigits whole zero
  · by_cases fits : (-exponent).toNat < digits.length
    · exact plainParts_split isDigits (by omega) fits
    · exact plainParts_small isDigits (by omega) (by omega)

theorem isExponent_exponentText (shifted : Int) : isExponent (exponentText shifted) = true := by
  have digits : JsonText.isDigits (Nat.toDigits 10 shifted.natAbs) = true := by
    unfold JsonText.isDigits
    rw [Bool.and_eq_true, List.all_eq_true]
    refine ⟨?_, fun char member => toDigits_isDigit member⟩
    rcases List.exists_cons_of_ne_nil (@Nat.toDigits_ne_nil shifted.natAbs 10) with ⟨first, rest, same⟩
    rw [same]
    rfl
  unfold exponentText
  split <;> simp [isExponent, digits]

theorem readExponent_exponentText (shifted : Int) : readExponent (exponentText shifted) = shifted := by
  have value : digitsValue (Nat.toDigits 10 shifted.natAbs) = shifted.natAbs :=
    Nat.ofDigitChars_ten_toDigits
  unfold exponentText
  split
  · change -(digitsValue (Nat.toDigits 10 shifted.natAbs) : Int) = shifted
    rw [value]
    omega
  · change (digitsValue (Nat.toDigits 10 shifted.natAbs) : Int) = shifted
    rw [value]
    omega

theorem denotes_scientificParts {exponent : Int} (isDigits : Digits digits) (zero : digits ≠ ['0']) :
    Denotes (scientificParts digits exponent) (digitsValue digits * 10 ^ exponent) := by
  rcases isDigits.leading with isZero | ⟨first, rest, same, nonzero⟩
  · exact absurd isZero zero
  · have all := isDigits.all
    rw [same] at all ⊢
    change Denotes ([first], rest, exponentText (exponent + (rest.length : Nat))) _
    refine ⟨⟨?_, Or.inr ⟨first, [], rfl, nonzero⟩,
      fun char member => all char (List.mem_cons_of_mem _ member), isExponent_exponentText _⟩, ?_⟩
    · intro char member
      rw [List.mem_singleton.mp member]
      exact all first List.mem_cons_self
    · unfold partsValue
      simp only [readExponent_exponentText]
      rw [Int.add_sub_cancel]
      rfl

end

/-! ## The fewest digits -/

/-- The integer times the power of ten is read back as the magnitude. -/
def readsAs (magnitude : Rat) (decimal : Nat × Int) : Bool :=
  Binary64.round (decimal.1 * 10 ^ decimal.2) = magnitude

/-- The decimals around the magnitude with one digit more than `places`, the
nearer one first.  A power of ten is its own first digit. -/
def candidates (magnitude : Rat) (places : Nat) : List (Nat × Int) :=
  let exponent := Int.log 10 magnitude - places
  let scaled := magnitude / 10 ^ exponent
  let below := ⌊scaled⌋.toNat
  let nearest := (Binary64.roundEven scaled).toNat
  let other := if nearest = below then below + 1 else below
  [nearest, other].map fun digits =>
    if digits = 10 ^ (places + 1) then (10 ^ places, exponent + 1) else (digits, exponent)

/-- The decimal with the fewest digits that is read back as the magnitude.
Every double is an integer times a power of ten. -/
def shortest (magnitude : Rat) : Nat × Int :=
  (((List.range 17).flatMap (candidates magnitude)).find? (readsAs magnitude)).getD
    (⌊magnitude * 10 ^ 1074⌋.toNat, -1074)

namespace Double

variable (value : Double)

theorem representable : Binary64.Representable value.magnitude :=
  Binary64.round_eq_self_iff.mp value.rounded

theorem dyadic_scaled (mantissa : Int) (shift depth : Nat) :
    (mantissa : Rat) * 2 ^ ((shift : Int) - depth) * 10 ^ depth =
      ((mantissa * 2 ^ shift * 5 ^ depth : Int) : Rat) := by
  rw [zpow_sub₀ (by norm_num), zpow_natCast, zpow_natCast, show (10 : Rat) = 2 * 5 by norm_num,
    mul_pow]
  push_cast
  field_simp

/-- The last digits of a double stand at most 1074 places behind the point. -/
theorem exact_decimal :
    (⌊value.magnitude * 10 ^ 1074⌋.toNat : Rat) * 10 ^ (-1074 : Int) = value.magnitude := by
  rcases value.representable with ⟨mantissa, exponent, _, least, same⟩
  rcases Int.eq_ofNat_of_zero_le (show 0 ≤ exponent + 1074 by omega) with ⟨shift, shifted⟩
  have scaled : value.magnitude * 10 ^ 1074 = ((mantissa * 2 ^ shift * 5 ^ 1074 : Int) : Rat) := by
    have exponentEq : exponent = (shift : Int) - (1074 : Nat) := by omega
    rw [same, exponentEq]
    exact dyadic_scaled mantissa shift 1074
  have nonnegative : (0 : Rat) ≤ value.magnitude * 10 ^ 1074 :=
    mul_nonneg value.nonnegative (by positivity)
  rw [scaled] at nonnegative ⊢
  have whole : 0 ≤ mantissa * 2 ^ shift * 5 ^ 1074 := by exact_mod_cast nonnegative
  rw [Int.floor_intCast, ← Int.cast_natCast, Int.toNat_of_nonneg whole, ← scaled, zpow_neg,
    mul_assoc]
  have cancel : (10 : Rat) ^ 1074 * ((10 : Rat) ^ (1074 : Int))⁻¹ = 1 := by
    rw [show ((1074 : Int) : Int) = ((1074 : Nat) : Int) from rfl, zpow_natCast]
    exact mul_inv_cancel₀ (by positivity)
  rw [cancel, mul_one]

/-- What is written is read back as the magnitude. -/
theorem round_shortest :
    Binary64.round ((shortest value.magnitude).1 * 10 ^ (shortest value.magnitude).2) =
      value.magnitude := by
  unfold shortest
  cases found : ((List.range 17).flatMap (candidates value.magnitude)).find?
      (readsAs value.magnitude) with
  | none =>
      rw [Option.getD_none, value.exact_decimal]
      exact value.rounded
  | some decimal =>
      have reads := List.find?_some found
      rw [Option.getD_some]
      exact of_decide_eq_true reads

theorem shortest_zero : shortest 0 = (0, 0) := by
  decide +kernel

/-- Whether the magnitude is written with an exponent. -/
def needsExponent : Bool :=
  value.magnitude ≠ 0 && (value.magnitude < Binary64.round (1 / 10 ^ 6) || 10 ^ 21 ≤ value.magnitude)

/-- The parts of the number that is written for the magnitude. -/
def parts : List Char × List Char × List Char :=
  let decimal := shortest value.magnitude
  if value.needsExponent then scientificParts (Nat.toDigits 10 decimal.1) decimal.2
  else plainParts (Nat.toDigits 10 decimal.1) decimal.2

theorem shortest_eq_zero (zero : Nat.toDigits 10 (shortest value.magnitude).1 = ['0']) :
    value.magnitude = 0 := by
  have none : (shortest value.magnitude).1 = 0 := by
    by_contra positive
    rcases toDigits_leading (Nat.pos_of_ne_zero positive) with ⟨first, rest, same, nonzero⟩
    rw [zero] at same
    exact nonzero (List.cons.inj same).1.symm
  have reads := value.round_shortest
  have roundZero : Binary64.round 0 = 0 := by decide +kernel
  rw [none, Nat.cast_zero, zero_mul, roundZero] at reads
  exact reads.symm

theorem denotes_parts : Denotes value.parts
    ((shortest value.magnitude).1 * 10 ^ (shortest value.magnitude).2) := by
  have digits := digits_toDigits (shortest value.magnitude).1
  have same : digitsValue (Nat.toDigits 10 (shortest value.magnitude).1) =
      (shortest value.magnitude).1 := Nat.ofDigitChars_ten_toDigits
  rw [← same]
  unfold parts
  simp only
  split
  · rename_i exponent
    apply denotes_scientificParts digits
    intro zero
    unfold needsExponent at exponent
    rw [value.shortest_eq_zero zero] at exponent
    cases exponent
  · apply denotes_plainParts digits
    intro zero
    rw [value.shortest_eq_zero zero, shortest_zero]

/-- The digits of a number do not begin with a sign. -/
theorem not_sign {text : List Char} (unsigned : isUnsigned text = true) : text.head? ≠ some '-' := by
  intro sign
  cases text with
  | nil => cases sign
  | cons first rest =>
      rw [List.head?_cons, Option.some.injEq] at sign
      rw [sign] at unsigned
      cases unsigned

def text : List Char :=
  if value.negative then '-' :: joinParts value.parts else joinParts value.parts

theorem isUnsigned_parts : isUnsigned (joinParts value.parts) = true :=
  value.denotes_parts.written.isUnsigned

theorem isNumeral_text : isNumeral value.text = true := by
  have unsigned := value.isUnsigned_parts
  unfold text
  split
  · exact unsigned
  · unfold isNumeral
    split
    · rename_i rest same
      rw [same] at unsigned
      exact absurd rfl (not_sign unsigned)
    · exact unsigned

/-- The number that the encoder writes for a double. -/
def format : Numeral where
  text := value.text
  valid := value.isNumeral_text

theorem format_negative : value.format.negative = value.negative := by
  have head := not_sign value.isUnsigned_parts
  change decide (value.text.head? = some '-') = _
  unfold text
  cases value.negative with
  | true => rfl
  | false => exact decide_eq_false head

theorem format_magnitude : value.format.magnitude =
    (shortest value.magnitude).1 * 10 ^ (shortest value.magnitude).2 := by
  have unsigned : value.format.unsigned = joinParts value.parts := by
    unfold Numeral.unsigned
    rw [format_negative]
    change (if value.negative = true then value.text.tail else value.text) = _
    unfold text
    cases value.negative <;> rfl
  unfold Numeral.magnitude
  rw [unsigned]
  unfold joinParts
  rw [value.denotes_parts.written.readParts]
  exact value.denotes_parts.value

end Double

/-! ## Reading -/

theorem Binary64.round_nonneg {value : Rat} (nonnegative : 0 ≤ value) : 0 ≤ Binary64.round value := by
  unfold Binary64.round
  apply mul_nonneg _ (Binary64.two_zpow_pos _).le
  have scaled : 0 ≤ value / 2 ^ Binary64.spacing value :=
    div_nonneg nonnegative (Binary64.two_zpow_pos _).le
  have floor : 0 ≤ ⌊value / 2 ^ Binary64.spacing value⌋ := Int.floor_nonneg.mpr scaled
  have bounds := (Binary64.roundEven_bounds (value / 2 ^ Binary64.spacing value)).1
  exact_mod_cast floor.trans bounds

theorem JsonText.Numeral.magnitude_nonneg (value : Numeral) : 0 ≤ value.magnitude := by
  unfold Numeral.magnitude partsValue
  exact mul_nonneg (Nat.cast_nonneg _) (zpow_nonneg (by norm_num) _)

theorem Binary64.round_round (value : Rat) : Binary64.round (Binary64.round value) = Binary64.round value :=
  Binary64.round_eq_self (Binary64.representable_round value)

/-- A number, rounded once. -/
def read (value : Numeral) : Reading :=
  if finite : Binary64.overflows (Binary64.round value.magnitude) = false then
    .finite
      { negative := value.negative
        magnitude := Binary64.round value.magnitude
        nonnegative := Binary64.round_nonneg value.magnitude_nonneg
        rounded := Binary64.round_round value.magnitude
        finite := finite }
  else .infinite value.negative

theorem read_finite (value : Numeral)
    (finite : Binary64.overflows (Binary64.round value.magnitude) = false) :
    ∃ double, read value = .finite double ∧ double.negative = value.negative ∧
      double.magnitude = Binary64.round value.magnitude :=
  ⟨_, dif_pos finite, rfl, rfl⟩

/-- A double that was written is read back. -/
theorem read_format (value : Double) : read value.format = .finite value := by
  have magnitude : Binary64.round value.format.magnitude = value.magnitude := by
    rw [value.format_magnitude]
    exact value.round_shortest
  unfold read
  rw [dif_pos (by rw [magnitude]; exact value.finite)]
  congr 1
  cases value
  simp only [Double.mk.injEq]
  exact ⟨Double.format_negative _, magnitude⟩

end Foundation
