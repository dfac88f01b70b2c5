import FederatedIot.Foundation.JsonCoding
import FederatedIot.Foundation.Utf8

namespace Foundation

open JsonText

/-!
# JSON in a table

A column of the type `jsonb` keeps the exact decimal of every number, one member
for every name, and the members ordered by the length of their names.  It keeps
no sign of a zero, and it refuses a text with a null character.  So a value
comes back as it was stored, up to the order of the members, except that a
negative zero has lost its sign.

The spaces that are put between the tokens of a text are left out here.
-/

/-! ## Decimals -/

namespace Decimal

/-- The decimal that a number denotes, with as many digits after the point as the number has. -/
def ofNumeral (value : Numeral) : Decimal :=
  let parts := readParts value.unsigned
  let digits := digitsValue (parts.1 ++ parts.2.1)
  let signed : Int := if value.negative then -digits else digits
  let places : Int := parts.2.1.length - parts.2.2
  if 0 ≤ places then ⟨signed, places.toNat⟩ else ⟨signed * 10 ^ (-places).toNat, 0⟩

/-- The digits after the point. -/
def fractionDigits (literal : Decimal) : List Char :=
  if literal.scale = 0 then []
  else
    List.replicate
      (literal.scale - (Nat.toDigits 10 (literal.mantissa.natAbs % 10 ^ literal.scale)).length) '0' ++
      Nat.toDigits 10 (literal.mantissa.natAbs % 10 ^ literal.scale)

variable (literal : Decimal)

theorem fraction_eq_point : literal.fraction = point literal.fractionDigits := by
  unfold fraction fractionDigits point
  by_cases whole : literal.scale = 0
  · rw [if_pos whole, if_pos whole, if_pos rfl]
  · rw [if_neg whole, if_neg whole, if_neg]
    intro none
    have digits := (List.append_eq_nil_iff.mp none).2
    rcases (digits_toDigits (literal.mantissa.natAbs % 10 ^ literal.scale)).leading with zero | ⟨_, _, same, _⟩
    · rw [digits] at zero
      cases zero
    · rw [digits] at same
      cases same

theorem length_fractionDigits : literal.fractionDigits.length = literal.scale := by
  unfold fractionDigits
  by_cases whole : literal.scale = 0
  · rw [if_pos whole, whole]
    rfl
  · have fits : (Nat.toDigits 10 (literal.mantissa.natAbs % 10 ^ literal.scale)).length ≤ literal.scale := by
      rw [Nat.length_toDigits_le_iff (by omega) (by omega)]
      exact Nat.mod_lt _ (Nat.pow_pos (by omega))
    rw [if_neg whole, List.length_append, List.length_replicate]
    omega

theorem digitsValue_fractionDigits :
    digitsValue literal.fractionDigits = literal.mantissa.natAbs % 10 ^ literal.scale := by
  unfold fractionDigits
  by_cases whole : literal.scale = 0
  · rw [if_pos whole, whole, Nat.pow_zero, Nat.mod_one]
    rfl
  · rw [if_neg whole, digitsValue_zeros]
    exact Nat.ofDigitChars_ten_toDigits

theorem written : Written (Nat.toDigits 10 (literal.mantissa.natAbs / 10 ^ literal.scale))
    literal.fractionDigits [] where
  wholeDigits _ member := toDigits_isDigit member
  leading := (digits_toDigits _).leading
  fractionDigits := by
    unfold fractionDigits
    split
    · intro char member
      cases member
    · exact isDigit_append (isDigit_zeros _) fun _ member => toDigits_isDigit member
  exponent := rfl

/-- The text without its sign. -/
def unsignedText : List Char :=
  Nat.toDigits 10 (literal.mantissa.natAbs / 10 ^ literal.scale) ++ (point literal.fractionDigits ++ [])

theorem text_eq : literal.text.toList = literal.sign ++ literal.unsignedText := by
  rw [text_toList, fraction_eq_point, unsignedText, List.append_nil]

theorem isNumeral_text : isNumeral literal.text.toList = true := by
  have unsigned := literal.written.isUnsigned
  rw [text_eq, sign]
  split
  · exact unsigned
  · rw [List.nil_append]
    unfold isNumeral
    split
    · rename_i rest same
      rw [unsignedText] at same
      rw [same] at unsigned
      exact absurd rfl (Double.not_sign unsigned)
    · exact unsigned

/-- The number that is written for a decimal. -/
def numeral : Numeral where
  text := literal.text.toList
  valid := literal.isNumeral_text

theorem numeral_negative : literal.numeral.negative = decide (literal.mantissa < 0) := by
  have head := Double.not_sign literal.written.isUnsigned
  change decide (literal.text.toList.head? = some '-') = _
  rw [text_eq, sign]
  by_cases negative : literal.mantissa < 0
  · rw [if_pos negative, decide_eq_true negative]
    rfl
  · rw [if_neg negative, List.nil_append, decide_eq_false negative]
    exact decide_eq_false head

theorem numeral_magnitude : literal.numeral.magnitude = literal.mantissa.natAbs / 10 ^ literal.scale := by
  have unsigned : literal.numeral.unsigned = literal.unsignedText := by
    unfold Numeral.unsigned
    rw [numeral_negative]
    change (if decide (literal.mantissa < 0) = true then literal.text.toList.tail else literal.text.toList) = _
    rw [text_eq, sign]
    by_cases negative : literal.mantissa < 0
    · rw [if_pos negative, if_pos (decide_eq_true negative)]
      rfl
    · rw [if_neg negative, if_neg (by rw [decide_eq_false negative]; exact Bool.false_ne_true), List.nil_append]
  have digits : digitsValue (Nat.toDigits 10 (literal.mantissa.natAbs / 10 ^ literal.scale) ++
      literal.fractionDigits) = literal.mantissa.natAbs := by
    have fraction := literal.digitsValue_fractionDigits
    have length := literal.length_fractionDigits
    unfold digitsValue at fraction ⊢
    rw [Nat.ofDigitChars_append, Nat.ofDigitChars_eq_ofDigitChars_zero, Nat.ofDigitChars_ten_toDigits, fraction, length]
    exact Nat.div_add_mod _ _
  unfold Numeral.magnitude
  rw [unsigned, unsignedText, literal.written.readParts]
  unfold partsValue
  rw [digits, length_fractionDigits]
  change (literal.mantissa.natAbs : Rat) * 10 ^ ((0 : Int) - literal.scale) = _
  rw [zero_sub, zpow_neg, zpow_natCast, div_eq_mul_inv]

variable (value : Numeral)

/-- No digit is lost. -/
theorem ofNumeral_magnitude :
    ((ofNumeral value).mantissa.natAbs : Rat) / 10 ^ (ofNumeral value).scale = value.magnitude := by
  have signed : forall digits : Nat, (if value.negative then -(digits : Int) else (digits : Int)).natAbs = digits := by
    intro digits
    split <;> simp
  unfold ofNumeral Numeral.magnitude partsValue
  simp only
  split
  · rename_i within
    simp only [signed]
    rw [div_eq_mul_inv, ← zpow_natCast, ← zpow_neg, Int.toNat_of_nonneg within]
    congr 2
    omega
  · rename_i beyond
    simp only [Int.natAbs_mul, signed, Int.natAbs_pow, pow_zero, div_one]
    push_cast
    congr 1
    rw [← zpow_natCast, Int.toNat_of_nonneg (by omega), neg_sub]

/-- A zero has no sign. -/
theorem ofNumeral_negative : (ofNumeral value).mantissa < 0 ↔ value.negative = true ∧ value.magnitude ≠ 0 := by
  have zero : value.magnitude = 0 ↔
      digitsValue ((readParts value.unsigned).1 ++ (readParts value.unsigned).2.1) = 0 := by
    unfold Numeral.magnitude partsValue
    rw [mul_eq_zero, Nat.cast_eq_zero, or_iff_left]
    exact zpow_ne_zero _ (by norm_num)
  rw [Ne, zero]
  unfold ofNumeral
  simp only
  cases value.negative with
  | true =>
      simp only [if_true, true_and]
      split
      · simp only [Left.neg_neg_iff]
        omega
      · have scale : (0 : Int) < 10 ^ (-((readParts value.unsigned).2.1.length - (readParts value.unsigned).2.2 : Int)).toNat :=
          pow_pos (by norm_num) _
        simp only [neg_mul, Left.neg_neg_iff]
        rw [mul_pos_iff_of_pos_right scale]
        omega
  | false =>
      simp only [Bool.false_eq_true, if_false, false_and, iff_false, not_lt]
      split
      · exact Nat.cast_nonneg _
      · exact mul_nonneg (Nat.cast_nonneg _) (pow_nonneg (by norm_num) _)

end Decimal

/-! ## Signs of zeros -/

namespace Double

def IsNegativeZero (value : Double) : Prop :=
  value.negative = true ∧ value.magnitude = 0

instance isNegativeZeroDecidable (value : Double) : Decidable value.IsNegativeZero :=
  inferInstanceAs (Decidable (value.negative = true ∧ value.magnitude = 0))

/-- The double without the sign of a zero. -/
def clearZero (value : Double) : Double :=
  { value with negative := value.negative && decide (value.magnitude ≠ 0) }

variable (value : Double)

theorem clearZero_eq_self_iff : value.clearZero = value ↔ ¬value.IsNegativeZero := by
  unfold clearZero IsNegativeZero
  cases value with
  | mk negative magnitude nonnegative rounded finite =>
      cases negative with
      | false => simp
      | true => simp

theorem clearZero_not_negative : ¬value.clearZero.IsNegativeZero := by
  rintro ⟨negative, zero⟩
  have nonzero := of_decide_eq_true (Bool.and_eq_true_iff.mp negative).2
  exact nonzero zero

theorem format_magnitude_eq_zero_iff : value.format.magnitude = 0 ↔ value.magnitude = 0 := by
  rw [value.format_magnitude]
  constructor
  · intro zero
    have reads := value.round_shortest
    have roundZero : Binary64.round 0 = 0 := by decide +kernel
    rw [zero, roundZero] at reads
    exact reads.symm
  · intro zero
    rw [zero, shortest_zero, Nat.cast_zero, zero_mul]

/-- A double that was stored as a decimal is read back without the sign of a zero. -/
theorem finite?_stored : finite? (Decimal.ofNumeral value.format).numeral = some value.clearZero := by
  have rounded : Binary64.round (Decimal.ofNumeral value.format).numeral.magnitude = value.magnitude := by
    rw [Decimal.numeral_magnitude, Decimal.ofNumeral_magnitude, value.format_magnitude]
    exact value.round_shortest
  have negative : (Decimal.ofNumeral value.format).numeral.negative = (value.negative && decide (value.magnitude ≠ 0)) := by
    rw [Decimal.numeral_negative, Bool.eq_iff_iff, decide_eq_true_eq, Decimal.ofNumeral_negative, Bool.and_eq_true,
      decide_eq_true_eq, value.format_negative, Ne, value.format_magnitude_eq_zero_iff]
  unfold finite? read
  rw [dif_pos (by rw [rounded]; exact value.finite)]
  simp only [Option.some.injEq, clearZero, Double.mk.injEq]
  exact ⟨negative, rounded⟩

end Double

/-! ## Stored values -/

namespace Jsonb

mutual

/-- Whether a text or a name of the document has the character. -/
def mentions {Number : Type*} (char : Char) : Document Number -> Bool
  | .string value => char ∈ value
  | .array items => mentionsItems char items
  | .object members => mentionsMembers char members
  | .null | .bool _ | .number _ => false

def mentionsItems {Number : Type*} (char : Char) : List (Document Number) -> Bool
  | [] => false
  | item :: rest => mentions char item || mentionsItems char rest

def mentionsMembers {Number : Type*} (char : Char) : List (List Char × Document Number) -> Bool
  | [] => false
  | (name, value) :: rest => char ∈ name || mentions char value || mentionsMembers char rest

end

/-- Shorter names first, as their bytes are compared. -/
def nameOrder : NameOrder :=
  byLength fun name => (Utf8.encode name).length

/-- `text::jsonb` -/
def ofText (text : List Char) : Option (Document Decimal) :=
  (parse text).bind fun document =>
    if mentions (Char.ofNat 0) document then none
    else some ((document.map Decimal.ofNumeral).collapse.sort nameOrder)

/-- `value::text` -/
def text (stored : Document Decimal) : List Char :=
  print (stored.map Decimal.numeral)

variable {value : Document Double} {stored : Document Decimal}

/-- An encoded value without null characters is stored. -/
theorem ofText_marshal (clean : mentions (Char.ofNat 0) ((value.sort byText).map Double.format) = false) :
    exists stored, ofText (marshal value) = some stored := by
  unfold ofText marshal
  rw [parse_print, Option.bind_some, if_neg (by rw [clean]; exact Bool.false_ne_true)]
  exact ⟨_, rfl⟩

/-- What an encoded value is read as after it was stored. -/
theorem unmarshal_text_eq (distinct : value.Distinct) (isStored : ofText (marshal value) = some stored) :
    unmarshal (text stored) = some (((value.sort byText).sort nameOrder).map Double.clearZero) := by
  have sorted := distinct.sort byText
  have storedAs : stored = ((value.sort byText).sort nameOrder).map (Decimal.ofNumeral ∘ Double.format) := by
    unfold ofText marshal at isStored
    rw [parse_print, Option.bind_some] at isStored
    split at isStored
    · cases isStored
    · rw [Document.map_map, (sorted.map _).collapse, ← Document.map_sort] at isStored
      exact (Option.some.inj isStored).symm
  rw [text, storedAs, Document.map_map]
  exact @unmarshal_print Double (Decimal.numeral ∘ Decimal.ofNumeral ∘ Double.format) Double.clearZero _
    Double.finite?_stored (sorted.sort nameOrder)

/-- An encoded value comes back in another order and without the signs of its zeros. -/
theorem unmarshal_text (distinct : value.Distinct) (isStored : ofText (marshal value) = some stored) :
    ∃ back, unmarshal (text stored) = some back ∧ Document.Reorder (value.map Double.clearZero) back := by
  refine ⟨_, unmarshal_text_eq distinct isStored, ?_⟩
  rw [Document.map_sort, Document.map_sort]
  exact Document.Reorder.trans (Document.reorder_sort byText _) (Document.reorder_sort nameOrder _)

/-- The encoding survives exactly when no zero has a sign. -/
theorem marshal_clearZero_iff (distinct : value.Distinct) :
    marshal (value.map Double.clearZero) = marshal value ↔ value.Numbers fun number => ¬number.IsNegativeZero := by
  have pointwise : (value.sort byText).map Double.clearZero = value.sort byText ↔
      value.Numbers fun number => ¬number.IsNegativeZero := by
    rw [Document.map_eq_self_iff, Document.numbers_sort_iff]
    simp only [Double.clearZero_eq_self_iff]
  rw [← pointwise, Document.map_sort]
  constructor
  · exact sort_of_marshal (distinct.map _) distinct
  · intro same
    unfold marshal
    rw [same]

/-- What is stored is encoded as before when no zero has a sign. -/
theorem marshal_stored_iff (distinct : value.Distinct) (isStored : ofText (marshal value) = some stored) :
    ∃ back, unmarshal (text stored) = some back ∧
      (marshal back = marshal value ↔ value.Numbers fun number => ¬number.IsNegativeZero) := by
  rcases unmarshal_text distinct isStored with ⟨back, decoded, reorder⟩
  refine ⟨back, decoded, ?_⟩
  rw [← marshal_reorder reorder (distinct.map _)]
  exact marshal_clearZero_iff distinct

end Jsonb
end Foundation
