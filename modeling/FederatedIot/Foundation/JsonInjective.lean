import FederatedIot.Foundation.JsonEncoding
import Mathlib.Data.List.Basic

namespace Foundation

/-!
# The encoding is injective

Distinct values have distinct encodings.  The statement that goes through by
induction is about prefixes: when the encodings of two values, each followed by
a text that does not continue a number, are equal, then so are the values and
the texts that follow.  Texts and numbers are the leaves of the induction, and
the first character of an encoding tells the kind of the value.
-/

/-! ## Common prefixes -/

/-- Two texts over the same alphabet, each followed by a text that does not
begin with a character of the alphabet. -/
theorem span_cancel {α : Type*} {alphabet : α -> Bool} {first second rest others : List α}
    (firstWithin : ∀ letter ∈ first, alphabet letter = true)
    (secondWithin : ∀ letter ∈ second, alphabet letter = true)
    (restStops : ∀ letter ∈ rest.head?, alphabet letter = false)
    (othersStop : ∀ letter ∈ others.head?, alphabet letter = false)
    (same : first ++ rest = second ++ others) : first = second ∧ rest = others := by
  induction first generalizing second with
  | nil =>
      cases second with
      | nil => exact ⟨rfl, same⟩
      | cons letter _ =>
          have stops := restStops letter (by rw [show rest = _ from same]; rfl)
          rw [secondWithin letter List.mem_cons_self] at stops
          cases stops
  | cons letter tail inductionHypothesis =>
      cases second with
      | nil =>
          have stops := othersStop letter (by rw [← show _ = others from same]; rfl)
          rw [firstWithin letter List.mem_cons_self] at stops
          cases stops
      | cons other otherTail =>
          rw [List.cons_append, List.cons_append, List.cons.injEq] at same
          have tails := inductionHypothesis
            (fun member inside => firstWithin member (List.mem_cons_of_mem letter inside))
            (fun member inside => secondWithin member (List.mem_cons_of_mem other inside)) same.2
          exact ⟨by rw [same.1, tails.1], tails.2⟩

/-! ## Numbers -/

/-- The characters of a number. -/
def isNumberChar (char : Char) : Bool :=
  char.isDigit || char = '-' || char = '.'

/-- The text does not continue a number. -/
def Delimited (rest : List Char) : Prop :=
  ∀ char ∈ rest.head?, isNumberChar char = false

theorem delimited_cons {char : Char} {rest : List Char} (stops : isNumberChar char = false) :
    Delimited (char :: rest) := by
  intro first isFirst
  rw [List.head?_cons, Option.mem_some] at isFirst
  rw [← isFirst]
  exact stops

theorem toDigits_isDigit {value : Nat} {char : Char} (member : char ∈ Nat.toDigits 10 value) :
    char.isDigit = true :=
  Nat.isDigit_of_mem_toDigits (by omega) (by omega) member

theorem toDigits_injective {first second : Nat} (same : Nat.toDigits 10 first = Nat.toDigits 10 second) :
    first = second := by
  rw [← @Nat.ofDigitChars_ten_toDigits first, same, Nat.ofDigitChars_ten_toDigits]

namespace Decimal

/-- The part of a literal's text after the whole number. -/
def fraction (literal : Decimal) : List Char :=
  if literal.scale = 0 then []
  else
    '.' :: (List.replicate
      (literal.scale - (Nat.toDigits 10 (literal.mantissa.natAbs % 10 ^ literal.scale)).length) '0' ++
      Nat.toDigits 10 (literal.mantissa.natAbs % 10 ^ literal.scale))

def sign (literal : Decimal) : List Char :=
  if literal.mantissa < 0 then ['-'] else []

theorem text_toList (literal : Decimal) :
    literal.text.toList = literal.sign ++
      (Nat.toDigits 10 (literal.mantissa.natAbs / 10 ^ literal.scale) ++ literal.fraction) := by
  have length_repr : forall value : Nat, value.repr.length = (Nat.toDigits 10 value).length := by
    intro value
    rw [Nat.repr_eq_ofList_toDigits, String.length_ofList]
  unfold text sign fraction
  by_cases negative : literal.mantissa < 0 <;> by_cases whole : literal.scale = 0
  all_goals simp [negative, whole, String.toList_append, length_repr]

theorem fraction_stops (literal : Decimal) :
    ∀ char ∈ literal.fraction.head?, char.isDigit = false := by
  unfold fraction
  split
  · intro char member
    cases member
  · intro char member
    rw [List.head?_cons, Option.mem_some] at member
    rw [← member]
    decide

theorem text_isNumberChar (literal : Decimal) :
    ∀ char ∈ literal.text.toList, isNumberChar char = true := by
  have digits : forall value, ∀ char ∈ Nat.toDigits 10 value, isNumberChar char = true := by
    intro value char member
    unfold isNumberChar
    rw [toDigits_isDigit member]
    rfl
  intro char member
  rw [text_toList, List.mem_append, List.mem_append] at member
  rcases member with isSign | isWhole | isFraction
  · unfold sign at isSign
    split at isSign
    · rw [List.mem_singleton.mp isSign]
      decide
    · cases isSign
  · exact digits _ char isWhole
  · unfold fraction at isFraction
    split at isFraction
    · cases isFraction
    · rcases List.mem_cons.mp isFraction with isPoint | isDigits
      · rw [isPoint]
        decide
      · rcases List.mem_append.mp isDigits with isZero | isRest
        · rw [List.eq_of_mem_replicate isZero]
          decide
        · exact digits _ char isRest

/-- The digits after the point, as many as the scale says, denote the remainder. -/
theorem fraction_eq {literal other : Decimal} (same : literal.fraction = other.fraction) :
    literal.scale = other.scale ∧
      literal.mantissa.natAbs % 10 ^ literal.scale = other.mantissa.natAbs % 10 ^ other.scale := by
  have fits : forall value scale : Nat, scale ≠ 0 ->
      (Nat.toDigits 10 (value % 10 ^ scale)).length ≤ scale := by
    intro value scale positive
    rw [Nat.length_toDigits_le_iff (by omega) (by omega)]
    exact Nat.mod_lt value (Nat.pow_pos (by omega))
  unfold fraction at same
  by_cases whole : literal.scale = 0
  · by_cases otherWhole : other.scale = 0
    · rw [whole, otherWhole, Nat.pow_zero, Nat.mod_one, Nat.mod_one]
      exact ⟨rfl, rfl⟩
    · rw [if_pos whole, if_neg otherWhole] at same
      cases same
  · by_cases otherWhole : other.scale = 0
    · rw [if_neg whole, if_pos otherWhole] at same
      cases same
    · rw [if_neg whole, if_neg otherWhole, List.cons.injEq] at same
      have digits := same.2
      constructor
      · have lengths := congrArg List.length digits
        have first := fits literal.mantissa.natAbs literal.scale whole
        have second := fits other.mantissa.natAbs other.scale otherWhole
        rw [List.length_append, List.length_append, List.length_replicate,
          List.length_replicate] at lengths
        omega
      · have values := congrArg (fun text => Nat.ofDigitChars 10 text 0) digits
        simp only [Nat.ofDigitChars_append, Nat.ofDigitChars_replicate_zero, Nat.mul_zero,
          Nat.ofDigitChars_ten_toDigits] at values
        exact values

theorem sign_cancel {literal other : Decimal} {rest others : List Char}
    (restDigit : ∀ char ∈ rest.head?, char.isDigit = true)
    (othersDigit : ∀ char ∈ others.head?, char.isDigit = true)
    (same : literal.sign ++ rest = other.sign ++ others) :
    (literal.mantissa < 0 ↔ other.mantissa < 0) ∧ rest = others := by
  unfold sign at same
  by_cases negative : literal.mantissa < 0 <;> by_cases otherNegative : other.mantissa < 0
  · rw [if_pos negative, if_pos otherNegative] at same
    exact ⟨⟨fun _ => otherNegative, fun _ => negative⟩, List.append_cancel_left same⟩
  · rw [if_pos negative, if_neg otherNegative, List.nil_append] at same
    have digit := othersDigit '-' (by rw [← same]; rfl)
    cases digit
  · rw [if_neg negative, if_pos otherNegative, List.nil_append] at same
    have digit := restDigit '-' (by rw [same]; rfl)
    cases digit
  · rw [if_neg negative, if_neg otherNegative] at same
    exact ⟨⟨fun is => absurd is negative, fun is => absurd is otherNegative⟩, same⟩

theorem text_injective {literal other : Decimal} (same : literal.text.toList = other.text.toList) :
    literal = other := by
  have startsWithDigit : forall number : Decimal, ∀ char ∈
      (Nat.toDigits 10 (number.mantissa.natAbs / 10 ^ number.scale) ++ number.fraction).head?,
      char.isDigit = true := by
    intro number char member
    rw [List.head?_append_of_ne_nil _ Nat.toDigits_ne_nil] at member
    exact toDigits_isDigit (List.mem_of_mem_head? member)
  rw [text_toList, text_toList] at same
  rcases sign_cancel (startsWithDigit literal) (startsWithDigit other) same with ⟨signs, tails⟩
  rcases span_cancel (fun _ => toDigits_isDigit) (fun _ => toDigits_isDigit)
    (fraction_stops literal) (fraction_stops other) tails with ⟨wholes, fractions⟩
  rcases fraction_eq fractions with ⟨scales, remainders⟩
  have quotients := toDigits_injective wholes
  have magnitudes : literal.mantissa.natAbs = other.mantissa.natAbs := by
    rw [← Nat.div_add_mod literal.mantissa.natAbs (10 ^ literal.scale), quotients, remainders, scales,
      Nat.div_add_mod]
  have mantissas : literal.mantissa = other.mantissa := by omega
  cases literal
  cases other
  exact congrArg₂ Decimal.mk mantissas scales

end Decimal

namespace Json

/-! ## Texts -/

def hexValue (digit : Char) : Nat :=
  "0123456789abcdef".toList.idxOf digit

theorem hexValue_hexDigit : ∀ value < 16, hexValue (hexDigit value) = value := by
  decide

/-- The character behind a backslash, and the text that follows it. -/
def decodeEscape : List Char -> Option (Char × List Char)
  | 'n' :: rest => some ('\n', rest)
  | 'r' :: rest => some ('\r', rest)
  | 't' :: rest => some ('\t', rest)
  | 'b' :: rest => some (Char.ofNat 8, rest)
  | 'f' :: rest => some (Char.ofNat 12, rest)
  | 'u' :: first :: second :: third :: fourth :: rest =>
      some (Char.ofNat (hexValue first * 4096 + hexValue second * 256 + hexValue third * 16 +
        hexValue fourth), rest)
  | char :: rest => some (char, rest)
  | [] => none

/-- The first character that an encoded text denotes. -/
def decodeChar : List Char -> Option (Char × List Char)
  | '\\' :: rest => decodeEscape rest
  | char :: rest => some (char, rest)
  | [] => none

theorem decodeChar_hexEscape {char : Char} (short : char.toNat < 65536) (rest : List Char) :
    decodeChar (hexEscape char.toNat ++ rest) = some (char, rest) := by
  change some (Char.ofNat _, rest) = _
  have digit : forall value : Nat, hexValue (hexDigit (value % 16)) = value % 16 :=
    fun value => hexValue_hexDigit (value % 16) (Nat.mod_lt value (by omega))
  rw [digit, digit, digit, digit]
  have code : char.toNat / 4096 % 16 * 4096 + char.toNat / 256 % 16 * 256 +
      char.toNat / 16 % 16 * 16 + char.toNat % 16 = char.toNat := by omega
  rw [code, Char.ofNat_toNat]

theorem short_of_needsHexEscape {char : Char} (needs : needsHexEscape char = true) :
    char.toNat < 65536 := by
  unfold needsHexEscape at needs
  simp only [Bool.or_eq_true, decide_eq_true_eq] at needs
  rcases needs with ((((control | less) | greater) | ampersand) | line) | paragraph
  · omega
  · rw [less]
    decide
  · rw [greater]
    decide
  · rw [ampersand]
    decide
  · omega
  · omega

/-- Decoding inverts the encoding of one character. -/
theorem decodeChar_encodeChar (char : Char) (rest : List Char) :
    decodeChar (encodeChar char ++ rest) = some (char, rest) := by
  unfold encodeChar
  split
  · rename_i quotation
    rw [quotation]
    rfl
  · split
    · rename_i backslash
      rw [backslash]
      rfl
    · rename_i notBackslash
      split
      · rename_i newline
        rw [newline]
        rfl
      · split
        · rename_i carriage
          rw [carriage]
          rfl
        · split
          · rename_i tab
            rw [tab]
            rfl
          · split
            · rename_i backspace
              rw [← Char.ofNat_toNat char, backspace]
              rfl
            · split
              · rename_i formFeed
                rw [← Char.ofNat_toNat char, formFeed]
                rfl
              · split
                · rename_i needs
                  exact decodeChar_hexEscape (short_of_needsHexEscape needs) rest
                · unfold decodeChar
                  split
                  · rename_i same
                    exact absurd (List.cons.inj same).1 notBackslash
                  · rename_i same
                    cases same
                    rfl
                  · rename_i same
                    cases same

theorem encodeChar_cancel {char other : Char} {rest others : List Char}
    (same : encodeChar char ++ rest = encodeChar other ++ others) : char = other ∧ rest = others := by
  have decoded := decodeChar_encodeChar char rest
  rw [same, decodeChar_encodeChar, Option.some.injEq, Prod.mk.injEq] at decoded
  exact ⟨decoded.1.symm, decoded.2.symm⟩

/-- The encoding of a character does not begin with the quotation mark. -/
theorem encodeChar_ne_quote (char : Char) (rest others : List Char) :
    encodeChar char ++ rest ≠ '"' :: others := by
  intro same
  have decoded := decodeChar_encodeChar char rest
  rw [same] at decoded
  have isQuote : '"' = char := (Prod.mk.inj (Option.some.inj decoded)).1
  rw [← isQuote] at same
  cases same

theorem encodeText_cancel {first second rest others : List Char}
    (same : encodeText first ++ '"' :: rest = encodeText second ++ '"' :: others) :
    first = second ∧ rest = others := by
  induction first generalizing second with
  | nil =>
      cases second with
      | nil => exact ⟨rfl, (List.cons.inj same).2⟩
      | cons other otherTail =>
          unfold encodeText at same
          rw [List.flatMap_cons, List.append_assoc] at same
          exact absurd same.symm (encodeChar_ne_quote other _ rest)
  | cons char tail inductionHypothesis =>
      cases second with
      | nil =>
          unfold encodeText at same
          rw [List.flatMap_cons, List.append_assoc] at same
          exact absurd same (encodeChar_ne_quote char _ others)
      | cons other otherTail =>
          unfold encodeText at same inductionHypothesis
          rw [List.flatMap_cons, List.flatMap_cons, List.append_assoc, List.append_assoc] at same
          rcases encodeChar_cancel same with ⟨heads, tails⟩
          rcases inductionHypothesis tails with ⟨sameTail, sameRest⟩
          exact ⟨by rw [heads, sameTail], sameRest⟩

theorem encodeString_cancel {first second : String} {rest others : List Char}
    (same : encodeString first ++ rest = encodeString second ++ others) :
    first = second ∧ rest = others := by
  unfold encodeString at same
  rw [List.cons_append, List.cons_append, List.append_assoc, List.append_assoc] at same
  rcases encodeText_cancel (List.cons.inj same).2 with ⟨texts, rests⟩
  exact ⟨String.toList_injective texts, rests⟩

/-! ## Values -/

/-- The kind of a value as a number. -/
def kind : Json -> Nat
  | null => 0
  | bool _ => 1
  | number _ => 2
  | string _ => 3
  | array _ => 4
  | object _ => 5

/-- The kind of the values whose encoding begins with the character. -/
def leadKind (char : Char) : Nat :=
  if isNumberChar char then 2
  else if char = 'n' then 0
  else if char = 't' || char = 'f' then 1
  else if char = '"' then 3
  else if char = '[' then 4
  else if char = '\x7b' then 5
  else 6

theorem encodeChars_lead (value : Json) :
    ∃ char rest, encodeChars value = char :: rest ∧ leadKind char = value.kind := by
  cases value with
  | null => exact ⟨_, _, rfl, by decide⟩
  | bool flag => cases flag <;> exact ⟨_, _, rfl, by decide⟩
  | number literal =>
      have nonempty : literal.text.toList ≠ [] := by
        rw [Decimal.text_toList]
        intro empty
        exact Nat.toDigits_ne_nil (List.append_eq_nil_iff.mp (List.append_eq_nil_iff.mp empty).2).1
      rcases List.exists_cons_of_ne_nil nonempty with ⟨char, rest, text⟩
      refine ⟨char, rest, text, ?_⟩
      have numeric := literal.text_isNumberChar char (by rw [text]; exact List.mem_cons_self)
      unfold leadKind
      rw [numeric]
      rfl
  | string text => exact ⟨_, _, rfl, show leadKind '"' = 3 by decide⟩
  | array items => exact ⟨_, _, rfl, show leadKind '[' = 4 by decide⟩
  | object fields => exact ⟨_, _, rfl, show leadKind '\x7b' = 5 by decide⟩

theorem kind_eq_of_encodeChars {value other : Json} {rest others : List Char}
    (same : encodeChars value ++ rest = encodeChars other ++ others) : value.kind = other.kind := by
  rcases encodeChars_lead value with ⟨char, tail, encoded, kind⟩
  rcases encodeChars_lead other with ⟨otherChar, otherTail, otherEncoded, otherKind⟩
  rw [encoded, otherEncoded] at same
  rw [← kind, ← otherKind, (List.cons.inj same).1]

/-- An item does not begin with the closing bracket. -/
theorem encodeChars_ne_close (value : Json) (rest others : List Char) :
    encodeChars value ++ rest ≠ ']' :: others := by
  intro same
  rcases encodeChars_lead value with ⟨char, tail, encoded, kind⟩
  rw [encoded] at same
  rw [(List.cons.inj same).1] at kind
  cases value <;> cases kind

/-- No other value has an encoding that begins like this one and then stops. -/
def Cancels {α : Type*} (encode : α -> List Char) (value : α) : Prop :=
  forall (other : α) {rest others : List Char}, Delimited rest -> Delimited others ->
    encode value ++ rest = encode other ++ others -> value = other ∧ rest = others

/-- Encodings separated by commas. -/
def joined {α : Type*} (encode : α -> List Char) : List α -> List Char
  | [] => []
  | [last] => encode last
  | item :: rest => encode item ++ ',' :: joined encode rest

def encodeField (field : String × Json) : List Char :=
  encodeString field.1 ++ ':' :: encodeChars field.2

theorem encodeItems_eq (items : List Json) : encodeItems items = joined encodeChars items := by
  induction items with
  | nil => rfl
  | cons item tail inductionHypothesis =>
      cases tail with
      | nil => rfl
      | cons second rest =>
          change encodeChars item ++ ',' :: encodeItems (second :: rest) = _
          rw [inductionHypothesis]
          rfl

theorem encodeFields_eq (fields : List (String × Json)) :
    encodeFields fields = joined encodeField fields := by
  induction fields with
  | nil => rfl
  | cons field tail inductionHypothesis =>
      cases tail with
      | nil => rfl
      | cons second rest =>
          change encodeString field.1 ++
            ':' :: (encodeChars field.2 ++ ',' :: encodeFields (second :: rest)) = _
          rw [inductionHypothesis]
          change _ = (encodeString field.1 ++ ':' :: encodeChars field.2) ++ _
          rw [List.append_assoc]
          rfl

/-- A closed list of encodings that cancel is cancelled item by item. -/
theorem joined_cancel {α : Type*} {encode : α -> List Char} {close : Char}
    (stops : isNumberChar close = false) (notComma : close ≠ ',')
    (opens : forall value rest others, encode value ++ rest ≠ close :: others)
    {items otherItems : List α} {rest others : List Char}
    (cancels : ∀ item ∈ items, Cancels encode item)
    (same : joined encode items ++ close :: rest = joined encode otherItems ++ close :: others) :
    items = otherItems ∧ rest = others := by
  have commaStops : forall tail, Delimited (',' :: tail) := fun _ => delimited_cons (by decide)
  induction items generalizing otherItems with
  | nil =>
      rcases otherItems with _ | ⟨other, _ | ⟨otherSecond, otherTail⟩⟩
      · exact ⟨rfl, (List.cons.inj same).2⟩
      · exact absurd same.symm (opens other _ rest)
      · change _ = (encode other ++ ',' :: joined encode (otherSecond :: otherTail)) ++ _ at same
        rw [List.append_assoc] at same
        exact absurd same.symm (opens other _ rest)
  | cons item tail inductionHypothesis =>
      have first := cancels item List.mem_cons_self
      have later : ∀ member ∈ tail, Cancels encode member :=
        fun member inside => cancels member (List.mem_cons_of_mem item inside)
      rcases otherItems with _ | ⟨other, otherTail⟩
      · rcases tail with _ | ⟨second, rest⟩
        · exact absurd same (opens item _ others)
        · change (encode item ++ ',' :: joined encode (second :: rest)) ++ _ = _ at same
          rw [List.append_assoc] at same
          exact absurd same (opens item _ others)
      · rcases tail with _ | ⟨second, tail⟩ <;> rcases otherTail with _ | ⟨otherSecond, otherTail⟩
        · rcases first other (delimited_cons stops) (delimited_cons stops) same with
            ⟨heads, closes⟩
          exact ⟨by rw [heads], (List.cons.inj closes).2⟩
        · change _ = (encode other ++ ',' :: joined encode (otherSecond :: otherTail)) ++ _ at same
          rw [List.append_assoc] at same
          have closes := (first other (delimited_cons stops) (commaStops _) same).2
          exact absurd (List.cons.inj closes).1 notComma
        · change (encode item ++ ',' :: joined encode (second :: tail)) ++ _ = _ at same
          rw [List.append_assoc] at same
          have closes := (first other (commaStops _) (delimited_cons stops) same).2
          exact absurd (List.cons.inj closes).1.symm notComma
        · change (encode item ++ ',' :: joined encode (second :: tail)) ++ _ =
            (encode other ++ ',' :: joined encode (otherSecond :: otherTail)) ++ _ at same
          rw [List.append_assoc, List.append_assoc] at same
          rcases first other (commaStops _) (commaStops _) same with ⟨heads, tails⟩
          rcases inductionHypothesis later (List.cons.inj tails).2 with ⟨sameTail, rests⟩
          exact ⟨by rw [heads, sameTail], rests⟩

theorem encodeField_cancel {field : String × Json} (cancels : Cancels encodeChars field.2) :
    Cancels encodeField field := by
  intro other rest others restStops othersStop same
  unfold encodeField at same
  rw [List.append_assoc, List.append_assoc] at same
  rcases encodeString_cancel same with ⟨names, values⟩
  rcases cancels other.2 restStops othersStop (List.cons.inj values).2 with ⟨sameValue, rests⟩
  exact ⟨Prod.ext names sameValue, rests⟩

theorem null_cancel : Cancels encodeChars null := by
  intro other rest others _ _ same
  have kinds := kind_eq_of_encodeChars same
  cases other with
  | null => exact ⟨rfl, List.append_cancel_left same⟩
  | bool | number | string | array | object => cases kinds

theorem bool_cancel (flag : Bool) : Cancels encodeChars (bool flag) := by
  intro other rest others _ _ same
  have kinds := kind_eq_of_encodeChars same
  cases other with
  | bool otherFlag =>
      cases flag <;> cases otherFlag
      · exact ⟨rfl, List.append_cancel_left same⟩
      · cases same
      · cases same
      · exact ⟨rfl, List.append_cancel_left same⟩
  | null | number | string | array | object => cases kinds

theorem number_cancel (literal : Decimal) : Cancels encodeChars (number literal) := by
  intro other rest others restStops othersStop same
  have kinds := kind_eq_of_encodeChars same
  cases other with
  | number otherLiteral =>
      rcases span_cancel literal.text_isNumberChar otherLiteral.text_isNumberChar
        restStops othersStop same with ⟨texts, rests⟩
      exact ⟨by rw [Decimal.text_injective texts], rests⟩
  | null | bool | string | array | object => cases kinds

theorem string_cancel (text : String) : Cancels encodeChars (string text) := by
  intro other rest others _ _ same
  have kinds := kind_eq_of_encodeChars same
  cases other with
  | string otherText =>
      rcases encodeString_cancel same with ⟨texts, rests⟩
      exact ⟨by rw [texts], rests⟩
  | null | bool | number | array | object => cases kinds

theorem array_cancel {items : List Json} (cancels : ∀ item ∈ items, Cancels encodeChars item) :
    Cancels encodeChars (array items) := by
  intro other rest others _ _ same
  have kinds := kind_eq_of_encodeChars same
  cases other with
  | array otherItems =>
      have inner : encodeItems items ++ [']'] ++ rest = encodeItems otherItems ++ [']'] ++ others :=
        (List.cons.inj same).2
      rw [List.append_assoc, List.append_assoc, encodeItems_eq, encodeItems_eq] at inner
      rcases joined_cancel (by decide) (by decide) encodeChars_ne_close cancels inner with
        ⟨sameItems, rests⟩
      exact ⟨by rw [sameItems], rests⟩
  | null | bool | number | string | object => cases kinds

theorem object_cancel {fields : List (String × Json)}
    (cancels : ∀ field ∈ fields, Cancels encodeChars field.2) :
    Cancels encodeChars (object fields) := by
  intro other rest others _ _ same
  have kinds := kind_eq_of_encodeChars same
  cases other with
  | object otherFields =>
      have inner : encodeFields fields ++ ['\x7d'] ++ rest =
          encodeFields otherFields ++ ['\x7d'] ++ others := (List.cons.inj same).2
      rw [List.append_assoc, List.append_assoc, encodeFields_eq, encodeFields_eq] at inner
      have opens : forall field rest others, encodeField field ++ rest ≠ '\x7d' :: others :=
        fun _ _ _ opened => (by cases opened)
      rcases joined_cancel (by decide) (by decide) opens
        (fun field member => encodeField_cancel (cancels field member)) inner with
        ⟨sameFields, rests⟩
      exact ⟨by rw [sameFields], rests⟩
  | null | bool | number | string | array => cases kinds

mutual

/-- The encoding of every value cancels. -/
theorem encodeChars_cancel : forall value : Json, Cancels encodeChars value
  | null => null_cancel
  | bool flag => bool_cancel flag
  | number literal => number_cancel literal
  | string text => string_cancel text
  | array items => array_cancel (encodeItems_cancel items)
  | object fields => object_cancel (encodeFields_cancel fields)

theorem encodeItems_cancel : forall items : List Json, ∀ item ∈ items, Cancels encodeChars item
  | [], _, member => (by cases member)
  | first :: rest, item, member => by
      rcases List.mem_cons.mp member with same | later
      · rw [same]
        exact encodeChars_cancel first
      · exact encodeItems_cancel rest item later

theorem encodeFields_cancel : forall fields : List (String × Json),
    ∀ field ∈ fields, Cancels encodeChars field.2
  | [], _, member => (by cases member)
  | (_, first) :: rest, field, member => by
      rcases List.mem_cons.mp member with same | later
      · rw [same]
        exact encodeChars_cancel first
      · exact encodeFields_cancel rest field later

end

theorem encodeChars_injective {value other : Json} (same : encodeChars value = encodeChars other) :
    value = other := by
  have nothing : Delimited [] := fun _ member => (by cases member)
  refine (encodeChars_cancel value other nothing nothing ?_).1
  rw [List.append_nil, List.append_nil]
  exact same

/-- Values with one canonical text agree after their fields are ordered. -/
theorem canonical_injective {value other : Json} (same : canonical value = canonical other) :
    sortKeys value = sortKeys other :=
  encodeChars_injective (String.ofList_injective same)

end Json
end Foundation
