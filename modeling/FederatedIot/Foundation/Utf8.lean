import Mathlib.Data.List.Basic

namespace Foundation
namespace Utf8

/-!
# UTF-8 and its streaming decoder

The decoder reads bytes as they come and keeps what it has read of an
unfinished character, so that a stream may be cut anywhere.  A byte that
cannot continue the unfinished character ends it with a replacement character
and is then read again as the first byte of another one.
-/

def byte (value : Nat) : UInt8 :=
  UInt8.ofNat value

theorem byte_toNat {value : Nat} (small : value < 256) : (byte value).toNat = value := by
  unfold byte
  rw [UInt8.toNat_ofNat', Nat.mod_eq_of_lt small]

/-! ## Encoding -/

def encodeChar (char : Char) : List UInt8 :=
  let code := char.toNat
  if code < 0x80 then [byte code]
  else if code < 0x800 then [byte (0xC0 + code / 64), byte (0x80 + code % 64)]
  else if code < 0x10000 then
    [byte (0xE0 + code / 4096), byte (0x80 + code / 64 % 64), byte (0x80 + code % 64)]
  else
    [byte (0xF0 + code / 262144), byte (0x80 + code / 4096 % 64), byte (0x80 + code / 64 % 64),
      byte (0x80 + code % 64)]

def encode (text : List Char) : List UInt8 :=
  text.flatMap encodeChar

/-! ## Decoding -/

/-- What was read of an unfinished character: its bits so far, how many bytes
are missing, and the bounds of the next one. -/
structure Decoder where
  codePoint : Nat
  missing : Nat
  lower : Nat
  upper : Nat
  deriving DecidableEq

namespace Decoder

/-- Any continuation byte may come next. -/
def expecting (codePoint missing : Nat) : Decoder where
  codePoint := codePoint
  missing := missing
  lower := 0x80
  upper := 0xBF

/-- No character is unfinished. -/
def fresh : Decoder :=
  expecting 0 0

end Decoder

def replacement : Char :=
  Char.ofNat 0xFFFD

/-- The first byte of a character. -/
def decodeFirst (value : Nat) : Decoder × List Char :=
  if value < 0x80 then (.fresh, [Char.ofNat value])
  else if 0xC2 ≤ value ∧ value ≤ 0xDF then
    (.expecting (value - 0xC0) 1, [])
  else if 0xE0 ≤ value ∧ value ≤ 0xEF then
    ({ codePoint := value - 0xE0
       missing := 2
       lower := if value = 0xE0 then 0xA0 else 0x80
       upper := if value = 0xED then 0x9F else 0xBF }, [])
  else if 0xF0 ≤ value ∧ value ≤ 0xF4 then
    ({ codePoint := value - 0xF0
       missing := 3
       lower := if value = 0xF0 then 0x90 else 0x80
       upper := if value = 0xF4 then 0x8F else 0xBF }, [])
  else (.fresh, [replacement])

def decodeByte (decoder : Decoder) (next : UInt8) : Decoder × List Char :=
  let value := next.toNat
  if decoder.missing = 0 then decodeFirst value
  else if decoder.lower ≤ value ∧ value ≤ decoder.upper then
    let codePoint := decoder.codePoint * 64 + (value - 0x80)
    if decoder.missing = 1 then (.fresh, [Char.ofNat codePoint])
    else (.expecting codePoint (decoder.missing - 1), [])
  else
    let first := decodeFirst value
    (first.1, replacement :: first.2)

/-- The characters that the bytes finish. -/
def decode (decoder : Decoder) : List UInt8 -> Decoder × List Char
  | [] => (decoder, [])
  | next :: rest =>
      let first := decodeByte decoder next
      let later := decode first.1 rest
      (later.1, first.2 ++ later.2)

/-! ## Cuts do not matter -/

theorem decode_cons {decoder after : Decoder} {next : UInt8} {chars : List Char}
    (step : decodeByte decoder next = (after, chars)) (rest : List UInt8) :
    decode decoder (next :: rest) = ((decode after rest).1, chars ++ (decode after rest).2) := by
  change ((decode (decodeByte decoder next).1 rest).1,
    (decodeByte decoder next).2 ++ (decode (decodeByte decoder next).1 rest).2) = _
  rw [step]

theorem decode_append (decoder : Decoder) (bytes more : List UInt8) :
    decode decoder (bytes ++ more) =
      ((decode (decode decoder bytes).1 more).1,
        (decode decoder bytes).2 ++ (decode (decode decoder bytes).1 more).2) := by
  induction bytes generalizing decoder with
  | nil => rfl
  | cons next rest inductionHypothesis =>
      rw [List.cons_append, decode_cons rfl, decode_cons rfl, inductionHypothesis, List.append_assoc]

/-- Decoding chunk after chunk. -/
def decodeChunks (decoder : Decoder) : List (List UInt8) -> Decoder × List Char
  | [] => (decoder, [])
  | chunk :: rest =>
      let first := decode decoder chunk
      let later := decodeChunks first.1 rest
      (later.1, first.2 ++ later.2)

theorem decodeChunks_eq (decoder : Decoder) (chunks : List (List UInt8)) :
    decodeChunks decoder chunks = decode decoder chunks.flatten := by
  induction chunks generalizing decoder with
  | nil => rfl
  | cons chunk rest inductionHypothesis =>
      unfold decodeChunks
      rw [List.flatten_cons, decode_append]
      simp only
      rw [inductionHypothesis]

/-! ## Decoding inverts encoding -/

section

variable {decoder : Decoder} {value : Nat}

theorem decodeByte_fresh (small : value < 256) (idle : decoder.missing = 0) :
    decodeByte decoder (byte value) = decodeFirst value := by
  unfold decodeByte
  simp only [byte_toNat small]
  rw [if_pos idle]

theorem decodeByte_last (small : value < 256) (last : decoder.missing = 1)
    (above : decoder.lower ≤ value) (below : value ≤ decoder.upper) :
    decodeByte decoder (byte value) =
      (.fresh, [Char.ofNat (decoder.codePoint * 64 + (value - 0x80))]) := by
  unfold decodeByte
  simp only [byte_toNat small]
  rw [if_neg (by omega), if_pos ⟨above, below⟩, if_pos last]

theorem decodeByte_middle (small : value < 256) (several : 2 ≤ decoder.missing)
    (above : decoder.lower ≤ value) (below : value ≤ decoder.upper) :
    decodeByte decoder (byte value) =
      (.expecting (decoder.codePoint * 64 + (value - 0x80)) (decoder.missing - 1), []) := by
  unfold decodeByte
  simp only [byte_toNat small]
  rw [if_neg (by omega), if_pos ⟨above, below⟩, if_neg (by omega)]

end

/-- The codes of characters leave out the surrogates. -/
theorem char_valid (char : Char) : char.toNat < 0xD800 ∨ 0xDFFF < char.toNat ∧ char.toNat < 0x110000 :=
  char.valid

theorem decode_two {char : Char} (above : 0x80 ≤ char.toNat) (below : char.toNat < 0x800) :
    decode .fresh [byte (0xC0 + char.toNat / 64), byte (0x80 + char.toNat % 64)] = (.fresh, [char]) := by
  have first : decodeFirst (0xC0 + char.toNat / 64) =
      (.expecting (char.toNat / 64) 1, []) := by
    unfold decodeFirst
    rw [if_neg (by omega), if_pos (by omega), Nat.add_sub_cancel_left]
  have code : char.toNat / 64 * 64 + (0x80 + char.toNat % 64 - 0x80) = char.toNat := by omega
  rw [decode_cons ((decodeByte_fresh (by omega) rfl).trans first),
    decode_cons (decodeByte_last (by omega) rfl (show 0x80 ≤ 0x80 + char.toNat % 64 by omega)
      (show 0x80 + char.toNat % 64 ≤ 0xBF by omega))]
  change (Decoder.fresh, [Char.ofNat (char.toNat / 64 * 64 + (0x80 + char.toNat % 64 - 0x80))]) = _
  rw [code, Char.ofNat_toNat]

theorem decode_three {char : Char} (above : 0x800 ≤ char.toNat) (below : char.toNat < 0x10000) :
    decode .fresh [byte (0xE0 + char.toNat / 4096), byte (0x80 + char.toNat / 64 % 64),
      byte (0x80 + char.toNat % 64)] = (.fresh, [char]) := by
  have valid := char_valid char
  have first : decodeFirst (0xE0 + char.toNat / 4096) =
      ({ codePoint := char.toNat / 4096
         missing := 2
         lower := if 0xE0 + char.toNat / 4096 = 0xE0 then 0xA0 else 0x80
         upper := if 0xE0 + char.toNat / 4096 = 0xED then 0x9F else 0xBF }, []) := by
    unfold decodeFirst
    rw [if_neg (by omega), if_neg (by omega), if_pos (by omega), Nat.add_sub_cancel_left]
  have code : (char.toNat / 4096 * 64 + (0x80 + char.toNat / 64 % 64 - 0x80)) * 64 +
      (0x80 + char.toNat % 64 - 0x80) = char.toNat := by omega
  rw [decode_cons ((decodeByte_fresh (by omega) rfl).trans first),
    decode_cons (decodeByte_middle (by omega) (Nat.le_refl 2) (by dsimp only; split <;> omega)
      (by dsimp only; split <;> omega)),
    decode_cons (decodeByte_last (by omega) rfl (show 0x80 ≤ 0x80 + char.toNat % 64 by omega)
      (show 0x80 + char.toNat % 64 ≤ 0xBF by omega))]
  change (Decoder.fresh, [Char.ofNat ((char.toNat / 4096 * 64 + (0x80 + char.toNat / 64 % 64 - 0x80)) * 64 +
    (0x80 + char.toNat % 64 - 0x80))]) = _
  rw [code, Char.ofNat_toNat]

theorem decode_four {char : Char} (above : 0x10000 ≤ char.toNat) :
    decode .fresh [byte (0xF0 + char.toNat / 262144), byte (0x80 + char.toNat / 4096 % 64),
      byte (0x80 + char.toNat / 64 % 64), byte (0x80 + char.toNat % 64)] = (.fresh, [char]) := by
  have valid := char_valid char
  have first : decodeFirst (0xF0 + char.toNat / 262144) =
      ({ codePoint := char.toNat / 262144
         missing := 3
         lower := if 0xF0 + char.toNat / 262144 = 0xF0 then 0x90 else 0x80
         upper := if 0xF0 + char.toNat / 262144 = 0xF4 then 0x8F else 0xBF }, []) := by
    unfold decodeFirst
    rw [if_neg (by omega), if_neg (by omega), if_neg (by omega), if_pos (by omega),
      Nat.add_sub_cancel_left]
  have code : ((char.toNat / 262144 * 64 + (0x80 + char.toNat / 4096 % 64 - 0x80)) * 64 +
      (0x80 + char.toNat / 64 % 64 - 0x80)) * 64 + (0x80 + char.toNat % 64 - 0x80) = char.toNat := by
    omega
  rw [decode_cons ((decodeByte_fresh (by omega) rfl).trans first),
    decode_cons (decodeByte_middle (by omega) (show 2 ≤ 3 by decide) (by dsimp only; split <;> omega)
      (by dsimp only; split <;> omega)),
    decode_cons (decodeByte_middle (by omega) (Nat.le_refl 2)
      (show 0x80 ≤ 0x80 + char.toNat / 64 % 64 by omega)
      (show 0x80 + char.toNat / 64 % 64 ≤ 0xBF by omega)),
    decode_cons (decodeByte_last (by omega) rfl (show 0x80 ≤ 0x80 + char.toNat % 64 by omega)
      (show 0x80 + char.toNat % 64 ≤ 0xBF by omega))]
  change (Decoder.fresh, [Char.ofNat (((char.toNat / 262144 * 64 + (0x80 + char.toNat / 4096 % 64 - 0x80)) * 64 +
    (0x80 + char.toNat / 64 % 64 - 0x80)) * 64 + (0x80 + char.toNat % 64 - 0x80))]) = _
  rw [code, Char.ofNat_toNat]

theorem decode_encodeChar (char : Char) : decode .fresh (encodeChar char) = (.fresh, [char]) := by
  unfold encodeChar
  by_cases one : char.toNat < 0x80
  · simp only [if_pos one, decode]
    rw [decodeByte_fresh (by omega) rfl]
    unfold decodeFirst
    rw [if_pos one, Char.ofNat_toNat]
    rfl
  · by_cases two : char.toNat < 0x800
    · simp only [if_neg one, if_pos two]
      exact decode_two (by omega) two
    · by_cases three : char.toNat < 0x10000
      · simp only [if_neg one, if_neg two, if_pos three]
        exact decode_three (by omega) three
      · simp only [if_neg one, if_neg two, if_neg three]
        exact decode_four (by omega)

/-- Between characters, an encoded text is decoded to itself. -/
theorem decode_encode (text : List Char) : decode .fresh (encode text) = (.fresh, text) := by
  induction text with
  | nil => rfl
  | cons char rest inductionHypothesis =>
      unfold encode at inductionHypothesis ⊢
      rw [List.flatMap_cons, decode_append, decode_encodeChar, inductionHypothesis]
      rfl

end Utf8
end Foundation
