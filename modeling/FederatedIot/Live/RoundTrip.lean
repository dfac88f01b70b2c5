import FederatedIot.Live.Wire

namespace FederatedIot
namespace Live

open Foundation Foundation.JsonText

/-!
# Nothing is lost on the wire

However the bytes are cut into chunks, the reader calls `onEvent` once for
every frame, in order, with what the frame was written from.  The text of the
chunks together is the text of the frames, so that the pieces between the blank
lines are the frames, and no line of a frame is empty or contains a line break.
-/

/-! ## Separators -/

/-- A blank line at the beginning of a text. -/
inductive FrameBreak : List Char -> Nat -> Prop
  | both (rest : List Char) : FrameBreak ('\r' :: '\n' :: '\r' :: '\n' :: rest) 4
  | first (rest : List Char) : FrameBreak ('\r' :: '\n' :: '\n' :: rest) 3
  | second (rest : List Char) : FrameBreak ('\n' :: '\r' :: '\n' :: rest) 3
  | neither (rest : List Char) : FrameBreak ('\n' :: '\n' :: rest) 2

theorem frameBreak_cases (text : List Char) : frameBreak text = 0 ∨ FrameBreak text (frameBreak text) := by
  unfold frameBreak
  split
  · exact Or.inr (FrameBreak.both _)
  · exact Or.inr (FrameBreak.first _)
  · exact Or.inr (FrameBreak.second _)
  · exact Or.inr (FrameBreak.neither _)
  · exact Or.inl rfl

theorem FrameBreak.eq {text : List Char} {length : Nat} (found : FrameBreak text length) :
    frameBreak text = length := by
  cases found <;> rfl

theorem FrameBreak.append {text : List Char} {length : Nat} (found : FrameBreak text length)
    (more : List Char) : FrameBreak (text ++ more) length := by
  cases found with
  | both rest => exact FrameBreak.both (rest ++ more)
  | first rest => exact FrameBreak.first (rest ++ more)
  | second rest => exact FrameBreak.second (rest ++ more)
  | neither rest => exact FrameBreak.neither (rest ++ more)

/-- A blank line that lies within a part of a text, or that ends behind it. -/
theorem FrameBreak.of_append {text more : List Char} {length : Nat}
    (found : FrameBreak (text ++ more) length) :
    (length ≤ text.length ∧ FrameBreak text length) ∨
      (text.length < length ∧ Splitting.cut frameBreak text = ([], text)) := by
  generalize whole : text ++ more = total at found
  cases found with
  | both rest =>
      rcases text with _ | ⟨a, _ | ⟨b, _ | ⟨c, _ | ⟨d, tail⟩⟩⟩⟩ <;> simp at whole <;>
        simp [whole] <;> first | exact FrameBreak.both _ | exact Or.inl (FrameBreak.both _) | rfl
  | first rest =>
      rcases text with _ | ⟨a, _ | ⟨b, _ | ⟨c, tail⟩⟩⟩ <;> simp at whole <;>
        simp [whole] <;> first | exact FrameBreak.first _ | exact Or.inl (FrameBreak.first _) | rfl
  | second rest =>
      rcases text with _ | ⟨a, _ | ⟨b, _ | ⟨c, tail⟩⟩⟩ <;> simp at whole <;>
        simp [whole] <;> first | exact FrameBreak.second _ | exact Or.inl (FrameBreak.second _) | rfl
  | neither rest =>
      rcases text with _ | ⟨a, _ | ⟨b, tail⟩⟩ <;> simp at whole <;>
        simp [whole] <;> first | exact FrameBreak.neither _ | exact Or.inl (FrameBreak.neither _) | rfl

theorem frameBreak_incremental : Splitting.Incremental frameBreak where
  fits := by
    intro text
    rcases frameBreak_cases text with none | found
    · omega
    · generalize frameBreak text = length at found
      cases found <;> simp
  extend := by
    intro text more found
    rcases frameBreak_cases text with none | isBreak
    · exact absurd none found
    · exact (isBreak.append more).eq
  restrict := by
    intro text more within
    rcases frameBreak_cases (text ++ more) with none | found
    · rcases frameBreak_cases text with zero | isBreak
      · rw [none, zero]
      · rw [(isBreak.append more).eq]
    · rcases found.of_append with ⟨_, inside⟩ | ⟨beyond, _⟩
      · exact inside.eq.symm
      · omega
  unfinished := by
    intro text more beyond
    rcases frameBreak_cases (text ++ more) with none | found
    · omega
    · rcases found.of_append with ⟨within, _⟩ | ⟨_, uncut⟩
      · omega
      · exact uncut

/-! ## Lines -/

/-- A line is not empty and contains no line break. -/
structure IsLine (line : List Char) : Prop where
  nonempty : line ≠ []
  plain : ∀ char ∈ line, char ≠ '\n' ∧ char ≠ '\r'

theorem lineBreak_plain {char : Char} {rest : List Char} (plain : char ≠ '\n' ∧ char ≠ '\r') :
    lineBreak (char :: rest) = 0 := by
  unfold lineBreak
  split
  · rename_i same
    exact absurd (List.cons.inj same).1 plain.2
  · rename_i same
    exact absurd (List.cons.inj same).1 plain.1
  · rfl

theorem frameBreak_plain {char : Char} {rest : List Char} (plain : char ≠ '\n' ∧ char ≠ '\r') :
    frameBreak (char :: rest) = 0 := by
  rcases frameBreak_cases (char :: rest) with none | found
  · exact none
  · generalize frameBreak (char :: rest) = length at found
    cases found with
    | both | first => exact absurd rfl plain.2
    | second | neither => exact absurd rfl plain.1

/-- A line feed within a frame. -/
theorem frameBreak_lineFeed {char : Char} {rest : List Char} (plain : char ≠ '\n' ∧ char ≠ '\r') :
    frameBreak ('\n' :: char :: rest) = 0 := by
  rcases frameBreak_cases ('\n' :: char :: rest) with none | found
  · exact none
  · generalize frameBreak ('\n' :: char :: rest) = length at found
    cases found with
    | second => exact absurd rfl plain.2
    | neither => exact absurd rfl plain.1

/-- Put a text in front of the first piece. -/
def prependText (text : List Char) (cut : List (List Char) × List Char) :
    List (List Char) × List Char :=
  text.foldr Splitting.prepend cut

theorem prependText_nil (text rest : List Char) : prependText text ([], rest) = ([], text ++ rest) := by
  induction text with
  | nil => rfl
  | cons char tail inductionHypothesis =>
      change Splitting.prepend char (prependText tail ([], rest)) = _
      rw [inductionHypothesis]
      rfl

theorem prependText_cons (text first : List Char) (others : List (List Char)) (rest : List Char) :
    prependText text (first :: others, rest) = ((text ++ first) :: others, rest) := by
  induction text with
  | nil => rfl
  | cons char tail inductionHypothesis =>
      change Splitting.prepend char (prependText tail (first :: others, rest)) = _
      rw [inductionHypothesis]
      rfl

theorem cut_plain {separator : List Char -> Nat} {line : List Char}
    (none : forall {char : Char} {rest : List Char}, char ≠ '\n' ∧ char ≠ '\r' ->
      separator (char :: rest) = 0)
    (plain : ∀ char ∈ line, char ≠ '\n' ∧ char ≠ '\r') (rest : List Char) :
    Splitting.cut separator (line ++ rest) = prependText line (Splitting.cut separator rest) := by
  induction line with
  | nil => rfl
  | cons char tail inductionHypothesis =>
      rw [List.cons_append, Splitting.cut_cons_other (none (plain char List.mem_cons_self)),
        inductionHypothesis fun other member => plain other (List.mem_cons_of_mem char member)]
      rfl

/-- The lines of a frame are found again. -/
theorem cut_joinLines {line : List Char} {lines : List (List Char)}
    (isLine : ∀ member ∈ line :: lines, IsLine member) :
    (Splitting.cut lineBreak (joinLines (line :: lines))).1 ++
      [(Splitting.cut lineBreak (joinLines (line :: lines))).2] = line :: lines := by
  induction lines generalizing line with
  | nil =>
      have whole := cut_plain lineBreak_plain (isLine line List.mem_cons_self).plain []
      rw [List.append_nil] at whole
      change (Splitting.cut lineBreak line).1 ++ [(Splitting.cut lineBreak line).2] = _
      rw [whole]
      change (prependText line ([], [])).1 ++ [(prependText line ([], [])).2] = _
      rw [prependText_nil, List.append_nil]
      rfl
  | cons next more inductionHypothesis =>
      have later := inductionHypothesis fun member inside => isLine member (List.mem_cons_of_mem line inside)
      have broken : Splitting.cut lineBreak ('\n' :: joinLines (next :: more)) =
          ([] :: (Splitting.cut lineBreak (joinLines (next :: more))).1,
            (Splitting.cut lineBreak (joinLines (next :: more))).2) :=
        @Splitting.cut_separator _ lineBreak '\n' (joinLines (next :: more)) 0 rfl
      change (Splitting.cut lineBreak (line ++ '\n' :: joinLines (next :: more))).1 ++
        [(Splitting.cut lineBreak (line ++ '\n' :: joinLines (next :: more))).2] = _
      rw [cut_plain lineBreak_plain (isLine line List.mem_cons_self).plain, broken, prependText_cons,
        List.append_nil, List.cons_append, later]

theorem joinLines_begins {line : List Char} {lines : List (List Char)} (isLine : IsLine line)
    (rest : List Char) : ∃ char others, joinLines (line :: lines) ++ rest = char :: others ∧
      char ≠ '\n' ∧ char ≠ '\r' := by
  rcases List.exists_cons_of_ne_nil isLine.nonempty with ⟨char, tail, same⟩
  have plain := isLine.plain char (by rw [same]; exact List.mem_cons_self)
  cases lines with
  | nil => exact ⟨char, tail ++ rest, by rw [same]; rfl, plain⟩
  | cons next more =>
      refine ⟨char, tail ++ '\n' :: joinLines (next :: more) ++ rest, ?_, plain⟩
      rw [same]
      rfl

/-- A frame is the piece before its blank line. -/
theorem cut_frame {line : List Char} {lines : List (List Char)}
    (isLine : ∀ member ∈ line :: lines, IsLine member) (rest : List Char) :
    Splitting.cut frameBreak (joinLines (line :: lines) ++ ('\n' :: '\n' :: rest)) =
      (joinLines (line :: lines) :: (Splitting.cut frameBreak rest).1,
        (Splitting.cut frameBreak rest).2) := by
  induction lines generalizing line with
  | nil =>
      have broken : Splitting.cut frameBreak ('\n' :: '\n' :: rest) =
          ([] :: (Splitting.cut frameBreak rest).1, (Splitting.cut frameBreak rest).2) :=
        @Splitting.cut_separator _ frameBreak '\n' ('\n' :: rest) 1 rfl
      change Splitting.cut frameBreak (line ++ ('\n' :: '\n' :: rest)) = _
      rw [cut_plain frameBreak_plain (isLine line List.mem_cons_self).plain, broken, prependText_cons,
        List.append_nil]
      rfl
  | cons next more inductionHypothesis =>
      have later := inductionHypothesis fun member inside => isLine member (List.mem_cons_of_mem line inside)
      have nextLine := isLine next (List.mem_cons_of_mem line List.mem_cons_self)
      rcases @joinLines_begins next more nextLine ('\n' :: '\n' :: rest) with
        ⟨char, others, begins, plain⟩
      have inner : Splitting.cut frameBreak ('\n' :: (joinLines (next :: more) ++ ('\n' :: '\n' :: rest))) =
          Splitting.prepend '\n'
            (Splitting.cut frameBreak (joinLines (next :: more) ++ ('\n' :: '\n' :: rest))) := by
        apply Splitting.cut_cons_other
        rw [begins]
        exact frameBreak_lineFeed plain
      change Splitting.cut frameBreak ((line ++ '\n' :: joinLines (next :: more)) ++ _) = _
      rw [List.append_assoc, List.cons_append,
        cut_plain frameBreak_plain (isLine line List.mem_cons_self).plain, inner, later]
      change prependText line ((('\n' :: joinLines (next :: more)) :: _), _) = _
      rw [prependText_cons]
      rfl

/-! ## What a frame carries -/

/-- What the server writes: identifiers that are exact as doubles, event types
of one word, and payloads without repeated names. -/
structure SseMessage.Served (message : SseMessage) : Prop where
  positive : 1 ≤ message.eventId
  exact : message.eventId ≤ 2 ^ 53 - 1
  nonempty : message.event ≠ []
  word : ∀ char ∈ message.event, isWhiteSpace char = false
  distinct : message.payload.Distinct

/-- The call that a frame leads to. -/
def SseMessage.call (message : SseMessage) : Received where
  id := numberOf (formatInt message.eventId)
  type := message.event
  data := message.payload.map Reading.finite

/-- The call has the identifier, the type and the payload of the message. -/
structure Carries (message : SseMessage) (call : Received) : Prop where
  id : ∃ value, call.id = some (.finite value) ∧ value.negative = false ∧
    value.magnitude = message.eventId
  type : call.type = message.event
  data : call.data = message.payload.map Reading.finite

variable {message : SseMessage}

theorem formatInt_eq (served : message.Served) :
    formatInt message.eventId = Nat.toDigits 10 message.eventId.natAbs := by
  have positive := served.positive
  unfold formatInt
  rw [if_neg (by omega)]

theorem written_toDigits (value : Nat) : Written (Nat.toDigits 10 value) [] [] where
  wholeDigits := (digits_toDigits value).all
  leading := (digits_toDigits value).leading
  fractionDigits _ member := by cases member
  exponent := rfl

/-- A numeral of decimal digits denotes their value. -/
theorem numberOf_toDigits {value : Nat} (exactly : value < 2 ^ 53) :
    ∃ double : Double, numberOf (Nat.toDigits 10 value) = some (.finite double) ∧
      double.negative = false ∧ double.magnitude = value := by
  have written := written_toDigits value
  have text : Nat.toDigits 10 value ++ (point [] ++ []) = Nat.toDigits 10 value := List.append_nil _
  have unsigned := written.isUnsigned
  have parts := written.readParts
  rw [text] at unsigned parts
  have noSign := Double.not_sign unsigned
  have valid : isNumeral (Nat.toDigits 10 value) = true := by
    unfold isNumeral
    split
    · rename_i rest same
      rw [same] at noSign
      exact absurd rfl noSign
    · exact unsigned
  have positive : (⟨_, valid⟩ : Numeral).negative = false := decide_eq_false noSign
  have magnitude : (⟨_, valid⟩ : Numeral).magnitude = value := by
    unfold Numeral.magnitude Numeral.unsigned
    rw [positive, if_neg (by decide)]
    simp only [parts]
    unfold partsValue
    simp only [List.append_nil, readExponent, List.length_nil]
    have same : digitsValue (Nat.toDigits 10 value) = value := Nat.ofDigitChars_ten_toDigits
    rw [same]
    simp
  have rounded : Binary64.round (value : Rat) = value := by
    apply Binary64.round_eq_self
    refine ⟨value, 0, ?_, by omega, by simp⟩
    rw [abs_of_nonneg (Int.natCast_nonneg value)]
    exact_mod_cast exactly.le
  have finite : Binary64.overflows (Binary64.round (⟨_, valid⟩ : Numeral).magnitude) = false := by
    rw [magnitude, rounded]
    unfold Binary64.overflows
    rw [rounded]
    apply decide_eq_false
    rw [not_le, abs_of_nonneg (Nat.cast_nonneg value)]
    have large : (value : Rat) < 2 ^ 53 := by exact_mod_cast exactly
    exact large.trans_le (pow_le_pow_right₀ (by norm_num) (by omega))
  rcases read_finite ⟨_, valid⟩ finite with ⟨double, isRead, sign, size⟩
  refine ⟨double, ?_, sign.trans positive, ?_⟩
  · unfold numberOf
    rw [dif_pos valid, isRead]
  · rw [size, magnitude, rounded]

theorem carries_call (served : message.Served) : Carries message message.call where
  id := by
    have positive := served.positive
    have exactly := served.exact
    rcases @numberOf_toDigits message.eventId.natAbs (by omega) with ⟨double, read, sign, magnitude⟩
    refine ⟨double, ?_, sign, ?_⟩
    · change numberOf (formatInt message.eventId) = _
      rw [formatInt_eq served, read]
    · rw [magnitude, ← Int.cast_natCast, Int.natAbs_of_nonneg (by omega)]
  type := rfl
  data := rfl

/-! ## The fields of a frame -/

theorem lineField_eq {name value : List Char} (noColon : ':' ∉ name)
    (trimmed : ∀ char ∈ value.head?, isWhiteSpace char = false) :
    lineField (name ++ ':' :: ' ' :: value) = (name, value) := by
  have before : ∀ char ∈ name, (char != ':') = true := fun char member =>
    bne_iff_ne.mpr (ne_of_mem_of_not_mem member noColon)
  unfold lineField
  rw [List.takeWhile_append_of_pos before, List.dropWhile_append_of_pos before,
    List.takeWhile_cons_of_neg (by decide), List.dropWhile_cons_of_neg (by decide), List.append_nil]
  change (name, (' ' :: value).dropWhile isWhiteSpace) = _
  rw [List.dropWhile_cons_of_pos (by decide)]
  cases value with
  | nil => rfl
  | cons first rest =>
      rw [List.dropWhile_cons_of_neg (by rw [trimmed first rfl]; decide)]

theorem isWhiteSpace_visible {char : Char} (visible : 32 < char.toNat) (ascii : char.toNat < 128) :
    isWhiteSpace char = false := by
  unfold isWhiteSpace
  simp only [Bool.or_eq_false_iff, Bool.and_eq_false_iff, decide_eq_false_iff_not]
  omega

theorem plain_of_visible {char : Char} (visible : 32 ≤ char.toNat) : char ≠ '\n' ∧ char ≠ '\r' := by
  constructor
  · intro same
    rw [same] at visible
    exact absurd visible (by decide)
  · intro same
    rw [same] at visible
    exact absurd visible (by decide)

theorem plain_of_word {char : Char} (word : isWhiteSpace char = false) : char ≠ '\n' ∧ char ≠ '\r' := by
  constructor
  · intro same
    rw [same] at word
    exact absurd word (by decide)
  · intro same
    rw [same] at word
    exact absurd word (by decide)

theorem toDigits_visible {value : Nat} {char : Char} (member : char ∈ Nat.toDigits 10 value) :
    32 < char.toNat ∧ char.toNat < 128 := by
  have bounds := isDigit_bounds (toDigits_isDigit member)
  omega

/-- The lines of a frame are lines. -/
theorem lines_isLine (served : message.Served) : ∀ line ∈ message.lines, IsLine line := by
  have plainly : forall {name value : List Char}, Printable name ->
      (∀ char ∈ value, char ≠ '\n' ∧ char ≠ '\r') -> ∀ char ∈ name ++ value, char ≠ '\n' ∧ char ≠ '\r' := by
    intro name value printable plain char member
    rcases List.mem_append.mp member with before | after
    · exact plain_of_visible (printable char before)
    · exact plain char after
  intro line member
  unfold SseMessage.lines at member
  simp only [List.mem_cons, List.not_mem_nil, or_false] at member
  rcases member with same | same | same | same
  · rw [same, formatInt_eq served]
    exact ⟨by simp, plainly (by decide) fun char inside => plain_of_visible (toDigits_visible inside).1.le⟩
  · rw [same]
    exact ⟨by simp, plainly (by decide) fun char inside => plain_of_word (served.word char inside)⟩
  · rw [same]
    exact ⟨by simp, fun char inside => plain_of_visible ((by decide : Printable "retry: 3000".toList) char inside)⟩
  · rw [same]
    exact ⟨by simp, plainly (by decide) fun char inside => plain_of_visible (printable_print _ char inside)⟩

/-- The entries of a frame. -/
theorem frameFields_eq (served : message.Served) : frameFields (joinLines message.lines) =
    [("id".toList, formatInt message.eventId), ("event".toList, message.event),
      ("retry".toList, "3000".toList), ("data".toList, marshal message.payload)] := by
  have idField : lineField ("id: ".toList ++ formatInt message.eventId) =
      ("id".toList, formatInt message.eventId) := by
    refine @lineField_eq "id".toList (formatInt message.eventId) (by decide) ?_
    intro char first
    rw [formatInt_eq served] at first
    rcases toDigits_visible (List.mem_of_mem_head? first) with ⟨visible, ascii⟩
    exact isWhiteSpace_visible visible ascii
  have eventField : lineField ("event: ".toList ++ message.event) = ("event".toList, message.event) :=
    @lineField_eq "event".toList message.event (by decide) fun char first =>
      served.word char (List.mem_of_mem_head? first)
  have dataField : lineField ("data: ".toList ++ marshal message.payload) =
      ("data".toList, marshal message.payload) := by
    refine @lineField_eq "data".toList (marshal message.payload) (by decide) ?_
    intro char first
    rcases print_begins (message.payload.map Double.format) with ⟨start, rest, begins, visible, ascii⟩
    change char ∈ (print (message.payload.map Double.format)).head? at first
    rw [begins, List.head?_cons, Option.mem_some] at first
    rw [← first]
    exact isWhiteSpace_visible visible ascii
  have retryField : lineField "retry: 3000".toList = ("retry".toList, "3000".toList) :=
    @lineField_eq "retry".toList "3000".toList (by decide) fun char first => by
      rw [← Option.mem_some.mp first]
      decide
  have colons : ∀ line ∈ message.lines, (line.contains ':') = true := by
    intro line member
    unfold SseMessage.lines at member
    simp only [List.mem_cons, List.not_mem_nil, or_false] at member
    rcases member with same | same | same | same <;> simp [same]
  unfold frameFields
  simp only
  rw [show message.lines = _ :: _ from rfl, cut_joinLines (lines_isLine served)]
  change (message.lines.filter _).map lineField = _
  rw [List.filter_eq_self.mpr colons]
  change [lineField _, lineField _, lineField _, lineField _] = _
  rw [idField, eventField, retryField, dataField]

/-- The payload is read back. -/
theorem jsonParse_marshal (distinct : message.payload.Distinct) :
    jsonParse (marshal message.payload) = some (message.payload.map Reading.finite) := by
  have back : read ∘ Double.format = Reading.finite := by
    funext value
    exact read_format value
  unfold jsonParse marshal
  rw [parse_print, Option.map_some, Document.map_map, back, (distinct.map Reading.finite).collapse]

theorem marshal_ne_nil (payload : Document Double) : marshal payload ≠ [] := by
  rcases print_begins (payload.map Double.format) with ⟨char, rest, begins, _, _⟩
  unfold marshal
  rw [begins]
  exact List.cons_ne_nil char rest

/-- A frame leads to its call. -/
theorem readFrame_text (served : message.Served) {reader : StreamReader} (running : reader.failed = false) :
    reader.readFrame (joinLines message.lines) =
      { reader with
        eventId := message.call.id
        received := reader.received ++ [message.call] } := by
  have digits : formatInt message.eventId ≠ [] := by
    rw [formatInt_eq served]
    exact Nat.toDigits_ne_nil
  have present : forall {text : List Char}, text ≠ [] ->
      (some text).filter (fun text => !text.isEmpty) = some text := by
    intro text nonempty
    rcases List.exists_cons_of_ne_nil nonempty with ⟨first, rest, same⟩
    rw [same]
    rfl
  have id : truthyProperty "id".toList (frameFields (joinLines message.lines)) =
      some (formatInt message.eventId) := by
    rw [frameFields_eq served]
    exact present digits
  have event : truthyProperty "event".toList (frameFields (joinLines message.lines)) =
      some message.event := by
    rw [frameFields_eq served]
    exact present served.nonempty
  have data : truthyProperty "data".toList (frameFields (joinLines message.lines)) =
      some (marshal message.payload) := by
    rw [frameFields_eq served]
    exact present (marshal_ne_nil message.payload)
  unfold StreamReader.readFrame
  rw [running, if_neg (by decide)]
  simp only [id, event, data, jsonParse_marshal served.distinct]
  rfl

/-! ## The whole stream -/

/-- The pieces of a text are the frames of the messages. -/
def IsCut (text : List Char) (messages : List SseMessage) (rest : List Char) : Prop :=
  Splitting.cut frameBreak text = (messages.map fun message => joinLines message.lines, rest)

theorem isCut_frames {messages : List SseMessage} (served : ∀ message ∈ messages, message.Served) :
    IsCut (messages.flatMap SseMessage.frame) messages [] := by
  induction messages with
  | nil => rfl
  | cons message rest inductionHypothesis =>
      have later := inductionHypothesis fun other member => served other (List.mem_cons_of_mem _ member)
      have frame := cut_frame (lines_isLine (served message List.mem_cons_self))
        (rest.flatMap SseMessage.frame)
      unfold IsCut at later ⊢
      rw [List.flatMap_cons]
      change Splitting.cut frameBreak ((joinLines message.lines ++ ['\n', '\n']) ++ _) = _
      rw [List.append_assoc]
      refine Eq.trans frame ?_
      rw [later]
      rfl

theorem foldl_readFrame {messages : List SseMessage} (served : ∀ message ∈ messages, message.Served)
    {reader : StreamReader} (running : reader.failed = false) :
    ∃ eventId, (messages.map fun message => joinLines message.lines).foldl StreamReader.readFrame reader =
      { reader with
        eventId := eventId
        received := reader.received ++ messages.map SseMessage.call } := by
  induction messages generalizing reader with
  | nil => exact ⟨reader.eventId, by simp⟩
  | cons message rest inductionHypothesis =>
      rw [List.map_cons, List.foldl_cons, readFrame_text (served message List.mem_cons_self) running]
      rcases @inductionHypothesis (fun other member => served other (List.mem_cons_of_mem _ member))
        { reader with eventId := message.call.id, received := reader.received ++ [message.call] }
        running with ⟨eventId, folded⟩
      refine ⟨eventId, ?_⟩
      rw [folded]
      simp

/-- The text of a chunk when no byte order mark comes first. -/
theorem decodeText_eq {reader : StreamReader} {chunk : List UInt8}
    (noMark : reader.started = false ->
      ∀ char ∈ (Utf8.decode reader.decoder chunk).2.head?, char ≠ Char.ofNat 0xFEFF) :
    reader.decodeText chunk = (Utf8.decode reader.decoder chunk).2 := by
  unfold StreamReader.decodeText
  cases started : reader.started with
  | true => rfl
  | false =>
      have first := noMark started
      simp only
      rw [if_neg (by decide), if_neg]
      intro mark
      exact first _ mark rfl

/-- A chunk that completes the frames of some messages. -/
theorem readChunk_eq {chunk : List UInt8} {messages : List SseMessage} {decoder : Utf8.Decoder}
    {text kept : List Char} {reader : StreamReader} (served : ∀ message ∈ messages, message.Served)
    (running : reader.failed = false) (decoded : Utf8.decode reader.decoder chunk = (decoder, text))
    (noMark : reader.started = false -> ∀ char ∈ text.head?, char ≠ Char.ofNat 0xFEFF)
    (isCut : IsCut (reader.buffer ++ text) messages kept) :
    ∃ eventId, reader.readChunk chunk =
      { decoder := decoder
        started := reader.started || !text.isEmpty
        buffer := kept
        eventId := eventId
        received := reader.received ++ messages.map SseMessage.call
        failed := false } := by
  have chunkText : reader.decodeText chunk = text := by
    rw [decodeText_eq (by rw [decoded]; exact noMark), decoded]
  unfold IsCut at isCut
  unfold StreamReader.readChunk
  rw [running, if_neg (by decide), chunkText, decoded, isCut]
  rcases @foldl_readFrame messages served
    { reader with decoder := decoder, started := reader.started || !text.isEmpty, buffer := kept }
    running with ⟨eventId, folded⟩
  exact ⟨eventId, by rw [← running]; exact folded⟩

/-- A run over chunks that together hold the frames of the messages. -/
theorem run_messages {chunks : List (List UInt8)} {messages : List SseMessage} {text rest : List Char}
    {reader : StreamReader} (served : ∀ message ∈ messages, message.Served)
    (running : reader.failed = false) (unfinished : (Splitting.cut frameBreak reader.buffer).1 = [])
    (decoded : Utf8.decode reader.decoder chunks.flatten = (.fresh, text))
    (noMark : reader.started = false -> ∀ char ∈ text.head?, char ≠ Char.ofNat 0xFEFF)
    (isCut : IsCut (reader.buffer ++ text) messages rest) :
    (reader.run chunks).decoder = .fresh ∧ (reader.run chunks).buffer = rest ∧
      (reader.run chunks).received = reader.received ++ messages.map SseMessage.call ∧
      (reader.run chunks).failed = false := by
  induction chunks generalizing reader messages text with
  | nil =>
      have decoder : reader.decoder = .fresh := congrArg Prod.fst decoded
      have empty : text = [] := (congrArg Prod.snd decoded).symm
      unfold IsCut at isCut
      rw [empty, List.append_nil] at isCut
      have none : messages = [] := by
        rw [isCut] at unfinished
        exact List.map_eq_nil_iff.mp unfinished
      have kept : reader.buffer = rest := by
        have same := Splitting.cut_rest unfinished
        rw [isCut] at same
        exact same.symm
      rw [none]
      exact ⟨decoder, kept, by simp [StreamReader.run], running⟩
  | cons chunk chunks inductionHypothesis =>
      rw [List.flatten_cons, Utf8.decode_append] at decoded
      generalize first : Utf8.decode reader.decoder chunk = now at decoded
      generalize second : Utf8.decode now.1 chunks.flatten = remaining at decoded
      rcases now with ⟨decoder, now⟩
      rcases remaining with ⟨last, later⟩
      rcases Prod.mk.inj decoded with ⟨isFresh, whole⟩
      change last = .fresh at isFresh
      change now ++ later = text at whole
      rw [← whole] at noMark
      have pieces := Splitting.cut_append frameBreak_incremental (reader.buffer ++ now) later
      unfold IsCut at isCut
      rw [← whole, ← List.append_assoc, pieces, Prod.mk.injEq] at isCut
      rcases List.map_eq_append_iff.mp isCut.1.symm with
        ⟨finished, others, split, finishedPieces, otherPieces⟩
      rw [split] at served ⊢
      have nowCut : IsCut (reader.buffer ++ now) finished (Splitting.cut frameBreak (reader.buffer ++ now)).2 :=
        Prod.ext finishedPieces.symm rfl
      rcases readChunk_eq (fun message member => served message (List.mem_append_left others member))
        running first (fun fresh char isFirst =>
          noMark fresh char (List.mem_head?_append_of_mem_head? isFirst)) nowCut with ⟨eventId, turn⟩
      change (StreamReader.run (reader.readChunk chunk) chunks).decoder = _ ∧ _
      rw [show reader.run (chunk :: chunks) = StreamReader.run (reader.readChunk chunk) chunks from rfl, turn,
        List.map_append, ← List.append_assoc]
      refine inductionHypothesis (fun message member => served message (List.mem_append_right finished member))
        rfl (Splitting.cut_rest_unfinished frameBreak_incremental _) (isFresh ▸ second) ?_
        (Prod.ext otherPieces.symm isCut.2)
      intro fresh
      rcases Bool.or_eq_false_iff.mp fresh with ⟨notStarted, nothing⟩
      have empty : now = [] := by
        rw [Bool.not_eq_false', List.isEmpty_iff] at nothing
        exact nothing
      rw [empty] at noMark
      exact noMark notStarted

/-- Whatever the chunks, the reader calls `onEvent` once for every frame, in
order and with its identifier, type and payload, and keeps nothing. -/
theorem sse_round_trip (messages : List SseMessage) (served : ∀ message ∈ messages, message.Served)
    (chunks : List (List UInt8)) (bytes : chunks.flatten = messages.flatMap writeSSE)
    (lastEventId : Option Reading) :
    List.Forall₂ Carries messages ((StreamReader.start lastEventId).run chunks).received ∧
      ((StreamReader.start lastEventId).run chunks).buffer = [] ∧
      ((StreamReader.start lastEventId).run chunks).decoder = .fresh ∧
      ((StreamReader.start lastEventId).run chunks).failed = false := by
  have stream : messages.flatMap writeSSE = Utf8.encode (messages.flatMap SseMessage.frame) := by
    unfold writeSSE Utf8.encode
    rw [List.flatMap_assoc]
  have noMark : ∀ char ∈ (messages.flatMap SseMessage.frame).head?, char ≠ Char.ofNat 0xFEFF := by
    intro char first
    cases messages with
    | nil => cases first
    | cons message rest =>
        have isFirst : 'i' = char := Option.some.inj first
        rw [← isFirst]
        decide
  have decoded := Utf8.decode_encode (messages.flatMap SseMessage.frame)
  rw [← stream, ← bytes] at decoded
  rcases @run_messages chunks messages _ [] (StreamReader.start lastEventId) served rfl rfl decoded
    (fun _ => noMark) (isCut_frames served) with ⟨decoder, buffer, received, failed⟩
  refine ⟨?_, buffer, decoder, failed⟩
  rw [received]
  change List.Forall₂ Carries messages (messages.map SseMessage.call)
  rw [List.forall₂_map_right_iff]
  exact List.forall₂_same.mpr fun message member => carries_call (served message member)

theorem word_of_all {text : List Char} (all : (text.all fun char => !isWhiteSpace char) = true) :
    ∀ char ∈ text, isWhiteSpace char = false :=
  fun char member => by simpa using List.all_eq_true.mp all char member

/-- The server's event types are words. -/
theorem eventType_word (type : Queue.SimulationEventType) :
    type.text.toList ≠ [] ∧ ∀ char ∈ type.text.toList, isWhiteSpace char = false := by
  cases type <;> exact ⟨by simp [Queue.SimulationEventType.text], word_of_all (by decide)⟩

namespace SampleStream

def five : Double where
  negative := false
  magnitude := 5
  nonnegative := by norm_num
  rounded := by decide +kernel
  finite := by decide +kernel

def stage : SseMessage where
  eventId := 7
  event := Queue.SimulationEventType.stage.text.toList
  payload := .object [("note".toList, .string "d\u00e9j\u00e0\n".toList), ("step".toList, .number five)]

def heartbeat : SseMessage where
  eventId := 2 ^ 53 - 1
  event := "heartbeat".toList
  payload := .array [.null, .bool true]

theorem stage_served : stage.Served where
  positive := by decide
  exact := by decide
  nonempty := (eventType_word .stage).1
  word := (eventType_word .stage).2
  distinct := by
    refine Document.Distinct.object (by decide) fun member inside => ?_
    rcases List.mem_pair.mp inside with same | same
    · rw [same]
      exact Document.Distinct.string _
    · rw [same]
      exact Document.Distinct.number five

theorem heartbeat_served : heartbeat.Served where
  positive := by decide
  exact := by decide
  nonempty := by simp [heartbeat]
  word := word_of_all (by decide)
  distinct := by
    refine Document.Distinct.array fun item inside => ?_
    rcases List.mem_pair.mp inside with same | same
    · rw [same]
      exact Document.Distinct.null
    · rw [same]
      exact Document.Distinct.bool true

theorem served : ∀ message ∈ [stage, heartbeat], message.Served := by
  intro message member
  rcases List.mem_pair.mp member with same | same
  · rw [same]
    exact stage_served
  · rw [same]
    exact heartbeat_served

/-- Every byte is a chunk of its own. -/
def chunks : List (List UInt8) :=
  ([stage, heartbeat].flatMap writeSSE).map fun byte => [byte]

theorem chunks_flatten : chunks.flatten = [stage, heartbeat].flatMap writeSSE := by
  unfold chunks
  rw [← List.flatMap_def, List.flatMap_singleton']

end SampleStream

open SampleStream in
theorem sse_round_trip_sample : chunks.flatten = [stage, heartbeat].flatMap writeSSE ∧
    List.Forall₂ Carries [stage, heartbeat] ((StreamReader.start none).run chunks).received ∧
    ((StreamReader.start none).run chunks).buffer = [] ∧
    ((StreamReader.start none).run chunks).decoder = .fresh ∧
    ((StreamReader.start none).run chunks).failed = false :=
  ⟨chunks_flatten, sse_round_trip [stage, heartbeat] served chunks chunks_flatten none⟩

end Live
end FederatedIot
