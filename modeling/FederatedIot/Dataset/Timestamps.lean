import FederatedIot.Foundation.TimeLayout

namespace FederatedIot
namespace Dataset

open Foundation

/-!
# Timestamps

The importer checks the time of every row, the worker copies its text into the
results, and the result reader reads it again under layouts of its own.
-/

/-! ## The importer -/

def dashedMillis : Layout :=
  [("", .longYear), ("-", .zeroMonth), ("-", .zeroDay), (" ", .hour), (":", .zeroMinute),
    (":", .zeroSecond), ("", .fracSecond0 3)]

def dashed : Layout :=
  [("", .longYear), ("-", .zeroMonth), ("-", .zeroDay), (" ", .hour), (":", .zeroMinute),
    (":", .zeroSecond)]

def slashedMillis : Layout :=
  [("", .longYear), ("/", .zeroMonth), ("/", .zeroDay), (" ", .hour), (":", .zeroMinute),
    (":", .zeroSecond), ("", .fracSecond0 3)]

def slashed : Layout :=
  [("", .longYear), ("/", .zeroMonth), ("/", .zeroDay), (" ", .hour), (":", .zeroMinute),
    (":", .zeroSecond)]

example : [dashedMillis, dashed, slashedMillis, slashed].map Layout.text =
    ["2006-01-02 15:04:05.000", "2006-01-02 15:04:05", "2006/01/02 15:04:05.000",
      "2006/01/02 15:04:05"] := by decide

/-- The importer's check of a row's time, in the location of the dataset. -/
def parseTimestamp (value : List Char) (location : Location) : Option Instant :=
  let value := trimSpace value
  [rfc3339Nano, dashedMillis, dashed, slashedMillis, slashed].findSome? fun layout =>
    if layout = rfc3339Nano then layout.parse value else layout.parseInLocation value location

/-! ## The result reader -/

def dashedMicros : Layout :=
  [("", .longYear), ("-", .zeroMonth), ("-", .zeroDay), (" ", .hour), (":", .zeroMinute),
    (":", .zeroSecond), ("", .fracSecond9 6)]

def dayFirst : Layout :=
  [("", .zeroDay), ("-", .month), ("-", .longYear), (" ", .hour), (":", .zeroMinute),
    (":", .zeroSecond)]

example : [dashedMicros, dayFirst].map Layout.text =
    ["2006-01-02 15:04:05.999999", "02-Jan-2006 15:04:05"] := by decide

/-- The locations of the time zone database, by name. -/
abbrev Zones := String -> Option Location

/-- The reader's reading of the time of a result. -/
def parseResultTimestamp (loadLocation : Zones) (raw : List Char) : Option Instant :=
  match rfc3339Nano.parse raw with
  | some parsed => some parsed
  | none =>
      match loadLocation "Asia/Shanghai" with
      | none => none
      | some location =>
          [dashedMicros, dashed, dayFirst].findSome? fun layout => layout.parseInLocation raw location

/-! ## Which texts stay readable -/

/-- The texts without white space around them, whose date is not written with
slashes and whose fraction has no sign. -/
structure Readable (text : List Char) : Prop where
  trimmed : trimSpace text = text
  dashes : text[4]? ≠ some '/'
  unsigned : signedFraction text = false

/-- The parts up to the minutes of a date with dashes. -/
def dashedHead : Layout :=
  [("", .longYear), ("-", .zeroMonth), ("-", .zeroDay), (" ", .hour), (":", .zeroMinute)]

theorem scan_dashed : Layout.scan dashed = Layout.scan dashedMicros :=
  scan_append_congr dashedHead rfl (funext fun fields => funext fun value => scan_zeroSecond ":" 6 fields value)

theorem scan_dashedMillis {value : List Char} (unsigned : signedFraction value = false)
    {fields result : Fields} (scanned : Layout.scan dashedMillis fields value = some result) :
    Layout.scan dashedMicros fields value = some result := by
  have numeric : ∀ part ∈ dashedHead, part.2.numeric = true := by decide
  refine @scan_append_of dashedHead [(":", .zeroSecond), ("", .fracSecond0 3)]
    [(":", .zeroSecond), ("", .fracSecond9 6)] result numeric rfl fields value ?_ scanned
  intro between before rest split
  rw [split] at unsigned
  exact scan_fixed_fraction (by decide) (by decide) 6 (signedFraction_append unsigned)

/-- A literal of one character other than the blank stands for itself. -/
theorem skip_mark {mark : Char} (notBlank : mark ≠ ' ') {value rest : List Char}
    (skipped : skip false [mark] value = some rest) : value = mark :: rest := by
  simp only [skip] at skipped
  rw [if_neg (by simpa using notBlank)] at skipped
  split at skipped
  · cases skipped
  · next c tail =>
      split at skipped
      · next same =>
          cases skipped
          rw [eq_of_beq same]
      · cases skipped

/-- A text that begins with a year has four digits and then the literal of the
next part. -/
theorem scan_year {before : String} {mark : Char} (literal : before.toList = [mark])
    (notBlank : mark ≠ ' ') {chunk : Chunk} {rest : Layout} {fields result : Fields}
    {value : List Char}
    (scanned : Layout.scan (("", .longYear) :: (before, chunk) :: rest) fields value = some result) :
    ∃ a b c d tail, value = a :: b :: c :: d :: mark :: tail ∧
      ∀ e ∈ [a, b, c, d], isDecimal e = true := by
  rcases Option.bind_eq_some_iff.mp scanned with ⟨_, skippedEmpty, scanned⟩
  cases skippedEmpty
  rcases Option.bind_eq_some_iff.mp scanned with ⟨⟨between, remainder⟩, read, scanned⟩
  rcases Option.bind_eq_some_iff.mp scanned with ⟨tail, skipped, _⟩
  rcases longYear_reads read with ⟨a, b, c, d, split, digits⟩
  rw [literal] at skipped
  refine ⟨a, b, c, d, tail, ?_, digits⟩
  rw [split]
  have remainderSplit : remainder = mark :: tail := skip_mark notBlank skipped
  rw [remainderSplit]

/-- A text that begins with the day has a dash after the second digit. -/
theorem scan_dayFirst {fields result : Fields} {value : List Char}
    (scanned : Layout.scan dayFirst fields value = some result) :
    ∃ a b tail, value = a :: b :: '-' :: tail ∧ isDecimal a = true := by
  rcases Option.bind_eq_some_iff.mp scanned with ⟨_, skippedEmpty, scanned⟩
  cases skippedEmpty
  rcases Option.bind_eq_some_iff.mp scanned with ⟨⟨between, remainder⟩, read, scanned⟩
  rcases Option.bind_eq_some_iff.mp scanned with ⟨tail, skipped, _⟩
  rcases Option.map_eq_some_iff.mp read with ⟨⟨day, rest⟩, taken, same⟩
  have remainderEq : rest = remainder := congrArg Prod.snd same
  have skipped : remainder = '-' :: tail := skip_mark (by decide) skipped
  rcases getnum_fixed taken with ⟨tens, units, split, tensDigit, _⟩
  exact ⟨tens, units, tail, by rw [split, remainderEq, skipped], tensDigit⟩

/-! ## Trimming -/

/-- A text that begins with a digit and does not end in white space is trimmed. -/
theorem trimSpace_eq_self {c : Char} {rest : List Char} (digit : isDecimal c = true)
    (ends : Ends (c :: rest)) : trimSpace (c :: rest) = c :: rest := by
  rw [trimSpace, List.dropWhile_cons_of_neg (by rw [not_isSpace_of_isDecimal digit]; decide),
    List.rdropWhile_eq_self_iff]
  intro nonempty space
  have last := ends _ (List.getLast?_eq_some_getLast nonempty)
  rw [last] at space
  cases space

/-- Trimming a text that begins with a digit leaves a first piece of it. -/
theorem trimSpace_initial {c : Char} {rest : List Char} (digit : isDecimal c = true) :
    trimSpace (c :: rest) <+: c :: rest := by
  rw [trimSpace, List.dropWhile_cons_of_neg (by rw [not_isSpace_of_isDecimal digit]; decide)]
  exact List.rdropWhile_prefix _ _

/-! ## The two readings -/

theorem parseInLocation_of_scan {first second : Layout} {value : List Char} {location : Location}
    (compare : forall result, first.scan {} value = some result -> second.scan {} value = some result)
    {instant : Instant} (parsed : first.parseInLocation value location = some instant) :
    second.parseInLocation value location = some instant := by
  rcases Option.bind_eq_some_iff.mp parsed with ⟨fields, scanned, finished⟩
  exact Option.bind_eq_some_iff.mpr ⟨fields, compare fields scanned, finished⟩

/-- The importer takes the first layout that fits. -/
theorem parseTimestamp_cases {value : List Char} {location : Location} {instant : Instant}
    (accepted : parseTimestamp value location = some instant) :
    rfc3339Nano.parse (trimSpace value) = some instant ∨
      (rfc3339Nano.parse (trimSpace value) = none ∧
        (dashedMillis.parseInLocation (trimSpace value) location = some instant ∨
          dashed.parseInLocation (trimSpace value) location = some instant)) ∨
      ∃ layout ∈ [slashedMillis, slashed],
        layout.parseInLocation (trimSpace value) location = some instant := by
  have others : dashedMillis ≠ rfc3339Nano ∧ dashed ≠ rfc3339Nano ∧ slashedMillis ≠ rfc3339Nano ∧
      slashed ≠ rfc3339Nano := by decide
  simp only [parseTimestamp, List.findSome?_cons, if_pos, if_neg others.1, if_neg others.2.1,
    if_neg others.2.2.1, if_neg others.2.2.2, List.findSome?_nil] at accepted
  split at accepted
  · next parsed =>
      cases accepted
      exact Or.inl parsed
  · next notRfc =>
      split at accepted
      · next parsed =>
          cases accepted
          exact Or.inr (Or.inl ⟨notRfc, Or.inl parsed⟩)
      · split at accepted
        · next parsed =>
            cases accepted
            exact Or.inr (Or.inl ⟨notRfc, Or.inr parsed⟩)
        · split at accepted
          · next parsed =>
              cases accepted
              exact Or.inr (Or.inr ⟨slashedMillis, by simp, parsed⟩)
          · split at accepted
            · next parsed =>
                cases accepted
                exact Or.inr (Or.inr ⟨slashed, by simp, parsed⟩)
            · cases accepted

/-- Every text that the importer accepts begins with a year, and a slash or a
dash follows it. -/
theorem parseTimestamp_year {value : List Char} {location : Location} {instant : Instant}
    (accepted : parseTimestamp value location = some instant) :
    ∃ a b c d mark tail, trimSpace value = a :: b :: c :: d :: mark :: tail ∧
      ∀ e ∈ [a, b, c, d], isDecimal e = true := by
  have year {before : String} {mark : Char} (literal : before.toList = [mark]) (notBlank : mark ≠ ' ')
      {chunk : Chunk} {rest : Layout} {location : Location}
      (parsed : Layout.parseInLocation (("", .longYear) :: (before, chunk) :: rest) (trimSpace value)
        location = some instant) :
      ∃ a b c d mark tail, trimSpace value = a :: b :: c :: d :: mark :: tail ∧
        ∀ e ∈ [a, b, c, d], isDecimal e = true := by
    rcases Option.bind_eq_some_iff.mp parsed with ⟨fields, scanned, _⟩
    rcases scan_year literal notBlank scanned with ⟨a, b, c, d, tail, split, digits⟩
    exact ⟨a, b, c, d, mark, tail, split, digits⟩
  rcases parseTimestamp_cases accepted with parsed | ⟨_, parsed | parsed⟩ | ⟨layout, member, parsed⟩
  · exact @year "-" '-' rfl (by decide) _ _ _ parsed
  · exact @year "-" '-' rfl (by decide) _ _ _ parsed
  · exact @year "-" '-' rfl (by decide) _ _ _ parsed
  · rcases List.mem_pair.mp member with rfl | rfl
    · exact @year "/" '/' rfl (by decide) _ _ _ parsed
    · exact @year "/" '/' rfl (by decide) _ _ _ parsed

/-- A layout that begins with the year, has a dash after it and tight parts. -/
theorem parse_dashed {chunk : Chunk} {rest : Layout}
    (tightParts : ∀ part ∈ ("", .longYear) :: ("-", chunk) :: rest, tight part = true)
    {raw : List Char} {location : Location} {instant : Instant}
    (parsed : Layout.parseInLocation (("", .longYear) :: ("-", chunk) :: rest) raw location =
      some instant) :
    ∃ a b c d tail, raw = a :: b :: c :: d :: '-' :: tail ∧ isDecimal a = true ∧
      marked raw = true ∧ Ends raw := by
  rcases Option.bind_eq_some_iff.mp parsed with ⟨fields, scanned, _⟩
  have literal : "-".toList = ['-'] := by decide
  rcases scan_year literal (by decide) scanned with ⟨a, b, c, d, tail, split, digits⟩
  exact ⟨a, b, c, d, tail, split, digits a List.mem_cons_self, scan_tight tightParts scanned⟩

theorem rfc3339Nano_tight : ∀ part ∈ rfc3339Nano, tight part = true := by
  decide

theorem dashedMicros_tight : ∀ part ∈ dashedMicros, tight part = true := by
  decide

/-- The reader accepts a text that begins with the year, or one that begins
with the day. -/
theorem parseResultTimestamp_shape {loadLocation : Zones} {raw : List Char} {instant : Instant}
    (accepted : parseResultTimestamp loadLocation raw = some instant) :
    (∃ a b c d tail, raw = a :: b :: c :: d :: '-' :: tail ∧ isDecimal a = true ∧
      marked raw = true ∧ Ends raw) ∨
      ∃ a b tail, raw = a :: b :: '-' :: tail ∧ isDecimal a = true := by
  unfold parseResultTimestamp at accepted
  split at accepted
  · next parsed => exact Or.inl (parse_dashed rfc3339Nano_tight parsed)
  · split at accepted
    · cases accepted
    · next location _ =>
        rcases List.exists_of_findSome?_eq_some accepted with ⟨layout, member, parsed⟩
        rcases List.mem_cons.mp member with rfl | member
        · exact Or.inl (parse_dashed dashedMicros_tight parsed)
        · rcases List.mem_pair.mp member with rfl | rfl
          · apply Or.inl
            have micros : dashedMicros.parseInLocation raw location = some instant :=
              parseInLocation_of_scan (fun _ scanned => by rwa [← scan_dashed]) parsed
            exact parse_dashed dashedMicros_tight micros
          · rcases Option.bind_eq_some_iff.mp parsed with ⟨fields, scanned, _⟩
            exact Or.inr (scan_dayFirst scanned)

/-- What the importer accepts and the reader accepts is readable. -/
theorem readable_of_both {loadLocation : Zones} {text : List Char} {location : Location}
    {imported read : Instant} (accepted : parseTimestamp text location = some imported)
    (reads : parseResultTimestamp loadLocation text = some read) : Readable text := by
  rcases parseTimestamp_year accepted with ⟨a, b, c, d, mark, tail, split, digits⟩
  rcases parseResultTimestamp_shape reads with
    ⟨a', b', c', d', tail', rawSplit, digit, fractions, ends⟩ | ⟨a', b', tail', rawSplit, digit⟩
  · refine ⟨?_, ?_, signedFraction_of_marked fractions⟩
    · rw [rawSplit] at ends ⊢
      exact trimSpace_eq_self digit ends
    · rw [rawSplit]
      simp
  · -- the third character would be a digit and a dash
    have trimmed := @trimSpace_initial a' (b' :: '-' :: tail') digit
    rw [← rawSplit, split, rawSplit] at trimmed
    rcases trimmed with ⟨spaces, whole⟩
    simp only [List.cons_append, List.cons.injEq] at whole
    have third := digits c (by simp)
    rw [whole.2.2.1] at third
    cases third

/-- The reader reads a readable text as the importer did. -/
theorem reads_of_readable {loadLocation : Zones} {text : List Char} {location : Location}
    {instant : Instant} (loaded : loadLocation "Asia/Shanghai" = some location)
    (accepted : parseTimestamp text location = some instant) (readable : Readable text) :
    parseResultTimestamp loadLocation text = some instant := by
  have cases_ := parseTimestamp_cases accepted
  rw [readable.trimmed] at cases_
  rcases cases_ with parsed | ⟨notRfc, parsed⟩ | ⟨layout, member, parsed⟩
  · rw [parseResultTimestamp, parsed]
  · have micros : dashedMicros.parseInLocation text location = some instant := by
      rcases parsed with parsed | parsed
      · exact parseInLocation_of_scan (fun _ scanned => scan_dashedMillis readable.unsigned scanned) parsed
      · exact parseInLocation_of_scan (fun _ scanned => by rwa [← scan_dashed]) parsed
    rw [parseResultTimestamp, notRfc]
    simp only [loaded]
    rw [List.findSome?_cons, micros]
  · have slash : text[4]? = some '/' := by
      have literal : "/".toList = ['/'] := by decide
      rcases List.mem_pair.mp member with rfl | rfl <;>
        rcases Option.bind_eq_some_iff.mp parsed with ⟨fields, scanned, _⟩ <;>
        rcases scan_year literal (by decide) scanned with ⟨a, b, c, d, tail, split, _⟩ <;>
        rw [split] <;> rfl
    exact absurd slash readable.dashes

/-- The reader reads an accepted column of times as the importer did exactly
when every text in it is readable. -/
theorem timestamps_stay_readable (loadLocation : Zones) (location : Location)
    (loaded : loadLocation "Asia/Shanghai" = some location) :
    (forall text instant, parseTimestamp text location = some instant ->
      (parseResultTimestamp loadLocation text = some instant ↔ Readable text)) ∧
    forall (column : List (List Char)) instants, (column.mapM fun text => parseTimestamp text location) = some instants ->
      (column.mapM (parseResultTimestamp loadLocation) = some instants ↔
        ∀ text ∈ column, Readable text) := by
  have single : forall text instant, parseTimestamp text location = some instant ->
      (parseResultTimestamp loadLocation text = some instant ↔ Readable text) := by
    intro text instant accepted
    exact ⟨readable_of_both accepted, reads_of_readable loaded accepted⟩
  refine ⟨single, ?_⟩
  intro column
  induction column with
  | nil => simp
  | cons text rest inductionHypothesis =>
      intro instants accepted
      rw [List.mapM_cons] at accepted
      rcases Option.bind_eq_some_iff.mp accepted with ⟨instant, first, accepted⟩
      rcases Option.bind_eq_some_iff.mp accepted with ⟨later, others, same⟩
      cases same
      rw [List.mapM_cons, List.forall_mem_cons, ← single text instant first, ← inductionHypothesis later others]
      constructor
      · intro reads
        rcases Option.bind_eq_some_iff.mp reads with ⟨instant', firstRead, reads⟩
        rcases Option.bind_eq_some_iff.mp reads with ⟨later', othersRead, same⟩
        cases same
        exact ⟨firstRead, othersRead⟩
      · rintro ⟨firstRead, othersRead⟩
        rw [firstRead, othersRead]
        rfl

/-- China has kept eight hours since the last change of its clocks in 1991. -/
def chinaStandardTime : Location where
  lookup _ := { offset := 28800, start := 684867600, stop := 9223372036854775807 }

def sampleZones : Zones := fun name =>
  if name = "Asia/Shanghai" then some chinaStandardTime else none

theorem timestamps_stay_readable_sample :
    parseResultTimestamp sampleZones "2026-07-04 08:30:00.250".toList =
      some { seconds := 1783125000, nanoseconds := 250000000 } := by
  have stays := timestamps_stay_readable sampleZones chinaStandardTime rfl
  refine (stays.1 _ _ (by decide +kernel)).mpr ⟨by decide +kernel, by decide, by decide⟩

/-- The importer accepts a date with slashes, which the reader does not know. -/
theorem slashed_date_unreadable :
    ∃ loadLocation location text instant, loadLocation "Asia/Shanghai" = some location ∧
      parseTimestamp text location = some instant ∧ parseResultTimestamp loadLocation text = none :=
  ⟨sampleZones, chinaStandardTime, "2026/07/04 08:30:00".toList,
    { seconds := 1783125000, nanoseconds := 0 }, rfl, by decide +kernel, by decide +kernel⟩

end Dataset
end FederatedIot
