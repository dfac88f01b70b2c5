import Mathlib.Algebra.GroupWithZero.Nat
import Mathlib.Data.List.Chain
import Mathlib.Data.List.DropRight
import Mathlib.Data.List.Infix

namespace Foundation

/-!
# Time layouts

Reading a time under a layout, as Go's package `time` does it.  A layout is the
sequence of its parts, each with the literal text before it.  A reader is
lenient in places: an hour may have one digit, one blank stands for several,
and a fraction may follow the seconds although the layout has none.
-/

/-! ## Instants -/

/-- A stretch of time over which a zone keeps one offset from UTC, in seconds. -/
structure ZonePeriod where
  offset : Int
  start : Int
  stop : Int

/-- A location tells for each second the period it lies in. -/
structure Location where
  lookup : Int -> ZonePeriod

/-- A point in time, in seconds since 1970-01-01T00:00:00Z and nanoseconds. -/
structure Instant where
  seconds : Int
  nanoseconds : Nat
deriving DecidableEq, Repr

def isLeap (year : Nat) : Bool :=
  year % 4 == 0 && (year % 100 != 0 || year % 400 == 0)

def daysIn (month year : Nat) : Nat :=
  if month == 2 then if isLeap year then 29 else 28
  else if month == 4 || month == 6 || month == 9 || month == 11 then 30
  else 31

/-- The days from the first day of the year 0 to the first day of the year. -/
def daysBeforeYear (year : Nat) : Nat :=
  if year == 0 then 0 else 365 * year + 1 + (year - 1) / 4 - (year - 1) / 100 + (year - 1) / 400

def daysBeforeMonth (month year : Nat) : Nat :=
  ((List.range (month - 1)).map fun earlier => daysIn (earlier + 1) year).sum

/-- The fields that the parts of a layout fill.  The zone is the offset that the
text names itself. -/
structure Fields where
  year : Nat := 0
  month : Nat := 1
  day : Nat := 1
  hour : Nat := 0
  minute : Nat := 0
  second : Nat := 0
  nanosecond : Nat := 0
  zone : Option Int := none

/-- The seconds since the epoch when the fields are read as UTC. -/
def Fields.wallSeconds (fields : Fields) : Int :=
  ((daysBeforeYear fields.year + daysBeforeMonth fields.month fields.year + (fields.day - 1) : Nat)
      - 719528) * 86400
    + (fields.hour * 3600 + fields.minute * 60 + fields.second : Nat)

/-- The offset is looked up at the wall time first, and once more when the
second so found lies outside that period. -/
def Location.toUnix (location : Location) (wall : Int) : Int :=
  let period := location.lookup wall
  if period.offset == 0 then wall
  else
    let utc := wall - period.offset
    if utc < period.start || period.stop ≤ utc then wall - (location.lookup utc).offset else utc

/-- The day is checked against the month at the very end. -/
def Fields.finish (fields : Fields) (location : Location) : Option Instant :=
  if fields.day < 1 || daysIn fields.month fields.year < fields.day then none
  else
    some {
      seconds := match fields.zone with
        | some offset => fields.wallSeconds - offset
        | none => location.toUnix fields.wallSeconds
      nanoseconds := fields.nanosecond
    }

/-! ## Characters -/

/-- White space as Unicode has it. -/
def isSpace (c : Char) : Bool :=
  (9 ≤ c.toNat && c.toNat ≤ 13) || c.toNat == 32 || c.toNat == 0x85 || c.toNat == 0xA0 ||
    c.toNat == 0x1680 || (0x2000 ≤ c.toNat && c.toNat ≤ 0x200A) || c.toNat == 0x2028 ||
    c.toNat == 0x2029 || c.toNat == 0x202F || c.toNat == 0x205F || c.toNat == 0x3000

def trimSpace (text : List Char) : List Char :=
  (text.dropWhile isSpace).rdropWhile isSpace

def isDecimal (c : Char) : Bool :=
  48 ≤ c.toNat && c.toNat ≤ 57

def decimal (c : Char) : Nat :=
  c.toNat - 48

def commaOrPeriod (c : Char) : Bool :=
  c == '.' || c == ','

def isSign (c : Char) : Bool :=
  c == '+' || c == '-'

/-! ## Numbers -/

def decimals (digits : List Char) : Nat :=
  digits.foldl (fun value c => value * 10 + decimal c) 0

/-- A number with an optional sign.  Without any digit it is 0. -/
def atoi : List Char -> Option Int
  | '-' :: digits => if digits.all isDecimal then some (-(decimals digits : Int)) else none
  | '+' :: digits => if digits.all isDecimal then some (decimals digits) else none
  | digits => if digits.all isDecimal then some (decimals digits) else none

/-- One digit or two, and always two when the width is fixed. -/
def getnum (fixed : Bool) : List Char -> Option (Nat × List Char)
  | tens :: units :: rest =>
      if !isDecimal tens then none
      else if isDecimal units then some (decimal tens * 10 + decimal units, rest)
      else if fixed then none
      else some (decimal tens, units :: rest)
  | [units] => if isDecimal units && !fixed then some (decimal units, []) else none
  | [] => none

/-- The mark and the characters of a fraction, of which nine count. -/
def parseNanoseconds : List Char -> Option Nat
  | [] => none
  | mark :: rest =>
      if commaOrPeriod mark then
        (atoi (rest.take 9)).bind fun value =>
          if value < 0 then none else some (value.toNat * 10 ^ (9 - (rest.take 9).length))
      else none

/-! ## Parts of a layout -/

inductive Chunk where
  | longYear
  | zeroMonth
  | month
  | zeroDay
  | hour
  | zeroMinute
  | zeroSecond
  | fracSecond0 (digits : Nat)
  | fracSecond9 (digits : Nat)
  | iso8601ColonTZ
deriving DecidableEq, Repr

/-- The spelling of a part in the text of a layout. -/
def Chunk.text : Chunk -> String
  | .longYear => "2006"
  | .zeroMonth => "01"
  | .month => "Jan"
  | .zeroDay => "02"
  | .hour => "15"
  | .zeroMinute => "04"
  | .zeroSecond => "05"
  | .fracSecond0 digits => "." ++ String.ofList (List.replicate digits '0')
  | .fracSecond9 digits => "." ++ String.ofList (List.replicate digits '9')
  | .iso8601ColonTZ => "Z07:00"

def Chunk.isFraction : Chunk -> Bool
  | .fracSecond0 _ | .fracSecond9 _ => true
  | _ => false

/-- Each part with the literal text before it. -/
abbrev Layout := List (String × Chunk)

def Layout.text (layout : Layout) : String :=
  String.join (layout.map fun part => part.1 ++ part.2.text)

def shortMonthNames : List String :=
  ["Jan", "Feb", "Mar", "Apr", "May", "Jun", "Jul", "Aug", "Sep", "Oct", "Nov", "Dec"]

/-- The position of the name that the text begins with, in any case. -/
def lookupName (names : List String) (value : List Char) : Option (Nat × List Char) :=
  (names.findIdx? fun name =>
    (value.take name.length).map Char.toLower = name.toList.map Char.toLower).map fun index =>
      (index, value.drop 3)

/-- A fraction of any length, when there is one. -/
def optionalFraction (fields : Fields) (value : List Char) : Option (Fields × List Char) :=
  match value with
  | mark :: digit :: rest =>
      if commaOrPeriod mark && isDecimal digit then
        (parseNanoseconds (mark :: digit :: rest.takeWhile isDecimal)).map fun nanosecond =>
          ({ fields with nanosecond := nanosecond }, rest.dropWhile isDecimal)
      else some (fields, value)
  | _ => some (fields, value)

/-- The offset of a zone, for which 24 hours and 60 minutes are still allowed. -/
def readZone (fields : Fields) : List Char -> Option (Fields × List Char)
  | 'Z' :: rest => some ({ fields with zone := some 0 }, rest)
  | sign :: tens :: units :: ':' :: tenths :: ones :: rest =>
      (getnum true [tens, units]).bind fun hours =>
        (getnum true [tenths, ones]).bind fun minutes =>
          let offset : Int := ((hours.1 * 60 + minutes.1) * 60 : Nat)
          if 24 < hours.1 || 60 < minutes.1 then none
          else if sign == '+' then some ({ fields with zone := some offset }, rest)
          else if sign == '-' then some ({ fields with zone := some (-offset) }, rest)
          else none
  | _ => none

/-- Reads one part.  A fraction after the seconds is read with them, unless the
next part of the layout is a fraction. -/
def Chunk.read (chunk : Chunk) (next : Option Chunk) (fields : Fields) (value : List Char) :
    Option (Fields × List Char) :=
  match chunk with
  | .longYear =>
      match value with
      | a :: b :: c :: d :: rest =>
          if isDecimal a then
            (atoi [a, b, c, d]).map fun year => ({ fields with year := year.toNat }, rest)
          else none
      | _ => none
  | .zeroMonth =>
      (getnum true value).bind fun month =>
        if month.1 == 0 || 12 < month.1 then none else some ({ fields with month := month.1 }, month.2)
  | .month =>
      (lookupName shortMonthNames value).map fun month =>
        ({ fields with month := month.1 + 1 }, month.2)
  | .zeroDay => (getnum true value).map fun day => ({ fields with day := day.1 }, day.2)
  | .hour =>
      (getnum false value).bind fun hour =>
        if 24 ≤ hour.1 then none else some ({ fields with hour := hour.1 }, hour.2)
  | .zeroMinute =>
      (getnum true value).bind fun minute =>
        if 60 ≤ minute.1 then none else some ({ fields with minute := minute.1 }, minute.2)
  | .zeroSecond =>
      (getnum true value).bind fun second =>
        if 60 ≤ second.1 then none
        else if (next.map Chunk.isFraction).getD false then
          some ({ fields with second := second.1 }, second.2)
        else optionalFraction { fields with second := second.1 } second.2
  | .fracSecond0 digits =>
      if value.length < digits + 1 then none
      else (parseNanoseconds (value.take (digits + 1))).map fun nanosecond =>
        ({ fields with nanosecond := nanosecond }, value.drop (digits + 1))
  | .fracSecond9 _ => optionalFraction fields value
  | .iso8601ColonTZ => readZone fields value

/-- The literal text of a layout.  A run of blanks in it stands for any number
of blanks, at least one unless the value is at its end. -/
def skip (spaced : Bool) : List Char -> List Char -> Option (List Char)
  | [], value => some value
  | mark :: rest, value =>
      if mark == ' ' then
        if spaced then skip true rest value
        else
          match value with
          | [] => skip true rest []
          | c :: tail => if c == ' ' then skip true rest (tail.dropWhile (· == ' ')) else none
      else
        match value with
        | [] => none
        | c :: tail => if c == mark then skip false rest tail else none

/-- Reads the parts of the layout one after the other, to the end of the value. -/
def Layout.scan : Layout -> Fields -> List Char -> Option Fields
  | [], fields, value => if value.isEmpty then some fields else none
  | (before, chunk) :: rest, fields, value =>
      (skip false before.toList value).bind fun value =>
        (chunk.read (rest.head?.map Prod.snd) fields value).bind fun result =>
          Layout.scan rest result.1 result.2

/-- A text without a zone of its own is a time of the location. -/
def Layout.parseInLocation (layout : Layout) (value : List Char) (location : Location) :
    Option Instant :=
  (layout.scan {} value).bind fun fields => fields.finish location

/-- The location of UTC keeps the offset 0 for ever. -/
def utc : Location where
  lookup _ := { offset := 0, start := 0, stop := 0 }

def Layout.parse (layout : Layout) (value : List Char) : Option Instant :=
  layout.parseInLocation value utc

def rfc3339Nano : Layout :=
  [("", .longYear), ("-", .zeroMonth), ("-", .zeroDay), ("T", .hour), (":", .zeroMinute),
    (":", .zeroSecond), ("", .fracSecond9 9), ("", .iso8601ColonTZ)]

example : rfc3339Nano.text = "2006-01-02T15:04:05.999999999Z07:00" := by decide

/-! ## What the parts consume -/

/-- Every decimal mark is followed by a digit. -/
def marked : List Char -> Bool
  | [] => true
  | c :: rest => (!commaOrPeriod c || (rest.head?.map isDecimal).getD false) && marked rest

/-- Some decimal mark is followed by a sign. -/
def signedFraction : List Char -> Bool
  | mark :: sign :: rest => (commaOrPeriod mark && isSign sign) || signedFraction (sign :: rest)
  | _ => false

/-- The text does not end in white space. -/
def Ends (text : List Char) : Prop :=
  forall c, text.getLast? = some c -> isSpace c = false

theorem not_isSpace_of_isDecimal {c : Char} (digit : isDecimal c = true) : isSpace c = false := by
  simp only [isDecimal, Bool.and_eq_true, decide_eq_true_eq] at digit
  simp only [isSpace, Bool.or_eq_false_iff, Bool.and_eq_false_iff, decide_eq_false_iff_not, beq_eq_false_iff_ne]
  omega

theorem not_commaOrPeriod_of_isDecimal {c : Char} (digit : isDecimal c = true) :
    commaOrPeriod c = false := by
  rw [commaOrPeriod, Bool.or_eq_false_iff, beq_eq_false_iff_ne, beq_eq_false_iff_ne]
  constructor <;> rintro rfl <;> revert digit <;> decide

theorem not_isSign_of_isDecimal {c : Char} (digit : isDecimal c = true) : isSign c = false := by
  rw [isSign, Bool.or_eq_false_iff, beq_eq_false_iff_ne, beq_eq_false_iff_ne]
  constructor <;> rintro rfl <;> revert digit <;> decide

theorem marked_append {first second : List Char} (firstMarked : marked first = true)
    (secondMarked : marked second = true) : marked (first ++ second) = true := by
  induction first with
  | nil => exact secondMarked
  | cons c rest inductionHypothesis =>
      rw [marked, Bool.and_eq_true] at firstMarked
      rw [List.cons_append, marked, Bool.and_eq_true]
      refine ⟨?_, inductionHypothesis firstMarked.2⟩
      cases rest with
      | nil =>
          have unmarked : (!commaOrPeriod c) = true := by simpa using firstMarked.1
          rw [unmarked, Bool.true_or]
      | cons next tail => exact firstMarked.1

theorem marked_of_forall {text : List Char} (plain : ∀ c ∈ text, commaOrPeriod c = false) :
    marked text = true := by
  induction text with
  | nil => rfl
  | cons c rest inductionHypothesis =>
      rw [marked, plain c List.mem_cons_self, inductionHypothesis fun d member =>
        plain d (List.mem_cons_of_mem c member)]
      rfl

theorem signedFraction_of_marked {text : List Char} (fractions : marked text = true) :
    signedFraction text = false := by
  induction text with
  | nil => rfl
  | cons mark rest inductionHypothesis =>
      rw [marked, Bool.and_eq_true] at fractions
      cases rest with
      | nil => rfl
      | cons sign tail =>
          rw [signedFraction, inductionHypothesis fractions.2, Bool.or_false, Bool.and_eq_false_iff]
          rcases (Bool.or_eq_true _ _).mp fractions.1 with unmarked | digit
          · exact Or.inl (by simpa using unmarked)
          · exact Or.inr (not_isSign_of_isDecimal digit)

theorem signedFraction_append {first second : List Char}
    (unsigned : signedFraction (first ++ second) = false) : signedFraction second = false := by
  induction first with
  | nil => exact unsigned
  | cons mark rest inductionHypothesis =>
      apply inductionHypothesis
      rw [List.cons_append] at unsigned
      cases tail : rest ++ second with
      | nil => rfl
      | cons sign tail' =>
          rw [tail, signedFraction, Bool.or_eq_false_iff] at unsigned
          exact unsigned.2

theorem ends_append {first second : List Char} (secondEnds : Ends second)
    (firstEnds : second = [] -> Ends first) : Ends (first ++ second) := by
  intro c last
  cases second with
  | nil =>
      rw [List.append_nil] at last
      exact firstEnds rfl c last
  | cons head tail =>
      rw [List.getLast?_append_of_ne_nil _ (List.cons_ne_nil head tail)] at last
      exact secondEnds c last

theorem ends_of_decimals {text : List Char} (digits : ∀ c ∈ text, isDecimal c = true) : Ends text :=
  fun c last => not_isSpace_of_isDecimal (digits c (List.mem_of_getLast? last))

theorem ends_nil : Ends [] := by
  intro c last
  cases last

/-- The text is a first piece and the rest.  In the piece a decimal mark comes
before a digit, and the piece does not end in white space. -/
structure Consumes (value piece rest : List Char) : Prop where
  split : value = piece ++ rest
  fractions : marked piece = true
  ends : Ends piece

theorem Consumes.of_decimals {value piece rest : List Char} (split : value = piece ++ rest)
    (digits : ∀ c ∈ piece, isDecimal c = true) : Consumes value piece rest where
  split := split
  fractions := marked_of_forall fun c member => not_commaOrPeriod_of_isDecimal (digits c member)
  ends := ends_of_decimals digits

theorem Consumes.append {value piece middle next rest : List Char}
    (first : Consumes value piece middle) (second : Consumes middle next rest) :
    Consumes value (piece ++ next) rest where
  split := by rw [first.split, second.split, List.append_assoc]
  fractions := marked_append first.fractions second.fractions
  ends := ends_append second.ends fun _ => first.ends

theorem getnum_consumes {fixed : Bool} {value rest : List Char} {number : Nat}
    (read : getnum fixed value = some (number, rest)) :
    ∃ piece, Consumes value piece rest ∧ piece ≠ [] := by
  cases value with
  | nil => cases read
  | cons tens tail =>
      cases tail with
      | nil =>
          simp only [getnum] at read
          split at read
          · next digit =>
              cases read
              refine ⟨[tens], .of_decimals rfl ?_, List.cons_ne_nil _ _⟩
              simpa using ((Bool.and_eq_true _ _).mp digit).1
          · cases read
      | cons units tail =>
          simp only [getnum] at read
          split at read
          · cases read
          · next tensDigit =>
              have tensDigit : isDecimal tens = true := by simpa using tensDigit
              split at read
              · next unitsDigit =>
                  cases read
                  refine ⟨[tens, units], .of_decimals rfl ?_, List.cons_ne_nil _ _⟩
                  simpa using ⟨tensDigit, unitsDigit⟩
              · split at read
                · cases read
                · cases read
                  refine ⟨[tens], .of_decimals rfl ?_, List.cons_ne_nil _ _⟩
                  simpa using tensDigit

theorem optionalFraction_consumes {fields result : Fields} {value rest : List Char}
    (read : optionalFraction fields value = some (result, rest)) :
    ∃ piece, Consumes value piece rest := by
  have nothing {value : List Char} : Consumes value [] value := ⟨rfl, rfl, ends_nil⟩
  unfold optionalFraction at read
  split at read
  · next mark digit tail =>
      split at read
      · next present =>
          rcases (Bool.and_eq_true _ _).mp present with ⟨_, isDigit⟩
          rcases Option.map_eq_some_iff.mp read with ⟨nanosecond, _, same⟩
          cases same
          have digits : ∀ c ∈ digit :: tail.takeWhile isDecimal, isDecimal c = true := by
            intro c member
            rcases List.mem_cons.mp member with rfl | taken
            · exact isDigit
            · exact List.mem_takeWhile_imp taken
          refine ⟨mark :: digit :: tail.takeWhile isDecimal, ?_, ?_, ?_⟩
          · rw [List.cons_append, List.cons_append, List.takeWhile_append_dropWhile]
          · have fraction := marked_of_forall fun c member =>
              not_commaOrPeriod_of_isDecimal (digits c member)
            rw [marked, fraction, List.head?_cons, Option.map_some, isDigit]
            simp
          · exact @ends_append [mark] _ (ends_of_decimals digits) (by simp)
      · cases read
        exact ⟨[], nothing⟩
  · cases read
    exact ⟨[], nothing⟩

theorem getnum_fixed {value rest : List Char} {number : Nat}
    (read : getnum true value = some (number, rest)) :
    ∃ tens units, value = tens :: units :: rest ∧ isDecimal tens = true ∧ isDecimal units = true := by
  unfold getnum at read
  split at read
  · next tens units tail =>
      split at read
      · cases read
      · next tensDigit =>
          split at read
          · next unitsDigit =>
              cases read
              exact ⟨tens, units, rfl, by simpa using tensDigit, unitsDigit⟩
          · cases read
  · next units =>
      rw [Bool.not_true, Bool.and_false] at read
      cases read
  · cases read

theorem getnum_two {tens units : Char} {rest : List Char} {number : Nat}
    (read : getnum true [tens, units] = some (number, rest)) :
    isDecimal tens = true ∧ isDecimal units = true := by
  rcases getnum_fixed read with ⟨first, second, split, firstDigit, secondDigit⟩
  cases split
  exact ⟨firstDigit, secondDigit⟩

theorem readZone_consumes {fields result : Fields} {value rest : List Char}
    (read : readZone fields value = some (result, rest)) :
    ∃ piece, Consumes value piece rest ∧ piece ≠ [] := by
  unfold readZone at read
  split at read
  · cases read
    exact ⟨['Z'], ⟨rfl, by decide, by rintro c ⟨⟩; decide⟩, List.cons_ne_nil _ _⟩
  · next sign tens units tenths ones tail _ =>
      rcases Option.bind_eq_some_iff.mp read with ⟨⟨hours, _⟩, hoursRead, read⟩
      rcases Option.bind_eq_some_iff.mp read with ⟨⟨minutes, _⟩, minutesRead, read⟩
      rcases getnum_two hoursRead with ⟨tensDigit, unitsDigit⟩
      rcases getnum_two minutesRead with ⟨tenthsDigit, onesDigit⟩
      have signed : isSign sign = true ∧ tail = rest := by
        simp only at read
        split at read
        · cases read
        · split at read
          · next plus =>
              cases read
              exact ⟨by rw [isSign, plus, Bool.true_or], rfl⟩
          · split at read
            · next minus =>
                cases read
                exact ⟨by rw [isSign, minus, Bool.or_true], rfl⟩
            · cases read
      have unmarked : commaOrPeriod sign = false := by
        rcases (Bool.or_eq_true _ _).mp signed.1 with plus | minus
        · rw [eq_of_beq plus]
          rfl
        · rw [eq_of_beq minus]
          rfl
      refine ⟨[sign, tens, units, ':', tenths, ones], ⟨?_, ?_, ?_⟩, List.cons_ne_nil _ _⟩
      · rw [signed.2]
        rfl
      · apply marked_of_forall
        have colon : commaOrPeriod ':' = false := rfl
        simp [unmarked, colon, not_commaOrPeriod_of_isDecimal tensDigit,
          not_commaOrPeriod_of_isDecimal unitsDigit, not_commaOrPeriod_of_isDecimal tenthsDigit,
          not_commaOrPeriod_of_isDecimal onesDigit]
      · rintro c ⟨⟩
        exact not_isSpace_of_isDecimal onesDigit
  · cases read

theorem skip_consumes {spaced : Bool} {before value rest : List Char}
    (skipped : skip spaced before value = some rest) :
    ∃ piece, value = piece ++ rest ∧ ∀ c ∈ piece, c ∈ before := by
  induction before generalizing spaced value with
  | nil =>
      cases skipped
      exact ⟨[], rfl, by simp⟩
  | cons mark tail inductionHypothesis =>
      have step {spaced : Bool} {value : List Char} (skipped : skip spaced tail value = some rest) :
          ∃ piece, value = piece ++ rest ∧ ∀ c ∈ piece, c ∈ mark :: tail := by
        rcases inductionHypothesis skipped with ⟨piece, split, inside⟩
        exact ⟨piece, split, fun c member => List.mem_cons_of_mem mark (inside c member)⟩
      simp only [skip] at skipped
      split at skipped
      · next blank =>
          have blank : mark = ' ' := eq_of_beq blank
          split at skipped
          · exact step skipped
          · split at skipped
            · exact step skipped
            · next c text =>
                split at skipped
                · next isBlank =>
                    rcases step skipped with ⟨piece, split, inside⟩
                    refine ⟨c :: text.takeWhile (· == ' ') ++ piece, ?_, ?_⟩
                    · rw [List.cons_append, List.cons_append, List.append_assoc, ← split,
                        List.takeWhile_append_dropWhile]
                    · intro d member
                      rcases List.mem_append.mp member with blanks | later
                      · have isMark : d = mark := by
                          rcases List.mem_cons.mp blanks with rfl | taken
                          · exact (eq_of_beq isBlank).trans blank.symm
                          · have isBlank : (d == ' ') = true := List.mem_takeWhile_imp (p := (· == ' ')) taken
                            exact (eq_of_beq isBlank).trans blank.symm
                        rw [isMark]
                        exact List.mem_cons_self
                      · exact inside d later
                · cases skipped
      · split at skipped
        · cases skipped
        · next c text =>
            split at skipped
            · next same =>
                rcases step skipped with ⟨piece, split, inside⟩
                refine ⟨c :: piece, by rw [split, List.cons_append], ?_⟩
                intro d member
                rcases List.mem_cons.mp member with rfl | later
                · rw [eq_of_beq same]
                  exact List.mem_cons_self
                · exact inside d later
            · cases skipped

/-- The parts that read nothing but digits, a marked fraction or a zone. -/
def Chunk.numeric : Chunk -> Bool
  | .month | .fracSecond0 _ => false
  | _ => true

/-- A number that does not begin with a sign consists of digits. -/
theorem atoi_digits {c : Char} {rest : List Char} (notSign : isSign c = false) {number : Int}
    (read : atoi (c :: rest) = some number) : ∀ d ∈ c :: rest, isDecimal d = true := by
  unfold atoi at read
  split at read
  · next minus =>
      cases minus
      cases notSign
  · next plus =>
      cases plus
      cases notSign
  · split at read
    · next digits => exact List.all_eq_true.mp digits
    · cases read

theorem longYear_reads {next : Option Chunk} {fields result : Fields} {value rest : List Char}
    (read : Chunk.longYear.read next fields value = some (result, rest)) :
    ∃ a b c d, value = a :: b :: c :: d :: rest ∧ ∀ e ∈ [a, b, c, d], isDecimal e = true := by
  simp only [Chunk.read] at read
  split at read
  · next a b c d tail =>
      split at read
      · next digit =>
          rcases Option.map_eq_some_iff.mp read with ⟨year, number, same⟩
          cases same
          exact ⟨a, b, c, d, rfl, atoi_digits (not_isSign_of_isDecimal digit) number⟩
      · cases read
  · cases read

/-- A numeric part takes a piece off the value, which is empty only when the
part is a fraction. -/
theorem read_consumes {chunk : Chunk} (numeric : chunk.numeric = true) {next : Option Chunk}
    {fields result : Fields} {value rest : List Char}
    (read : chunk.read next fields value = some (result, rest)) :
    ∃ piece, Consumes value piece rest ∧ (chunk.isFraction = false -> piece ≠ []) := by
  have number {fixed : Bool} {use : Nat × List Char -> Option (Fields × List Char)}
      (read : (getnum fixed value).bind use = some (result, rest))
      (used : forall found, use found = some (result, rest) -> rest = found.2) :
      ∃ piece, Consumes value piece rest ∧ piece ≠ [] := by
    rcases Option.bind_eq_some_iff.mp read with ⟨found, taken, read⟩
    rcases getnum_consumes taken with ⟨piece, consumes, nonempty⟩
    rw [← used found read] at consumes
    exact ⟨piece, consumes, nonempty⟩
  cases chunk with
  | longYear =>
      rcases longYear_reads read with ⟨a, b, c, d, split, digits⟩
      exact ⟨[a, b, c, d], .of_decimals split digits, fun _ => List.cons_ne_nil _ _⟩
  | month => cases numeric
  | fracSecond0 digits => cases numeric
  | zeroMonth | hour | zeroMinute =>
      rcases number read (by intro found; split <;> intro same <;> cases same; rfl) with
        ⟨piece, consumes, nonempty⟩
      exact ⟨piece, consumes, fun _ => nonempty⟩
  | zeroDay =>
      rcases Option.map_eq_some_iff.mp read with ⟨found, taken, same⟩
      cases same
      rcases getnum_consumes taken with ⟨piece, consumes, nonempty⟩
      exact ⟨piece, consumes, fun _ => nonempty⟩
  | zeroSecond =>
      rcases Option.bind_eq_some_iff.mp read with ⟨found, taken, read⟩
      rcases getnum_consumes taken with ⟨piece, consumes, nonempty⟩
      split at read
      · cases read
      · split at read
        · cases read
          exact ⟨piece, consumes, fun _ => nonempty⟩
        · rcases optionalFraction_consumes read with ⟨fraction, following⟩
          exact ⟨piece ++ fraction, consumes.append following, fun _ => by simp [nonempty]⟩
  | fracSecond9 digits =>
      rcases optionalFraction_consumes read with ⟨piece, consumes⟩
      exact ⟨piece, consumes, fun notFraction => nomatch notFraction⟩
  | iso8601ColonTZ =>
      rcases readZone_consumes read with ⟨piece, consumes, nonempty⟩
      exact ⟨piece, consumes, fun _ => nonempty⟩

/-! ## What a layout accepts -/

/-- A numeric part whose literal text holds no decimal mark.  A fraction has no
literal text before it. -/
def tight (part : String × Chunk) : Bool :=
  part.2.numeric && part.1.toList.all (fun c => !commaOrPeriod c) &&
    (!part.2.isFraction || part.1.toList.isEmpty)

/-- A text that a layout of tight parts accepts has no signed fraction and does
not end in white space. -/
theorem scan_tight {layout : Layout} (tightParts : ∀ part ∈ layout, tight part = true)
    {fields result : Fields} {value : List Char} (scanned : layout.scan fields value = some result) :
    marked value = true ∧ Ends value := by
  induction layout generalizing fields value with
  | nil =>
      simp only [Layout.scan] at scanned
      split at scanned
      · next empty =>
          rw [List.isEmpty_iff.mp empty]
          exact ⟨rfl, ends_nil⟩
      · cases scanned
  | cons part rest inductionHypothesis =>
      rcases part with ⟨before, chunk⟩
      rcases Option.bind_eq_some_iff.mp scanned with ⟨middle, skipped, scanned⟩
      rcases Option.bind_eq_some_iff.mp scanned with ⟨⟨between, remainder⟩, read, scanned⟩
      have partTight := tightParts _ List.mem_cons_self
      simp only [tight, Bool.and_eq_true] at partTight
      rcases inductionHypothesis (fun part member => tightParts part (List.mem_cons_of_mem _ member))
        scanned with ⟨restMarked, restEnds⟩
      rcases skip_consumes skipped with ⟨literal, split, inside⟩
      rcases read_consumes partTight.1.1 read with ⟨piece, consumes, nonempty⟩
      have literalMarked : marked literal = true := by
        apply marked_of_forall
        intro c member
        have plain := List.all_eq_true.mp partTight.1.2 c (inside c member)
        simpa using plain
      have middleEnds : Ends middle := by
        rw [consumes.split]
        exact ends_append restEnds fun _ => consumes.ends
      refine ⟨?_, ?_⟩
      · rw [split, consumes.split]
        exact marked_append literalMarked (marked_append consumes.fractions restMarked)
      · rw [split]
        refine ends_append middleEnds fun emptyMiddle => ?_
        rcases (Bool.or_eq_true _ _).mp partTight.2 with notFraction | noLiteral
        · have emptyPiece : piece = [] := by
            rw [consumes.split] at emptyMiddle
            exact (List.append_eq_nil_iff.mp emptyMiddle).1
          exact absurd emptyPiece (nonempty (by simpa using notFraction))
        · have emptyLiteral : literal = [] := by
            apply List.eq_nil_iff_forall_not_mem.mpr
            intro c member
            have found := inside c member
            rw [List.isEmpty_iff.mp noLiteral] at found
            cases found
          rw [emptyLiteral]
          exact ends_nil

/-! ## Comparing layouts -/

/-- Two layouts that begin with the same numeric parts are compared at what
these parts leave of the value. -/
theorem scan_append_of {head first second : Layout} {result : Fields}
    (numeric : ∀ part ∈ head, part.2.numeric = true)
    (sameNext : first.head?.map Prod.snd = second.head?.map Prod.snd) {fields : Fields}
    {value : List Char}
    (compare : forall between before rest, value = before ++ rest ->
      Layout.scan first between rest = some result -> Layout.scan second between rest = some result)
    (scanned : Layout.scan (head ++ first) fields value = some result) :
    Layout.scan (head ++ second) fields value = some result := by
  induction head generalizing fields value with
  | nil => exact compare fields [] value rfl scanned
  | cons part rest inductionHypothesis =>
      rcases part with ⟨before, chunk⟩
      rcases Option.bind_eq_some_iff.mp scanned with ⟨middle, skipped, scanned⟩
      rcases Option.bind_eq_some_iff.mp scanned with ⟨⟨between, remainder⟩, read, scanned⟩
      have next : (rest ++ second).head?.map Prod.snd = (rest ++ first).head?.map Prod.snd := by
        cases rest with
        | nil => exact sameNext.symm
        | cons _ _ => rfl
      rcases skip_consumes skipped with ⟨literal, split, _⟩
      rcases read_consumes (numeric _ List.mem_cons_self) read with ⟨piece, consumes, _⟩
      rw [List.cons_append, Layout.scan, skipped, Option.bind_some, next]
      refine Option.bind_eq_some_iff.mpr ⟨(between, remainder), read, ?_⟩
      refine inductionHypothesis (fun part member => numeric part (List.mem_cons_of_mem _ member))
        ?_ scanned
      intro later earlier rest' rest'Split
      refine compare later (literal ++ (piece ++ earlier)) rest' ?_
      have remainderSplit : remainder = earlier ++ rest' := rest'Split
      rw [split, consumes.split, remainderSplit]
      simp only [List.append_assoc]

/-- Layouts that read alike still do so after the same first parts. -/
theorem scan_append_congr (head : Layout) {first second : Layout}
    (sameNext : first.head?.map Prod.snd = second.head?.map Prod.snd)
    (alike : Layout.scan first = Layout.scan second) :
    Layout.scan (head ++ first) = Layout.scan (head ++ second) := by
  induction head with
  | nil => exact alike
  | cons part rest inductionHypothesis =>
      have next : (rest ++ first).head?.map Prod.snd = (rest ++ second).head?.map Prod.snd := by
        cases rest with
        | nil => exact sameNext
        | cons _ _ => rfl
      funext fields value
      rw [List.cons_append, List.cons_append, Layout.scan, Layout.scan, next, inductionHypothesis]

/-- A fraction that the layout does not name is read as one that it names with
the digit 9. -/
theorem scan_zeroSecond (before : String) (digits : Nat) (fields : Fields) (value : List Char) :
    Layout.scan [(before, .zeroSecond)] fields value =
      Layout.scan [(before, .zeroSecond), ("", .fracSecond9 digits)] fields value := by
  simp only [Layout.scan]
  refine congrArg _ (funext fun rest => ?_)
  simp only [Chunk.read]
  cases taken : getnum true rest with
  | none => rfl
  | some found =>
      rw [Option.bind_some, Option.bind_some]
      by_cases range : 60 ≤ found.1
      · rw [if_pos range, if_pos range]
        rfl
      · rw [if_neg range, if_neg range]
        rfl

/-- An unsigned fraction of a fixed length is read as one of any length. -/
theorem optionalFraction_of_fixed {digits : Nat} (positive : 0 < digits) (short : digits ≤ 9)
    {next : Option Chunk} {fields result : Fields} {value : List Char}
    (unsigned : signedFraction value = false)
    (read : (Chunk.fracSecond0 digits).read next fields value = some (result, [])) :
    optionalFraction fields value = some (result, []) := by
  simp only [Chunk.read] at read
  split at read
  · cases read
  · next long =>
      rcases Option.map_eq_some_iff.mp read with ⟨nanosecond, parsed, same⟩
      rcases Prod.ext_iff.mp same with ⟨sameFields, all⟩
      have all : value.drop (digits + 1) = [] := all
      have length := List.drop_eq_nil_iff.mp all
      rw [List.take_of_length_le length] at parsed
      match value, unsigned, parsed, long, length with
      | [], _, parsed, _, _ => cases parsed
      | [mark], _, _, long, _ => simp at long; omega
      | mark :: digit :: tail, unsigned, parsed, _, length =>
          simp only [signedFraction, Bool.or_eq_false_iff, Bool.and_eq_false_iff] at unsigned
          have fraction := parsed
          simp only [parseNanoseconds] at parsed
          split at parsed
          · next isMark =>
              rcases Option.bind_eq_some_iff.mp parsed with ⟨number, taken, _⟩
              have nine : (digit :: tail).take 9 = digit :: tail := by
                apply List.take_of_length_le
                simp only [List.length_cons] at length ⊢
                omega
              rw [nine] at taken
              have notSign : isSign digit = false := by
                rcases unsigned.1 with notMark | notSign
                · rw [isMark] at notMark
                  cases notMark
                · exact notSign
              have decimals := atoi_digits notSign taken
              have tailDigits : ∀ d ∈ tail, isDecimal d = true := fun d member =>
                decimals d (List.mem_cons_of_mem digit member)
              simp only [optionalFraction, isMark, decimals digit List.mem_cons_self, Bool.and_self,
                if_true, List.takeWhile_eq_self_iff.mpr tailDigits, fraction, Option.map_some,
                List.dropWhile_eq_nil_iff.mpr tailDigits]
              exact congrArg some (Prod.ext sameFields rfl)
          · cases parsed

/-- A fixed unsigned fraction at the end of a layout may have any length. -/
theorem scan_fixed_fraction {before : String} {digits : Nat} (positive : 0 < digits) (short : digits ≤ 9)
    (width : Nat) {fields result : Fields} {value : List Char} (unsigned : signedFraction value = false)
    (scanned : Layout.scan [(before, .zeroSecond), ("", .fracSecond0 digits)] fields value = some result) :
    Layout.scan [(before, .zeroSecond), ("", .fracSecond9 width)] fields value = some result := by
  rcases Option.bind_eq_some_iff.mp scanned with ⟨middle, skipped, scanned⟩
  rcases Option.bind_eq_some_iff.mp scanned with ⟨⟨between, remainder⟩, read, scanned⟩
  rcases Option.bind_eq_some_iff.mp scanned with ⟨_, skippedEmpty, scanned⟩
  cases skippedEmpty
  rcases Option.bind_eq_some_iff.mp scanned with ⟨⟨final, rest⟩, fraction, finished⟩
  rcases skip_consumes skipped with ⟨literal, split, _⟩
  rcases read_consumes rfl read with ⟨piece, consumes, _⟩
  have rest_nil : rest = [] ∧ final = result := by
    simp only [Layout.scan] at finished
    split at finished
    · next empty =>
        cases finished
        exact ⟨List.isEmpty_iff.mp empty, rfl⟩
    · cases finished
  rw [rest_nil.1, rest_nil.2] at fraction
  have remainderUnsigned : signedFraction remainder = false := by
    rw [split, consumes.split] at unsigned
    exact signedFraction_append (signedFraction_append unsigned)
  have any := optionalFraction_of_fixed positive short remainderUnsigned fraction
  rw [Layout.scan, skipped, Option.bind_some]
  refine Option.bind_eq_some_iff.mpr ⟨(between, remainder), read, ?_⟩
  rw [Layout.scan]
  refine Option.bind_eq_some_iff.mpr ⟨remainder, rfl, ?_⟩
  exact Option.bind_eq_some_iff.mpr ⟨(result, []), any, rfl⟩

/-! ## The zone of a text -/

theorem optionalFraction_zone {fields : Fields} {value rest : List Char} {result : Fields}
    (read : optionalFraction fields value = some (result, rest)) : result.zone = fields.zone := by
  unfold optionalFraction at read
  split at read
  · split at read
    · rcases Option.map_eq_some_iff.mp read with ⟨_, _, same⟩
      cases same
      rfl
    · cases read
      rfl
  · cases read
    rfl

theorem readZone_zone {fields : Fields} {value rest : List Char} {result : Fields}
    (read : readZone fields value = some (result, rest)) : ∃ offset, result.zone = some offset := by
  unfold readZone at read
  split at read
  · cases read
    exact ⟨0, rfl⟩
  · rcases Option.bind_eq_some_iff.mp read with ⟨hours, _, read⟩
    rcases Option.bind_eq_some_iff.mp read with ⟨minutes, _, read⟩
    simp only at read
    split at read
    · cases read
    · split at read
      · cases read
        exact ⟨_, rfl⟩
      · split at read
        · cases read
          exact ⟨_, rfl⟩
        · cases read
  · cases read

/-- Only the offset part of a layout sets the zone. -/
theorem Chunk.read_zone {chunk : Chunk} {next : Option Chunk} {fields result : Fields} {value rest : List Char}
    (other : chunk ≠ .iso8601ColonTZ) (read : chunk.read next fields value = some (result, rest)) :
    result.zone = fields.zone := by
  cases chunk with
  | iso8601ColonTZ => exact absurd rfl other
  | longYear =>
      simp only [Chunk.read] at read
      split at read
      · split at read
        · rcases Option.map_eq_some_iff.mp read with ⟨_, _, same⟩
          cases same
          rfl
        · cases read
      · cases read
  | zeroMonth =>
      rcases Option.bind_eq_some_iff.mp read with ⟨month, _, read⟩
      split at read
      · cases read
      · cases read
        rfl
  | month | zeroDay =>
      rcases Option.map_eq_some_iff.mp read with ⟨_, _, same⟩
      cases same
      rfl
  | hour | zeroMinute =>
      rcases Option.bind_eq_some_iff.mp read with ⟨number, _, read⟩
      split at read
      · cases read
      · cases read
        rfl
  | zeroSecond =>
      rcases Option.bind_eq_some_iff.mp read with ⟨second, _, read⟩
      split at read
      · cases read
      · split at read
        · cases read
          rfl
        · exact (optionalFraction_zone read).trans rfl
  | fracSecond0 digits =>
      simp only [Chunk.read] at read
      split at read
      · cases read
      · rcases Option.map_eq_some_iff.mp read with ⟨_, _, same⟩
        cases same
        rfl
  | fracSecond9 digits => exact optionalFraction_zone read

theorem Layout.scan_zone {layout : Layout} (zoneless : ∀ part ∈ layout, part.2 ≠ .iso8601ColonTZ)
    {fields result : Fields} {value : List Char} (scanned : layout.scan fields value = some result) :
    result.zone = fields.zone := by
  induction layout generalizing fields value with
  | nil =>
      unfold Layout.scan at scanned
      split at scanned
      · cases scanned
        rfl
      · cases scanned
  | cons part rest inductionHypothesis =>
      unfold Layout.scan at scanned
      rcases Option.bind_eq_some_iff.mp scanned with ⟨skipped, _, scanned⟩
      rcases Option.bind_eq_some_iff.mp scanned with ⟨read, isRead, scanned⟩
      rw [inductionHypothesis (fun other member => zoneless other (List.mem_cons_of_mem part member)) scanned]
      exact Chunk.read_zone (zoneless part List.mem_cons_self) isRead

/-- A layout that ends in an offset reads one. -/
theorem Layout.scan_offset {layout : Layout} {before : String} (last : layout.getLast? = some (before, .iso8601ColonTZ))
    {fields result : Fields} {value : List Char} (scanned : layout.scan fields value = some result) :
    ∃ offset, result.zone = some offset := by
  induction layout generalizing fields value with
  | nil => cases last
  | cons part rest inductionHypothesis =>
      unfold Layout.scan at scanned
      rcases Option.bind_eq_some_iff.mp scanned with ⟨skipped, _, scannedRest⟩
      rcases Option.bind_eq_some_iff.mp scannedRest with ⟨read, isRead, finished⟩
      cases rest with
      | nil =>
          cases last
          clear scanned scannedRest
          simp only [Layout.scan] at finished
          split at finished
          · cases finished
            exact readZone_zone isRead
          · cases finished
      | cons next tail => exact inductionHypothesis last finished

/-! ## The fraction of a text -/

theorem decimals_lt {digits : List Char} (numeric : digits.all isDecimal = true) : decimals digits < 10 ^ digits.length := by
  have grows : forall (rest : List Char) (value : Nat), rest.all isDecimal = true ->
      rest.foldl (fun value c => value * 10 + decimal c) value < (value + 1) * 10 ^ rest.length := by
    intro rest
    induction rest with
    | nil =>
        intro value _
        rw [List.foldl_nil, List.length_nil, Nat.pow_zero, Nat.mul_one]
        exact Nat.lt_succ_self value
    | cons c rest inductionHypothesis =>
        intro value numeric
        rw [List.all_cons, Bool.and_eq_true] at numeric
        have digit := numeric.1
        simp only [isDecimal, Bool.and_eq_true, decide_eq_true_eq] at digit
        calc rest.foldl (fun value c => value * 10 + decimal c) (value * 10 + decimal c)
            < (value * 10 + decimal c + 1) * 10 ^ rest.length := inductionHypothesis _ numeric.2
          _ ≤ ((value + 1) * 10) * 10 ^ rest.length := Nat.mul_le_mul_right _ (by rw [decimal]; omega)
          _ = (value + 1) * 10 ^ (c :: rest).length := by rw [List.length_cons, Nat.pow_succ', Nat.mul_assoc]
  have bound := grows digits 0 numeric
  rwa [Nat.zero_add, Nat.one_mul] at bound

theorem atoi_lt {text : List Char} {value : Int} (read : atoi text = some value) :
    value.toNat < 10 ^ text.length := by
  unfold atoi at read
  split at read
  · split at read
    · cases read
      exact Nat.lt_of_le_of_lt (by omega) (Nat.pow_pos (by decide))
    · cases read
  · split at read
    · rename_i digits numeric
      cases read
      rw [Int.toNat_natCast, List.length_cons]
      exact (decimals_lt numeric).trans (Nat.pow_lt_pow_right (by decide) (Nat.lt_succ_self _))
    · cases read
  · split at read
    · rename_i numeric
      cases read
      exact decimals_lt numeric
    · cases read

theorem parseNanoseconds_lt {text : List Char} {nanoseconds : Nat} (read : parseNanoseconds text = some nanoseconds) :
    nanoseconds < 1000000000 := by
  cases text with
  | nil => cases read
  | cons mark rest =>
      rw [parseNanoseconds] at read
      split at read
      · rcases Option.bind_eq_some_iff.mp read with ⟨value, isValue, read⟩
        split at read
        · cases read
        · cases read
          have below := atoi_lt isValue
          have short : (rest.take 9).length ≤ 9 := List.length_take_le 9 rest
          calc value.toNat * 10 ^ (9 - (rest.take 9).length)
              < 10 ^ (rest.take 9).length * 10 ^ (9 - (rest.take 9).length) :=
                Nat.mul_lt_mul_of_pos_right below (Nat.pow_pos (by decide))
            _ = 1000000000 := by rw [← Nat.pow_add, Nat.add_sub_cancel' short]
      · cases read

theorem optionalFraction_lt {fields result : Fields} {value rest : List Char} (before : fields.nanosecond < 1000000000)
    (read : optionalFraction fields value = some (result, rest)) : result.nanosecond < 1000000000 := by
  unfold optionalFraction at read
  split at read
  · split at read
    · rcases Option.map_eq_some_iff.mp read with ⟨nanosecond, isNanosecond, same⟩
      cases same
      exact parseNanoseconds_lt isNanosecond
    · cases read
      exact before
  · cases read
    exact before

theorem readZone_nanosecond {fields result : Fields} {value rest : List Char}
    (read : readZone fields value = some (result, rest)) : result.nanosecond = fields.nanosecond := by
  unfold readZone at read
  split at read
  · cases read
    rfl
  · rcases Option.bind_eq_some_iff.mp read with ⟨hours, _, read⟩
    rcases Option.bind_eq_some_iff.mp read with ⟨minutes, _, read⟩
    simp only at read
    split at read
    · cases read
    · split at read
      · cases read
        rfl
      · split at read
        · cases read
          rfl
        · cases read
  · cases read

theorem Chunk.read_lt {chunk : Chunk} {next : Option Chunk} {fields result : Fields} {value rest : List Char}
    (before : fields.nanosecond < 1000000000) (read : chunk.read next fields value = some (result, rest)) :
    result.nanosecond < 1000000000 := by
  cases chunk with
  | iso8601ColonTZ =>
      rw [readZone_nanosecond read]
      exact before
  | longYear =>
      simp only [Chunk.read] at read
      split at read
      · split at read
        · rcases Option.map_eq_some_iff.mp read with ⟨_, _, same⟩
          cases same
          exact before
        · cases read
      · cases read
  | zeroMonth =>
      rcases Option.bind_eq_some_iff.mp read with ⟨month, _, read⟩
      split at read
      · cases read
      · cases read
        exact before
  | month | zeroDay =>
      rcases Option.map_eq_some_iff.mp read with ⟨_, _, same⟩
      cases same
      exact before
  | hour | zeroMinute =>
      rcases Option.bind_eq_some_iff.mp read with ⟨number, _, read⟩
      split at read
      · cases read
      · cases read
        exact before
  | zeroSecond =>
      rcases Option.bind_eq_some_iff.mp read with ⟨second, _, read⟩
      split at read
      · cases read
      · split at read
        · cases read
          exact before
        · exact @optionalFraction_lt { fields with second := second.1 } _ _ _ before read
  | fracSecond0 digits =>
      simp only [Chunk.read] at read
      split at read
      · cases read
      · rcases Option.map_eq_some_iff.mp read with ⟨nanosecond, isNanosecond, same⟩
        cases same
        exact parseNanoseconds_lt isNanosecond
  | fracSecond9 digits => exact optionalFraction_lt before read

/-- A fraction is less than a second. -/
theorem Layout.scan_lt {layout : Layout} {fields result : Fields} {value : List Char}
    (before : fields.nanosecond < 1000000000) (scanned : layout.scan fields value = some result) :
    result.nanosecond < 1000000000 := by
  induction layout generalizing fields value with
  | nil =>
      unfold Layout.scan at scanned
      split at scanned
      · cases scanned
        exact before
      · cases scanned
  | cons part rest inductionHypothesis =>
      unfold Layout.scan at scanned
      rcases Option.bind_eq_some_iff.mp scanned with ⟨skipped, _, scanned⟩
      rcases Option.bind_eq_some_iff.mp scanned with ⟨read, isRead, scanned⟩
      exact inductionHypothesis (Chunk.read_lt before isRead) scanned

end Foundation
