import Mathlib.Data.List.Basic
import Mathlib.Data.List.TakeDrop

namespace Foundation
namespace Reading

universe u

variable {α : Type u}

/-!
# Reading through a limit, a tee and a buffer

A source is read in pieces.  A limit ends it early, a tee writes all that passes
to a file and into a digest, and a buffer hands out lines and asks for more only
when it has no whole line left.  Writing may stop in the middle of a piece.

Without a failure the file holds what was read of the source, the digest has the
bytes of the file, and the end of the input is met only where the source ends or
the limit is spent.
-/

/-! ## Sources -/

inductive ReadError where
  | eof
  | failed
  deriving DecidableEq

/-- The pieces that are ready for successive reads, and whether a failure follows. -/
structure Source (α : Type u) where
  chunks : List (List α)
  fails : Bool

namespace Source

/-- All that can be read. -/
def bytes (source : Source α) : List α :=
  source.chunks.flatten

/-- What one call of `Read` brings, at most as much as there is room for. -/
def read (room : Nat) (source : Source α) : (List α × Option ReadError) × Source α :=
  match source.chunks with
  | [] => (([], some (if source.fails then .failed else .eof)), source)
  | chunk :: rest =>
      if chunk.length ≤ room then ((chunk, none), { source with chunks := rest })
      else ((chunk.take room, none), { source with chunks := chunk.drop room :: rest })

variable {source : Source α} {room : Nat}

/-- What is read comes before what is left. -/
theorem read_bytes : (source.read room).1.1 ++ (source.read room).2.bytes = source.bytes := by
  unfold read
  cases chunks : source.chunks with
  | nil => rfl
  | cons chunk rest =>
      have whole : source.bytes = chunk ++ rest.flatten := by
        rw [bytes, chunks, List.flatten_cons]
      dsimp only
      split
      · exact whole.symm
      · rw [whole]
        show chunk.take room ++ (chunk.drop room ++ rest.flatten) = chunk ++ rest.flatten
        rw [← List.append_assoc, List.take_append_drop]

theorem read_length : (source.read room).1.1.length ≤ room := by
  unfold read
  cases source.chunks with
  | nil => exact Nat.zero_le room
  | cons chunk rest =>
      dsimp only
      split
      · next fits => exact fits
      · exact (List.length_take_le room chunk)

/-- The source has come to its end. -/
def Ended (source : Source α) : Prop :=
  source.chunks = [] ∧ source.fails = false

theorem read_eof (ending : (source.read room).1.2 = some .eof) : (source.read room).2.Ended := by
  unfold read at *
  cases chunks : source.chunks with
  | nil =>
      rw [chunks] at ending
      cases fails : source.fails with
      | true =>
          rw [fails] at ending
          cases ending
      | false => exact ⟨chunks, fails⟩
  | cons chunk rest =>
      rw [chunks] at ending
      dsimp only at ending
      split at ending
      · cases ending
      · cases ending

theorem Ended.bytes (ended : source.Ended) : source.bytes = [] := by
  rw [Source.bytes, ended.1, List.flatten_nil]

end Source

/-! ## The limit and the tee -/

/-- A source behind a limit, with what was written to the file and into the digest.
Each of the writes to come is done, or it fails after some bytes. -/
structure Tee (α : Type u) where
  source : Source α
  remaining : Int
  writes : List (Option Nat)
  written : List α
  digested : List α

namespace Tee

/-- `LimitedReader.Read` -/
def limited (room : Nat) (tee : Tee α) : (List α × Option ReadError) × Tee α :=
  if tee.remaining ≤ 0 then (([], some .eof), tee)
  else
    let got := tee.source.read (min room tee.remaining.toNat)
    (got.1, { tee with source := got.2, remaining := tee.remaining - got.1.1.length })

/-- The bytes are written to the file and into the digest. -/
def pass (tee : Tee α) (bytes : List α) : Tee α :=
  { tee with
    written := tee.written ++ bytes
    digested := tee.digested ++ bytes
    writes := tee.writes.tail }

/-- The file takes some of the bytes, and the digest is not reached. -/
def cut (tee : Tee α) (bytes : List α) (count : Nat) : Tee α :=
  { tee with written := tee.written ++ bytes.take count, writes := tee.writes.tail }

/-- `TeeReader.Read`, which writes to the file first. -/
def read (room : Nat) (tee : Tee α) : (List α × Option ReadError) × Tee α :=
  let got := tee.limited room
  if got.1.1 = [] then got
  else
    match tee.writes.head?.join with
    | some count => ((got.1.1.take count, some .failed), got.2.cut got.1.1 count)
    | none => (got.1, got.2.pass got.1.1)

/-- Nothing more can be read. -/
def Spent (tee : Tee α) : Prop :=
  tee.remaining ≤ 0 ∨ tee.source.Ended

/-- The file and the digest have what was read. -/
structure Faithful (original : List α) (limit : Int) (tee : Tee α) : Prop where
  split : tee.written ++ tee.source.bytes = original
  digested : tee.digested = tee.written
  remaining : tee.remaining = limit - tee.written.length
  within : tee.written.length ≤ limit.toNat

variable {tee : Tee α} {room : Nat} {original : List α} {limit : Int}

theorem limited_bytes :
    (tee.limited room).1.1 ++ (tee.limited room).2.source.bytes = tee.source.bytes ∧
      (tee.limited room).2.written = tee.written ∧ (tee.limited room).2.digested = tee.digested ∧
      (tee.limited room).2.remaining = tee.remaining - (tee.limited room).1.1.length ∧
      (tee.limited room).1.1.length ≤ room ∧ (tee.limited room).1.1.length ≤ tee.remaining.toNat := by
  unfold limited
  split
  · refine ⟨rfl, rfl, rfl, ?_, Nat.zero_le room, Nat.zero_le _⟩
    rw [List.length_nil, Int.natCast_zero, Int.sub_zero]
  · exact ⟨Source.read_bytes, rfl, rfl, rfl, Nat.le_trans Source.read_length (Nat.min_le_left _ _),
      Nat.le_trans Source.read_length (Nat.min_le_right _ _)⟩

theorem limited_eof (ending : (tee.limited room).1.2 = some .eof) : (tee.limited room).2.Spent := by
  unfold limited at *
  split at ending
  · next spent =>
      rw [if_pos spent]
      exact Or.inl spent
  · next open_ =>
      rw [if_neg open_]
      exact Or.inr (Source.read_eof ending)

/-- A read that does not fail keeps the file faithful. -/
theorem read_faithful (faithful : tee.Faithful original limit) (fine : (tee.read room).1.2 ≠ some .failed) :
    (tee.read room).2.Faithful original limit ∧ ((tee.read room).1.2 = some .eof -> (tee.read room).2.Spent) := by
  rcases @limited_bytes _ tee room with ⟨bytes, written, digested, remaining, _, inLimit⟩
  unfold read at *
  by_cases nothing : (tee.limited room).1.1 = []
  · simp only [if_pos nothing] at *
    rw [nothing] at bytes remaining
    refine ⟨⟨?_, ?_, ?_, ?_⟩, limited_eof⟩
    · rw [written, ← faithful.split, ← bytes, List.nil_append]
    · rw [written, digested, faithful.digested]
    · rw [written, remaining, faithful.remaining, List.length_nil, Int.natCast_zero, Int.sub_zero]
    · rw [written]
      exact faithful.within
  · simp only [if_neg nothing] at *
    cases outcome : tee.writes.head?.join with
    | some count =>
        rw [outcome] at fine
        exact absurd rfl fine
    | none =>
        dsimp only
        refine ⟨⟨?_, ?_, ?_, ?_⟩, fun ending => ?_⟩
        · show (tee.limited room).2.written ++ _ ++ (tee.limited room).2.source.bytes = original
          rw [written, List.append_assoc, bytes, faithful.split]
        · show (tee.limited room).2.digested ++ _ = (tee.limited room).2.written ++ _
          rw [written, digested, faithful.digested]
        · show (tee.limited room).2.remaining = limit - ((tee.limited room).2.written ++ _).length
          rw [remaining, written, faithful.remaining, List.length_append, Int.natCast_add, Int.sub_sub]
        · show ((tee.limited room).2.written ++ _).length ≤ limit.toNat
          have left := faithful.remaining
          have before := faithful.within
          rw [written, List.length_append]
          omega
        · exact limited_eof ending

/-- A piece is no longer than the room for it, and what is left of the source is
shorter by it. -/
theorem read_bounds (tee : Tee α) (room : Nat) :
    (tee.read room).1.1.length ≤ room ∧
      (tee.read room).1.1.length + (tee.read room).2.source.bytes.length ≤ tee.source.bytes.length := by
  rcases @limited_bytes _ tee room with ⟨bytes, _, _, _, short, _⟩
  have lengths := congrArg List.length bytes
  rw [List.length_append] at lengths
  unfold read
  dsimp only
  split
  · exact ⟨short, Nat.le_of_eq lengths⟩
  · split
    · next count _ =>
        have less := List.length_take_le count (tee.limited room).1.1
        have same : ((tee.limited room).2.cut (tee.limited room).1.1 count).source = (tee.limited room).2.source := rfl
        have fewer := List.length_take_le' count (tee.limited room).1.1
        rw [same]
        dsimp only
        omega
    · exact ⟨short, Nat.le_of_eq lengths⟩

end Tee

/-! ## The buffer -/

/-- A buffered reader, with the error that is still to be returned. -/
structure Buffered (α : Type u) where
  tee : Tee α
  buffer : List α
  error : Option ReadError

inductive SliceEnd where
  | full
  | error (reason : ReadError)
  deriving DecidableEq

namespace Buffered

/-- The length of the buffer, and the reads without a byte that are allowed. -/
def capacity : Nat := 4096

def maxConsecutiveEmptyReads : Nat := 100

/-- One read into the rest of the buffer. -/
def readOnce (reader : Buffered α) : Buffered α :=
  let got := reader.tee.read (capacity - reader.buffer.length)
  { tee := got.2, buffer := reader.buffer ++ got.1.1, error := got.1.2 }

/-- `fill`, with so many reads left. -/
def fillWithin : Nat -> Buffered α -> Buffered α
  | 0, reader => { reader with error := some .failed }
  | attempts + 1, reader =>
      if reader.readOnce.error = none ∧ reader.readOnce.buffer.length = reader.buffer.length then
        fillWithin attempts reader.readOnce
      else reader.readOnce

def fill (reader : Buffered α) : Buffered α :=
  fillWithin maxConsecutiveEmptyReads reader

/-- The bytes that have not been handed out. -/
def left (reader : Buffered α) : Nat :=
  reader.buffer.length + reader.tee.source.bytes.length

theorem readOnce_length (reader : Buffered α) : reader.buffer.length ≤ reader.readOnce.buffer.length := by
  unfold readOnce
  dsimp only
  rw [List.length_append]
  exact Nat.le_add_right _ _

theorem readOnce_left (reader : Buffered α) : reader.readOnce.left ≤ reader.left := by
  have bounds := (reader.tee.read_bounds (capacity - reader.buffer.length)).2
  unfold left readOnce
  dsimp only
  rw [List.length_append]
  omega

theorem fillWithin_left (attempts : Nat) (reader : Buffered α) : (fillWithin attempts reader).left ≤ reader.left := by
  induction attempts generalizing reader with
  | zero => exact Nat.le_refl _
  | succ attempts inductionHypothesis =>
      unfold fillWithin
      split
      · exact Nat.le_trans (inductionHypothesis _) (readOnce_left reader)
      · exact readOnce_left reader

/-- Filling brings a byte or an error. -/
theorem fillWithin_progress (attempts : Nat) (reader : Buffered α) :
    reader.buffer.length ≤ (fillWithin attempts reader).buffer.length ∧
      ((fillWithin attempts reader).error = none ->
        reader.buffer.length < (fillWithin attempts reader).buffer.length) := by
  induction attempts generalizing reader with
  | zero => exact ⟨Nat.le_refl _, fun fine => absurd fine (Option.some_ne_none _)⟩
  | succ attempts inductionHypothesis =>
      have once := readOnce_length reader
      unfold fillWithin
      split
      · next empty =>
          have later := inductionHypothesis reader.readOnce
          rw [empty.2] at later
          exact later
      · next brought =>
          refine ⟨once, fun fine => ?_⟩
          exact Nat.lt_of_le_of_ne once fun same => brought ⟨fine, same.symm⟩

/-! ### What the reader has passed on -/

/-- Without a pending failure the file is faithful, and a pending end is the end. -/
structure Sound (original : List α) (limit : Int) (reader : Buffered α) : Prop where
  faithful : reader.error ≠ some .failed -> reader.tee.Faithful original limit
  ended : reader.error = some .eof -> reader.tee.Spent

variable {original : List α} {limit : Int}

theorem readOnce_sound {reader : Buffered α} (sound : reader.Sound original limit) (fine : reader.error = none) :
    reader.readOnce.Sound original limit := by
  have before := sound.faithful (by rw [fine]; exact (Option.some_ne_none _).symm)
  refine ⟨fun other => (Tee.read_faithful before other).1, fun ending => ?_⟩
  have other : (reader.tee.read (capacity - reader.buffer.length)).1.2 ≠ some .failed := by
    intro failed
    cases ending.symm.trans failed
  exact (Tee.read_faithful before other).2 ending

theorem fillWithin_sound (attempts : Nat) {reader : Buffered α} (sound : reader.Sound original limit)
    (fine : reader.error = none) : (fillWithin attempts reader).Sound original limit := by
  induction attempts generalizing reader with
  | zero => exact ⟨fun other => absurd rfl other, fun wrong => by cases wrong⟩
  | succ attempts inductionHypothesis =>
      unfold fillWithin
      split
      · next empty => exact inductionHypothesis (readOnce_sound sound fine) empty.1
      · exact readOnce_sound sound fine

/-! ### Lines -/

variable [DecidableEq α]

/-- The first line of the buffer, with its end. -/
def takeLine (delimiter : α) (buffer : List α) : List α :=
  buffer.take (buffer.idxOf delimiter + 1)

/-- `ReadSlice` -/
def readSlice (delimiter : α) (reader : Buffered α) : (List α × Option SliceEnd) × Buffered α :=
  if delimiter ∈ reader.buffer then
    ((takeLine delimiter reader.buffer, none),
      { reader with buffer := reader.buffer.drop (reader.buffer.idxOf delimiter + 1) })
  else
    match _pending : reader.error with
    | some reason => ((reader.buffer, some (.error reason)), { reader with buffer := [], error := none })
    | none =>
        if capacity ≤ reader.buffer.length then ((reader.buffer, some .full), { reader with buffer := [] })
        else readSlice delimiter reader.fill
termination_by (if reader.error = none then 1 else 0) + (capacity - reader.buffer.length)
decreasing_by
  have progress := fillWithin_progress maxConsecutiveEmptyReads reader
  rw [fill, if_pos _pending]
  cases error : (fillWithin maxConsecutiveEmptyReads reader).error with
  | none =>
      have more := progress.2 error
      simp only [if_true]
      omega
  | some reason =>
      have _same := progress.1
      simp only [Option.some_ne_none, if_false]
      omega

/-- The rules of `readSlice`: what holds of a reader and its result is checked for a
line in the buffer, for an error, for a full buffer and across a fill. -/
theorem readSlice_rule {delimiter : α} {holds : Buffered α -> Prop}
    {returns : (List α × Option SliceEnd) × Buffered α -> Prop}
    (line : forall reader, holds reader -> delimiter ∈ reader.buffer ->
      returns ((takeLine delimiter reader.buffer, none),
        { reader with buffer := reader.buffer.drop (reader.buffer.idxOf delimiter + 1) }))
    (error : forall reader reason, holds reader -> reader.error = some reason ->
      returns ((reader.buffer, some (.error reason)), { reader with buffer := [], error := none }))
    (full : forall reader, holds reader -> capacity ≤ reader.buffer.length ->
      returns ((reader.buffer, some .full), { reader with buffer := [] }))
    (fill : forall reader, holds reader -> reader.error = none -> holds reader.fill)
    (reader : Buffered α) (start : holds reader) : returns (reader.readSlice delimiter) := by
  induction reader using readSlice.induct delimiter with
  | case1 reader present =>
      rw [readSlice, if_pos present]
      exact line reader start present
  | case2 reader absent reason pending =>
      rw [readSlice, if_neg absent]
      split
      · next other found =>
          rw [pending] at found
          cases found
          exact error reader reason start pending
      · next nothing =>
          rw [pending] at nothing
          cases nothing
  | case3 reader absent fine isFull =>
      rw [readSlice, if_neg absent]
      split
      · next other found =>
          rw [fine] at found
          cases found
      · rw [if_pos isFull]
        exact full reader start isFull
  | case4 reader absent fine room inductionHypothesis =>
      rw [readSlice, if_neg absent]
      split
      · next other found =>
          rw [fine] at found
          cases found
      · rw [if_neg room]
        exact inductionHypothesis (fill reader start fine)

variable {delimiter : α}

theorem takeLine_ne_nil {buffer : List α} (present : delimiter ∈ buffer) : takeLine delimiter buffer ≠ [] := by
  rw [takeLine, Ne, List.take_eq_nil_iff]
  rintro (impossible | empty)
  · exact Nat.succ_ne_zero _ impossible
  · rw [empty] at present
    cases present

theorem readSlice_left (reader : Buffered α) :
    (reader.readSlice delimiter).1.1.length + (reader.readSlice delimiter).2.left ≤ reader.left := by
  apply @readSlice_rule _ _ delimiter (fun other => other.left ≤ reader.left)
    (fun result => result.1.1.length + result.2.left ≤ reader.left) _ _ _ _ reader (Nat.le_refl _)
  · intro other fewer _
    have split := congrArg List.length (List.take_append_drop (other.buffer.idxOf delimiter + 1) other.buffer)
    rw [List.length_append] at split
    unfold left at *
    rw [takeLine]
    dsimp only
    omega
  · intro other reason fewer _
    unfold left at *
    dsimp only
    rw [List.length_nil]
    omega
  · intro other fewer _
    unfold left at *
    dsimp only
    rw [List.length_nil]
    omega
  · intro other fewer _
    exact Nat.le_trans (fillWithin_left _ other) fewer

/-- Only with an error may there be nothing before it. -/
theorem readSlice_ne_nil (reader : Buffered α) :
    (reader.readSlice delimiter).1.1 ≠ [] ∨ ∃ reason, (reader.readSlice delimiter).1.2 = some (.error reason) := by
  apply @readSlice_rule _ _ delimiter (fun _ => True)
    (fun result => result.1.1 ≠ [] ∨ ∃ reason, result.1.2 = some (.error reason)) _ _ _ _ reader trivial
  · intro other _ present
    exact Or.inl (takeLine_ne_nil present)
  · intro other reason _ _
    exact Or.inr ⟨reason, rfl⟩
  · intro other _ full
    left
    intro empty
    dsimp only at empty
    rw [empty, List.length_nil] at full
    exact absurd full (by decide)
  · exact fun _ _ _ => trivial

/-- A line that may be longer than the buffer, with the pieces before it. -/
def readLongLine (delimiter : α) (gathered : List α) (reader : Buffered α) :
    (List α × Option ReadError) × Buffered α :=
  match _read : reader.readSlice delimiter with
  | ((piece, some .full), next) => readLongLine delimiter (gathered ++ piece) next
  | ((piece, some (.error reason)), next) => ((gathered ++ piece, some reason), next)
  | ((piece, none), next) => ((gathered ++ piece, none), next)
termination_by reader.left
decreasing_by
  have fewer := @readSlice_left _ _ delimiter reader
  have some := @readSlice_ne_nil _ _ delimiter reader
  rw [_read] at fewer some
  rcases some with brought | ⟨_, wrong⟩
  · have positive := List.length_pos_iff.mpr brought
    dsimp only at fewer positive
    omega
  · cases wrong

/-- What a call leaves behind that does not fail: the reader is sound, and an end is the
end. -/
structure Leaves (original : List α) (limit : Int) (ending : Option ReadError) (reader : Buffered α) : Prop where
  sound : reader.Sound original limit
  ended : ending = some .eof -> reader.tee.Spent ∧ reader.error = none

/-- The error that a slice ends in. -/
def reasonOf : Option SliceEnd -> Option ReadError
  | some (.error reason) => some reason
  | _ => none

theorem readSlice_leaves (delimiter : α) (reader : Buffered α) (sound : reader.Sound original limit) :
    reasonOf (reader.readSlice delimiter).1.2 = some .failed ∨
      Leaves original limit (reasonOf (reader.readSlice delimiter).1.2) (reader.readSlice delimiter).2 := by
  apply @readSlice_rule _ _ delimiter (fun other => other.Sound original limit)
    (fun result => reasonOf result.1.2 = some .failed ∨ Leaves original limit (reasonOf result.1.2) result.2)
    _ _ _ _ reader sound
  · intro other held _
    right
    exact ⟨⟨held.faithful, held.ended⟩, fun wrong => by cases wrong⟩
  · intro other reason held pending
    cases reason with
    | failed => exact Or.inl rfl
    | eof =>
        right
        exact ⟨⟨fun _ => held.faithful (by rw [pending]; decide), fun wrong => by cases wrong⟩,
          fun _ => ⟨held.ended pending, rfl⟩⟩
  · intro other held _
    right
    exact ⟨⟨held.faithful, held.ended⟩, fun wrong => by cases wrong⟩
  · intro other held fine
    exact fillWithin_sound _ held fine

theorem readLongLine_leaves (delimiter : α) (gathered : List α) (reader : Buffered α)
    (sound : reader.Sound original limit) :
    (readLongLine delimiter gathered reader).1.2 = some .failed ∨
      Leaves original limit (readLongLine delimiter gathered reader).1.2
        (readLongLine delimiter gathered reader).2 := by
  fun_induction readLongLine delimiter gathered reader with
  | case1 gathered reader piece next read inductionHypothesis =>
      have slice := readSlice_leaves delimiter reader sound
      rw [read] at slice
      rcases slice with wrong | leaves
      · cases wrong
      · exact inductionHypothesis leaves.sound
  | case2 gathered reader piece reason next read =>
      have slice := readSlice_leaves delimiter reader sound
      rw [read] at slice
      exact slice
  | case3 gathered reader piece next read =>
      have slice := readSlice_leaves delimiter reader sound
      rw [read] at slice
      exact slice

/-- A line is no longer than what is left of the reader by it. -/
theorem readLongLine_left (gathered : List α) (reader : Buffered α) :
    (readLongLine delimiter gathered reader).1.1.length + (readLongLine delimiter gathered reader).2.left ≤
      gathered.length + reader.left := by
  fun_induction readLongLine delimiter gathered reader with
  | case1 gathered reader piece next read inductionHypothesis =>
      have slice := @readSlice_left _ _ delimiter reader
      rw [read] at slice
      rw [List.length_append] at inductionHypothesis
      dsimp only at slice
      omega
  | case2 gathered reader piece reason next read =>
      have slice := @readSlice_left _ _ delimiter reader
      rw [read] at slice
      dsimp only at slice ⊢
      rw [List.length_append]
      omega
  | case3 gathered reader piece next read =>
      have slice := @readSlice_left _ _ delimiter reader
      rw [read] at slice
      dsimp only at slice ⊢
      rw [List.length_append]
      omega

/-- A line without an error is not empty. -/
theorem readLongLine_ne_nil (gathered : List α) (reader : Buffered α)
    (fine : (readLongLine delimiter gathered reader).1.2 = none) :
    (readLongLine delimiter gathered reader).1.1 ≠ [] := by
  fun_induction readLongLine delimiter gathered reader with
  | case1 gathered reader piece next read inductionHypothesis => exact inductionHypothesis fine
  | case2 gathered reader piece reason next read => cases fine
  | case3 gathered reader piece next read =>
      have slice := @readSlice_ne_nil _ _ delimiter reader
      rw [read] at slice
      rcases slice with brought | ⟨_, wrong⟩
      · exact List.append_ne_nil_of_right_ne_nil gathered brought
      · cases wrong

end Buffered

end Reading
end Foundation
