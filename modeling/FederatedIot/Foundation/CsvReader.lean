import FederatedIot.Foundation.TeeReader

namespace Foundation
namespace Reading

/-!
# Records of comma-separated values

The records of the package `encoding/csv` with its defaults and any number of
fields.  A quoted field may go over lines, two quotes stand for one, and a line
without a byte is skipped.  The lines come from a buffered reader.
-/

namespace Csv

def newline : UInt8 := 10

def carriageReturn : UInt8 := 13

def quote : UInt8 := 34

def comma : UInt8 := 44

abbrev Field := List UInt8

/-! ## Lines -/

/-- The last line may end without a line feed, and then it is no error that the
input ends. -/
def endLine (line : List UInt8) (error : Option ReadError) : List UInt8 × Option ReadError :=
  if line ≠ [] ∧ error = some .eof then
    (if line.getLast? = some carriageReturn then line.dropLast else line, none)
  else (line, error)

/-- A carriage return before the line feed is dropped. -/
def joinEnding (line : List UInt8) : List UInt8 :=
  if [carriageReturn, newline] <:+ line then line.dropLast.dropLast ++ [newline] else line

/-- `readLine` -/
def readLine (reader : Buffered UInt8) : (List UInt8 × Option ReadError) × Buffered UInt8 :=
  let raw := Buffered.readLongLine newline [] reader
  let ended := endLine raw.1.1 raw.1.2
  ((joinEnding ended.1, ended.2), raw.2)

/-! ## Fields -/

inductive FieldState where
  | start
  | plain
  | quoted
  | closed

/-- What a line makes of a record: it completes it, it leaves a quoted field open, or
a quote stands where none may stand. -/
inductive LineResult where
  | record (fields : List Field)
  | unfinished (fields : List Field) (current : Field)
  | malformed

/-- The fields of a line, after those before them and the begin of the current
one. -/
def parseFields (fields : List Field) (current : Field) : FieldState -> List UInt8 -> LineResult
  | .quoted, [] => .unfinished fields current
  | _, [] => .record (fields ++ [current])
  | .quoted, byte :: rest =>
      if byte = quote then parseFields fields current .closed rest
      else parseFields fields (current ++ [byte]) .quoted rest
  | .closed, byte :: rest =>
      if byte = quote then parseFields fields (current ++ [quote]) .quoted rest
      else if byte = comma then parseFields (fields ++ [current]) [] .start rest
      else if byte = newline ∧ rest = [] then .record (fields ++ [current])
      else .malformed
  | .start, byte :: rest =>
      if byte = quote then parseFields fields [] .quoted rest
      else if byte = comma then parseFields (fields ++ [current]) [] .start rest
      else if byte = newline ∧ rest = [] then .record (fields ++ [current])
      else parseFields fields (current ++ [byte]) .plain rest
  | .plain, byte :: rest =>
      if byte = quote then .malformed
      else if byte = comma then parseFields (fields ++ [current]) [] .start rest
      else if byte = newline ∧ rest = [] then .record (fields ++ [current])
      else parseFields fields (current ++ [byte]) .plain rest

/-- A line after what is open, or at the begin of a record, where a line without a byte
is skipped. -/
def parseLine (pending : Option (List Field × Field)) (line : List UInt8) : Option LineResult :=
  match pending with
  | some (fields, current) => some (parseFields fields current .quoted line)
  | none => if line = [] ∨ line = [newline] then none else some (parseFields [] [] .start line)

/-! ## Records -/

inductive Outcome where
  | record (fields : List Field)
  | ended
  | failed
  deriving DecidableEq

theorem readLine_le (reader : Buffered UInt8) : (readLine reader).2.left ≤ reader.left := by
  have fewer := @Buffered.readLongLine_left _ _ newline [] reader
  rw [List.length_nil, Nat.zero_add] at fewer
  exact Nat.le_trans (Nat.le_add_left _ _) fewer

theorem readLine_left {reader next : Buffered UInt8} {line : List UInt8}
    (read : readLine reader = ((line, none), next)) : next.left < reader.left := by
  have fewer := @Buffered.readLongLine_left _ _ newline [] reader
  have nonempty : (Buffered.readLongLine newline [] reader).1.1 ≠ [] := by
    intro empty
    have fine := congrArg (fun result => result.1.2) read
    simp only [readLine, endLine, empty, ne_eq, not_true_eq_false, false_and, if_false] at fine
    exact Buffered.readLongLine_ne_nil [] reader fine empty
  have positive := List.length_pos_iff.mpr nonempty
  have same : (Buffered.readLongLine newline [] reader).2 = next := congrArg Prod.snd read
  rw [same, List.length_nil] at fewer
  omega

/-- `Read`, after what is open of a record. -/
def readRecord (pending : Option (List Field × Field)) (reader : Buffered UInt8) : Outcome × Buffered UInt8 :=
  match _read : readLine reader with
  | ((_, some .eof), next) => (if pending.isSome then .failed else .ended, next)
  | ((_, some .failed), next) => (.failed, next)
  | ((line, none), next) =>
      match parseLine pending line with
      | none => readRecord none next
      | some (.record fields) => (.record fields, next)
      | some (.unfinished fields current) => readRecord (some (fields, current)) next
      | some .malformed => (.failed, next)
termination_by reader.left
decreasing_by
  · exact readLine_left _read
  · exact readLine_left _read

/-- Every record takes some bytes of the reader. -/
theorem readRecord_left (pending : Option (List Field × Field)) (reader : Buffered UInt8) {fields : List Field}
    (read : (readRecord pending reader).1 = .record fields) : (readRecord pending reader).2.left < reader.left := by
  fun_induction readRecord pending reader with
  | case1 pending reader line next _ =>
      exfalso
      revert read
      dsimp only
      split
      · exact fun wrong => Outcome.noConfusion wrong
      · exact fun wrong => Outcome.noConfusion wrong
  | case2 pending reader line next _ => cases read
  | case3 pending reader line next isLine _ inductionHypothesis =>
      exact Nat.lt_trans (inductionHypothesis read) (readLine_left isLine)
  | case4 pending reader line next isLine found _ => exact readLine_left isLine
  | case5 pending reader line next isLine found current _ inductionHypothesis =>
      exact Nat.lt_trans (inductionHypothesis read) (readLine_left isLine)
  | case6 pending reader line next isLine _ => cases read

theorem readRecord_le (pending : Option (List Field × Field)) (reader : Buffered UInt8) :
    (readRecord pending reader).2.left ≤ reader.left := by
  have line_le : forall {before after : Buffered UInt8} {read : List UInt8 × Option ReadError},
      readLine before = (read, after) -> after.left ≤ before.left := by
    intro before after read isLine
    have fewer := readLine_le before
    rwa [isLine] at fewer
  fun_induction readRecord pending reader with
  | case1 pending reader line next isLine => exact line_le isLine
  | case2 pending reader line next isLine => exact line_le isLine
  | case3 pending reader line next isLine _ inductionHypothesis =>
      exact Nat.le_trans inductionHypothesis (line_le isLine)
  | case4 pending reader line next isLine found _ => exact line_le isLine
  | case5 pending reader line next isLine found current _ inductionHypothesis =>
      exact Nat.le_trans inductionHypothesis (line_le isLine)
  | case6 pending reader line next isLine _ => exact line_le isLine

variable {original : List UInt8} {limit : Int}

theorem readLine_leaves {reader : Buffered UInt8} (sound : reader.Sound original limit) :
    (readLine reader).1.2 = some .failed ∨ Buffered.Leaves original limit (readLine reader).1.2 (readLine reader).2 := by
  have leaves := Buffered.readLongLine_leaves newline [] reader sound
  unfold readLine
  dsimp only
  unfold endLine
  split
  · next last =>
      rcases leaves with failed | leaves
      · rw [failed] at last
        cases last.2
      · exact Or.inr ⟨leaves.sound, fun wrong => by cases wrong⟩
  · exact leaves

/-- What a call of `Read` leaves behind that does not fail. -/
structure Leaves (original : List UInt8) (limit : Int) (outcome : Outcome) (reader : Buffered UInt8) : Prop where
  sound : reader.Sound original limit
  ended : outcome = .ended -> reader.tee.Spent ∧ reader.error = none

theorem readRecord_leaves (pending : Option (List Field × Field)) (reader : Buffered UInt8)
    (sound : reader.Sound original limit) :
    (readRecord pending reader).1 = .failed ∨
      Leaves original limit (readRecord pending reader).1 (readRecord pending reader).2 := by
  have lineLeaves : forall {before after : Buffered UInt8} {line : List UInt8} {ending : Option ReadError},
      before.Sound original limit -> readLine before = ((line, ending), after) -> ending ≠ some .failed ->
        Buffered.Leaves original limit ending after := by
    intro before after line ending held isLine fine
    have leaves := readLine_leaves held
    rw [isLine] at leaves
    exact leaves.resolve_left fine
  fun_induction readRecord pending reader with
  | case1 pending reader line next isLine =>
      have leaves := lineLeaves sound isLine (by decide)
      dsimp only
      split
      · exact Or.inl rfl
      · exact Or.inr ⟨leaves.sound, fun _ => leaves.ended rfl⟩
  | case2 pending reader line next _ => exact Or.inl rfl
  | case3 pending reader line next isLine _ inductionHypothesis =>
      exact inductionHypothesis (lineLeaves sound isLine (by decide)).sound
  | case4 pending reader line next isLine found _ =>
      exact Or.inr ⟨(lineLeaves sound isLine (by decide)).sound, fun wrong => by cases wrong⟩
  | case5 pending reader line next isLine found current _ inductionHypothesis =>
      exact inductionHypothesis (lineLeaves sound isLine (by decide)).sound
  | case6 pending reader line next isLine _ => exact Or.inl rfl

/-- A reader of a source that was not read yet. -/
theorem sound_start (source : Source UInt8) (limit : Int) (writes : List (Option Nat)) :
    (⟨{ source, remaining := limit, writes, written := [], digested := [] }, [], none⟩ : Buffered UInt8).Sound
      source.bytes limit :=
  ⟨fun _ => ⟨List.nil_append _, rfl, (Int.sub_zero limit).symm, Nat.zero_le _⟩, fun wrong => by cases wrong⟩

end Csv

end Reading
end Foundation
