import FederatedIot.Results.ResultPage
import Mathlib.Data.Finset.Card
import Mathlib.Data.List.Induction

namespace FederatedIot
namespace Results

open Foundation Foundation.NumberText Foundation.Outcome

/-!
# Sampled results

The chart of a run shows a sample of its results: every so many rows, the rows
with an alarm, and the last one.  The scan also adds up the widths of all bounds,
in the arithmetic of the numbers, whatever it keeps.
-/

namespace Sampling

variable {F : Type} [Zero F] [Add F] [Sub F]

/-- `jsonNumber` -/
def jsonNumber (toFloat : Rat -> F) : Option ResultScalar -> Option F
  | some (.integer value) => some (toFloat value)
  | some (.decimal value) => some (toFloat value)
  | _ => none

/-- `strings.EqualFold(fmt.Sprint(value), level)`, of a level in small letters; no
other value is printed as a level. -/
def equalFold (value : Option ResultScalar) (level : String) : Bool :=
  match value with
  | some (.text raw) => raw.map lower = level.toList
  | _ => false

/-- Whether the row has an alarm level. -/
def isAlarm (point : ResultPoint) : Bool :=
  let value := point.value.get? "OverallAlarmLevel"
  equalFold value "alarm" || equalFold value "warning" || equalFold value "notice"

/-- The levels of a row with an alarm, as a file has them. -/
def alarmLevels : List String := ["Notice", "Warning", "Alarm"]

theorem isAlarm_of_level {point : ResultPoint} {level : String} (known : level ∈ alarmLevels)
    (has : point.value.get? "OverallAlarmLevel" = some (.text level.toList)) : isAlarm point = true := by
  rw [isAlarm, has]
  simp only [alarmLevels, List.mem_cons, List.not_mem_nil, or_false] at known
  rcases known with notice | warning | alarm
  · subst notice
    rfl
  · subst warning
    rfl
  · subst alarm
    rfl

/-- The width of the bounds of a row that has both. -/
def bandwidth (toFloat : Rat -> F) (point : ResultPoint) : Option F :=
  match jsonNumber toFloat (point.value.get? "FusedLowerBound") with
  | some lower =>
      match jsonNumber toFloat (point.value.get? "FusedUpperBound") with
      | some upper => some (upper - lower)
      | none => none
  | none => none

/-- The variables of the loop. -/
structure State (F : Type) where
  points : List ResultPoint
  seen : List Int
  rowNumber : Nat
  bandwidthSum : F
  bandwidthCount : Nat
  last : Option ResultPoint

def start : State F :=
  { points := [], seen := [], rowNumber := 0, bandwidthSum := 0, bandwidthCount := 0, last := none }

/-- The stride of a file with so many rows. -/
def strideOf (count maximum : Nat) : Nat :=
  if maximum < count then (count + maximum - 1) / maximum else 1

/-- Whether a row is sampled by its number or for its alarm. -/
def sampled (stride rowNumber : Nat) (point : ResultPoint) : Bool :=
  rowNumber = 0 || rowNumber % stride = 0 || isAlarm point

/-- Whether the loop appends the row. -/
def appends (stride : Nat) (state : State F) (point : ResultPoint) : Bool :=
  sampled stride state.rowNumber point && !state.seen.contains point.index

/-- One turn of the loop. -/
def step (toFloat : Rat -> F) (stride : Nat) (state : State F) (point : ResultPoint) : State F where
  points := if appends stride state point then state.points ++ [point] else state.points
  seen := if appends stride state point then point.index :: state.seen else state.seen
  rowNumber := state.rowNumber + 1
  bandwidthSum := (bandwidth toFloat point).elim state.bandwidthSum (state.bandwidthSum + ·)
  bandwidthCount := (bandwidth toFloat point).elim state.bandwidthCount fun _ => state.bandwidthCount + 1
  last := some point

/-- The loop over the records. -/
def scan (loadLocation : Dataset.Zones) (columns : Columns) (agent : Int) (toFloat : Rat -> F) (stride : Nat) :
    State F -> List Record -> Except IntegrityError (State F)
  | state, [] => .ok state
  | state, record :: rest => do
      let point ← readPoint loadLocation columns agent record
      scan loadLocation columns agent toFloat stride (step toFloat stride state point) rest

/-- The points, with the last row if it is missing. -/
def finish (state : State F) : List ResultPoint :=
  match state.last with
  | some last => if 0 < state.rowNumber && !state.seen.contains last.index then state.points ++ [last] else state.points
  | none => state.points

/-- What is returned. -/
structure Sample (F : Type) where
  points : List ResultPoint
  count : Nat
  bandwidthSum : F
  bandwidthCount : Nat

def sampleOf (count : Nat) (state : State F) : Sample F :=
  { points := finish state, count, bandwidthSum := state.bandwidthSum, bandwidthCount := state.bandwidthCount }

/-- `readSampledResultCSV` -/
def readSampledResultCSV (loadLocation : Dataset.Zones) (toFloat : Rat -> F) (source : List Record) (count : Nat)
    (agent : Int) (maximum : Nat) : Except IntegrityError (Sample F) :=
  match source with
  | some header :: records => do
      let columns ← readColumns header
      let state ← scan loadLocation columns agent toFloat (strideOf count maximum) start records
      return sampleOf count state
  | _ => .error "The committed results artifact has no CSV header."

/-! ## The rows that are kept -/

/-- The rows that are sampled, by their numbers. -/
def keptRows (stride : Nat) (rows : List ResultPoint) : List ResultPoint :=
  (rows.zipIdx.filter fun entry => sampled stride entry.2 entry.1).map Prod.fst

/-- The widths of all rows with both bounds. -/
def bandwidths (toFloat : Rat -> F) (rows : List ResultPoint) : List F :=
  rows.filterMap (bandwidth toFloat)

/-- What the loop has in its variables after some rows. -/
structure Scanned (toFloat : Rat -> F) (stride : Nat) (rows : List ResultPoint) (state : State F) : Prop where
  points : state.points = keptRows stride rows
  seen : forall index, index ∈ state.seen ↔ ∃ point ∈ keptRows stride rows, point.index = index
  rowNumber : state.rowNumber = rows.length
  bandwidthSum : state.bandwidthSum = (bandwidths toFloat rows).foldl (· + ·) 0
  bandwidthCount : state.bandwidthCount = (bandwidths toFloat rows).length
  last : state.last = rows.getLast?

theorem keptRows_concat (stride : Nat) (rows : List ResultPoint) (row : ResultPoint) :
    keptRows stride (rows ++ [row]) =
      if sampled stride rows.length row then keptRows stride rows ++ [row] else keptRows stride rows := by
  rw [keptRows, List.zipIdx_append, List.filter_append, List.map_append, List.zipIdx_singleton, Nat.zero_add,
    List.filter_singleton]
  dsimp only
  cases sampled stride rows.length row with
  | true => rfl
  | false => exact List.append_nil _

theorem keptRows_sublist (stride : Nat) (rows : List ResultPoint) : (keptRows stride rows).Sublist rows := by
  have kept : ((rows.zipIdx.filter fun entry => sampled stride entry.2 entry.1).map Prod.fst).Sublist
      (rows.zipIdx.map Prod.fst) := List.filter_sublist.map Prod.fst
  rwa [List.zipIdx_map_fst] at kept

theorem mem_keptRows {stride : Nat} {rows : List ResultPoint} {index : Nat} {row : ResultPoint}
    (present : rows[index]? = some row) (keeps : sampled stride index row = true) : row ∈ keptRows stride rows :=
  List.mem_map.mpr ⟨(row, index), List.mem_filter.mpr ⟨List.mk_mem_zipIdx_iff_getElem?.mpr present, keeps⟩, rfl⟩

/-- The rows of a file have indices that increase. -/
def Increasing (rows : List ResultPoint) : Prop :=
  rows.Pairwise fun first second => first.index < second.index

theorem Increasing.inj {rows : List ResultPoint} (increasing : Increasing rows) {first second : ResultPoint}
    (firstMember : first ∈ rows) (secondMember : second ∈ rows) (same : first.index = second.index) :
    first = second := by
  rcases List.mem_iff_getElem.mp firstMember with ⟨i, iInside, rfl⟩
  rcases List.mem_iff_getElem.mp secondMember with ⟨j, jInside, rfl⟩
  have ordered := List.pairwise_iff_getElem.mp increasing
  rcases Nat.lt_trichotomy i j with less | equal | greater
  · have := ordered i j iInside jInside less
    omega
  · subst equal
    rfl
  · have := ordered j i jInside iInside greater
    omega

/-- The index of the next row has not been seen. -/
theorem Increasing.fresh {rows : List ResultPoint} {row : ResultPoint} (increasing : Increasing (rows ++ [row]))
    {point : ResultPoint} (member : point ∈ rows) : point.index < row.index :=
  (List.pairwise_append.mp increasing).2.2 point member row (List.mem_singleton.mpr rfl)

section Loop

variable {toFloat : Rat -> F} {stride : Nat}

theorem scanned_start : Scanned toFloat stride [] (start : State F) :=
  ⟨rfl, fun _ => ⟨fun member => absurd member List.not_mem_nil, fun ⟨_, member, _⟩ => absurd member List.not_mem_nil⟩,
    rfl, rfl, rfl, rfl⟩

/-- One more row. -/
theorem Scanned.step {rows : List ResultPoint} {state : State F} (scanned : Scanned toFloat stride rows state)
    {row : ResultPoint} (increasing : Increasing (rows ++ [row])) :
    Scanned toFloat stride (rows ++ [row]) (step toFloat stride state row) := by
  have unseen : state.seen.contains row.index = false := by
    rw [List.contains_eq_mem, decide_eq_false_iff_not]
    intro member
    rcases (scanned.seen row.index).mp member with ⟨point, kept, same⟩
    have before := increasing.fresh ((keptRows_sublist stride rows).subset kept)
    omega
  have appended : appends stride state row = sampled stride rows.length row := by
    rw [appends, unseen, scanned.rowNumber, Bool.not_false, Bool.and_true]
  have widths : bandwidths toFloat (rows ++ [row]) =
      bandwidths toFloat rows ++ (bandwidth toFloat row).toList := by
    rw [bandwidths, List.filterMap_append]
    cases width : bandwidth toFloat row with
    | none => simp [bandwidths, width]
    | some value => simp [bandwidths, width]
  refine ⟨?_, ?_, ?_, ?_, ?_, ?_⟩
  · rw [keptRows_concat, Sampling.step, appended, scanned.points]
  · intro index
    rw [keptRows_concat, Sampling.step, appended]
    cases sampled stride rows.length row with
    | false => exact scanned.seen index
    | true =>
        simp only [if_true, List.mem_cons, List.mem_append, List.not_mem_nil, or_false, scanned.seen index]
        constructor
        · rintro (same | ⟨point, kept, same⟩)
          · exact ⟨row, Or.inr rfl, same.symm⟩
          · exact ⟨point, Or.inl kept, same⟩
        · rintro ⟨point, kept | isRow, same⟩
          · exact Or.inr ⟨point, kept, same⟩
          · exact Or.inl (by rw [← same, isRow])
  · rw [Sampling.step, scanned.rowNumber, List.length_append, List.length_singleton]
  · rw [Sampling.step, widths, List.foldl_append, scanned.bandwidthSum]
    cases bandwidth toFloat row with
    | none => rfl
    | some value => rfl
  · rw [Sampling.step, widths, List.length_append, scanned.bandwidthCount]
    cases bandwidth toFloat row with
    | none => rfl
    | some value => rfl
  · rw [Sampling.step, List.getLast?_concat]

/-- All rows of a file, from some of them on. -/
theorem foldl_step {rows rest : List ResultPoint} (increasing : Increasing (rows ++ rest)) {state : State F}
    (scanned : Scanned toFloat stride rows state) :
    Scanned toFloat stride (rows ++ rest) (rest.foldl (Sampling.step toFloat stride) state) := by
  induction rest generalizing rows state with
  | nil => rwa [List.append_nil]
  | cons row rest inductionHypothesis =>
      have split : rows ++ row :: rest = (rows ++ [row]) ++ rest := by
        rw [List.append_assoc]
        rfl
      rw [split] at increasing ⊢
      exact inductionHypothesis increasing (scanned.step (List.pairwise_append.mp increasing).1)

omit [Zero F] in
/-- The loop over records that can be read. -/
theorem scan_ok {loadLocation : Dataset.Zones} {columns : Columns} {agent : Int} {records : List Record}
    {rows : List ResultPoint} (read : records.mapM (readPoint loadLocation columns agent) = .ok rows) (state : State F) :
    scan loadLocation columns agent toFloat stride state records =
      .ok (rows.foldl (Sampling.step toFloat stride) state) := by
  have pairs := mapM_ok_iff.mp read
  clear read
  induction pairs generalizing state with
  | nil => rfl
  | cons converted _ inductionHypothesis =>
      rw [scan, converted, ok_bind, inductionHypothesis, List.foldl_cons]

end Loop

/-! ## How many rows are kept -/

/-- Below a bound there are no more multiples of a stride than fit. -/
theorem multiples_le {bound stride limit : Nat} (fits : bound ≤ stride * limit) :
    ((List.range bound).filter fun number => decide (number % stride = 0)).length ≤ limit := by
  have distinct : ((List.range bound).filter fun number => decide (number % stride = 0)).Nodup :=
    List.nodup_range.filter _
  rw [← List.toFinset_card_of_nodup distinct]
  calc _ ≤ (Finset.range limit).card := by
        apply Finset.card_le_card_of_injOn (· / stride)
        · intro number member
          have below := List.mem_range.mp (List.mem_filter.mp (List.mem_toFinset.mp member)).1
          exact Finset.mem_coe.mpr (Finset.mem_range.mpr (Nat.div_lt_of_lt_mul (below.trans_le fits)))
        · intro first firstMember second secondMember same
          have firstZero := of_decide_eq_true (List.mem_filter.mp (List.mem_toFinset.mp firstMember)).2
          have secondZero := of_decide_eq_true (List.mem_filter.mp (List.mem_toFinset.mp secondMember)).2
          rw [← Nat.div_add_mod first stride, ← Nat.div_add_mod second stride, firstZero, secondZero]
          exact congrArg (fun quotient => stride * quotient + 0) same
    _ = limit := Finset.card_range limit

theorem strideOf_fits {count maximum : Nat} (positive : 0 < maximum) : count ≤ strideOf count maximum * maximum := by
  unfold strideOf
  split
  · have ceiling := Nat.lt_div_mul_add (a := count + maximum - 1) positive
    omega
  · omega

/-- A row is sampled for its number or for its alarm. -/
theorem sampled_eq (stride rowNumber : Nat) (point : ResultPoint) :
    sampled stride rowNumber point = (decide (rowNumber % stride = 0) || isAlarm point) := by
  rw [sampled]
  by_cases first : rowNumber = 0
  · simp [first]
  · rw [decide_eq_false first, Bool.false_or]

theorem countP_or_le {α : Type} (first second : α -> Bool) (values : List α) :
    (values.countP fun value => first value || second value) ≤ values.countP first + values.countP second := by
  induction values with
  | nil => exact Nat.le_refl 0
  | cons value rest inductionHypothesis =>
      rw [List.countP_cons, List.countP_cons, List.countP_cons]
      cases first value with
      | false =>
          cases second value with
          | false => simpa using inductionHypothesis
          | true =>
              simp only [Bool.false_or, if_true, Bool.false_eq_true, if_false]
              omega
      | true =>
          simp only [Bool.true_or, if_true]
          omega

/-- At most so many rows are sampled for their number, and the others have an
alarm. -/
theorem keptRows_length {rows : List ResultPoint} {stride limit : Nat} (fits : rows.length ≤ stride * limit) :
    (keptRows stride rows).length ≤ limit + rows.countP isAlarm := by
  have numbers : (rows.zipIdx.countP fun entry => decide (entry.2 % stride = 0)) ≤ limit := by
    have range := multiples_le fits
    rw [← List.countP_eq_length_filter, List.range_eq_range', ← List.zipIdx_map_snd 0 rows, List.countP_map] at range
    exact range
  have alarms : (rows.zipIdx.countP fun entry => isAlarm entry.1) = rows.countP isAlarm := by
    conv_rhs => rw [← List.zipIdx_map_fst 0 rows, List.countP_map]
    rfl
  calc (keptRows stride rows).length
      = rows.zipIdx.countP fun entry => decide (entry.2 % stride = 0) || isAlarm entry.1 := by
        rw [keptRows, List.length_map, ← List.countP_eq_length_filter]
        simp only [sampled_eq]
    _ ≤ _ := countP_or_le _ _ _
    _ ≤ limit + rows.countP isAlarm := by
        rw [alarms]
        exact Nat.add_le_add_right numbers _

/-- With a stride of one every row is sampled. -/
theorem keptRows_one (rows : List ResultPoint) : keptRows 1 rows = rows := by
  rw [keptRows, List.filter_eq_self.mpr, List.zipIdx_map_fst]
  intro entry _
  rw [sampled_eq, Nat.mod_one]
  rfl

/-! ## The last row -/

/-- The last row is appended when it is not sampled. -/
theorem finish_of {toFloat : Rat -> F} {stride : Nat} {rows : List ResultPoint} {state : State F}
    (scanned : Scanned toFloat stride rows state) (increasing : Increasing rows) :
    (finish state = keptRows stride rows ∧ forall last, rows.getLast? = some last -> last ∈ keptRows stride rows) ∨
      exists before last, rows = before ++ [last] ∧ keptRows stride rows = keptRows stride before ∧
        finish state = keptRows stride before ++ [last] := by
  rcases rows.eq_nil_or_concat with empty | ⟨before, last, split⟩
  · subst empty
    left
    rw [finish, scanned.last, scanned.points]
    exact ⟨rfl, fun last present => nomatch present⟩
  · rw [List.concat_eq_append] at split
    subst split
    have present := scanned.last
    rw [List.getLast?_concat] at present
    have more : 0 < state.rowNumber := by
      rw [scanned.rowNumber, List.length_append, List.length_singleton]
      exact Nat.succ_pos _
    have ending : finish state = if state.seen.contains last.index then state.points else state.points ++ [last] := by
      rw [finish, present]
      dsimp only
      rw [decide_eq_true more, Bool.true_and]
      cases state.seen.contains last.index with
      | true => rfl
      | false => rfl
    rw [ending, scanned.points]
    by_cases seen : state.seen.contains last.index = true
    · left
      rw [if_pos seen]
      refine ⟨rfl, fun other isLast => ?_⟩
      rw [List.getLast?_concat, Option.some.injEq] at isLast
      subst isLast
      rw [List.contains_iff_mem] at seen
      rcases (scanned.seen last.index).mp seen with ⟨point, kept, same⟩
      have isRow := increasing.inj ((keptRows_sublist stride _).subset kept)
        (List.mem_append_right before (List.mem_singleton.mpr rfl)) same
      rw [isRow] at kept
      exact kept
    · right
      rw [if_neg seen]
      refine ⟨before, last, rfl, ?_⟩
      have unkept : keptRows stride (before ++ [last]) = keptRows stride before := by
        rw [keptRows_concat]
        apply if_neg
        intro keeps
        apply seen
        rw [List.contains_iff_mem, scanned.seen, keptRows_concat, if_pos keeps]
        exact ⟨last, List.mem_append_right _ (List.mem_singleton.mpr rfl), rfl⟩
      exact ⟨unkept, by rw [unkept]⟩

/-- What the points of a sample are. -/
structure Keeps (maximum : Nat) (rows points : List ResultPoint) : Prop where
  ordered : points.Sublist rows
  distinct : points.Nodup
  first : forall row, rows.head? = some row -> row ∈ points
  last : forall row, rows.getLast? = some row -> row ∈ points
  alarms : forall row, row ∈ rows -> isAlarm row = true -> row ∈ points
  levels : forall row, row ∈ rows -> forall level, level ∈ alarmLevels ->
    row.value.get? "OverallAlarmLevel" = some (.text level.toList) -> row ∈ points
  short : points.length ≤ maximum + rows.countP isAlarm + 1
  whole : rows.length ≤ maximum -> points = rows

theorem finish_keeps {toFloat : Rat -> F} {rows : List ResultPoint} {maximum : Nat} {state : State F}
    (increasing : Increasing rows) (positive : 0 < maximum)
    (scanned : Scanned toFloat (strideOf rows.length maximum) rows state) : Keeps maximum rows (finish state) := by
  have fits : (keptRows (strideOf rows.length maximum) rows).length ≤ maximum + rows.countP isAlarm :=
    keptRows_length (strideOf_fits positive)
  have cases := finish_of scanned increasing
  have ordered : (finish state).Sublist rows := by
    rcases cases with ⟨sampledOnly, _⟩ | ⟨before, last, split, _, appended⟩
    · rw [sampledOnly]
      exact keptRows_sublist _ _
    · rw [appended, split]
      exact (keptRows_sublist _ before).append_right [last]
  have contains : forall row, row ∈ keptRows (strideOf rows.length maximum) rows -> row ∈ finish state := by
    intro row kept
    rcases cases with ⟨sampledOnly, _⟩ | ⟨before, last, _, same, appended⟩
    · rwa [sampledOnly]
    · rw [appended]
      exact List.mem_append_left [last] (same ▸ kept)
  have alarms : forall row, row ∈ rows -> isAlarm row = true -> row ∈ finish state := by
    intro row member alarm
    rcases List.mem_iff_getElem?.mp member with ⟨number, present⟩
    apply contains row
    apply mem_keptRows present
    rw [sampled_eq, alarm, Bool.or_true]
  refine ⟨ordered, ?_, ?_, ?_, alarms, ?_, ?_, ?_⟩
  · apply ordered.nodup
    exact increasing.imp fun less same => absurd (congrArg ResultPoint.index same) (Int.ne_of_lt less)
  · intro row isFirst
    rw [List.head?_eq_getElem?] at isFirst
    exact contains row (mem_keptRows isFirst rfl)
  · intro row isLast
    rcases cases with ⟨_, kept⟩ | ⟨before, last, split, _, appended⟩
    · exact contains row (kept row isLast)
    · rw [split, List.getLast?_concat, Option.some.injEq] at isLast
      rw [appended, ← isLast]
      exact List.mem_append_right _ (List.mem_singleton.mpr rfl)
  · intro row member level known has
    exact alarms row member (isAlarm_of_level known has)
  · rcases cases with ⟨sampledOnly, _⟩ | ⟨before, last, _, same, appended⟩
    · rw [sampledOnly]
      exact Nat.le_succ_of_le fits
    · rw [appended, ← same, List.length_append, List.length_singleton]
      exact Nat.succ_le_succ fits
  · intro small
    have all : keptRows (strideOf rows.length maximum) rows = rows := by
      rw [strideOf, if_neg (Nat.not_lt.mpr small)]
      exact keptRows_one rows
    apply ordered.eq_of_length_le
    rcases cases with ⟨sampledOnly, _⟩ | ⟨before, last, _, same, appended⟩
    · rw [sampledOnly, all]
    · rw [appended, ← same, all, List.length_append]
      exact Nat.le_add_right _ _

/-! ## The sampled file -/

/-- A sample of a file with increasing indices keeps the first row, the last row and
the rows with an alarm, in the order of the file, and is not much longer than the
maximum; the widths are added up over all rows. -/
theorem sampled_results_keep (loadLocation : Dataset.Zones) (toFloat : Rat -> F) (columns : Columns)
    {header : List Cell} {records : List Record} {agent : Int} {rows : List ResultPoint} {maximum : Nat}
    (readable : readColumns header = .ok columns)
    (read : records.mapM (readPoint loadLocation columns agent) = .ok rows) (increasing : Increasing rows)
    (positive : 1 ≤ maximum) :
    exists sample,
      readSampledResultCSV loadLocation toFloat (some header :: records) rows.length agent maximum = .ok sample ∧
      Keeps maximum rows sample.points ∧ sample.count = rows.length ∧
      sample.bandwidthSum = (bandwidths toFloat rows).foldl (· + ·) 0 ∧
      sample.bandwidthCount = (bandwidths toFloat rows).length := by
  have scanned : Scanned toFloat (strideOf rows.length maximum) rows
      (rows.foldl (step toFloat (strideOf rows.length maximum)) start) :=
    @foldl_step F _ _ _ toFloat _ [] rows increasing _ scanned_start
  have accepted : readSampledResultCSV loadLocation toFloat (some header :: records) rows.length agent maximum =
      .ok (sampleOf rows.length (rows.foldl (step toFloat (strideOf rows.length maximum)) start)) := by
    rw [readSampledResultCSV, readable, ok_bind, scan_ok read, ok_bind]
    rfl
  exact ⟨_, accepted, finish_keeps increasing positive scanned, rfl, scanned.bandwidthSum, scanned.bandwidthCount⟩

def sampleHeader : List Cell :=
  ["OriginalRunningIndex".toList, "Time".toList, "OverallAlarmLevel".toList]

def sampleRecords : List Record :=
  [some ["1".toList, "2024-01-01T00:00:00Z".toList, "Normal".toList],
    some ["2".toList, "2024-01-01T00:00:01Z".toList, "Normal".toList],
    some ["4".toList, "2024-01-01T00:00:02Z".toList, "Notice".toList],
    some ["5".toList, "2024-01-01T00:00:03Z".toList, []]]

def sampleRows : List ResultPoint :=
  sampleRecords.filterMap fun record => (readPoint Dataset.sampleZones ⟨sampleHeader, 0, 1⟩ 1 record).toOption

/-- A file of four rows, the third with a notice, of which one is to be kept. -/
theorem sampled_results_keep_sample :
    exists sample, readSampledResultCSV Dataset.sampleZones (fun value => value) (some sampleHeader :: sampleRecords)
      sampleRows.length 1 1 = .ok sample ∧ Keeps 1 sampleRows sample.points ∧ sample.count = sampleRows.length ∧
      sample.bandwidthSum = (bandwidths (fun value => value) sampleRows).foldl (· + ·) 0 ∧
      sample.bandwidthCount = (bandwidths (fun value => value) sampleRows).length :=
  sampled_results_keep Dataset.sampleZones (fun value => value) ⟨sampleHeader, 0, 1⟩ (by rfl)
    (by decide +kernel) (by unfold Increasing; decide +kernel) (by decide)

end Sampling

end Results
end FederatedIot
