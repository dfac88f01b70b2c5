import FederatedIot.Worker.Smoothing

namespace FederatedIot
namespace Worker

open Foundation Foundation.Outcome Foundation.Positions Foundation.NumberText

/-!
# The rows of a preprocessed dataset

Every data row of a source is invalid, stopped, suspicious or running.  The
running rows carry on in source order; nine signals are computed from them,
repaired and smoothed one by one, and put together again by position.
-/

namespace Pipeline

/-- `PreprocessingConfig` with its filter paths. -/
structure Config extends PreprocessingConfig where
  medianFilterPath : String
  smoothingPath : String

/-- The signals by the keys of the source, in its order. -/
inductive SignalName where
  | i1 | i2 | i3 | i4 | zl | sd | iavg | isum | iimb
  deriving DecidableEq

def SignalName.all : List SignalName :=
  [.i1, .i2, .i3, .i4, .zl, .sd, .iavg, .isum, .iimb]

/-- `_spike_reason_for_signal` -/
def SignalName.spikeReason : SignalName -> String
  | .i1 => "I1 spike"
  | .i2 => "I2 spike"
  | .i3 => "I3 spike"
  | .i4 => "I4 spike"
  | .zl => "Tension spike"
  | .sd => "Speed spike"
  | .iavg => "Iavg spike"
  | .isum => "Isum spike"
  | .iimb => "Imbalance spike"

/-- One value for every signal. -/
structure SignalSet (β : Type) where
  i1 : β
  i2 : β
  i3 : β
  i4 : β
  zl : β
  sd : β
  iavg : β
  isum : β
  iimb : β

namespace SignalSet

variable {β γ ε : Type}

def get (signals : SignalSet β) : SignalName -> β
  | .i1 => signals.i1
  | .i2 => signals.i2
  | .i3 => signals.i3
  | .i4 => signals.i4
  | .zl => signals.zl
  | .sd => signals.sd
  | .iavg => signals.iavg
  | .isum => signals.isum
  | .iimb => signals.iimb

def map (convert : β -> γ) (signals : SignalSet β) : SignalSet γ where
  i1 := convert signals.i1
  i2 := convert signals.i2
  i3 := convert signals.i3
  i4 := convert signals.i4
  zl := convert signals.zl
  sd := convert signals.sd
  iavg := convert signals.iavg
  isum := convert signals.isum
  iimb := convert signals.iimb

/-- Convert the signals in their order. -/
def mapM (convert : β -> Except ε γ) (signals : SignalSet β) : Except ε (SignalSet γ) := do
  let i1 ← convert signals.i1
  let i2 ← convert signals.i2
  let i3 ← convert signals.i3
  let i4 ← convert signals.i4
  let zl ← convert signals.zl
  let sd ← convert signals.sd
  let iavg ← convert signals.iavg
  let isum ← convert signals.isum
  let iimb ← convert signals.iimb
  return { i1, i2, i3, i4, zl, sd, iavg, isum, iimb }

theorem get_map (convert : β -> γ) (signals : SignalSet β) (name : SignalName) :
    (signals.map convert).get name = convert (signals.get name) := by
  cases name <;> rfl

theorem get_mapM {convert : β -> Except ε γ} {signals : SignalSet β} {results : SignalSet γ}
    (converted : signals.mapM convert = .ok results) (name : SignalName) :
    convert (signals.get name) = .ok (results.get name) := by
  simp only [mapM, bind_ok_iff, pure_ok_iff] at converted
  rcases converted with ⟨_, i1, _, i2, _, i3, _, i4, _, zl, _, sd, _, iavg, _, isum, _, iimb, rfl⟩
  cases name with
  | i1 => exact i1
  | i2 => exact i2
  | i3 => exact i3
  | i4 => exact i4
  | zl => exact zl
  | sd => exact sd
  | iavg => exact iavg
  | isum => exact isum
  | iimb => exact iimb

end SignalSet

/-- `RunningRow`; the repaired and smoothed signals are in `signals`. -/
structure RunningRow (α : Type) where
  originalRunningIndex : Nat
  sourceRowIndex : Nat
  timeRaw : String
  i1Raw : ParsedFloat
  i2Raw : ParsedFloat
  i3Raw : ParsedFloat
  i4Raw : ParsedFloat
  zlRaw : ParsedFloat
  sdRaw : ParsedFloat
  iavgRaw : α
  isumRaw : α
  iimbRaw : α
  isSpikeSample : Bool
  motorZeroWarning : Bool
  spikeReason : String
  signals : SignalSet α

/-- `PreprocessedDataset`, without the hash and the times. -/
structure PreprocessedDataset (α : Type) where
  runningRows : List (RunningRow α)
  invalidRows : List RawRow
  stopCount : Nat
  suspiciousCount : Nat
  spikeCount : Nat

/-! ## The classes of rows -/

def allMotorNearZero (config : PreprocessingConfig) (row : RawRow) : Bool :=
  row.currents.all (atMost config.currentStopThreshold)

def anyMotorCurrent (config : PreprocessingConfig) (row : RawRow) : Bool :=
  row.currents.any (exceeds config.currentStopThreshold)

/-- `is_stop` -/
def isStop (config : PreprocessingConfig) (row : RawRow) : Bool :=
  atMost config.speedStopThreshold row.sd && allMotorNearZero config row

/-- `run_without_current or zero_speed_with_current` -/
def isSuspicious (config : PreprocessingConfig) (row : RawRow) : Bool :=
  (exceeds config.speedStopThreshold row.sd && allMotorNearZero config row) ||
    (atMost config.speedStopThreshold row.sd && anyMotorCurrent config row)

def motorZeroWarning (config : PreprocessingConfig) (row : RawRow) : Bool :=
  atMost config.currentStopThreshold row.i1 || atMost config.currentStopThreshold row.i2 ||
    atMost config.currentStopThreshold row.i3

/-- What the loop over the valid rows has collected. -/
structure Classified where
  stopCount : Nat
  suspiciousCount : Nat
  modelingRows : List RawRow
  motorZeroWarning : List Bool

/-- One turn of the loop. -/
def classifyRow (config : PreprocessingConfig) (state : Classified) (row : RawRow) : Classified where
  stopCount := if isStop config row then state.stopCount + 1 else state.stopCount
  suspiciousCount := if isSuspicious config row then state.suspiciousCount + 1 else state.suspiciousCount
  modelingRows := if isModelingRow config row then state.modelingRows ++ [row] else state.modelingRows
  motorZeroWarning :=
    if isModelingRow config row then state.motorZeroWarning ++ [motorZeroWarning config row]
    else state.motorZeroWarning

def classify (config : PreprocessingConfig) (rows : List RawRow) : Classified :=
  rows.foldl (classifyRow config) ⟨0, 0, [], []⟩

/-! ## The signals -/

section Signals

variable {α : Type} [SignalArithmetic α]

/-- The average current of a row. -/
def averageCurrent (number : ParsedFloat -> α) (row : RawRow) : α :=
  (number row.i1 + number row.i2 + number row.i3) / ((3 : Nat) : α)

def currentImbalance (number : ParsedFloat -> α) (average : α) (row : RawRow) : Except SignalFailure α :=
  if SignalArithmetic.isZero (average + sysFloatEpsilon) then .error .zeroDivision
  else
    let currents := [number row.i1, number row.i2, number row.i3]
    .ok ((Features.Arithmetic.maximum currents - Features.Arithmetic.minimum currents) / (average + sysFloatEpsilon))

/-- `_derive_signals` -/
def deriveSignals (number : ParsedFloat -> α) (rows : List RawRow) : Except SignalFailure (SignalSet (List α)) := do
  let iavg := rows.map (averageCurrent number)
  let isum := rows.map fun row => number row.i1 + number row.i2 + number row.i3
  let iimb ← rows.zipIdx.mapM fun entry => do
    let average ← readAt .indexError iavg entry.2
    currentImbalance number average entry.1
  return { i1 := rows.map (number ·.i1), i2 := rows.map (number ·.i2), i3 := rows.map (number ·.i3)
           i4 := rows.map (number ·.i4), zl := rows.map (number ·.zl), sd := rows.map (number ·.sd)
           iavg, isum, iimb }

/-- The flags of all signals at one position. -/
def flagsAt (flags : SignalSet (List Bool)) (index : Nat) : Except SignalFailure (SignalSet Bool) :=
  flags.mapM fun column => readAt .indexError column index

def flaggedNames (here : SignalSet Bool) : List SignalName :=
  SignalName.all.filter here.get

/-- `_join_reasons` of the signals that are flagged -/
def joinReasons (names : List SignalName) : String :=
  "; ".intercalate (names.map SignalName.spikeReason)

/-- The running row at a position. -/
def runningRow (raws smoothed : SignalSet (List α)) (spikeAny warnings : List Bool) (reasons : List String)
    (entry : RawRow × Nat) : Except SignalFailure (RunningRow α) := do
  let row := entry.1
  let iavgRaw ← readAt .indexError raws.iavg entry.2
  let isumRaw ← readAt .indexError raws.isum entry.2
  let iimbRaw ← readAt .indexError raws.iimb entry.2
  let isSpikeSample ← readAt .indexError spikeAny entry.2
  let motorZeroWarning ← readAt .indexError warnings entry.2
  let spikeReason ← readAt .indexError reasons entry.2
  let signals ← smoothed.mapM fun column => readAt .indexError column entry.2
  return { originalRunningIndex := entry.2 + 1, sourceRowIndex := row.originalIndex, timeRaw := row.timeRaw
           i1Raw := row.i1, i2Raw := row.i2, i3Raw := row.i3, i4Raw := row.i4, zlRaw := row.zl, sdRaw := row.sd
           iavgRaw, isumRaw, iimbRaw, isSpikeSample, motorZeroWarning, spikeReason, signals }

/-- `preprocess_csv`, from the records of the file -/
def preprocessCsv (number : ParsedFloat -> α) (config : Config) (records : List (List String)) :
    Except SignalFailure (PreprocessedDataset α) := do
  let rows ← (readCsv records).mapError SignalFailure.preparation
  let classified := classify config.toPreprocessingConfig rows.1
  let modelingRows := classified.modelingRows
  require (modelingRows ≠ [])
    (.preparation (.failed "INSUFFICIENT_SAMPLES" "No running rows are available after state filtering."))
  let raws ← deriveSignals number modelingRows
  let despiked ← raws.mapM fun signal =>
    despikeAndRepair signal config.medianWindow (SignalArithmetic.literal config.madFactor) config.medianFilterPath
  let spikeFlags := despiked.map Prod.snd
  let flagged ← (List.range modelingRows.length).mapM (flagsAt spikeFlags)
  let spikeAny := flagged.map fun here => SignalName.all.any here.get
  let spikeReason := flagged.map fun here => joinReasons (flaggedNames here)
  let smoothed ← (despiked.map Prod.fst).mapM fun signal =>
    Smoothing.smoothSignal signal config.smoothWindow config.smoothingPath
  let runningRows ← modelingRows.zipIdx.mapM
    (runningRow raws smoothed spikeAny classified.motorZeroWarning spikeReason)
  return { runningRows, invalidRows := rows.2, stopCount := classified.stopCount
           suspiciousCount := classified.suspiciousCount, spikeCount := spikeAny.count true }

end Signals

/-- The counts of a preflight summary. -/
structure Counts where
  rawRows : Nat
  invalidNumericRows : Nat
  stopRows : Nat
  suspiciousRows : Nat
  runningRows : Nat
  spikeRows : Nat

/-- The `counts` of `preflight_summary`. -/
def preflightCounts {α : Type} (dataset : PreprocessedDataset α) : Counts where
  rawRows := dataset.runningRows.length + dataset.invalidRows.length + dataset.stopCount + dataset.suspiciousCount
  invalidNumericRows := dataset.invalidRows.length
  stopRows := dataset.stopCount
  suspiciousRows := dataset.suspiciousCount
  runningRows := dataset.runningRows.length
  spikeRows := dataset.spikeCount

/-! ## Every row is counted once -/

/-- A number that is not NaN is above a threshold or not. -/
theorem atMost_eq_not_exceeds {threshold : Rat} {value : ParsedFloat} (number : value ≠ .notANumber) :
    atMost threshold value = !exceeds threshold value := by
  cases value with
  | finite value =>
      rw [atMost, exceeds, ← decide_not, decide_eq_decide]
      exact not_lt.symm
  | infinite negative => rw [atMost, exceeds, Bool.not_not]
  | notANumber => exact absurd rfl number

theorem RawRow.numbers {row : RawRow} (valid : row.isInvalid = false) :
    (∀ value ∈ row.currents, value ≠ .notANumber) ∧ row.sd ≠ .notANumber := by
  rw [RawRow.isInvalid, List.any_eq_false] at valid
  have numbers : ∀ value ∈ [row.i1, row.i2, row.i3, row.i4, row.zl, row.sd], value ≠ .notANumber :=
    fun value member same => valid value member (decide_eq_true same)
  constructor
  · intro value member
    apply numbers value
    simp only [RawRow.currents, List.mem_cons, List.not_mem_nil, or_false] at member
    rcases member with rfl | rfl | rfl | rfl <;> simp
  · exact numbers row.sd (by simp)

/-- Of a valid row either all currents are near zero or some current is not. -/
theorem allMotorNearZero_eq {config : PreprocessingConfig} {row : RawRow} (valid : row.isInvalid = false) :
    allMotorNearZero config row = !anyMotorCurrent config row := by
  rw [allMotorNearZero, anyMotorCurrent, List.not_any_eq_all_not, Bool.eq_iff_iff, List.all_eq_true, List.all_eq_true]
  apply forall₂_congr
  intro value member
  rw [atMost_eq_not_exceeds ((RawRow.numbers valid).1 value member)]

/-- A row is in exactly one class. -/
theorem classes_exclusive (config : PreprocessingConfig) (row : RawRow) :
    [row.isInvalid, !row.isInvalid && isStop config row, !row.isInvalid && isSuspicious config row,
      !row.isInvalid && isModelingRow config row].count true = 1 := by
  cases valid : row.isInvalid with
  | true => rfl
  | false =>
      have currents := @allMotorNearZero_eq config row valid
      have speed := @atMost_eq_not_exceeds config.speedStopThreshold _ (RawRow.numbers valid).2
      have modeling : isModelingRow config row =
          ((exceeds config.speedStopThreshold row.sd || anyMotorCurrent config row) &&
            !(exceeds config.speedStopThreshold row.sd && allMotorNearZero config row) &&
            !(atMost config.speedStopThreshold row.sd && anyMotorCurrent config row)) := rfl
      rw [modeling, isStop, isSuspicious, currents, speed]
      cases exceeds config.speedStopThreshold row.sd <;> cases anyMotorCurrent config row <;> rfl

/-- What the loop over valid rows collects. -/
theorem foldl_classifyRow (config : PreprocessingConfig) (rows : List RawRow) (state : Classified) :
    rows.foldl (classifyRow config) state =
      { stopCount := state.stopCount + rows.countP (isStop config)
        suspiciousCount := state.suspiciousCount + rows.countP (isSuspicious config)
        modelingRows := state.modelingRows ++ rows.filter (isModelingRow config)
        motorZeroWarning :=
          state.motorZeroWarning ++ (rows.filter (isModelingRow config)).map (motorZeroWarning config) } := by
  induction rows generalizing state with
  | nil => simp
  | cons row rest inductionHypothesis =>
      rw [List.foldl_cons, inductionHypothesis]
      simp only [classifyRow, List.countP_cons, List.filter_cons]
      congr 1
      · split <;> omega
      · split <;> omega
      · split <;> simp
      · split <;> simp

theorem classify_eq (config : PreprocessingConfig) (rows : List RawRow) :
    classify config rows =
      { stopCount := rows.countP (isStop config), suspiciousCount := rows.countP (isSuspicious config)
        modelingRows := rows.filter (isModelingRow config)
        motorZeroWarning := (rows.filter (isModelingRow config)).map (motorZeroWarning config) } := by
  rw [classify, foldl_classifyRow]
  simp

/-! ## Columns by position -/

/-- What is read of the results of a conversion is what is read of its inputs. -/
theorem map_of_mapM {β γ δ ε : Type} {convert : β -> Except ε γ} {values : List β} {results : List γ}
    (run : values.mapM convert = .ok results) {read : γ -> δ} {source : β -> δ}
    (agree : forall value result, convert value = .ok result -> read result = source value) :
    results.map read = values.map source := by
  have pairs := mapM_ok_iff.mp run
  clear run
  induction pairs with
  | nil => rfl
  | cons converted _ inductionHypothesis => rw [List.map_cons, List.map_cons, inductionHypothesis, agree _ _ converted]

/-- The input of a result stands at the same position. -/
theorem input_of_mapM {β γ ε : Type} {convert : β -> Except ε γ} {values : List β} {results : List γ}
    (run : values.mapM convert = .ok results) {index : Nat} {result : γ} (present : results[index]? = some result) :
    ∃ value, values[index]? = some value ∧ convert value = .ok result := by
  rcases List.forall₂_iff_get.mp (mapM_ok_iff.mp run) with ⟨length, each⟩
  rcases List.getElem?_eq_some_iff.mp present with ⟨inside, rfl⟩
  exact ⟨_, List.getElem?_eq_getElem (length.symm ▸ inside), each index (length.symm ▸ inside) inside⟩

/-- A column that is read at the positions of as many rows. -/
theorem column_of_positions {β δ : Type} {rows : List β} {column : List δ} (length : column.length = rows.length) :
    (rows.zipIdx.map fun entry => column[entry.2]?) = column.map some := by
  apply List.ext_getElem?
  intro index
  rw [List.getElem?_map, List.getElem?_map, List.getElem?_zipIdx, Nat.zero_add]
  by_cases inside : index < rows.length
  · rw [List.getElem?_eq_getElem inside, List.getElem?_eq_getElem (length.symm ▸ inside), Option.map_some,
      Option.map_some, Option.map_some, List.getElem?_eq_getElem (length.symm ▸ inside)]
  · rw [List.getElem?_eq_none (not_lt.mp inside), List.getElem?_eq_none (length.symm ▸ not_lt.mp inside)]
    rfl

/-- The results of a conversion hold a column, when each reads it at its own
position. -/
theorem column_of_mapM {β γ δ ε : Type} {rows : List β} {convert : β × Nat -> Except ε γ} {results : List γ}
    (run : rows.zipIdx.mapM convert = .ok results) {read : γ -> δ} {column : List δ}
    (length : column.length = rows.length)
    (reads : forall entry result, convert entry = .ok result -> column[entry.2]? = some (read result)) :
    results.map read = column := by
  have options : results.map (fun result => some (read result)) = rows.zipIdx.map fun entry => column[entry.2]? :=
    map_of_mapM run fun entry result converted => (reads entry result converted).symm
  rw [column_of_positions length] at options
  apply List.map_injective_iff.mpr (Option.some_injective δ)
  rw [List.map_map]
  exact options

/-! ## The data rows -/

theorem readRows_length {rowNumber : Nat} {records : List (List String)} {rows : List RawRow}
    (read : readRows rowNumber records = .ok rows) : rows.length = records.length := by
  induction records generalizing rowNumber rows with
  | nil =>
      cases read
      rfl
  | cons fields rest inductionHypothesis =>
      simp only [readRows, bind_ok_iff, pure_ok_iff] at read
      rcases read with ⟨row, _, others, othersRead, rfl⟩
      rw [List.length_cons, List.length_cons, inductionHypothesis othersRead]

/-- Every row is read from the record of its number. -/
theorem readRows_record {rowNumber : Nat} {records : List (List String)} {rows : List RawRow}
    (read : readRows rowNumber records = .ok rows) {row : RawRow} (member : row ∈ rows) :
    ∃ position fields, row.originalIndex = rowNumber + position ∧ records[position]? = some fields ∧
      readRow row.originalIndex fields = .ok row := by
  induction records generalizing rowNumber rows with
  | nil =>
      cases read
      cases member
  | cons fields rest inductionHypothesis =>
      simp only [readRows, bind_ok_iff, pure_ok_iff] at read
      rcases read with ⟨first, firstRead, others, othersRead, rfl⟩
      rcases List.mem_cons.mp member with isFirst | inOthers
      · have number := readRow_originalIndex firstRead
        rw [isFirst]
        exact ⟨0, fields, number, rfl, by rw [number]; exact firstRead⟩
      · rcases inductionHypothesis othersRead inOthers with ⟨position, found, number, present, rowRead⟩
        exact ⟨position + 1, found, by omega, present, rowRead⟩

theorem readRow_time {rowNumber : Nat} {fields : List String} {row : RawRow}
    (read : readRow rowNumber fields = .ok row) : fields.head? = some row.timeRaw := by
  unfold readRow at read
  split at read
  · cases read
    rfl
  · cases read

theorem readCsv_rows {records : List (List String)} {valid invalid : List RawRow}
    (read : readCsv records = .ok (valid, invalid)) :
    ∃ header rest rows, records = header :: rest ∧ readRows 1 rest = .ok rows ∧
      valid = rows.filter (fun row => !row.isInvalid) ∧ invalid = rows.filter RawRow.isInvalid := by
  cases records with
  | nil => cases read
  | cons header rest =>
      simp only [readCsv, bind_ok_iff, pure_ok_iff, require_ok_iff, exists_const, Prod.mk.injEq] at read
      rcases read with ⟨_, rows, rowsRead, _, rfl, rfl⟩
      exact ⟨header, rest, rows, rfl, rowsRead, rfl, rfl⟩

/-! ## The columns of the running rows -/

section Signals

variable {α : Type} [SignalArithmetic α] {number : ParsedFloat -> α} {config : Config}

/-- The raw row that a running row shows. -/
def RunningRow.raw (running : RunningRow α) : RawRow where
  originalIndex := running.sourceRowIndex
  timeRaw := running.timeRaw
  i1 := running.i1Raw
  i2 := running.i2Raw
  i3 := running.i3Raw
  i4 := running.i4Raw
  zl := running.zlRaw
  sd := running.sdRaw

/-- The columns that the signals of the running rows come from, one value and one
flag for each row. -/
structure Aligned (number : ParsedFloat -> α) (config : Config) (runningRows : List (RunningRow α))
    (raws repaired smoothed : SignalSet (List α)) (flags : SignalSet (List Bool)) : Prop where
  derived : deriveSignals number (runningRows.map RunningRow.raw) = .ok raws
  iavgRaw : runningRows.map RunningRow.iavgRaw = raws.iavg
  isumRaw : runningRows.map RunningRow.isumRaw = raws.isum
  iimbRaw : runningRows.map RunningRow.iimbRaw = raws.iimb
  despiked : forall name, despikeAndRepair (raws.get name) config.medianWindow
    (SignalArithmetic.literal config.madFactor) config.medianFilterPath = .ok (repaired.get name, flags.get name)
  smooth : forall name, Smoothing.smoothSignal (repaired.get name) config.smoothWindow config.smoothingPath =
    .ok (smoothed.get name)
  rawLength : forall name, (raws.get name).length = runningRows.length
  repairedLength : forall name, (repaired.get name).length = runningRows.length
  flagsLength : forall name, (flags.get name).length = runningRows.length
  signals : forall name, runningRows.map (fun running => running.signals.get name) = smoothed.get name
  spikes : forall (index : Nat) (running : RunningRow α), runningRows[index]? = some running ->
    ∃ here : SignalName -> Bool, (forall name, (flags.get name)[index]? = some (here name)) ∧
      running.isSpikeSample = SignalName.all.any here ∧ running.spikeReason = joinReasons (SignalName.all.filter here)
  warnings : ∀ running ∈ runningRows,
    running.motorZeroWarning = Pipeline.motorZeroWarning config.toPreprocessingConfig running.raw

theorem deriveSignals_lengths {rows : List RawRow} {raws : SignalSet (List α)}
    (derived : deriveSignals number rows = .ok raws) (name : SignalName) : (raws.get name).length = rows.length := by
  simp only [deriveSignals, bind_ok_iff, pure_ok_iff] at derived
  rcases derived with ⟨iimb, converted, rfl⟩
  have length : iimb.length = rows.length := by
    rw [← (mapM_ok_iff.mp converted).length_eq, List.length_zipIdx]
  cases name with
  | iimb => exact length
  | i1 | i2 | i3 | i4 | zl | sd | iavg | isum => exact List.length_map _

omit [SignalArithmetic α] in
theorem runningRow_reads {raws smoothed : SignalSet (List α)} {spikeAny warnings : List Bool} {reasons : List String}
    {entry : RawRow × Nat} {running : RunningRow α}
    (built : runningRow raws smoothed spikeAny warnings reasons entry = .ok running) :
    running.originalRunningIndex = entry.2 + 1 ∧ running.raw = entry.1 ∧
      raws.iavg[entry.2]? = some running.iavgRaw ∧ raws.isum[entry.2]? = some running.isumRaw ∧
      raws.iimb[entry.2]? = some running.iimbRaw ∧ spikeAny[entry.2]? = some running.isSpikeSample ∧
      warnings[entry.2]? = some running.motorZeroWarning ∧ reasons[entry.2]? = some running.spikeReason ∧
      forall name, (smoothed.get name)[entry.2]? = some (running.signals.get name) := by
  simp only [runningRow, bind_ok_iff, pure_ok_iff, readAt_ok_iff] at built
  rcases built with ⟨_, iavg, _, isum, _, iimb, _, spike, _, warning, _, reason, signals, converted, rfl⟩
  refine ⟨rfl, rfl, iavg, isum, iimb, spike, warning, reason, ?_⟩
  intro name
  exact readAt_ok_iff.mp (SignalSet.get_mapM converted name)

/-- What has happened when a source was preprocessed. -/
theorem preprocessCsv_ok {records : List (List String)} {dataset : PreprocessedDataset α}
    (accepted : preprocessCsv number config records = .ok dataset) :
    ∃ valid raws repaired smoothed flags,
      readCsv records = .ok (valid, dataset.invalidRows) ∧ dataset.runningRows ≠ [] ∧
      dataset.stopCount = valid.countP (isStop config.toPreprocessingConfig) ∧
      dataset.suspiciousCount = valid.countP (isSuspicious config.toPreprocessingConfig) ∧
      dataset.runningRows.map RunningRow.raw = valid.filter (isModelingRow config.toPreprocessingConfig) ∧
      dataset.runningRows.map RunningRow.originalRunningIndex = List.range' 1 dataset.runningRows.length ∧
      Aligned number config dataset.runningRows raws repaired smoothed flags := by
  simp only [preprocessCsv, classify_eq, bind_ok_iff, pure_ok_iff, require_ok_iff, exists_const] at accepted
  rcases accepted with ⟨⟨valid, invalid⟩, read, present, raws, derived, despiked, repairs, flagged, flagsRead, smoothed,
    smooth, runningRows, built, rfl⟩
  dsimp only at derived repairs flagsRead smooth built
  generalize kept : valid.filter (isModelingRow config.toPreprocessingConfig) = modelingRows at *
  have count : runningRows.length = modelingRows.length := by
    rw [← (mapM_ok_iff.mp built).length_eq, List.length_zipIdx]
  have raw : runningRows.map RunningRow.raw = modelingRows := by
    rw [map_of_mapM built fun entry running converted => (runningRow_reads converted).2.1]
    exact List.zipIdx_map_fst 0 modelingRows
  have rawLength := fun name => deriveSignals_lengths derived name
  have repair : forall name, despikeAndRepair (raws.get name) config.medianWindow
      (SignalArithmetic.literal config.madFactor) config.medianFilterPath =
        .ok ((despiked.map Prod.fst).get name, (despiked.map Prod.snd).get name) := by
    intro name
    rw [SignalSet.get_map, SignalSet.get_map]
    exact SignalSet.get_mapM repairs name
  have lengths := fun name => despikeAndRepair_lengths (repair name)
  have smoothLength : forall name, (smoothed.get name).length = modelingRows.length := fun name =>
    (Smoothing.smoothSignal_length (SignalSet.get_mapM smooth name)).trans ((lengths name).1.trans (rawLength name))
  have spikes : forall (index : Nat) (running : RunningRow α), runningRows[index]? = some running ->
      ∃ here : SignalName -> Bool, (forall name, ((despiked.map Prod.snd).get name)[index]? = some (here name)) ∧
        running.isSpikeSample = SignalName.all.any here ∧
          running.spikeReason = joinReasons (SignalName.all.filter here) := by
    intro index running present
    rcases input_of_mapM built present with ⟨entry, entryPresent, converted⟩
    have position : entry.2 = index := by
      rw [List.getElem?_zipIdx, Nat.zero_add, Option.map_eq_some_iff] at entryPresent
      rcases entryPresent with ⟨row, _, rfl⟩
      rfl
    have reads := runningRow_reads converted
    rw [position] at reads
    rcases reads with ⟨_, _, _, _, _, isSpike, _, reason, _⟩
    rw [List.getElem?_map] at isSpike reason
    rcases Option.map_eq_some_iff.mp isSpike with ⟨here, hereFound, spikeSame⟩
    rw [hereFound, Option.map_some] at reason
    rcases input_of_mapM flagsRead hereFound with ⟨place, placePresent, hereRead⟩
    have same : place = index := by
      rcases List.getElem?_eq_some_iff.mp placePresent with ⟨_, same⟩
      rw [← same, List.getElem_range]
    rw [same] at hereRead
    exact ⟨here.get, fun name => readAt_ok_iff.mp (SignalSet.get_mapM hereRead name), spikeSame.symm,
      (Option.some.inj reason).symm⟩
  refine ⟨valid, raws, despiked.map Prod.fst, smoothed, despiked.map Prod.snd, ?_, ?_, rfl, rfl, raw.trans kept.symm, ?_, ?_⟩
  · cases outcome : readCsv records with
    | error fault =>
        rw [outcome] at read
        cases read
    | ok rows =>
        rw [outcome] at read
        exact congrArg Except.ok (Except.ok.inj read)
  · rw [Ne, ← List.map_eq_nil_iff, raw]
    exact present
  · rw [map_of_mapM built fun entry running converted => (runningRow_reads converted).1, count]
    calc (modelingRows.zipIdx.map fun entry => entry.2 + 1)
        = (modelingRows.zipIdx.map Prod.snd).map (1 + ·) := by
          rw [List.map_map]
          exact List.map_congr_left fun entry _ => Nat.add_comm _ _
      _ = List.range' 1 modelingRows.length := by rw [List.zipIdx_map_snd, List.map_add_range']
  · exact {
      derived := by
        rw [raw]
        exact derived
      iavgRaw := column_of_mapM built (rawLength .iavg) fun _ _ converted => (runningRow_reads converted).2.2.1
      isumRaw := column_of_mapM built (rawLength .isum) fun _ _ converted => (runningRow_reads converted).2.2.2.1
      iimbRaw := column_of_mapM built (rawLength .iimb) fun _ _ converted => (runningRow_reads converted).2.2.2.2.1
      despiked := repair
      smooth := fun name => SignalSet.get_mapM smooth name
      rawLength := fun name => (rawLength name).trans count.symm
      repairedLength := fun name => (lengths name).1.trans ((rawLength name).trans count.symm)
      flagsLength := fun name => (lengths name).2.trans ((rawLength name).trans count.symm)
      signals := fun name =>
        column_of_mapM built (smoothLength name) fun _ _ converted => (runningRow_reads converted).2.2.2.2.2.2.2.2 name
      spikes := spikes
      warnings := by
        intro running member
        rcases source_of_mapM_ok built member with ⟨entry, listed, converted⟩
        have rowAt : modelingRows[entry.2]? = some entry.1 := List.mk_mem_zipIdx_iff_getElem?.mp listed
        rcases runningRow_reads converted with ⟨_, shown, _, _, _, _, warning, _, _⟩
        rw [List.getElem?_map, rowAt, Option.map_some] at warning
        rw [shown]
        exact (Option.some.inj warning).symm }

/-- What is kept of a running row where its signals play no part. -/
def RunningRow.outline (running : RunningRow α) : Worker.RunningRow where
  originalRunningIndex := running.originalRunningIndex
  sourceRowIndex := running.sourceRowIndex
  raw := running.raw

/-- A signal that was smoothed was long enough for its window. -/
theorem longEnough_of_smooth {source output : List α} {window : Int}
    (smoothed : Smoothing.smoothSignal source window "zero_phase_fir_v1" = .ok output) :
    longEnough window source.length = true := by
  unfold Smoothing.smoothSignal at smoothed
  split at smoothed
  · next short => simp [longEnough, short]
  · have different : ¬"zero_phase_fir_v1" = "filter_fir_v1" := by decide
    simp only [if_neg different, if_true, Smoothing.zeroPhaseFir, bind_ok_iff, require_ok_iff, exists_const] at smoothed
    have long := smoothed.1
    rw [edgeOf] at long
    rw [longEnough, Bool.or_eq_true, decide_eq_true_eq]
    exact Or.inr (by omega)

/-- On the zero-phase path the running rows are those of the preprocessing that
leaves the signals out. -/
theorem preprocessCsv_outline (path : config.smoothingPath = "zero_phase_fir_v1") {records : List (List String)}
    {dataset : PreprocessedDataset α} (accepted : preprocessCsv number config records = .ok dataset) :
    ∃ valid, readCsv records = .ok (valid, dataset.invalidRows) ∧
      preprocess config.toPreprocessingConfig valid = .ok (dataset.runningRows.map RunningRow.outline) := by
  rcases preprocessCsv_ok accepted with ⟨valid, raws, repaired, smoothed, flags, read, present, _, _, kept, numbered, aligned⟩
  refine ⟨valid, read, ?_⟩
  have long := longEnough_of_smooth (path ▸ aligned.smooth .i1)
  rw [aligned.repairedLength .i1, ← List.length_map RunningRow.raw, kept] at long
  have rows : valid.filter (isModelingRow config.toPreprocessingConfig) ≠ [] := by
    rw [← kept]
    exact fun empty => present (List.map_eq_nil_iff.mp empty)
  simp only [preprocess]
  rw [require_of _ rows, ok_bind, require_of _ long, ok_bind, ← kept]
  refine congrArg Except.ok (List.ext_getElem? fun index => ?_)
  have number := congrArg (fun column : List Nat => column[index]?) numbered
  simp only [List.getElem?_map, List.getElem?_zipIdx, Nat.zero_add] at number ⊢
  cases found : dataset.runningRows[index]? with
  | none => rfl
  | some running =>
      have inside := (List.getElem?_eq_some_iff.mp found).1
      rw [found, Option.map_some, List.getElem?_range' inside, Nat.one_mul] at number
      simp only [Option.map_some, RunningRow.outline, Option.some.inj number, Nat.add_comm 1 index]
      rfl

/-- The rows of a class among all rows and among the valid ones. -/
theorem countP_valid (rows : List RawRow) (holds : RawRow -> Bool) :
    (rows.filter fun row => !row.isInvalid).countP holds = rows.countP fun row => !row.isInvalid && holds row := by
  rw [List.countP_filter]
  apply List.countP_congr
  intro row _
  rw [Bool.and_comm]

/-- Four classes of which exactly one holds of every element. -/
theorem counts_of_exclusive {β : Type} {first second third fourth : β -> Bool} {values : List β}
    (exclusive : ∀ value ∈ values, [first value, second value, third value, fourth value].count true = 1) :
    values.countP fourth + values.countP first + values.countP second + values.countP third = values.length := by
  induction values with
  | nil => rfl
  | cons value rest inductionHypothesis =>
      have one := exclusive value List.mem_cons_self
      have others := inductionHypothesis fun other member => exclusive other (List.mem_cons_of_mem value member)
      simp only [List.countP_cons, List.length_cons]
      revert one
      cases first value <;> cases second value <;> cases third value <;> cases fourth value <;> simp <;> omega

/-- Preprocessing conserves the rows.  Of an accepted source every data row is
counted as exactly one of invalid, stopped, suspicious and running.  The running
rows are the rows of the last class in source order, numbered from 1, each with
the cells of its record, and all columns are aligned with them. -/
theorem preprocessing_conserves_rows {records : List (List String)} {dataset : PreprocessedDataset α}
    (accepted : preprocessCsv number config records = .ok dataset) :
    ∃ rows, readRows 1 records.tail = .ok rows ∧ rows.length = records.tail.length ∧
      (∀ row ∈ rows, [row.isInvalid, !row.isInvalid && isStop config.toPreprocessingConfig row,
        !row.isInvalid && isSuspicious config.toPreprocessingConfig row,
        !row.isInvalid && isModelingRow config.toPreprocessingConfig row].count true = 1) ∧
      dataset.invalidRows = rows.filter RawRow.isInvalid ∧
      dataset.stopCount = rows.countP (fun row => !row.isInvalid && isStop config.toPreprocessingConfig row) ∧
      dataset.suspiciousCount =
        rows.countP (fun row => !row.isInvalid && isSuspicious config.toPreprocessingConfig row) ∧
      dataset.runningRows.map RunningRow.raw =
        rows.filter (fun row => !row.isInvalid && isModelingRow config.toPreprocessingConfig row) ∧
      (preflightCounts dataset).rawRows = rows.length ∧
      (dataset.runningRows.map RunningRow.sourceRowIndex).Pairwise (· < ·) ∧
      dataset.runningRows.map RunningRow.originalRunningIndex = List.range' 1 dataset.runningRows.length ∧
      (∀ running ∈ dataset.runningRows, ∃ fields, records[running.sourceRowIndex]? = some fields ∧
        readRow running.sourceRowIndex fields = .ok running.raw ∧ fields.head? = some running.timeRaw) ∧
      ∃ raws repaired smoothed flags, Aligned number config dataset.runningRows raws repaired smoothed flags := by
  rcases preprocessCsv_ok accepted with
    ⟨valid, raws, repaired, smoothed, flags, read, _, stops, suspects, kept, numbered, aligned⟩
  rcases readCsv_rows read with ⟨header, rest, rows, rfl, rowsRead, rfl, invalid⟩
  have exclusive := fun row (_ : row ∈ rows) => classes_exclusive config.toPreprocessingConfig row
  have running : dataset.runningRows.map RunningRow.raw =
      rows.filter fun row => !row.isInvalid && isModelingRow config.toPreprocessingConfig row := by
    rw [kept, List.filter_filter]
    exact List.filter_congr fun row _ => Bool.and_comm _ _
  rw [countP_valid] at stops suspects
  have indexes : dataset.runningRows.map RunningRow.sourceRowIndex =
      (dataset.runningRows.map RunningRow.raw).map RawRow.originalIndex := by
    rw [List.map_map]
    rfl
  refine ⟨rows, rowsRead, readRows_length rowsRead, exclusive, invalid, stops, suspects, running, ?_, ?_, numbered, ?_,
    raws, repaired, smoothed, flags, aligned⟩
  · have counted := counts_of_exclusive exclusive
    have length := congrArg List.length running
    rw [List.length_map, ← List.countP_eq_length_filter] at length
    rw [preflightCounts, length, invalid, stops, suspects, ← List.countP_eq_length_filter]
    exact counted
  · rw [indexes, running]
    exact (readRows_increasing rowsRead).1.sublist (List.filter_sublist.map RawRow.originalIndex)
  · intro row member
    have inRows : row.raw ∈ rows := List.mem_of_mem_filter (running ▸ List.mem_map_of_mem member)
    rcases readRows_record rowsRead inRows with ⟨position, fields, index, present, parsed⟩
    refine ⟨fields, ?_, parsed, readRow_time parsed⟩
    change (header :: rest)[row.raw.originalIndex]? = some fields
    rw [index, Nat.add_comm, List.getElem?_cons_succ]
    exact present

end Signals

def sampleConfig : Config where
  speedStopThreshold := 1 / 100
  currentStopThreshold := 1
  medianWindow := 21
  madFactor := 5
  smoothWindow := 5
  medianFilterPath := "median_filter_zero_padded_v1"
  smoothingPath := "zero_phase_fir_v1"

/-- A running row, an invalid one, a stopped one and a suspicious one. -/
def sampleRecords : List (List String) :=
  [expectedColumns, ["t1", "2", "3", "4", "5", "6", "7"], ["t2", "NULL", "3", "4", "5", "6", "7"],
    ["t3", "0", "0", "0", "0", "6", "0"], ["t4", "2", "3", "4", "5", "6", "0"]]

def finiteValue : ParsedFloat -> Rat
  | .finite value => value
  | _ => 0

theorem preprocessing_conserves_rows_sample :
    ∃ dataset, @preprocessCsv Rat (exactArithmetic id) finiteValue sampleConfig sampleRecords = .ok dataset ∧
      (preflightCounts dataset).rawRows = 4 := by
  have returns : (@preprocessCsv Rat (exactArithmetic id) finiteValue sampleConfig sampleRecords).toBool = true := by
    decide +kernel
  cases outcome : @preprocessCsv Rat (exactArithmetic id) finiteValue sampleConfig sampleRecords with
  | error fault =>
      rw [outcome] at returns
      cases returns
  | ok dataset =>
      rcases @preprocessing_conserves_rows Rat (exactArithmetic id) finiteValue sampleConfig sampleRecords dataset outcome
        with ⟨rows, _, length, _, _, _, _, _, counted, _⟩
      exact ⟨dataset, rfl, counted.trans length⟩

end Pipeline

end Worker
end FederatedIot
