import FederatedIot.Foundation.PythonText
import FederatedIot.Worker.Parameters

namespace FederatedIot
namespace Worker

open Foundation Foundation.Outcome Foundation.NumberText

/-!
# The preprocessing of a source

The rows of a source file keep their number.  A row with a cell that is not a
number is set aside, and the thresholds of a configuration tell the running rows
from the others.  The signals that are computed from the running rows play no
part in which rows there are; what is kept of their filters is the length that
they ask for.
-/

inductive PreparationFailure where
  /-- `WorkerFailure` -/
  | failed (code message : String)
  /-- `ContractFailure` -/
  | contract (message : String)
  | valueError (message : String)
  | indexError
  | overflow
  deriving DecidableEq

/-! ## The rows of the file -/

/-- `EXPECTED_COLUMNS` -/
def expectedColumns : List String :=
  ["Time_base", "dzdl_1", "dzdl_2", "dzdl_3", "dzdl_4", "zl", "sd"]

/-- `RawRow` -/
structure RawRow where
  originalIndex : Nat
  timeRaw : String
  i1 : ParsedFloat
  i2 : ParsedFloat
  i3 : ParsedFloat
  i4 : ParsedFloat
  zl : ParsedFloat
  sd : ParsedFloat
  deriving DecidableEq

/-- `_to_double`: what is no number is NaN. -/
def toDouble (value : String) : ParsedFloat :=
  let stripped := PythonText.strip (fun c => c ∈ ['\'', '"']) (PythonText.strip PythonText.isSpace value.toList)
  if stripped.isEmpty || stripped.map lower = "null".toList then .notANumber
  else (PythonText.float stripped).getD .notANumber

def inputInvalid (message : String) : PreparationFailure :=
  .failed "INPUT_INVALID" message

def readRow (rowNumber : Nat) (fields : List String) : Except PreparationFailure RawRow :=
  match fields with
  | [time, first, second, third, fourth, tension, speed] =>
      .ok
        { originalIndex := rowNumber, timeRaw := time, i1 := toDouble first, i2 := toDouble second
          i3 := toDouble third, i4 := toDouble fourth, zl := toDouble tension, sd := toDouble speed }
  | _ => .error (inputInvalid ("CSV row " ++ toString rowNumber ++ " has an unexpected field count."))

/-- Whether a cell of the row is NaN. -/
def RawRow.isInvalid (row : RawRow) : Bool :=
  [row.i1, row.i2, row.i3, row.i4, row.zl, row.sd].any fun value => value = .notANumber

/-- The loop of `_read_csv` from a row number on. -/
def readRows : Nat -> List (List String) -> Except PreparationFailure (List RawRow)
  | _, [] => .ok []
  | rowNumber, fields :: rest => do
      let row ← readRow rowNumber fields
      let others ← readRows (rowNumber + 1) rest
      return row :: others

/-- `_read_csv`, from the records of the file to its valid and invalid rows. -/
def readCsv (records : List (List String)) : Except PreparationFailure (List RawRow × List RawRow) := do
  match records with
  | [] => .error (inputInvalid "CSV input is empty.")
  | header :: rest => do
      require (header = expectedColumns)
        (inputInvalid "CSV header must contain the seven frozen columns in order.")
      let rows ← readRows 1 rest
      require (rows ≠ []) (inputInvalid "CSV does not contain data rows.")
      return (rows.filter fun row => !row.isInvalid, rows.filter RawRow.isInvalid)

/-! ## The running rows -/

/-- `value > threshold` -/
def exceeds (threshold : Rat) : ParsedFloat -> Bool
  | .finite value => threshold < value
  | .infinite negative => !negative
  | .notANumber => false

/-- `value <= threshold` -/
def atMost (threshold : Rat) : ParsedFloat -> Bool
  | .finite value => value ≤ threshold
  | .infinite negative => negative
  | .notANumber => false

def RawRow.currents (row : RawRow) : List ParsedFloat :=
  [row.i1, row.i2, row.i3, row.i4]

/-- Whether `preprocess_csv` keeps the row for the model. -/
def isModelingRow (config : PreprocessingConfig) (row : RawRow) : Bool :=
  let allMotorNearZero := row.currents.all (atMost config.currentStopThreshold)
  let anyMotorCurrent := row.currents.any (exceeds config.currentStopThreshold)
  let isRunning := exceeds config.speedStopThreshold row.sd || anyMotorCurrent
  let runWithoutCurrent := exceeds config.speedStopThreshold row.sd && allMotorNearZero
  let zeroSpeedWithCurrent := atMost config.speedStopThreshold row.sd && anyMotorCurrent
  isRunning && !runWithoutCurrent && !zeroSpeedWithCurrent

/-- `RunningRow`, with the signals of its raw row. -/
structure RunningRow where
  originalRunningIndex : Nat
  sourceRowIndex : Nat
  raw : RawRow
  deriving DecidableEq

/-- The window of a filter, made odd. -/
def oddWindow (window : Int) : Int :=
  if window % 2 = 0 then window + 1 else window

/-- Whether `_smooth_signal` has enough values for its window. -/
def longEnough (window : Int) (count : Nat) : Bool :=
  window ≤ 1 || count < window + 5 || 3 * (max (oddWindow window) 3 - 1) < count

/-- `preprocess_csv` -/
def preprocess (config : PreprocessingConfig) (rows : List RawRow) : Except PreparationFailure (List RunningRow) := do
  let modelingRows := rows.filter (isModelingRow config)
  require (modelingRows ≠ [])
    (.failed "INSUFFICIENT_SAMPLES" "No running rows are available after state filtering.")
  require (longEnough config.smoothWindow modelingRows.length = true)
    (.failed "INSUFFICIENT_SAMPLES" "Signal is too short for the frozen zero-phase FIR path.")
  return modelingRows.zipIdx.map fun entry =>
    { originalRunningIndex := entry.2 + 1, sourceRowIndex := entry.1.originalIndex, raw := entry.1 }

/-- The loop of `_preprocess_agent_datasets` with the results of the configurations
that it has met. -/
def preprocessAgents (rows : List RawRow) (byAgent : List (Int × AgentPreparationParameters)) :
    List (PreprocessingConfig × List RunningRow) -> List Int -> Except PreparationFailure (List (Int × List RunningRow))
  | _, [] => .ok []
  | cache, agent :: rest => do
      let parameters ← (match forAgent agent byAgent with
        | some parameters => .ok parameters
        | none => .error (.contract "S1 simulation parameters are missing one Agent."))
      match cache.find? fun entry => entry.1 = parameters.preprocessing with
      | some entry => do
          let others ← preprocessAgents rows byAgent cache rest
          return (agent, entry.2) :: others
      | none => do
          let dataset ← preprocess parameters.preprocessing rows
          let others ← preprocessAgents rows byAgent ((parameters.preprocessing, dataset) :: cache) rest
          return (agent, dataset) :: others

/-- `_preprocess_agent_datasets` -/
def preprocessAgentDatasets (rows : List RawRow) (byAgent : List (Int × AgentPreparationParameters)) :
    Except PreparationFailure (List (Int × List RunningRow)) :=
  preprocessAgents rows byAgent [] ((byAgent.map Prod.fst).insertionSort (· ≤ ·))

/-! ## Row numbers -/

theorem readRow_originalIndex {rowNumber : Nat} {fields : List String} {row : RawRow}
    (read : readRow rowNumber fields = .ok row) : row.originalIndex = rowNumber := by
  unfold readRow at read
  split at read
  · cases read
    rfl
  · cases read

/-- The rows are numbered upwards. -/
theorem readRows_increasing {rowNumber : Nat} {records : List (List String)} {rows : List RawRow}
    (read : readRows rowNumber records = .ok rows) :
    (rows.map RawRow.originalIndex).Pairwise (· < ·) ∧ ∀ row ∈ rows, rowNumber ≤ row.originalIndex := by
  induction records generalizing rowNumber rows with
  | nil =>
      cases read
      exact ⟨List.Pairwise.nil, fun _ impossible => (by cases impossible)⟩
  | cons fields rest inductionHypothesis =>
      simp only [readRows, bind_ok_iff, pure_ok_iff] at read
      rcases read with ⟨row, rowRead, others, othersRead, rfl⟩
      rcases inductionHypothesis othersRead with ⟨increasing, later⟩
      have first := readRow_originalIndex rowRead
      constructor
      · rw [List.map_cons, List.pairwise_cons]
        refine ⟨?_, increasing⟩
        intro index member
        rcases List.mem_map.mp member with ⟨other, inOthers, rfl⟩
        rw [first]
        exact later other inOthers
      · intro other member
        rcases List.mem_cons.mp member with isFirst | inOthers
        · rw [isFirst, first]
        · exact Nat.le_of_succ_le (later other inOthers)

theorem readCsv_increasing {records : List (List String)} {valid invalid : List RawRow}
    (read : readCsv records = .ok (valid, invalid)) : (valid.map RawRow.originalIndex).Pairwise (· < ·) := by
  cases records with
  | nil => cases read
  | cons header rest =>
      simp only [readCsv, bind_ok_iff, pure_ok_iff, require_ok_iff, exists_const, Prod.mk.injEq] at read
      rcases read with ⟨_, rows, rowsRead, _, rfl, _⟩
      exact (readRows_increasing rowsRead).1.sublist (List.filter_sublist.map RawRow.originalIndex)

/-- The source rows of a preprocessed dataset are those that its configuration keeps. -/
theorem preprocess_sourceRows {config : PreprocessingConfig} {rows : List RawRow} {dataset : List RunningRow}
    (done : preprocess config rows = .ok dataset) :
    dataset.map RunningRow.sourceRowIndex = (rows.filter (isModelingRow config)).map RawRow.originalIndex := by
  simp only [preprocess, bind_ok_iff, pure_ok_iff, require_ok_iff, exists_const] at done
  rcases done with ⟨_, _, rfl⟩
  rw [List.map_map]
  conv_rhs => rw [← List.zipIdx_map_fst 0 (rows.filter (isModelingRow config)), List.map_map]
  rfl

/-- The cache holds results of `preprocess`. -/
def Cached (rows : List RawRow) (cache : List (PreprocessingConfig × List RunningRow)) : Prop :=
  ∀ entry ∈ cache, preprocess entry.1 rows = .ok entry.2

/-- Each agent has the result of its own configuration. -/
theorem preprocessAgents_ok {rows : List RawRow} {byAgent : List (Int × AgentPreparationParameters)}
    {cache : List (PreprocessingConfig × List RunningRow)} {agents : List Int}
    {datasets : List (Int × List RunningRow)} (cached : Cached rows cache)
    (done : preprocessAgents rows byAgent cache agents = .ok datasets) :
    ∀ entry ∈ datasets, ∃ parameters, forAgent entry.1 byAgent = some parameters ∧
      preprocess parameters.preprocessing rows = .ok entry.2 := by
  induction agents generalizing cache datasets with
  | nil =>
      cases done
      exact fun _ impossible => (by cases impossible)
  | cons agent rest inductionHypothesis =>
      simp only [preprocessAgents, bind_ok_iff] at done
      rcases done with ⟨parameters, found, done⟩
      have isAgent : forAgent agent byAgent = some parameters := by
        split at found
        · rename_i same
          rw [same, Except.ok.inj found]
        · cases found
      split at done
      · rename_i hit selected
        simp only [bind_ok_iff, pure_ok_iff] at done
        rcases done with ⟨others, othersDone, rfl⟩
        have sameConfig : hit.1 = parameters.preprocessing := of_decide_eq_true (List.find?_some selected :)
        have hitDone := cached hit (List.mem_of_find?_eq_some selected)
        rw [sameConfig] at hitDone
        intro entry member
        rcases List.mem_cons.mp member with isFirst | inOthers
        · rw [isFirst]
          exact ⟨parameters, isAgent, hitDone⟩
        · exact inductionHypothesis cached othersDone entry inOthers
      · simp only [bind_ok_iff, pure_ok_iff] at done
        rcases done with ⟨dataset, datasetDone, others, othersDone, rfl⟩
        have extended : Cached rows ((parameters.preprocessing, dataset) :: cache) := by
          intro entry member
          rcases List.mem_cons.mp member with isFirst | inCache
          · rw [isFirst]
            exact datasetDone
          · exact cached entry inCache
        intro entry member
        rcases List.mem_cons.mp member with isFirst | inOthers
        · rw [isFirst]
          exact ⟨parameters, isAgent, datasetDone⟩
        · exact inductionHypothesis extended othersDone entry inOthers

end Worker
end FederatedIot
