import FederatedIot.Foundation.Keyset
import FederatedIot.Queue.Admission
import Mathlib.Data.List.Sort
import Mathlib.Data.Prod.Lex
import Mathlib.Data.String.Basic

namespace FederatedIot
namespace Queue

open Foundation Foundation.Keyset

/-!
# Lists of runs

`ListSimulations` answers one page of the runs that match a filter, with the
number of all of them.  The history lists the newest run first.  The queue view
lists the active run and then the queued ones by their place.  A page begins
behind the key of a cursor, which is the key that the last run of the page
before had when that page was read.
-/

/-! ## Filters -/

/-- The text search of a filter: both `lower` functions. -/
structure TextSearch where
  lower : String -> String
  toLower : String -> String

/-- `text LIKE pattern` with the backslash as the escape character. -/
def like : List Char -> List Char -> Bool
  | [], text => text = []
  | '%' :: pattern, [] => like pattern []
  | '%' :: pattern, char :: text => like pattern (char :: text) || like ('%' :: pattern) text
  | '_' :: pattern, _ :: text => like pattern text
  | '\\' :: literal :: pattern, char :: text => literal = char && like pattern text
  | literal :: pattern, char :: text => literal = char && like pattern text
  | _ :: _, [] => false
termination_by pattern text => (pattern.length, text.length)

theorem like_nil (text : List Char) : like [] text = true ↔ text = [] := by
  rw [like, decide_eq_true_eq]

structure SimulationListCursor where
  createdAt : Instant
  runId : String
  queueBucket : Nat
  enqueueSequence : Nat
  deriving DecidableEq

structure SimulationListQuery where
  view : String
  runId : String
  status : Option SimulationStatus
  datasetId : String
  parameterProfileVersionId : String
  runMode : Option RunMode
  search : String
  createdFrom : Option Instant
  createdTo : Option Instant
  cursor : Option SimulationListCursor
  limit : Int

/-- A row of the join with the snapshots. -/
abbrev ListedRow := Simulation × SimulationSnapshot

/-- `COALESCE(ss.snapshot_json->'dataset'->>'display_name','')` -/
def snapshotDatasetName (snapshot : SimulationSnapshot) : String :=
  (((snapshot.snapshotJson.field? "dataset").bind (Json.field? "display_name")).bind Json.asString?).getD ""

def matchesSearch (text : TextSearch) (search : String) (row : ListedRow) : Bool :=
  let needle := ("%" ++ text.toLower search ++ "%").toList
  like needle (text.lower row.1.runId).toList ||
    like needle (text.lower (row.1.displayName.getD "")).toList ||
    like needle (text.lower (snapshotDatasetName row.2)).toList

/-- `simulationListWhere`. -/
def simulationListWhere (text : TextSearch) (query : SimulationListQuery) (row : ListedRow) : Bool :=
  (query.view ≠ "queue" || row.1.status.isExecution || row.1.status = .queued) &&
    (query.runId = "" || row.1.runId = query.runId) &&
    (query.status.all fun status => row.1.status = status) &&
    (query.datasetId = "" || row.1.datasetId = query.datasetId) &&
    (query.parameterProfileVersionId = "" ||
      row.1.parameterProfileVersionId = query.parameterProfileVersionId) &&
    (query.runMode.all fun mode => row.1.runMode = mode) &&
    (query.search = "" || matchesSearch text query.search row) &&
    (query.createdFrom.all fun bound => bound ≤ row.1.createdAt) &&
    (query.createdTo.all fun bound => row.1.createdAt ≤ bound)

/-! ## Order -/

/-- The active runs come first in the queue view. -/
def queueBucket (status : SimulationStatus) : Nat :=
  if status.isExecution then 0 else 1

/-- A bucket, a place in it, and a run. -/
abbrev QueueKey := Nat ×ₗ Nat ×ₗ String

/-- An instant and a run. -/
abbrev HistoryKey := Int ×ₗ String

def queueKey (row : Simulation) : QueueKey :=
  toLex (queueBucket row.status, toLex (row.enqueueSeq, row.runId))

def historyKey (row : Simulation) : HistoryKey :=
  toLex (row.createdAt, row.runId)

namespace SimulationListCursor

def queueKey (cursor : SimulationListCursor) : QueueKey :=
  toLex (cursor.queueBucket, toLex (cursor.enqueueSequence, cursor.runId))

def historyKey (cursor : SimulationListCursor) : HistoryKey :=
  toLex (cursor.createdAt, cursor.runId)

/-- The cursor clause of the page. -/
def precedes (view : String) (cursor : SimulationListCursor) (row : ListedRow) : Bool :=
  if view = "queue" then cursor.queueKey < Queue.queueKey row.1
  else Queue.historyKey row.1 < cursor.historyKey

end SimulationListCursor

/-- The `ORDER BY` of the page. -/
def listedBefore (view : String) (first second : ListedRow) : Bool :=
  if view = "queue" then queueKey first.1 ≤ queueKey second.1
  else historyKey second.1 ≤ historyKey first.1

/-! ## Pages -/

structure SimulationPage where
  items : List SimulationRecord
  hasMore : Bool
  total : Nat

/-- `simulationPageFromRecords` -/
def simulationPageFromRecords (records : List SimulationRecord) (limit total : Nat) : SimulationPage :=
  let kept := records.foldl (keepFirst limit) ([], false)
  { items := kept.1, hasMore := kept.2, total }

/-- `simulations AS s JOIN simulation_snapshots AS ss ON ss.run_id=s.run_id` -/
def listedRows (tables : Tables) : List ListedRow :=
  tables.simulations.filterMap fun row =>
    (tables.simulationSnapshots.find? fun snapshot => snapshot.runId = row.runId).map fun snapshot =>
      (row, snapshot)

def listRefused (field message : String) : StableError :=
  { code := "REQUEST_INVALID", field, message, recoverable := true }

/-- `ListSimulations`, whose transaction reads one snapshot of the tables. -/
def listSimulations (text : TextSearch) (query : SimulationListQuery) (tables : Tables) :
    Except StableError SimulationPage :=
  if query.view ≠ "history" && query.view ≠ "queue" then
    .error (listRefused "view" "view must be history or queue.")
  else if query.limit < 1 || 500 < query.limit then
    .error (listRefused "limit" "limit must be between 1 and 500.")
  else
    let limit := query.limit.toNat
    let matching := (listedRows tables).filter (simulationListWhere text query)
    let beyond := matching.filter fun row => query.cursor.all fun cursor => cursor.precedes query.view row
    let rows := (beyond.insertionSort fun first second => listedBefore query.view first second = true).take (limit + 1)
    .ok (simulationPageFromRecords (rows.map fun row => simulationRow tables row.1 row.2) limit matching.length)

/-! ## Cursors -/

/-- The cursor of a response. -/
structure SimulationListCursorWire where
  version : Nat
  binding : String
  view : String
  createdAt : Instant
  runId : String
  queueBucket : Nat
  enqueueSequence : Nat
  deriving DecidableEq

def encodeSimulationListCursor (view binding : String) (record : SimulationRecord) : SimulationListCursorWire :=
  { version := 1, binding, view, createdAt := record.createdAt, runId := record.runId
    queueBucket := queueBucket record.status, enqueueSequence := record.enqueueSequence }

def decodeSimulationListCursor (wire : SimulationListCursorWire) (view binding : String) :
    Except StableError SimulationListCursor :=
  if wire.version ≠ 1 || wire.view ≠ view || wire.binding ≠ binding || wire.runId = "" ||
      1 < wire.queueBucket then
    .error (listRefused "cursor" "cursor is invalid for this query.")
  else
    .ok { createdAt := wire.createdAt, runId := wire.runId, queueBucket := wire.queueBucket
          enqueueSequence := wire.enqueueSequence }

/-- The cursor that the API adds to a page. -/
def SimulationPage.nextCursor (page : SimulationPage) (view binding : String) : Option SimulationListCursorWire :=
  if page.hasMore then page.items.getLast?.map (encodeSimulationListCursor view binding) else none

/-- A client that follows the cursors of one query. -/
structure Pager where
  cursor : Option SimulationListCursorWire
  returned : List String
  finished : Bool
  deriving DecidableEq

def Pager.first : Pager :=
  { cursor := none, returned := [], finished := false }

/-- Asks for the next page of the chain. -/
def requestPage (text : TextSearch) (query : SimulationListQuery) (binding : String) (tables : Tables)
    (pager : Pager) : Except StableError Pager := do
  let cursor ← pager.cursor.mapM fun wire => decodeSimulationListCursor wire query.view binding
  let page ← listSimulations text { query with cursor } tables
  return { cursor := page.nextCursor query.view binding
           returned := pager.returned ++ page.items.map SimulationRecord.runId
           finished := !page.hasMore }

end Queue
end FederatedIot
