import FederatedIot.Dataset.Timestamps
import FederatedIot.Foundation.NumberText
import FederatedIot.Foundation.Outcome

namespace FederatedIot
namespace Results

open Foundation Foundation.NumberText

/-!
# Result pages

The reader of a committed result file.  It scans the records once, keeps the
points that pass the filter and lie beyond the cursor, and stops keeping them
when the page is full.  In descending order it keeps a sliding ring of the last
points instead.  A cursor holds the index of the last point of its page.
-/

/-! ## Points -/

abbrev Cell := List Char

/-- A record of the file, absent when the CSV reader reports an error. -/
abbrev Record := Option (List Cell)

/-- A cell as the response shows it. -/
inductive ResultScalar where
  | null
  | bool (value : Bool)
  | integer (value : Int)
  | decimal (value : Rat)
  | text (value : Cell)
deriving DecidableEq

/-- The readings of a cell, of which the first that applies is taken. -/
def resultScalar (raw : Cell) : ResultScalar :=
  if raw = [] then .null
  else if raw = "true".toList then .bool true
  else if raw = "false".toList then .bool false
  else
    match parseInt raw with
    | some value => .integer value
    | none =>
        match parseFloat raw with
        | some (.finite value) => .decimal value
        | _ => .text raw

/-- The row of a response, by column. -/
abbrev ResultRow := List (Cell × ResultScalar)

def ResultRow.get? (row : ResultRow) (name : String) : Option ResultScalar :=
  (row.find? fun column => column.1 = name.toList).map Prod.snd

def jsonInteger : ResultScalar -> Option Int
  | .integer value => some value
  | .decimal value => if value.den = 1 then some value.num else none
  | _ => none

structure ResultPoint where
  index : Int
  time : Instant
  value : ResultRow
deriving DecidableEq

/-- The message of an `ARTIFACT_INTEGRITY_ERROR`. -/
abbrev IntegrityError := String

def resultPointFromCSV (loadLocation : Dataset.Zones) (header row : List Cell) (indexColumn timeColumn : Nat)
    (expectedAgent : Int) : Except IntegrityError ResultPoint :=
  match (row[indexColumn]?).bind parseInt with
  | none => .error "The committed results artifact has an invalid result index."
  | some index =>
      if index < 0 then .error "The committed results artifact has an invalid result index."
      else
        match (row[timeColumn]?).bind (Dataset.parseResultTimestamp loadLocation) with
        | none => .error "The committed results artifact has an invalid result timestamp."
        | some time =>
            let value : ResultRow := header.zip (row.map resultScalar)
            match value.get? "Agent" with
            | some rawAgent =>
                if jsonInteger rawAgent = some expectedAgent then .ok { index, time, value }
                else .error "The committed results artifact has an invalid Agent value."
            | none => .ok { index, time, value }

/-! ## Queries -/

inductive ResultSort where
  | indexAsc
  | indexDesc
deriving DecidableEq, Repr

/-- The cursor of a page, as it is encoded into the response. -/
structure IndexedCursor where
  version : Nat
  scope : String
  binding : String
  value : Int
deriving DecidableEq, Repr

structure ResultQuery where
  runId : String
  agent : Int
  limit : Nat
  indexFrom : Option Int
  indexTo : Option Int
  fromTime : Option Instant
  toTime : Option Instant
  after : Option Int
  sort : ResultSort
  binding : String

def encodeIndexedCursor (scope binding : String) (value : Int) : IndexedCursor :=
  { version := 1, scope, binding, value }

def decodeIndexedCursor (cursor : IndexedCursor) (scope binding : String) : Except String Int :=
  if cursor.version ≠ 1 || cursor.scope ≠ scope || cursor.binding ≠ binding || cursor.value < 0 then
    .error "cursor is invalid for this query."
  else .ok cursor.value

/-- The last step of reading a request: the cursor is bound to the filters. -/
def ResultQuery.resume (query : ResultQuery) (cursor : IndexedCursor) : Except String ResultQuery :=
  (decodeIndexedCursor cursor "results.v1" query.binding).map fun after => { query with after := some after }

def Before (left right : Instant) : Bool :=
  left.seconds < right.seconds || (left.seconds = right.seconds && left.nanoseconds < right.nanoseconds)

def matchesResultFilter (point : ResultPoint) (query : ResultQuery) : Bool :=
  !((query.indexFrom.any fun bound => point.index < bound) ||
    (query.indexTo.any fun bound => bound < point.index) ||
    (query.fromTime.any fun bound => Before point.time bound) ||
    (query.toTime.any fun bound => Before bound point.time))

/-! ## The scan -/

structure ResultPage where
  runId : String
  agent : Int
  artifactSha : String
  items : List ResultRow
  hasMore : Bool
  nextCursor : Option IndexedCursor
  total : Nat
  windowStart : Option ResultScalar
  windowEnd : Option ResultScalar

/-- What the scan has kept so far. -/
structure Scan where
  total : Nat := 0
  items : List ResultRow := []
  hasMore : Bool := false
  descendingRing : List ResultPoint := []

/-- Takes one more point into account. -/
def Scan.step (query : ResultQuery) (scan : Scan) (point : ResultPoint) : Scan :=
  if !matchesResultFilter point query then scan
  else
    let scan := { scan with total := scan.total + 1 }
    match query.sort with
    | .indexAsc =>
        if query.after.any fun after => point.index ≤ after then scan
        else if scan.items.length < query.limit then { scan with items := scan.items ++ [point.value] }
        else { scan with hasMore := true }
    | .indexDesc =>
        if query.after.any fun after => after ≤ point.index then scan
        else if scan.descendingRing.length = query.limit then
          { scan with descendingRing := scan.descendingRing.tail ++ [point], hasMore := true }
        else { scan with descendingRing := scan.descendingRing ++ [point] }

structure Columns where
  header : List Cell
  indexColumn : Nat
  timeColumn : Nat

/-- The columns of a header without empty and repeated names. -/
def readColumns (header : List Cell) : Except IntegrityError Columns :=
  if header.any fun name => name = [] || name.contains '\x00' then
    .error "The committed results artifact has an invalid CSV header."
  else if ¬ header.Nodup then .error "The committed results artifact has duplicate CSV columns."
  else
    match header.idxOf? "OriginalRunningIndex".toList, header.idxOf? "Time".toList with
    | some indexColumn, some timeColumn => .ok { header, indexColumn, timeColumn }
    | _, _ => .error "The committed results artifact is missing result identity columns."

/-- Reads one record as a point. -/
def readPoint (loadLocation : Dataset.Zones) (columns : Columns) (agent : Int) (record : Record) :
    Except IntegrityError ResultPoint :=
  match record with
  | some row =>
      if row.length ≠ columns.header.length then
        .error "The committed results artifact contains an invalid CSV row."
      else resultPointFromCSV loadLocation columns.header row columns.indexColumn columns.timeColumn agent
  | none => .error "The committed results artifact contains an invalid CSV row."

/-- Reads the records one after the other. -/
def scanRecords (loadLocation : Dataset.Zones) (columns : Columns) (query : ResultQuery) (scan : Scan) :
    List Record -> Except IntegrityError Scan
  | [] => .ok scan
  | record :: rest => do
      let point ← readPoint loadLocation columns query.agent record
      scanRecords loadLocation columns query (scan.step query point) rest

/-- The rows the scan has kept, the ring from its newest point to its oldest. -/
def Scan.kept (scan : Scan) (query : ResultQuery) : List ResultRow :=
  match query.sort with
  | .indexAsc => scan.items
  | .indexDesc => scan.items ++ scan.descendingRing.reverse.map ResultPoint.value

/-- The page of what the scan has kept, with its window and its cursor. -/
def Scan.page (scan : Scan) (query : ResultQuery) (artifactSha : String) : Except IntegrityError ResultPage := do
  let items := scan.kept query
  let page : ResultPage :=
    { runId := query.runId, agent := query.agent, artifactSha, items, hasMore := scan.hasMore
      nextCursor := none, total := scan.total, windowStart := none, windowEnd := none }
  match items.head?, items.getLast? with
  | some first, some last =>
      let windowEnd := last.get? "OriginalRunningIndex"
      match windowEnd.bind jsonInteger with
      | none => .error "The committed results artifact has an invalid result index."
      | some lastIndex =>
          .ok { page with
            windowStart := first.get? "OriginalRunningIndex"
            windowEnd := windowEnd
            nextCursor :=
              if scan.hasMore then some (encodeIndexedCursor "results.v1" query.binding lastIndex) else none }
  | _, _ => .ok page

def readResultCSVPage (loadLocation : Dataset.Zones) (source : List Record) (query : ResultQuery)
    (artifactSha : String) : Except IntegrityError ResultPage :=
  match source with
  | some header :: rows => do
      let columns ← readColumns header
      let scan ← scanRecords loadLocation columns query {} rows
      scan.page query artifactSha
  | _ => .error "The committed results artifact has no CSV header."

/-- A client that follows the cursors, for at most so many pages. -/
def followCursors (loadLocation : Dataset.Zones) (source : List Record) (artifactSha : String) :
    Nat -> ResultQuery -> Except String (List ResultPage)
  | 0, _ => .error "The pages did not end."
  | fuel + 1, query => do
      let page ← readResultCSVPage loadLocation source query artifactSha
      match page.nextCursor with
      | none => return [page]
      | some cursor =>
          let next ← query.resume cursor
          return page :: (← followCursors loadLocation source artifactSha fuel next)

end Results
end FederatedIot
