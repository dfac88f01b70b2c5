import FederatedIot.Dataset.Timestamps
import FederatedIot.Foundation.CsvReader
import FederatedIot.Foundation.FileTree
import FederatedIot.Foundation.NumberText
import FederatedIot.Foundation.Utf8

namespace FederatedIot
namespace Dataset

open Foundation Foundation.Files Foundation.Reading

/-!
# The import of a source file

`ImportCSV` copies a stream into a temporary file of the dataset while it checks the
header and the rows, and gives the file its name when all of them are in order.  Two
deferred clean-ups take everything away again unless the file was committed.  A system
call may fail at any point, and the clean-ups remove what they find.
-/

/-! ## Errors and results -/

/-- An error of the importer, or one of the system with its context. -/
inductive ImportError where
  | refused (code field message : String)
  | system (context : String)
  deriving DecidableEq

structure ImportResult where
  storageKey : String
  sha256 : String
  sizeBytes : Nat
  timezone : String
  utcOffset : String
  rawRows : Nat
  invalidNumericRows : Nat
  nonMonotonicCount : Nat
  firstTimestamp : Option Instant
  lastTimestamp : Option Instant

/-- What the importer asks its surroundings for. -/
structure Host where
  loadLocation : Zones
  localLocation : Location
  localName : String
  now : Int
  sha256Hex : List UInt8 -> String
  temporaryNames : List String

/-! ## Paths -/

def validateDatasetID (datasetID : String) : Bool :=
  datasetID ≠ "" && datasetID ≠ "." && datasetID ≠ ".." &&
    !(datasetID.toList.any fun char => char = '\\' || char = '/')

def datasetIdInvalid : ImportError :=
  .refused "DATASET_ID_INVALID" "dataset_id" "Dataset ID must be one non-empty path-safe segment."

/-- The directory of a dataset. -/
def datasetDirectory (root : Path) (datasetID : String) : Path :=
  datasetID :: root

def sourceName : String := "source.csv"

/-- `SourcePath`, of an identifier that is valid. -/
def sourcePath (root : Path) (datasetID : String) : Path :=
  sourceName :: datasetDirectory root datasetID

def preflightDirectory (root : Path) (datasetID : String) : Path :=
  "preflight" :: datasetDirectory root datasetID

/-- `PreflightTemporaryPath` -/
def preflightTemporaryPath (root : Path) (datasetID : String) : Path :=
  "tmp" :: preflightDirectory root datasetID

/-! ## Time zones -/

/-- `formatOffset` -/
def formatOffset (seconds : Int) : String :=
  let twoDigits (value : Nat) : String := if value < 10 then "0" ++ toString value else toString value
  let magnitude := seconds.natAbs
  (if seconds < 0 then "-" else "+") ++ twoDigits (magnitude / 3600) ++ ":" ++ twoDigits (magnitude % 3600 / 60)

/-- `time.Parse("-07:00", value)` -/
def parseOffset (value : List Char) : Option Int :=
  if value.head? = some 'Z' then none
  else (readZone {} value).bind fun read => if read.2 = [] then read.1.zone else none

def fixedZone (offset : Int) : Location where
  lookup _ := { offset, start := 0, stop := 0 }

def resolveTimezone (host : Host) (requested : String) : Option (Location × String × String) :=
  let value := trimSpace requested.toList
  let offsetOf (location : Location) : String := formatOffset (location.lookup host.now).offset
  if value = [] then some (host.localLocation, host.localName, offsetOf host.localLocation)
  else
    match host.loadLocation (String.ofList value) with
    | some location => some (location, String.ofList value, offsetOf location)
    | none => (parseOffset value).map fun offset => (fixedZone offset, String.ofList value, formatOffset offset)

/-! ## Rows -/

def requiredColumns : List String :=
  ["Time_base", "dzdl_1", "dzdl_2", "dzdl_3", "dzdl_4", "zl", "sd"]

/-- The characters of a field. -/
def text (field : Csv.Field) : List Char :=
  let read := Utf8.decode .fresh field
  read.2 ++ (if read.1.missing = 0 then [] else [Utf8.replacement])

def headerMismatch (message : String) : ImportError :=
  .refused "CSV_HEADER_MISMATCH" "file" message

/-- The loop over the columns of a header of the right length. -/
def validateColumns (seen : List Csv.Field) : List Csv.Field -> List String -> Except ImportError Unit
  | value :: rest, required :: others =>
      if value ∈ seen then .error (.refused "CSV_DUPLICATE_COLUMN" "file" "CSV header contains a duplicate column.")
      else if value ≠ Utf8.encode required.toList then
        .error (headerMismatch "CSV column names and order must match the approved seven-column schema.")
      else validateColumns (value :: seen) rest others
  | _, _ => .ok ()

def validateHeader (header : List Csv.Field) : Except ImportError Unit :=
  if header.length ≠ requiredColumns.length then
    .error (headerMismatch "CSV must contain exactly the approved seven columns.")
  else validateColumns [] header requiredColumns

/-- Whether a field is a finite number. -/
def isNumeric (field : Csv.Field) : Bool :=
  match NumberText.parseFloat (trimSpace (text field)) with
  | some (.finite _) => true
  | _ => false

def isBefore (first second : Instant) : Bool :=
  first.seconds < second.seconds || (first.seconds = second.seconds && first.nanoseconds < second.nanoseconds)

/-- One row after those before it. -/
def importRow (location : Location) (result : ImportResult) (record : List Csv.Field) :
    Except ImportError ImportResult :=
  if record.length ≠ requiredColumns.length then
    .error (headerMismatch "Every CSV row must contain exactly seven columns.")
  else
    match (record.head?.map text).bind fun value => parseTimestamp value location with
    | none => .error (.refused "TIME_PARSE_FAILED" "Time_base" "Time_base contains an unsupported timestamp.")
    | some parsed =>
        .ok { result with
              rawRows := result.rawRows + 1
              nonMonotonicCount :=
                if result.lastTimestamp.any (isBefore parsed) then result.nonMonotonicCount + 1
                else result.nonMonotonicCount
              firstTimestamp := result.firstTimestamp.or (some parsed)
              lastTimestamp := some parsed
              invalidNumericRows :=
                if record.tail.all isNumeric then result.invalidNumericRows else result.invalidNumericRows + 1 }

/-- The loop over the rows. -/
def importRows (location : Location) (result : ImportResult) (reader : Buffered UInt8) :
    Except ImportError ImportResult × Buffered UInt8 :=
  match _read : Csv.readRecord none reader with
  | (.ended, next) => (.ok result, next)
  | (.failed, next) => (.error (.refused "CSV_PARSE_FAILED" "file" "CSV contains an invalid row."), next)
  | (.record record, next) =>
      match importRow location result record with
      | .error error => (.error error, next)
      | .ok extended => importRows location extended next
termination_by reader.left
decreasing_by
  have fewer := @Csv.readRecord_left none reader record (by rw [_read])
  rwa [_read] at fewer

def csvEmpty (message : String) : ImportError :=
  .refused "CSV_EMPTY" "file" message

/-- There is one row at least. -/
def requireRow (counted : ImportResult) : Except ImportError ImportResult :=
  if counted.rawRows = 0 then .error (csvEmpty "CSV must contain at least one data row.") else .ok counted

/-- The header and the rows. -/
def importRecords (location : Location) (result : ImportResult) (reader : Buffered UInt8) :
    Except ImportError ImportResult × Buffered UInt8 :=
  match Csv.readRecord none reader with
  | (.ended, next) =>
      (.error (csvEmpty "CSV must include the required header and at least one data row."), next)
  | (.failed, next) => (.error (.refused "CSV_PARSE_FAILED" "file" "CSV header could not be parsed."), next)
  | (.record header, next) =>
      match validateHeader header with
      | .error error => (.error error, next)
      | .ok () =>
          let rows := importRows location result next
          (rows.1.bind requireRow, rows.2)

/-! ## System calls -/

abbrev ImportTask := Task (List UInt8) ImportError

abbrev Tree := FileTree (List UInt8)

/-- `os.Remove`, whose error is ignored. -/
def remove (path : Path) (tree : Tree) : Tree :=
  match tree.get path with
  | some (.file _) => tree.erase path
  | some .directory => if path = [] || tree.hasChild path then tree else tree.erase path
  | none => tree

def isDirectory (tree : Tree) (path : Path) : Bool :=
  match tree.get path with
  | some .directory => true
  | _ => false

/-- `os.Mkdir` -/
def mkdir (path : Path) (tree : Tree) : Option Tree :=
  if (tree.get path).isNone && isDirectory tree path.tail then some (tree.put path .directory) else none

/-- `os.MkdirAll` -/
def mkdirAll (error : ImportError) : Path -> ImportTask Unit
  | [] => pure ()
  | name :: parent => do
      let present ← Task.look error fun tree => some (isDirectory tree (name :: parent))
      if present then return ()
      else
        mkdirAll error parent
        Task.call error (mkdir (name :: parent))

def chmod (error : ImportError) (path : Path) : ImportTask Unit :=
  Task.call error fun tree => if (tree.get path).isSome then some tree else none

def makeDirectory (error : ImportError) (path : Path) : ImportTask Unit := do
  mkdirAll error path
  chmod error path

/-- `os.CreateTemp`, which tries one name after the other. -/
def createTemp (error : ImportError) (directory : Path) (names : List String) : ImportTask Path := do
  let name ← Task.look error fun tree =>
    (names.map fun token => ".upload-" ++ token ++ ".tmp").find? fun name => (tree.get (name :: directory)).isNone
  Task.call error fun tree =>
    if isDirectory tree directory then some (tree.put (name :: directory) (.file [])) else none
  return name :: directory

/-- A call on the open file that does not change its bytes. -/
def onFile (error : ImportError) : ImportTask Unit :=
  Task.call error some

def fileSize (error : ImportError) (path : Path) : ImportTask Nat :=
  Task.look error fun tree =>
    match tree.get path with
    | some (.file bytes) => some bytes.length
    | _ => none

/-- `os.Rename` of a file. -/
def rename (error : ImportError) (source target : Path) : ImportTask Unit :=
  Task.call error fun tree =>
    match tree.get source with
    | some (.file bytes) =>
        if isDirectory tree target || !isDirectory tree target.tail then none
        else some ((tree.erase source).put target (.file bytes))
    | _ => none

/-! ## The import -/

def removeImportedDataset (root : Path) (datasetID : String) (tree : Tree) : Tree :=
  remove (datasetDirectory root datasetID) (remove (preflightDirectory root datasetID)
    (remove (preflightTemporaryPath root datasetID) (remove (sourcePath root datasetID) tree)))

/-- The request for an import. -/
structure ImportRequest where
  source : Source UInt8
  writes : List (Option Nat)
  root : Path
  datasetID : String
  timezone : String
  maxBytes : Int64

namespace ImportRequest

variable (request : ImportRequest)

def directory : Path :=
  datasetDirectory request.root request.datasetID

def target : Path :=
  sourcePath request.root request.datasetID

/-- The reader over the limited stream and the empty file. -/
def reader : Buffered UInt8 :=
  { tee := { source := request.source, remaining := (request.maxBytes + 1).toInt, writes := request.writes
             written := [], digested := [] }
    buffer := []
    error := none }

end ImportRequest

/-- `ImportCSV` up to the check for an existing source. -/
def prepareImport (host : Host) (request : ImportRequest) : ImportTask (Location × String × String) := do
  if request.maxBytes.toInt ≤ 0 then Task.throw (.system "upload limit must be positive")
  else
    match resolveTimezone host request.timezone with
    | none => Task.throw (.refused "TIME_PARSE_FAILED" "timezone" "Timezone must be an IANA name or UTC offset.")
    | some zone =>
        if validateDatasetID request.datasetID then
          makeDirectory (.system "create dataset root") request.root
          makeDirectory (.system "create dataset directory") request.directory
          let present ← Task.look (.system "inspect dataset source") fun tree => some (tree.get request.target).isSome
          if present then
            Task.throw (.refused "DATASET_SOURCE_EXISTS" "dataset_id" "Dataset source already exists.")
          else return zone
        else Task.throw datasetIdInvalid

/-- The result before the first row. -/
def emptyResult (request : ImportRequest) (zone : Location × String × String) : ImportResult where
  storageKey := "datasets/" ++ request.datasetID ++ "/" ++ sourceName
  sha256 := ""
  sizeBytes := 0
  timezone := zone.2.1
  utcOffset := zone.2.2
  rawRows := 0
  invalidNumericRows := 0
  nonMonotonicCount := 0
  firstTimestamp := none
  lastTimestamp := none

/-- From the temporary file on. -/
def receive (host : Host) (request : ImportRequest) (zone : Location × String × String) (temporary : Path) :
    ImportTask ImportResult := do
  chmod (.system "set dataset source permissions") temporary
  let read := importRecords zone.1 (emptyResult request zone) request.reader
  Task.update fun tree => tree.put temporary (.file read.2.tee.written)
  match read.1 with
  | .error error => Task.throw error
  | .ok counted =>
      onFile (.system "inspect temporary upload")
      let size ← fileSize (.system "stat temporary upload") temporary
      if request.maxBytes.toInt < size then
        Task.throw (.refused "UPLOAD_TOO_LARGE" "file" "Upload exceeds the configured maximum size.")
      else
        onFile (.system "sync temporary upload")
        onFile (.system "close temporary upload")
        rename (.system "atomically commit source upload") temporary request.target
        Task.commit
        return { counted with sizeBytes := size, sha256 := host.sha256Hex read.2.tee.digested }

/-- `ImportCSV` after the check, within the scopes of the two clean-ups. -/
def storeImport (host : Host) (request : ImportRequest) (zone : Location × String × String) :
    ImportTask ImportResult := do
  Task.begun
  Task.guarded (removeImportedDataset request.root request.datasetID) do
    makeDirectory (.system "create dataset preflight directory") (preflightDirectory request.root request.datasetID)
    makeDirectory (.system "create dataset preflight temporary directory")
      (preflightTemporaryPath request.root request.datasetID)
    let temporary ← createTemp (.system "create dataset temporary file") request.directory host.temporaryNames
    Task.guarded (remove temporary) (receive host request zone temporary)

/-- `ImportCSV` -/
def importCSV (host : Host) (request : ImportRequest) : ImportTask ImportResult := do
  let zone ← prepareImport host request
  storeImport host request zone

end Dataset
end FederatedIot
