import FederatedIot.Foundation.FileTree
import FederatedIot.Foundation.JsonOrder
import FederatedIot.Foundation.Transition
import FederatedIot.Foundation.Utf8
import FederatedIot.Foundation.Work
import FederatedIot.Worker.SafePaths

namespace FederatedIot
namespace Worker
namespace Artifacts

open Foundation Foundation.Outcome Foundation.Files Foundation.Work Foundation.JsonText

/-!
# The writer of artifacts

`AtomicArtifactWriter` stages the files of an attempt in a private directory, lists
them in a manifest, and publishes the directory by one rename.  Three things can drift
apart: the files, the inventory in memory, and the manifest that was validated.

Every system call may fail.  A write puts its bytes into a temporary file first and
moves it to its place, so that a failure before the move leaves nothing behind, and one
after it leaves a file that the inventory does not know.
-/

abbrev Bytes := List UInt8

abbrev Tree := FileTree Bytes

/-- The bytes of the file at a path. -/
def content? (tree : Tree) (path : Path) : Option Bytes :=
  match tree.get path with
  | some (.file data) => some data
  | _ => none

/-- An empty directory. -/
def emptyTree : Tree where
  entries := []
  distinct := List.nodup_nil

/-- The entries that an interrupted removal has left. -/
def keepEntries (kept : Path -> Bool) (tree : Tree) : Tree where
  entries := tree.entries.filter fun entry => kept entry.1
  distinct := tree.distinct.sublist (List.filter_sublist.map Prod.fst)

/-! ## The manifest -/

/-- `ArtifactItem` -/
structure ArtifactItem where
  name : List Char
  mediaType : String
  sizeBytes : Nat
  sha256 : String
  required : Bool
  deriving DecidableEq

/-- The payload of `artifact.manifest.v1` -/
structure Manifest where
  schemaVersion : String
  runId : String
  runMode : String
  snapshotSha256 : String
  resultSchemaVersion : String
  createdAt : String
  items : List ArtifactItem
  deriving DecidableEq

/-- `ARTIFACT_MANIFEST_VERSION` -/
def artifactManifestVersion : String :=
  "artifact.manifest.v1"

/-- `POINT_RESULT_VERSION` -/
def pointResultVersion : String :=
  "point-result.v1"

def manifestName : List Char :=
  "artifact_manifest.json".toList

/-- `REQUIRED_ARTIFACT_NAMES` -/
def requiredArtifactNames : List String :=
  ["run_manifest.json", "preprocessing_summary.json", "agent_partition_summary.csv", "feature_schema.json",
    "anchor_summary.json", "metrics.csv", "results_agent_1.csv", "results_agent_2.csv", "results_agent_3.csv",
    "alarms.csv", "diagnostics.json"]

/-! ### The texts of a manifest -/

def isTokenChar (char : Char) : Bool :=
  Queue.isAsciiAlphanumeric char || char ∈ ['!', '#', '$', '&', '^', '_', '.', '+', '-']

def isToken (text : List Char) : Bool :=
  !text.isEmpty && text.all isTokenChar

def isTokenPair (mark : Char) (text : List Char) : Bool :=
  match text.splitOn mark with
  | [left, right] => isToken left && isToken right
  | _ => false

/-- `_MEDIA_TYPE_RE`: two tokens with a slash between them, and pairs of tokens with an
equals sign, each after a semicolon. -/
def matchesMediaType (value : String) : Bool :=
  match value.toList.splitOn ';' with
  | [] => false
  | kind :: attributes => isTokenPair '/' kind && attributes.all (isTokenPair '=')

/-- The text has a digit wherever the template has `d`, and is the template elsewhere. -/
def matchesTemplate : List Char -> List Char -> Bool
  | [], [] => true
  | mark :: template, char :: rest =>
      (if mark = 'd' then '0' ≤ char && char ≤ '9' else mark = char) && matchesTemplate template rest
  | _, _ => false

/-- `_CREATED_AT_RE` -/
def matchesCreatedAt (value : String) : Bool :=
  matchesTemplate "dddd-dd-ddTdd:dd:dd.ddd".toList (value.toList.take 23) &&
    match value.toList.drop 23 with
    | [] => false
    | sign :: offset =>
        (sign = 'Z' && offset.isEmpty) || ((sign = '+' || sign = '-') && matchesTemplate "dd:dd".toList offset)

/-! ### The text of a manifest -/

/-- The escape of a character in `json.dumps` without `ensure_ascii`. -/
def dumpChar (char : Char) : List Char :=
  if char = '"' then ['\\', '"']
  else if char = '\\' then ['\\', '\\']
  else if char = '\n' then ['\\', 'n']
  else if char = '\r' then ['\\', 'r']
  else if char = '\t' then ['\\', 't']
  else if char.toNat = 8 then ['\\', 'b']
  else if char.toNat = 12 then ['\\', 'f']
  else if char.toNat < 32 then Json.hexEscape char.toNat
  else [char]

def dumpString (value : List Char) : List Char :=
  '"' :: (value.flatMap dumpChar ++ ['"'])

/-- A new line at a depth, with two spaces for each level. -/
def newLine (depth : Nat) : List Char :=
  '\n' :: List.replicate (2 * depth) ' '

mutual

/-- The text of a document at a depth.  Its numbers are written as they are. -/
def dumpAt (depth : Nat) : Document (List Char) -> List Char
  | .null => ['n', 'u', 'l', 'l']
  | .bool true => ['t', 'r', 'u', 'e']
  | .bool false => ['f', 'a', 'l', 's', 'e']
  | .number value => value
  | .string value => dumpString value
  | .array [] => ['[', ']']
  | .array (item :: rest) => '[' :: (dumpItems (depth + 1) (item :: rest) ++ newLine depth ++ [']'])
  | .object [] => ['\x7b', '\x7d']
  | .object (member :: rest) => '\x7b' :: (dumpMembers (depth + 1) (member :: rest) ++ newLine depth ++ ['\x7d'])

def dumpItems (depth : Nat) : List (Document (List Char)) -> List Char
  | [] => []
  | [last] => newLine depth ++ dumpAt depth last
  | item :: rest => newLine depth ++ dumpAt depth item ++ ',' :: dumpItems depth rest

def dumpMembers (depth : Nat) : List (List Char × Document (List Char)) -> List Char
  | [] => []
  | [(name, value)] => newLine depth ++ dumpString name ++ ':' :: ' ' :: dumpAt depth value
  | (name, value) :: rest =>
      newLine depth ++ dumpString name ++ ':' :: ' ' :: (dumpAt depth value ++ ',' :: dumpMembers depth rest)

end

/-- `json.dumps` with `ensure_ascii=False`, `indent=2` and `sort_keys=True` -/
def dumps (payload : Document (List Char)) : List Char :=
  dumpAt 0 (payload.sort byText)

/-- The bytes that `write_json` writes. -/
def jsonBytes (payload : Document (List Char)) : Bytes :=
  Utf8.encode (dumps payload ++ ['\n'])

/-- `to_dict` -/
def ArtifactItem.toDict (item : ArtifactItem) : Document (List Char) :=
  .object
    [("name".toList, .string item.name), ("media_type".toList, .string item.mediaType.toList),
      ("size_bytes".toList, .number (Nat.toDigits 10 item.sizeBytes)), ("sha256".toList, .string item.sha256.toList),
      ("required".toList, .bool item.required)]

def Manifest.document (manifest : Manifest) : Document (List Char) :=
  .object
    [("schema_version".toList, .string manifest.schemaVersion.toList), ("run_id".toList, .string manifest.runId.toList),
      ("run_mode".toList, .string manifest.runMode.toList),
      ("snapshot_sha256".toList, .string manifest.snapshotSha256.toList),
      ("result_schema_version".toList, .string manifest.resultSchemaVersion.toList),
      ("created_at".toList, .string manifest.createdAt.toList),
      ("items".toList, .array (manifest.items.map ArtifactItem.toDict))]

/-! ## The host -/

/-- The process and the hash function. -/
structure Host where
  pid : Nat
  sha256Hex : Bytes -> String
  digest : forall data, Queue.isSha256Hex (sha256Hex data) = true

/-- The system calls of the writer.  The directories above a file are made from the
outermost one. -/
inductive Stage where
  | parents (depth : Nat)
  | parentMode
  | probe
  | openTemp
  | tempMode
  | handle
  | data
  | replace
  | targetMode
  | measure
  | digest
  | closeTemp
  | unlinkTemp
  | publishParent
  | publish
  | remove
  deriving DecidableEq

/-- What goes wrong in one call: the system calls that fail, the files that cannot be
read, how many bytes a failing write has written, and what a failing removal leaves. -/
structure Faults where
  fails : Stage -> Bool
  unread : List Char -> Bool
  written : Nat
  kept : Path -> Bool

/-- Nothing goes wrong. -/
def noFaults : Faults where
  fails := fun _ => false
  unread := fun _ => false
  written := 0
  kept := fun _ => true

inductive Failure where
  | contract (failure : ContractFailure)
  /-- `WorkerFailure` with the code `ARTIFACT_WRITE_FAILED` -/
  | worker (message : String)
  /-- An `OSError` that nothing catches. -/
  | system
  deriving DecidableEq

/-- The entry of a name, whose last part comes first. -/
def place (name : List Char) : Path :=
  ((PurePosixPath.parse name).parts.map String.ofList).reverse

/-! ## Validation -/

/-- `_parse_item` -/
def parseItem (item : ArtifactItem) (index : Nat) : Except ContractFailure ArtifactItem := do
  let field := "artifact.manifest.v1.items[" ++ toString index ++ "]"
  let name ← safeLogicalPath item.name (field ++ ".name")
  require (matchesMediaType item.mediaType = true) ⟨field ++ ".media_type must be a valid media type."⟩
  require (Queue.isSha256Hex item.sha256 = true) ⟨field ++ ".sha256 must be a 64-character lowercase SHA-256 string."⟩
  return { item with name := name }

/-- The required names that no required item has. -/
def absentNames (items : List ArtifactItem) : List String :=
  requiredArtifactNames.filter fun name => !items.any fun item => item.name = name.toList && item.required

/-- `validate_artifact_manifest` without the files -/
def manifestItems (manifest : Manifest) : Except ContractFailure (List ArtifactItem) := do
  require (manifest.schemaVersion = artifactManifestVersion) ⟨"Unsupported artifact manifest schema version."⟩
  require (Queue.isIdentifier manifest.runId = true)
    ⟨"artifact.manifest.v1.run_id must be a safe opaque identifier."⟩
  require (manifest.runMode ∈ ["REFERENCE", "CUSTOM"])
    ⟨"artifact.manifest.v1.run_mode must be REFERENCE or CUSTOM."⟩
  require (Queue.isSha256Hex manifest.snapshotSha256 = true)
    ⟨"artifact.manifest.v1.snapshot_sha256 must be a 64-character lowercase SHA-256 string."⟩
  require (manifest.resultSchemaVersion = pointResultVersion)
    ⟨"artifact.manifest.v1.result_schema_version must be point-result.v1."⟩
  require (matchesCreatedAt manifest.createdAt = true)
    ⟨"artifact.manifest.v1.created_at must be an ISO-8601 timestamp with milliseconds."⟩
  let items ← manifest.items.zipIdx.mapM fun entry => parseItem entry.1 entry.2
  require (items.map ArtifactItem.name).Nodup ⟨"artifact.manifest.v1 item names must be unique."⟩
  require (manifestName ∉ items.map ArtifactItem.name)
    ⟨"artifact.manifest.v1 must not list artifact_manifest.json itself."⟩
  require (absentNames items = [])
    ⟨"artifact.manifest.v1 is missing required artifacts: " ++ ", ".intercalate (absentNames items) ++ "."⟩
  return items

variable (host : Host) (faults : Faults)

/-- The checks of one file. -/
def verifyFile (tree : Tree) (item : ArtifactItem) : Except Failure Unit :=
  let artifact := "artifact " ++ String.ofList item.name
  match tree.get (place item.name) with
  | none => throw (.contract ⟨artifact ++ " escaped the committed root."⟩)
  | some .directory => throw (.contract ⟨artifact ++ " is not a regular committed file."⟩)
  | some (.file data) => do
      require (faults.unread item.name = false) .system
      require (data.length = item.sizeBytes) (.contract ⟨artifact ++ " size does not match the manifest."⟩)
      require (host.sha256Hex data = item.sha256) (.contract ⟨artifact ++ " SHA-256 does not match the manifest."⟩)

/-- `_verify_committed_files` -/
def verifyCommittedFiles (items : List ArtifactItem) (committedRoot : Option Tree) : Except Failure Unit :=
  match committedRoot with
  | none => throw (.contract ⟨"artifact committed root does not exist or is not a directory."⟩)
  | some tree => items.forM (verifyFile host faults tree)

/-- `validate_artifact_manifest` with the directory of the files -/
def validateArtifactManifest (manifest : Manifest) (committedRoot : Option Tree) :
    Except Failure (List ArtifactItem) := do
  let items ← (manifestItems manifest).mapError Failure.contract
  verifyCommittedFiles host faults items committedRoot
  return items

/-! ## Writing a file -/

/-- A system call without an effect of its own. -/
def attempt {State : Type} (stage : Stage) : EStateM Failure State Unit :=
  refuse (faults.fails stage = true) .system

/-- The directories down to a path, the outermost one first. -/
def directories : Path -> List Path
  | [] => []
  | name :: parent => directories parent ++ [name :: parent]

/-- One step of `mkdir` with `parents` and `exist_ok`. -/
def makeDirectory (path : Path) : EStateM Failure Tree Unit := fun tree =>
  match tree.get path with
  | some .directory => .ok () tree
  | some (.file _) => .error .system tree
  | none => .ok () (tree.put path .directory)

def makeDirectories : Nat -> List Path -> EStateM Failure Tree Unit
  | _, [] => pure ()
  | depth, path :: rest => do
      attempt faults (.parents depth)
      makeDirectory path
      makeDirectories (depth + 1) rest

/-- The temporary names beside a path. -/
def temporaryPath (sequence : Nat) : Path -> Path
  | [] => []
  | name :: parent => (name ++ ".writing." ++ toString host.pid ++ "." ++ toString sequence) :: parent

/-- `_reserve_temp_path` -/
def reserveTempPath (path : Path) (tree : Tree) : Option Path :=
  ((List.range 100).map fun sequence => temporaryPath host sequence path).find? fun candidate =>
    (tree.get candidate).isNone

/-- The tree, with `file_descriptor` and `temp_created`. -/
structure Attempt where
  tree : Tree
  descriptor : Bool
  created : Bool

/-- The data reach the temporary file, or a part of them does. -/
def fillTemp (tempPath : Path) (data : Bytes) : EStateM Failure Attempt Unit := fun state =>
  if faults.fails .data then
    .error .system { state with tree := state.tree.put tempPath (.file (data.take faults.written)) }
  else .ok () { state with tree := state.tree.put tempPath (.file data) }

/-- `os.replace` of a file -/
def replaceFile (tempPath path : Path) : EStateM Failure Attempt Unit := fun state =>
  match content? state.tree tempPath with
  | none => .error .system state
  | some data =>
      if state.tree.get path = some .directory then .error .system state
      else .ok () { state with tree := (state.tree.erase tempPath).put path (.file data) }

/-- The body of the `try`. -/
def placeFile (tempPath path : Path) (data : Bytes) : EStateM Failure Attempt Unit := do
  attempt faults .openTemp
  modify fun state => { tree := state.tree.put tempPath (.file []), descriptor := true, created := true }
  attempt faults .tempMode
  attempt faults .handle
  modify fun state => { state with descriptor := false }
  fillTemp faults tempPath data
  attempt faults .replace
  replaceFile tempPath path
  attempt faults .targetMode

/-- The removal of the temporary file, which may be gone. -/
def unlinkTemp (tempPath : Path) : EStateM Failure Attempt Unit := fun state =>
  if (state.tree.get tempPath).isNone then .ok () state
  else if faults.fails .unlinkTemp then .error .system state
  else .ok () { state with tree := state.tree.erase tempPath }

/-- The clean-up after a failure. -/
def discardTemp (tempPath : Path) : EStateM Failure Attempt Unit := do
  let state ← MonadState.get
  refuse (state.descriptor = true ∧ faults.fails .closeTemp = true) .system
  if state.created then unlinkTemp faults tempPath else pure ()

/-- `write_bytes` from the directories on to the file in its place -/
def writeFile (name : List Char) (data : Bytes) : EStateM Failure Tree Unit := do
  let path := place name
  makeDirectories faults 0 (directories path.tail)
  attempt faults .parentMode
  attempt faults .probe
  let tree ← MonadState.get
  match reserveTempPath host path tree with
  | none => throw (.worker "Could not reserve a local temporary file name.")
  | some tempPath =>
      within (fun tree => ({ tree := tree, descriptor := false, created := false } : Attempt))
        (fun state _ => state.tree)
        (caught (.worker ("Could not write artifact " ++ String.ofList name ++ ".")) (discardTemp faults tempPath)
          (placeFile faults tempPath path data))

/-! ## The writer -/

/-- The items by name, in the order in which the names came. -/
structure Inventory where
  entries : List ArtifactItem
  distinct : (entries.map ArtifactItem.name).Nodup

namespace Inventory

def empty : Inventory where
  entries := []
  distinct := List.nodup_nil

def contains (items : Inventory) (name : List Char) : Bool :=
  items.entries.any fun item => item.name = name

def sorted (items : Inventory) : List ArtifactItem :=
  items.entries.insertionSort fun first second => textLe first.name second.name = true

/-- Replace the item of its name, or add it at the end. -/
def recordEntry (item : ArtifactItem) : List ArtifactItem -> List ArtifactItem
  | [] => [item]
  | head :: rest => if head.name = item.name then item :: rest else head :: recordEntry item rest

theorem recordEntry_names (item : ArtifactItem) (entries : List ArtifactItem) :
    (recordEntry item entries).map ArtifactItem.name =
      if item.name ∈ entries.map ArtifactItem.name then entries.map ArtifactItem.name
      else entries.map ArtifactItem.name ++ [item.name] := by
  induction entries with
  | nil => rfl
  | cons head rest inductionHypothesis =>
      rw [recordEntry]
      by_cases same : head.name = item.name
      · rw [if_pos same, List.map_cons, List.map_cons, if_pos (by rw [same]; exact List.mem_cons_self), same]
      · rw [if_neg same, List.map_cons, inductionHypothesis, List.map_cons]
        by_cases member : item.name ∈ rest.map ArtifactItem.name
        · rw [if_pos member, if_pos (List.mem_cons_of_mem _ member)]
        · have fresh : item.name ∉ head.name :: rest.map ArtifactItem.name :=
            List.not_mem_cons_of_ne_of_not_mem (Ne.symm same) member
          rw [if_neg member, if_neg fresh]
          rfl

def record (items : Inventory) (item : ArtifactItem) : Inventory where
  entries := recordEntry item items.entries
  distinct := by
    rw [recordEntry_names]
    split
    · exact items.distinct
    · next absent =>
        rw [← List.concat_eq_append]
        exact items.distinct.concat absent

end Inventory

structure Writer where
  tmpDirectory : Option Tree
  committedDirectory : Option Tree
  items : Inventory
  manifestPayload : Option Manifest
  closed : Bool

/-- A writer that was just made, before anything is published. -/
def Writer.opened : Writer where
  tmpDirectory := some emptyTree
  committedDirectory := none
  items := .empty
  manifestPayload := none
  closed := false

abbrev Call (Value : Type) := EStateM Failure Writer Value

def alreadyClosed : Failure :=
  .worker "Artifact writer is already closed."

/-- What `_tmp_directory` leads to, which a write makes anew when it is gone. -/
def Writer.tree (writer : Writer) : Tree :=
  writer.tmpDirectory.getD emptyTree

/-- `_safe_target` -/
def safeTarget (name : List Char) : Call Unit :=
  match safeLogicalPath name "artifact name" with
  | .ok _ => pure ()
  | .error failure => throw (.worker failure.message)

/-- The item of a file with these bytes. -/
def itemOf (name : List Char) (data : Bytes) (mediaType : String) (required : Bool) : ArtifactItem where
  name := name
  mediaType := mediaType
  sizeBytes := data.length
  sha256 := host.sha256Hex data
  required := required

/-- The item of the file that lies in its place. -/
def measuredItem (name : List Char) (mediaType : String) (required : Bool) : Call ArtifactItem := do
  attempt faults .measure
  attempt faults .digest
  let writer ← MonadState.get
  match content? writer.tree (place name) with
  | none => throw .system
  | some data => pure (itemOf host name data mediaType required)

/-- `write_bytes` -/
def writeBytes (name : List Char) (data : Bytes) (mediaType : String) (required : Bool) : Call ArtifactItem := do
  let writer ← MonadState.get
  refuse (writer.closed = true) alreadyClosed
  safeTarget name
  within Writer.tree (fun tree writer => { writer with tmpDirectory := some tree }) (writeFile host faults name data)
  let item ← measuredItem host faults name mediaType required
  modify fun writer => { writer with items := writer.items.record item }
  pure item

/-- `write_json` -/
def writeJson (name : List Char) (payload : Document (List Char)) (required : Bool) : Call ArtifactItem :=
  writeBytes host faults name (jsonBytes payload) "application/json" required

/-- `validate_artifact_manifest` on the staged files, with a contract failure reported as
one of the writer -/
def validateStaged (payload : Manifest) : Call Unit := fun writer =>
  match validateArtifactManifest host faults payload writer.tmpDirectory with
  | .ok _ => .ok () writer
  | .error (.contract failure) => .error (.worker failure.message) writer
  | .error failure => .error failure writer

/-- `build_manifest`, with the time of the clock -/
def buildManifest (runId runMode snapshotSha256 createdAt : String) : Call Manifest := do
  let writer ← MonadState.get
  refuse (writer.items.contains manifestName = true) (.worker "Artifact manifest was already written.")
  let payload : Manifest :=
    { schemaVersion := artifactManifestVersion, runId := runId, runMode := runMode, snapshotSha256 := snapshotSha256
      resultSchemaVersion := pointResultVersion, createdAt := createdAt, items := writer.items.sorted }
  validateStaged host faults payload
  let _ ← writeJson host faults manifestName payload.document true
  modify fun writer => { writer with manifestPayload := some payload }
  pure payload

/-- `os.replace` of the staged directory -/
def publishDirectory : Call Unit := do
  refuse (faults.fails .publish = true) (.worker "Artifact directory rename was not atomic or failed.")
  modify fun writer => { writer with tmpDirectory := none, committedDirectory := writer.tmpDirectory }

def manifestRequired : Failure :=
  .worker "Artifact manifest is required before commit."

/-- `commit` -/
def commit : Call (List ArtifactItem) := do
  let writer ← MonadState.get
  refuse (writer.closed = true) alreadyClosed
  refuse (writer.items.contains manifestName = false) manifestRequired
  match writer.manifestPayload with
  | none => throw manifestRequired
  | some payload => do
      refuse (writer.committedDirectory.isSome = true) (.worker "Committed artifact directory already exists.")
      validateStaged host faults payload
      attempt faults .publishParent
      publishDirectory faults
      modify fun writer => { writer with closed := true }
      pure writer.items.sorted

/-- `shutil.rmtree` of the staged directory -/
def removeStaged : Call Unit := fun writer =>
  match writer.tmpDirectory with
  | none => .ok () writer
  | some tree =>
      if faults.fails .remove then .error .system { writer with tmpDirectory := some (keepEntries faults.kept tree) }
      else .ok () { writer with tmpDirectory := none }

/-- `abandon` -/
def abandon : Call Unit := do
  let writer ← MonadState.get
  if writer.closed then pure ()
  else do
    removeStaged faults
    modify fun writer => { writer with closed := true }

/-! ## Sessions -/

/-- The calls of a writer. -/
inductive Request where
  | writeJson (name : List Char) (payload : Document (List Char)) (required : Bool)
  | writeBytes (name : List Char) (data : Bytes) (mediaType : String) (required : Bool)
  | buildManifest (runId runMode snapshotSha256 createdAt : String)
  | commit
  | abandon

/-- What a call returns. -/
inductive Answer where
  | item (item : ArtifactItem)
  | manifest (manifest : Manifest)
  | items (items : List ArtifactItem)
  | nothing
  deriving DecidableEq

def perform : Request -> Call Answer
  | .writeJson name payload required => Answer.item <$> writeJson host faults name payload required
  | .writeBytes name data mediaType required => Answer.item <$> writeBytes host faults name data mediaType required
  | .buildManifest runId runMode snapshotSha256 createdAt =>
      Answer.manifest <$> buildManifest host faults runId runMode snapshotSha256 createdAt
  | .commit => Answer.items <$> commit host faults
  | .abandon => (fun _ => Answer.nothing) <$> abandon faults

/-- A call with its answer, or with its failure. -/
structure Entry where
  request : Request
  answer : Except Failure Answer

/-- A writer and what was called, the last call first. -/
structure Session where
  writer : Writer
  log : List Entry

def Session.opened : Session where
  writer := .opened
  log := []

def Session.call (session : Session) (faults : Faults) (request : Request) : Session :=
  match perform host faults request session.writer with
  | .ok answer writer => { writer := writer, log := { request := request, answer := .ok answer } :: session.log }
  | .error failure writer => { writer := writer, log := { request := request, answer := .error failure } :: session.log }

/-- The sessions with one writer, in which every call may go wrong in its own way. -/
def sessions : System Session (Faults × Request) where
  initial := fun session => session = .opened
  step := fun source label target => target = source.call host label.1 label.2

end Artifacts
end Worker
end FederatedIot
