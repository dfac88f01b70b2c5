import FederatedIot.Foundation.Outcome
import FederatedIot.Foundation.Relation
import FederatedIot.Foundation.Json

namespace FederatedIot
namespace Queue

open Foundation

/-!
# The control-plane schema

The tables of the control plane, with the columns that the queue transactions
read or write, and the constraints that the migrations declare on them.  A
text column with a closed set of values is an inductive type whose `text` is
the stored spelling, so its membership `CHECK` holds by construction.
Instants are microseconds on the database clock.

A `Store` is a set of tables that satisfies every key, foreign key, partial
index and `CHECK`.  Each statement of a transaction ends in such a store or
raises, as PostgreSQL enforces the constraints statement by statement.
Deferred constraints do not occur in the schema.
-/

/-- Microseconds since an arbitrary origin. -/
abbrev Instant := Int

/-- `make_interval(secs => seconds)`. -/
def seconds (count : Int) : Int :=
  count * 1000000

inductive DatasetStatus where
  | uploading | validating | valid | invalid
  deriving DecidableEq, Repr

inductive SimulationStatus where
  | created | validating | queued | running | cancelling | generatingArtifacts
  | completed | cancelled | failed | failedRecoverable
  deriving DecidableEq, Repr

inductive Stage where
  | preprocessing | localTraining | anchorAggregating | globalDistilling | calibrating | testing
  deriving DecidableEq, Repr

inductive RunMode where
  | reference | custom
  deriving DecidableEq, Repr

inductive JobType where
  | datasetPreflight | simulation
  deriving DecidableEq, Repr

inductive JobStatus where
  | queued | running | cancelling | completed | cancelled | failed | failedRecoverable
  deriving DecidableEq, Repr

inductive ArtifactState where
  | notStarted | generating | committed | incomplete
  deriving DecidableEq, Repr

inductive SimulationEventType where
  | state | stage | heartbeat | queuePosition | artifactCommitted
  deriving DecidableEq, Repr

inductive WorkerEventType where
  | heartbeat | stage | state
  deriving DecidableEq, Repr

inductive AlarmLevel where
  | none | notice | warning | alarm
  deriving DecidableEq, Repr

inductive LoadStatus where
  | lightLoad | normalLoad | heavyLoad | unknown
  deriving DecidableEq, Repr

namespace SimulationStatus

def text : SimulationStatus -> String
  | created => "CREATED"
  | validating => "VALIDATING"
  | queued => "QUEUED"
  | running => "RUNNING"
  | cancelling => "CANCELLING"
  | generatingArtifacts => "GENERATING_ARTIFACTS"
  | completed => "COMPLETED"
  | cancelled => "CANCELLED"
  | failed => "FAILED"
  | failedRecoverable => "FAILED_RECOVERABLE"

/-- `domain.IsTerminal`, and the list in `protect_terminal_simulation`. -/
def isTerminal : SimulationStatus -> Bool
  | completed | cancelled | failed | failedRecoverable => true
  | _ => false

/-- `domain.IsExecutionStatus`, and the predicate of
`simulations_single_execution_slot`. -/
def isExecution : SimulationStatus -> Bool
  | running | cancelling | generatingArtifacts => true
  | _ => false

/-- The statuses that carry a `current_stage`. -/
def hasStage : SimulationStatus -> Bool
  | running | cancelling => true
  | _ => false

end SimulationStatus

namespace JobStatus

def text : JobStatus -> String
  | queued => "QUEUED"
  | running => "RUNNING"
  | cancelling => "CANCELLING"
  | completed => "COMPLETED"
  | cancelled => "CANCELLED"
  | failed => "FAILED"
  | failedRecoverable => "FAILED_RECOVERABLE"

/-- `status IN ('RUNNING', 'CANCELLING')`. -/
def isActive : JobStatus -> Bool
  | running | cancelling => true
  | _ => false

def isTerminal : JobStatus -> Bool
  | completed | cancelled | failed | failedRecoverable => true
  | _ => false

/-- The run status spelled like the job status. -/
def simulationStatus : JobStatus -> SimulationStatus
  | queued => .queued
  | running => .running
  | cancelling => .cancelling
  | completed => .completed
  | cancelled => .cancelled
  | failed => .failed
  | failedRecoverable => .failedRecoverable

theorem simulationStatus_text (status : JobStatus) : status.simulationStatus.text = status.text := by
  cases status <;> rfl

theorem simulationStatus_injective {first second : JobStatus}
    (same : first.simulationStatus = second.simulationStatus) : first = second := by
  cases first <;> cases second <;> first | rfl | cases same

theorem simulationStatus_isTerminal (status : JobStatus) :
    status.simulationStatus.isTerminal = status.isTerminal := by
  cases status <;> rfl

end JobStatus

namespace Stage

def text : Stage -> String
  | preprocessing => "PREPROCESSING"
  | localTraining => "LOCAL_TRAINING"
  | anchorAggregating => "ANCHOR_AGGREGATING"
  | globalDistilling => "GLOBAL_DISTILLING"
  | calibrating => "CALIBRATING"
  | testing => "TESTING"

def all : List Stage :=
  [preprocessing, localTraining, anchorAggregating, globalDistilling, calibrating, testing]

/-- The stage with the given spelling. -/
def ofText? (value : String) : Option Stage :=
  all.find? fun stage => stage.text = value

end Stage

def SimulationEventType.text : SimulationEventType -> String
  | .state => "simulation.state"
  | .stage => "simulation.stage"
  | .heartbeat => "heartbeat"
  | .queuePosition => "queue.position"
  | .artifactCommitted => "artifact.committed"

def RunMode.text : RunMode -> String
  | .reference => "REFERENCE"
  | .custom => "CUSTOM"

def DatasetStatus.text : DatasetStatus -> String
  | .uploading => "UPLOADING"
  | .validating => "VALIDATING"
  | .valid => "VALID"
  | .invalid => "INVALID"

namespace AlarmLevel

def text : AlarmLevel -> String
  | none => "None"
  | notice => "Notice"
  | warning => "Warning"
  | alarm => "Alarm"

def ofText? (value : String) : Option AlarmLevel :=
  [none, notice, warning, alarm].find? fun level => level.text = value

end AlarmLevel

namespace LoadStatus

def text : LoadStatus -> String
  | lightLoad => "Light load"
  | normalLoad => "Normal load"
  | heavyLoad => "Heavy load"
  | unknown => "Unknown"

def ofText? (value : String) : Option LoadStatus :=
  [lightLoad, normalLoad, heavyLoad, unknown].find? fun status => status.text = value

end LoadStatus

/-! ## Code outside the repository -/

/-- The identity of the worker image that the service is configured with. -/
structure RuntimeIdentity where
  algorithmVersion : String
  workerVersion : String
  workerImageDigest : String
  numericRuntime : String
  deriving DecidableEq, Repr

/-- What the transactions use of the language libraries and of PostgreSQL:
the digest function, the stored size of a value, the cast of a text to an
instant in the session's time zone, the printed form of an instant, and the
literal that a number takes after a round trip through a binary64 value. -/
structure Platform where
  sha256Hex : String -> String
  pgColumnSize : Json -> Nat
  castTimestamptz : String -> Option Instant
  formatInstant : Instant -> String
  float64Literal : Decimal -> Decimal
  runtime : RuntimeIdentity

/-! ## Rows -/

structure SchedulerControl where
  preflightQueueCapacity : Int
  simulationWaitCapacity : Int
  eventRetentionPerRun : Int
  updatedAt : Instant

structure Dataset where
  datasetId : String
  displayName : String
  originalFilename : String
  storageKey : String
  sha256 : String
  sizeBytes : Int
  columnsJson : Json
  timezone : String
  utcOffset : String
  status : DatasetStatus
  structuralStatistics : Json
  warningsJson : Json
  preflightContractVersion : Option String
  preflightSummaryJson : Option Json
  preflightSummarySha256 : Option String
  validationStartedAt : Option Instant
  validationFinishedAt : Option Instant
  errorCode : Option String
  errorMessage : Option String
  createdAt : Instant
  updatedAt : Instant

structure ParameterProfile where
  versionId : String
  mode : RunMode
  displayName : String
  baseVersionId : Option String
  normalizedJson : Json
  normalizedSha256 : String

structure LoadMappingProfile where
  versionId : String
  displayName : String
  mappingType : String
  normalizedJson : Json
  normalizedSha256 : String

structure Simulation where
  runId : String
  displayName : Option String
  datasetId : String
  parameterProfileVersionId : String
  loadMappingVersionId : String
  runMode : RunMode
  status : SimulationStatus
  currentStage : Option Stage
  enqueueSeq : Nat
  cancelRequestedAt : Option Instant
  cancelReason : Option String
  startedAt : Option Instant
  finishedAt : Option Instant
  errorJson : Option Json
  artifactState : ArtifactState
  lastHeartbeatAt : Option Instant
  attemptId : Option String
  createdAt : Instant
  updatedAt : Instant
  deriving DecidableEq

structure SimulationSnapshot where
  runId : String
  snapshotJson : Json
  snapshotSha256 : String

structure WorkerJob where
  jobId : String
  jobType : JobType
  datasetId : String
  runId : Option String
  envelopeJson : Json
  envelopeSha256 : String
  enqueueSeq : Nat
  status : JobStatus
  attemptId : Option String
  lastAttemptId : Option String
  leaseToken : Option String
  leaseExpiresAt : Option Instant
  lastHeartbeatAt : Option Instant
  errorJson : Option Json
  createdAt : Instant
  updatedAt : Instant

structure SimulationEvent where
  eventId : Nat
  runId : String
  eventType : SimulationEventType
  payloadJson : Json
  occurredAt : Instant
  deriving DecidableEq

structure WorkerJobEvent where
  eventId : Nat
  jobId : String
  runId : Option String
  eventType : WorkerEventType
  payloadJson : Json
  occurredAt : Instant

structure Artifact where
  runId : String
  name : String
  relativePath : String
  mediaType : String
  sizeBytes : Int
  sha256 : String
  required : Bool
  createdAt : Instant

structure Alarm where
  alarmId : Nat
  runId : String
  agent : Int
  originalRunningIndex : Int
  timeValue : Option Instant
  overallAlarmLevel : AlarmLevel
  alarmType : String
  reasonsJson : Json
  loadStatus : LoadStatus
  resultLocatorJson : Json
  createdAt : Instant

structure IdempotencyKey where
  idempotencyKey : String
  requestSha256 : String
  runId : String
  createdAt : Instant

structure WorkerInstance where
  workerId : String
  workerContractVersion : String
  workerVersion : String
  registeredAt : Instant
  lastHeartbeatAt : Instant

/-! ## Text conditions of the constraints -/

def isAsciiAlphanumeric (char : Char) : Bool :=
  ('A' ≤ char && char ≤ 'Z') || ('a' ≤ char && char ≤ 'z') || ('0' ≤ char && char ≤ '9')

/-- `'^[A-Za-z0-9][A-Za-z0-9._:-]{0,127}$'`. -/
def isIdentifier (value : String) : Bool :=
  match value.toList with
  | [] => false
  | first :: rest =>
      isAsciiAlphanumeric first && rest.length ≤ 127 &&
        rest.all fun char => isAsciiAlphanumeric char || char ∈ ['.', '_', ':', '-']

/-- `'^[0-9a-f]{64}$'`. -/
def isSha256Hex (value : String) : Bool :=
  value.length = 64 &&
    value.toList.all fun char => ('0' ≤ char && char ≤ '9') || ('a' ≤ char && char ≤ 'f')

/-- Whether a text has two adjacent characters in the given order. -/
def hasAdjacent (first second : Char) : List Char -> Bool
  | left :: right :: rest =>
      (left = first && right = second) || hasAdjacent first second (right :: rest)
  | _ => false

/-- The `CHECK` on `artifacts.name`. -/
def isArtifactName (name : String) : Bool :=
  !(name.toList.contains '/') && !(name.toList.contains '\\') && !hasAdjacent '.' '.' name.toList

/-- The `CHECK` on `artifacts.relative_path`: not absolute and no parent
component. -/
def isRelativePath (path : String) : Bool :=
  !(path.toList.head? = some '/') && !(path.toList.splitOn '/').contains ['.', '.']

/-- The `CHECK` on `datasets.original_filename`. -/
def isOriginalFilename (name : String) : Bool :=
  1 ≤ name.length && name.length ≤ 255 &&
    name.toList.all (fun char => char != '/' && char != '\\' &&
      32 ≤ char.toNat && !(127 ≤ char.toNat && char.toNat ≤ 159)) &&
    name != "." && name != ".."

end Queue
end FederatedIot
