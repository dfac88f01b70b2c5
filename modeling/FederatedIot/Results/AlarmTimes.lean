import FederatedIot.Queue.System
import FederatedIot.Results.ResultPage
import FederatedIot.Worker.Alarms
import FederatedIot.Worker.SegmentOrder

namespace FederatedIot
namespace Results

open Foundation Foundation.Outcome Dataset

/-!
# The times of alarms and results

The worker submits the time text of an alarm as it found it.  The commit casts the
text to an instant, with the zone of the session where the text names none, while
the reader of results takes such a text in the zone of the dataset.  The index
keeps microseconds and the reader nanoseconds.
-/

/-! ## The cast of the index -/

/-- A value of the setting `TimeZone`: the second at which the wall of the session
shows a time. -/
structure Session where
  toUnix : Int -> Int

/-- A cast of texts to instants, which may refuse a text. -/
abbrev TimestamptzCast := Session -> List Char -> Option Queue.Instant

/-- The layouts of a result time that names no zone. -/
def localLayouts : List Layout :=
  [dashedMicros, dashed, dayFirst]

/-- The microseconds of a second and the fraction that was read with it. -/
def micros (second : Int) (fields : Fields) : Int :=
  second * 1000000 + (fields.nanosecond / 1000 : Nat)

/-- What is documented of the cast, for texts in the layouts above whose fraction
is a whole number of microseconds: a text with an offset is the instant that it
names, and a text without one is taken on the wall of the session. -/
structure CastsTimestamptz (cast : TimestamptzCast) : Prop where
  own : forall session text fields offset value, rfc3339Nano.scan {} text = some fields ->
    fields.zone = some offset -> 1000 ∣ fields.nanosecond -> cast session text = some value ->
      value = micros (fields.wallSeconds - offset) fields
  wall : forall session layout text fields value, layout ∈ localLayouts -> layout.scan {} text = some fields ->
    1000 ∣ fields.nanosecond -> cast session text = some value ->
      value = micros (session.toUnix fields.wallSeconds) fields

/-- The two readings are the same instant. -/
def SameInstant (value : Int) (instant : Instant) : Prop :=
  value * 1000 = instant.seconds * 1000000000 + instant.nanoseconds

/-! ## The fields of a result time -/

/-- The fields of a text under a layout, when the month has the day. -/
def dateFields (text : List Char) (layout : Layout) : Option Fields :=
  (layout.scan {} text).filter fun fields => !(fields.day < 1 || daysIn fields.month fields.year < fields.day)

/-- The fields of a result time under the first of its layouts. -/
def timeFields (text : List Char) : Option Fields :=
  match dateFields text rfc3339Nano with
  | some fields => some fields
  | none => localLayouts.findSome? (dateFields text)

/-- The condition: the time has no more than microseconds, and it names its own
offset or the session shows it at the second at which the dataset's zone does. -/
def Aligned (loadLocation : Zones) (session : Session) (text : List Char) : Prop :=
  ∃ fields, timeFields text = some fields ∧ 1000 ∣ fields.nanosecond ∧
    (fields.zone.isSome = true ∨ ∃ location, loadLocation "Asia/Shanghai" = some location ∧
      session.toUnix fields.wallSeconds = location.toUnix fields.wallSeconds)

/-- The second that the reader finds for the fields. -/
def secondOf (loadLocation : Zones) (fields : Fields) : Option Int :=
  match fields.zone with
  | some offset => some (fields.wallSeconds - offset)
  | none => (loadLocation "Asia/Shanghai").map fun location => location.toUnix fields.wallSeconds

theorem finish_eq (fields : Fields) (location : Location) :
    fields.finish location =
      if fields.day < 1 || daysIn fields.month fields.year < fields.day then none
      else some
        { seconds := (fields.zone.map fun offset => fields.wallSeconds - offset).getD
            (location.toUnix fields.wallSeconds)
          nanoseconds := fields.nanosecond } := by
  rw [Fields.finish]
  cases fields.zone <;> rfl

theorem parseInLocation_eq (layout : Layout) (text : List Char) (location : Location) :
    layout.parseInLocation text location = (dateFields text layout).map fun fields =>
      { seconds := (fields.zone.map fun offset => fields.wallSeconds - offset).getD
          (location.toUnix fields.wallSeconds)
        nanoseconds := fields.nanosecond } := by
  rw [Layout.parseInLocation, dateFields]
  cases layout.scan {} text with
  | none => rfl
  | some fields =>
      rw [Option.bind_some, finish_eq]
      cases refused : (fields.day < 1 || daysIn fields.month fields.year < fields.day : Bool) with
      | true => simp only [Option.filter_some, refused, if_true, Bool.not_true, Bool.false_eq_true, if_false,
          Option.map_none]
      | false => simp only [Option.filter_some, refused, Bool.false_eq_true, if_false, Bool.not_false, if_true,
          Option.map_some]

theorem dateFields_scan {text : List Char} {layout : Layout} {fields : Fields}
    (found : dateFields text layout = some fields) : layout.scan {} text = some fields :=
  (Option.filter_eq_some_iff.mp found).1

theorem rfc3339Nano_zone {text : List Char} {fields : Fields} (found : dateFields text rfc3339Nano = some fields) :
    ∃ offset, fields.zone = some offset :=
  Layout.scan_offset rfl (dateFields_scan found)

theorem localLayouts_zone {text : List Char} {layout : Layout} (isLocal : layout ∈ localLayouts) {fields : Fields}
    (found : dateFields text layout = some fields) : fields.zone = none := by
  have zoneless : ∀ layout ∈ localLayouts, ∀ part ∈ layout, part.2 ≠ .iso8601ColonTZ := by decide
  exact Layout.scan_zone (zoneless layout isLocal) (dateFields_scan found)

theorem findSome?_map {α β γ : Type*} (items : List α) (first : α -> Option β) (convert : β -> γ) :
    items.findSome? (fun item => (first item).map convert) = (items.findSome? first).map convert :=
  List.map_findSome?.symm

/-- The reader finds the second and the fraction of the fields. -/
theorem parseResultTimestamp_eq (loadLocation : Zones) (text : List Char) :
    parseResultTimestamp loadLocation text = (timeFields text).bind fun fields =>
      (secondOf loadLocation fields).map fun second => { seconds := second, nanoseconds := fields.nanosecond } := by
  rw [parseResultTimestamp, Layout.parse, parseInLocation_eq, timeFields]
  cases own : dateFields text rfc3339Nano with
  | some fields =>
      rcases rfc3339Nano_zone own with ⟨offset, isOffset⟩
      simp only [Option.map_some, Option.bind_some, secondOf, isOffset, Option.getD_some]
  | none =>
      simp only [Option.map_none]
      cases found : localLayouts.findSome? (dateFields text) with
      | none =>
          cases loadLocation "Asia/Shanghai" with
          | none => rfl
          | some location =>
              simp only [parseInLocation_eq, findSome?_map]
              rw [show [dashedMicros, dashed, dayFirst] = localLayouts from rfl, found]
              rfl
      | some fields =>
          rcases List.exists_of_findSome?_eq_some found with ⟨layout, isLocal, dated⟩
          have noZone := localLayouts_zone isLocal dated
          cases loaded : loadLocation "Asia/Shanghai" with
          | none => simp only [Option.bind_some, secondOf, noZone, loaded, Option.map_none]
          | some location =>
              simp only [parseInLocation_eq, findSome?_map]
              rw [show [dashedMicros, dashed, dayFirst] = localLayouts from rfl, found]
              simp only [Option.map_some, Option.bind_some, secondOf, noZone, loaded, Option.map_none,
                Option.getD_none]

theorem timeFields_lt {text : List Char} {fields : Fields} (found : timeFields text = some fields) :
    fields.nanosecond < 1000000000 := by
  have start : ({} : Fields).nanosecond < 1000000000 := by decide
  rw [timeFields] at found
  split at found
  · rename_i own isOwn
    rw [Option.some.inj found] at isOwn
    exact Layout.scan_lt start (dateFields_scan isOwn)
  · rcases List.exists_of_findSome?_eq_some found with ⟨layout, _, dated⟩
    exact Layout.scan_lt start (dateFields_scan dated)

theorem parseResultTimestamp_lt {loadLocation : Zones} {text : List Char} {instant : Instant}
    (parsed : parseResultTimestamp loadLocation text = some instant) : instant.nanoseconds < 1000000000 := by
  rw [parseResultTimestamp_eq] at parsed
  rcases Option.bind_eq_some_iff.mp parsed with ⟨fields, found, parsed⟩
  rcases Option.map_eq_some_iff.mp parsed with ⟨second, _, rfl⟩
  exact timeFields_lt found

/-! ## The agreement of one text -/

/-- What the cast makes of the fields of a result time. -/
theorem cast_eq {cast : TimestamptzCast} (casts : CastsTimestamptz cast) {session : Session} {text : List Char}
    {fields : Fields} {value : Int} (found : timeFields text = some fields)
    (whole : 1000 ∣ fields.nanosecond) (stored : cast session text = some value) :
    value = micros ((fields.zone.map fun offset => fields.wallSeconds - offset).getD
      (session.toUnix fields.wallSeconds)) fields := by
  rw [timeFields] at found
  split at found
  · rename_i own isOwn
    rw [Option.some.inj found] at isOwn
    rcases rfc3339Nano_zone isOwn with ⟨offset, isOffset⟩
    rw [casts.own session text fields offset value (dateFields_scan isOwn) isOffset whole stored, isOffset]
    rfl
  · rcases List.exists_of_findSome?_eq_some found with ⟨layout, isLocal, dated⟩
    rw [casts.wall session layout text fields value isLocal (dateFields_scan dated) whole stored,
      localLayouts_zone isLocal dated]
    rfl

theorem sameInstant_micros {fields : Fields} (whole : 1000 ∣ fields.nanosecond) (first second : Int) :
    SameInstant (micros first fields) { seconds := second, nanoseconds := fields.nanosecond } ↔ first = second := by
  rcases whole with ⟨count, same⟩
  rw [SameInstant, micros, same, Nat.mul_div_cancel_left count (by decide)]
  push_cast
  omega

/-- The indexed time is the instant that the reader finds exactly under the
condition. -/
theorem same_instant_iff {cast : TimestamptzCast} (casts : CastsTimestamptz cast) (loadLocation : Zones)
    {session : Session} {text : List Char} {value : Int} (stored : cast session text = some value) :
    (∃ instant, parseResultTimestamp loadLocation text = some instant ∧ SameInstant value instant) ↔
      Aligned loadLocation session text := by
  rw [parseResultTimestamp_eq]
  constructor
  · rintro ⟨instant, parsed, same⟩
    rcases Option.bind_eq_some_iff.mp parsed with ⟨fields, found, parsed⟩
    rcases Option.map_eq_some_iff.mp parsed with ⟨second, isSecond, rfl⟩
    have whole : 1000 ∣ fields.nanosecond := by
      simp only [SameInstant] at same
      omega
    have isValue := cast_eq casts found whole stored
    rw [isValue, sameInstant_micros whole] at same
    refine ⟨fields, found, whole, ?_⟩
    cases zone : fields.zone with
    | some offset => exact Or.inl rfl
    | none =>
        right
        rw [zone] at same
        rw [secondOf, zone] at isSecond
        rcases Option.map_eq_some_iff.mp isSecond with ⟨location, loaded, rfl⟩
        exact ⟨location, loaded, same⟩
  · rintro ⟨fields, found, whole, agree⟩
    have isValue := cast_eq casts found whole stored
    rw [found, Option.bind_some, isValue]
    cases zone : fields.zone with
    | some offset =>
        rw [secondOf, zone]
        exact ⟨_, rfl, (sameInstant_micros whole _ _).mpr rfl⟩
    | none =>
        rw [zone] at agree
        rcases agree with impossible | ⟨location, loaded, same⟩
        · cases impossible
        · rw [secondOf, zone]
          simp only [loaded, Option.map_some]
          exact ⟨_, rfl, (sameInstant_micros whole _ _).mpr same⟩

/-! ## The windows -/

/-- A bound as a parameter of the query over the index. -/
def boundMicros (bound : Instant) : Int :=
  bound.seconds * 1000000 + (bound.nanoseconds / 1000 : Nat)

/-- The clauses of `alarmListWhere` on the time. -/
def alarmInWindow (fromTime toTime : Option Instant) (value : Int) : Bool :=
  (fromTime.all fun bound => decide (boundMicros bound ≤ value)) &&
    (toTime.all fun bound => decide (value ≤ boundMicros bound))

/-- The conditions of `matchesResultFilter` on the time. -/
def resultInWindow (fromTime toTime : Option Instant) (time : Instant) : Bool :=
  !((fromTime.any fun bound => Before time bound) || (toTime.any fun bound => Before bound time))

/-- A bound with no more than microseconds. -/
def MicrosecondBound (bound : Instant) : Prop :=
  1000 ∣ bound.nanoseconds ∧ bound.nanoseconds < 1000000000

/-- Windows select an alarm and a result of the same instant together. -/
theorem windows_agree {value : Int} {time : Instant} (same : SameInstant value time)
    (fraction : time.nanoseconds < 1000000000) {fromTime toTime : Option Instant}
    (fromBound : ∀ bound ∈ fromTime, MicrosecondBound bound) (toBound : ∀ bound ∈ toTime, MicrosecondBound bound) :
    alarmInWindow fromTime toTime value = resultInWindow fromTime toTime time := by
  have lower : forall bound, MicrosecondBound bound -> decide (boundMicros bound ≤ value) = !Before time bound := by
    rintro bound ⟨⟨count, whole⟩, below⟩
    simp only [SameInstant] at same
    rw [eq_comm, Bool.not_eq_eq_eq_not, ← decide_not, Before, boundMicros, whole, Nat.mul_div_cancel_left count (by decide),
      Bool.eq_iff_iff]
    simp only [Bool.or_eq_true, Bool.and_eq_true, decide_eq_true_eq, whole] at below ⊢
    omega
  have upper : forall bound, MicrosecondBound bound -> decide (value ≤ boundMicros bound) = !Before bound time := by
    rintro bound ⟨⟨count, whole⟩, below⟩
    simp only [SameInstant] at same
    rw [eq_comm, Bool.not_eq_eq_eq_not, ← decide_not, Before, boundMicros, whole, Nat.mul_div_cancel_left count (by decide),
      Bool.eq_iff_iff]
    simp only [Bool.or_eq_true, Bool.and_eq_true, decide_eq_true_eq, whole] at below ⊢
    omega
  rw [alarmInWindow, resultInWindow, Bool.not_or]
  congr 1
  · cases fromTime with
    | none => rfl
    | some bound => exact lower bound (fromBound bound rfl)
  · cases toTime with
    | none => rfl
    | some bound => exact upper bound (toBound bound rfl)

/-! ## The committed alarms -/

section Commit

variable {platform : Queue.Platform} {now : Queue.Instant} {store after : Queue.Store}

/-- The row of an alarm that the worker submits. -/
theorem repositoryAlarm_row {runId : String} {alarm : Worker.SourceAlarm} {row : Queue.Alarm}
    (converted : Queue.alarmRow platform now runId (Worker.repositoryAlarm alarm) = .ok row) :
    row.agent = alarm.agent ∧ row.originalRunningIndex = alarm.originalRunningIndex ∧
      ∃ value, platform.castTimestamptz alarm.time = some value ∧ row.timeValue = some value := by
  have text : (Worker.repositoryAlarm alarm).text? "time_value" = some alarm.time := rfl
  rw [Queue.alarmRow, text] at converted
  cases cast : platform.castTimestamptz alarm.time with
  | none =>
      simp only [cast, bind_ok_iff] at converted
      rcases converted with ⟨_, _, _, _, _, impossible, _⟩
      cases impossible
  | some value =>
      simp only [cast, bind_ok_iff, pure_ok_iff, Except.ok.injEq, exists_eq_left'] at converted
      rcases converted with ⟨_, isAgent, _, isIndex, _, _, _, _, _, _, _, _, rfl⟩
      cases isAgent
      cases isIndex
      exact ⟨rfl, rfl, value, rfl, rfl⟩

/-- A commit adds the rows of the submitted alarms to the index. -/
theorem workerCommitSimulation_alarms {lease : Queue.Lease} {request : Queue.CommitRequest} {items : List Json}
    (submitted : request.alarms = some (.array items))
    (committed : Queue.workerCommitSimulation platform now lease request store = .ok (after, true)) :
    ∃ runId last rows, items.mapM (Queue.alarmRow platform now runId) = .ok rows ∧
      after.tables.alarmIndex = store.tables.alarmIndex ++ Queue.numberedAlarms last rows := by
  rw [Queue.workerCommitSimulation] at committed
  split at committed
  · cases committed
  · rename_i job _
    simp only [bind_ok_iff] at committed
    rcases committed with ⟨alarms, checked, published⟩
    have isItems : alarms = items := by
      simp only [Queue.checkCommit, submitted, Queue.alarmItems, bind_ok_iff, Except.ok.injEq, exists_eq_left'] at checked
      rcases checked with ⟨_, _, checked⟩
      split at checked
      · cases checked
      · simp only [bind_ok_iff, pure_ok_iff] at checked
        rcases checked with ⟨_, _, same⟩
        exact same.symm
    rw [isItems] at published
    simp only [Queue.publishRun, bind_ok_iff, require_ok_iff, exists_const, pure_ok_iff, Prod.mk.injEq] at published
    rcases published with ⟨generating, generatingAccepted, _, announced, announcedAccepted, _, _, stored,
      storedAccepted, rows, converted, indexed, indexedAccepted, settled, settledAccepted, released,
      releasedAccepted, reported, reportedAccepted, emitted, emittedAccepted, rfl, _⟩
    refine ⟨job.runId.getD "", stored.sequences.alarmId, rows, converted, ?_⟩
    rw [(Queue.insertSimulationEvents_ok_iff.mp emittedAccepted).1,
      (Queue.insertSimulationEvents_ok_iff.mp reportedAccepted).1, (Queue.updateJobs_ok_iff.mp releasedAccepted).1,
      (Queue.updateSimulations_ok_iff.mp settledAccepted).2.1, (Queue.insertAlarms_ok_iff.mp indexedAccepted).1,
      (Queue.insertArtifacts_ok_iff.mp storedAccepted).1,
      (Queue.insertSimulationEvents_ok_iff.mp announcedAccepted).1,
      (Queue.updateSimulations_ok_iff.mp generatingAccepted).2.1]

/-- An alarm that a commit adds comes from an alarm of the run. -/
theorem source_of_committed {lease : Queue.Lease} {request : Queue.CommitRequest}
    {results : List Worker.AgentSimulationResult}
    (submitted : request.alarms = some (.array (Worker.repositoryAlarms results)))
    (committed : Queue.workerCommitSimulation platform now lease request store = .ok (after, true))
    {added : List Queue.Alarm} (grown : after.tables.alarmIndex = store.tables.alarmIndex ++ added)
    {alarm : Queue.Alarm} (member : alarm ∈ added) :
    ∃ result ∈ results, ∃ source ∈ result.alarms, alarm.agent = source.agent ∧
      alarm.originalRunningIndex = source.originalRunningIndex ∧
      ∃ value, platform.castTimestamptz source.time = some value ∧ alarm.timeValue = some value := by
  rcases workerCommitSimulation_alarms submitted committed with ⟨runId, last, rows, converted, same⟩
  rw [grown] at same
  rw [List.append_cancel_left same] at member
  rcases List.mem_map.mp member with ⟨entry, inRows, rfl⟩
  have isRow : entry.1 ∈ rows := List.fst_mem_of_mem_zipIdx inRows
  rcases source_of_mapM_ok converted isRow with ⟨item, isItem, itemConverted⟩
  rcases List.mem_flatMap.mp isItem with ⟨result, isResult, isItem⟩
  rcases List.mem_map.mp isItem with ⟨source, isSource, rfl⟩
  have facts := repositoryAlarm_row itemConverted
  exact ⟨result, isResult, source, isSource, facts.1, facts.2.1, facts.2.2⟩

/-- The time of an indexed alarm is that of its result exactly when the time text
is aligned with the session.  Then windows select the two together. -/
theorem alarm_time_iff {cast : TimestamptzCast} (casts : CastsTimestamptz cast) {session : Session}
    (inSession : forall text : String, platform.castTimestamptz text = cast session text.toList)
    {loadLocation : Zones} {raw : List (String × PyValue)} {rows : List Worker.RawRow}
    {byAgent : List (Int × Worker.AgentPreparationParameters)} {datasets : List (Int × List Worker.RunningRow)}
    {contexts : List Worker.AgentContext} {verdicts : Int -> Nat -> Worker.Verdict}
    (preprocessed : Worker.preprocessAgentDatasets rows byAgent = .ok datasets)
    (prepared : Worker.prepareSimulation raw datasets byAgent = .ok contexts)
    {lease : Queue.Lease} {request : Queue.CommitRequest}
    (submitted : request.alarms = some (.array (Worker.repositoryAlarms (Worker.simulate contexts verdicts))))
    (committed : Queue.workerCommitSimulation platform now lease request store = .ok (after, true))
    {added : List Queue.Alarm} (grown : after.tables.alarmIndex = store.tables.alarmIndex ++ added)
    {alarm : Queue.Alarm} (isAlarm : alarm ∈ added) {result : Worker.AgentSimulationResult}
    (isResult : result ∈ Worker.simulate contexts verdicts) {row : Worker.ResultRow} (isRow : row ∈ result.rows)
    (sameAgent : row.agent = alarm.agent) (sameIndex : row.originalRunningIndex = alarm.originalRunningIndex) :
    ((∃ value instant, alarm.timeValue = some value ∧
        parseResultTimestamp loadLocation row.time.toList = some instant ∧ SameInstant value instant) ↔
      Aligned loadLocation session row.time.toList) ∧
    (Aligned loadLocation session row.time.toList -> forall fromTime toTime,
      (∀ bound ∈ fromTime, MicrosecondBound bound) -> (∀ bound ∈ toTime, MicrosecondBound bound) ->
        ∃ value instant, alarm.timeValue = some value ∧
          parseResultTimestamp loadLocation row.time.toList = some instant ∧
          alarmInWindow fromTime toTime value = resultInWindow fromTime toTime instant) := by
  rcases source_of_committed submitted committed grown isAlarm with
    ⟨alarmed, isAlarmed, source, isSource, agent, index, value, isCast, isValue⟩
  rw [agent] at sameAgent
  rw [index] at sameIndex
  have sameTime := Worker.sourceAlarm_time preprocessed prepared isAlarmed isResult isSource isRow sameAgent
    (by exact_mod_cast sameIndex)
  rw [inSession, sameTime] at isCast
  have agreement := same_instant_iff casts loadLocation isCast
  refine ⟨?_, ?_⟩
  · rw [← agreement, isValue]
    constructor
    · rintro ⟨other, instant, isOther, parsed, same⟩
      rw [← Option.some.inj isOther] at same
      exact ⟨instant, parsed, same⟩
    · rintro ⟨instant, parsed, same⟩
      exact ⟨value, instant, rfl, parsed, same⟩
  · intro aligned fromTime toTime fromBound toBound
    rcases agreement.mpr aligned with ⟨instant, parsed, same⟩
    exact ⟨value, instant, isValue, parsed,
      windows_agree same (parseResultTimestamp_lt parsed) fromBound toBound⟩

end Commit

/-! ## A commit in a session of UTC -/

def utcSession : Session :=
  ⟨id⟩

def shanghaiSession : Session :=
  ⟨chinaStandardTime.toUnix⟩

/-- The time text of the weak load. -/
def weakTime : String :=
  "2026-01-01 00:00:00"

def weakFields : Fields :=
  { year := 2026 }

def weakSecond : Int :=
  1767225600

/-- The cast of the one text that the sample submits. -/
def weakCast : TimestamptzCast := fun session text =>
  if text = weakTime.toList then some (session.toUnix weakSecond * 1000000) else none

theorem weakCast_casts : CastsTimestamptz weakCast := by
  constructor
  · intro session text fields offset value scanned _ _ stored
    rw [weakCast] at stored
    split at stored
    · rename_i same
      rw [same] at scanned
      exact absurd scanned (by
        rw [show rfc3339Nano.scan {} weakTime.toList = none from rfl]
        exact fun impossible => (by cases impossible))
    · cases stored
  · intro session layout text fields value isLocal scanned _ stored
    rw [weakCast] at stored
    split at stored
    · rename_i same
      cases stored
      rw [same] at scanned
      have readings : layout.scan {} weakTime.toList = some weakFields ∨ layout.scan {} weakTime.toList = none := by
        simp only [localLayouts, List.mem_cons, List.not_mem_nil, or_false] at isLocal
        rcases isLocal with rfl | rfl | rfl
        · exact Or.inl rfl
        · exact Or.inl rfl
        · exact Or.inr rfl
      rcases readings with read | unread
      · rw [read] at scanned
        rw [← Option.some.inj scanned, micros, show weakFields.wallSeconds = weakSecond by decide +kernel,
          show weakFields.nanosecond = 0 from rfl]
        exact (Int.add_zero _).symm
      · rw [unread] at scanned
        cases scanned
    · cases stored

def sessionPlatform (session : Session) : Queue.Platform :=
  { Queue.samplePlatform with castTimestamptz := fun text => weakCast session text.toList }

/-- The first point of the first agent raises an alarm. -/
def firstVerdict (agent : Int) (point : Nat) : Worker.Verdict :=
  { loadStatus := "Heavy load", loadReason := "Continuous heavy load / possible overload", dataReason := ""
    overallLevel := if agent = 1 ∧ point = 0 then "Alarm" else "None" }

def weakAlarm : Worker.SourceAlarm :=
  { agent := 1, originalRunningIndex := 23, time := weakTime, overallAlarmLevel := "Alarm", alarmType := "OVERALL"
    reasons := ["Continuous heavy load / possible overload"], loadStatus := "Heavy load", resultIndex := 0 }

def weakRow : Worker.ResultRow :=
  { originalRunningIndex := 23, time := weakTime, agent := 1 }

def sampleCommit : Queue.CommitRequest :=
  { manifestSha256 := Queue.sampleDigest
    artifacts := Queue.requiredArtifactNames.map fun name =>
      { name := some name, relativePath := some ("runs/run_1/committed/" ++ name), mediaType := some "text/plain"
        sizeBytes := some 10, sha256 := some Queue.sampleDigest, required := some true }
    alarms := some (.array [Worker.repositoryAlarm weakAlarm])
    stageDurations := .object [] }

/-- The sample raises the one alarm that its commit submits. -/
theorem sample_submits : ∃ contexts, Worker.preparedContexts (Worker.thresholdTask 1) Worker.risingLoad = some contexts ∧
    Worker.repositoryAlarms (Worker.simulate contexts firstVerdict) = [Worker.repositoryAlarm weakAlarm] ∧
    ∃ result ∈ Worker.simulate contexts firstVerdict, weakRow ∈ result.rows := by
  have submits : ((Worker.preparedContexts (Worker.thresholdTask 1) Worker.risingLoad).map fun contexts =>
      decide (Worker.repositoryAlarms (Worker.simulate contexts firstVerdict) = [Worker.repositoryAlarm weakAlarm])) =
      some true := by
    decide +kernel
  have lists : ((Worker.preparedContexts (Worker.thresholdTask 1) Worker.risingLoad).map fun contexts =>
      decide (∃ result ∈ Worker.simulate contexts firstVerdict, weakRow ∈ result.rows)) = some true := by
    decide +kernel
  rcases Option.map_eq_some_iff.mp submits with ⟨contexts, prepared, submitted⟩
  rw [prepared, Option.map_some, Option.some.injEq] at lists
  exact ⟨contexts, prepared, of_decide_eq_true submitted, of_decide_eq_true lists⟩

/-- The store of a commit that published. -/
def publishedStore : Except Queue.PgError (Queue.Store × Bool) -> Option Queue.Store
  | .ok (after, true) => some after
  | _ => none

theorem publishedStore_some {outcome : Except Queue.PgError (Queue.Store × Bool)} {after : Queue.Store}
    (published : publishedStore outcome = some after) : outcome = .ok (after, true) := by
  rw [publishedStore.eq_def] at published
  split at published
  · rw [Option.some.inj published]
  · cases published

/-- What the commit of the sample leaves in a session. -/
def sampleOutcome (session : Session) : Option Queue.Store :=
  publishedStore
    (Queue.workerCommitSimulation (sessionPlatform session) 6 Queue.runLease sampleCommit Queue.sampleStore)

/-- An alarm that the commit of the sample added, and the result row of its point. -/
structure CommittedAlarm (session : Session) (contexts : List Worker.AgentContext) (after : Queue.Store)
    (alarm : Queue.Alarm) (row : Worker.ResultRow) : Prop where
  prepared : Worker.preparedContexts (Worker.thresholdTask 1) Worker.risingLoad = some contexts
  submitted : sampleCommit.alarms = some (.array (Worker.repositoryAlarms (Worker.simulate contexts firstVerdict)))
  committed : Queue.workerCommitSimulation (sessionPlatform session) 6 Queue.runLease sampleCommit
    Queue.sampleStore = .ok (after, true)
  added : after.tables.alarmIndex = Queue.sampleStore.tables.alarmIndex ++ [alarm]
  listed : ∃ result ∈ Worker.simulate contexts firstVerdict, row ∈ result.rows
  sameAgent : row.agent = alarm.agent
  sameIndex : row.originalRunningIndex = alarm.originalRunningIndex

theorem committedAlarm_of_outcome {session : Session} {value : Queue.Instant}
    (found : ((sampleOutcome session).map fun after => after.tables.alarmIndex.map fun alarm =>
      (alarm.agent, alarm.originalRunningIndex, alarm.timeValue)) = some [(1, 23, some value)]) :
    ∃ contexts after alarm, CommittedAlarm session contexts after alarm weakRow ∧ alarm.timeValue = some value := by
  rcases sample_submits with ⟨contexts, prepared, submitted, listed⟩
  rcases Option.map_eq_some_iff.mp found with ⟨after, settled, indexed⟩
  have committed := publishedStore_some settled
  have empty : Queue.sampleStore.tables.alarmIndex.length = 0 := by decide +kernel
  rcases List.map_eq_singleton_iff.mp indexed with ⟨alarm, single, facts⟩
  simp only [Prod.mk.injEq] at facts
  have isSubmitted : sampleCommit.alarms =
      some (.array (Worker.repositoryAlarms (Worker.simulate contexts firstVerdict))) := by
    rw [submitted, sampleCommit]
  have added : after.tables.alarmIndex = Queue.sampleStore.tables.alarmIndex ++ [alarm] := by
    rw [List.length_eq_zero_iff.mp empty, List.nil_append, single]
  exact ⟨contexts, after, alarm,
    ⟨prepared, isSubmitted, committed, added, listed, facts.1.symm, facts.2.1.symm⟩, facts.2.2⟩

/-- The commit of the sample in a session of UTC. -/
theorem sample_commits : ∃ contexts after alarm, CommittedAlarm utcSession contexts after alarm weakRow ∧
    alarm.timeValue = some 1767225600000000 :=
  committedAlarm_of_outcome (by decide +kernel)

/-- In a session of UTC the alarm is indexed eight hours after its result. -/
theorem alarm_time_shifted :
    ∃ contexts after alarm, CommittedAlarm utcSession contexts after alarm weakRow ∧ CastsTimestamptz weakCast ∧
      ¬∃ value instant, alarm.timeValue = some value ∧
        parseResultTimestamp sampleZones weakRow.time.toList = some instant ∧ SameInstant value instant := by
  rcases sample_commits with ⟨contexts, after, alarm, sample, isValue⟩
  refine ⟨contexts, after, alarm, sample, weakCast_casts, ?_⟩
  rintro ⟨value, instant, isOther, parsed, same⟩
  have reading : parseResultTimestamp sampleZones weakRow.time.toList =
      some { seconds := 1767196800, nanoseconds := 0 } := by decide +kernel
  rw [reading] at parsed
  rw [isValue] at isOther
  cases isOther
  cases parsed
  simp only [SameInstant] at same
  omega

/-- The text of the sample is aligned with a session of Shanghai and not with one
of UTC. -/
theorem alarm_time_iff_sample :
    ∃ contexts after alarm, CommittedAlarm utcSession contexts after alarm weakRow ∧
      ((∃ value instant, alarm.timeValue = some value ∧
          parseResultTimestamp sampleZones weakRow.time.toList = some instant ∧ SameInstant value instant) ↔
        Aligned sampleZones utcSession weakRow.time.toList) ∧
      ¬Aligned sampleZones utcSession weakRow.time.toList ∧
      Aligned sampleZones shanghaiSession weakRow.time.toList := by
  rcases sample_commits with ⟨contexts, after, alarm, sample, _⟩
  rcases Worker.preparedContexts_some sample.prepared with ⟨_, _, _, _, _, _, preprocessed, prepared⟩
  rcases sample.listed with ⟨result, isResult, isRow⟩
  have inSession : forall text : String,
      (sessionPlatform utcSession).castTimestamptz text = weakCast utcSession text.toList :=
    fun _ => rfl
  have agreement := @alarm_time_iff _ 6 Queue.sampleStore after weakCast weakCast_casts utcSession inSession
    sampleZones _ _ _ _ _ _ preprocessed prepared _ _ sample.submitted sample.committed _ sample.added _
    List.mem_cons_self _ isResult _ isRow sample.sameAgent sample.sameIndex
  have fields : timeFields weakRow.time.toList = some weakFields := rfl
  have loaded : sampleZones "Asia/Shanghai" = some chinaStandardTime := rfl
  refine ⟨contexts, after, alarm, sample, agreement.1, ?_, ?_⟩
  · rintro ⟨other, isOther, _, named | ⟨location, isLocation, same⟩⟩
    · rw [fields] at isOther
      cases isOther
      cases named
    · rw [fields] at isOther
      rw [loaded] at isLocation
      cases isOther
      cases isLocation
      exact absurd same (by decide +kernel)
  · exact ⟨weakFields, fields, ⟨0, rfl⟩, Or.inr ⟨chinaStandardTime, loaded, rfl⟩⟩

end Results
end FederatedIot
