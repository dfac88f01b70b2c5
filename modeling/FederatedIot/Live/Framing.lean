import FederatedIot.Live.EventStream

namespace FederatedIot
namespace Live

open Foundation Foundation.Relation Queue

/-!
# Frames on the wire

`writeSSE` gives every frame an identifier, an event type and a JSON value.
What a reader has reached on a stream is the identifier of the last event or
reset that it has read.  Along a stream the events and the resets rise above
what was reached before them.  A heartbeat is stamped with the newest event of
the log, and says nothing about how far the stream has come.
-/

/-! ## What a frame carries -/

structure WireFrame where
  id : Nat
  type : String
  data : Json

/-- The payload that `EventsAfter` returns.  Only an object takes the two
fields. -/
def eventData (platform : Platform) (runId : String) (event : SimulationEvent) : Json :=
  (event.payloadJson.mapNumbers platform.float64Literal).merge
    (.object [("run_id", .string runId),
      ("occurred_at", .string (platform.formatInstant event.occurredAt))])

/-- The frame that `writeSSE` writes. -/
def Frame.wire (platform : Platform) (runId : String) : Frame -> WireFrame
  | .persisted event =>
      { id := event.eventId, type := event.eventType.text, data := eventData platform runId event }
  | .reset latest occurredAt =>
      { id := latest.toNat, type := "stream.reset"
        data := .object [("run_id", .string runId), ("reason", .string "event_retention_expired"),
          ("latest_event_id", Json.ofInt latest),
          ("occurred_at", .string (platform.formatInstant occurredAt))] }
  | .heartbeat latest serverTime =>
      { id := latest.toNat, type := "heartbeat"
        data := .object [("run_id", .string runId), ("latest_event_id", Json.ofInt latest),
          ("server_time", .string (platform.formatInstant serverTime))] }

/-- The status of a frame is the status of its event. -/
theorem eventData_status {platform : Platform} {runId text : String} {event : SimulationEvent} :
    (eventData platform runId event).field? "status" = some (.string text) ↔
      event.payloadJson.field? "status" = some (.string text) := by
  unfold eventData
  rw [Json.field?_merge_other (by simp), Json.field?_mapNumbers]
  cases event.payloadJson.field? "status" with
  | none => simp
  | some value => rw [Option.map_some, Option.some.injEq, Option.some.injEq, Json.mapNumbers_eq_string]

/-! ## Rising streams -/

/-- What a reader has reached after one more frame. -/
def Frame.reach (reached : Int) : Frame -> Int
  | .persisted event => event.eventId
  | .reset latest _ => latest
  | .heartbeat _ _ => reached

/-- What a reader that started at `cursor` has reached after some frames. -/
def reach (cursor : Int) (frames : List Frame) : Int :=
  frames.foldl Frame.reach cursor

/-- Events and resets lie above what was reached before them. -/
def Frame.Above (reached : Int) : Frame -> Prop
  | .persisted event => reached < event.eventId
  | .reset latest _ => reached < latest
  | .heartbeat _ _ => True

/-- Every frame lies above what was reached before it. -/
def Rising : Int -> List Frame -> Prop
  | _, [] => True
  | cursor, frame :: rest => frame.Above cursor ∧ Rising (frame.reach cursor) rest

section

variable {cursor : Int} {frames : List Frame} {frame : Frame} {index : Nat}

theorem rising_append {cursor : Int} {earlier later : List Frame} :
    Rising cursor (earlier ++ later) ↔
      Rising cursor earlier ∧ Rising (reach cursor earlier) later := by
  induction earlier generalizing cursor with
  | nil => exact (and_iff_right trivial).symm
  | cons frame rest inductionHypothesis =>
      change frame.Above cursor ∧ Rising _ (rest ++ later) ↔ (frame.Above cursor ∧ Rising _ rest) ∧ _
      rw [inductionHypothesis, and_assoc]
      rfl

/-- Reading a frame never loses ground. -/
theorem Frame.le_reach {reached : Int} (above : frame.Above reached) : reached ≤ frame.reach reached := by
  cases frame with
  | persisted event => exact Int.le_of_lt above
  | reset latest occurredAt => exact Int.le_of_lt above
  | heartbeat latest serverTime => exact Int.le_refl reached

theorem Rising.above (rising : Rising cursor frames) (found : frames[index]? = some frame) :
    frame.Above (reach cursor (frames.take index)) := by
  rcases List.getElem?_eq_some_iff.mp found with ⟨inside, rfl⟩
  rw [← List.take_append_drop index frames, rising_append, List.drop_eq_getElem_cons inside] at rising
  exact rising.2.1

theorem reach_take_succ (found : frames[index]? = some frame) :
    reach cursor (frames.take (index + 1)) = frame.reach (reach cursor (frames.take index)) := by
  unfold reach
  rw [List.take_add_one, found, Option.toList_some, List.foldl_append]
  rfl

end

/-- A page of rising events, and where it leads. -/
theorem rising_page {cursor : Int} {events : List SimulationEvent}
    (increasing : events.Pairwise fun earlier later => earlier.eventId < later.eventId)
    (above : ∀ event ∈ events, cursor < event.eventId) :
    Rising cursor (events.map Frame.persisted) ∧
      reach cursor (events.map Frame.persisted) =
        (events.getLast?.map fun event => (event.eventId : Int)).getD cursor := by
  induction events generalizing cursor with
  | nil => exact ⟨trivial, rfl⟩
  | cons first rest inductionHypothesis =>
      rcases List.pairwise_cons.mp increasing with ⟨smallest, others⟩
      have risen := @inductionHypothesis first.eventId others
        fun event member => by exact_mod_cast smallest event member
      refine ⟨⟨above first List.mem_cons_self, risen.1⟩, ?_⟩
      change reach first.eventId (rest.map Frame.persisted) = _
      rw [risen.2]
      cases rest with
      | nil => rfl
      | cons next more => rw [List.getLast?_cons_cons, List.getLast?_cons]; rfl

namespace Connection

/-- The loop writes a rising stream and knows what it has reached. -/
structure Climbs (connection : Connection) : Prop where
  rising : Rising connection.cursor connection.written
  reached : reach connection.cursor connection.written = connection.lastId

variable {connection result : Connection} {rows : List SimulationEvent}

theorem Climbs.start (runId : String) (cursor : Int) : (start runId cursor).Climbs :=
  ⟨trivial, rfl⟩

/-- Frames that rise from where the loop stands. -/
theorem Climbs.write {frames : List Frame} {lastId : Int} (climbs : connection.Climbs) (phase : Phase)
    (rising : Rising connection.lastId frames) (reached : reach connection.lastId frames = lastId) :
    ({ connection with written := connection.written ++ frames, lastId := lastId, phase := phase } :
      Connection).Climbs where
  rising := rising_append.mpr ⟨climbs.rising, by rw [climbs.reached]; exact rising⟩
  reached := by
    have before := climbs.reached
    unfold reach at before reached ⊢
    rw [List.foldl_append, before, reached]

theorem Climbs.phase (climbs : connection.Climbs) (phase : Phase) :
    ({ connection with phase := phase } : Connection).Climbs :=
  ⟨climbs.rising, climbs.reached⟩

/-- Every step of the loop keeps its stream rising. -/
theorem Climbs.advance {step : StreamStep} (climbs : connection.Climbs)
    (keyed : Keyed SimulationEvent.eventId rows)
    (advanced : connection.advance rows step = some result) : result.Climbs := by
  cases advance_cases advanced with
  | reset now _ expired =>
      exact climbs.write (.selecting _) ⟨lt_latestEventId_of_expired expired, trivial⟩ rfl
  | bounds now _ _ => exact climbs.phase _
  | page _ =>
      have increasing := eventPage_increasing connection.runId connection.lastId 100 keyed
      have above : ∀ event ∈ connection.page rows, connection.lastId < event.eventId :=
        fun event member => (mem_eventPage member).2.2
      have risen := rising_page increasing above
      rw [readPage_eq]
      exact climbs.write _ risen.1 risen.2
  | heartbeat now selecting => exact climbs.write .polling ⟨trivial, trivial⟩ rfl
  | tick _ => exact climbs.phase _
  | finish _ => exact climbs.phase _

/-- A step of the loop only adds frames, and it adds events of the run. -/
theorem advance_extends {step : StreamStep} (advanced : connection.advance rows step = some result) :
    result.runId = connection.runId ∧ result.cursor = connection.cursor ∧
      ∃ more, result.written = connection.written ++ more ∧
        ∀ event ∈ sentEvents more, event ∈ rows ∧ event.runId = connection.runId := by
  have without : forall frame : Frame, frame.persisted? = none ->
      ∀ event ∈ sentEvents [frame], event ∈ rows ∧ event.runId = connection.runId := by
    intro frame other event member
    have empty : sentEvents [frame] = [] := List.filterMap_cons_none other
    rw [empty] at member
    cases member
  have still : forall phase, ({ connection with phase := phase } : Connection).written =
      connection.written ++ [] := fun _ => (List.append_nil _).symm
  cases advance_cases advanced with
  | reset now _ _ => exact ⟨rfl, rfl, [_], rfl, without _ rfl⟩
  | bounds now _ _ => exact ⟨rfl, rfl, [], still _, (fun _ member => nomatch member)⟩
  | page _ =>
      rw [readPage_eq]
      refine ⟨rfl, rfl, _, rfl, ?_⟩
      intro event member
      rw [sentEvents_persisted] at member
      rcases mem_eventPage member with ⟨inRows, sameRun, _⟩
      exact ⟨inRows, sameRun⟩
  | heartbeat now _ => exact ⟨rfl, rfl, [_], rfl, without _ rfl⟩
  | tick _ => exact ⟨rfl, rfl, [], still _, (fun _ member => nomatch member)⟩
  | finish _ => exact ⟨rfl, rfl, [], still _, (fun _ member => nomatch member)⟩

end Connection

end Live
end FederatedIot
