import FederatedIot.Foundation.Transition
import FederatedIot.Live.EventLog

namespace FederatedIot
namespace Live

open Foundation Foundation.Relation Queue

/-!
# The event stream of a run

`simulationEvents` repeats one poll.  `EventsAfter` first reads the smallest
and the largest identifier of the run's events and reports an expired cursor;
otherwise a second statement reads the next page.  The two statements are two
snapshots of the log, and writers may commit between them.  After the poll the
loop waits for a tick, for a heartbeat, or for the end of the request.

The frames are kept as the loop writes them: events of the log, resets and
heartbeats.
-/

/-- A frame of the stream. -/
inductive Frame where
  | persisted (event : SimulationEvent)
  | reset (latest : Int) (occurredAt : Queue.Instant)
  | heartbeat (latest : Int) (serverTime : Queue.Instant)

/-- Where the loop stands: before the poll, between its two statements with the
largest identifier of the first, or in the `select` after it. -/
inductive Phase where
  | polling
  | bounded (latest : Int)
  | selecting (latest : Int)
  | finished

/-- A request to the stream: the cursor that the client sent, the cursor of the
loop, and what has been written so far. -/
structure Connection where
  runId : String
  cursor : Int
  lastId : Int
  phase : Phase
  written : List Frame

/-! ## EventsAfter -/

def eventIds (runId : String) (rows : List SimulationEvent) : List Nat :=
  (rows.filter fun row => row.runId = runId).map SimulationEvent.eventId

/-- `COALESCE(min(event_id),0)`. -/
def minimumEventId (runId : String) (rows : List SimulationEvent) : Int :=
  (eventIds runId rows).min?.getD 0

/-- `COALESCE(max(event_id),0)`. -/
def latestEventId (runId : String) (rows : List SimulationEvent) : Int :=
  (eventIds runId rows).max?.getD 0

/-- The reset test of `EventsAfter`. -/
def cursorExpired (lastEventId minimum : Int) : Bool :=
  0 < lastEventId && 0 < minimum && lastEventId < minimum - 1

def pageLimit (limit : Int) : Nat :=
  if limit < 1 ∨ 100 < limit then 100 else limit.toNat

/-- The second statement of `EventsAfter`. -/
def eventPage (runId : String) (lastEventId limit : Int) (rows : List SimulationEvent) :
    List SimulationEvent :=
  ((rows.filter fun row => row.runId = runId ∧ lastEventId < row.eventId).insertionSort
    fun left right => left.eventId ≤ right.eventId).take (pageLimit limit)

/-! ## The loop -/

namespace Connection

/-- The stream of a client that sent `cursor` as `Last-Event-ID`. -/
def start (runId : String) (cursor : Int) : Connection where
  runId := runId
  cursor := cursor
  lastId := cursor
  phase := .polling
  written := []

def write (frame : Frame) (connection : Connection) : Connection :=
  { connection with written := connection.written ++ [frame] }

/-- Write one event of a page and move the cursor to it. -/
def send (connection : Connection) (event : SimulationEvent) : Connection :=
  { connection.write (.persisted event) with lastId := event.eventId }

def page (connection : Connection) (rows : List SimulationEvent) : List SimulationEvent :=
  eventPage connection.runId connection.lastId 100 rows

/-- The first statement of a poll, with the reset that may follow it. -/
def readBounds (now : Queue.Instant) (rows : List SimulationEvent) (connection : Connection) : Connection :=
  let latest := latestEventId connection.runId rows
  if cursorExpired connection.lastId (minimumEventId connection.runId rows) then
    { connection.write (.reset latest now) with lastId := latest, phase := .selecting latest }
  else { connection with phase := .bounded latest }

/-- The second statement of a poll, and the frames of its page. -/
def readPage (rows : List SimulationEvent) (latest : Int) (connection : Connection) : Connection :=
  { (connection.page rows).foldl send connection with phase := .selecting latest }

end Connection

/-- What the loop does next; a request may end at any time. -/
inductive StreamStep where
  | readBounds (now : Queue.Instant)
  | readPage
  | heartbeat (now : Queue.Instant)
  | tick
  | finish

namespace Connection

def advance (rows : List SimulationEvent) (step : StreamStep) (connection : Connection) :
    Option Connection :=
  match step, connection.phase with
  | .readBounds now, .polling => some (connection.readBounds now rows)
  | .readPage, .bounded latest => some (connection.readPage rows latest)
  | .heartbeat now, .selecting latest =>
      some { connection.write (.heartbeat latest now) with phase := .polling }
  | .tick, .selecting _ => some { connection with phase := .polling }
  | .finish, .polling | .finish, .bounded _ | .finish, .selecting _ =>
      some { connection with phase := .finished }
  | _, _ => none

end Connection

/-! ## Written events -/

def Frame.persisted? : Frame -> Option SimulationEvent
  | .persisted event => some event
  | _ => none

/-- The events among the written frames. -/
def sentEvents (written : List Frame) : List SimulationEvent :=
  written.filterMap Frame.persisted?

@[simp]
theorem sentEvents_append (earlier later : List Frame) :
    sentEvents (earlier ++ later) = sentEvents earlier ++ sentEvents later :=
  List.filterMap_append

@[simp]
theorem sentEvents_persisted (events : List SimulationEvent) :
    sentEvents (events.map Frame.persisted) = events := by
  induction events with
  | nil => rfl
  | cons event rest inductionHypothesis =>
      change event :: sentEvents (rest.map Frame.persisted) = event :: rest
      rw [inductionHypothesis]

/-- A reset frame gave the identifier up before anything from it on was written. -/
def Announced (written : List Frame) (id : Nat) : Prop :=
  ∃ before latest occurredAt after, written = before ++ Frame.reset latest occurredAt :: after ∧
    (∀ sent ∈ sentEvents before, sent.eventId < id) ∧ (id : Int) ≤ latest

theorem Announced.append {written : List Frame} {id : Nat} (announced : Announced written id)
    (more : List Frame) : Announced (written ++ more) id := by
  rcases announced with ⟨before, latest, occurredAt, after, rfl, below, covered⟩
  exact ⟨before, latest, occurredAt, after ++ more, by simp, below, covered⟩

/-! ## Pages -/

section

variable {runId : String} {lastEventId limit : Int} {rows : List SimulationEvent}
  {row : SimulationEvent}

theorem mem_eventPage (member : row ∈ eventPage runId lastEventId limit rows) :
    row ∈ rows ∧ row.runId = runId ∧ lastEventId < row.eventId := by
  have selected := List.mem_of_mem_take member
  rw [List.mem_insertionSort, List.mem_filter, decide_eq_true_eq] at selected
  exact selected

/-- The rows that a page is cut from, in the order of their identifiers. -/
theorem eventPage_sorted (runId : String) (lastEventId : Int)
    (keyed : Keyed SimulationEvent.eventId rows) :
    ((rows.filter fun row => row.runId = runId ∧ lastEventId < row.eventId).insertionSort
      fun left right => left.eventId ≤ right.eventId).Pairwise
        fun earlier later => earlier.eventId < later.eventId := by
  apply Keyed.pairwise_lt ?_ (List.pairwise_insertionSort _ _)
  have permuted := (List.perm_insertionSort
    (fun left right : SimulationEvent => left.eventId ≤ right.eventId)
    (rows.filter fun row => row.runId = runId ∧ lastEventId < row.eventId)).map
      SimulationEvent.eventId
  unfold Keyed
  rw [permuted.nodup_iff]
  exact List.Nodup.sublist (List.Sublist.map _ List.filter_sublist) keyed

theorem eventPage_increasing (runId : String) (lastEventId limit : Int)
    (keyed : Keyed SimulationEvent.eventId rows) :
    (eventPage runId lastEventId limit rows).Pairwise
      fun earlier later => earlier.eventId < later.eventId :=
  (eventPage_sorted runId lastEventId keyed).sublist (List.take_sublist _ _)

/-- A page has no gaps: a visible event up to an event of the page is on it. -/
theorem eventPage_complete (keyed : Keyed SimulationEvent.eventId rows) (member : row ∈ rows)
    (sameRun : row.runId = runId) (after : lastEventId < row.eventId) {later : SimulationEvent}
    (onPage : later ∈ eventPage runId lastEventId limit rows)
    (upTo : row.eventId ≤ later.eventId) : row ∈ eventPage runId lastEventId limit rows := by
  have sorted := eventPage_sorted runId lastEventId keyed
  have selected : row ∈ (rows.filter fun row =>
      row.runId = runId ∧ lastEventId < row.eventId).insertionSort
        fun left right => left.eventId ≤ right.eventId := by
    rw [List.mem_insertionSort, List.mem_filter, decide_eq_true_eq]
    exact ⟨member, sameRun, after⟩
  rw [← List.take_append_drop (pageLimit limit) (List.insertionSort _ _)] at selected sorted
  rcases List.mem_append.mp selected with early | late
  · exact early
  · have ordered := (List.pairwise_append.mp sorted).2.2 later onPage row late
    omega

/-- A page is empty only when no visible event lies above the cursor. -/
theorem eventPage_ne_nil (member : row ∈ rows) (sameRun : row.runId = runId)
    (after : lastEventId < row.eventId) : eventPage runId lastEventId 100 rows ≠ [] := by
  intro empty
  have selected : row ∈ (rows.filter fun row =>
      row.runId = runId ∧ lastEventId < row.eventId).insertionSort
        fun left right => left.eventId ≤ right.eventId := by
    rw [List.mem_insertionSort, List.mem_filter, decide_eq_true_eq]
    exact ⟨member, sameRun, after⟩
  rcases List.take_eq_nil_iff.mp empty with zero | none
  · exact absurd zero (by decide)
  · rw [none] at selected
    cases selected

theorem le_latestEventId (member : row ∈ rows) (sameRun : row.runId = runId) :
    (row.eventId : Int) ≤ latestEventId runId rows := by
  have inIds : row.eventId ∈ eventIds runId rows :=
    List.mem_map_of_mem (List.mem_filter.mpr ⟨member, decide_eq_true sameRun⟩)
  have bounded := List.le_max?_getD_of_mem (k := 0) inIds
  unfold latestEventId
  exact_mod_cast bounded

/-- The cursor of an expired client is below the newest event. -/
theorem lt_latestEventId_of_expired
    (expired : cursorExpired lastEventId (minimumEventId runId rows) = true) :
    lastEventId < latestEventId runId rows := by
  have tested : (0 < lastEventId ∧ 0 < minimumEventId runId rows) ∧
      lastEventId < minimumEventId runId rows - 1 := by
    simpa [cursorExpired] using expired
  rcases tested with ⟨⟨_, occupied⟩, below⟩
  unfold minimumEventId at occupied below
  cases smallest : (eventIds runId rows).min? with
  | none =>
      rw [smallest] at occupied
      exact absurd occupied (by decide)
  | some minimum =>
      rw [smallest, Option.getD_some] at below
      rcases List.mem_map.mp (List.min?_mem smallest) with ⟨oldest, oldestMember, same⟩
      rw [List.mem_filter, decide_eq_true_eq] at oldestMember
      have upTo := le_latestEventId oldestMember.1 oldestMember.2
      omega

end

/-! ## Sending a page -/

namespace Connection

variable {connection : Connection} {rows : List SimulationEvent} {latest : Int} {now : Queue.Instant}

theorem send_fold (events : List SimulationEvent) (connection : Connection) :
    events.foldl send connection =
      { connection with
        written := connection.written ++ events.map Frame.persisted
        lastId := (events.getLast?.map fun event => (event.eventId : Int)).getD
          connection.lastId } := by
  induction events generalizing connection with
  | nil => simp
  | cons event rest inductionHypothesis =>
      rw [List.foldl_cons, inductionHypothesis]
      cases rest with
      | nil => simp [send, write]
      | cons next others =>
          rw [List.getLast?_cons_cons]
          simp [send, write, List.getLast?_cons]

theorem readPage_eq : connection.readPage rows latest =
    { connection with
      written := connection.written ++ (connection.page rows).map Frame.persisted
      lastId := ((connection.page rows).getLast?.map fun event => (event.eventId : Int)).getD
        connection.lastId
      phase := .selecting latest } := by
  unfold readPage
  rw [send_fold]

/-- After a page the cursor is where it was, or at an event of the page. -/
theorem readPage_lastId (connection : Connection) (rows : List SimulationEvent) (latest : Int) :
    (connection.readPage rows latest).lastId = connection.lastId ∨
    ∃ event ∈ connection.page rows,
      (connection.readPage rows latest).lastId = (event.eventId : Int) := by
  rw [readPage_eq]
  cases found : (connection.page rows).getLast? with
  | none => exact Or.inl rfl
  | some event => exact Or.inr ⟨event, List.mem_of_getLast? found, rfl⟩

/-- After a page the cursor is at or beyond every event of it. -/
theorem le_readPage_lastId (latest : Int) (keyed : Keyed SimulationEvent.eventId rows) {event : SimulationEvent}
    (onPage : event ∈ connection.page rows) :
    (event.eventId : Int) ≤ (connection.readPage rows latest).lastId := by
  have increasing := eventPage_increasing connection.runId connection.lastId 100 keyed
  rw [readPage_eq]
  cases found : (connection.page rows).getLast? with
  | none =>
      rw [List.getLast?_eq_none_iff.mp found] at onPage
      cases onPage
  | some newest =>
      rcases List.getLast?_eq_some_iff.mp found with ⟨earlier, split⟩
      change (event.eventId : Int) ≤ newest.eventId
      unfold page at split onPage
      rw [split] at onPage increasing
      rcases List.mem_append.mp onPage with before | last
      · have ordered := (List.pairwise_append.mp increasing).2.2 event before newest
          List.mem_cons_self
        exact_mod_cast Nat.le_of_lt ordered
      · rw [List.mem_singleton.mp last]

/-- What a step of the loop does. -/
inductive Advance (rows : List SimulationEvent) (connection : Connection) :
    StreamStep -> Connection -> Prop
  | reset (now : Queue.Instant) (polling : connection.phase = .polling)
      (expired : cursorExpired connection.lastId
        (minimumEventId connection.runId rows) = true) :
      Advance rows connection (.readBounds now)
        { connection.write (.reset (latestEventId connection.runId rows) now) with
          lastId := latestEventId connection.runId rows
          phase := .selecting (latestEventId connection.runId rows) }
  | bounds (now : Queue.Instant) (polling : connection.phase = .polling)
      (current : cursorExpired connection.lastId
        (minimumEventId connection.runId rows) = false) :
      Advance rows connection (.readBounds now)
        { connection with phase := .bounded (latestEventId connection.runId rows) }
  | page {latest : Int} (bounded : connection.phase = .bounded latest) :
      Advance rows connection .readPage (connection.readPage rows latest)
  | heartbeat (now : Queue.Instant) {latest : Int} (selecting : connection.phase = .selecting latest) :
      Advance rows connection (.heartbeat now)
        { connection.write (.heartbeat latest now) with phase := .polling }
  | tick {latest : Int} (selecting : connection.phase = .selecting latest) :
      Advance rows connection .tick { connection with phase := .polling }
  | finish (running : connection.phase ≠ .finished) :
      Advance rows connection .finish { connection with phase := .finished }

theorem advance_cases {step : StreamStep} {result : Connection}
    (accepted : connection.advance rows step = some result) :
    Advance rows connection step result := by
  cases phase : connection.phase with
  | polling =>
      cases step with
      | readBounds now =>
          simp only [advance, phase, Option.some.injEq, readBounds] at accepted
          subst accepted
          split
          · rename_i expired
            exact Advance.reset now phase expired
          · rename_i current
            exact Advance.bounds now phase (Bool.eq_false_of_not_eq_true current)
      | finish =>
          simp only [advance, phase, Option.some.injEq] at accepted
          subst accepted
          exact Advance.finish (by rw [phase]; exact Phase.noConfusion)
      | readPage => simp [advance, phase] at accepted
      | heartbeat now => simp [advance, phase] at accepted
      | tick => simp [advance, phase] at accepted
  | bounded latest =>
      cases step with
      | readPage =>
          simp only [advance, phase, Option.some.injEq] at accepted
          subst accepted
          exact Advance.page phase
      | finish =>
          simp only [advance, phase, Option.some.injEq] at accepted
          subst accepted
          exact Advance.finish (by rw [phase]; exact Phase.noConfusion)
      | readBounds now => simp [advance, phase] at accepted
      | heartbeat now => simp [advance, phase] at accepted
      | tick => simp [advance, phase] at accepted
  | selecting latest =>
      cases step with
      | heartbeat now =>
          simp only [advance, phase, Option.some.injEq] at accepted
          subst accepted
          exact Advance.heartbeat now phase
      | tick =>
          simp only [advance, phase, Option.some.injEq] at accepted
          subst accepted
          exact Advance.tick phase
      | finish =>
          simp only [advance, phase, Option.some.injEq] at accepted
          subst accepted
          exact Advance.finish (by rw [phase]; exact Phase.noConfusion)
      | readBounds now => simp [advance, phase] at accepted
      | readPage => simp [advance, phase] at accepted
  | finished => cases step <;> simp [advance, phase] at accepted

end Connection

end Live
end FederatedIot
