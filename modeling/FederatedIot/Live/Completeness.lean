import FederatedIot.Live.EventStream

namespace FederatedIot
namespace Live

open Foundation Foundation.Relation Queue

/-!
# Completeness of the event stream

One stream reads the log while any number of writers insert, commit, roll back
and let their triggers delete.  The loop moves its cursor along the identifiers
it sees, so an event that becomes visible behind the cursor, or that is deleted
above it after the reset test, is passed over.  As long as neither happens,
every event above the client's cursor that ever commits is written in the order
of identifiers, or a reset gives it up before anything from it on is written.
-/

/-- The log and the stream of one client, once it has connected. -/
structure StreamState where
  log : EventLog
  connection : Option Connection

inductive StreamLabel where
  | writer (name : Nat) (step : WriterStep)
  | connect (runId : String) (lastEventId : Int)
  | stream (step : StreamStep)

namespace StreamState

def perform (label : StreamLabel) (state : StreamState) : Option StreamState :=
  match label, state.connection with
  | .writer name step, connection =>
      (state.log.advance name step).map fun log => { log := log, connection := connection }
  | .connect runId lastEventId, none =>
      some { state with connection := some (Connection.start runId lastEventId) }
  | .stream step, some connection =>
      (connection.advance state.log.rows step).map fun after => { state with connection := some after }
  | _, _ => none

def replay (labels : List StreamLabel) (state : StreamState) : Option StreamState :=
  labels.foldlM (fun state label => state.perform label) state

end StreamState

/-- All interleavings of writers and the stream, from an empty log. -/
def streamSystem : System StreamState StreamLabel where
  initial := fun state => state = { log := EventLog.empty, connection := none }
  step := fun source label target => source.perform label = some target

/-! ## What the stream owes -/

/-- The events above the client's cursor that have committed are written in the
order of identifiers, or given up by a reset before anything from them on is
written. -/
structure Complete (history : List SimulationEvent) (connection : Connection) : Prop where
  increasing : (sentEvents connection.written).Pairwise
    fun earlier later => earlier.eventId < later.eventId
  accounted : ∀ event ∈ history, event.runId = connection.runId ->
    connection.cursor < event.eventId ->
      event ∈ sentEvents connection.written ∨ Announced connection.written event.eventId ∨
        ∀ sent ∈ sentEvents connection.written, sent.eventId < event.eventId

/-- Nothing visible is left to write. -/
def CaughtUp (state : StreamState) : Prop :=
  ∀ connection, state.connection = some connection -> ∀ row ∈ state.log.rows,
    row.runId = connection.runId -> (row.eventId : Int) ≤ connection.lastId

/-- No writer commits an event that the cursor has passed without a reset, and no
page is read that passes an event which retention has deleted. -/
def InOrder (state : StreamState) (label : StreamLabel) : Prop :=
  forall connection, state.connection = some connection ->
    match label with
    | .writer name .commit => forall writer, state.log.writers name = some writer ->
        ∀ event ∈ writer.inserted, event.runId = connection.runId ->
          connection.cursor < event.eventId ->
            connection.lastId < event.eventId ∨ Announced connection.written event.eventId
    | .stream .readPage => ∀ event ∈ state.log.history, event.runId = connection.runId ->
        connection.lastId < event.eventId ->
          (∃ later ∈ connection.page state.log.rows, event.eventId ≤ later.eventId) ->
            event ∈ state.log.rows
    | _ => True

/-! ## The cursor of the loop -/

/-- What the cursor says about the written frames and the committed events. -/
structure Follows (history : List SimulationEvent) (connection : Connection) : Prop where
  started : connection.cursor ≤ connection.lastId
  increasing : (sentEvents connection.written).Pairwise
    fun earlier later => earlier.eventId < later.eventId
  behind : ∀ sent ∈ sentEvents connection.written, (sent.eventId : Int) ≤ connection.lastId
  settled : ∀ event ∈ history, event.runId = connection.runId ->
    connection.cursor < event.eventId -> (event.eventId : Int) ≤ connection.lastId ->
      event ∈ sentEvents connection.written ∨ Announced connection.written event.eventId

namespace Follows

variable {history : List SimulationEvent} {connection : Connection} {rows : List SimulationEvent}

theorem complete (follows : Follows history connection) : Complete history connection where
  increasing := follows.increasing
  accounted := by
    intro event member sameRun above
    by_cases passed : (event.eventId : Int) ≤ connection.lastId
    · exact (follows.settled event member sameRun above passed).imp_right Or.inl
    · right
      right
      intro sent sentMember
      have upTo := follows.behind sent sentMember
      omega

theorem start (runId : String) (lastEventId : Int) :
    Follows history (Connection.start runId lastEventId) where
  started := le_refl lastEventId
  increasing := List.Pairwise.nil
  behind := fun _ member => nomatch member
  settled := by
    intro event _ _ above upTo
    have apart : lastEventId < event.eventId := above
    have within : (event.eventId : Int) ≤ lastEventId := upTo
    omega

/-- Writing a frame that is no event, without moving the cursor. -/
theorem remark (follows : Follows history connection) (frame : Frame)
    (plain : frame.persisted? = none) (phase : Phase) :
    Follows history { connection.write frame with phase := phase } := by
  have same : sentEvents (connection.written ++ [frame]) = sentEvents connection.written := by
    rw [sentEvents_append]
    simp [sentEvents, plain]
  refine ⟨follows.started, ?_, ?_, ?_⟩
  · exact same ▸ follows.increasing
  · intro sent member
    exact follows.behind sent (same ▸ member)
  · intro event member sameRun above upTo
    rcases follows.settled event member sameRun above upTo with written | announced
    · left
      exact same.symm ▸ written
    · exact Or.inr (announced.append [frame])

theorem phase (follows : Follows history connection) (phase : Phase) :
    Follows history { connection with phase := phase } :=
  ⟨follows.started, follows.increasing, follows.behind, follows.settled⟩

/-- A reset gives up everything between the old cursor and the new one. -/
theorem reset (follows : Follows history connection) (now : Queue.Instant)
    (expired : cursorExpired connection.lastId
      (minimumEventId connection.runId rows) = true) (phase : Phase) :
    Follows history
      { connection.write (.reset (latestEventId connection.runId rows) now) with
        lastId := latestEventId connection.runId rows
        phase := phase } := by
  have forward := lt_latestEventId_of_expired expired
  have remarked := follows.remark (.reset (latestEventId connection.runId rows) now) rfl phase
  refine ⟨?_, remarked.increasing, ?_, ?_⟩
  · exact follows.started.trans (le_of_lt forward)
  · intro sent member
    exact (remarked.behind sent member).trans (le_of_lt forward)
  · intro event member sameRun above upTo
    by_cases passed : (event.eventId : Int) ≤ connection.lastId
    · exact remarked.settled event member sameRun above passed
    · right
      refine ⟨connection.written, _, now, [], rfl, ?_, upTo⟩
      intro sent sentMember
      have before := follows.behind sent sentMember
      omega

/-- A page moves the cursor over events that it writes. -/
theorem readPage (follows : Follows history connection) {latest : Int}
    (keyed : Keyed SimulationEvent.eventId rows)
    (present : ∀ event ∈ history, event.runId = connection.runId ->
      connection.lastId < event.eventId ->
        (∃ later ∈ connection.page rows, event.eventId ≤ later.eventId) -> event ∈ rows) :
    Follows history (connection.readPage rows latest) := by
  have sent : sentEvents (connection.readPage rows latest).written =
      sentEvents connection.written ++ connection.page rows := by
    rw [Connection.readPage_eq, sentEvents_append, sentEvents_persisted]
  have forward : connection.lastId ≤ (connection.readPage rows latest).lastId := by
    rcases Connection.readPage_lastId connection rows latest with same | ⟨event, onPage, moved⟩
    · exact le_of_eq same.symm
    · exact moved ▸ le_of_lt (mem_eventPage onPage).2.2
  refine ⟨?_, ?_, ?_, ?_⟩
  · rw [Connection.readPage_eq] at forward ⊢
    exact follows.started.trans forward
  · rw [sent]
    refine List.pairwise_append.mpr ⟨follows.increasing, eventPage_increasing _ _ _ keyed, ?_⟩
    intro earlier written later onPage
    have before := follows.behind earlier written
    have after := (mem_eventPage onPage).2.2
    omega
  · intro event member
    rw [sent] at member
    rcases List.mem_append.mp member with written | onPage
    · exact (follows.behind event written).trans forward
    · exact Connection.le_readPage_lastId latest keyed onPage
  · intro event member sameRun above upTo
    have sameRun : event.runId = connection.runId := by
      rw [Connection.readPage_eq] at sameRun
      exact sameRun
    have above : connection.cursor < event.eventId := by
      rw [Connection.readPage_eq] at above
      exact above
    by_cases passed : (event.eventId : Int) ≤ connection.lastId
    · rcases follows.settled event member sameRun above passed with written | announced
      · left
        rw [sent]
        exact List.mem_append_left _ written
      · right
        rw [Connection.readPage_eq]
        exact announced.append _
    · left
      rw [sent]
      apply List.mem_append_right
      have after : connection.lastId < event.eventId := not_le.mp passed
      rcases Connection.readPage_lastId connection rows latest with same | ⟨later, onPage, moved⟩
      · omega
      · have within : event.eventId ≤ later.eventId := by
          rw [moved] at upTo
          exact_mod_cast upTo
        exact eventPage_complete keyed (present event member sameRun after ⟨later, onPage, within⟩)
          sameRun after onPage within

/-- A writer commits events that the cursor has not passed. -/
theorem commit (follows : Follows history connection) {inserted : List SimulationEvent}
    (inOrder : ∀ event ∈ inserted, event.runId = connection.runId ->
      connection.cursor < event.eventId ->
        connection.lastId < event.eventId ∨ Announced connection.written event.eventId) :
    Follows (history ++ inserted) connection := by
  refine ⟨follows.started, follows.increasing, follows.behind, ?_⟩
  intro event member sameRun above upTo
  rcases List.mem_append.mp member with past | new
  · exact follows.settled event past sameRun above upTo
  · rcases inOrder event new sameRun above with ahead | announced
    · omega
    · exact Or.inr announced

end Follows

/-! ## Runs -/

/-- What every step keeps. -/
structure Sound (state : StreamState) : Prop where
  numbered : WellNumbered state.log
  remembers : Remembers state.log
  follows : forall connection, state.connection = some connection ->
    Follows state.log.history connection

section

variable {state result : StreamState} {label : StreamLabel}

/-- The steps of the system, taken apart. -/
inductive Perform (state : StreamState) : StreamLabel -> StreamState -> Prop
  | writer {name : Nat} {step : WriterStep} {log : EventLog}
      (advanced : state.log.advance name step = some log) :
      Perform state (.writer name step) { log := log, connection := state.connection }
  | connect {runId : String} {lastEventId : Int} (alone : state.connection = none) :
      Perform state (.connect runId lastEventId)
        { state with connection := some (Connection.start runId lastEventId) }
  | stream {step : StreamStep} {connection after : Connection}
      (connected : state.connection = some connection)
      (advanced : connection.advance state.log.rows step = some after) :
      Perform state (.stream step) { state with connection := some after }

theorem perform_cases (accepted : state.perform label = some result) :
    Perform state label result := by
  cases label with
  | writer name step =>
      rcases Option.map_eq_some_iff.mp accepted with ⟨log, advanced, rfl⟩
      exact Perform.writer advanced
  | connect runId lastEventId =>
      cases found : state.connection with
      | some connection => simp [StreamState.perform, found] at accepted
      | none =>
          simp only [StreamState.perform, found, Option.some.injEq] at accepted
          exact accepted ▸ Perform.connect found
  | stream step =>
      cases found : state.connection with
      | none => simp [StreamState.perform, found] at accepted
      | some connection =>
          simp only [StreamState.perform, found] at accepted
          rcases Option.map_eq_some_iff.mp accepted with ⟨after, advanced, rfl⟩
          exact Perform.stream found advanced

theorem Sound.writer {name : Nat} {step : WriterStep} {log : EventLog} (sound : Sound state)
    (inOrder : InOrder state (.writer name step))
    (advanced : state.log.advance name step = some log) :
    Sound { log := log, connection := state.connection } where
  numbered := sound.numbered.advance advanced
  remembers := sound.remembers.advance advanced
  follows := by
    intro connection connected
    have follows := sound.follows connection connected
    cases advance_cases advanced with
    | start _ => exact follows
    | insert now retention values _ => exact follows
    | rollback _ => exact follows
    | commit running => exact follows.commit (inOrder connection connected _ running)

theorem Sound.stream {step : StreamStep} {connection after : Connection} (sound : Sound state)
    (inOrder : InOrder state (.stream step)) (connected : state.connection = some connection)
    (advanced : connection.advance state.log.rows step = some after) :
    Sound { state with connection := some after } where
  numbered := sound.numbered
  remembers := sound.remembers
  follows := by
    intro other same
    cases same
    have follows := sound.follows connection connected
    cases Connection.advance_cases advanced with
    | reset now _ expired => exact follows.reset now expired _
    | bounds now _ _ => exact follows.phase _
    | page _ => exact follows.readPage sound.numbered.committed (inOrder connection connected)
    | heartbeat now _ => exact follows.remark _ rfl _
    | tick _ => exact follows.phase _
    | finish _ => exact follows.phase _

theorem Sound.step (sound : Sound state) (inOrder : InOrder state label)
    (accepted : state.perform label = some result) : Sound result := by
  cases perform_cases accepted with
  | writer advanced => exact sound.writer inOrder advanced
  | stream connected advanced => exact sound.stream inOrder connected advanced
  | connect _ =>
      refine ⟨sound.numbered, sound.remembers, ?_⟩
      intro connection same
      cases same
      exact Follows.start _ _

end

theorem reachable_sound {state : StreamState}
    (reachable : (streamSystem.restrictSteps InOrder).Reachable state) : Sound state := by
  refine System.Reachable.invariant Sound ?_ ?_ reachable
  · rintro start rfl
    refine ⟨WellNumbered.empty, ?_, ?_⟩
    · intro row member
      cases member
    · intro connection connected
      cases connected
  · rintro source label target _ ⟨accepted, inOrder⟩ sound
    exact sound.step inOrder accepted

/-! ## Catching up -/

/-- The steps of the loop itself, with no heartbeat. -/
def StreamLabel.isPoll : StreamLabel -> Bool
  | .stream (.readBounds _) | .stream .readPage | .stream .tick => true
  | _ => false

/-- The visible events that the loop has not reached. -/
def ahead (connection : Connection) (rows : List SimulationEvent) : List SimulationEvent :=
  rows.filter fun row => row.runId = connection.runId ∧ connection.lastId < row.eventId

theorem mem_ahead {connection : Connection} {rows : List SimulationEvent} {row : SimulationEvent} :
    row ∈ ahead connection rows ↔
      row ∈ rows ∧ row.runId = connection.runId ∧ connection.lastId < row.eventId := by
  rw [ahead, List.mem_filter, decide_eq_true_eq]

/-- A page with events on it leaves fewer events ahead. -/
theorem ahead_readPage (connection : Connection) {rows : List SimulationEvent} (latest : Int)
    (keyed : Keyed SimulationEvent.eventId rows) (waiting : ahead connection rows ≠ []) :
    (ahead (connection.readPage rows latest) rows).length < (ahead connection rows).length := by
  rcases List.exists_mem_of_ne_nil _ waiting with ⟨row, member⟩
  rcases mem_ahead.mp member with ⟨inRows, sameRun, after⟩
  rcases List.exists_mem_of_ne_nil _ (eventPage_ne_nil inRows sameRun after) with ⟨event, onPage⟩
  have passed := Connection.le_readPage_lastId latest keyed onPage
  rcases mem_eventPage onPage with ⟨eventInRows, eventRun, eventAfter⟩
  have forward : connection.lastId < (connection.readPage rows latest).lastId :=
    lt_of_lt_of_le eventAfter passed
  have shrinks : ahead (connection.readPage rows latest) rows =
      (ahead connection rows).filter fun row =>
        (connection.readPage rows latest).lastId < row.eventId := by
    unfold ahead
    rw [List.filter_filter]
    apply List.filter_congr
    intro other _
    have sameRuns : (connection.readPage rows latest).runId = connection.runId := by
      rw [Connection.readPage_eq]
    rw [sameRuns, ← Bool.decide_and, decide_eq_decide]
    constructor
    · rintro ⟨ofRun, beyond⟩
      exact ⟨beyond, ofRun, forward.trans beyond⟩
    · rintro ⟨beyond, ofRun, _⟩
      exact ⟨ofRun, beyond⟩
  rw [shrinks, List.length_filter_lt_length_iff_exists]
  refine ⟨event, mem_ahead.mpr ⟨eventInRows, eventRun, eventAfter⟩, ?_⟩
  simp only [decide_eq_true_eq]
  omega

theorem caughtUp_of_ahead {state : StreamState} {connection : Connection}
    (connected : state.connection = some connection)
    (none : ahead connection state.log.rows = []) : CaughtUp state := by
  intro other same row member sameRun
  rw [connected] at same
  cases same
  by_contra beyond
  have inAhead := mem_ahead.mpr ⟨member, sameRun, not_le.mp beyond⟩
  rw [none] at inAhead
  cases inAhead

/-- From the top of the loop, polls alone write everything that is visible or
end in a reset to the newest event. -/
theorem polls_catch_up (count : Nat) :
    forall state connection, state.connection = some connection -> connection.phase = .polling ->
      Keyed SimulationEvent.eventId state.log.rows ->
        (ahead connection state.log.rows).length ≤ count ->
          ∃ polls later, (∀ label ∈ polls, label.isPoll = true) ∧
            streamSystem.Run state polls later ∧ CaughtUp later := by
  induction count with
  | zero =>
      intro state connection connected _ _ none
      exact ⟨[], state, List.forall_mem_nil _, System.Run.nil state,
        caughtUp_of_ahead connected (List.length_eq_zero_iff.mp (Nat.le_zero.mp none))⟩
  | succ count inductionHypothesis =>
      intro state connection connected polling keyed bounded
      by_cases waiting : ahead connection state.log.rows = []
      · exact ⟨[], state, List.forall_mem_nil _, System.Run.nil state,
          caughtUp_of_ahead connected waiting⟩
      cases expired : cursorExpired connection.lastId
        (minimumEventId connection.runId state.log.rows) with
      | true =>
          have read : streamSystem.step state (.stream (.readBounds 0))
              { state with connection := some (connection.readBounds 0 state.log.rows) } := by
            simp [streamSystem, StreamState.perform, connected, Connection.advance, polling]
          refine ⟨[_], _, by simp [StreamLabel.isPoll], System.Run.single read, ?_⟩
          intro other same row member sameRun
          cases same
          simp only [Connection.readBounds, expired, if_true] at sameRun ⊢
          exact le_latestEventId member sameRun
      | false =>
          let latest := latestEventId connection.runId state.log.rows
          let atPage : Connection := { connection with phase := .bounded latest }
          let after := atPage.readPage state.log.rows latest
          have read : streamSystem.step state (.stream (.readBounds 0))
              { state with connection := some atPage } := by
            simp [streamSystem, StreamState.perform, connected, Connection.advance, polling,
              Connection.readBounds, expired, atPage, latest]
          have page : streamSystem.step { state with connection := some atPage } (.stream .readPage)
              { state with connection := some after } := rfl
          have tick : streamSystem.step { state with connection := some after } (.stream .tick)
              { state with connection := some { after with phase := .polling } } := rfl
          have fewer : (ahead after state.log.rows).length ≤ count := by
            have less := ahead_readPage atPage latest keyed waiting
            have same : ahead atPage state.log.rows = ahead connection state.log.rows := rfl
            rw [same] at less
            exact Nat.le_of_lt_succ (lt_of_lt_of_le less bounded)
          rcases inductionHypothesis
            { state with connection := some { after with phase := .polling } }
            { after with phase := .polling } rfl rfl keyed fewer with
            ⟨polls, later, arePolls, run, caughtUp⟩
          refine ⟨_ :: _ :: _ :: polls, later, ?_,
            System.Run.cons read (System.Run.cons page (System.Run.cons tick run)), caughtUp⟩
          intro label member
          simp only [List.mem_cons] at member
          rcases member with rfl | rfl | rfl | inPolls
          · rfl
          · rfl
          · rfl
          · exact arePolls label inPolls

/-! ## Sample runs -/

def noStream : StreamState where
  log := EventLog.empty
  connection := none

/-- An event of the sample runs. -/
def sampleValues : EventValues where
  runId := "run_1"
  eventType := .stage
  payloadJson := .object [("status", .string "RUNNING")]

def insertSamples (name count : Nat) (retention : Int) : StreamLabel :=
  .writer name (.insert 0 retention (List.replicate count sampleValues))

def sampleEvent (id : Nat) : SimulationEvent where
  eventId := id
  runId := sampleValues.runId
  eventType := sampleValues.eventType
  payloadJson := sampleValues.payloadJson
  occurredAt := 0

theorem replay_streamRun {labels : List StreamLabel} {state result : StreamState}
    (replayed : state.replay labels = some result) : streamSystem.Run state labels result :=
  System.Run.of_replay (fun _ _ _ performed => performed) replayed

/-! ## The stream accounts for every event -/

/-- In every interleaving whose steps are in order, the stream accounts for all
events above the client's cursor that have committed, and whenever the loop
comes round, polls alone bring it to the newest visible event. -/
theorem stream_accounts_for_events {state : StreamState}
    (reachable : (streamSystem.restrictSteps InOrder).Reachable state) :
    forall connection, state.connection = some connection ->
      Complete state.log.history connection ∧
        (connection.phase = .polling ->
          ∃ polls later, (∀ label ∈ polls, label.isPoll = true) ∧
            streamSystem.Run state polls later ∧ CaughtUp later) := by
  intro connection connected
  have sound := reachable_sound reachable
  refine ⟨(sound.follows connection connected).complete, ?_⟩
  intro polling
  exact polls_catch_up _ state connection connected polling sound.numbered.committed
    (Nat.le_refl _)

/-- One event is committed, read and followed by a heartbeat. -/
theorem stream_accounts_for_events_sample :
    ∃ state connection, state.connection = some connection ∧ connection.phase = .polling ∧
      sentEvents connection.written = [sampleEvent 1] ∧
      Complete state.log.history connection ∧
        ∃ polls later, (∀ label ∈ polls, label.isPoll = true) ∧
          streamSystem.Run state polls later ∧ CaughtUp later := by
  have undisturbed : forall (source : StreamState) (label : StreamLabel),
      source.connection = none -> InOrder source label := by
    intro source label alone connection connected
    rw [alone] at connected
    cases connected
  have reachable : (streamSystem.restrictSteps InOrder).Reachable _ :=
    ⟨noStream, [.writer 0 .start, insertSamples 0 1 2000, .writer 0 .commit, .connect "run_1" 0,
        .stream (.readBounds 0), .stream .readPage, .stream (.heartbeat 0)], rfl,
      System.Run.cons ⟨rfl, undisturbed _ _ rfl⟩
        (System.Run.cons ⟨rfl, undisturbed _ _ rfl⟩
          (System.Run.cons ⟨rfl, undisturbed _ _ rfl⟩
            (System.Run.cons ⟨rfl, undisturbed _ _ rfl⟩
              (System.Run.cons ⟨rfl, fun _ _ => trivial⟩
                (System.Run.cons ⟨rfl, fun _ _ _ member _ _ _ => member⟩
                  (System.Run.cons ⟨rfl, fun _ _ => trivial⟩ (System.Run.nil _)))))))⟩
  have accounts := stream_accounts_for_events reachable _ rfl
  exact ⟨_, _, rfl, rfl, rfl, accounts.1, accounts.2 rfl⟩

/-- Two writers hold the events 2 and 3; the later one commits first and its
event is read before the earlier one commits. -/
def overtakingLabels : List StreamLabel :=
  [.writer 0 .start, insertSamples 0 1 2000, .writer 0 .commit, .connect "run_1" 1,
    .writer 1 .start, insertSamples 1 1 2000, .writer 2 .start, insertSamples 2 1 2000,
    .writer 2 .commit, .stream (.readBounds 0), .stream .readPage, .writer 1 .commit]

/-- The cursor 1 is current when the bounds are read; retention deletes the
event 2 before the page is. -/
def expiringLabels : List StreamLabel :=
  [.writer 0 .start, insertSamples 0 2 3, .writer 0 .commit, .connect "run_1" 1,
    .stream (.readBounds 0), .writer 1 .start, insertSamples 1 3 3, .writer 1 .commit,
    .stream .readPage]

/-- The connection after a page with nothing written before it. -/
def afterPage (events : List SimulationEvent) (lastId latest : Int) : Connection where
  runId := "run_1"
  cursor := 1
  lastId := lastId
  phase := .selecting latest
  written := events.map Frame.persisted

/-- A stream without a reset does not account for an event that it has not
written although it has written a later one. -/
theorem not_complete_of_skipped {history sent : List SimulationEvent} {lastId latest : Int}
    (skipped later : SimulationEvent) (committed : skipped ∈ history)
    (sameRun : skipped.runId = "run_1") (above : 1 < skipped.eventId) (unsent : skipped ∉ sent)
    (passed : later ∈ sent) (ordered : skipped.eventId ≤ later.eventId) :
    ¬ Complete history (afterPage sent lastId latest) := by
  intro complete
  have written : sentEvents (afterPage sent lastId latest).written = sent := sentEvents_persisted sent
  have beyond : (1 : Int) < skipped.eventId := by exact_mod_cast above
  rcases complete.accounted skipped committed sameRun beyond with
    found | announced | below
  · rw [written] at found
    exact unsent found
  · rcases announced with ⟨before, bound, occurredAt, after, split, _⟩
    have isReset : Frame.reset bound occurredAt ∈ sent.map Frame.persisted := by
      change sent.map Frame.persisted = _ at split
      rw [split]
      exact List.mem_append_right _ List.mem_cons_self
    rcases List.mem_map.mp isReset with ⟨event, _, same⟩
    cases same
  · rw [written] at below
    exact absurd (below later passed) (Nat.not_lt.mpr ordered)

/-- An event that commits behind the cursor is skipped, and so is an event that
expires between the two statements of a poll. -/
theorem stream_skips_events :
    (∃ state connection, streamSystem.Run noStream overtakingLabels state ∧
      state.connection = some connection ∧ ¬ Complete state.log.history connection) ∧
    ∃ state connection, streamSystem.Run noStream expiringLabels state ∧
      state.connection = some connection ∧ ¬ Complete state.log.history connection := by
  have overtaken : ¬ Complete [sampleEvent 1, sampleEvent 3, sampleEvent 2]
      (afterPage [sampleEvent 3] 3 3) :=
    not_complete_of_skipped (sampleEvent 2) (sampleEvent 3) (by simp) rfl
      (by decide) (by simp [sampleEvent]) (by simp) (by decide)
  have expired : ¬ Complete [sampleEvent 1, sampleEvent 2, sampleEvent 3, sampleEvent 4, sampleEvent 5]
      (afterPage [sampleEvent 3, sampleEvent 4, sampleEvent 5] 5 2) :=
    not_complete_of_skipped (sampleEvent 2) (sampleEvent 3) (by simp) rfl
      (by decide) (by simp [sampleEvent]) (by simp) (by decide)
  exact ⟨⟨_, _, replay_streamRun rfl, rfl, overtaken⟩, ⟨_, _, replay_streamRun rfl, rfl, expired⟩⟩

end Live
end FederatedIot
