import FederatedIot.Queue.Continuity

namespace FederatedIot
namespace Live

open Foundation Foundation.Relation Queue

/-!
# The event log under concurrent writers

Writers are transactions that insert events of `simulation_events`.  An event
draws its identifier when it is inserted and becomes visible when its writer
commits, so that a smaller identifier may become visible after a larger one.
The retention trigger runs inside the writer: it sees the committed rows and
the writer's own rows, and what it deletes disappears when the writer commits.

The log also remembers every event that has ever committed.
-/

/-- An open transaction: the events it has inserted, and the identifiers of the
committed events that its triggers have deleted. -/
structure Writer where
  inserted : List SimulationEvent
  deleted : List Nat

namespace Writer

/-- The events that a statement of the writer sees. -/
def view (writer : Writer) (rows : List SimulationEvent) : List SimulationEvent :=
  (rows.filter fun row => row.eventId ∉ writer.deleted) ++ writer.inserted

end Writer

structure EventLog where
  rows : List SimulationEvent
  writers : Nat -> Option Writer
  lastEventId : Nat
  history : List SimulationEvent

/-- What a writer does next. -/
inductive WriterStep where
  | start
  | insert (now : Queue.Instant) (retention : Int) (values : List EventValues)
  | commit
  | rollback

namespace EventLog

def empty : EventLog where
  rows := []
  writers := fun _ => none
  lastEventId := 0
  history := []

/-- The writer after an insert of events with the retention triggers of the
inserted rows. -/
def insertEvents (now : Queue.Instant) (retention : Int) (values : List EventValues) (log : EventLog)
    (writer : Writer) : Writer :=
  let kept := appendEvents now log.lastEventId retention values (writer.view log.rows)
  { inserted := kept.filter fun row => row.eventId ∉ log.rows.map SimulationEvent.eventId
    deleted := (log.rows.map SimulationEvent.eventId).filter fun id =>
      id ∉ kept.map SimulationEvent.eventId }

def setWriter (log : EventLog) (name : Nat) (writer : Option Writer) : EventLog :=
  { log with writers := Function.update log.writers name writer }

/-- One step of a writer; a step that the writer cannot take is `none`. -/
def advance (name : Nat) (step : WriterStep) (log : EventLog) : Option EventLog :=
  match step, log.writers name with
  | .start, none => some (log.setWriter name (some { inserted := [], deleted := [] }))
  | .insert now retention values, some writer =>
      some { log.setWriter name (some (log.insertEvents now retention values writer)) with
        lastEventId := log.lastEventId + values.length }
  | .commit, some writer =>
      some { log.setWriter name none with
        rows := writer.view log.rows
        history := log.history ++ writer.inserted }
  | .rollback, some _ => some (log.setWriter name none)
  | _, _ => none

end EventLog

/-! ## What a step can do -/

section

variable {name other : Nat} {log result : EventLog}

/-- The four things that a step of a writer does. -/
inductive Advance (name : Nat) (log : EventLog) : WriterStep -> EventLog -> Prop
  | start (idle : log.writers name = none) :
      Advance name log .start (log.setWriter name (some { inserted := [], deleted := [] }))
  | insert {writer : Writer} (now : Queue.Instant) (retention : Int) (values : List EventValues)
      (running : log.writers name = some writer) :
      Advance name log (.insert now retention values)
        { log.setWriter name (some (log.insertEvents now retention values writer)) with
          lastEventId := log.lastEventId + values.length }
  | commit {writer : Writer} (running : log.writers name = some writer) :
      Advance name log .commit
        { log.setWriter name none with
          rows := writer.view log.rows
          history := log.history ++ writer.inserted }
  | rollback {writer : Writer} (running : log.writers name = some writer) :
      Advance name log .rollback (log.setWriter name none)

theorem advance_cases {step : WriterStep} (accepted : log.advance name step = some result) :
    Advance name log step result := by
  cases found : log.writers name with
  | none =>
      cases step with
      | start =>
          simp only [EventLog.advance, found, Option.some.injEq] at accepted
          exact accepted ▸ Advance.start found
      | insert now retention values => simp [EventLog.advance, found] at accepted
      | commit => simp [EventLog.advance, found] at accepted
      | rollback => simp [EventLog.advance, found] at accepted
  | some writer =>
      cases step with
      | start => simp [EventLog.advance, found] at accepted
      | insert now retention values =>
          simp only [EventLog.advance, found, Option.some.injEq] at accepted
          exact accepted ▸ Advance.insert now retention values found
      | commit =>
          simp only [EventLog.advance, found, Option.some.injEq] at accepted
          exact accepted ▸ Advance.commit found
      | rollback =>
          simp only [EventLog.advance, found, Option.some.injEq] at accepted
          exact accepted ▸ Advance.rollback found

@[simp]
theorem setWriter_rows {writer : Option Writer} : (log.setWriter name writer).rows = log.rows :=
  rfl

@[simp]
theorem setWriter_history {writer : Option Writer} :
    (log.setWriter name writer).history = log.history :=
  rfl

@[simp]
theorem setWriter_lastEventId {writer : Option Writer} :
    (log.setWriter name writer).lastEventId = log.lastEventId :=
  rfl

/-- A writer after a step is the one that was set, or an untouched one. -/
theorem setWriter_writers {writer : Option Writer} {found : Writer}
    (running : (log.setWriter name writer).writers other = some found) :
    (other = name ∧ writer = some found) ∨ (other ≠ name ∧ log.writers other = some found) := by
  by_cases same : other = name
  · left
    change Function.update log.writers name writer other = some found at running
    rw [same, Function.update_self] at running
    exact ⟨same, running⟩
  · right
    change Function.update log.writers name writer other = some found at running
    rw [Function.update_of_ne same] at running
    exact ⟨same, running⟩

end

/-! ## Identifiers -/

section

variable {now : Queue.Instant} {last : Nat} {retention : Int} {values : List EventValues}
  {events : List SimulationEvent} {event : SimulationEvent}

/-- Retention only drops events. -/
theorem appendEvents_sublist :
    (appendEvents now last retention values events).Sublist
      (events ++ numberedEvents now last values) := by
  have fold : forall (dropped : List EventValues) (kept : List SimulationEvent),
      (dropped.foldl (fun kept value => retainSimulationEvents retention value.runId kept)
        kept).Sublist kept := by
    intro dropped
    induction dropped with
    | nil => exact fun kept => List.Sublist.refl kept
    | cons value rest inductionHypothesis =>
        intro kept
        exact (inductionHypothesis _).trans List.filter_sublist
  exact fold values _

/-- The new identifiers are the next ones of the sequence. -/
theorem numberedEvents_map_eventId (now : Queue.Instant) :
    (numberedEvents now last values).map SimulationEvent.eventId =
      List.range' (last + 1) values.length := by
  have positions : values.zipIdx.map Prod.snd = List.range values.length := by
    rw [List.zipIdx_map_snd, List.range_eq_range']
  unfold numberedEvents
  rw [List.map_map, List.range'_eq_map_range, ← positions, List.map_map]
  rfl

theorem numberedEvents_keyed : Keyed SimulationEvent.eventId (numberedEvents now last values) := by
  unfold Keyed
  rw [numberedEvents_map_eventId]
  exact List.nodup_range'

theorem numberedEvents_bounds (member : event ∈ numberedEvents now last values) :
    last < event.eventId ∧ event.eventId ≤ last + values.length := by
  have inRange : event.eventId ∈ List.range' (last + 1) values.length := by
    rw [← numberedEvents_map_eventId now]
    exact List.mem_map_of_mem member
  have bounds := List.mem_range'_1.mp inRange
  omega

end

/-- The identifiers of committed rows and of the rows that open writers hold
were all drawn from the sequence, each for one row only. -/
structure WellNumbered (log : EventLog) : Prop where
  committed : Keyed SimulationEvent.eventId log.rows
  drawn : ∀ row ∈ log.rows, row.eventId ≤ log.lastEventId
  own : forall name writer, log.writers name = some writer ->
    Keyed SimulationEvent.eventId writer.inserted
  ownDrawn : forall name writer, log.writers name = some writer ->
    ∀ row ∈ writer.inserted, row.eventId ≤ log.lastEventId
  apart : forall name writer, log.writers name = some writer ->
    ∀ row ∈ writer.inserted, ∀ kept ∈ log.rows, kept.eventId ≠ row.eventId
  disjoint : forall first second left right, log.writers first = some left ->
    log.writers second = some right -> first ≠ second ->
      ∀ row ∈ left.inserted, ∀ other ∈ right.inserted, row.eventId ≠ other.eventId

namespace WellNumbered

variable {name : Nat} {log result : EventLog} {writer : Writer} {row : SimulationEvent}
  {now : Queue.Instant} {retention : Int} {values : List EventValues}

theorem empty : WellNumbered EventLog.empty where
  committed := List.nodup_nil
  drawn := fun _ member => nomatch member
  own := fun _ _ running => nomatch running
  ownDrawn := fun _ _ running => nomatch running
  apart := fun _ _ running => nomatch running
  disjoint := fun _ _ _ _ running => nomatch running

theorem mem_view (member : row ∈ writer.view log.rows) :
    row ∈ log.rows ∨ row ∈ writer.inserted :=
  (List.mem_append.mp member).imp_left List.mem_of_mem_filter

theorem view_keyed (numbered : WellNumbered log) (running : log.writers name = some writer) :
    Keyed SimulationEvent.eventId (writer.view log.rows) := by
  unfold Keyed Writer.view
  rw [List.map_append]
  refine List.Nodup.append ?_ (numbered.own name writer running) ?_
  · exact List.Nodup.sublist (List.Sublist.map _ List.filter_sublist) numbered.committed
  · intro id kept inserted
    rcases List.mem_map.mp kept with ⟨keptRow, keptMember, rfl⟩
    rcases List.mem_map.mp inserted with ⟨ownRow, ownMember, same⟩
    exact numbered.apart name writer running ownRow ownMember keptRow
      (List.mem_of_mem_filter keptMember) same.symm

theorem view_drawn (numbered : WellNumbered log) (running : log.writers name = some writer)
    (member : row ∈ writer.view log.rows) : row.eventId ≤ log.lastEventId := by
  rcases mem_view member with kept | inserted
  · exact numbered.drawn row kept
  · exact numbered.ownDrawn name writer running row inserted

/-! ### Inserts -/

theorem mem_insertEvents (member : row ∈ (log.insertEvents now retention values writer).inserted) :
    (row ∈ writer.inserted ∨ row ∈ numberedEvents now log.lastEventId values) ∧
      ∀ kept ∈ log.rows, kept.eventId ≠ row.eventId := by
  rcases List.mem_filter.mp member with ⟨kept, fresh⟩
  rw [decide_eq_true_eq] at fresh
  have uncommitted : ∀ other ∈ log.rows, other.eventId ≠ row.eventId := by
    intro other otherMember same
    exact fresh (List.mem_map.mpr ⟨other, otherMember, same⟩)
  refine ⟨?_, uncommitted⟩
  rcases List.mem_append.mp (appendEvents_sublist.subset kept) with seen | new
  · rcases mem_view seen with committed | inserted
    · exact absurd rfl (uncommitted row committed)
    · exact Or.inl inserted
  · exact Or.inr new

theorem insertEvents_keyed (numbered : WellNumbered log)
    (running : log.writers name = some writer) :
    Keyed SimulationEvent.eventId (log.insertEvents now retention values writer).inserted := by
  have whole : ((writer.view log.rows ++ numberedEvents now log.lastEventId values).map
      SimulationEvent.eventId).Nodup := by
    rw [List.map_append]
    refine List.Nodup.append (numbered.view_keyed running) numberedEvents_keyed ?_
    intro id seen new
    rcases List.mem_map.mp seen with ⟨seenRow, seenMember, rfl⟩
    rcases List.mem_map.mp new with ⟨newRow, newMember, same⟩
    have drawn := numbered.view_drawn running seenMember
    have later := (numberedEvents_bounds newMember).1
    omega
  exact List.Nodup.sublist (List.Sublist.map _ (List.filter_sublist.trans appendEvents_sublist))
    whole

/-! ### Steps -/

/-- Setting a writer whose rows are drawn, distinct and apart from all others
keeps the log well numbered, whatever the sequence has moved on to. -/
theorem setWriter (numbered : WellNumbered log) {last : Nat} (later : log.lastEventId ≤ last)
    (keyed : Keyed SimulationEvent.eventId writer.inserted)
    (drawn : ∀ row ∈ writer.inserted, row.eventId ≤ last)
    (apart : ∀ row ∈ writer.inserted, ∀ kept ∈ log.rows, kept.eventId ≠ row.eventId)
    (disjoint : forall other held, other ≠ name -> log.writers other = some held ->
      ∀ row ∈ writer.inserted, ∀ past ∈ held.inserted, row.eventId ≠ past.eventId) :
    WellNumbered { log.setWriter name (some writer) with lastEventId := last } where
  committed := numbered.committed
  drawn := fun row member => (numbered.drawn row member).trans later
  own := by
    intro other held running
    rcases setWriter_writers running with ⟨_, same⟩ | ⟨_, before⟩
    · cases same
      exact keyed
    · exact numbered.own other held before
  ownDrawn := by
    intro other held running row member
    rcases setWriter_writers running with ⟨_, same⟩ | ⟨_, before⟩
    · cases same
      exact drawn row member
    · exact (numbered.ownDrawn other held before row member).trans later
  apart := by
    intro other held running
    rcases setWriter_writers running with ⟨_, same⟩ | ⟨_, before⟩
    · cases same
      exact apart
    · exact numbered.apart other held before
  disjoint := by
    intro first second left right runningLeft runningRight different
    rcases setWriter_writers runningLeft with ⟨sameFirst, same⟩ | ⟨otherFirst, beforeLeft⟩
    · cases same
      rcases setWriter_writers runningRight with ⟨sameSecond, _⟩ | ⟨otherSecond, beforeRight⟩
      · exact absurd (sameFirst.trans sameSecond.symm) different
      · exact disjoint second right otherSecond beforeRight
    · rcases setWriter_writers runningRight with ⟨_, same⟩ | ⟨_, beforeRight⟩
      · cases same
        intro row member past pastMember equal
        exact disjoint first left otherFirst beforeLeft past pastMember row member equal.symm
      · exact numbered.disjoint first second left right beforeLeft beforeRight different

/-- A writer that ends leaves the others as they are. -/
theorem removeWriter (numbered : WellNumbered log) (name : Nat) : WellNumbered (log.setWriter name none) where
  committed := numbered.committed
  drawn := numbered.drawn
  own := by
    intro other held running
    rcases setWriter_writers running with ⟨_, same⟩ | ⟨_, before⟩
    · cases same
    · exact numbered.own other held before
  ownDrawn := by
    intro other held running
    rcases setWriter_writers running with ⟨_, same⟩ | ⟨_, before⟩
    · cases same
    · exact numbered.ownDrawn other held before
  apart := by
    intro other held running
    rcases setWriter_writers running with ⟨_, same⟩ | ⟨_, before⟩
    · cases same
    · exact numbered.apart other held before
  disjoint := by
    intro first second left right runningLeft runningRight
    rcases setWriter_writers runningLeft with ⟨_, same⟩ | ⟨_, beforeLeft⟩
    · cases same
    rcases setWriter_writers runningRight with ⟨_, same⟩ | ⟨_, beforeRight⟩
    · cases same
    exact numbered.disjoint first second left right beforeLeft beforeRight

theorem insert (numbered : WellNumbered log) (running : log.writers name = some writer) :
    WellNumbered
      { log.setWriter name (some (log.insertEvents now retention values writer)) with
        lastEventId := log.lastEventId + values.length } := by
  refine numbered.setWriter (Nat.le_add_right _ _) (numbered.insertEvents_keyed running) ?_ ?_ ?_
  · intro row member
    rcases (mem_insertEvents member).1 with inserted | new
    · exact (numbered.ownDrawn name writer running row inserted).trans (Nat.le_add_right _ _)
    · exact (numberedEvents_bounds new).2
  · exact fun row member => (mem_insertEvents member).2
  · intro other held different otherRunning row member past pastMember
    rcases (mem_insertEvents member).1 with inserted | new
    · exact numbered.disjoint name other writer held running otherRunning different.symm
        row inserted past pastMember
    · have later := (numberedEvents_bounds new).1
      have earlier := numbered.ownDrawn other held otherRunning past pastMember
      omega

theorem commit (numbered : WellNumbered log) (running : log.writers name = some writer) :
    WellNumbered
      { log.setWriter name none with
        rows := writer.view log.rows
        history := log.history ++ writer.inserted } where
  committed := numbered.view_keyed running
  drawn := fun _ member => numbered.view_drawn running member
  own := (numbered.removeWriter name).own
  ownDrawn := (numbered.removeWriter name).ownDrawn
  apart := by
    intro other held otherRunning row member kept keptMember
    rcases setWriter_writers otherRunning with ⟨_, same⟩ | ⟨different, before⟩
    · cases same
    rcases mem_view keptMember with committed | inserted
    · exact numbered.apart other held before row member kept committed
    · exact numbered.disjoint name other writer held running before different.symm
        kept inserted row member
  disjoint := (numbered.removeWriter name).disjoint

/-- Every step of a writer keeps the identifiers apart. -/
theorem advance {step : WriterStep} (numbered : WellNumbered log)
    (accepted : log.advance name step = some result) : WellNumbered result := by
  cases advance_cases accepted with
  | start _ =>
      exact numbered.setWriter (Nat.le_refl _) List.nodup_nil (fun _ member => nomatch member)
        (fun _ member => nomatch member) (fun _ _ _ _ _ member => nomatch member)
  | insert now retention values running => exact numbered.insert running
  | commit running => exact numbered.commit running
  | rollback _ => exact numbered.removeWriter name

end WellNumbered

/-! ## Visibility -/

/-- Every visible event has committed. -/
def Remembers (log : EventLog) : Prop :=
  ∀ row ∈ log.rows, row ∈ log.history

theorem Remembers.advance {name : Nat} {step : WriterStep} {log result : EventLog}
    (remembers : Remembers log) (accepted : log.advance name step = some result) :
    Remembers result := by
  cases advance_cases accepted with
  | start _ => exact remembers
  | insert now retention values _ => exact remembers
  | rollback _ => exact remembers
  | commit _ =>
      intro row member
      rcases WellNumbered.mem_view member with committed | inserted
      · exact List.mem_append_left _ (remembers row committed)
      · exact List.mem_append_right _ inserted

end Live
end FederatedIot
