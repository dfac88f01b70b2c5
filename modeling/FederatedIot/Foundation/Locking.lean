import FederatedIot.Foundation.Transition
import Mathlib.Logic.Relation
import Mathlib.Logic.Function.Basic

namespace Foundation

/-!
# Transactions that lock and wait

A transaction takes locks one after the other and keeps them until it ends.
Which locks it takes may depend on what it reads on the way, so its locks are
a program: it requests a lock and waits for it, or takes a lock only if it is
free, or reads the committed state and goes on accordingly.

A waiting transaction waits for every transaction that holds a conflicting
lock on the same resource.  A deadlock is a cycle of such waits.  The rule for
excluding one is a rank that rises along the waits of waiting transactions; what the
rank may rely on is a discipline, which bounds what a transaction can hold and
await, and which its program is checked against once.
-/

universe u v w z

/-- The lock requests of a transaction. -/
inductive LockProgram (State : Type u) (Resource : Type v) (Mode : Type w) where
  | done
  | lock (resource : Resource) (mode : Mode) (rest : LockProgram State Resource Mode)
  | tryLock (resource : Resource) (mode : Mode) (taken skipped : LockProgram State Resource Mode)
  | read (next : State -> LockProgram State Resource Mode)

namespace LockProgram

variable {State : Type u} {Resource : Type v} {Mode : Type w}

/-- The resources that a program still requests when the state stays as it
is. -/
def requests (state : State) : LockProgram State Resource Mode -> List Resource
  | done => []
  | lock resource _ rest => resource :: rest.requests state
  | tryLock resource _ taken skipped => resource :: (taken.requests state ++ skipped.requests state)
  | read next => (next state).requests state

/-- Request several locks in order. -/
def lockEach (locks : List (Resource × Mode)) (rest : LockProgram State Resource Mode) :
    LockProgram State Resource Mode :=
  locks.foldr (fun request program => .lock request.1 request.2 program) rest

end LockProgram

/-- An open transaction, with the locks it holds, the latest first. -/
structure LockSession (Task : Type z) (State : Type u) (Resource : Type v) (Mode : Type w) where
  task : Task
  held : List (Resource × Mode)
  program : LockProgram State Resource Mode

/-- The committed state and the open transactions. -/
@[ext]
structure LockState (Task : Type z) (State : Type u) (Resource : Type v) (Mode : Type w) where
  store : State
  sessions : Nat -> Option (LockSession Task State Resource Mode)

/-- What a transaction does next. -/
inductive LockAction (Task : Type z) where
  | opened (session : Nat) (task : Task)
  | proceeded (session : Nat)
  | committed (session : Nat)
  | rolledBack (session : Nat)

/-- The transactions of a database and what they do to the committed state. -/
structure LockService (Task : Type z) (State : Type u) (Resource : Type v) (Mode : Type w) where
  conflicts : Mode -> Mode -> Bool
  program : Task -> LockProgram State Resource Mode
  initial : State -> Prop
  commits : State -> Task -> State -> Prop

variable {Task : Type z} {State : Type u} {Resource : Type v} {Mode : Type w}

namespace LockState

variable {state : LockState Task State Resource Mode} {index other : Nat}
  {session : LockSession Task State Resource Mode}

/-- Replace one session. -/
def set (state : LockState Task State Resource Mode) (index : Nat)
    (session : Option (LockSession Task State Resource Mode)) : LockState Task State Resource Mode :=
  { state with sessions := Function.update state.sessions index session }

@[simp]
theorem set_store (state : LockState Task State Resource Mode) (index : Nat)
    (session : Option (LockSession Task State Resource Mode)) : (state.set index session).store = state.store :=
  rfl

@[simp]
theorem set_sessions_self (state : LockState Task State Resource Mode) (index : Nat)
    (session : Option (LockSession Task State Resource Mode)) : (state.set index session).sessions index = session := by
  change Function.update state.sessions index session index = session
  exact Function.update_self _ _ _

theorem set_sessions_of_ne (state : LockState Task State Resource Mode)
    (session : Option (LockSession Task State Resource Mode)) (different : other ≠ index) :
    (state.set index session).sessions other = state.sessions other := by
  change Function.update state.sessions index session other = state.sessions other
  exact Function.update_of_ne different _ _

/-- A session after one was replaced. -/
theorem set_sessions {replaced : Option (LockSession Task State Resource Mode)}
    (found : (state.set index replaced).sessions other = some session) :
    (other = index ∧ replaced = some session) ∨ (other ≠ index ∧ state.sessions other = some session) := by
  by_cases same : other = index
  · subst same
    rw [set_sessions_self] at found
    exact Or.inl ⟨rfl, found⟩
  · rw [set_sessions_of_ne state replaced same] at found
    exact Or.inr ⟨same, found⟩

/-- No other session holds a conflicting lock. -/
def Free (conflicts : Mode -> Mode -> Bool) (state : LockState Task State Resource Mode) (index : Nat)
    (resource : Resource) (mode : Mode) : Prop :=
  forall other session, other ≠ index -> state.sessions other = some session ->
    forall held, (resource, held) ∈ session.held -> conflicts mode held = false

end LockState

namespace LockSession

/-- The session requests a lock that conflicts with one that the other
holds. -/
def Awaits (conflicts : Mode -> Mode -> Bool) (waiting holding : LockSession Task State Resource Mode) :
    Prop :=
  ∃ resource mode rest held, waiting.program = .lock resource mode rest ∧
    (resource, held) ∈ holding.held ∧ conflicts mode held = true

/-- The decision of `Awaits`. -/
def awaits [DecidableEq Resource] (conflicts : Mode -> Mode -> Bool)
    (waiting holding : LockSession Task State Resource Mode) : Bool :=
  match waiting.program with
  | .lock resource mode _ => holding.held.any fun lock => lock.1 = resource && conflicts mode lock.2
  | _ => false

theorem awaits_iff [DecidableEq Resource] {conflicts : Mode -> Mode -> Bool}
    {waiting holding : LockSession Task State Resource Mode} :
    waiting.awaits conflicts holding = true ↔ waiting.Awaits conflicts holding := by
  rcases waiting with ⟨task, held, program⟩
  unfold awaits Awaits
  cases program with
  | lock resource mode rest =>
      simp only [List.any_eq_true, Bool.and_eq_true, decide_eq_true_eq]
      constructor
      · rintro ⟨⟨row, other⟩, member, rfl, conflict⟩
        exact ⟨row, mode, rest, other, rfl, member, conflict⟩
      · rintro ⟨_, _, _, other, same, member, conflict⟩
        cases same
        exact ⟨_, member, rfl, conflict⟩
  | done | tryLock _ _ _ _ | read _ =>
      constructor
      · intro impossible
        cases impossible
      · rintro ⟨_, _, _, _, same, _⟩
        cases same

end LockSession

namespace LockService

variable (service : LockService Task State Resource Mode)

/-- One transaction opens, goes on, or ends.  A transaction may be rolled back
at any time; what it does to the committed state happens when it ends. -/
inductive Step : LockState Task State Resource Mode -> LockAction Task ->
    LockState Task State Resource Mode -> Prop
  | opened {state : LockState Task State Resource Mode} {index : Nat} (task : Task) :
      state.sessions index = none ->
        Step state (.opened index task) (state.set index (some ⟨task, [], service.program task⟩))
  | read {state : LockState Task State Resource Mode} {index : Nat} {task : Task}
      {held : List (Resource × Mode)} {next : State -> LockProgram State Resource Mode} :
      state.sessions index = some ⟨task, held, .read next⟩ ->
        Step state (.proceeded index) (state.set index (some ⟨task, held, next state.store⟩))
  | locked {state : LockState Task State Resource Mode} {index : Nat} {task : Task}
      {held : List (Resource × Mode)} {resource : Resource} {mode : Mode}
      {rest : LockProgram State Resource Mode} :
      state.sessions index = some ⟨task, held, .lock resource mode rest⟩ ->
      state.Free service.conflicts index resource mode ->
        Step state (.proceeded index) (state.set index (some ⟨task, (resource, mode) :: held, rest⟩))
  | taken {state : LockState Task State Resource Mode} {index : Nat} {task : Task}
      {held : List (Resource × Mode)} {resource : Resource} {mode : Mode}
      {taken skipped : LockProgram State Resource Mode} :
      state.sessions index = some ⟨task, held, .tryLock resource mode taken skipped⟩ ->
      state.Free service.conflicts index resource mode ->
        Step state (.proceeded index) (state.set index (some ⟨task, (resource, mode) :: held, taken⟩))
  | skipped {state : LockState Task State Resource Mode} {index : Nat} {task : Task}
      {held : List (Resource × Mode)} {resource : Resource} {mode : Mode}
      {taken skipped : LockProgram State Resource Mode} :
      state.sessions index = some ⟨task, held, .tryLock resource mode taken skipped⟩ ->
      ¬ state.Free service.conflicts index resource mode ->
        Step state (.proceeded index) (state.set index (some ⟨task, held, skipped⟩))
  | committed {state : LockState Task State Resource Mode} {index : Nat} {task : Task}
      {held : List (Resource × Mode)} {result : State} :
      state.sessions index = some ⟨task, held, .done⟩ -> service.commits state.store task result ->
        Step state (.committed index) ({ state with store := result }.set index none)
  | rolledBack {state : LockState Task State Resource Mode} {index : Nat}
      {session : LockSession Task State Resource Mode} :
      state.sessions index = some session -> Step state (.rolledBack index) (state.set index none)

/-- The interleavings of the transactions. -/
def system : System (LockState Task State Resource Mode) (LockAction Task) where
  initial := fun state => service.initial state.store ∧ forall index, state.sessions index = none
  step := service.Step

/-- One open transaction waits for another one. -/
def WaitsFor (state : LockState Task State Resource Mode) (waiting holding : Nat) : Prop :=
  waiting ≠ holding ∧ ∃ first second, state.sessions waiting = some first ∧
    state.sessions holding = some second ∧ first.Awaits service.conflicts second

/-- A cycle of waits. -/
def Deadlocked (state : LockState Task State Resource Mode) : Prop :=
  ∃ index, Relation.TransGen (service.WaitsFor state) index index

variable {service} {state target : LockState Task State Resource Mode}

/-- There is no cycle when a rank rises along the waits of transactions that
are waited for and wait themselves. -/
theorem not_deadlocked_of_rank (rank : Nat -> Nat)
    (rises : forall first second third, service.WaitsFor state first second ->
      service.WaitsFor state second third -> rank first < rank second) :
    ¬ service.Deadlocked state := by
  have along : forall first last, Relation.TransGen (service.WaitsFor state) first last ->
      forall next, service.WaitsFor state last next -> rank first < rank last := by
    intro first last chain
    induction chain with
    | single wait => exact fun next later => rises _ _ next wait later
    | tail earlier wait inductionHypothesis =>
        exact fun next later => Nat.lt_trans (inductionHypothesis _ wait) (rises _ _ next wait later)
  rintro ⟨index, cycle⟩
  rcases Relation.TransGen.head'_iff.mp cycle with ⟨next, wait, _⟩
  exact Nat.lt_irrefl _ (along index index cycle next wait)

/-! ## Locks exclude each other -/

/-- No two sessions hold conflicting locks. -/
def Exclusive (conflicts : Mode -> Mode -> Bool) (state : LockState Task State Resource Mode) : Prop :=
  forall first second left right, first ≠ second -> state.sessions first = some left ->
    state.sessions second = some right -> forall resource mode other, (resource, mode) ∈ left.held ->
      (resource, other) ∈ right.held -> conflicts mode other = false

/-- Exclusion survives when a session takes no further lock. -/
theorem Exclusive.set_of_held {conflicts : Mode -> Mode -> Bool} {index : Nat}
    {replaced : Option (LockSession Task State Resource Mode)} (exclusive : Exclusive conflicts state)
    (kept : forall session lock, replaced = some session -> lock ∈ session.held ->
      ∃ before, state.sessions index = some before ∧ lock ∈ before.held) :
    Exclusive conflicts (state.set index replaced) := by
  have source : forall position session lock, (state.set index replaced).sessions position = some session ->
      lock ∈ session.held -> ∃ before, state.sessions position = some before ∧ lock ∈ before.held := by
    intro position session lock found member
    rcases LockState.set_sessions found with ⟨rfl, same⟩ | ⟨_, unchanged⟩
    · exact kept session lock same member
    · exact ⟨session, unchanged, member⟩
  intro first second left right different leftFound rightFound resource mode other leftHeld rightHeld
  rcases source first left _ leftFound leftHeld with ⟨leftBefore, leftWas, leftEarlier⟩
  rcases source second right _ rightFound rightHeld with ⟨rightBefore, rightWas, rightEarlier⟩
  exact exclusive first second leftBefore rightBefore different leftWas rightWas resource mode other
    leftEarlier rightEarlier

/-- Exclusion survives when a session takes a free lock. -/
theorem Exclusive.set_of_free {conflicts : Mode -> Mode -> Bool} {index : Nat} {task : Task}
    {held : List (Resource × Mode)} {before after : LockProgram State Resource Mode}
    {resource : Resource} {mode : Mode} (symmetric : forall left right, conflicts left right = conflicts right left)
    (exclusive : Exclusive conflicts state) (found : state.sessions index = some ⟨task, held, before⟩)
    (free : state.Free conflicts index resource mode) :
    Exclusive conflicts (state.set index (some ⟨task, (resource, mode) :: held, after⟩)) := by
  intro first second left right different leftFound rightFound row leftMode rightMode leftHeld rightHeld
  rcases LockState.set_sessions leftFound with ⟨rfl, same⟩ | ⟨leftOther, leftWas⟩
  · cases same
    rcases LockState.set_sessions rightFound with ⟨rfl, _⟩ | ⟨rightOther, rightWas⟩
    · exact absurd rfl different
    · rcases List.mem_cons.mp leftHeld with same | earlier
      · cases same
        exact free second right rightOther rightWas rightMode rightHeld
      · exact exclusive first second _ right different found rightWas row leftMode rightMode earlier rightHeld
  · rcases LockState.set_sessions rightFound with ⟨rfl, same⟩ | ⟨_, rightWas⟩
    · cases same
      rcases List.mem_cons.mp rightHeld with same | earlier
      · cases same
        rw [symmetric]
        exact free first left leftOther leftWas leftMode leftHeld
      · exact exclusive first second left _ different leftWas found row leftMode rightMode leftHeld earlier
    · exact exclusive first second left right different leftWas rightWas row leftMode rightMode leftHeld
        rightHeld

/-- Sessions never hold conflicting locks. -/
theorem exclusive_of_reachable
    (symmetric : forall left right, service.conflicts left right = service.conflicts right left)
    (reachable : service.system.Reachable state) : Exclusive service.conflicts state := by
  refine System.Reachable.invariant (Exclusive service.conflicts) ?_ ?_ reachable
  · rintro start ⟨_, closed⟩ first second left right _ leftFound
    rw [closed first] at leftFound
    cases leftFound
  · intro source action target _ step exclusive
    cases step with
    | opened task _ =>
        refine exclusive.set_of_held fun session lock same member => ?_
        cases same
        cases member
    | read found | skipped found _ =>
        refine exclusive.set_of_held fun session lock same member => ?_
        cases same
        exact ⟨_, found, member⟩
    | locked found free | taken found free => exact exclusive.set_of_free symmetric found free
    | @committed index task held result _ _ =>
        have later : Exclusive service.conflicts { source with store := result } := exclusive
        refine later.set_of_held fun session lock same member => ?_
        cases same
    | rolledBack _ =>
        refine exclusive.set_of_held fun session lock same member => ?_
        cases same

/-- The committed state of a reachable state satisfies every invariant of the
commits. -/
theorem store_of_reachable {valid : State -> Prop}
    (initial : forall state, service.initial state -> valid state)
    (kept : forall state task result, valid state -> service.commits state task result -> valid result)
    (reachable : service.system.Reachable state) : valid state.store := by
  refine System.Reachable.invariant (fun state : LockState Task State Resource Mode => valid state.store)
    ?_ ?_ reachable
  · rintro start ⟨starts, _⟩
    exact initial start.store starts
  · intro source action target _ step holds
    cases step with
    | committed _ commits => exact kept _ _ _ holds commits
    | opened _ _ | read _ | locked _ _ | taken _ _ | skipped _ _ | rolledBack _ => exact holds

/-! ## Two sessions taking turns -/

/-- Two open sessions and no other one. -/
def pair (store : State) (sessions : LockSession Task State Resource Mode × LockSession Task State Resource Mode) :
    LockState Task State Resource Mode where
  store := store
  sessions
    | 0 => some sessions.1
    | 1 => some sessions.2
    | _ => none

/-- The next step of a session beside another one: it stays as it is when it
has ended or waits. -/
def proceed [DecidableEq Resource] (conflicts : Mode -> Mode -> Bool) (store : State)
    (session other : LockSession Task State Resource Mode) : LockSession Task State Resource Mode :=
  match session.program with
  | .read next => { session with program := next store }
  | .lock resource mode rest =>
      if session.awaits conflicts other then session
      else { session with held := (resource, mode) :: session.held, program := rest }
  | .done | .tryLock _ _ _ _ => session

/-- One turn of the first or the second session. -/
def turn [DecidableEq Resource] (conflicts : Mode -> Mode -> Bool) (store : State) (second : Bool)
    (sessions : LockSession Task State Resource Mode × LockSession Task State Resource Mode) :
    LockSession Task State Resource Mode × LockSession Task State Resource Mode :=
  if second then (sessions.1, proceed conflicts store sessions.2 sessions.1)
  else (proceed conflicts store sessions.1 sessions.2, sessions.2)

theorem pair_set_first {store : State} {first second replaced : LockSession Task State Resource Mode} :
    (pair store (first, second)).set 0 (some replaced) = pair store (replaced, second) := by
  refine LockState.ext rfl (funext fun index => ?_)
  rcases index with _ | _ | index
  · exact LockState.set_sessions_self _ _ _
  · exact LockState.set_sessions_of_ne _ _ (by decide)
  · exact LockState.set_sessions_of_ne _ _ (by omega)

theorem pair_set_second {store : State} {first second replaced : LockSession Task State Resource Mode} :
    (pair store (first, second)).set 1 (some replaced) = pair store (first, replaced) := by
  refine LockState.ext rfl (funext fun index => ?_)
  rcases index with _ | _ | index
  · exact LockState.set_sessions_of_ne _ _ (by decide)
  · exact LockState.set_sessions_self _ _ _
  · exact LockState.set_sessions_of_ne _ _ (by omega)

/-- A lock is free beside one other session that holds nothing in its way. -/
theorem free_of_not_awaits [DecidableEq Resource] {conflicts : Mode -> Mode -> Bool}
    {session other : LockSession Task State Resource Mode} {index : Nat} {resource : Resource} {mode : Mode}
    {rest : LockProgram State Resource Mode} (program : session.program = .lock resource mode rest)
    (alone : forall position found, position ≠ index -> state.sessions position = some found -> found = other)
    (passes : session.awaits conflicts other = false) : state.Free conflicts index resource mode := by
  intro position found different isOpen held member
  rw [alone position found different isOpen] at member
  by_contra blocked
  rw [Bool.not_eq_false] at blocked
  have waits := LockSession.awaits_iff.mpr ⟨resource, mode, rest, held, program, member, blocked⟩
  rw [passes] at waits
  cases waits

/-- A session goes on beside one other session. -/
theorem proceed_run [DecidableEq Resource] {session other : LockSession Task State Resource Mode} {index : Nat}
    (found : state.sessions index = some session)
    (alone : forall position found, position ≠ index -> state.sessions position = some found -> found = other) :
    (proceed service.conflicts state.store session other = session) ∨
      service.system.step state (.proceeded index)
        (state.set index (some (proceed service.conflicts state.store session other))) := by
  rcases session with ⟨task, held, program⟩
  unfold proceed
  cases program with
  | done => exact Or.inl rfl
  | tryLock _ _ _ _ => exact Or.inl rfl
  | read next => exact Or.inr (Step.read found)
  | lock resource mode rest =>
      dsimp only
      split
      · exact Or.inl rfl
      · rename_i passes
        exact Or.inr (Step.locked found (free_of_not_awaits rfl alone (Bool.eq_false_iff.mpr passes)))

/-- A turn is a step, or it changes nothing. -/
theorem turn_step [DecidableEq Resource] {store : State} (second : Bool)
    (sessions : LockSession Task State Resource Mode × LockSession Task State Resource Mode) :
    turn service.conflicts store second sessions = sessions ∨
      ∃ action, service.system.step (pair store sessions) action
        (pair store (turn service.conflicts store second sessions)) := by
  rcases sessions with ⟨first, other⟩
  unfold turn
  cases second with
  | false =>
      have alone : forall position found, position ≠ 0 ->
          (pair store (first, other)).sessions position = some found -> found = other := by
        intro position found different isOpen
        rcases position with _ | _ | position
        · exact absurd rfl different
        · exact (Option.some.inj isOpen).symm
        · cases isOpen
      rcases @proceed_run _ _ _ _ service (pair store (first, other)) _ first other 0 rfl alone with
        same | step
      · left
        rw [if_neg Bool.false_ne_true]
        exact congrArg (fun session => (session, other)) same
      · right
        rw [pair_set_first] at step
        exact ⟨_, step⟩
  | true =>
      have alone : forall position found, position ≠ 1 ->
          (pair store (first, other)).sessions position = some found -> found = first := by
        intro position found different isOpen
        rcases position with _ | _ | position
        · exact (Option.some.inj isOpen).symm
        · exact absurd rfl different
        · cases isOpen
      rcases @proceed_run _ _ _ _ service (pair store (first, other)) _ other first 1 rfl alone with
        same | step
      · left
        rw [if_pos rfl]
        exact congrArg (fun session => (first, session)) same
      · right
        rw [pair_set_second] at step
        exact ⟨_, step⟩

/-- The sessions that a list of turns leads through. -/
def turns [DecidableEq Resource] (conflicts : Mode -> Mode -> Bool) (store : State) :
    List Bool -> LockSession Task State Resource Mode × LockSession Task State Resource Mode ->
      List (LockSession Task State Resource Mode × LockSession Task State Resource Mode)
  | [], sessions => [sessions]
  | second :: rest, sessions => sessions :: turns conflicts store rest (turn conflicts store second sessions)

/-- Turns through admitted states are a run. -/
theorem turns_run [DecidableEq Resource] {store : State} {admits : LockState Task State Resource Mode -> Prop}
    (schedule : List Bool)
    (sessions : LockSession Task State Resource Mode × LockSession Task State Resource Mode)
    (admitted : ∀ visited ∈ turns service.conflicts store schedule sessions, admits (pair store visited)) :
    ∃ labels, (service.system.restrict admits).Run (pair store sessions) labels
      (pair store (schedule.foldl (fun visited second => turn service.conflicts store second visited) sessions)) := by
  induction schedule generalizing sessions with
  | nil => exact ⟨[], System.Run.nil _⟩
  | cons second rest inductionHypothesis =>
      have later : ∀ visited ∈ turns service.conflicts store rest (turn service.conflicts store second sessions),
          admits (pair store visited) := fun visited member => admitted visited (List.mem_cons_of_mem _ member)
      rcases inductionHypothesis (turn service.conflicts store second sessions) later with ⟨labels, run⟩
      rcases @turn_step _ _ _ _ service _ store second sessions with same | ⟨action, step⟩
      · rw [same] at run
        rw [List.foldl_cons, same]
        exact ⟨labels, run⟩
      · have head : turn service.conflicts store second sessions ∈
            turns service.conflicts store rest (turn service.conflicts store second sessions) := by
          cases rest <;> exact List.mem_cons_self
        exact ⟨action :: labels, System.Run.cons ⟨step, later _ head⟩ run⟩

/-- No open session. -/
def closed (store : State) : LockState Task State Resource Mode :=
  ⟨store, fun _ => none⟩

/-- Two transactions open one after the other and then take turns through
admitted states. -/
theorem turns_reachable [DecidableEq Resource] {store : State}
    {admits : LockState Task State Resource Mode -> Prop} (schedule : List Bool) (first second : Task)
    (initial : service.initial store) (admitsClosed : admits (closed store))
    (admitsFirst : admits ((closed store).set 0 (some ⟨first, [], service.program first⟩)))
    (admitted : ∀ visited ∈ turns service.conflicts store schedule
      (⟨first, [], service.program first⟩, ⟨second, [], service.program second⟩), admits (pair store visited)) :
    (service.system.restrict admits).Reachable
      (pair store (schedule.foldl (fun visited turns => turn service.conflicts store turns visited)
        (⟨first, [], service.program first⟩, ⟨second, [], service.program second⟩))) := by
  rcases turns_run schedule _ admitted with ⟨labels, run⟩
  refine System.Reachable.run ?_ run
  have bothOpen : ((closed store).set 0 (some ⟨first, [], service.program first⟩)).set 1
      (some ⟨second, [], service.program second⟩) =
        pair store (⟨first, [], service.program first⟩, ⟨second, [], service.program second⟩) := by
    refine LockState.ext rfl (funext fun index => ?_)
    rcases index with _ | _ | index
    · rw [LockState.set_sessions_of_ne _ _ (by decide), LockState.set_sessions_self]
      rfl
    · exact LockState.set_sessions_self _ _ _
    · rw [LockState.set_sessions_of_ne _ _ (by omega), LockState.set_sessions_of_ne _ _ (by omega)]
      rfl
  have start : (service.system.restrict admits).Reachable (closed store) :=
    System.Reachable.of_initial ⟨⟨initial, fun _ => rfl⟩, admitsClosed⟩
  have vacant : ((closed store).set 0 (some ⟨first, [], service.program first⟩)).sessions 1 = none :=
    LockState.set_sessions_of_ne _ _ (by decide)
  have opened : service.system.step _ (.opened 1 second) _ := Step.opened second vacant
  rw [bothOpen] at opened
  refine (start.step ⟨Step.opened first rfl, admitsFirst⟩).step ⟨opened, ?_⟩
  apply admitted
  cases schedule <;> exact List.mem_cons_self

end LockService

/-! ## Disciplines -/

/-- What the transactions of a service may hold and await.  `later` relates
the committed states of one history, and what was allowed stays allowed.  The
locks that the session already holds are given, the latest first. -/
structure LockDiscipline (Task : Type z) (State : Type u) (Resource : Type v) (Mode : Type w) where
  later : State -> State -> Prop
  mayTake : Task -> State -> List (Resource × Mode) -> Resource × Mode -> Prop
  mayAwait : Task -> State -> List (Resource × Mode) -> Resource × Mode -> Prop
  later_refl : forall state, later state state
  later_trans : forall {first second third}, later first second -> later second third -> later first third
  mayTake_later : forall {task before after held lock}, later before after ->
    mayTake task before held lock -> mayTake task after held lock
  mayAwait_later : forall {task before after held lock}, later before after ->
    mayAwait task before held lock -> mayAwait task after held lock
  mayTake_of_mayAwait : forall {task state held lock}, mayAwait task state held lock ->
    mayTake task state held lock

namespace LockDiscipline

variable (discipline : LockDiscipline Task State Resource Mode)

/-- Every request of the program is allowed, whatever later states it reads. -/
def Obeys (task : Task) : State -> List (Resource × Mode) -> LockProgram State Resource Mode -> Prop
  | _, _, .done => True
  | state, held, .lock resource mode rest =>
      discipline.mayAwait task state held (resource, mode) ∧ Obeys task state ((resource, mode) :: held) rest
  | state, held, .tryLock resource mode taken skipped =>
      discipline.mayTake task state held (resource, mode) ∧
        Obeys task state ((resource, mode) :: held) taken ∧ Obeys task state held skipped
  | state, held, .read next => forall after, discipline.later state after -> Obeys task after held (next after)

/-- Every lock was allowed when it was taken. -/
def Orderly (task : Task) (state : State) : List (Resource × Mode) -> Prop
  | [] => True
  | lock :: held => discipline.mayTake task state held lock ∧ Orderly task state held

/-- The locks of a session, and those it still requests, are allowed. -/
structure Governs (state : State) (session : LockSession Task State Resource Mode) : Prop where
  orderly : discipline.Orderly session.task state session.held
  obeys : discipline.Obeys session.task state session.held session.program

variable {discipline} {task : Task} {before after : State} {held : List (Resource × Mode)}

theorem Obeys.later {program : LockProgram State Resource Mode}
    (later : discipline.later before after) (obeys : discipline.Obeys task before held program) :
    discipline.Obeys task after held program := by
  induction program generalizing held with
  | done => trivial
  | lock resource mode rest inductionHypothesis =>
      exact ⟨discipline.mayAwait_later later obeys.1, inductionHypothesis obeys.2⟩
  | tryLock resource mode taken skipped takenHypothesis skippedHypothesis =>
      exact ⟨discipline.mayTake_later later obeys.1, takenHypothesis obeys.2.1,
        skippedHypothesis obeys.2.2⟩
  | read next _ => exact fun last reached => obeys last (discipline.later_trans later reached)

theorem Orderly.later (later : discipline.later before after)
    (orderly : discipline.Orderly task before held) : discipline.Orderly task after held := by
  induction held with
  | nil => trivial
  | cons lock held inductionHypothesis =>
      exact ⟨discipline.mayTake_later later orderly.1, inductionHypothesis orderly.2⟩

/-- A lock that is held was allowed after some earlier ones. -/
theorem Orderly.of_mem {lock : Resource × Mode} (orderly : discipline.Orderly task before held)
    (member : lock ∈ held) :
    ∃ earlier, earlier ⊆ held ∧ discipline.mayTake task before earlier lock := by
  induction held with
  | nil => cases member
  | cons latest held inductionHypothesis =>
      rcases List.mem_cons.mp member with rfl | inHeld
      · exact ⟨held, fun _ inside => List.mem_cons_of_mem _ inside, orderly.1⟩
      · rcases inductionHypothesis orderly.2 inHeld with ⟨earlier, inside, allowed⟩
        exact ⟨earlier, fun _ found => List.mem_cons_of_mem _ (inside found), allowed⟩

theorem Governs.later {session : LockSession Task State Resource Mode}
    (later : discipline.later before after) (governs : discipline.Governs before session) :
    discipline.Governs after session :=
  ⟨governs.orderly.later later, governs.obeys.later later⟩

/-! ## Requests that stay allowed -/

/-- A request is allowed now, at every later state, and with more locks. -/
def Grants (discipline : LockDiscipline Task State Resource Mode) (task : Task) (state : State)
    (held : List (Resource × Mode)) (lock : Resource × Mode) : Prop :=
  forall after more, discipline.later state after -> held ⊆ more -> discipline.mayAwait task after more lock

/-- A program obeys the discipline now, at every later state, and with more
locks. -/
def Continues (discipline : LockDiscipline Task State Resource Mode) (task : Task) (state : State)
    (held : List (Resource × Mode)) (program : LockProgram State Resource Mode) : Prop :=
  forall after more, discipline.later state after -> held ⊆ more -> discipline.Obeys task after more program

variable {more : List (Resource × Mode)}
  {program rest taken skipped : LockProgram State Resource Mode}

theorem Grants.weaken {lock : Resource × Mode} (grants : discipline.Grants task before held lock)
    (later : discipline.later before after) (inside : held ⊆ more) : discipline.Grants task after more lock :=
  fun last most reached covers =>
    grants last most (discipline.later_trans later reached) (List.Subset.trans inside covers)

namespace Continues

theorem weaken (continues : discipline.Continues task before held program)
    (later : discipline.later before after) (inside : held ⊆ more) :
    discipline.Continues task after more program :=
  fun last most reached covers =>
    continues last most (discipline.later_trans later reached) (List.Subset.trans inside covers)

theorem obeys (continues : discipline.Continues task before held program) :
    discipline.Obeys task before held program :=
  continues before held (discipline.later_refl before) (fun _ member => member)

theorem done : discipline.Continues task before held .done :=
  fun _ _ _ _ => trivial

theorem lock {resource : Resource} {mode : Mode} (grants : discipline.Grants task before held (resource, mode))
    (continues : discipline.Continues task before ((resource, mode) :: held) rest) :
    discipline.Continues task before held (.lock resource mode rest) :=
  fun after more later inside =>
    ⟨grants after more later inside, continues after _ later (List.cons_subset_cons _ inside)⟩

theorem tryLock {resource : Resource} {mode : Mode}
    (allowed : forall after more, discipline.later before after -> held ⊆ more ->
      discipline.mayTake task after more (resource, mode))
    (takes : discipline.Continues task before ((resource, mode) :: held) taken)
    (skips : discipline.Continues task before held skipped) :
    discipline.Continues task before held (.tryLock resource mode taken skipped) :=
  fun after more later inside =>
    ⟨allowed after more later inside, takes after _ later (List.cons_subset_cons _ inside),
      skips after more later inside⟩

theorem read {next : State -> LockProgram State Resource Mode}
    (continues : forall after, discipline.later before after -> discipline.Continues task after held (next after)) :
    discipline.Continues task before held (.read next) :=
  fun _ more later inside last reached =>
    continues last (discipline.later_trans later reached) last more (discipline.later_refl last) inside

/-- Several requests in a row. -/
theorem lockEach {locks : List (Resource × Mode)}
    (grants : forall lock, lock ∈ locks -> discipline.Grants task before held lock)
    (continues : discipline.Continues task before held rest) :
    discipline.Continues task before held (LockProgram.lockEach locks rest) := by
  induction locks with
  | nil => exact continues
  | cons first locks inductionHypothesis =>
      refine Continues.lock (grants first List.mem_cons_self) ?_
      exact (inductionHypothesis fun lock member => grants lock (List.mem_cons_of_mem _ member)).weaken
        (discipline.later_refl before) (List.subset_cons_self _ _)

end Continues

section Service

variable {service : LockService Task State Resource Mode} {state : LockState Task State Resource Mode}

/-- Every open session is governed. -/
def GovernsAll (discipline : LockDiscipline Task State Resource Mode)
    (state : LockState Task State Resource Mode) : Prop :=
  forall index session, state.sessions index = some session -> discipline.Governs state.store session

/-- All sessions are governed after one of them was replaced by a governed
one. -/
theorem GovernsAll.set {index : Nat} {replaced : Option (LockSession Task State Resource Mode)}
    (governed : discipline.GovernsAll state)
    (next : forall session, replaced = some session -> discipline.Governs state.store session) :
    discipline.GovernsAll (state.set index replaced) := by
  intro position session found
  rcases LockState.set_sessions found with ⟨_, same⟩ | ⟨_, unchanged⟩
  · exact next session same
  · exact governed position session unchanged

theorem GovernsAll.step {action : LockAction Task} {target : LockState Task State Resource Mode}
    (starts : forall task state, discipline.Obeys task state [] (service.program task))
    (follows : forall task result, service.commits state.store task result -> discipline.later state.store result)
    (governed : discipline.GovernsAll state) (step : service.Step state action target) :
    discipline.GovernsAll target := by
  cases step with
  | opened task _ =>
      refine governed.set fun session same => ?_
      cases same
      exact ⟨trivial, starts task state.store⟩
  | read was =>
      refine governed.set fun session same => ?_
      cases same
      have before := governed _ _ was
      exact ⟨before.orderly, before.obeys state.store (discipline.later_refl _)⟩
  | locked was _ =>
      refine governed.set fun session same => ?_
      cases same
      have before := governed _ _ was
      exact ⟨⟨discipline.mayTake_of_mayAwait before.obeys.1, before.orderly⟩, before.obeys.2⟩
  | taken was _ =>
      refine governed.set fun session same => ?_
      cases same
      have before := governed _ _ was
      exact ⟨⟨before.obeys.1, before.orderly⟩, before.obeys.2.1⟩
  | skipped was _ =>
      refine governed.set fun session same => ?_
      cases same
      have before := governed _ _ was
      exact ⟨before.orderly, before.obeys.2.2⟩
  | @committed position task held result was commits =>
      have moved : discipline.GovernsAll { state with store := result } := fun index session found =>
        (governed index session found).later (follows _ _ commits)
      refine moved.set fun session same => ?_
      cases same
  | rolledBack _ =>
      refine governed.set fun session same => ?_
      cases same

/-- Every session obeys a discipline that all programs obey from the start and
that follows the history of the committed state. -/
theorem governs_of_reachable {valid : State -> Prop}
    (initial : forall state, service.initial state -> valid state)
    (kept : forall state task result, valid state -> service.commits state task result -> valid result)
    (starts : forall task state, discipline.Obeys task state [] (service.program task))
    (follows : forall state task result, valid state -> service.commits state task result ->
      discipline.later state result)
    (reachable : service.system.Reachable state) : discipline.GovernsAll state := by
  refine System.Reachable.invariant discipline.GovernsAll ?_ ?_ reachable
  · rintro start ⟨_, closed⟩ index session found
    rw [closed index] at found
    cases found
  · intro source action target sourceReachable step governed
    have holds := LockService.store_of_reachable initial kept sourceReachable
    exact governed.step starts (fun task result => follows _ task result holds) step

end Service
end LockDiscipline
end Foundation
