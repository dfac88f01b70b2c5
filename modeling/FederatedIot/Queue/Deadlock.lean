import FederatedIot.Queue.LockOrder

namespace FederatedIot
namespace Queue

open Foundation Foundation.Relation Foundation.Outcome

/-!
# Deadlocks between cancellation and the worker

A cancellation locks its run and then the run's job.  A worker call that does
not go through `scheduler_control` locks its job and then the job's run.  When
the two cross, each ends up waiting for the other.

Nothing else can deadlock.  Of the transactions that hold `scheduler_control`
there is one at a time; two worker calls never meet on a run before they have
met on its job; and a transaction that waits for its first lock holds nothing
that another one could wait for.
-/

variable {platform : Platform} {store result : Store}

/-! ## What the open transactions hold -/

abbrev QueueSession := LockSession (Instant × Operation) Store LockedRow RowLock

abbrev QueueLocks := LockState (Instant × Operation) Store LockedRow RowLock

/-- The interleavings of the queue's transactions, lock by lock. -/
abbrev lockSystem (platform : Platform) : System QueueLocks (LockAction (Instant × Operation)) :=
  (lockService platform).system

section Sessions

variable {waiting holding : QueueSession} {jobId runId : String}

/-- No lock of one session conflicts with one of the other. -/
def Apart (first second : QueueSession) : Prop :=
  forall row mode other, (row, mode) ∈ first.held -> (row, other) ∈ second.held ->
    RowLock.conflicts mode other = false

theorem not_apart_of_forUpdate {row : LockedRow} {mode : RowLock} (apart : Apart waiting holding)
    (strong : (row, RowLock.forUpdate) ∈ waiting.held) (held : (row, mode) ∈ holding.held) : False := by
  have free := apart row _ _ strong held
  cases mode <;> cases free

/-- A transaction that starts with `scheduler_control` holds it as long as it
holds anything. -/
theorem holdsScheduler_of_held {lock : LockedRow × RowLock} (governs : queueDiscipline.Governs store holding)
    (central : holding.task.2.party = .scheduler ∨ ∃ runId, holding.task.2.party = .canceller runId)
    (member : lock ∈ holding.held) : HoldsScheduler holding.held := by
  rcases lock with ⟨row, mode⟩
  rcases governs.orderly.of_mem member with ⟨earlier, inside, takes⟩
  change holding.task.2.party.MayTake store earlier mode row at takes
  rcases central with party | ⟨runId, party⟩ <;> rw [party] at takes
  · cases row with
    | schedulerControl =>
        rw [takes.1] at member
        exact member
    | workerJob jobId => exact inside takes
    | simulation other => exact inside takes.2.1
  · cases row with
    | schedulerControl =>
        rw [takes.1] at member
        exact member
    | workerJob jobId => exact inside takes.1
    | simulation other => exact inside takes.1

/-- What a worker call that starts with its job holds. -/
theorem lessee_held {row : LockedRow} {mode : RowLock} (governs : queueDiscipline.Governs store holding)
    (party : holding.task.2.party = .lessee jobId) (member : (row, mode) ∈ holding.held) :
    HoldsJob holding.held jobId ∧
      (row = .workerJob jobId ∨ ∃ runId, row = .simulation runId ∧ mode ≠ .forUpdate ∧
        (mode = .forNoKeyUpdate -> RunsFor store jobId runId)) := by
  rcases governs.orderly.of_mem member with ⟨earlier, inside, takes⟩
  change holding.task.2.party.MayTake store earlier mode row at takes
  rw [party] at takes
  cases row with
  | schedulerControl => cases takes
  | workerJob other =>
      rcases takes with ⟨rfl, ⟨_, strong⟩ | ⟨holds, _⟩⟩
      · refine ⟨?_, Or.inl rfl⟩
        cases mode with
        | forUpdate => exact Or.inl member
        | forNoKeyUpdate => exact Or.inr member
        | forKeyShare => exact absurd rfl strong
      · exact ⟨holds.mono inside, Or.inl rfl⟩
  | simulation runId =>
      rcases takes with ⟨weak, holds, runs⟩
      refine ⟨holds.mono inside, Or.inr ⟨runId, rfl, weak, fun exact_ => ?_⟩⟩
      rcases runs with own | ⟨share, _⟩
      · exact own
      · rw [share] at exact_
        cases exact_

/-- Only a cancellation holds a run against every other lock. -/
theorem canceller_of_forUpdate (governs : queueDiscipline.Governs store holding)
    (member : (LockedRow.simulation runId, RowLock.forUpdate) ∈ holding.held) :
    holding.task.2.party = .canceller runId := by
  rcases governs.orderly.of_mem member with ⟨earlier, inside, takes⟩
  change holding.task.2.party.MayTake store earlier .forUpdate (.simulation runId) at takes
  cases party : holding.task.2.party with
  | canceller own =>
      rw [party] at takes
      rcases takes.2 with ⟨rfl, _⟩ | ⟨_, weak, _⟩
      · rfl
      · exact absurd rfl weak
  | lessee jobId =>
      rw [party] at takes
      exact absurd rfl takes.1
  | scheduler =>
      rw [party] at takes
      exact absurd rfl takes.1
  | bystander =>
      rw [party] at takes
      cases takes

/-- A run is written under the lock of its job, unless it is being
cancelled. -/
theorem holdsJob_of_forNoKeyUpdate (governs : queueDiscipline.Governs store holding)
    (member : (LockedRow.simulation runId, RowLock.forNoKeyUpdate) ∈ holding.held) :
    (∃ own, holding.task.2.party = .canceller own) ∨
      ∃ jobId, HoldsJob holding.held jobId ∧ RunsFor store jobId runId := by
  cases party : holding.task.2.party with
  | canceller own => exact Or.inl ⟨own, rfl⟩
  | lessee jobId =>
      rcases lessee_held governs party member with ⟨holds, isJob | ⟨other, isRun, _, runs⟩⟩
      · cases isJob
      · cases isRun
        exact Or.inr ⟨jobId, holds, runs rfl⟩
  | scheduler =>
      rcases governs.orderly.of_mem member with ⟨earlier, inside, takes⟩
      change holding.task.2.party.MayTake store earlier .forNoKeyUpdate (.simulation runId) at takes
      rw [party] at takes
      rcases takes.2.2 rfl with ⟨jobId, holds, runs⟩
      exact Or.inr ⟨jobId, holds.mono inside, runs⟩
  | bystander =>
      rcases governs.orderly.of_mem member with ⟨earlier, inside, takes⟩
      change holding.task.2.party.MayTake store earlier .forNoKeyUpdate (.simulation runId) at takes
      rw [party] at takes
      cases takes

/-- A session that has locked a job does not wait for it again. -/
theorem not_awaits_own_job {mode held : RowLock} (apart : Apart waiting holding)
    (holds : HoldsJob waiting.held jobId) (weak : mode ≠ .forUpdate)
    (member : (LockedRow.workerJob jobId, held) ∈ holding.held) : mode.conflicts held = false := by
  rcases holds with strong | strong
  · exact (not_apart_of_forUpdate apart strong member).elim
  · have free := apart _ _ _ strong member
    cases held with
    | forUpdate => cases free
    | forNoKeyUpdate => cases free
    | forKeyShare =>
        cases mode with
        | forUpdate => exact absurd rfl weak
        | forNoKeyUpdate => rfl
        | forKeyShare => rfl

/-- Two sessions that have locked one job are the same. -/
theorem not_apart_of_holdsJob (apart : Apart waiting holding) (first : HoldsJob waiting.held jobId)
    (second : HoldsJob holding.held jobId) : False := by
  rcases second with strong | strong
  · have free : RowLock.conflicts .forNoKeyUpdate .forUpdate = false :=
      not_awaits_own_job apart first RowLock.noConfusion strong
    cases free
  · have free : RowLock.conflicts .forNoKeyUpdate .forNoKeyUpdate = false :=
      not_awaits_own_job apart first RowLock.noConfusion strong
    cases free

/-! ## Who waits for whom -/

/-- Some row besides `scheduler_control` is locked. -/
theorem exists_other_row {held : Held} (more : ¬ OnlyScheduler held) :
    ∃ row mode, (row, mode) ∈ held ∧ row ≠ .schedulerControl := by
  unfold OnlyScheduler at more
  simp only [not_forall] at more
  rcases more with ⟨⟨row, mode⟩, member, other⟩
  exact ⟨row, mode, member, other⟩

/-- A worker call that holds its job only waits for a run, and only for its
own one unless it has locked that already. -/
theorem lessee_awaits_run (waits : queueDiscipline.Governs store waiting) (apart : Apart waiting holding)
    (party : waiting.task.2.party = .lessee jobId) (holds : HoldsJob waiting.held jobId)
    (awaits : waiting.Awaits RowLock.conflicts holding) :
    ∃ runId mode rest, waiting.program = .lock (.simulation runId) mode rest ∧ mode ≠ .forUpdate ∧
      (RunsFor store jobId runId ∨ mode = .forKeyShare ∧
        ∃ own shared, RunsFor store jobId own ∧ (LockedRow.simulation own, shared) ∈ waiting.held) := by
  rcases awaits with ⟨row, mode, rest, held, program, member, conflict⟩
  have obeys := waits.obeys
  rw [program] at obeys
  have takes := obeys.1.1
  change waiting.task.2.party.MayTake store waiting.held mode row at takes
  rw [party] at takes
  cases row with
  | schedulerControl => cases takes
  | workerJob other =>
      rcases takes with ⟨rfl, ⟨empty, _⟩ | ⟨_, weak⟩⟩
      · rw [empty] at holds
        rcases holds with impossible | impossible <;> cases impossible
      · rw [not_awaits_own_job apart holds weak member] at conflict
        cases conflict
  | simulation runId => exact ⟨runId, mode, rest, program, takes.1, takes.2.2⟩

/-- Who holds a run that another transaction wants to share or write: a
cancellation, or a writer that also holds the run's job. -/
theorem holder_of_run {runId : String} {mode held : RowLock}
    (governs : queueDiscipline.Governs store holding) (weak : mode ≠ .forUpdate)
    (conflict : mode.conflicts held = true) (member : (LockedRow.simulation runId, held) ∈ holding.held) :
    (∃ own, holding.task.2.party = .canceller own) ∨
      (mode = .forNoKeyUpdate ∧ ∃ jobId, HoldsJob holding.held jobId ∧ RunsFor store jobId runId) := by
  cases held with
  | forUpdate => exact Or.inl ⟨runId, canceller_of_forUpdate governs member⟩
  | forNoKeyUpdate =>
      cases mode with
      | forUpdate => exact absurd rfl weak
      | forNoKeyUpdate => exact (holdsJob_of_forNoKeyUpdate governs member).imp id fun holds => ⟨rfl, holds⟩
      | forKeyShare => cases conflict
  | forKeyShare =>
      cases mode with
      | forUpdate => exact absurd rfl weak
      | forNoKeyUpdate => cases conflict
      | forKeyShare => cases conflict

/-- A worker call that holds its job only waits for a cancellation. -/
theorem lessee_awaits_canceller (waits : queueDiscipline.Governs store waiting)
    (governs : queueDiscipline.Governs store holding) (apart : Apart waiting holding)
    (party : waiting.task.2.party = .lessee jobId) (holds : HoldsJob waiting.held jobId)
    (awaits : waiting.Awaits RowLock.conflicts holding) :
    ∃ own, holding.task.2.party = .canceller own ∧ ¬ OnlyScheduler holding.held := by
  rcases lessee_awaits_run waits apart party holds awaits with ⟨runId, mode, rest, program, weak, runs⟩
  rcases awaits with ⟨row, requested, tail, held, same, member, conflict⟩
  rw [program] at same
  cases same
  have more : ¬ OnlyScheduler holding.held := fun only => (by cases only _ member)
  rcases holder_of_run governs weak conflict member with ⟨own, canceller⟩ | ⟨rfl, other, otherHolds, otherRuns⟩
  · exact ⟨own, canceller, more⟩
  · rcases runs with own | ⟨share, _⟩
    · rw [← own.job_unique otherRuns] at otherHolds
      exact (not_apart_of_holdsJob apart holds otherHolds).elim
    · cases share

/-- Under `scheduler_control` a worker call waits for its first job only. -/
theorem scheduler_awaits_first (waits : queueDiscipline.Governs store waiting)
    (governs : queueDiscipline.Governs store holding) (apart : Apart waiting holding)
    (party : waiting.task.2.party = .scheduler) (awaits : waiting.Awaits RowLock.conflicts holding) :
    OnlyScheduler waiting.held := by
  rcases awaits with ⟨row, mode, rest, held, program, member, conflict⟩
  have obeys := waits.obeys
  rw [program] at obeys
  rcases obeys.1 with ⟨takes, order⟩
  change waiting.task.2.party.MayTake store waiting.held mode row at takes
  rw [party] at takes
  cases row with
  | schedulerControl =>
      rcases takes.2 with empty | scheduled
      · rw [empty]
        exact fun _ impossible => (by cases impossible)
      · exact (not_apart_of_forUpdate apart scheduled member).elim
  | workerJob jobId =>
      rcases order jobId party rfl with only | ⟨holds, weak⟩
      · exact only
      · rw [not_awaits_own_job apart holds weak member] at conflict
        cases conflict
  | simulation runId =>
      rcases takes with ⟨weak, scheduled, writes⟩
      rcases holder_of_run governs weak conflict member with ⟨own, canceller⟩ | ⟨rfl, other, otherHolds, otherRuns⟩
      · have twice := holdsScheduler_of_held governs (Or.inr ⟨own, canceller⟩) member
        exact (not_apart_of_forUpdate apart scheduled twice).elim
      · rcases writes rfl with ⟨jobId, holds, runs⟩
        rw [← runs.job_unique otherRuns] at otherHolds
        exact (not_apart_of_holdsJob apart holds otherHolds).elim

/-- A cancellation that has locked its run only waits for the run's job, and
only for a worker call that starts with the job. -/
theorem canceller_awaits_lessee {runId : String} (waits : queueDiscipline.Governs store waiting)
    (governs : queueDiscipline.Governs store holding) (apart : Apart waiting holding)
    (party : waiting.task.2.party = .canceller runId) (more : ¬ OnlyScheduler waiting.held)
    (awaits : waiting.Awaits RowLock.conflicts holding) :
    ∃ jobId mode rest, waiting.program = .lock (.workerJob jobId) mode rest ∧
      RunsFor store jobId runId ∧ (LockedRow.simulation runId, RowLock.forUpdate) ∈ waiting.held ∧
      holding.task.2.party = .lessee jobId ∧ HoldsJob holding.held jobId := by
  rcases awaits with ⟨row, mode, rest, held, program, member, conflict⟩
  have obeys := waits.obeys
  rw [program] at obeys
  have takes := obeys.1.1
  change waiting.task.2.party.MayTake store waiting.held mode row at takes
  rw [party] at takes
  have alone : HoldsScheduler waiting.held -> ¬ HoldsScheduler holding.held := fun first second =>
    not_apart_of_forUpdate apart first second
  cases row with
  | schedulerControl =>
      rw [takes.2] at more
      exact (more fun _ impossible => (by cases impossible)).elim
  | simulation other =>
      rcases takes with ⟨scheduled, ⟨_, _, only⟩ | ⟨locked, weak, own⟩⟩
      · rw [only] at more
        refine (more ?_).elim
        rintro _ ⟨⟩
        · rfl
        · contradiction
      · rcases own with rfl | rfl
        · exact (not_apart_of_forUpdate apart locked member).elim
        · cases held with
          | forUpdate =>
              have canceller := canceller_of_forUpdate governs member
              exact (alone scheduled (holdsScheduler_of_held governs (Or.inr ⟨_, canceller⟩) member)).elim
          | forNoKeyUpdate => cases conflict
          | forKeyShare => cases conflict
  | workerJob jobId =>
      rcases takes with ⟨scheduled, locked, runs⟩
      refine ⟨jobId, mode, rest, program, runs, locked, ?_⟩
      cases holder : holding.task.2.party with
      | canceller own =>
          exact (alone scheduled (holdsScheduler_of_held governs (Or.inr ⟨own, holder⟩) member)).elim
      | scheduler => exact (alone scheduled (holdsScheduler_of_held governs (Or.inl holder) member)).elim
      | lessee other =>
          rcases lessee_held governs holder member with ⟨holds, isJob | ⟨_, isRun, _⟩⟩
          · cases isJob
            exact ⟨rfl, holds⟩
          · cases isRun
      | bystander =>
          rcases governs.orderly.of_mem member with ⟨earlier, _, impossible⟩
          change holding.task.2.party.MayTake store earlier held (.workerJob jobId) at impossible
          rw [holder] at impossible
          cases impossible

end Sessions

section Waits

variable {state : QueueLocks}

theorem governed (reachable : (lockSystem platform).Reachable state) :
    queueDiscipline.GovernsAll state := by
  refine LockDiscipline.governs_of_reachable (fun _ initial => initial) ?_ lockProgram_obeys ?_ reachable
  · rintro store call result holds ⟨outcome, commits⟩
    exact System.Reachable.step holds commits
  · rintro store call result holds ⟨outcome, commits⟩
    exact JobsPersist.of_commit holds commits

theorem exclusive (reachable : (lockSystem platform).Reachable state) :
    LockService.Exclusive RowLock.conflicts state :=
  LockService.exclusive_of_reachable RowLock.conflicts_comm reachable

/-! ## Freedom from deadlock -/

/-- A cancellation and a worker call cross: one has locked the run and is
still to update its job, the other has locked the job and is still to lock the
run. -/
def Crosses (store : Store) (cancel worker : QueueSession) : Prop :=
  ∃ runId jobId, cancel.task.2.party = .canceller runId ∧ worker.task.2.party = .lessee jobId ∧
    (∃ mode, (LockedRow.simulation runId, mode) ∈ cancel.held) ∧
    LockedRow.workerJob jobId ∈ cancel.program.requests store ∧
    (∃ mode, (LockedRow.workerJob jobId, mode) ∈ worker.held) ∧
    LockedRow.simulation runId ∈ worker.program.requests store

/-- The decision of `Crosses`. -/
def crosses (store : Store) (cancel worker : QueueSession) : Bool :=
  match cancel.task.2.party, worker.task.2.party with
  | .canceller runId, .lessee jobId =>
      (cancel.held.any fun lock => lock.1 = .simulation runId) &&
        (cancel.program.requests store).contains (.workerJob jobId) &&
        (worker.held.any fun lock => lock.1 = .workerJob jobId) &&
        (worker.program.requests store).contains (.simulation runId)
  | _, _ => false

theorem crosses_of_crosses {cancel worker : QueueSession} (crossing : Crosses store cancel worker) :
    crosses store cancel worker = true := by
  rcases crossing with ⟨runId, jobId, canceller, lessee, ⟨runMode, runHeld⟩, jobNext, ⟨jobMode, jobHeld⟩, runNext⟩
  unfold crosses
  rw [canceller, lessee]
  simp only [Bool.and_eq_true, List.any_eq_true, decide_eq_true_eq, List.contains_iff_mem]
  exact ⟨⟨⟨⟨_, runHeld, rfl⟩, jobNext⟩, ⟨_, jobHeld, rfl⟩⟩, runNext⟩

/-- No two open transactions cross. -/
def Uncrossed (state : QueueLocks) : Prop :=
  forall first second cancel worker, state.sessions first = some cancel ->
    state.sessions second = some worker -> ¬ Crosses state.store cancel worker

/-- A transaction that waits ranks below those it waits for: first those that
hold nothing, then those that hold `scheduler_control` alone, then worker
calls that have locked their job, then cancellations that have locked their
run. -/
def sessionRank (session : QueueSession) : Nat :=
  if session.held = [] then 0
  else if OnlyScheduler session.held then 1
  else
    match session.task.2.party with
    | .canceller _ => 3
    | _ => 2

theorem sessionRank_empty {session : QueueSession} (empty : session.held = []) : sessionRank session = 0 :=
  if_pos empty

theorem sessionRank_only {session : QueueSession} (some_ : session.held ≠ [])
    (only : OnlyScheduler session.held) : sessionRank session = 1 := by
  unfold sessionRank
  rw [if_neg some_, if_pos only]

theorem sessionRank_pos {session : QueueSession} (some_ : session.held ≠ []) : 0 < sessionRank session := by
  unfold sessionRank
  rw [if_neg some_]
  split
  · exact Nat.zero_lt_one
  · split <;> decide

theorem sessionRank_more {session : QueueSession} (more : ¬ OnlyScheduler session.held) :
    1 < sessionRank session := by
  unfold sessionRank
  have some_ : session.held ≠ [] := by
    intro empty
    rw [empty] at more
    exact more fun _ impossible => (by cases impossible)
  rw [if_neg some_, if_neg more]
  split <;> decide

theorem sessionRank_lessee {session : QueueSession} {jobId : String} (more : ¬ OnlyScheduler session.held)
    (party : session.task.2.party = .lessee jobId) : sessionRank session ≤ 2 := by
  unfold sessionRank
  rw [if_neg more, party]
  split
  · exact Nat.zero_le 2
  · exact Nat.le_refl 2

theorem sessionRank_canceller {session : QueueSession} {runId : String} (some_ : session.held ≠ [])
    (more : ¬ OnlyScheduler session.held) (party : session.task.2.party = .canceller runId) :
    sessionRank session = 3 := by
  unfold sessionRank
  rw [if_neg some_, if_neg more, party]

/-- A session that holds something belongs to a party. -/
theorem party_of_held {session : QueueSession} {lock : LockedRow × RowLock}
    (governs : queueDiscipline.Governs store session) (member : lock ∈ session.held) :
    session.task.2.party ≠ .bystander := by
  intro party
  rcases governs.orderly.of_mem member with ⟨earlier, _, impossible⟩
  change session.task.2.party.MayTake store earlier lock.2 lock.1 at impossible
  rw [party] at impossible
  cases impossible

/-- Two sessions do not hold `scheduler_control` at once. -/
theorem more_of_awaits_only {first second : QueueSession} (governs : queueDiscipline.Governs store first)
    (apart : Apart first second) (some_ : first.held ≠ []) (only : OnlyScheduler first.held)
    (wait : first.Awaits RowLock.conflicts second) : ¬ OnlyScheduler second.held := by
  rcases List.exists_mem_of_ne_nil _ some_ with ⟨⟨row, mode⟩, member⟩
  have isScheduler : row = .schedulerControl := only _ member
  have scheduled : HoldsScheduler first.held := by
    cases party : first.task.2.party with
    | canceller runId => exact holdsScheduler_of_held governs (Or.inr ⟨runId, party⟩) member
    | scheduler => exact holdsScheduler_of_held governs (Or.inl party) member
    | lessee jobId =>
        rcases lessee_held governs party member with ⟨_, isJob | ⟨_, isRun, _⟩⟩
        · rw [isScheduler] at isJob
          cases isJob
        · rw [isScheduler] at isRun
          cases isRun
    | bystander => exact (party_of_held governs member party).elim
  rcases wait with ⟨awaited, _, _, held, _, holds, _⟩
  intro onlySecond
  have same : awaited = .schedulerControl := onlySecond _ holds
  rw [same] at holds
  exact not_apart_of_forUpdate apart scheduled holds

/-- Unless two transactions cross, ranks rise along the waits of transactions
that are waited for and wait themselves. -/
theorem sessionRank_rises {first second third : QueueSession}
    (firstGoverned : queueDiscipline.Governs store first)
    (secondGoverned : queueDiscipline.Governs store second) (apart : Apart first second)
    (laterApart : Apart second third) (uncrossed : ¬ Crosses store first second)
    (wait : first.Awaits RowLock.conflicts second) (later : second.Awaits RowLock.conflicts third) :
    sessionRank first < sessionRank second := by
  have secondHeld : second.held ≠ [] := by
    rcases wait with ⟨_, _, _, _, _, member, _⟩
    exact List.ne_nil_of_mem member
  by_cases empty : first.held = []
  · rw [sessionRank_empty empty]
    exact sessionRank_pos secondHeld
  by_cases only : OnlyScheduler first.held
  · rw [sessionRank_only empty only]
    exact sessionRank_more (more_of_awaits_only firstGoverned apart empty only wait)
  rcases List.exists_mem_of_ne_nil _ empty with ⟨⟨row, mode⟩, member⟩
  cases party : first.task.2.party with
  | lessee jobId =>
      have holds := (lessee_held firstGoverned party member).1
      rcases lessee_awaits_canceller firstGoverned secondGoverned apart party holds wait with
        ⟨own, canceller, more⟩
      rw [sessionRank_canceller secondHeld more canceller]
      exact Nat.lt_succ_of_le (sessionRank_lessee only party)
  | scheduler => exact absurd (scheduler_awaits_first firstGoverned secondGoverned apart party wait) only
  | canceller runId =>
      rcases canceller_awaits_lessee firstGoverned secondGoverned apart party only wait with
        ⟨jobId, jobMode, rest, program, runs, locked, lessee, holds⟩
      rcases lessee_awaits_run secondGoverned laterApart lessee holds later with
        ⟨awaited, runMode, tail, laterProgram, _, own | ⟨_, own, shared, ownRuns, ownHeld⟩⟩
      · refine absurd ⟨runId, jobId, party, lessee, ⟨_, locked⟩, ?_, ?_, ?_⟩ uncrossed
        · rw [program]
          exact List.mem_cons_self
        · rcases holds with strong | strong <;> exact ⟨_, strong⟩
        · rw [laterProgram, own.run_unique runs]
          exact List.mem_cons_self
      · rw [ownRuns.run_unique runs] at ownHeld
        exact (not_apart_of_forUpdate apart locked ownHeld).elim
  | bystander => exact (party_of_held firstGoverned member party).elim

/-- In every interleaving in which no cancellation crosses a worker call, no
transaction is part of a cycle of waits. -/
theorem deadlock_free_unless_crossed
    (reachable : ((lockSystem platform).restrict Uncrossed).Reachable state) :
    ¬ (lockService platform).Deadlocked state := by
  rcases System.Reachable.of_restrict reachable with ⟨inSystem, uncrossed⟩
  have governs := governed inSystem
  have apart : forall left right first second, left ≠ right -> state.sessions left = some first ->
      state.sessions right = some second -> Apart first second :=
    fun left right first second different leftFound rightFound =>
      exclusive inSystem left right first second different leftFound rightFound
  refine LockService.not_deadlocked_of_rank
    (fun index => (state.sessions index).elim 0 sessionRank) ?_
  rintro left middle right ⟨different, first, second, leftFound, middleFound, wait⟩
    ⟨laterDifferent, again, third, againFound, rightFound, later⟩
  rw [middleFound] at againFound
  cases againFound
  rw [leftFound, middleFound]
  exact sessionRank_rises (governs left first leftFound) (governs middle second middleFound)
    (apart left middle first second different leftFound middleFound)
    (apart middle right second third laterDifferent middleFound rightFound)
    (uncrossed left middle first second leftFound middleFound) wait later

end Waits

/-! ## A cancellation against a heartbeat -/

/-- The cancellation of the sample run beside a heartbeat of its worker. -/
def sampleSessions : QueueSession × QueueSession :=
  let cancel := (6, Operation.cancelSimulation "run_1" "stop")
  let beat := (6, Operation.heartbeat "worker-1" runLease 60)
  (⟨cancel, [], lockProgram samplePlatform cancel⟩, ⟨beat, [], lockProgram samplePlatform beat⟩)

/-- The sessions after the given turns. -/
def sampleTurns (schedule : List Bool) : QueueSession × QueueSession :=
  schedule.foldl (fun visited second => LockService.turn RowLock.conflicts sampleStore second visited)
    sampleSessions

/-- The cancellation locks its run, the heartbeat its job; then both go on. -/
def crossingTurns : List Bool :=
  [false, false, false, false, true, true, true, true, true, false, false, false]

/-- A cancellation that has locked its run and a heartbeat that has locked the
run's job wait for each other. -/
theorem cancellation_heartbeat_deadlock :
    (lockSystem samplePlatform).Reachable (LockService.pair sampleStore (sampleTurns crossingTurns)) ∧
      (lockService samplePlatform).Deadlocked
        (LockService.pair sampleStore (sampleTurns crossingTurns)) := by
  have admitted : ((lockSystem samplePlatform).restrict fun _ => True).Reachable
      (LockService.pair sampleStore (sampleTurns crossingTurns)) :=
    LockService.turns_reachable crossingTurns _ _ sampleStore_reachable trivial trivial
      (fun _ _ => trivial)
  have cancellationWaits : (lockService samplePlatform).WaitsFor
      (LockService.pair sampleStore (sampleTurns crossingTurns)) 0 1 := by
    refine ⟨by decide, _, _, rfl, rfl, LockSession.awaits_iff.mp ?_⟩
    decide +kernel
  have heartbeatWaits : (lockService samplePlatform).WaitsFor
      (LockService.pair sampleStore (sampleTurns crossingTurns)) 1 0 := by
    refine ⟨by decide, _, _, rfl, rfl, LockSession.awaits_iff.mp ?_⟩
    decide +kernel
  exact ⟨(System.Reachable.of_restrict admitted).1, 0,
    (Relation.TransGen.single cancellationWaits).tail heartbeatWaits⟩

theorem not_crosses_self (session : QueueSession) : ¬ Crosses store session session := by
  rintro ⟨runId, jobId, canceller, lessee, _⟩
  rw [canceller] at lessee
  cases lessee

/-- Two sessions do not cross when neither crosses the other. -/
theorem uncrossed_of_crosses {first second : QueueSession} (forward : crosses store first second = false)
    (backward : crosses store second first = false) : Uncrossed (LockService.pair store (first, second)) := by
  have apart : forall {cancel worker : QueueSession}, crosses store cancel worker = false ->
      ¬ Crosses store cancel worker := by
    intro cancel worker passes crossing
    rw [crosses_of_crosses crossing] at passes
    cases passes
  intro left right cancel worker cancelFound workerFound
  rcases left with _ | _ | left <;> rcases right with _ | _ | right <;> cases cancelFound <;> cases workerFound
  · exact not_crosses_self first
  · exact apart forward
  · exact apart backward
  · exact not_crosses_self second

/-- The heartbeat locks its job and its run; then the cancellation waits for
the run. -/
def orderedTurns : List Bool :=
  [true, true, true, true, true, true, false, false, false, false]

theorem deadlock_free_unless_crossed_sample :
    (lockService samplePlatform).WaitsFor (LockService.pair sampleStore (sampleTurns orderedTurns)) 0 1 ∧
      ¬ (lockService samplePlatform).Deadlocked
        (LockService.pair sampleStore (sampleTurns orderedTurns)) := by
  refine ⟨?_, deadlock_free_unless_crossed (LockService.turns_reachable orderedTurns _ _
    sampleStore_reachable ?_ ?_ ?_)⟩
  · refine ⟨by decide, _, _, rfl, rfl, LockSession.awaits_iff.mp ?_⟩
    decide +kernel
  · intro first second cancel worker cancelFound
    cases cancelFound
  · intro first second cancel worker cancelFound workerFound
    rcases LockState.set_sessions cancelFound with ⟨_, isCancel⟩ | ⟨_, absent⟩
    · rcases LockState.set_sessions workerFound with ⟨_, isWorker⟩ | ⟨_, absent⟩
      · rw [← Option.some.inj isCancel, ← Option.some.inj isWorker]
        exact not_crosses_self _
      · cases absent
    · cases absent
  · have passes : ∀ visited ∈ LockService.turns RowLock.conflicts sampleStore orderedTurns sampleSessions,
        crosses sampleStore visited.1 visited.2 = false ∧ crosses sampleStore visited.2 visited.1 = false := by
      decide +kernel
    exact fun visited member => uncrossed_of_crosses (passes visited member).1 (passes visited member).2

end Queue
end FederatedIot
