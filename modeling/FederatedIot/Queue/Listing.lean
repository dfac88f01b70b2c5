import FederatedIot.Foundation.JsonInjective
import FederatedIot.Queue.Service
import FederatedIot.Queue.SimulationList

namespace FederatedIot
namespace Queue

open Foundation Foundation.Relation Foundation.Outcome Foundation.Keyset

/-!
# Paging through a changing queue

A client follows the cursors of the queue view while other transactions go on.
The key of a run can only move towards the front: its place is fixed, and it
enters the active bucket when it is claimed.  A chain that still stands in the
active bucket meets it there, because the run that was active before has a
smaller place.  A chain that has reached the waiting bucket has passed the
active one, and a run claimed ahead of it is not met again.
-/

variable {platform : Platform} {store result : Store} {text : TextSearch} {query : SimulationListQuery}

/-! ## The chain of pages and its surroundings -/

/-- The database and the client that pages through it. -/
structure Listing where
  store : Store
  pager : Pager

inductive ListingLabel where
  | transaction (call : Call)
  | page

/-- Transactions and page requests in any order. -/
def listingSystem (platform : Platform) (text : TextSearch) (query : SimulationListQuery) (binding : String) :
    System Listing ListingLabel where
  initial := fun listing => Reachable platform listing.store ∧ listing.pager = Pager.first
  step := fun listing label next =>
    match label with
    | .transaction call => Transaction platform listing.store call next.store ∧ next.pager = listing.pager
    | .page =>
        listing.pager.finished = false ∧ next.store = listing.store ∧
          requestPage text query binding listing.store.tables listing.pager = Except.ok next.pager

/-- The run matches the filter. -/
def Listed (text : TextSearch) (query : SimulationListQuery) (runId : String) (listing : Listing) : Prop :=
  ∃ row ∈ listedRows listing.store.tables, row.1.runId = runId ∧ simulationListWhere text query row = true

instance listedDecidable (text : TextSearch) (query : SimulationListQuery) (runId : String) (listing : Listing) :
    Decidable (Listed text query runId listing) :=
  inferInstanceAs (Decidable (∃ row ∈ listedRows listing.store.tables,
    row.1.runId = runId ∧ simulationListWhere text query row = true))

/-- The page that was asked for last does not matter. -/
theorem Listed.onPage {text : TextSearch} {query : SimulationListQuery} {runId : String} {store : Store} {pager : Pager}
    (listed : Listed text query runId ⟨store, pager⟩) (other : Pager) : Listed text query runId ⟨store, other⟩ :=
  listed

/-- The transaction hands the run to a worker. -/
def ClaimsRun (runId : String) (store : Store) (call : Call) : Prop :=
  ∃ job ∈ store.tables.workerJobs, job.runId = some runId ∧ claimsJob job.jobId call = true

/-- The run is claimed while the chain, which has not returned it yet, stands in
the waiting bucket. -/
def Overtaken (runId : String) (listing : Listing) : ListingLabel -> Prop
  | .transaction call =>
      ClaimsRun runId listing.store call ∧ runId ∉ listing.pager.returned ∧
        ∃ wire, listing.pager.cursor = some wire ∧ wire.queueBucket = 1
  | .page => False

/-! ## The rows of a page -/

theorem listedRows_sublist (tables : Tables) :
    ((listedRows tables).map Prod.fst).Sublist tables.simulations := by
  unfold listedRows
  induction tables.simulations with
  | nil => exact List.Sublist.slnil
  | cons row rest inductionHypothesis =>
      rw [List.filterMap_cons]
      split
      · exact inductionHypothesis.cons row
      · rename_i listed found
        rcases Option.map_eq_some_iff.mp found with ⟨snapshot, _, rfl⟩
        exact inductionHypothesis.cons_cons row

theorem mem_of_mem_listedRows {tables : Tables} {row : ListedRow} (member : row ∈ listedRows tables) :
    row.1 ∈ tables.simulations :=
  (listedRows_sublist tables).subset (List.mem_map_of_mem member)

/-- The rows behind the cursor in the order of the queue view. -/
def rowsBeyond (text : TextSearch) (query : SimulationListQuery) (tables : Tables) : List ListedRow :=
  (((listedRows tables).filter (simulationListWhere text query)).filter fun row =>
    query.cursor.all fun cursor => cursor.precedes query.view row).insertionSort fun first second =>
      listedBefore query.view first second = true

theorem mem_rowsBeyond {tables : Tables} {row : ListedRow} :
    row ∈ rowsBeyond text query tables ↔
      (row ∈ listedRows tables ∧ simulationListWhere text query row = true) ∧
        (query.cursor.all fun cursor => cursor.precedes query.view row) = true := by
  rw [rowsBeyond, (List.perm_insertionSort _ _).mem_iff, List.mem_filter, List.mem_filter]

/-- Columns without repetitions stay so in the page. -/
theorem rowsBeyond_nodup {κ : Type} {column : Simulation -> κ} {tables : Tables}
    (keyed : Keyed column tables.simulations) :
    ((rowsBeyond text query tables).map fun row => column row.1).Nodup := by
  have listed : ((listedRows tables).map fun row => column row.1).Nodup := by
    have columns := (listedRows_sublist tables).map column
    rw [List.map_map] at columns
    exact keyed.sublist columns
  have kept : (((listedRows tables).filter (simulationListWhere text query)).filter fun row =>
      query.cursor.all fun cursor => cursor.precedes query.view row).Sublist (listedRows tables) :=
    List.filter_sublist.trans List.filter_sublist
  have filtered := listed.sublist (kept.map fun row => column row.1)
  exact ((List.perm_insertionSort _ _).map _).nodup_iff.mpr filtered

theorem rowsBeyond_sorted (view : query.view = "queue") (store : Store) :
    (rowsBeyond text query store.tables).Pairwise fun left right => queueKey left.1 < queueKey right.1 := by
  have ordered : (rowsBeyond text query store.tables).Pairwise fun left right =>
      listedBefore query.view left right = true := by
    have total : Std.Total fun first second : ListedRow => listedBefore query.view first second = true := by
      constructor
      intro first second
      simp only [listedBefore, view, if_true, decide_eq_true_eq]
      exact le_total _ _
    have transitive : IsTrans ListedRow fun first second => listedBefore query.view first second = true := by
      constructor
      intro first second third
      simp only [listedBefore, view, if_true, decide_eq_true_eq]
      exact le_trans
    exact List.pairwise_insertionSort _ _
  have places := List.pairwise_map.mp (@rowsBeyond_nodup text query _ _ _ store.unique.runSeq)
  refine (ordered.and places).imp ?_
  rintro left right ⟨before, different⟩
  simp only [listedBefore, view, if_true, decide_eq_true_eq] at before
  apply lt_of_le_of_ne before
  intro same
  apply different
  exact congrArg (fun key : QueueKey => (ofLex (ofLex key).2).1) same

/-- The key a cursor stands for. -/
def SimulationListCursorWire.queueKey (wire : SimulationListCursorWire) : QueueKey :=
  toLex (wire.queueBucket, toLex (wire.enqueueSequence, wire.runId))

theorem decodeSimulationListCursor_key {wire : SimulationListCursorWire} {view binding : String}
    {cursor : SimulationListCursor} (decoded : decodeSimulationListCursor wire view binding = Except.ok cursor) :
    cursor.queueKey = wire.queueKey := by
  rw [decodeSimulationListCursor] at decoded
  split at decoded
  · cases decoded
  · cases decoded
    rfl

/-- The query of the next request resumes behind the cursor of the chain. -/
structure Resumes (pager : Pager) (cursor : Option SimulationListCursor) : Prop where
  fromStart : pager.cursor = none -> cursor = none
  behind : forall wire, pager.cursor = some wire -> ∃ decoded, cursor = some decoded ∧
    decoded.queueKey = wire.queueKey

/-- What one request adds to the chain: the first rows beyond its cursor. -/
structure Advances (tables : Tables) (rows : List ListedRow) (limit : Nat) (pager next : Pager) : Prop where
  positive : 0 < limit
  returned : next.returned = pager.returned ++ (rows.take limit).map fun row => row.1.runId
  finished : next.finished = !decide (limit < rows.length)
  exhausted : ¬ limit < rows.length -> next.cursor = none
  cursor : limit < rows.length -> ∃ last, (rows.take limit).getLast? = some last ∧
    ∃ wire, next.cursor = some wire ∧ wire.queueKey = queueKey last.1

theorem page_advances {limit : Int} {view binding : String} {tables : Tables} {pager : Pager} {page : SimulationPage}
    {rows : List ListedRow} {total : Nat} (inRange : 1 ≤ limit)
    (isPage : page = simulationPageFromRecords
      ((rows.take (limit.toNat + 1)).map fun row => simulationRow tables row.1 row.2) limit.toNat total) :
    Advances tables rows limit.toNat pager
      { cursor := page.nextCursor view binding
        returned := pager.returned ++ page.items.map SimulationRecord.runId, finished := !page.hasMore } := by
  have positive : 0 < limit.toNat := by omega
  have items : page.items = (rows.take limit.toNat).map fun row => simulationRow tables row.1 row.2 := by
    rw [isPage, simulationPageFromRecords, keepFirst_all, ← List.map_take, List.take_take,
      Nat.min_eq_left (Nat.le_succ _)]
  have more : page.hasMore = decide (limit.toNat < rows.length) := by
    rw [isPage, simulationPageFromRecords, keepFirst_all, List.length_map, List.length_take]
    exact decide_eq_decide.mpr (by omega)
  refine ⟨positive, ?_, by rw [more], ?_, ?_⟩
  · rw [items, List.map_map]
    rfl
  · intro short
    rw [SimulationPage.nextCursor, more, decide_eq_false short]
    rfl
  · intro long
    have notEmpty : rows.take limit.toNat ≠ [] := by
      intro empty
      have none := congrArg List.length empty
      rw [List.length_take, List.length_nil] at none
      omega
    refine ⟨_, List.getLast?_eq_getLast_of_ne_nil notEmpty, ?_⟩
    rw [SimulationPage.nextCursor, more, decide_eq_true long, if_pos rfl, items, List.getLast?_map,
      List.getLast?_eq_getLast_of_ne_nil notEmpty]
    exact ⟨_, rfl, rfl⟩

theorem requestPage_ok {binding : String} {tables : Tables} {pager next : Pager}
    (accepted : requestPage text query binding tables pager = Except.ok next) :
    ∃ cursor limit, Resumes pager cursor ∧
      Advances tables (rowsBeyond text { query with cursor } tables) limit pager next := by
  simp only [requestPage, bind_ok_iff, pure_ok_iff] at accepted
  rcases accepted with ⟨cursor, decoded, page, listed, rfl⟩
  simp only [listSimulations] at listed
  split at listed
  · cases listed
  · split at listed
    · cases listed
    · rename_i inRange
      refine ⟨cursor, query.limit.toNat, ?_, ?_⟩
      · constructor
        · intro start
          rw [start] at decoded
          cases decoded
          rfl
        · intro wire found
          rw [found] at decoded
          simp only [Option.mapM_some] at decoded
          cases outcome : decodeSimulationListCursor wire query.view binding with
          | error fault =>
              rw [outcome] at decoded
              cases decoded
          | ok behind =>
              rw [outcome] at decoded
              cases decoded
              exact ⟨behind, rfl, decodeSimulationListCursor_key outcome⟩
      · rw [Bool.or_eq_true, decide_eq_true_eq, decide_eq_true_eq, not_or] at inRange
        apply page_advances (by omega)
        exact (Except.ok.inj listed).symm

/-! ## What a transaction does to the key of a run -/

/-- A run keeps its place. -/
theorem same_place {call : Call} (step : Transaction platform store call result) {old run : Simulation}
    (oldMember : old ∈ store.tables.simulations) (member : run ∈ result.tables.simulations)
    (sameId : old.runId = run.runId) : run.enqueueSeq = old.enqueueSeq := by
  rcases step.effect.run_target oldMember with ⟨later, laterMember, same⟩
  have laterId : later.runId = old.runId := congrArg RunAdmission.runId same
  have isRun : later = run := result.unique.runId.eq_of_mem laterMember member (laterId.trans sameId)
  rw [← isRun]
  exact congrArg RunAdmission.enqueueSeq same

/-- The run has left the queue. -/
def RunStarted (runId : String) (view : View) : Prop :=
  ∃ run ∈ view.runs, run.runId = runId ∧ run.status ≠ .queued

theorem RunStarted.steps {view target : View} {runId : String} (started : RunStarted runId view)
    (coherent : view.Coherent) (steps : Steps view target) : RunStarted runId target := by
  induction steps with
  | refl => exact started
  | @tail middle target earlier step inductionHypothesis =>
      rcases inductionHypothesis with ⟨run, member, same, left⟩
      rcases step.run_cases (Steps.coherent earlier coherent) member with
        ⟨after, afterMember, sameAfter, rfl | ⟨_, next, advance, _, status, _⟩⟩
      · exact ⟨after, afterMember, same, left⟩
      · refine ⟨after, afterMember, sameAfter.trans same, ?_⟩
        rw [status]
        intro queued
        exact runAdvance_ne_queued advance (JobStatus.simulationStatus_injective queued)

/-- A queued run that was stored before was queued before. -/
theorem run_queued_before {call : Call} (reachable : Reachable platform store)
    (step : Transaction platform store call result) {old run : Simulation}
    (oldMember : old ∈ store.tables.simulations) (member : run ∈ result.tables.simulations)
    (sameId : old.runId = run.runId) (queued : run.status = .queued) : old.status = .queued := by
  by_contra left
  have coherent := reachable_coherent reachable
  have started : RunStarted old.runId store.view := ⟨old.view, List.mem_map_of_mem oldMember, rfl, left⟩
  rcases started.steps coherent (step.steps coherent) with ⟨view, viewMember, sameView, still⟩
  rcases List.mem_map.mp viewMember with ⟨later, laterMember, rfl⟩
  have isRun : later = run := result.unique.runId.eq_of_mem laterMember member (sameView.trans sameId)
  rw [isRun] at still
  exact still queued

/-- A status that the queue view lists. -/
def InQueueView (status : SimulationStatus) : Prop :=
  status.isExecution = true ∨ status = .queued

theorem inQueueView_of_where (view : query.view = "queue") {row : ListedRow}
    (matched : simulationListWhere text query row = true) : InQueueView row.1.status := by
  simp only [simulationListWhere, view, Bool.and_eq_true, Bool.or_eq_true, decide_eq_true_eq] at matched
  rcases matched.1.1.1.1.1.1.1.1 with (other | active) | queued
  · exact absurd rfl other
  · exact Or.inl active
  · exact Or.inr queued

theorem queueBucket_active {status : SimulationStatus} (active : status.isExecution = true) :
    queueBucket status = 0 :=
  if_pos active

theorem queueBucket_queued {status : SimulationStatus} (queued : status = .queued) : queueBucket status = 1 := by
  rw [queued]
  rfl

/-- The key of a listed run stays, or the run is claimed and moves to the front. -/
theorem key_step {call : Call} (reachable : Reachable platform store)
    (step : Transaction platform store call result) {old run : Simulation}
    (oldMember : old ∈ store.tables.simulations) (member : run ∈ result.tables.simulations)
    (sameId : old.runId = run.runId) (before : InQueueView old.status) (after : InQueueView run.status) :
    queueKey run = queueKey old ∨
      (old.status = .queued ∧ run.status.isExecution = true ∧ ClaimsRun run.runId store call) := by
  have place := same_place step oldMember member sameId
  have sameKey (buckets : queueBucket run.status = queueBucket old.status) : queueKey run = queueKey old := by
    rw [queueKey, queueKey, buckets, place, sameId]
  rcases before with active | queued
  · rcases after with stillActive | isQueued
    · exact Or.inl (sameKey ((queueBucket_active stillActive).trans (queueBucket_active active).symm))
    · have wasQueued := run_queued_before reachable step oldMember member sameId isQueued
      rw [wasQueued] at active
      cases active
  · rcases after with isActive | stillQueued
    · exact Or.inr ⟨queued, isActive,
        run_activated_by_claim reachable step oldMember member sameId queued isActive⟩
    · exact Or.inl (sameKey ((queueBucket_queued stillQueued).trans (queueBucket_queued queued).symm))

theorem key_of_claimed {old run : Simulation} (queued : old.status = .queued)
    (active : run.status.isExecution = true) : queueKey run < queueKey old := by
  apply Prod.Lex.toLex_lt_toLex.mpr
  rw [queueBucket_active active, queueBucket_queued queued]
  exact Or.inl Nat.zero_lt_one

/-! ## The frontier of the active bucket -/

/-- A cursor in the active bucket stands before every queued run, and before
every run that is still to come. -/
def Frontier (listing : Listing) : Prop :=
  forall wire, listing.pager.cursor = some wire ->
    wire.enqueueSequence ≤ listing.store.sequences.enqueueSequence ∧ wire.queueBucket ≤ 1 ∧
      (wire.queueBucket = 0 -> ∀ row ∈ listing.store.tables.simulations, row.status = .queued ->
        wire.enqueueSequence < row.enqueueSeq)

variable {listing next : Listing} {binding runId : String} {call : Call}

theorem Frontier.transaction (frontier : Frontier listing) (reachable : Reachable platform listing.store)
    (step : Transaction platform listing.store call next.store) (same : next.pager = listing.pager) :
    Frontier next := by
  intro wire found
  rw [same] at found
  rcases frontier wire found with ⟨drawn, bucket, before⟩
  refine ⟨drawn.trans step.effect.enqueueSequence, bucket, ?_⟩
  intro active row member queued
  rcases step.effect.run_source member with ⟨old, oldMember, sameOld⟩ | ⟨_, place⟩
  · have sameId : old.runId = row.runId := congrArg RunAdmission.runId sameOld
    have wasQueued := run_queued_before reachable step oldMember member sameId queued
    rw [same_place step oldMember member sameId]
    exact before active old oldMember wasQueued
  · rw [place]
    exact Nat.lt_succ_of_le drawn

theorem queueBucket_le (status : SimulationStatus) : queueBucket status ≤ 1 := by
  cases status <;> decide

theorem active_of_queueBucket {status : SimulationStatus} (first : queueBucket status = 0) :
    status.isExecution = true := by
  revert first
  cases status <;> decide

theorem Frontier.page (reachable : Reachable platform listing.store) (same : next.store = listing.store)
    (accepted : requestPage text query binding listing.store.tables listing.pager = Except.ok next.pager) :
    Frontier next := by
  intro wire found
  rcases requestPage_ok accepted with ⟨cursor, limit, _, advances⟩
  by_cases more : limit < (rowsBeyond text { query with cursor } listing.store.tables).length
  · rcases advances.cursor more with ⟨last, isLast, other, cursorFound, key⟩
    have isWire : other = wire := Option.some.inj (cursorFound.symm.trans found)
    rw [isWire] at key
    have bucket : wire.queueBucket = queueBucket last.1.status :=
      congrArg (fun key : QueueKey => (ofLex key).1) key
    have place : wire.enqueueSequence = last.1.enqueueSeq :=
      congrArg (fun key : QueueKey => (ofLex (ofLex key).2).1) key
    have lastMember : last.1 ∈ listing.store.tables.simulations :=
      mem_of_mem_listedRows (mem_rowsBeyond.mp (List.mem_of_mem_take (List.mem_of_getLast? isLast))).1.1
    rw [same, bucket, place]
    refine ⟨run_place_drawn reachable lastMember, queueBucket_le _, ?_⟩
    intro first row member queued
    exact active_before_queued reachable lastMember member (active_of_queueBucket first) queued
  · rw [advances.exhausted more] at found
    cases found

/-! ## What the chain has done with a run -/

/-- The run was returned once and lies behind the cursor, or it was not returned
yet and lies ahead of it. -/
structure Accounted (runId : String) (listing : Listing) : Prop where
  unread : listing.pager.cursor = none -> listing.pager.finished = false -> listing.pager.returned.count runId = 0
  complete : listing.pager.finished = true -> listing.pager.returned.count runId = 1
  placed : forall wire, listing.pager.cursor = some wire -> ∀ row ∈ listing.store.tables.simulations,
    row.runId = runId ->
      (listing.pager.returned.count runId = 1 ∧ queueKey row ≤ wire.queueKey) ∨
        (listing.pager.returned.count runId = 0 ∧ wire.queueKey < queueKey row)

/-- The run lies behind the cursor and was not returned. -/
structure Lost (runId : String) (listing : Listing) : Prop where
  absent : listing.pager.returned.count runId = 0
  behind : listing.pager.finished = true ∨ ∃ wire, listing.pager.cursor = some wire ∧
    ∀ row ∈ listing.store.tables.simulations, row.runId = runId -> queueKey row ≤ wire.queueKey

/-- The rows of the run, before and after a transaction that keeps it listed. -/
theorem listed_step (view : query.view = "queue") (reachable : Reachable platform listing.store)
    (step : Transaction platform listing.store call next.store) (before : Listed text query runId listing)
    (after : Listed text query runId next) {row : Simulation} (member : row ∈ next.store.tables.simulations)
    (isRun : row.runId = runId) :
    ∃ old ∈ listing.store.tables.simulations, old.runId = runId ∧
      (queueKey row = queueKey old ∨
        (old.status = .queued ∧ row.status.isExecution = true ∧ ClaimsRun runId listing.store call)) := by
  rcases before with ⟨old, oldListed, oldId, oldMatches⟩
  rcases after with ⟨later, laterListed, laterId, laterMatches⟩
  have oldMember := mem_of_mem_listedRows oldListed
  have isLater : later.1 = row :=
    next.store.unique.runId.eq_of_mem (mem_of_mem_listedRows laterListed) member (laterId.trans isRun.symm)
  have laterView := inQueueView_of_where view laterMatches
  rw [isLater] at laterView
  refine ⟨old.1, oldMember, oldId, ?_⟩
  rw [← isRun]
  exact key_step reachable step oldMember member (oldId.trans isRun.symm)
    (inQueueView_of_where view oldMatches) laterView

theorem Accounted.transaction (view : query.view = "queue") (accounted : Accounted runId listing)
    (reachable : Reachable platform listing.store) (frontier : Frontier listing)
    (step : Transaction platform listing.store call next.store) (same : next.pager = listing.pager)
    (before : Listed text query runId listing) (after : Listed text query runId next)
    (inTime : ¬Overtaken runId listing (.transaction call)) : Accounted runId next := by
  refine ⟨by rw [same]; exact accounted.unread, by rw [same]; exact accounted.complete, ?_⟩
  intro wire found row member isRun
  rw [same] at found ⊢
  rcases listed_step view reachable step before after member isRun with ⟨old, oldMember, oldId, moved⟩
  rcases accounted.placed wire found old oldMember oldId with ⟨once, behind⟩ | ⟨absent, ahead⟩
  · refine Or.inl ⟨once, ?_⟩
    rcases moved with unmoved | ⟨queued, active, _⟩
    · rw [unmoved]
      exact behind
    · exact (key_of_claimed queued active).le.trans behind
  · refine Or.inr ⟨absent, ?_⟩
    rcases moved with unmoved | ⟨queued, active, claims⟩
    · rw [unmoved]
      exact ahead
    · rcases frontier wire found with ⟨_, bucket, first⟩
      have notReturned : runId ∉ listing.pager.returned := List.count_eq_zero.mp absent
      have inFirst : wire.queueBucket = 0 := by
        by_contra waiting
        exact inTime ⟨claims, notReturned, wire, found, by omega⟩
      -- The chain stands in the active bucket, so it meets the run there.
      apply Prod.Lex.toLex_lt_toLex.mpr
      refine Or.inr ⟨?_, ?_⟩
      · rw [inFirst, queueBucket_active active]
      · apply Prod.Lex.toLex_lt_toLex.mpr
        left
        rw [same_place step oldMember member (oldId.trans isRun.symm)]
        exact first inFirst old oldMember queued

theorem Lost.transaction (view : query.view = "queue") (lost : Lost runId listing)
    (reachable : Reachable platform listing.store)
    (step : Transaction platform listing.store call next.store) (same : next.pager = listing.pager)
    (before : Listed text query runId listing) (after : Listed text query runId next) : Lost runId next := by
  refine ⟨by rw [same]; exact lost.absent, ?_⟩
  rw [same]
  rcases lost.behind with finished | ⟨wire, found, behind⟩
  · exact Or.inl finished
  · refine Or.inr ⟨wire, found, ?_⟩
    intro row member isRun
    rcases listed_step view reachable step before after member isRun with ⟨old, oldMember, oldId, moved⟩
    have oldBehind := behind old oldMember oldId
    rcases moved with unmoved | ⟨queued, active, _⟩
    · rw [unmoved]
      exact oldBehind
    · exact (key_of_claimed queued active).le.trans oldBehind

/-! ## What a page does -/

/-- A page of a chain behind a cursor holds rows beyond that cursor only. -/
theorem Resumes.beyond {tables : Tables} {pager : Pager} {cursor : Option SimulationListCursor}
    (resumes : Resumes pager cursor) (view : query.view = "queue") {wire : SimulationListCursorWire}
    (found : pager.cursor = some wire) {row : ListedRow}
    (member : row ∈ rowsBeyond text { query with cursor } tables) : wire.queueKey < queueKey row.1 := by
  rcases resumes.behind wire found with ⟨decoded, rfl, key⟩
  have passed := (mem_rowsBeyond.mp member).2
  simp only [Option.all_some, SimulationListCursor.precedes, view, if_true, decide_eq_true_eq] at passed
  rw [← key]
  exact passed

/-- A matching row ahead of the cursor is among the rows the page is cut from. -/
theorem Resumes.reaches {tables : Tables} {pager : Pager} {cursor : Option SimulationListCursor}
    (resumes : Resumes pager cursor) (view : query.view = "queue") {row : ListedRow}
    (listed : row ∈ listedRows tables) (matched : simulationListWhere text query row = true)
    (ahead : forall wire, pager.cursor = some wire -> wire.queueKey < queueKey row.1) :
    row ∈ rowsBeyond text { query with cursor } tables := by
  refine mem_rowsBeyond.mpr ⟨⟨listed, matched⟩, ?_⟩
  cases found : pager.cursor with
  | none =>
      rw [resumes.fromStart found]
      rfl
  | some wire =>
      rcases resumes.behind wire found with ⟨decoded, rfl, key⟩
      simp only [Option.all_some, SimulationListCursor.precedes, view, if_true, decide_eq_true_eq]
      rw [key]
      exact ahead wire found

section Page

variable {rows : List ListedRow} {limit : Nat} {target : ListedRow}

/-- What a page shows of a run that no row of it belongs to. -/
theorem count_absent (others : ∀ row ∈ rows, row.1.runId ≠ runId) :
    ((rows.take limit).map fun row => row.1.runId).count runId = 0 := by
  apply List.count_eq_zero.mpr
  intro member
  rcases List.mem_map.mp member with ⟨row, rowMember, same⟩
  exact others row (List.mem_of_mem_take rowMember) same

theorem Advances.seen (advances : Advances listing.store.tables rows limit listing.pager next.pager)
    (once : listing.pager.returned.count runId = 1) (others : ∀ row ∈ rows, row.1.runId ≠ runId)
    (beyond : ∀ row ∈ rows, queueKey target.1 < queueKey row.1)
    (only : ∀ row ∈ next.store.tables.simulations, row.runId = runId -> row = target.1) :
    Accounted runId next := by
  have counted : next.pager.returned.count runId = 1 := by
    rw [advances.returned, List.count_append, once, count_absent others]
  refine ⟨?_, fun _ => counted, ?_⟩
  · intro noCursor unfinished
    have more : limit < rows.length := by
      rw [advances.finished] at unfinished
      simpa using unfinished
    rcases advances.cursor more with ⟨_, _, wire, found, _⟩
    rw [noCursor] at found
    cases found
  · intro wire found row member isRun
    by_cases more : limit < rows.length
    · rcases advances.cursor more with ⟨last, isLast, other, cursorFound, key⟩
      rw [← Option.some.inj (cursorFound.symm.trans found), key, only row member isRun]
      exact Or.inl ⟨counted, (beyond last (List.mem_of_mem_take (List.mem_of_getLast? isLast))).le⟩
    · rw [advances.exhausted more] at found
      cases found

theorem Advances.fresh (advances : Advances listing.store.tables rows limit listing.pager next.pager)
    (sorted : rows.Pairwise fun left right => queueKey left.1 < queueKey right.1)
    (distinct : (rows.map fun row => row.1.runId).Nodup) (member : target ∈ rows)
    (isTarget : target.1.runId = runId) (absent : listing.pager.returned.count runId = 0)
    (only : ∀ row ∈ next.store.tables.simulations, row.runId = runId -> row = target.1) :
    Accounted runId next := by
  have split := distinct
  rw [← List.take_append_drop limit rows, List.map_append, List.nodup_append] at split
  rw [← List.take_append_drop limit rows] at member
  rcases List.mem_append.mp member with taken | left
  · have counted : next.pager.returned.count runId = 1 := by
      rw [advances.returned, List.count_append, absent, Nat.zero_add, ← isTarget]
      exact List.count_eq_one_of_mem split.1 (List.mem_map_of_mem (f := fun row => row.1.runId) taken)
    refine ⟨?_, fun _ => counted, ?_⟩
    · intro noCursor unfinished
      have more : limit < rows.length := by
        rw [advances.finished] at unfinished
        simpa using unfinished
      rcases advances.cursor more with ⟨_, _, wire, found, _⟩
      rw [noCursor] at found
      cases found
    · intro wire found row rowMember isRun
      by_cases more : limit < rows.length
      · rcases advances.cursor more with ⟨last, isLast, other, cursorFound, key⟩
        rw [← Option.some.inj (cursorFound.symm.trans found), key, only row rowMember isRun]
        refine Or.inl ⟨counted, ?_⟩
        rcases eq_or_before_last (sorted.sublist (List.take_sublist limit rows)) isLast taken with same | before
        · rw [same]
        · exact le_of_lt before
      · rw [advances.exhausted more] at found
        cases found
  · have more : limit < rows.length := by
      have positive := List.length_pos_of_mem left
      rw [List.length_drop] at positive
      omega
    have notTaken : ((rows.take limit).map fun row => row.1.runId).count runId = 0 := by
      apply List.count_eq_zero.mpr
      intro shown
      exact split.2.2 runId shown runId
        (List.mem_map.mpr ⟨target, left, isTarget⟩) rfl
    have counted : next.pager.returned.count runId = 0 := by
      rw [advances.returned, List.count_append, absent, notTaken]
    have unfinished : next.pager.finished = false := by
      rw [advances.finished, decide_eq_true more]
      rfl
    refine ⟨fun _ _ => counted, ?_, ?_⟩
    · intro finished
      rw [unfinished] at finished
      cases finished
    · intro wire found row rowMember isRun
      rcases advances.cursor more with ⟨last, isLast, other, cursorFound, key⟩
      rw [← Option.some.inj (cursorFound.symm.trans found), key, only row rowMember isRun]
      exact Or.inr ⟨counted, @last_before_rest _ _ (· < ·) (fun row : ListedRow => queueKey row.1) rows limit last
        target sorted isLast left⟩

end Page

theorem Accounted.page (view : query.view = "queue") (accounted : Accounted runId listing)
    (listed : Listed text query runId listing) (unfinished : listing.pager.finished = false)
    (same : next.store = listing.store)
    (accepted : requestPage text query binding listing.store.tables listing.pager = Except.ok next.pager) :
    Accounted runId next := by
  rcases listed with ⟨target, targetListed, isTarget, matched⟩
  rcases requestPage_ok accepted with ⟨cursor, limit, resumes, advances⟩
  have targetMember := mem_of_mem_listedRows targetListed
  have only : ∀ row ∈ listing.store.tables.simulations, row.runId = runId -> row = target.1 :=
    fun row member isRun => listing.store.unique.runId.eq_of_mem member targetMember (isRun.trans isTarget.symm)
  have onlyNext : ∀ row ∈ next.store.tables.simulations, row.runId = runId -> row = target.1 := by
    rw [same]
    exact only
  have sorted := @rowsBeyond_sorted text { query with cursor } view listing.store
  have distinct := @rowsBeyond_nodup text { query with cursor } _ _ _ listing.store.unique.runId
  have fresh (absent : listing.pager.returned.count runId = 0)
      (ahead : forall wire, listing.pager.cursor = some wire -> wire.queueKey < queueKey target.1) :
      Accounted runId next :=
    advances.fresh sorted distinct (resumes.reaches view targetListed matched ahead) isTarget absent onlyNext
  cases found : listing.pager.cursor with
  | none =>
      apply fresh (accounted.unread found unfinished)
      intro wire isWire
      rw [found] at isWire
      cases isWire
  | some wire =>
      rcases accounted.placed wire found target.1 targetMember isTarget with ⟨once, behind⟩ | ⟨absent, ahead⟩
      · have beyond : ∀ row ∈ rowsBeyond text { query with cursor } listing.store.tables,
            queueKey target.1 < queueKey row.1 :=
          fun row member => lt_of_le_of_lt behind (resumes.beyond view found member)
        refine advances.seen once ?_ beyond onlyNext
        intro row member isRun
        have isTargetRow := only row.1 (mem_of_mem_listedRows (mem_rowsBeyond.mp member).1.1) isRun
        have strictly := beyond row member
        rw [isTargetRow] at strictly
        exact lt_irrefl _ strictly
      · apply fresh absent
        intro other isOther
        rw [← Option.some.inj (found.symm.trans isOther)]
        exact ahead

theorem Lost.page (view : query.view = "queue") (lost : Lost runId listing)
    (unfinished : listing.pager.finished = false) (same : next.store = listing.store)
    (accepted : requestPage text query binding listing.store.tables listing.pager = Except.ok next.pager) :
    Lost runId next := by
  rcases requestPage_ok accepted with ⟨cursor, limit, resumes, advances⟩
  rcases lost.behind with finished | ⟨wire, found, behind⟩
  · rw [unfinished] at finished
    cases finished
  · have others : ∀ row ∈ rowsBeyond text { query with cursor } listing.store.tables, row.1.runId ≠ runId := by
      intro row member isRun
      have beyond := resumes.beyond view found member
      have notBeyond := behind row.1 (mem_of_mem_listedRows (mem_rowsBeyond.mp member).1.1) isRun
      exact absurd beyond (not_lt.mpr notBeyond)
    constructor
    · rw [advances.returned, List.count_append, lost.absent, count_absent others]
    · by_cases more : limit < (rowsBeyond text { query with cursor } listing.store.tables).length
      · rcases advances.cursor more with ⟨last, isLast, other, cursorFound, key⟩
        refine Or.inr ⟨other, cursorFound, ?_⟩
        intro row member isRun
        rw [same] at member
        rw [key]
        have lastBeyond := resumes.beyond view found (List.mem_of_mem_take (List.mem_of_getLast? isLast))
        exact (behind row member isRun).trans lastBeyond.le
      · left
        rw [advances.finished, decide_eq_false more]
        rfl

/-! ## Chains of pages -/

/-- What holds along a chain throughout which the run matches the filter. -/
structure Following (platform : Platform) (text : TextSearch) (query : SimulationListQuery) (runId : String)
    (listing : Listing) : Prop where
  reachable : Reachable platform listing.store
  listed : Listed text query runId listing
  frontier : Frontier listing

theorem Following.step (following : Following platform text query runId listing) {label : ListingLabel}
    (step : ((listingSystem platform text query binding).restrict (Listed text query runId)).step listing label
      next) : Following platform text query runId next := by
  rcases step with ⟨step, listed⟩
  cases label with
  | transaction call =>
      exact ⟨System.Reachable.step following.reachable step.1, listed,
        following.frontier.transaction following.reachable step.1 step.2⟩
  | page =>
      rcases step with ⟨_, same, accepted⟩
      refine ⟨?_, listed, Frontier.page following.reachable same accepted⟩
      rw [same]
      exact following.reachable

theorem following_initial (initial : (listingSystem platform text query binding).initial listing)
    (listed : Listed text query runId listing) : Following platform text query runId listing := by
  refine ⟨initial.1, listed, ?_⟩
  intro wire found
  rw [initial.2] at found
  cases found

theorem accounted_initial (initial : (listingSystem platform text query binding).initial listing) :
    Accounted runId listing := by
  constructor
  · intro _ _
    rw [initial.2]
    rfl
  · intro finished
    rw [initial.2] at finished
    cases finished
  · intro wire found
    rw [initial.2] at found
    cases found

theorem Accounted.step (view : query.view = "queue") (following : Following platform text query runId listing)
    (accounted : Accounted runId listing) {label : ListingLabel} (inTime : ¬Overtaken runId listing label)
    (step : ((listingSystem platform text query binding).restrict (Listed text query runId)).step listing label
      next) : Accounted runId next := by
  rcases step with ⟨step, listed⟩
  cases label with
  | transaction call =>
      exact accounted.transaction view following.reachable following.frontier step.1 step.2 following.listed
        listed inTime
  | page =>
      rcases step with ⟨unfinished, same, accepted⟩
      exact accounted.page view following.listed unfinished same accepted

theorem Lost.step (view : query.view = "queue") (following : Following platform text query runId listing)
    (lost : Lost runId listing) {label : ListingLabel}
    (step : ((listingSystem platform text query binding).restrict (Listed text query runId)).step listing label
      next) : Lost runId next := by
  rcases step with ⟨step, listed⟩
  cases label with
  | transaction call =>
      exact lost.transaction view following.reachable step.1 step.2 following.listed listed
  | page =>
      rcases step with ⟨unfinished, same, accepted⟩
      exact lost.page view unfinished same accepted

/-- A run that is claimed while the chain stands in the waiting bucket is lost. -/
theorem Overtaken.lost (view : query.view = "queue") (following : Following platform text query runId listing)
    {label : ListingLabel} (overtaken : Overtaken runId listing label)
    (step : ((listingSystem platform text query binding).restrict (Listed text query runId)).step listing label
      next) : Lost runId next := by
  rcases step with ⟨step, listed⟩
  cases label with
  | page => cases overtaken
  | transaction call =>
      rcases step with ⟨step, same⟩
      rcases overtaken with ⟨⟨job, jobMember, present, claims⟩, notReturned, wire, found, waiting⟩
      refine ⟨?_, Or.inr ⟨wire, ?_, ?_⟩⟩
      · rw [same]
        exact List.count_eq_zero.mpr notReturned
      · rw [same]
        exact found
      · intro row member isRun
        have started := claimed_run_not_queued following.reachable step jobMember claims member
          (present.trans (congrArg some isRun.symm))
        rcases listed with ⟨target, targetListed, targetId, matched⟩
        have isTarget : target.1 = row :=
          next.store.unique.runId.eq_of_mem (mem_of_mem_listedRows targetListed) member (targetId.trans isRun.symm)
        have inView := inQueueView_of_where view matched
        rw [isTarget] at inView
        apply le_of_lt
        apply Prod.Lex.toLex_lt_toLex.mpr
        rw [queueBucket_active (inView.resolve_right started), waiting]
        exact Or.inl Nat.zero_lt_one

/-- The steps of a chain by which the run, listed throughout, is not overtaken. -/
abbrev undisturbedListing (platform : Platform) (text : TextSearch) (query : SimulationListQuery)
    (binding runId : String) : System Listing ListingLabel :=
  ((listingSystem platform text query binding).restrict (Listed text query runId)).restrictSteps
    fun listing label => ¬Overtaken runId listing label

theorem undisturbed_accounted (view : query.view = "queue")
    (reachable : (undisturbedListing platform text query binding runId).Reachable listing) :
    Following platform text query runId listing ∧ Accounted runId listing := by
  refine System.Reachable.invariant
    (fun listing => Following platform text query runId listing ∧ Accounted runId listing) ?_ ?_ reachable
  · intro start initial
    exact ⟨following_initial initial.1 initial.2, accounted_initial initial.1⟩
  · intro source label target _ step held
    exact ⟨held.1.step step.1, held.2.step view held.1 step.2 step.1⟩

theorem listed_following
    (reachable : ((listingSystem platform text query binding).restrict (Listed text query runId)).Reachable
      listing) : Following platform text query runId listing := by
  refine System.Reachable.invariant (Following platform text query runId) ?_ ?_ reachable
  · intro start initial
    exact following_initial initial.1 initial.2
  · intro source label target _ step held
    exact held.step step

/-- A chain of pages of the queue view returns a run that matches throughout
exactly once, unless the run is claimed while the chain, still without it,
stands in the waiting bucket.  In that case no later page returns it. -/
theorem queue_pages_complete (platform : Platform) (text : TextSearch) (query : SimulationListQuery)
    (binding runId : String) (view : query.view = "queue") :
    (forall listing, (undisturbedListing platform text query binding runId).Reachable listing ->
      listing.pager.returned.count runId ≤ 1 ∧
        (listing.pager.finished = true -> listing.pager.returned.count runId = 1)) ∧
    (forall source label next labels later,
      ((listingSystem platform text query binding).restrict (Listed text query runId)).Reachable source ->
      ((listingSystem platform text query binding).restrict (Listed text query runId)).step source label next ->
      Overtaken runId source label ->
      ((listingSystem platform text query binding).restrict (Listed text query runId)).Run next labels later ->
      later.pager.returned.count runId = 0) := by
  constructor
  · intro listing reachable
    rcases undisturbed_accounted view reachable with ⟨following, accounted⟩
    refine ⟨?_, accounted.complete⟩
    cases found : listing.pager.cursor with
    | none =>
        cases finished : listing.pager.finished with
        | false => exact (accounted.unread found finished).le.trans (Nat.zero_le 1)
        | true => exact (accounted.complete finished).le
    | some wire =>
        rcases following.listed with ⟨target, targetListed, isTarget, _⟩
        rcases accounted.placed wire found target.1 (mem_of_mem_listedRows targetListed) isTarget with
          ⟨once, _⟩ | ⟨absent, _⟩
        · exact once.le
        · exact absent.le.trans (Nat.zero_le 1)
  · intro source label next labels later reachable step overtaken run
    have following := listed_following reachable
    have lost := overtaken.lost view following step
    have held := System.Reachable.stable
      (fun listing => Following platform text query runId listing ∧ Lost runId listing)
      (fun source label target _ step held => ⟨held.1.step step, held.2.step view held.1 step⟩)
      (reachable.step step) run ⟨following.step step, lost⟩
    exact held.2.absent

/-! ## Two queued runs -/

def sampleSearch : TextSearch :=
  { lower := id, toLower := id }

/-- One run a page. -/
def queueQuery : SimulationListQuery :=
  { view := "queue", runId := "", status := none, datasetId := "", parameterProfileVersionId := ""
    runMode := none, search := "", createdFrom := none, createdTo := none, cursor := none, limit := 1 }

/-- The digest of a canonical text is the one listed with its value. -/
theorem listedDigest_canonical {listed : List (Json × String)} {others : List (String × String)}
    (distinct : (listed.map fun entry => Json.sortKeys entry.1).Nodup) {value : Json} {digest : String}
    (member : (value, digest) ∈ listed) :
    listedDigest (listed.map (fun entry => (Json.canonical entry.1, entry.2)) ++ others) (Json.canonical value) =
      digest := by
  induction listed with
  | nil => cases member
  | cons head tail inductionHypothesis =>
      rw [List.map_cons, List.nodup_cons] at distinct
      rw [listedDigest, List.map_cons, List.cons_append, List.find?_cons]
      rcases List.mem_cons.mp member with isHead | inTail
      · rw [← isHead, decide_eq_true rfl]
      · have differs : Json.canonical head.1 ≠ Json.canonical value := by
          intro same
          apply distinct.1
          rw [Json.canonical_injective same]
          exact List.mem_map_of_mem (f := fun entry => Json.sortKeys entry.1) inTail
        rw [decide_eq_false differs]
        exact inductionHypothesis distinct.2 inTail

def valueOf : Except String Json -> Json
  | .ok value => value
  | .error message => .string message

/-- The values of two admissions with the digests of their canonical texts. -/
def twoRunValues : List (Json × String) :=
  [(.object fieldStandardMaterial, "43064ad17fb882bb086f655e2f6bd4a85cce5ec6244b0586907c3c49f9e79ca4"),
    (valueOf (buildSnapshot (platformWith fieldStandardDigests) "run_1" sampleRequest sampleInputs 4),
      "d41d5d850f385bf8275466f623611c400eb318b4350230d1db3ab81ed9c7d94e"),
    (valueOf (buildSnapshot (platformWith fieldStandardDigests) "run_2" sampleRequest sampleInputs 4),
      "71e55823da3328f007c7a8fa2ad385cb9edb56eb9c0849067b8cf1e14f7e7d59"),
    (valueOf (buildSimulationEnvelope (platformWith fieldStandardDigests) "job_3" "run_2" sampleRequest
        sampleInputs),
      "ddccf80c720b12b3cdecad6c8aeb5309185e0f045fe00c5a61f6cd1a28766280")]

def twoRunPlatform : Platform :=
  platformWith (twoRunValues.map (fun entry => (Json.canonical entry.1, entry.2)) ++ sampleDigests)

theorem twoRun_digest {value : Json} {digest : String} (member : (value, digest) ∈ twoRunValues) :
    twoRunPlatform.sha256Hex (Json.canonical value) = digest := by
  have distinct : (twoRunValues.map fun entry => Json.sortKeys entry.1).Nodup := by decide +kernel
  rw [twoRunPlatform, platformWith_sha256Hex]
  exact listedDigest_canonical distinct member

theorem twoRun_fieldStandard : fieldStandardSnapshot twoRunPlatform =
    fieldStandardSnapshot (platformWith fieldStandardDigests) := by
  have ours : fieldStandardSha256 twoRunPlatform =
      "43064ad17fb882bb086f655e2f6bd4a85cce5ec6244b0586907c3c49f9e79ca4" :=
    twoRun_digest List.mem_cons_self
  have theirs : fieldStandardSha256 (platformWith fieldStandardDigests) =
      "43064ad17fb882bb086f655e2f6bd4a85cce5ec6244b0586907c3c49f9e79ca4" := by
    rw [fieldStandardSha256, platformWith_sha256Hex, listedDigest, fieldStandardDigests, List.find?_cons,
      decide_eq_true rfl]
  rw [fieldStandardSnapshot, fieldStandardSnapshot, ours, theirs]

/-- The inserts of `CreateSimulation` with the digest of the snapshot at hand. -/
def admitWith (snapshotSha256 : String) (platform : Platform) (now clock : Instant) (identifiers : Identifiers)
    (key : String) (request : CreateSimulationRequest) (inputs : AdmissionInputs) (store : Store) :
    Except Fault (Store × SimulationRecord) := do
  let (sequence, drawn) := nextSequence store
  let snapshot ← Fault.ofText (buildSnapshot platform identifiers.subjectId request inputs clock)
  require (safeWorkerRelativePath inputs.dataset.storageKey = true ∧
      inputs.dataset.storageKey = canonicalSourcePath request.datasetId)
    (.stable (stableError "DATASET_NOT_VALID" "dataset_id" "Dataset source storage path is invalid."))
  let envelope ← Fault.ofText
    (buildSimulationEnvelope platform identifiers.jobId identifiers.subjectId request inputs)
  let simulated ← Fault.ofPg
    (insertSimulation (admittedRun now identifiers.subjectId sequence request inputs) drawn)
  let frozen ← Fault.ofPg (insertSimulationSnapshot
    { runId := identifiers.subjectId, snapshotJson := snapshot, snapshotSha256 } simulated)
  let enqueued ← Fault.ofPg
    (insertJob (admittedJob platform now identifiers sequence request envelope) frozen)
  let reported ← Fault.ofPg (insertSimulationEvents now
    [stateEvent identifiers.subjectId [("status", .string "QUEUED")]] enqueued)
  let announced ← Fault.ofPg (emitQueuePositionEvents now reported)
  let keyed ← Fault.ofPg
    (insertIdempotencyKey (usedKey platform now identifiers key request) announced)
  let record ← simulationById identifiers.subjectId keyed.tables
  return (keyed, record)

theorem admitRun_eq_admitWith {snapshotSha256 key : String} {now clock : Instant} {identifiers : Identifiers}
    {request : CreateSimulationRequest} {inputs : AdmissionInputs} {snapshot : Json}
    (built : buildSnapshot platform identifiers.subjectId request inputs clock = .ok snapshot)
    (digest : platform.sha256Hex (Json.canonical snapshot) = snapshotSha256) :
    admitRun platform now clock identifiers key request inputs store =
      admitWith snapshotSha256 platform now clock identifiers key request inputs store := by
  simp only [admitRun, admitWith, built, ← digest]
  rfl

/-- A snapshot depends on the digests through the field standard only. -/
theorem buildSnapshot_platformWith {digests others : List (String × String)}
    (same : fieldStandardSnapshot (platformWith digests) = fieldStandardSnapshot (platformWith others))
    (runId : String) (request : CreateSimulationRequest) (inputs : AdmissionInputs) (clock : Instant) :
    buildSnapshot (platformWith digests) runId request inputs clock =
      buildSnapshot (platformWith others) runId request inputs clock := by
  rw [buildSnapshot, buildSnapshot, same]
  rfl

theorem twoRun_snapshot (runId : String) :
    buildSnapshot twoRunPlatform runId sampleRequest sampleInputs 4 =
      buildSnapshot (platformWith fieldStandardDigests) runId sampleRequest sampleInputs 4 :=
  buildSnapshot_platformWith twoRun_fieldStandard runId sampleRequest sampleInputs 4

/-- The store behind an accepted admission. -/
def behind (store : Store) : Except Fault (Store × SimulationRecord) -> Store
  | .ok (result, _) => result
  | .error _ => store

/-- An admission whose checks pass is a transaction. -/
theorem admission_transaction {snapshotSha256 key runId jobId : String} {now : Instant}
    (valid : (validateCreate twoRunPlatform key sampleRequest).isOk = true)
    (fresh : storedKey? key store.tables = none)
    (checked : checkAdmission twoRunPlatform sampleRequest store.tables = .ok sampleInputs)
    (built : (buildSnapshot (platformWith fieldStandardDigests) runId sampleRequest sampleInputs 4).isOk = true)
    (listed : (valueOf (buildSnapshot (platformWith fieldStandardDigests) runId sampleRequest sampleInputs 4),
      snapshotSha256) ∈ twoRunValues)
    (admitted : (admitWith snapshotSha256 twoRunPlatform now 4 ⟨runId, jobId⟩ key sampleRequest sampleInputs
      store).isOk = true) :
    ∃ call, Transaction twoRunPlatform store call
      (behind store (admitWith snapshotSha256 twoRunPlatform now 4 ⟨runId, jobId⟩ key sampleRequest sampleInputs
        store)) := by
  cases snapshotBuilt : buildSnapshot (platformWith fieldStandardDigests) runId sampleRequest sampleInputs 4 with
  | error fault =>
      rw [snapshotBuilt] at built
      cases built
  | ok snapshot =>
      rw [snapshotBuilt] at listed
      have sameBuilt := (twoRun_snapshot runId).trans snapshotBuilt
      cases validated : validateCreate twoRunPlatform key sampleRequest with
      | error fault =>
          rw [validated] at valid
          cases valid
      | ok done =>
          cases outcome : admitWith snapshotSha256 twoRunPlatform now 4 ⟨runId, jobId⟩ key sampleRequest
              sampleInputs store with
          | error fault =>
              rw [outcome] at admitted
              cases admitted
          | ok pair =>
              rcases pair with ⟨result, record⟩
              have admission := (admitRun_eq_admitWith sameBuilt (twoRun_digest listed)).trans outcome
              have created : createSimulation twoRunPlatform now 4 ⟨runId, jobId⟩ key sampleRequest store =
                  .ok (result, record, false) := by
                rw [createSimulation, validated, createSimulationTx, fresh]
                simp only [checked, admission, ofStable, ok_bind]
                rfl
              exact ⟨_, .committed (show execute twoRunPlatform now (.createSimulation 4 ⟨runId, jobId⟩ key
                sampleRequest) store = _ from answer_ok_iff.mpr ⟨_, created, rfl⟩)⟩

def setupStore : Store :=
  replay twoRunPlatform sampleSetup (initialStore 0)

def oneQueued : Store :=
  behind setupStore
    (admitWith "d41d5d850f385bf8275466f623611c400eb318b4350230d1db3ab81ed9c7d94e" twoRunPlatform 4 4
      ⟨"run_1", "job_2"⟩ sampleKey sampleRequest sampleInputs setupStore)

def twoQueued : Store :=
  behind oneQueued
    (admitWith "71e55823da3328f007c7a8fa2ad385cb9edb56eb9c0849067b8cf1e14f7e7d59" twoRunPlatform 5 4
      ⟨"run_2", "job_3"⟩ "fedcba9876543210" sampleRequest sampleInputs oneQueued)

theorem twoQueued_reachable : Reachable twoRunPlatform twoQueued := by
  have setup : Reachable twoRunPlatform setupStore :=
    replay_reachable sampleSetup (System.Reachable.of_initial ⟨0, rfl⟩)
  have checks : ((validateCreate twoRunPlatform sampleKey sampleRequest).isOk = true ∧
        storedKey? sampleKey setupStore.tables = none ∧
        (buildSnapshot (platformWith fieldStandardDigests) "run_1" sampleRequest sampleInputs 4).isOk = true ∧
        (admitWith "d41d5d850f385bf8275466f623611c400eb318b4350230d1db3ab81ed9c7d94e" twoRunPlatform 4 4
          ⟨"run_1", "job_2"⟩ sampleKey sampleRequest sampleInputs setupStore).isOk = true) ∧
      (validateCreate twoRunPlatform "fedcba9876543210" sampleRequest).isOk = true ∧
        storedKey? "fedcba9876543210" oneQueued.tables = none ∧
        (buildSnapshot (platformWith fieldStandardDigests) "run_2" sampleRequest sampleInputs 4).isOk = true ∧
        (admitWith "71e55823da3328f007c7a8fa2ad385cb9edb56eb9c0849067b8cf1e14f7e7d59" twoRunPlatform 5 4
          ⟨"run_2", "job_3"⟩ "fedcba9876543210" sampleRequest sampleInputs oneQueued).isOk = true := by
    decide +kernel
  rcases checks with ⟨⟨valid, fresh, built, admitted⟩, secondValid, secondFresh, secondBuilt, secondAdmitted⟩
  rcases admission_transaction valid fresh (by rfl) built (List.mem_cons_of_mem _ List.mem_cons_self) admitted with
    ⟨_, first⟩
  rcases admission_transaction secondValid secondFresh (by rfl) secondBuilt
    (List.mem_cons_of_mem _ (List.mem_cons_of_mem _ List.mem_cons_self)) secondAdmitted with ⟨_, second⟩
  exact (setup.step first).step second

/-- The first run is withdrawn, and the second one is claimed. -/
def overtaking : List (Instant × Operation) :=
  [(6, .cancelSimulation "run_1" "no longer needed"), (7, .registerInstance "worker-1" "worker.task.v1" "1.0"),
    (8, .claim "worker-1" "attempt_2" "lease-token-0002" 60)]

def firstPage : Pager :=
  { cursor := some
      { version := 1, binding := "binding", view := "queue", createdAt := 4, runId := "run_1"
        queueBucket := 1, enqueueSequence := 2 }
    returned := ["run_1"], finished := false }

def lastPage : Pager :=
  { cursor := none, returned := ["run_1", "run_2"], finished := true }

/-- A chain that ended without the second run. -/
def endedWithout : Pager :=
  { cursor := none, returned := ["run_1"], finished := true }

/-- The pages of the two chains, and the second run stays listed while it is overtaken. -/
theorem sample_pages :
    (requestPage sampleSearch queueQuery "binding" twoQueued.tables Pager.first = .ok firstPage ∧
      requestPage sampleSearch queueQuery "binding" twoQueued.tables firstPage = .ok lastPage ∧
      requestPage sampleSearch queueQuery "binding" (replay twoRunPlatform overtaking twoQueued).tables firstPage =
        .ok endedWithout) ∧
    Listed sampleSearch queueQuery "run_2" ⟨twoQueued, Pager.first⟩ ∧
    ∀ count < 4, Listed sampleSearch queueQuery "run_2"
      ⟨replay twoRunPlatform (overtaking.take count) twoQueued, Pager.first⟩ := by
  decide +kernel

/-- The second run can be followed from its admission on. -/
abbrev secondListed : System Listing ListingLabel :=
  (listingSystem twoRunPlatform sampleSearch queueQuery "binding").restrict
    (Listed sampleSearch queueQuery "run_2")

theorem twoQueued_initial : secondListed.initial ⟨twoQueued, Pager.first⟩ :=
  ⟨⟨twoQueued_reachable, rfl⟩, sample_pages.2.1⟩

theorem firstPage_step : secondListed.step ⟨twoQueued, Pager.first⟩ .page ⟨twoQueued, firstPage⟩ :=
  ⟨⟨rfl, rfl, sample_pages.1.1⟩, sample_pages.2.1.onPage firstPage⟩

/-- Transactions that keep the second run listed are steps of the system. -/
theorem settled_reachable {pager : Pager} (calls : List (Instant × Operation)) {store : Store}
    (reachable : secondListed.Reachable ⟨store, pager⟩)
    (listed : forall count, count ≤ calls.length ->
      Listed sampleSearch queueQuery "run_2" ⟨replay twoRunPlatform (calls.take count) store, pager⟩) :
    secondListed.Reachable ⟨replay twoRunPlatform calls store, pager⟩ := by
  induction calls generalizing store with
  | nil => exact reachable
  | cons call rest inductionHypothesis =>
      rw [replay_cons]
      apply inductionHypothesis
      · have next : Listed sampleSearch queueQuery "run_2" ⟨settleCall twoRunPlatform store call, pager⟩ :=
          listed 1 (Nat.le_add_left 1 _)
        cases outcome : execute twoRunPlatform call.1 call.2 store with
        | error fault =>
            have same : settleCall twoRunPlatform store call = store := by
              rw [settleCall, outcome]
            rw [same]
            exact reachable
        | ok pair =>
            have same : settleCall twoRunPlatform store call = pair.1 := settleCall_of_ok outcome
            refine @System.Reachable.step _ _ _ _ _ (.transaction ⟨call.1, call.2, .ok pair.2⟩) reachable ?_
            rw [same] at next ⊢
            exact ⟨⟨.committed outcome, rfl⟩, next⟩
      · intro count bound
        exact listed (count + 1) (Nat.succ_le_succ bound)

/-- The second run is claimed between two pages, and the chain ends without it. -/
theorem claimed_run_skipped :
    ∃ listing, secondListed.Reachable listing ∧ listing.pager.finished = true ∧
      listing.pager.returned.count "run_2" = 0 := by
  have paged : secondListed.Reachable ⟨twoQueued, firstPage⟩ :=
    (System.Reachable.of_initial twoQueued_initial).step firstPage_step
  have claimed : secondListed.Reachable ⟨replay twoRunPlatform overtaking twoQueued, firstPage⟩ := by
    apply settled_reachable overtaking paged
    intro count bound
    exact (sample_pages.2.2 count (Nat.lt_succ_of_le bound)).onPage firstPage
  refine ⟨⟨replay twoRunPlatform overtaking twoQueued, endedWithout⟩, ?_, rfl, rfl⟩
  refine @System.Reachable.step _ _ _ _ _ .page claimed ⟨⟨rfl, rfl, sample_pages.1.2.2⟩, ?_⟩
  have stays := (sample_pages.2.2 3 (Nat.lt_succ_self 3)).onPage endedWithout
  rw [show overtaking.take 3 = overtaking from rfl] at stays
  exact stays

/-- Undisturbed, the chain returns the second run on its second page. -/
theorem queue_pages_complete_sample :
    ∃ listing, (undisturbedListing twoRunPlatform sampleSearch queueQuery "binding" "run_2").Reachable listing ∧
      listing.pager.finished = true ∧ listing.pager.returned.count "run_2" = 1 := by
  have paged : (undisturbedListing twoRunPlatform sampleSearch queueQuery "binding" "run_2").Reachable
      ⟨twoQueued, firstPage⟩ :=
    System.Reachable.step (System.Reachable.of_initial twoQueued_initial) ⟨firstPage_step, id⟩
  have ended : (undisturbedListing twoRunPlatform sampleSearch queueQuery "binding" "run_2").Reachable
      ⟨twoQueued, lastPage⟩ :=
    @System.Reachable.step _ _ _ _ _ .page paged ⟨⟨⟨rfl, rfl, sample_pages.1.2.1⟩, sample_pages.2.1.onPage lastPage⟩, id⟩
  exact ⟨_, ended, rfl,
    ((queue_pages_complete twoRunPlatform sampleSearch queueQuery "binding" "run_2" rfl).1 _ ended).2 rfl⟩

end Queue
end FederatedIot
