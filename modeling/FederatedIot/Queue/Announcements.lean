import FederatedIot.Queue.Capacity
import FederatedIot.Queue.Fifo

namespace FederatedIot
namespace Queue

open Foundation Foundation.Relation Foundation.Outcome

/-!
# Announced queue positions

A waiting run learns its position from the newest event of its log.  The
queued runs change by admission, claim, cancellation and recovery.  Each of
these transactions ends with new positions for all runs that still wait, and
every other transaction leaves both the waiting runs and their logs as they
are.  Retention keeps the newest event of each run, so in every store the
newest event of a queued run states its current rank and the current number of
queued runs.
-/

variable {platform : Platform} {store middle result : Store} {now : Instant}

/-! ## Places and announcements -/

/-- The queued runs with their places. -/
def queuedPlaces (simulations : List Simulation) : List (String × Nat) :=
  (simulations.filter fun row => row.status = .queued).map fun row => (row.runId, row.enqueueSeq)

/-- The number of queued runs up to a place. -/
def rankOf (places : List (String × Nat)) (place : Nat) : Nat :=
  (places.filter fun other => other.2 ≤ place).length

def positionPayload (position count : Nat) : Json :=
  .object [("status", .string "QUEUED"), ("queue_position", Json.ofNat position),
    ("queued_count", Json.ofNat count)]

/-- The newest event of the run is a `queue.position` event with this payload. -/
structure Announces (events : List SimulationEvent) (runId : String) (payload : Json)
    (event : SimulationEvent) : Prop where
  member : event ∈ events
  sameRun : event.runId = runId
  kind : event.eventType = .queuePosition
  payload : event.payloadJson = payload
  newest : ∀ other ∈ events, other.runId = runId -> other.eventId ≤ event.eventId

/-- Every queued run has been told its rank and the length of the queue. -/
def Announced (tables : Tables) : Prop :=
  ∀ place ∈ queuedPlaces tables.simulations, ∃ event,
    Announces tables.simulationEvents place.1
      (positionPayload (rankOf (queuedPlaces tables.simulations) place.2)
        (queuedPlaces tables.simulations).length) event

theorem mem_queuedPlaces {simulations : List Simulation} {place : String × Nat} :
    place ∈ queuedPlaces simulations ↔
      ∃ row ∈ simulations, row.status = .queued ∧ (row.runId, row.enqueueSeq) = place := by
  unfold queuedPlaces
  simp only [List.mem_map, List.mem_filter, decide_eq_true_eq, and_assoc]

/-! ## Retention -/

/-- The newest event of a run survives one retention. -/
theorem mem_retained {retention : Int} {runId : String} {events : List SimulationEvent}
    {event : SimulationEvent} (kept : 0 < retention) (member : event ∈ events)
    (newest : ∀ other ∈ events, other.runId = event.runId -> other.eventId ≤ event.eventId) :
    event ∈ retainSimulationEvents retention runId events := by
  unfold retainSimulationEvents
  rw [List.mem_filter]
  refine ⟨member, ?_⟩
  rw [Bool.not_eq_true', Bool.and_eq_false_iff]
  by_cases same : event.runId = runId
  · right
    have none : (events.filter fun other =>
        other.runId = runId && event.eventId < other.eventId) = [] := by
      rw [List.filter_eq_nil_iff]
      intro other otherMember later
      rw [Bool.and_eq_true, decide_eq_true_eq, decide_eq_true_eq] at later
      have bound := newest other otherMember (later.1.trans same.symm)
      omega
    rw [none, decide_eq_false_iff_not]
    simpa using kept
  · exact Or.inl (decide_eq_false same)

theorem mem_fold_retained {retention : Int} {values : List EventValues}
    {events : List SimulationEvent} {event : SimulationEvent} (kept : 0 < retention)
    (member : event ∈ events)
    (newest : ∀ other ∈ events, other.runId = event.runId -> other.eventId ≤ event.eventId) :
    event ∈ values.foldl
      (fun kept value => retainSimulationEvents retention value.runId kept) events := by
  induction values generalizing events with
  | nil => exact member
  | cons value rest inductionHypothesis =>
      apply inductionHypothesis (mem_retained kept member newest)
      intro other otherMember same
      exact newest other (mem_of_mem_retained otherMember) same

/-- Retention of one run leaves the events of the others. -/
theorem filter_retained {retention : Int} {runId other : String} {events : List SimulationEvent}
    (different : other ≠ runId) :
    (retainSimulationEvents retention runId events).filter (fun event => event.runId = other) =
      events.filter fun event => event.runId = other := by
  unfold retainSimulationEvents
  rw [List.filter_filter]
  apply List.filter_congr
  intro event _
  by_cases same : event.runId = other
  · have passed : event.runId ≠ runId := by
      rw [same]
      exact different
    simp [same, different]
  · simp [same]

/-- Events of other runs leave the log of a run alone. -/
theorem filter_appendEvents {last : Nat} {retention : Int} {values : List EventValues}
    {events : List SimulationEvent} {runId : String}
    (others : ∀ value ∈ values, value.runId ≠ runId) :
    (appendEvents now last retention values events).filter (fun event => event.runId = runId) =
      events.filter fun event => event.runId = runId := by
  have folded : forall (rest : List EventValues) (log : List SimulationEvent),
      (∀ value ∈ rest, value.runId ≠ runId) ->
      (rest.foldl (fun kept value => retainSimulationEvents retention value.runId kept) log).filter
        (fun event => event.runId = runId) = log.filter fun event => event.runId = runId := by
    intro rest
    induction rest with
    | nil =>
        intro log _
        rfl
    | cons value rest inductionHypothesis =>
        intro log different
        rw [List.foldl_cons, inductionHypothesis _ fun other member =>
          different other (List.mem_cons_of_mem value member)]
        exact filter_retained (different value List.mem_cons_self).symm
  unfold appendEvents
  rw [folded values _ others, List.filter_append]
  have none : (numberedEvents now last values).filter (fun event => event.runId = runId) = [] := by
    rw [List.filter_eq_nil_iff]
    intro event member
    rcases List.mem_map.mp member with ⟨⟨value, index⟩, entryMember, rfl⟩
    rw [decide_eq_true_eq]
    exact others value (List.fst_mem_of_mem_zipIdx entryMember)
  rw [none, List.append_nil]

/-! ## The announcement of all positions -/

theorem mem_queuedRuns {simulations : List Simulation} {row : Simulation} :
    row ∈ queuedRuns simulations ↔ row ∈ simulations ∧ row.status = .queued := by
  unfold queuedRuns
  rw [List.mem_insertionSort, List.mem_filter, decide_eq_true_eq]

/-- The position of a run among the sorted queued runs is its rank. -/
theorem rankOf_queuedRuns {simulations : List Simulation}
    (places : Keyed Simulation.enqueueSeq simulations) {index : Nat} {row : Simulation}
    (found : (queuedRuns simulations)[index]? = some row) :
    rankOf (queuedPlaces simulations) row.enqueueSeq = index + 1 := by
  have permuted : (queuedRuns simulations).Perm
      (simulations.filter fun row => row.status = .queued) :=
    List.perm_insertionSort _ _
  have keyed : Keyed Simulation.enqueueSeq (queuedRuns simulations) := by
    unfold Keyed
    rw [(permuted.map Simulation.enqueueSeq).nodup_iff]
    exact List.Nodup.sublist (List.Sublist.map _ List.filter_sublist) places
  have sorted := keyed.pairwise_lt (List.pairwise_insertionSort _ _)
  rw [← length_filter_le_of_getElem? sorted found]
  unfold rankOf queuedPlaces
  rw [List.filter_map, List.length_map]
  exact ((permuted.filter _).length_eq).symm

theorem length_queuedRuns (simulations : List Simulation) :
    (queuedRuns simulations).length = (queuedPlaces simulations).length := by
  unfold queuedRuns queuedPlaces
  rw [List.length_insertionSort, List.length_map]

/-- One of the events that announce the positions. -/
def positionEvent (now : Instant) (last : Nat) (simulations : List Simulation) (row : Simulation) :
    SimulationEvent :=
  { eventId := last + rankOf (queuedPlaces simulations) row.enqueueSeq
    runId := row.runId
    eventType := .queuePosition
    payloadJson := positionPayload (rankOf (queuedPlaces simulations) row.enqueueSeq)
      (queuedPlaces simulations).length
    occurredAt := now }

/-- The announced events are exactly one for each queued run. -/
theorem mem_positionEvents {simulations : List Simulation} {last : Nat}
    (places : Keyed Simulation.enqueueSeq simulations) {event : SimulationEvent} :
    event ∈ numberedEvents now last (queuePositionValues simulations) ↔
      ∃ row ∈ simulations, row.status = .queued ∧
        positionEvent now last simulations row = event := by
  unfold numberedEvents queuePositionValues
  constructor
  · intro member
    rcases List.mem_map.mp member with ⟨⟨value, index⟩, entryMember, rfl⟩
    rw [List.mk_mem_zipIdx_iff_getElem?, List.getElem?_map, Option.map_eq_some_iff] at entryMember
    rcases entryMember with ⟨⟨row, position⟩, found, rfl⟩
    rw [List.getElem?_zipIdx, Option.map_eq_some_iff] at found
    rcases found with ⟨queued, atIndex, same⟩
    cases same
    rcases mem_queuedRuns.mp (List.mem_of_getElem? atIndex) with ⟨rowMember, isQueued⟩
    refine ⟨row, rowMember, isQueued, ?_⟩
    unfold positionEvent positionPayload
    rw [rankOf_queuedRuns places atIndex, length_queuedRuns]
    simp only [Nat.zero_add]
    congr 1
    omega
  · rintro ⟨row, rowMember, isQueued, rfl⟩
    rcases List.mem_iff_getElem?.mp (mem_queuedRuns.mpr ⟨rowMember, isQueued⟩) with ⟨index, atIndex⟩
    have inValues : (queuePositionValues simulations)[index]? = some
        { runId := row.runId, eventType := .queuePosition
          payloadJson := positionPayload (index + 1) (queuedRuns simulations).length } := by
      unfold queuePositionValues
      rw [List.getElem?_map, List.getElem?_zipIdx, atIndex]
      simp [positionPayload]
    refine List.mem_map.mpr ⟨_, List.mk_mem_zipIdx_iff_getElem?.mpr inValues, ?_⟩
    unfold positionEvent
    rw [rankOf_queuedRuns places atIndex, length_queuedRuns]
    congr 1
    dsimp only
    omega

/-- After an announcement every queued run has been told its rank. -/
theorem emitQueuePositionEvents_announces (numbered : EventsNumbered store)
    (control : store.tables.schedulerControl.isSome = true)
    (accepted : emitQueuePositionEvents now store = .ok result) : Announced result.tables := by
  have tables := (emitQueuePositionEvents_ok_iff.mp accepted).1
  have retention : 0 < store.tables.eventRetention := by
    rcases Option.isSome_iff_exists.mp control with ⟨row, present⟩
    unfold Tables.eventRetention
    rw [present]
    exact (store.checks.schedulerControl row present).2.2
  have places := store.unique.runSeq
  intro place member
  rw [tables] at member ⊢
  rcases mem_queuedPlaces.mp member with ⟨row, rowMember, queued, rfl⟩
  have isNew := (@mem_positionEvents now _ store.sequences.simulationEventId places _).mpr
    ⟨row, rowMember, queued, rfl⟩
  have newest : ∀ other ∈ store.tables.simulationEvents ++ numberedEvents now
      store.sequences.simulationEventId (queuePositionValues store.tables.simulations),
      other.runId = row.runId -> other.eventId ≤
        (positionEvent now store.sequences.simulationEventId store.tables.simulations row).eventId := by
    intro other otherMember same
    rcases List.mem_append.mp otherMember with earlier | inserted
    · exact (numbered other earlier).trans (Nat.le_add_right _ _)
    · rcases (mem_positionEvents places).mp inserted with ⟨otherRow, otherRowMember, _, rfl⟩
      rw [store.unique.runId.eq_of_mem otherRowMember rowMember same]
  refine ⟨positionEvent now store.sequences.simulationEventId store.tables.simulations row,
    ?_, rfl, rfl, rfl, ?_⟩
  · exact mem_fold_retained retention (List.mem_append_right _ isNew) newest
  · intro other otherMember
    exact newest other (mem_of_mem_fold_retained otherMember)

/-! ## Quiet statements -/

/-- The queued runs and their logs are the same. -/
structure Quiet (store result : Store) : Prop where
  places : queuedPlaces result.tables.simulations = queuedPlaces store.tables.simulations
  logs : ∀ place ∈ queuedPlaces store.tables.simulations,
    result.tables.simulationEvents.filter (fun event => event.runId = place.1) =
      store.tables.simulationEvents.filter fun event => event.runId = place.1

namespace Quiet

theorem refl (store : Store) : Quiet store store :=
  ⟨rfl, fun _ _ => rfl⟩

theorem trans (before : Quiet store middle) (after : Quiet middle result) : Quiet store result := by
  refine ⟨after.places.trans before.places, ?_⟩
  intro place member
  rw [← before.logs place member]
  rw [← before.places] at member
  exact after.logs place member

theorem of_tables (runs : result.tables.simulations = store.tables.simulations)
    (events : result.tables.simulationEvents = store.tables.simulationEvents) :
    Quiet store result :=
  ⟨congrArg _ runs, fun _ _ => congrArg _ events⟩

/-- Positions that were announced stay announced. -/
theorem announced (quiet : Quiet store result) (before : Announced store.tables) :
    Announced result.tables := by
  intro place member
  rw [quiet.places] at member ⊢
  rcases before place member with ⟨event, announces⟩
  have sameLog : forall other : SimulationEvent, other.runId = place.1 ->
      (other ∈ result.tables.simulationEvents ↔ other ∈ store.tables.simulationEvents) := by
    intro other same
    have logs := congrArg (fun log => other ∈ log) (quiet.logs place member)
    simp only [List.mem_filter, same, decide_true, and_true, eq_iff_iff] at logs
    exact logs
  refine ⟨event, (sameLog event announces.sameRun).mpr announces.member, announces.sameRun,
    announces.kind, announces.payload, ?_⟩
  intro other otherMember same
  exact announces.newest other ((sameLog other same).mp otherMember) same

end Quiet

theorem insertSimulationEvents_quiet {values : List EventValues}
    (accepted : insertSimulationEvents now values store = .ok result)
    (others : ∀ value ∈ values, ∀ place ∈ queuedPlaces store.tables.simulations,
      value.runId ≠ place.1) : Quiet store result := by
  have tables := (insertSimulationEvents_ok_iff.mp accepted).1
  constructor
  · rw [tables]
  · intro place member
    rw [tables]
    exact filter_appendEvents fun value valueMember => others value valueMember place member

/-- An update of runs that neither queues nor dequeues one. -/
theorem updateSimulations_quiet {selects : Simulation -> Bool} {assign : Simulation -> Simulation}
    (accepted : updateSimulations now selects assign store = .ok result)
    (kept : forall row, (assign row).admission = row.admission)
    (sameQueue : ∀ row ∈ store.tables.simulations, selects row = true ->
      ((assign row).status = .queued ↔ row.status = .queued)) : Quiet store result := by
  have tables := (updateSimulations_ok_iff.mp accepted).2.1
  constructor
  · rw [tables]
    unfold queuedPlaces
    apply map_filter_update
    · intro row member selected
      exact decide_eq_decide.mpr (sameQueue row member selected)
    · intro row _ _
      exact congrArg (fun columns => (columns.runId, columns.enqueueSeq)) (kept row)
  · intro place member
    rw [tables]

theorem updateJobs_quiet {selects : WorkerJob -> Bool} {assign : WorkerJob -> WorkerJob}
    (accepted : updateJobs now selects assign store = .ok result) : Quiet store result := by
  have tables := (updateJobs_ok_iff.mp accepted).1
  apply Quiet.of_tables <;> rw [tables]

theorem updateDatasets_quiet {selects : Dataset -> Bool} {assign : Dataset -> Dataset}
    (accepted : updateDatasets now selects assign store = .ok result) : Quiet store result := by
  have tables := (updateDatasets_ok_iff.mp accepted).1
  apply Quiet.of_tables <;> rw [tables]

theorem updateInstances_quiet {selects : WorkerInstance -> Bool}
    {assign : WorkerInstance -> WorkerInstance}
    (accepted : updateInstances selects assign store = .ok result) : Quiet store result := by
  have tables := (updateInstances_ok_iff.mp accepted).1
  apply Quiet.of_tables <;> rw [tables]

theorem insertWorkerJobEvents_quiet {values : List WorkerEventValues}
    (accepted : insertWorkerJobEvents now values store = .ok result) : Quiet store result := by
  have tables := (insertWorkerJobEvents_ok_iff.mp accepted).1
  apply Quiet.of_tables <;> rw [tables]

theorem insertArtifacts_quiet {rows : List Artifact}
    (accepted : insertArtifacts rows store = .ok result) : Quiet store result := by
  have tables := (insertArtifacts_ok_iff.mp accepted).1
  apply Quiet.of_tables <;> rw [tables]

theorem insertAlarms_quiet {rows : List Alarm} (accepted : insertAlarms rows store = .ok result) :
    Quiet store result := by
  have tables := (insertAlarms_ok_iff.mp accepted).1
  apply Quiet.of_tables <;> rw [tables]

/-! ## Runs that do not wait -/

/-- The run is not among the queued runs. -/
def NotQueued (runId : String) (tables : Tables) : Prop :=
  ∀ place ∈ queuedPlaces tables.simulations, runId ≠ place.1

/-- A run whose job has left the queue does not wait. -/
theorem notQueued_of_job (coherent : store.view.Coherent) {job : WorkerJob}
    (member : job ∈ store.tables.workerJobs) (left : job.status ≠ .queued) {runId : String}
    (present : job.runId = some runId) : NotQueued runId store.tables := by
  intro place placeMember same
  rcases mem_queuedPlaces.mp placeMember with ⟨row, rowMember, queued, rfl⟩
  have agreed := run_status_of_job coherent member rowMember (by rw [present, same])
  rw [queued] at agreed
  exact left (JobStatus.simulationStatus_injective agreed.symm)

theorem Quiet.notQueued {runId : String} (quiet : Quiet store result)
    (before : NotQueued runId store.tables) : NotQueued runId result.tables := by
  unfold NotQueued
  rw [quiet.places]
  exact before

/-- An event of a run that does not wait. -/
theorem insertEvent_quiet {value : EventValues}
    (accepted : insertSimulationEvents now [value] store = .ok result)
    (outside : NotQueued value.runId store.tables) : Quiet store result := by
  apply insertSimulationEvents_quiet accepted
  intro other member
  rw [List.mem_singleton.mp member]
  exact outside

theorem ne_queued_of_isActive {status : JobStatus} (active : status.isActive = true) :
    status ≠ .queued := by
  rintro rfl
  cases active

/-- The announcement at the end of a transaction. -/
theorem announced_of_emit (coherent : store.view.Coherent) (numbered : EventsNumbered store)
    (kept : KeepsRows store middle)
    (accepted : emitQueuePositionEvents now middle = .ok result) : Announced result.tables := by
  apply emitQueuePositionEvents_announces (kept.events numbered) _ accepted
  rw [kept.control]
  exact coherent.control

/-! ## Transactions that leave the queue alone -/

theorem recordHeartbeat_quiet {jobId : String} {reply : Bool}
    (outside : ∀ job ∈ store.tables.workerJobs, job.jobId = jobId -> ∀ runId ∈ job.runId,
      NotQueued runId store.tables)
    (accepted : recordHeartbeat now jobId store = .ok (result, reply)) : Quiet store result := by
  unfold recordHeartbeat at accepted
  simp only [bind_ok_iff, pure_ok_iff, Prod.mk.injEq] at accepted
  rcases accepted with ⟨beaten, beatenAccepted, reported, reportedAccepted, emitted,
    emittedAccepted, rfl, _⟩
  have runsQuiet := updateSimulations_quiet beatenAccepted (fun _ => rfl) fun _ _ _ => Iff.rfl
  have reportsQuiet := runsQuiet.trans (insertWorkerJobEvents_quiet reportedAccepted)
  refine reportsQuiet.trans (insertSimulationEvents_quiet emittedAccepted ?_)
  intro value member
  rcases List.mem_filterMap.mp member with ⟨job, jobMember, mapped⟩
  rcases List.mem_filter.mp jobMember with ⟨stored, same⟩
  rcases Option.map_eq_some_iff.mp mapped with ⟨runId, present, rfl⟩
  exact reportsQuiet.notQueued (outside job stored (of_decide_eq_true same) runId present)

theorem workerHeartbeatForWorker_quiet {workerId : String} {lease : Lease} {leaseSeconds : Int}
    {reply : Bool} (coherent : store.view.Coherent)
    (accepted : workerHeartbeatForWorker now workerId lease leaseSeconds store = .ok (result, reply)) :
    Quiet store result := by
  unfold workerHeartbeatForWorker at accepted
  simp only [bind_ok_iff, require_ok_iff, exists_const] at accepted
  rcases accepted with ⟨_, seen, seenAccepted, accepted⟩
  have instancesQuiet := updateInstances_quiet seenAccepted
  split at accepted
  · rw [bind_ok_iff] at accepted
    rcases accepted with ⟨renewed, renewedAccepted, accepted⟩
    have jobsQuiet := instancesQuiet.trans (updateJobs_quiet renewedAccepted)
    split at accepted
    · rename_i held
      rcases List.any_eq_true.mp held with ⟨job, member, guard⟩
      rw [Bool.and_eq_true] at guard
      have sameJobs : seen.tables.workerJobs = store.tables.workerJobs := by
        rw [(updateInstances_ok_iff.mp seenAccepted).1]
      rw [sameJobs] at member
      refine jobsQuiet.trans (recordHeartbeat_quiet ?_ accepted)
      intro row rowMember sameId runId present
      apply jobsQuiet.notQueued
      rw [(updateJobs_ok_iff.mp renewedAccepted).1, sameJobs] at rowMember
      have sameRow : row.runId = job.runId := by
        rcases mem_update_cases rowMember with ⟨old, oldMember, _, rfl⟩ | ⟨oldMember, _⟩
        · rw [← store.unique.jobId.eq_of_mem oldMember member
            (sameId.trans (Lease.holds_jobId guard.1).symm)]
        · rw [store.unique.jobId.eq_of_mem oldMember member
            (sameId.trans (Lease.holds_jobId guard.1).symm)]
      rw [sameRow] at present
      exact notQueued_of_job coherent member (ne_queued_of_isActive guard.2) present
    · cases accepted
      exact jobsQuiet
  · cases accepted
    exact instancesQuiet

theorem workerReportEvent_quiet {lease : Lease} {event : Json} {reply : Bool}
    (coherent : store.view.Coherent)
    (accepted : workerReportEvent platform now lease event store = .ok (result, reply)) :
    Quiet store result := by
  unfold workerReportEvent at accepted
  split at accepted
  · cases accepted
    exact Quiet.refl store
  · rename_i job selected
    rcases selectJob?_some selected with ⟨member, guard⟩
    rw [Bool.and_eq_true] at guard
    simp only [bind_ok_iff, require_ok_iff, exists_const] at accepted
    rcases accepted with ⟨_, _, agent, _, recorded⟩
    unfold recordEvent at recorded
    rw [bind_ok_iff] at recorded
    rcases recorded with ⟨reported, reportedAccepted, recorded⟩
    have reportsQuiet := insertWorkerJobEvents_quiet reportedAccepted
    split at recorded
    · cases recorded
      exact reportsQuiet
    · rename_i runId present
      simp only [bind_ok_iff, pure_ok_iff, Prod.mk.injEq] at recorded
      rcases recorded with ⟨staged, stagedAccepted, emitted, emittedAccepted, rfl, _⟩
      have runsQuiet := reportsQuiet.trans
        (updateSimulations_quiet stagedAccepted (fun _ => rfl) fun _ _ _ => Iff.rfl)
      exact runsQuiet.trans (insertEvent_quiet emittedAccepted (runsQuiet.notQueued
        (notQueued_of_job coherent member (ne_queued_of_isActive guard.2) present)))

theorem workerCompletePreflight_quiet {lease : Lease} {inputSha256 summarySha256 : String}
    {summary : Json} {reply : Bool}
    (accepted : workerCompletePreflight now lease inputSha256 summary summarySha256 store =
      .ok (result, reply)) : Quiet store result := by
  unfold workerCompletePreflight at accepted
  split at accepted
  · cases accepted
    exact Quiet.refl store
  · simp only [bind_ok_iff, require_ok_iff, exists_const, pure_ok_iff, Prod.mk.injEq] at accepted
    rcases accepted with ⟨validated, validatedAccepted, _, completed, completedAccepted, rfl, _⟩
    exact (updateDatasets_quiet validatedAccepted).trans (updateJobs_quiet completedAccepted)

/-- An update of a run that does not wait, to a status that does not wait. -/
theorem leaveRun_quiet {selects : Simulation -> Bool} {assign : Simulation -> Simulation}
    {status : SimulationStatus} {runId : String}
    (accepted : updateSimulations now selects assign store = .ok result)
    (kept : forall row, (assign row).admission = row.admission)
    (assigned : forall row, (assign row).status = status) (left : status ≠ .queued)
    (selected : forall row, selects row = true -> row.runId = runId)
    (outside : NotQueued runId store.tables) : Quiet store result := by
  apply updateSimulations_quiet accepted kept
  intro row member isSelected
  rw [assigned row]
  constructor
  · intro same
    exact absurd same left
  · intro queued
    have place := mem_queuedPlaces.mpr ⟨row, member, queued, rfl⟩
    exact absurd (selected row isSelected).symm (outside _ place)

theorem settleFailed_quiet {lease : Lease} {job : WorkerJob} {error : Json}
    {finalStatus : JobStatus} {reply : Bool} (coherent : store.view.Coherent)
    (member : job ∈ store.tables.workerJobs) (active : job.status.isActive = true)
    (final : finalStatus = .failed ∨ finalStatus = .failedRecoverable)
    (accepted : settleFailed now lease job error finalStatus store = .ok (result, reply)) :
    Quiet store result := by
  unfold settleFailed at accepted
  rw [bind_ok_iff] at accepted
  rcases accepted with ⟨failed, failedAccepted, accepted⟩
  have jobsQuiet := updateJobs_quiet failedAccepted
  split at accepted
  · simp only [bind_ok_iff, pure_ok_iff, Prod.mk.injEq] at accepted
    rcases accepted with ⟨invalidated, invalidatedAccepted, rfl, _⟩
    exact jobsQuiet.trans (updateDatasets_quiet invalidatedAccepted)
  · rename_i runId present
    simp only [bind_ok_iff, pure_ok_iff, Prod.mk.injEq] at accepted
    rcases accepted with ⟨settled, settledAccepted, reported, reportedAccepted, rfl, _⟩
    have outside := notQueued_of_job coherent member (ne_queued_of_isActive active) present
    have runsQuiet := jobsQuiet.trans (leaveRun_quiet settledAccepted (fun _ => rfl) (fun _ => rfl)
      (by rcases final with rfl | rfl <;> decide) (fun _ selected => of_decide_eq_true selected)
      (jobsQuiet.notQueued outside))
    exact runsQuiet.trans (insertEvent_quiet reportedAccepted (runsQuiet.notQueued outside))

theorem publishRun_quiet {lease : Lease} {runId : String} {request : CommitRequest}
    {alarms : List Json} {reply : Bool} (outside : NotQueued runId store.tables)
    (accepted : publishRun platform now lease runId request alarms store = .ok (result, reply)) :
    Quiet store result := by
  have selected : forall (status : SimulationStatus) (row : Simulation),
      (row.runId = runId && row.status = status) = true -> row.runId = runId := by
    intro status row guard
    rw [Bool.and_eq_true, decide_eq_true_eq] at guard
    exact guard.1
  unfold publishRun at accepted
  simp only [bind_ok_iff, require_ok_iff, exists_const, pure_ok_iff, Prod.mk.injEq] at accepted
  rcases accepted with ⟨generating, generatingAccepted, _, announced, announcedAccepted, rows,
    rowsConverted, stored, storedAccepted, _, _, indexed, indexedAccepted, committed,
    committedAccepted, released, releasedAccepted, reported, reportedAccepted, emitted,
    emittedAccepted, rfl, _⟩
  have generatingQuiet := leaveRun_quiet generatingAccepted (fun _ => rfl) (fun _ => rfl) (by decide)
    (selected _) outside
  have announcedQuiet := generatingQuiet.trans
    (insertEvent_quiet announcedAccepted (generatingQuiet.notQueued outside))
  have storedQuiet := announcedQuiet.trans (insertArtifacts_quiet storedAccepted)
  have indexedQuiet := storedQuiet.trans (insertAlarms_quiet indexedAccepted)
  have committedQuiet := indexedQuiet.trans (leaveRun_quiet committedAccepted (fun _ => rfl)
    (fun _ => rfl) (by decide) (selected _) (indexedQuiet.notQueued outside))
  have releasedQuiet := committedQuiet.trans (updateJobs_quiet releasedAccepted)
  have reportedQuiet := releasedQuiet.trans
    (insertEvent_quiet reportedAccepted (releasedQuiet.notQueued outside))
  exact reportedQuiet.trans (insertEvent_quiet emittedAccepted (reportedQuiet.notQueued outside))

theorem workerCommitSimulation_quiet {lease : Lease} {request : CommitRequest} {reply : Bool}
    (coherent : store.view.Coherent)
    (accepted : workerCommitSimulation platform now lease request store = .ok (result, reply)) :
    Quiet store result := by
  unfold workerCommitSimulation at accepted
  split at accepted
  · cases accepted
    exact Quiet.refl store
  · rename_i job selected
    rcases selectJob?_some selected with ⟨member, guard⟩
    simp only [Bool.and_eq_true, decide_eq_true_eq] at guard
    rcases guard with ⟨⟨_, kind⟩, running⟩
    rcases runId_some_of_simulation member kind with ⟨runId, present⟩
    rw [bind_ok_iff, present] at accepted
    rcases accepted with ⟨alarms, _, accepted⟩
    refine publishRun_quiet (notQueued_of_job coherent member ?_ present) accepted
    rw [running]
    decide

theorem cancelRunningRun_quiet {reason : String} {row : Simulation}
    (coherent : store.view.Coherent) (rowMember : row ∈ store.tables.simulations)
    (running : row.status = .running)
    (accepted : cancelRunningRun now row.runId reason store = .ok result) : Quiet store result := by
  rcases job_of_run coherent rowMember with ⟨job, member, present, agreed⟩
  have left : job.status ≠ .queued := by
    intro queued
    rw [running, queued] at agreed
    cases agreed
  have outside := notQueued_of_job coherent member left present
  unfold cancelRunningRun at accepted
  simp only [bind_ok_iff] at accepted
  rcases accepted with ⟨requested, requestedAccepted, cancelling, cancellingAccepted,
    reportedAccepted⟩
  have runsQuiet := leaveRun_quiet requestedAccepted (fun _ => rfl) (fun _ => rfl) (by decide)
    (fun _ selected => of_decide_eq_true selected) outside
  have jobsQuiet := runsQuiet.trans (updateJobs_quiet cancellingAccepted)
  exact jobsQuiet.trans (insertEvent_quiet reportedAccepted (jobsQuiet.notQueued outside))

/-! ## Transactions that announce -/

theorem workerRecoverExpiredLeases_announced {reply : Nat} (coherent : store.view.Coherent)
    (numbered : EventsNumbered store) (before : Announced store.tables)
    (accepted : workerRecoverExpiredLeases now store = .ok (result, reply)) :
    Announced result.tables := by
  unfold workerRecoverExpiredLeases at accepted
  simp only [bind_ok_iff] at accepted
  rcases accepted with ⟨_, _, released, releasedAccepted, reported, reportedAccepted, invalidated,
    invalidatedAccepted, settled, settledAccepted, emitted, emittedAccepted, accepted⟩
  split at accepted
  · simp only [bind_ok_iff, pure_ok_iff, Prod.mk.injEq] at accepted
    rcases accepted with ⟨announced, announcedAccepted, rfl, _⟩
    have jobsKept := updateJobs_keeps releasedAccepted fun _ => rfl
    have reportsKept := jobsKept.trans (insertWorkerJobEvents_keeps reportedAccepted)
    have datasetsKept := reportsKept.trans (updateDatasets_keeps invalidatedAccepted)
    have runsKept := datasetsKept.trans
      (updateSimulations_keeps settledAccepted (candidateFor?_settledRun_admission _))
    exact announced_of_emit coherent numbered
      (runsKept.trans (insertSimulationEvents_keeps emittedAccepted)) announcedAccepted
  · rename_i nobody
    cases accepted
    have nothing : expiredCandidates now store.tables = [] :=
      List.length_eq_zero_iff.mp (Nat.eq_zero_of_not_pos nobody)
    rw [nothing] at settledAccepted emittedAccepted
    have jobsQuiet := updateJobs_quiet releasedAccepted
    have reportsQuiet := jobsQuiet.trans (insertWorkerJobEvents_quiet reportedAccepted)
    have datasetsQuiet := reportsQuiet.trans (updateDatasets_quiet invalidatedAccepted)
    have runsQuiet := datasetsQuiet.trans (updateSimulations_quiet settledAccepted
      (candidateFor?_settledRun_admission _) fun _ _ _ => Iff.rfl)
    refine (runsQuiet.trans (insertSimulationEvents_quiet emittedAccepted ?_)).announced before
    intro value member
    rcases List.mem_filterMap.mp member with ⟨_, _, absent⟩
    cases absent

theorem startJob_announced {attemptId leaseToken : String} {leaseSeconds : Int} {job : WorkerJob}
    {reply : Option ClaimedJob} (coherent : store.view.Coherent) (numbered : EventsNumbered store)
    (before : Announced store.tables)
    (accepted : startJob now attemptId leaseToken leaseSeconds job store = .ok (result, reply)) :
    Announced result.tables := by
  unfold startJob at accepted
  rw [bind_ok_iff] at accepted
  rcases accepted with ⟨claimed, claimedAccepted, accepted⟩
  cases kind : job.jobType with
  | datasetPreflight =>
      rw [kind] at accepted
      cases accepted
      exact (updateJobs_quiet claimedAccepted).announced before
  | simulation =>
      rw [kind] at accepted
      simp only [bind_ok_iff, require_ok_iff, exists_const, pure_ok_iff, Prod.mk.injEq] at accepted
      rcases accepted with ⟨started, startedAccepted, _, reported, reportedAccepted, announced,
        announcedAccepted, rfl, _⟩
      have jobsKept := updateJobs_keeps claimedAccepted fun _ => rfl
      have runsKept := jobsKept.trans (updateSimulations_keeps startedAccepted fun _ => rfl)
      exact announced_of_emit coherent numbered
        (runsKept.trans (insertSimulationEvents_keeps reportedAccepted)) announcedAccepted

theorem workerClaimNextJobForWorker_announced {workerId attemptId leaseToken : String}
    {leaseSeconds : Int} {reply : Option ClaimedJob} (coherent : store.view.Coherent)
    (numbered : EventsNumbered store) (before : Announced store.tables)
    (accepted : workerClaimNextJobForWorker now workerId attemptId leaseToken leaseSeconds store =
      .ok (result, reply)) : Announced result.tables := by
  unfold workerClaimNextJobForWorker at accepted
  simp only [bind_ok_iff, require_ok_iff, exists_const] at accepted
  rcases accepted with ⟨_, _, seen, seenAccepted, _, accepted⟩
  simp only [requireScheduler_ok_iff, exists_const] at accepted
  rcases accepted with ⟨_, ⟨recovered, count⟩, recoveredAccepted, accepted⟩
  have seenCoherent : seen.view.Coherent := by
    rw [updateInstances_view seenAccepted]
    exact coherent
  have seenNumbered := (updateInstances_keeps seenAccepted).events numbered
  have recovery := workerRecoverExpiredLeases_announced seenCoherent seenNumbered
    ((updateInstances_quiet seenAccepted).announced before) recoveredAccepted
  split at accepted
  · cases accepted
    exact recovery
  · split at accepted
    · cases accepted
      exact recovery
    · have recoveredCoherent :=
        (workerRecoverExpiredLeases_steps seenCoherent recoveredAccepted).coherent seenCoherent
      exact startJob_announced recoveredCoherent
        ((workerRecoverExpiredLeases_framed keepsRows_framed recoveredAccepted).events seenNumbered) recovery accepted

theorem workerConfirmCancel_announced {lease : Lease} {reply : Bool}
    (coherent : store.view.Coherent) (numbered : EventsNumbered store)
    (before : Announced store.tables)
    (accepted : workerConfirmCancel now lease store = .ok (result, reply)) :
    Announced result.tables := by
  unfold workerConfirmCancel at accepted
  split at accepted
  · cases accepted
    exact before
  · rw [bind_ok_iff] at accepted
    rcases accepted with ⟨cancelled, cancelledAccepted, accepted⟩
    split at accepted
    · cases accepted
      exact (updateJobs_quiet cancelledAccepted).announced before
    · simp only [bind_ok_iff, pure_ok_iff, Prod.mk.injEq] at accepted
      rcases accepted with ⟨settled, settledAccepted, reported, reportedAccepted, announced,
        announcedAccepted, rfl, _⟩
      have jobsKept := updateJobs_keeps cancelledAccepted fun _ => rfl
      have runsKept := jobsKept.trans (updateSimulations_keeps settledAccepted fun _ => rfl)
      exact announced_of_emit coherent numbered
        (runsKept.trans (insertSimulationEvents_keeps reportedAccepted)) announcedAccepted

theorem settleCancelled_announced {lease : Lease} {job : WorkerJob} {reply : Bool}
    (coherent : store.view.Coherent) (numbered : EventsNumbered store)
    (accepted : settleCancelled now lease job store = .ok (result, reply)) :
    Announced result.tables := by
  unfold settleCancelled at accepted
  simp only [bind_ok_iff, pure_ok_iff, Prod.mk.injEq] at accepted
  rcases accepted with ⟨cancelled, cancelledAccepted, settled, settledAccepted, reported,
    reportedAccepted, announced, announcedAccepted, rfl, _⟩
  have jobsKept := updateJobs_keeps cancelledAccepted fun _ => rfl
  have runsKept := jobsKept.trans (updateSimulations_keeps settledAccepted fun _ => rfl)
  exact announced_of_emit coherent numbered
    (runsKept.trans (insertSimulationEvents_keeps reportedAccepted)) announcedAccepted

theorem workerFailJob_announced {lease : Lease} {error : Json} {recoverable : Bool} {reply : Bool}
    (coherent : store.view.Coherent) (numbered : EventsNumbered store)
    (before : Announced store.tables)
    (accepted : workerFailJob now lease error recoverable store = .ok (result, reply)) :
    Announced result.tables := by
  unfold workerFailJob at accepted
  rw [bind_ok_iff] at accepted
  rcases accepted with ⟨_, _, accepted⟩
  split at accepted
  · cases accepted
    exact before
  · rename_i job selected
    rcases selectJob?_some selected with ⟨member, guard⟩
    rw [Bool.and_eq_true] at guard
    split at accepted
    · exact settleCancelled_announced coherent numbered accepted
    · refine (settleFailed_quiet coherent member guard.2 ?_ accepted).announced before
      cases recoverable
      · exact Or.inl rfl
      · exact Or.inr rfl

theorem cancelQueuedRun_announced {runId reason : String} (coherent : store.view.Coherent)
    (numbered : EventsNumbered store)
    (accepted : cancelQueuedRun now runId reason store = .ok result) : Announced result.tables := by
  unfold cancelQueuedRun at accepted
  simp only [bind_ok_iff] at accepted
  rcases accepted with ⟨cancelled, cancelledAccepted, released, releasedAccepted, reported,
    reportedAccepted, announcedAccepted⟩
  have runsKept := updateSimulations_keeps cancelledAccepted fun _ => rfl
  have jobsKept := runsKept.trans (updateJobs_keeps releasedAccepted fun _ => rfl)
  exact announced_of_emit coherent numbered
    (jobsKept.trans (insertSimulationEvents_keeps reportedAccepted)) announcedAccepted

theorem cancelSimulation_announced {runId reason : String} {record : SimulationRecord}
    (coherent : store.view.Coherent) (numbered : EventsNumbered store)
    (before : Announced store.tables)
    (accepted : cancelSimulation now runId reason store = .ok (result, record)) :
    Announced result.tables := by
  unfold cancelSimulation at accepted
  rw [bind_ok_iff] at accepted
  rcases accepted with ⟨found, foundAccepted, accepted⟩
  rcases simulationById_row foundAccepted with ⟨row, member, rfl, sameStatus⟩
  split at accepted
  · simp only [bind_ok_iff, Fault.ofPg_ok_iff, pure_ok_iff, Prod.mk.injEq] at accepted
    rcases accepted with ⟨cancelled, cancelledAccepted, rfl, _⟩
    exact cancelQueuedRun_announced coherent numbered cancelledAccepted
  · rename_i running
    simp only [bind_ok_iff, Fault.ofPg_ok_iff, pure_ok_iff, Prod.mk.injEq] at accepted
    rcases accepted with ⟨cancelling, cancellingAccepted, rfl, _⟩
    rw [sameStatus] at running
    exact (cancelRunningRun_quiet coherent member running cancellingAccepted).announced before
  · cases accepted
    exact before
  · cases accepted
    exact before
  · cases accepted

theorem admitRun_announced {clock : Instant} {identifiers : Identifiers} {key : String}
    {request : CreateSimulationRequest} {inputs : AdmissionInputs} {record : SimulationRecord}
    (coherent : store.view.Coherent) (numbered : EventsNumbered store)
    (accepted : admitRun platform now clock identifiers key request inputs store =
      .ok (result, record)) : Announced result.tables := by
  unfold admitRun at accepted
  simp only [bind_ok_iff, require_ok_iff, exists_const, Fault.ofPg_ok_iff, Fault.ofText_ok_iff,
    pure_ok_iff, Prod.mk.injEq] at accepted
  rcases accepted with ⟨snapshot, _, _, envelope, _, simulated, simulatedAccepted, frozen,
    frozenAccepted, enqueued, enqueuedAccepted, reported, reportedAccepted, announced,
    announcedAccepted, keyed, keyedAccepted, _, _, rfl, _⟩
  rcases insertSimulation_ok_iff.mp simulatedAccepted with ⟨simulatedTables, simulatedSequences⟩
  rcases insertSimulationSnapshot_ok_iff.mp frozenAccepted with ⟨frozenTables, frozenSequences⟩
  rcases insertJob_ok_iff.mp enqueuedAccepted with ⟨enqueuedTables, enqueuedSequences⟩
  have eventsKept := insertSimulationEvents_keeps reportedAccepted
  have enqueuedNumbered : EventsNumbered enqueued := by
    intro event member
    rw [enqueuedTables, frozenTables, simulatedTables] at member
    rw [enqueuedSequences, frozenSequences, simulatedSequences]
    exact numbered event member
  have control : reported.tables.schedulerControl.isSome = true := by
    rw [eventsKept.control, enqueuedTables, frozenTables, simulatedTables]
    exact coherent.control
  have announcement :=
    emitQueuePositionEvents_announces (eventsKept.events enqueuedNumbered) control announcedAccepted
  have keyedTables := (insertIdempotencyKey_ok_iff.mp keyedAccepted).1
  refine Quiet.announced (Quiet.of_tables ?_ ?_) announcement
  · rw [keyedTables]
  · rw [keyedTables]

theorem createSimulation_announced {clock : Instant} {identifiers : Identifiers} {key : String}
    {request : CreateSimulationRequest} {record : SimulationRecord} {replayed : Bool}
    (coherent : store.view.Coherent) (numbered : EventsNumbered store)
    (before : Announced store.tables)
    (accepted : createSimulation platform now clock identifiers key request store =
      .ok (result, record, replayed)) : Announced result.tables := by
  unfold createSimulation createSimulationTx at accepted
  rw [bind_ok_iff] at accepted
  rcases accepted with ⟨_, _, accepted⟩
  split at accepted
  · simp only [bind_ok_iff, require_ok_iff, exists_const, pure_ok_iff, Prod.mk.injEq] at accepted
    rcases accepted with ⟨_, _, _, rfl, _⟩
    exact before
  · simp only [bind_ok_iff, ofStable_ok_iff, pure_ok_iff, Prod.mk.injEq] at accepted
    rcases accepted with ⟨inputs, _, ⟨admitted, admittedRecord⟩, admittedAccepted, rfl, _⟩
    exact admitRun_announced coherent numbered admittedAccepted

/-! ## Every transaction -/

theorem execute_announced {operation : Operation} {reply : Reply} (coherent : store.view.Coherent)
    (numbered : EventsNumbered store) (before : Announced store.tables)
    (accepted : execute platform now operation store = .ok (result, reply)) :
    Announced result.tables := by
  have unchanged : result.tables.simulations = store.tables.simulations ->
      result.tables.simulationEvents = store.tables.simulationEvents -> Announced result.tables :=
    fun runs events => (Quiet.of_tables runs events).announced before
  cases operation with
  | registerDataset clock identifiers input =>
      rcases answer_ok_iff.mp accepted with ⟨_, done, _⟩
      rcases registerDataset_admits done with ⟨job, admits, _⟩
      exact unchanged admits.runs admits.events
  | createSimulation clock identifiers key request =>
      rcases answer_ok_iff.mp accepted with ⟨⟨record, replayed⟩, done, _⟩
      exact createSimulation_announced coherent numbered before done
  | cancelSimulation runId reason =>
      rcases answer_ok_iff.mp accepted with ⟨_, done, _⟩
      exact cancelSimulation_announced coherent numbered before done
  | saveParameterProfile row =>
      rcases answer_ok_iff.mp accepted with ⟨_, done, _⟩
      simp only [bind_ok_iff, Fault.ofPg_ok_iff, insertParameterProfile_ok_iff] at done
      rcases done with ⟨saved, ⟨tables, _⟩, same⟩
      cases same
      apply unchanged <;> rw [tables]
  | saveLoadMapping row =>
      rcases answer_ok_iff.mp accepted with ⟨_, done, _⟩
      simp only [bind_ok_iff, Fault.ofPg_ok_iff, insertLoadMappingProfile_ok_iff] at done
      rcases done with ⟨saved, ⟨tables, _⟩, same⟩
      cases same
      apply unchanged <;> rw [tables]
  | registerInstance workerId contractVersion workerVersion =>
      rcases answer_ok_iff.mp accepted with ⟨_, done, _⟩
      have opened := Fault.ofPg_ok_iff.mp done
      unfold workerRegisterInstance at opened
      simp only [bind_ok_iff, require_ok_iff, exists_const] at opened
      rcases opened with ⟨_, _, _, opened⟩
      split at opened
      · simp only [bind_ok_iff, pure_ok_iff, Prod.mk.injEq, updateInstances_ok_iff] at opened
        rcases opened with ⟨updated, ⟨tables, _⟩, rfl, _⟩
        apply unchanged <;> rw [tables]
      · simp only [bind_ok_iff, pure_ok_iff, Prod.mk.injEq, Store.install_ok_iff] at opened
        rcases opened with ⟨inserted, ⟨tables, _⟩, rfl, _⟩
        apply unchanged <;> rw [tables]
  | heartbeatInstance workerId contractVersion =>
      rcases answer_ok_iff.mp accepted with ⟨_, done, _⟩
      have opened := Fault.ofPg_ok_iff.mp done
      unfold workerHeartbeatInstance at opened
      simp only [bind_ok_iff, pure_ok_iff, Prod.mk.injEq, updateInstances_ok_iff] at opened
      rcases opened with ⟨updated, ⟨tables, _⟩, rfl, _⟩
      apply unchanged <;> rw [tables]
  | claim workerId attemptId leaseToken leaseSeconds =>
      rcases answer_ok_iff.mp accepted with ⟨_, done, _⟩
      exact workerClaimNextJobForWorker_announced coherent numbered before (Fault.ofPg_ok_iff.mp done)
  | heartbeat workerId lease leaseSeconds =>
      rcases answer_ok_iff.mp accepted with ⟨_, done, _⟩
      exact (workerHeartbeatForWorker_quiet coherent (Fault.ofPg_ok_iff.mp done)).announced before
  | reportEvent lease event =>
      rcases answer_ok_iff.mp accepted with ⟨_, done, _⟩
      exact (workerReportEvent_quiet coherent (Fault.ofPg_ok_iff.mp done)).announced before
  | completePreflight lease inputSha256 summary summarySha256 =>
      rcases answer_ok_iff.mp accepted with ⟨_, done, _⟩
      exact (workerCompletePreflight_quiet (Fault.ofPg_ok_iff.mp done)).announced before
  | confirmCancel lease =>
      rcases answer_ok_iff.mp accepted with ⟨_, done, _⟩
      exact workerConfirmCancel_announced coherent numbered before (Fault.ofPg_ok_iff.mp done)
  | failJob lease error recoverable =>
      rcases answer_ok_iff.mp accepted with ⟨_, done, _⟩
      exact workerFailJob_announced coherent numbered before (Fault.ofPg_ok_iff.mp done)
  | commitSimulation lease request =>
      rcases answer_ok_iff.mp accepted with ⟨_, done, _⟩
      exact (workerCommitSimulation_quiet coherent (Fault.ofPg_ok_iff.mp done)).announced before
  | recoverExpiredLeases =>
      rcases answer_ok_iff.mp accepted with ⟨_, done, _⟩
      exact workerRecoverExpiredLeases_announced coherent numbered before (Fault.ofPg_ok_iff.mp done)

theorem EventsNumbered.effect (numbered : EventsNumbered store) (effect : Effect store result) :
    EventsNumbered result := by
  cases effect with
  | keeps kept => exact kept.events numbered
  | admitsPreflight job admits =>
      intro event member
      rw [admits.events] at member
      rw [admits.sequences]
      exact numbered event member
  | admitsRun run job admits => exact admits.events numbered

theorem reachable_eventsNumbered (reachable : Reachable platform store) : EventsNumbered store := by
  refine System.Reachable.invariant EventsNumbered ?_ ?_ reachable
  · rintro start ⟨now, rfl⟩ event member
    cases member
  · intro source call target _ step numbered
    exact numbered.effect step.effect

theorem reachable_announced (reachable : Reachable platform store) : Announced store.tables := by
  refine System.Reachable.invariant (fun store => Announced store.tables) ?_ ?_ reachable
  · rintro start ⟨now, rfl⟩ place member
    cases member
  · intro source call target sourceReachable step before
    cases step with
    | committed accepted =>
        exact execute_announced (reachable_coherent sourceReachable)
          (reachable_eventsNumbered sourceReachable) before accepted
    | rolledBack _ same _ =>
        rw [same]
        exact before

/-! ## The claim -/

/-- One position of the history admits the job and another one claims it. -/
structure Served (calls : List Call) (jobId : String) (admitted claimed : Nat) : Prop where
  admission : ∃ call, calls[admitted]? = some call ∧ admitsJob jobId call = true
  claim : ∃ call, calls[claimed]? = some call ∧ claimsJob jobId call = true

/-- The newest `queue.position` event of the run. -/
structure NewestPosition (events : List SimulationEvent) (runId : String)
    (event : SimulationEvent) : Prop where
  member : event ∈ events
  sameRun : event.runId = runId
  kind : event.eventType = .queuePosition
  newest : ∀ other ∈ events, other.runId = runId -> other.eventType = .queuePosition ->
    other.eventId ≤ event.eventId

/-- The rank of a queued run among the queued runs, counted from one. -/
def queueRank (simulations : List Simulation) (row : Simulation) : Nat :=
  (simulations.filter fun other =>
    other.status = .queued && other.enqueueSeq ≤ row.enqueueSeq).length

theorem rankOf_queuedPlaces (simulations : List Simulation) (row : Simulation) :
    rankOf (queuedPlaces simulations) row.enqueueSeq = queueRank simulations row := by
  unfold rankOf queuedPlaces queueRank
  rw [List.filter_map, List.length_map, List.filter_filter]
  congr 2
  funext other
  exact Bool.and_comm _ _

/-- In every history jobs are claimed in the order of their admissions, a claim
takes the queued job with the smallest place, and the newest position event of
every queued run states its rank and the number of queued runs. -/
theorem fifo_service {start : Store} {calls : List Call}
    (initial : (queueSystem platform).initial start)
    (run : (queueSystem platform).Run start calls store) :
    (forall firstId secondId firstAdmitted firstClaimed secondAdmitted secondClaimed,
        Served calls firstId firstAdmitted firstClaimed ->
        Served calls secondId secondAdmitted secondClaimed ->
        firstAdmitted < secondAdmitted -> firstClaimed < secondClaimed) ∧
      (forall call after jobId, Transaction platform store call after ->
        claimsJob jobId call = true ->
          ∃ job, IsNextJob store.tables.workerJobs job ∧ job.jobId = jobId) ∧
      (∀ row ∈ store.tables.simulations, row.status = .queued ->
        ∃ event, NewestPosition store.tables.simulationEvents row.runId event ∧
          event.payloadJson = positionPayload (queueRank store.tables.simulations row)
            (waitingRuns store.tables)) := by
  have startReachable : Reachable platform start := System.Reachable.of_initial initial
  refine ⟨?_, ?_, ?_⟩
  · intro firstId secondId firstAdmitted firstClaimed secondAdmitted secondClaimed first second order
    rcases first.admission with ⟨firstAdmission, atFirst, admitsFirst⟩
    rcases second.admission with ⟨secondAdmission, atSecond, admitsSecond⟩
    rcases first.claim with ⟨firstClaim, atFirstClaim, claimsFirst⟩
    rcases second.claim with ⟨secondClaim, atSecondClaim, claimsSecond⟩
    exact claimed_in_order startReachable run atFirst atSecond admitsFirst admitsSecond atFirstClaim
      atSecondClaim claimsFirst claimsSecond order
  · intro call after jobId step claims
    exact claimsJob_next step claims
  · intro row member queued
    have place := mem_queuedPlaces.mpr ⟨row, member, queued, rfl⟩
    rcases reachable_announced (startReachable.run run) _ place with ⟨event, announces⟩
    refine ⟨event, ⟨announces.member, announces.sameRun, announces.kind, ?_⟩, ?_⟩
    · intro other otherMember same _
      exact announces.newest other otherMember same
    · rw [announces.payload, rankOf_queuedPlaces]
      unfold waitingRuns queuedPlaces
      rw [List.length_map]

/-- The sample history up to its admission. -/
def admittedStore : Store :=
  replay samplePlatform
    (sampleSetup ++ [(4, .createSimulation 4 ⟨"run_1", "job_2"⟩ sampleKey sampleRequest)])
    (initialStore 0)

/-- The admitted run waits, and it is told that it is the first of one. -/
theorem fifo_service_sample :
    ∃ row ∈ admittedStore.tables.simulations, row.runId = "run_1" ∧
      ∃ event, NewestPosition admittedStore.tables.simulationEvents row.runId event ∧
        event.payloadJson = positionPayload 1 1 := by
  have waits : ∃ row ∈ admittedStore.tables.simulations, row.runId = "run_1" ∧
      row.status = .queued ∧ queueRank admittedStore.tables.simulations row = 1 ∧
        waitingRuns admittedStore.tables = 1 := by decide +kernel
  rcases waits with ⟨row, member, sameRun, queued, rank, waiting⟩
  rcases @replay_run samplePlatform
    (sampleSetup ++ [(4, .createSimulation 4 ⟨"run_1", "job_2"⟩ sampleKey sampleRequest)])
    (initialStore 0) with ⟨calls, run⟩
  rcases (fifo_service ⟨0, rfl⟩ run).2.2 row member queued with ⟨event, newest, payload⟩
  refine ⟨row, member, sameRun, event, newest, ?_⟩
  rw [payload]
  exact congrArg₂ positionPayload rank waiting

end Queue
end FederatedIot
