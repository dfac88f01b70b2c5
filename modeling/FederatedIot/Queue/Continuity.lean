import FederatedIot.Queue.Frame

namespace FederatedIot
namespace Queue

open Foundation Foundation.Relation Foundation.Outcome

/-!
# What a transaction keeps and what it admits

Only `RegisterDataset` and `CreateSimulation` add jobs and runs.  Every other
transaction rewrites rows in place, and no transaction rewrites the columns
that an admission fixed: the identity of a job or a run, its place in the
queue, and the envelope.  Sequences never go back, so the identifiers of
events and the places in the queue grow along every history.
-/

variable {platform : Platform} {store middle result : Store} {now : Instant}

/-! ## Rows that are kept -/

/-- No event has an identifier that its sequence has not handed out. -/
def EventsNumbered (store : Store) : Prop :=
  ∀ event ∈ store.tables.simulationEvents, event.eventId ≤ store.sequences.simulationEventId

/-- The rows of the queue are the same rows, whatever their status. -/
structure KeepsRows (store result : Store) : Prop where
  control : result.tables.schedulerControl = store.tables.schedulerControl
  runs : result.tables.simulations.map Simulation.admission =
    store.tables.simulations.map Simulation.admission
  jobs : result.tables.workerJobs.map WorkerJob.admission =
    store.tables.workerJobs.map WorkerJob.admission
  sequences : store.sequences.AtMost result.sequences
  events : EventsNumbered store -> EventsNumbered result

theorem Sequences.AtMost.refl (sequences : Sequences) : sequences.AtMost sequences :=
  ⟨Nat.le_refl _, Nat.le_refl _, Nat.le_refl _, Nat.le_refl _⟩

theorem Sequences.AtMost.trans {first second third : Sequences} (before : first.AtMost second)
    (after : second.AtMost third) : first.AtMost third :=
  ⟨before.enqueueSequence.trans after.enqueueSequence,
    before.simulationEventId.trans after.simulationEventId,
    before.workerJobEventId.trans after.workerJobEventId, before.alarmId.trans after.alarmId⟩

namespace KeepsRows

theorem refl (store : Store) : KeepsRows store store :=
  ⟨rfl, rfl, rfl, Sequences.AtMost.refl _, id⟩

theorem trans (before : KeepsRows store middle) (after : KeepsRows middle result) :
    KeepsRows store result :=
  ⟨after.control.trans before.control, after.runs.trans before.runs, after.jobs.trans before.jobs,
    before.sequences.trans after.sequences, fun numbered => after.events (before.events numbered)⟩

/-- A statement on other tables. -/
theorem of_tables (control : result.tables.schedulerControl = store.tables.schedulerControl)
    (runs : result.tables.simulations = store.tables.simulations)
    (jobs : result.tables.workerJobs = store.tables.workerJobs)
    (events : result.tables.simulationEvents = store.tables.simulationEvents)
    (sequences : store.sequences.AtMost result.sequences) : KeepsRows store result := by
  refine ⟨control, congrArg _ runs, congrArg _ jobs, sequences, ?_⟩
  intro numbered event member
  rw [events] at member
  exact (numbered event member).trans sequences.simulationEventId

end KeepsRows

/-! ## Statements -/

theorem updateInstances_keeps {selects : WorkerInstance -> Bool}
    {assign : WorkerInstance -> WorkerInstance}
    (accepted : updateInstances selects assign store = .ok result) : KeepsRows store result := by
  rcases updateInstances_ok_iff.mp accepted with ⟨tables, sequences⟩
  apply KeepsRows.of_tables
  · rw [tables]
  · rw [tables]
  · rw [tables]
  · rw [tables]
  · rw [sequences]
    exact Sequences.AtMost.refl _

theorem updateDatasets_keeps {selects : Dataset -> Bool} {assign : Dataset -> Dataset}
    (accepted : updateDatasets now selects assign store = .ok result) : KeepsRows store result := by
  rcases updateDatasets_ok_iff.mp accepted with ⟨tables, sequences⟩
  apply KeepsRows.of_tables
  · rw [tables]
  · rw [tables]
  · rw [tables]
  · rw [tables]
  · rw [sequences]
    exact Sequences.AtMost.refl _

theorem updateJobs_keeps {selects : WorkerJob -> Bool} {assign : WorkerJob -> WorkerJob}
    (accepted : updateJobs now selects assign store = .ok result)
    (kept : forall job, (assign job).admission = job.admission) : KeepsRows store result := by
  rcases updateJobs_ok_iff.mp accepted with ⟨tables, sequences⟩
  refine ⟨?_, ?_, ?_, ?_, ?_⟩
  · rw [tables]
  · rw [tables]
  · rw [tables]
    exact map_update_of_fixed WorkerJob.admission fun job _ _ => kept job
  · rw [sequences]
    exact Sequences.AtMost.refl _
  · unfold EventsNumbered
    rw [tables, sequences]
    exact id

theorem updateSimulations_keeps {selects : Simulation -> Bool} {assign : Simulation -> Simulation}
    (accepted : updateSimulations now selects assign store = .ok result)
    (kept : forall row, (assign row).admission = row.admission) : KeepsRows store result := by
  rcases updateSimulations_ok_iff.mp accepted with ⟨_, tables, sequences⟩
  refine ⟨?_, ?_, ?_, ?_, ?_⟩
  · rw [tables]
  · rw [tables]
    exact map_update_of_fixed Simulation.admission fun row _ _ => kept row
  · rw [tables]
  · rw [sequences]
    exact Sequences.AtMost.refl _
  · unfold EventsNumbered
    rw [tables, sequences]
    exact id

/-! ### Events -/

/-- Retention only deletes events. -/
theorem mem_of_mem_retained {retention : Int} {runId : String} {events : List SimulationEvent}
    {event : SimulationEvent} (member : event ∈ retainSimulationEvents retention runId events) :
    event ∈ events :=
  List.mem_of_mem_filter member

theorem mem_of_mem_fold_retained {retention : Int} {values : List EventValues}
    {events : List SimulationEvent} {event : SimulationEvent}
    (member : event ∈ values.foldl
      (fun kept value => retainSimulationEvents retention value.runId kept) events) :
    event ∈ events := by
  induction values generalizing events with
  | nil => exact member
  | cons value rest inductionHypothesis =>
      exact mem_of_mem_retained (inductionHypothesis member)

/-- An event after an insert was there before, or it is one of the new ones. -/
theorem mem_of_mem_appendEvents {last : Nat} {retention : Int} {values : List EventValues}
    {events : List SimulationEvent} {event : SimulationEvent}
    (member : event ∈ appendEvents now last retention values events) :
    event ∈ events ∨ event ∈ numberedEvents now last values :=
  List.mem_append.mp (mem_of_mem_fold_retained member)

/-- The new events have the identifiers that the sequence handed out. -/
theorem numberedEvents_eventId {last : Nat} {values : List EventValues} {event : SimulationEvent}
    (member : event ∈ numberedEvents now last values) :
    last < event.eventId ∧ event.eventId ≤ last + values.length := by
  rcases List.mem_map.mp member with ⟨⟨value, index⟩, entryMember, rfl⟩
  have bound := List.snd_lt_of_mem_zipIdx entryMember
  dsimp only at bound ⊢
  omega

theorem insertSimulationEvents_keeps {values : List EventValues}
    (accepted : insertSimulationEvents now values store = .ok result) : KeepsRows store result := by
  rcases insertSimulationEvents_ok_iff.mp accepted with ⟨tables, sequences⟩
  refine ⟨?_, ?_, ?_, ?_, ?_⟩
  · rw [tables]
  · rw [tables]
  · rw [tables]
  · rw [sequences]
    exact ⟨Nat.le_refl _, Nat.le_add_right _ _, Nat.le_refl _, Nat.le_refl _⟩
  · intro numbered event member
    rw [tables] at member
    rw [sequences]
    rcases mem_of_mem_appendEvents member with earlier | inserted
    · exact (numbered event earlier).trans (Nat.le_add_right _ _)
    · exact (numberedEvents_eventId inserted).2

theorem emitQueuePositionEvents_keeps (accepted : emitQueuePositionEvents now store = .ok result) :
    KeepsRows store result :=
  insertSimulationEvents_keeps accepted

theorem insertWorkerJobEvents_keeps {values : List WorkerEventValues}
    (accepted : insertWorkerJobEvents now values store = .ok result) : KeepsRows store result := by
  rcases insertWorkerJobEvents_ok_iff.mp accepted with ⟨tables, sequences⟩
  apply KeepsRows.of_tables
  · rw [tables]
  · rw [tables]
  · rw [tables]
  · rw [tables]
  · rw [sequences]
    exact ⟨Nat.le_refl _, Nat.le_refl _, Nat.le_add_right _ _, Nat.le_refl _⟩

theorem insertArtifacts_keeps {rows : List Artifact}
    (accepted : insertArtifacts rows store = .ok result) : KeepsRows store result := by
  rcases insertArtifacts_ok_iff.mp accepted with ⟨tables, sequences⟩
  apply KeepsRows.of_tables
  · rw [tables]
  · rw [tables]
  · rw [tables]
  · rw [tables]
  · rw [sequences]
    exact Sequences.AtMost.refl _

theorem insertAlarms_keeps {rows : List Alarm} (accepted : insertAlarms rows store = .ok result) :
    KeepsRows store result := by
  rcases insertAlarms_ok_iff.mp accepted with ⟨tables, sequences⟩
  apply KeepsRows.of_tables
  · rw [tables]
  · rw [tables]
  · rw [tables]
  · rw [tables]
  · rw [sequences]
    exact ⟨Nat.le_refl _, Nat.le_refl _, Nat.le_refl _, Nat.le_add_right _ _⟩

/-! ## Transactions -/

theorem keepsRows_framed : Framed KeepsRows where
  refl := KeepsRows.refl
  trans := KeepsRows.trans
  instances := updateInstances_keeps
  newInstance _ tables sequences := by
    apply KeepsRows.of_tables
    · rw [tables]
    · rw [tables]
    · rw [tables]
    · rw [tables]
    · rw [sequences]
      exact Sequences.AtMost.refl _
  datasets := updateDatasets_keeps
  jobs accepted kept _ := updateJobs_keeps accepted kept
  runs := updateSimulations_keeps
  events := insertSimulationEvents_keeps
  workerEvents := insertWorkerJobEvents_keeps
  artifacts := insertArtifacts_keeps
  alarms := insertAlarms_keeps

theorem startJob_keeps {attemptId leaseToken : String} {leaseSeconds : Int} {job : WorkerJob}
    {reply : Option ClaimedJob}
    (accepted : startJob now attemptId leaseToken leaseSeconds job store = .ok (result, reply)) :
    KeepsRows store result := by
  unfold startJob at accepted
  rw [bind_ok_iff] at accepted
  rcases accepted with ⟨claimed, claimedAccepted, accepted⟩
  have jobsKept := updateJobs_keeps claimedAccepted fun _ => rfl
  cases kind : job.jobType with
  | datasetPreflight =>
      rw [kind] at accepted
      cases accepted
      exact jobsKept
  | simulation =>
      rw [kind] at accepted
      simp only [bind_ok_iff, require_ok_iff, exists_const, pure_ok_iff, Prod.mk.injEq] at accepted
      rcases accepted with ⟨started, startedAccepted, _, reported, reportedAccepted, announced,
        announcedAccepted, rfl, _⟩
      have runsKept := jobsKept.trans (updateSimulations_keeps startedAccepted fun _ => rfl)
      have eventsKept := runsKept.trans (insertSimulationEvents_keeps reportedAccepted)
      exact eventsKept.trans (emitQueuePositionEvents_keeps announcedAccepted)

/-! ## Admissions -/

/-- What an accepted dataset registration adds. -/
structure AdmitsPreflight (store result : Store) (job : WorkerJob) : Prop where
  control : result.tables.schedulerControl = store.tables.schedulerControl
  room : ∀ control ∈ store.tables.schedulerControl,
    (queuedPreflights store.tables : Int) < control.preflightQueueCapacity
  runs : result.tables.simulations = store.tables.simulations
  jobs : result.tables.workerJobs = store.tables.workerJobs ++ [job]
  events : result.tables.simulationEvents = store.tables.simulationEvents
  sequences : result.sequences =
    { store.sequences with enqueueSequence := store.sequences.enqueueSequence + 1 }
  jobQueued : job.status = .queued
  jobPlace : job.enqueueSeq = store.sequences.enqueueSequence + 1

/-- What an accepted new simulation adds. -/
structure AdmitsRun (store result : Store) (run : Simulation) (job : WorkerJob) : Prop where
  control : result.tables.schedulerControl = store.tables.schedulerControl
  room : hasCapacity store.tables = true
  runs : result.tables.simulations = store.tables.simulations ++ [run]
  jobs : result.tables.workerJobs = store.tables.workerJobs ++ [job]
  events : EventsNumbered store -> EventsNumbered result
  sequences : store.sequences.AtMost result.sequences
  enqueueSequence : result.sequences.enqueueSequence = store.sequences.enqueueSequence + 1
  runQueued : run.status = .queued
  runPlace : run.enqueueSeq = store.sequences.enqueueSequence + 1
  jobKind : job.jobType = .simulation
  jobQueued : job.status = .queued
  jobPlace : job.enqueueSeq = store.sequences.enqueueSequence + 1

theorem registerDataset_admits {clock : Instant} {identifiers : Identifiers}
    {input : DatasetRegistration} {reply : RegisteredDataset}
    (accepted : registerDataset platform now clock identifiers input store = .ok (result, reply)) :
    ∃ job, AdmitsPreflight store result job ∧ job.jobId = identifiers.jobId := by
  unfold registerDataset at accepted
  simp only [bind_ok_iff, require_ok_iff, exists_const, Fault.ofPg_ok_iff, pure_ok_iff,
    Prod.mk.injEq, insertDataset_ok_iff, insertJob_ok_iff] at accepted
  rcases accepted with ⟨control, controlFound, room, registered, ⟨registeredTables, registeredSequences⟩,
    enqueued, ⟨enqueuedTables, enqueuedSequences⟩, rfl, _⟩
  have present : store.tables.schedulerControl = some control := by
    cases found : store.tables.schedulerControl with
    | none =>
        rw [found] at controlFound
        cases controlFound
    | some row =>
        rw [found] at controlFound
        cases controlFound
        rfl
  have added : ∃ job : WorkerJob, enqueued.tables.workerJobs = store.tables.workerJobs ++ [job] ∧
      job.jobId = identifiers.jobId ∧ job.status = .queued ∧
        job.enqueueSeq = store.sequences.enqueueSequence + 1 := by
    rw [enqueuedTables, registeredTables]
    exact ⟨_, rfl, rfl, rfl, rfl⟩
  rcases added with ⟨job, jobs, sameId, queued, place⟩
  refine ⟨job, ⟨?_, ?_, ?_, jobs, ?_, ?_, queued, place⟩, sameId⟩
  · rw [enqueuedTables, registeredTables]
    rfl
  · intro row member
    rw [present] at member
    cases member
    exact room
  · rw [enqueuedTables, registeredTables]
    rfl
  · rw [enqueuedTables, registeredTables]
    rfl
  · rw [enqueuedSequences, registeredSequences]
    rfl

theorem admitRun_admits {clock : Instant} {identifiers : Identifiers} {key : String}
    {request : CreateSimulationRequest} {inputs : AdmissionInputs} {record : SimulationRecord}
    (room : hasCapacity store.tables = true)
    (accepted : admitRun platform now clock identifiers key request inputs store =
      .ok (result, record)) :
    ∃ run job, AdmitsRun store result run job ∧ job.jobId = identifiers.jobId := by
  unfold admitRun at accepted
  simp only [bind_ok_iff, require_ok_iff, exists_const, Fault.ofPg_ok_iff, Fault.ofText_ok_iff,
    pure_ok_iff, Prod.mk.injEq] at accepted
  rcases accepted with ⟨snapshot, _, _, envelope, _, simulated, simulatedAccepted, frozen,
    frozenAccepted, enqueued, enqueuedAccepted, reported, reportedAccepted, announced,
    announcedAccepted, keyed, keyedAccepted, _, _, rfl, _⟩
  rcases insertSimulation_ok_iff.mp simulatedAccepted with ⟨simulatedTables, simulatedSequences⟩
  rcases insertSimulationSnapshot_ok_iff.mp frozenAccepted with ⟨frozenTables, frozenSequences⟩
  rcases insertJob_ok_iff.mp enqueuedAccepted with ⟨enqueuedTables, enqueuedSequences⟩
  rcases insertIdempotencyKey_ok_iff.mp keyedAccepted with ⟨keyedTables, keyedSequences⟩
  have reportedTables := (insertSimulationEvents_ok_iff.mp reportedAccepted).1
  have announcedTables := (emitQueuePositionEvents_ok_iff.mp announcedAccepted).1
  have eventsKept := (insertSimulationEvents_keeps reportedAccepted).trans
    (emitQueuePositionEvents_keeps announcedAccepted)
  have drawn : enqueued.sequences =
      { store.sequences with enqueueSequence := store.sequences.enqueueSequence + 1 } := by
    rw [enqueuedSequences, frozenSequences, simulatedSequences]
    rfl
  have sameSequence : announced.sequences.enqueueSequence = enqueued.sequences.enqueueSequence := by
    rw [(emitQueuePositionEvents_ok_iff.mp announcedAccepted).2,
      (insertSimulationEvents_ok_iff.mp reportedAccepted).2]
  refine ⟨admittedRun now identifiers.subjectId (nextSequence store).1 request inputs,
    admittedJob platform now identifiers (nextSequence store).1 request envelope,
    ⟨?_, room, ?_, ?_, ?_, ?_, ?_, rfl, rfl, rfl, rfl, rfl⟩, rfl⟩
  · rw [keyedTables, announcedTables, reportedTables, enqueuedTables, frozenTables, simulatedTables]
    rfl
  · rw [keyedTables, announcedTables, reportedTables, enqueuedTables, frozenTables, simulatedTables]
    rfl
  · rw [keyedTables, announcedTables, reportedTables, enqueuedTables, frozenTables, simulatedTables]
    rfl
  · intro numbered
    have before : EventsNumbered enqueued := by
      intro event member
      rw [enqueuedTables, frozenTables, simulatedTables] at member
      rw [drawn]
      exact numbered event member
    have after := eventsKept.events before
    unfold EventsNumbered
    rw [keyedTables, keyedSequences]
    exact after
  · rw [keyedSequences]
    refine Sequences.AtMost.trans ?_ eventsKept.sequences
    rw [drawn]
    exact ⟨Nat.le_succ _, Nat.le_refl _, Nat.le_refl _, Nat.le_refl _⟩
  · rw [keyedSequences, sameSequence, drawn]

/-- An admission passed the capacity check. -/
theorem hasCapacity_of_checked {request : CreateSimulationRequest} {inputs : AdmissionInputs}
    (checked : checkAdmission platform request store.tables = .ok inputs) :
    hasCapacity store.tables = true := by
  unfold checkAdmission at checked
  simp only [bind_ok_iff, require_ok_iff, exists_const] at checked
  rcases checked with ⟨_, _, _, _, _, _, room, _⟩
  exact room

theorem createSimulation_admits {clock : Instant} {identifiers : Identifiers} {key : String}
    {request : CreateSimulationRequest} {record : SimulationRecord} {replayed : Bool}
    (accepted : createSimulation platform now clock identifiers key request store =
      .ok (result, record, replayed)) :
    (replayed = true ∧ result = store) ∨
      (replayed = false ∧
        ∃ run job, AdmitsRun store result run job ∧ job.jobId = identifiers.jobId) := by
  unfold createSimulation createSimulationTx at accepted
  rw [bind_ok_iff] at accepted
  rcases accepted with ⟨_, _, accepted⟩
  split at accepted
  · simp only [bind_ok_iff, require_ok_iff, exists_const, pure_ok_iff, Prod.mk.injEq] at accepted
    rcases accepted with ⟨_, _, _, rfl, _, rfl⟩
    exact Or.inl ⟨rfl, rfl⟩
  · simp only [bind_ok_iff, ofStable_ok_iff, pure_ok_iff, Prod.mk.injEq] at accepted
    rcases accepted with ⟨inputs, checked, ⟨admitted, admittedRecord⟩, admittedAccepted, rfl, _, rfl⟩
    exact Or.inr ⟨rfl, admitRun_admits (hasCapacity_of_checked checked) admittedAccepted⟩

/-! ## Every transaction -/

/-- A transaction keeps the rows of the queue, or it admits one preflight or
one run. -/
inductive Effect (store result : Store) : Prop
  | keeps : KeepsRows store result -> Effect store result
  | admitsPreflight (job : WorkerJob) : AdmitsPreflight store result job -> Effect store result
  | admitsRun (run : Simulation) (job : WorkerJob) :
      AdmitsRun store result run job -> Effect store result

theorem KeepsRows.run_target (kept : KeepsRows store result) {run : Simulation}
    (member : run ∈ store.tables.simulations) :
    ∃ later ∈ result.tables.simulations, later.admission = run.admission := by
  have mapped : run.admission ∈ store.tables.simulations.map Simulation.admission :=
    List.mem_map_of_mem member
  rw [← kept.runs] at mapped
  exact List.mem_map.mp mapped

theorem Effect.run_target (effect : Effect store result) {run : Simulation}
    (member : run ∈ store.tables.simulations) :
    ∃ later ∈ result.tables.simulations, later.admission = run.admission := by
  cases effect with
  | keeps kept => exact kept.run_target member
  | admitsPreflight added admits =>
      rw [admits.runs]
      exact ⟨run, member, rfl⟩
  | admitsRun added job admits =>
      rw [admits.runs]
      exact ⟨run, List.mem_append_left _ member, rfl⟩

theorem execute_effect {operation : Operation} {reply : Reply}
    (accepted : execute platform now operation store = .ok (result, reply)) :
    Effect store result := by
  cases operation with
  | registerDataset clock identifiers input =>
      rcases answer_ok_iff.mp accepted with ⟨_, done, _⟩
      rcases registerDataset_admits done with ⟨job, admits, _⟩
      exact .admitsPreflight job admits
  | createSimulation clock identifiers key request =>
      rcases answer_ok_iff.mp accepted with ⟨⟨record, replayed⟩, done, _⟩
      rcases createSimulation_admits done with ⟨_, rfl⟩ | ⟨_, run, job, admits, _⟩
      · exact .keeps (KeepsRows.refl result)
      · exact .admitsRun run job admits
  | cancelSimulation runId reason =>
      rcases answer_ok_iff.mp accepted with ⟨_, done, _⟩
      exact .keeps (cancelSimulation_framed keepsRows_framed done)
  | saveParameterProfile row =>
      rcases answer_ok_iff.mp accepted with ⟨_, done, _⟩
      simp only [bind_ok_iff, Fault.ofPg_ok_iff, insertParameterProfile_ok_iff] at done
      rcases done with ⟨saved, ⟨tables, sequences⟩, same⟩
      cases same
      apply Effect.keeps
      apply KeepsRows.of_tables
      · rw [tables]
      · rw [tables]
      · rw [tables]
      · rw [tables]
      · rw [sequences]
        exact Sequences.AtMost.refl _
  | saveLoadMapping row =>
      rcases answer_ok_iff.mp accepted with ⟨_, done, _⟩
      simp only [bind_ok_iff, Fault.ofPg_ok_iff, insertLoadMappingProfile_ok_iff] at done
      rcases done with ⟨saved, ⟨tables, sequences⟩, same⟩
      cases same
      apply Effect.keeps
      apply KeepsRows.of_tables
      · rw [tables]
      · rw [tables]
      · rw [tables]
      · rw [tables]
      · rw [sequences]
        exact Sequences.AtMost.refl _
  | registerInstance workerId contractVersion workerVersion =>
      rcases answer_ok_iff.mp accepted with ⟨_, done, _⟩
      exact .keeps (workerRegisterInstance_framed keepsRows_framed (Fault.ofPg_ok_iff.mp done))
  | heartbeatInstance workerId contractVersion =>
      rcases answer_ok_iff.mp accepted with ⟨_, done, _⟩
      exact .keeps (workerHeartbeatInstance_framed keepsRows_framed (Fault.ofPg_ok_iff.mp done))
  | claim workerId attemptId leaseToken leaseSeconds =>
      rcases answer_ok_iff.mp accepted with ⟨_, done, _⟩
      exact .keeps (workerClaimNextJobForWorker_framed keepsRows_framed startJob_keeps (Fault.ofPg_ok_iff.mp done))
  | heartbeat workerId lease leaseSeconds =>
      rcases answer_ok_iff.mp accepted with ⟨_, done, _⟩
      exact .keeps (workerHeartbeatForWorker_framed keepsRows_framed (Fault.ofPg_ok_iff.mp done))
  | reportEvent lease event =>
      rcases answer_ok_iff.mp accepted with ⟨_, done, _⟩
      exact .keeps (workerReportEvent_framed keepsRows_framed (Fault.ofPg_ok_iff.mp done))
  | completePreflight lease inputSha256 summary summarySha256 =>
      rcases answer_ok_iff.mp accepted with ⟨_, done, _⟩
      exact .keeps (workerCompletePreflight_framed keepsRows_framed (Fault.ofPg_ok_iff.mp done))
  | confirmCancel lease =>
      rcases answer_ok_iff.mp accepted with ⟨_, done, _⟩
      exact .keeps (workerConfirmCancel_framed keepsRows_framed (Fault.ofPg_ok_iff.mp done))
  | failJob lease error recoverable =>
      rcases answer_ok_iff.mp accepted with ⟨_, done, _⟩
      exact .keeps (workerFailJob_framed keepsRows_framed (Fault.ofPg_ok_iff.mp done))
  | commitSimulation lease request =>
      rcases answer_ok_iff.mp accepted with ⟨_, done, _⟩
      exact .keeps (workerCommitSimulation_framed keepsRows_framed (Fault.ofPg_ok_iff.mp done))
  | recoverExpiredLeases =>
      rcases answer_ok_iff.mp accepted with ⟨_, done, _⟩
      exact .keeps (workerRecoverExpiredLeases_framed keepsRows_framed (Fault.ofPg_ok_iff.mp done))

/-- A failed transaction keeps every row and may have drawn from sequences. -/
theorem Transaction.effect {call : Call} (step : Transaction platform store call result) :
    Effect store result := by
  cases step with
  | committed accepted => exact execute_effect accepted
  | rolledBack _ same drawn =>
      apply Effect.keeps
      apply KeepsRows.of_tables
      · rw [same]
      · rw [same]
      · rw [same]
      · rw [same]
      · exact drawn

end Queue
end FederatedIot
