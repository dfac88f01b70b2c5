import FederatedIot.Live.EventLog
import FederatedIot.Queue.Testimony

namespace FederatedIot
namespace Queue

open Foundation Foundation.Relation Foundation.Outcome

/-!
# The boundary of worker events

A worker reports an event as one JSON value, and `worker_report_event` is to store it
only when it is well formed for the job.  The guard is a disjunction of negated
comparisons, so a field that is missing leaves its comparison unknown and passes.  What
protects a run is a later constraint, and it protects the stage only.
-/

variable {platform : Platform} {store middle result : Store} {now : Instant} {lease : Lease} {job : WorkerJob}
  {event : Json}

/-! ## What an event is to be -/

/-- No agent, or a number that is printed as one of the three. -/
def AllowedAgent (event : Json) : Prop :=
  event.field? "agent" = none ∨ event.field? "agent" = some .null ∨
    ∃ value : Decimal, event.field? "agent" = some (.number value) ∧
      ∃ agent ∈ ([1, 2, 3] : List Int), value.text = toString agent

/-- An event that may be stored for the job. -/
structure WellFormed (job : WorkerJob) (event : Json) : Prop where
  isObject : event.typeName = "object"
  schemaVersion : event.text? "schema_version" = some "worker.event.v1"
  jobId : event.text? "job_id" = some job.jobId
  attemptId : (event.text? "attempt_id").isSome ∧ event.text? "attempt_id" = job.attemptId
  status : event.text? "status" = some job.status.text
  runId : event.text? "run_id" = job.runId
  stage : ∃ stage ∈ Stage.all, event.text? "stage" = some stage.text
  occurredAt : (event.field? "occurred_at").map Json.typeName = some "string"
  diagnostics : (event.field? "diagnostics").map Json.typeName = some "object"
  agent : AllowedAgent event

/-- Every field that is to be compared is there. -/
structure CarriesFields (event : Json) : Prop where
  schemaVersion : (event.text? "schema_version").isSome
  jobId : (event.text? "job_id").isSome
  attemptId : (event.text? "attempt_id").isSome
  status : (event.text? "status").isSome
  stage : (event.text? "stage").isSome
  occurredAt : (event.field? "occurred_at").isSome
  diagnostics : (event.field? "diagnostics").isSome

/-- A field that is there has a wrong value, the event is too large, or it is not of the job's run. -/
inductive Contradicts (platform : Platform) (job : WorkerJob) (event : Json) : Prop
  | schemaVersion {text : String} : event.text? "schema_version" = some text -> text ≠ "worker.event.v1" ->
      Contradicts platform job event
  | jobId {text : String} : event.text? "job_id" = some text -> text ≠ job.jobId ->
      Contradicts platform job event
  | attemptId {text : String} : event.text? "attempt_id" = some text -> some text ≠ job.attemptId ->
      Contradicts platform job event
  | status {text : String} : event.text? "status" = some text -> text ≠ job.status.text ->
      Contradicts platform job event
  | stage {text : String} : event.text? "stage" = some text -> text ∉ Stage.all.map Stage.text ->
      Contradicts platform job event
  | occurredAt {value : Json} : event.field? "occurred_at" = some value -> value.typeName ≠ "string" ->
      Contradicts platform job event
  | diagnostics {value : Json} : event.field? "diagnostics" = some value -> value.typeName ≠ "object" ->
      Contradicts platform job event
  | size : 65536 < platform.pgColumnSize event -> Contradicts platform job event
  | runId : event.text? "run_id" ≠ job.runId -> Contradicts platform job event
  | agent : ¬AllowedAgent event -> Contradicts platform job event

/-- A run whose stage would be taken away. -/
def StripsStage (job : WorkerJob) (event : Json) : Prop :=
  job.runId.isSome ∧ event.text? "stage" = none

/-- An event that is answered with `TRUE` was well formed and is stored, and every other one is refused. -/
structure EventBoundary (platform : Platform) (now : Instant) (lease : Lease) (event : Json) (job : WorkerJob)
    (store : Store) : Prop where
  accepted : forall result reply, workerReportEvent platform now lease event store = .ok (result, reply) ->
    WellFormed job event ∧ reply = true ∧ ∃ row, row.payloadJson = event ∧
      result.tables.workerJobEvents = store.tables.workerJobEvents ++ [row]
  refused : ¬WellFormed job event -> ∃ fault, workerReportEvent platform now lease event store = .error fault

/-! ## Reading events -/

theorem field?_isObject {name : String} {value : Json} (found : event.field? name = some value) :
    event.typeName = "object" := by
  cases event with
  | object fields => rfl
  | null | bool _ | number _ | string _ | array _ => cases found

theorem text?_isObject {name : String} (found : (event.text? name).isSome) : event.typeName = "object" := by
  rcases Option.isSome_iff_exists.mp found with ⟨text, isText⟩
  rcases Option.bind_eq_some_iff.mp isText with ⟨value, isField, _⟩
  exact field?_isObject isField

theorem hasKey_of_field? {name : String} {value : Json} (found : event.field? name = some value) :
    event.hasKey name = true := by
  cases event with
  | object fields =>
      rcases Option.map_eq_some_iff.mp found with ⟨field, isField, _⟩
      have matched := List.find?_some isField
      exact List.any_eq_true.mpr ⟨field, List.mem_of_find?_eq_some isField, matched⟩
  | null | bool _ | number _ | string _ | array _ => cases found

theorem Stage.ofText?_text (stage : Stage) : Stage.ofText? stage.text = some stage := by
  cases stage <;> rfl

/-- An event with all its fields and nothing wrong in them. -/
theorem wellFormed_of_consistent (carries : CarriesFields event)
    (consistent : ¬Contradicts platform job event) : WellFormed job event := by
  rcases Option.isSome_iff_exists.mp carries.schemaVersion with ⟨schema, isSchema⟩
  rcases Option.isSome_iff_exists.mp carries.jobId with ⟨jobId, isJob⟩
  rcases Option.isSome_iff_exists.mp carries.attemptId with ⟨attempt, isAttempt⟩
  rcases Option.isSome_iff_exists.mp carries.status with ⟨status, isStatus⟩
  rcases Option.isSome_iff_exists.mp carries.stage with ⟨stage, isStage⟩
  rcases Option.isSome_iff_exists.mp carries.occurredAt with ⟨occurred, isOccurred⟩
  rcases Option.isSome_iff_exists.mp carries.diagnostics with ⟨diagnostics, isDiagnostics⟩
  constructor
  · exact text?_isObject carries.schemaVersion
  · rw [isSchema, Option.some.injEq]
    exact not_not.mp fun wrong => consistent (.schemaVersion isSchema wrong)
  · rw [isJob, Option.some.injEq]
    exact not_not.mp fun wrong => consistent (.jobId isJob wrong)
  · refine ⟨carries.attemptId, ?_⟩
    rw [isAttempt]
    exact not_not.mp fun wrong => consistent (.attemptId isAttempt wrong)
  · rw [isStatus, Option.some.injEq]
    exact not_not.mp fun wrong => consistent (.status isStatus wrong)
  · exact not_not.mp fun wrong => consistent (.runId wrong)
  · rcases List.mem_map.mp (not_not.mp fun wrong => consistent (.stage isStage wrong)) with ⟨known, member, rfl⟩
    exact ⟨known, member, isStage⟩
  · rw [isOccurred, Option.map_some, Option.some.injEq]
    exact not_not.mp fun wrong => consistent (.occurredAt isOccurred wrong)
  · rw [isDiagnostics, Option.map_some, Option.some.injEq]
    exact not_not.mp fun wrong => consistent (.diagnostics isDiagnostics wrong)
  · exact not_not.mp fun wrong => consistent (.agent wrong)

theorem WellFormed.carries (formed : WellFormed job event) : CarriesFields event := by
  rcases formed.stage with ⟨stage, _, isStage⟩
  constructor
  · rw [formed.schemaVersion]
    rfl
  · rw [formed.jobId]
    rfl
  · exact formed.attemptId.1
  · rw [formed.status]
    rfl
  · rw [isStage]
    rfl
  · rcases Option.map_eq_some_iff.mp formed.occurredAt with ⟨value, isField, _⟩
    rw [isField]
    rfl
  · rcases Option.map_eq_some_iff.mp formed.diagnostics with ⟨value, isField, _⟩
    rw [isField]
    rfl

/-! ## What the function refuses -/

theorem refusedRunIdentifier_iff : refusedRunIdentifier job.runId event = true ↔ event.text? "run_id" ≠ job.runId := by
  cases present : job.runId with
  | none => exact Option.isSome_iff_ne_none
  | some runId => exact bne_iff_ne

theorem eventAgent_isOk_iff : (eventAgent event).isOk = true ↔ AllowedAgent event := by
  unfold AllowedAgent
  cases found : event.field? "agent" with
  | none =>
      have noAgent : eventAgent event = .ok none := by
        rw [eventAgent, found]
        exact ite_self _
      rw [noAgent]
      exact iff_of_true rfl (Or.inl rfl)
  | some value =>
      rw [eventAgent, if_pos (hasKey_of_field? found), found]
      cases value with
      | null => exact iff_of_true rfl (Or.inr (Or.inl rfl))
      | number value =>
          cases isAgent : ([1, 2, 3] : List Int).find? fun agent => value.text = toString agent with
          | none =>
              simp only [isAgent]
              refine iff_of_false (fun passed => (by cases passed)) ?_
              rintro (missing | isNull | ⟨other, same, agent, member, matched⟩)
              · cases missing
              · cases isNull
              · cases same
                exact List.find?_eq_none.mp isAgent agent member (decide_eq_true matched)
          | some agent =>
              simp only [isAgent]
              have matched : value.text = toString agent := of_decide_eq_true (List.find?_some isAgent :)
              exact iff_of_true rfl (Or.inr (Or.inr ⟨value, rfl, agent, List.mem_of_find?_eq_some isAgent, matched⟩))
      | bool _ | string _ | array _ | object _ =>
          refine iff_of_false (fun passed => (by cases passed)) ?_
          rintro (missing | isNull | ⟨other, same, _⟩)
          · cases missing
          · cases isNull
          · cases same

/-- Some check of the function refuses the event. -/
def RefusedByGuard (platform : Platform) (lease : Lease) (job : WorkerJob) (event : Json) : Prop :=
  (invalidWorkerEvent platform lease job.status event).taken = true ∨
    refusedRunIdentifier job.runId event = true ∨ ¬(eventAgent event).isOk = true

/-- The checks refuse the events that contradict the job, and no others. -/
theorem refusedByGuard_iff (holds : lease.holds now job = true) :
    RefusedByGuard platform lease job event ↔ Contradicts platform job event := by
  rw [RefusedByGuard, invalidWorkerEvent, Truth.taken_any, refusedRunIdentifier_iff, eventAgent_isOk_iff]
  simp only [List.any_cons, List.any_nil, Bool.or_eq_true, Truth.differs_taken_iff, Truth.notIn_taken_iff, Option.map_eq_some_iff]
  have sameJob := Lease.holds_jobId holds
  have sameAttempt := Lease.holds_attemptId holds
  constructor
  · rintro ((⟨text, present, wrong⟩ | ⟨text, present, wrong⟩ | ⟨text, present, wrong⟩ | ⟨text, present, wrong⟩ |
      ⟨text, present, wrong⟩ | ⟨_, ⟨value, present, rfl⟩, wrong⟩ | ⟨_, ⟨value, present, rfl⟩, wrong⟩ | large |
      impossible) | run | agent)
    · exact .schemaVersion present wrong
    · exact .jobId present (sameJob ▸ wrong)
    · exact .attemptId present fun same => wrong (Option.some.inj (same.trans sameAttempt))
    · exact .status present wrong
    · exact .stage present wrong
    · exact .occurredAt present wrong
    · exact .diagnostics present wrong
    · exact .size (of_decide_eq_true (Option.some.inj (eq_of_beq large)))
    · cases impossible
    · exact .runId run
    · exact .agent agent
  · intro contradicts
    cases contradicts with
    | schemaVersion present wrong => exact Or.inl (Or.inl ⟨_, present, wrong⟩)
    | jobId present wrong => exact Or.inl (Or.inr (Or.inl ⟨_, present, sameJob ▸ wrong⟩))
    | attemptId present wrong =>
        refine Or.inl (Or.inr (Or.inr (Or.inl ⟨_, present, fun same => wrong ?_⟩)))
        rw [same, sameAttempt]
    | status present wrong => exact Or.inl (Or.inr (Or.inr (Or.inr (Or.inl ⟨_, present, wrong⟩))))
    | stage present wrong => exact Or.inl (Or.inr (Or.inr (Or.inr (Or.inr (Or.inl ⟨_, present, wrong⟩)))))
    | occurredAt present wrong =>
        exact Or.inl (Or.inr (Or.inr (Or.inr (Or.inr (Or.inr (Or.inl ⟨_, ⟨_, present, rfl⟩, wrong⟩))))))
    | diagnostics present wrong =>
        exact Or.inl (Or.inr (Or.inr (Or.inr (Or.inr (Or.inr (Or.inr (Or.inl ⟨_, ⟨_, present, rfl⟩, wrong⟩)))))))
    | size large =>
        refine Or.inl (Or.inr (Or.inr (Or.inr (Or.inr (Or.inr (Or.inr (Or.inr (Or.inl ?_))))))))
        rw [decide_eq_true large]
        rfl
    | runId run => exact Or.inr (Or.inl run)
    | agent agent => exact Or.inr (Or.inr agent)

/-! ## What an accepted report has done -/

/-- The statements of an accepted report. -/
theorem report_ok (selected : selectJob? (fun job => lease.holds now job && job.status.isActive) store = some job)
    {reply : Bool} (accepted : workerReportEvent platform now lease event store = .ok (result, reply)) :
    ¬RefusedByGuard platform lease job event ∧ ∃ agent, recordEvent now job event agent store = .ok (result, reply) := by
  rw [workerReportEvent, selected] at accepted
  simp only [bind_ok_iff, require_ok_iff, exists_const] at accepted
  rcases accepted with ⟨valid, run, agent, isAgent, recorded⟩
  refine ⟨?_, agent, recorded⟩
  rintro (taken | refused | failed)
  · rw [valid] at taken
    cases taken
  · rw [run] at refused
    cases refused
  · rw [isAgent] at failed
    exact failed rfl

/-- An accepted report stores the event and leaves no active run without a stage. -/
theorem recordEvent_ok (coherent : store.view.Coherent) (member : job ∈ store.tables.workerJobs)
    (active : job.status.isActive = true) {agent : Option Int} {reply : Bool}
    (recorded : recordEvent now job event agent store = .ok (result, reply)) :
    ¬StripsStage job event ∧ reply = true ∧ ∃ row, row.payloadJson = event ∧
      result.tables.workerJobEvents = store.tables.workerJobEvents ++ [row] := by
  rw [recordEvent, bind_ok_iff] at recorded
  rcases recorded with ⟨reported, reportedAccepted, recorded⟩
  have reportedTables := (insertWorkerJobEvents_ok_iff.mp reportedAccepted).1
  split at recorded
  · rename_i preflight
    cases recorded
    refine ⟨?_, rfl, ⟨_, _, _, _, event, _⟩, rfl, by rw [reportedTables]; rfl⟩
    rintro ⟨isRun, _⟩
    rw [preflight] at isRun
    cases isRun
  · rename_i runId present
    simp only [bind_ok_iff, pure_ok_iff, Prod.mk.injEq] at recorded
    rcases recorded with ⟨staged, stagedAccepted, emitted, emittedAccepted, rfl, rfl⟩
    have stagedTables := (updateSimulations_ok_iff.mp stagedAccepted).2.1
    have emittedTables := (insertSimulationEvents_ok_iff.mp emittedAccepted).1
    refine ⟨?_, rfl, ⟨_, _, _, _, event, _⟩, rfl, by rw [emittedTables, stagedTables, reportedTables]; rfl⟩
    rintro ⟨_, missing⟩
    rcases row_of_job coherent member present with ⟨row, rowMember, sameRun, sameStatus⟩
    have isRow : row ∈ reported.tables.simulations := by
      rw [reportedTables]
      exact rowMember
    have stored : ({ row with currentStage := none, updatedAt := now } : Simulation) ∈ staged.tables.simulations := by
      rw [stagedTables, missing]
      exact mem_update_selected isRow (by simp [sameRun, sameStatus])
    have checked : row.status.hasStage = false := (staged.checks.simulations _ stored).1
    rw [sameStatus] at checked
    cases status : job.status with
    | running | cancelling =>
        rw [status] at checked
        cases checked
    | queued | completed | cancelled | failed | failedRecoverable =>
        rw [status] at active
        cases active

/-! ## Statements that succeed -/

theorem Store.install_accepts {tables : Tables} (checks : tables.Checks) (unique : tables.Unique)
    (foreign : tables.Foreign) (sequences : Sequences) :
    Store.install tables sequences = .ok ⟨tables, sequences, checks, unique, foreign⟩ := by
  rw [Store.install, dif_pos checks, dif_pos unique, dif_pos foreign]

/-- No worker event has an identifier that its sequence has not handed out. -/
def WorkerEventsNumbered (store : Store) : Prop :=
  ∀ event ∈ store.tables.workerJobEvents, event.eventId ≤ store.sequences.workerJobEventId

theorem insertWorkerJobEvent_accepts (numbered : WorkerEventsNumbered store)
    (member : job ∈ store.tables.workerJobs) (payload : Json) :
    ∃ result, insertWorkerJobEvents now
      [{ jobId := job.jobId, runId := job.runId, eventType := .stage, payloadJson := payload }] store = .ok result := by
  have checks : Tables.Checks
      { store.tables with
        workerJobEvents := store.tables.workerJobEvents ++
          numberedWorkerEvents now store.sequences.workerJobEventId
            [{ jobId := job.jobId, runId := job.runId, eventType := .stage, payloadJson := payload }] } :=
    { store.checks with }
  refine ⟨_, Store.install_accepts checks { store.unique with workerEventId := ?_ }
    { store.foreign with workerEventJob := ?_, workerEventRun := ?_ } _⟩
  · unfold Keyed
    rw [List.map_append]
    apply List.Nodup.append store.unique.workerEventId (List.nodup_singleton _)
    intro eventId seen new
    rcases List.mem_map.mp seen with ⟨row, rowMember, rfl⟩
    have last : row.eventId = store.sequences.workerJobEventId + 1 + 0 := List.mem_singleton.mp new
    have drawn := numbered row rowMember
    omega
  · intro row rowMember
    rcases List.mem_append.mp rowMember with seen | new
    · exact store.foreign.workerEventJob row seen
    · rw [List.mem_singleton.mp new]
      exact ⟨job, member, rfl⟩
  · intro row rowMember runId present
    rcases List.mem_append.mp rowMember with seen | new
    · exact store.foreign.workerEventRun row seen runId present
    · rw [List.mem_singleton.mp new] at present
      exact store.foreign.jobRun job member runId present

theorem updateStage_accepts (runId : String) {status : JobStatus} (active : status.isActive = true) (stage : Stage) :
    ∃ result, updateSimulations now
      (fun row => row.runId = runId && row.status = status.simulationStatus)
      (fun row => { row with currentStage := some stage }) store = .ok result := by
  have unfinished : status.simulationStatus.isTerminal = false ∧ status.simulationStatus.hasStage = true := by
    cases status with
    | running | cancelling => exact ⟨rfl, rfl⟩
    | queued | completed | cancelled | failed | failedRecoverable => cases active
  have selectedStatus : forall {row : Simulation},
      (decide (row.runId = runId) && decide (row.status = status.simulationStatus)) = true ->
        row.status = status.simulationStatus := by
    intro row selected
    exact of_decide_eq_true (Bool.and_eq_true_iff.mp selected).2
  rw [updateSimulations, protectTerminalSimulation, require_of, ok_bind]
  · have checks : Tables.Checks
        { store.tables with
          simulations := update store.tables.simulations
            (fun row => row.runId = runId && row.status = status.simulationStatus)
            fun row => { row with currentStage := some stage, updatedAt := now } } := by
      refine { store.checks with simulations := ?_ }
      intro row member
      rcases mem_update_cases member with ⟨old, oldMember, selected, rfl⟩ | ⟨oldMember, _⟩
      · have hasStage : old.status.hasStage = true := by
          rw [selectedStatus selected]
          exact unfinished.2
        exact ⟨hasStage, (store.checks.simulations old oldMember).2⟩
      · exact store.checks.simulations row oldMember
    refine ⟨_, Store.install_accepts checks
      { store.unique with
        runId := store.unique.runId.update fun _ => rfl, runSeq := store.unique.runSeq.update fun _ => rfl
        runSlot := ?_ }
      { store.foreign with
        runDataset := store.foreign.runDataset.update_rows fun _ => rfl
        runProfile := store.foreign.runProfile.update_rows fun _ => rfl
        runMapping := store.foreign.runMapping.update_rows fun _ => rfl
        snapshotRun := store.foreign.snapshotRun.update_parents fun _ => rfl
        jobRun := store.foreign.jobRun.update_parents fun _ => rfl
        eventRun := store.foreign.eventRun.update_parents fun _ => rfl
        artifactRun := store.foreign.artifactRun.update_parents fun _ => rfl
        alarmRun := store.foreign.alarmRun.update_parents fun _ => rfl
        idempotencyRun := store.foreign.idempotencyRun.update_parents fun _ => rfl
        workerEventRun := store.foreign.workerEventRun.update_parents fun _ => rfl } _⟩
    apply (length_filter_update_le _).trans store.unique.runSlot
    intro row _ _ executes
    exact executes
  · intro row _ selected terminal
    rw [selectedStatus selected, unfinished.1] at terminal
    cases terminal

theorem insertEvent_accepts (numbered : EventsNumbered store) {row : Simulation}
    (member : row ∈ store.tables.simulations) (type : SimulationEventType) (payload : Json) :
    ∃ result, insertSimulationEvents now [{ runId := row.runId, eventType := type, payloadJson := payload }] store =
      .ok result := by
  have checks : Tables.Checks
      { store.tables with
        simulationEvents := appendEvents now store.sequences.simulationEventId store.tables.eventRetention
          [{ runId := row.runId, eventType := type, payloadJson := payload }] store.tables.simulationEvents } :=
    { store.checks with }
  refine ⟨_, Store.install_accepts checks { store.unique with eventId := ?_ }
    { store.foreign with eventRun := ?_ } _⟩
  · have whole : ((store.tables.simulationEvents ++ numberedEvents now store.sequences.simulationEventId
        [{ runId := row.runId, eventType := type, payloadJson := payload }]).map SimulationEvent.eventId).Nodup := by
      rw [List.map_append]
      apply List.Nodup.append store.unique.eventId (List.nodup_singleton _)
      intro eventId seen new
      rcases List.mem_map.mp seen with ⟨old, oldMember, rfl⟩
      have last : old.eventId = store.sequences.simulationEventId + 1 + 0 := List.mem_singleton.mp new
      have drawn := numbered old oldMember
      omega
    exact whole.sublist (Live.appendEvents_sublist.map _)
  · intro event kept
    rcases List.mem_append.mp (Live.appendEvents_sublist.subset kept) with seen | new
    · exact store.foreign.eventRun event seen
    · rw [List.mem_singleton.mp new]
      exact ⟨row, member, rfl⟩

/-! ## Numbered worker events -/

/-- A step that numbers the worker events it adds after those there are. -/
def KeepsNumbering (store result : Store) : Prop :=
  WorkerEventsNumbered store -> WorkerEventsNumbered result

theorem KeepsNumbering.of_same (events : result.tables.workerJobEvents = store.tables.workerJobEvents)
    (drawn : store.sequences.workerJobEventId ≤ result.sequences.workerJobEventId) : KeepsNumbering store result := by
  intro numbered event member
  rw [events] at member
  exact (numbered event member).trans drawn

theorem keepsNumbering_framed : Framed KeepsNumbering where
  refl _ := id
  trans before after := after ∘ before
  instances accepted := by
    rcases updateInstances_ok_iff.mp accepted with ⟨tables, sequences⟩
    apply KeepsNumbering.of_same
    · rw [tables]
    · rw [sequences]
  newInstance _ tables sequences := by
    apply KeepsNumbering.of_same
    · rw [tables]
    · rw [sequences]
  datasets accepted := by
    rcases updateDatasets_ok_iff.mp accepted with ⟨tables, sequences⟩
    apply KeepsNumbering.of_same
    · rw [tables]
    · rw [sequences]
  jobs accepted _ _ := by
    rcases updateJobs_ok_iff.mp accepted with ⟨tables, sequences⟩
    apply KeepsNumbering.of_same
    · rw [tables]
    · rw [sequences]
  runs accepted _ := by
    rcases updateSimulations_ok_iff.mp accepted with ⟨_, tables, sequences⟩
    apply KeepsNumbering.of_same
    · rw [tables]
    · rw [sequences]
  events accepted := by
    rcases insertSimulationEvents_ok_iff.mp accepted with ⟨tables, sequences⟩
    apply KeepsNumbering.of_same
    · rw [tables]
    · rw [sequences]
  workerEvents {store result now values} accepted := by
    rcases insertWorkerJobEvents_ok_iff.mp accepted with ⟨tables, sequences⟩
    intro numbered event member
    rw [tables] at member
    rw [sequences]
    change event.eventId ≤ store.sequences.workerJobEventId + values.length
    rcases List.mem_append.mp member with seen | new
    · exact (numbered event seen).trans (Nat.le_add_right _ _)
    · rcases List.mem_map.mp new with ⟨⟨value, place⟩, placed, rfl⟩
      have inRange := (List.mem_zipIdx' placed).1
      change store.sequences.workerJobEventId + 1 + place ≤ _
      omega
  artifacts accepted := by
    rcases insertArtifacts_ok_iff.mp accepted with ⟨tables, sequences⟩
    apply KeepsNumbering.of_same
    · rw [tables]
    · rw [sequences]
  alarms accepted := by
    rcases insertAlarms_ok_iff.mp accepted with ⟨tables, sequences⟩
    apply KeepsNumbering.of_same
    · rw [tables]
    · rw [sequences]

theorem startJob_keepsNumbering {attemptId leaseToken : String} {leaseSeconds : Int} {job : WorkerJob}
    {reply : Option ClaimedJob}
    (accepted : startJob now attemptId leaseToken leaseSeconds job store = .ok (result, reply)) :
    KeepsNumbering store result := by
  rw [startJob, bind_ok_iff] at accepted
  rcases accepted with ⟨claimed, claimedAccepted, accepted⟩
  rcases updateJobs_ok_iff.mp claimedAccepted with ⟨claimedTables, claimedSequences⟩
  have jobs : KeepsNumbering store claimed := by
    apply KeepsNumbering.of_same
    · rw [claimedTables]
    · rw [claimedSequences]
  cases kind : job.jobType with
  | datasetPreflight =>
      rw [kind] at accepted
      cases accepted
      exact jobs
  | simulation =>
      rw [kind] at accepted
      simp only [bind_ok_iff, require_ok_iff, exists_const, pure_ok_iff, Prod.mk.injEq] at accepted
      rcases accepted with ⟨started, startedAccepted, _, reported, reportedAccepted, announced,
        announcedAccepted, rfl, _⟩
      have runs := keepsNumbering_framed.trans jobs (keepsNumbering_framed.runs startedAccepted fun _ => rfl)
      have events := keepsNumbering_framed.trans runs (keepsNumbering_framed.events reportedAccepted)
      exact keepsNumbering_framed.trans events
        (emitQueuePositionEvents_framed keepsNumbering_framed announcedAccepted)

/-- An admission reports no worker event. -/
theorem createSimulation_keepsNumbering {clock : Instant} {identifiers : Identifiers} {key : String}
    {request : CreateSimulationRequest} {record : SimulationRecord} {replayed : Bool}
    (accepted : createSimulation platform now clock identifiers key request store =
      .ok (result, record, replayed)) : KeepsNumbering store result := by
  rcases createSimulation_admits accepted with ⟨_, rfl⟩ | ⟨rfl, run, job, admits, _⟩
  · exact id
  refine KeepsNumbering.of_same ?_ admits.sequences.workerJobEventId
  rw [createSimulation, bind_ok_iff] at accepted
  rcases accepted with ⟨_, _, accepted⟩
  rw [createSimulationTx] at accepted
  split at accepted
  · simp only [bind_ok_iff, pure_ok_iff, Prod.mk.injEq] at accepted
    rcases accepted with ⟨_, _, _, _, _, _, impossible⟩
    cases impossible
  · simp only [bind_ok_iff, ofStable_ok_iff, pure_ok_iff, Prod.mk.injEq] at accepted
    rcases accepted with ⟨inputs, _, ⟨admitted, _⟩, admittedAccepted, rfl, rfl, _⟩
    simp only [admitRun, bind_ok_iff, require_ok_iff, exists_const, Fault.ofPg_ok_iff, Fault.ofText_ok_iff,
      pure_ok_iff, Prod.mk.injEq] at admittedAccepted
    rcases admittedAccepted with ⟨snapshot, _, _, envelope, _, simulated, simulatedAccepted, frozen,
      frozenAccepted, enqueued, enqueuedAccepted, reported, reportedAccepted, announced,
      announcedAccepted, keyed, keyedAccepted, _, _, rfl, _⟩
    rw [(insertIdempotencyKey_ok_iff.mp keyedAccepted).1, (emitQueuePositionEvents_ok_iff.mp announcedAccepted).1,
      (insertSimulationEvents_ok_iff.mp reportedAccepted).1, (insertJob_ok_iff.mp enqueuedAccepted).1,
      (insertSimulationSnapshot_ok_iff.mp frozenAccepted).1, (insertSimulation_ok_iff.mp simulatedAccepted).1]
    rfl

theorem keepsNumbering_system : FramedSystem platform KeepsNumbering where
  framed := keepsNumbering_framed
  registers := by
    intro store result now clock identifiers input value done
    simp only [registerDataset, bind_ok_iff, require_ok_iff, exists_const, Fault.ofPg_ok_iff, pure_ok_iff,
      Prod.mk.injEq, insertDataset_ok_iff, insertJob_ok_iff] at done
    rcases done with ⟨_, _, _, registered, ⟨registeredTables, registeredSequences⟩, enqueued,
      ⟨enqueuedTables, enqueuedSequences⟩, rfl, _⟩
    apply KeepsNumbering.of_same
    · rw [enqueuedTables, registeredTables]
      rfl
    · rw [enqueuedSequences, registeredSequences]
      rfl
  creates := createSimulation_keepsNumbering
  profiles := by
    intro store result row saved
    rcases insertParameterProfile_ok_iff.mp saved with ⟨tables, sequences⟩
    apply KeepsNumbering.of_same
    · rw [tables]
    · rw [sequences]
  mappings := by
    intro store result row saved
    rcases insertLoadMappingProfile_ok_iff.mp saved with ⟨tables, sequences⟩
    apply KeepsNumbering.of_same
    · rw [tables]
    · rw [sequences]
  starts := startJob_keepsNumbering
  rolledBack := by
    intro store result same drawn
    apply KeepsNumbering.of_same
    · rw [same]
    · exact drawn.workerJobEventId

theorem reachable_workerEventsNumbered (reachable : Reachable platform store) : WorkerEventsNumbered store := by
  refine System.Reachable.invariant WorkerEventsNumbered ?_ ?_ reachable
  · rintro start ⟨now, rfl⟩ event member
    cases member
  · intro source call target _ step numbered
    exact keepsNumbering_system.transaction step numbered

/-! ## The boundary -/

/-- A report that nothing refuses and that leaves the run its stage is accepted. -/
theorem recordEvent_accepts (coherent : store.view.Coherent) (workerEvents : WorkerEventsNumbered store)
    (events : EventsNumbered store) (member : job ∈ store.tables.workerJobs)
    (active : job.status.isActive = true) (consistent : ¬Contradicts platform job event)
    (keepsStage : ¬StripsStage job event) (agent : Option Int) :
    ∃ result, recordEvent now job event agent store = .ok (result, true) := by
  rcases @insertWorkerJobEvent_accepts store now job workerEvents member event with ⟨reported, isReported⟩
  have reportedTables := (insertWorkerJobEvents_ok_iff.mp isReported).1
  rw [recordEvent, isReported, ok_bind]
  cases present : job.runId with
  | none => exact ⟨reported, rfl⟩
  | some runId =>
      have hasStage : event.text? "stage" ≠ none := fun missing => keepsStage ⟨by rw [present]; rfl, missing⟩
      rcases Option.ne_none_iff_exists'.mp hasStage with ⟨text, isStage⟩
      rcases List.mem_map.mp (not_not.mp fun wrong => consistent (.stage isStage wrong)) with ⟨stage, _, rfl⟩
      rcases @updateStage_accepts reported now runId job.status active stage with ⟨staged, isStaged⟩
      rcases updateSimulations_ok_iff.mp isStaged with ⟨_, stagedTables, stagedSequences⟩
      rcases row_of_job coherent member present with ⟨row, rowMember, rfl, _⟩
      have kept : ∃ later ∈ staged.tables.simulations, later.runId = row.runId := by
        rw [stagedTables, reportedTables]
        refine @exists_key_update Simulation String Simulation.runId _ _ _ ?_ _ ⟨row, rowMember, rfl⟩
        intro old
        rfl
      rcases kept with ⟨later, laterMember, sameRun⟩
      have numbered : EventsNumbered staged := by
        intro entry entryMember
        rw [stagedTables, reportedTables] at entryMember
        rw [stagedSequences, (insertWorkerJobEvents_ok_iff.mp isReported).2]
        exact events entry entryMember
      simp only [isStage, Option.bind_some, Stage.ofText?_text, isStaged, ok_bind]
      rw [← sameRun]
      rcases @insertEvent_accepts staged now numbered later laterMember .stage _ with ⟨emitted, isEmitted⟩
      rw [isEmitted]
      exact ⟨emitted, rfl⟩

theorem report_accepts (coherent : store.view.Coherent) (workerEvents : WorkerEventsNumbered store)
    (events : EventsNumbered store)
    (selected : selectJob? (fun job => lease.holds now job && job.status.isActive) store = some job)
    (consistent : ¬Contradicts platform job event) (keepsStage : ¬StripsStage job event) :
    ∃ result, workerReportEvent platform now lease event store = .ok (result, true) := by
  rcases selectJob?_some selected with ⟨member, chosen⟩
  rcases Bool.and_eq_true_iff.mp chosen with ⟨holds, active⟩
  have passed : ¬RefusedByGuard platform lease job event :=
    fun refused => consistent ((refusedByGuard_iff holds).mp refused)
  unfold RefusedByGuard at passed
  rw [not_or, not_or, Bool.not_eq_true, Bool.not_eq_true, not_not] at passed
  rcases passed with ⟨valid, run, agentOk⟩
  cases isAgent : eventAgent event with
  | error fault =>
      rw [isAgent] at agentOk
      cases agentOk
  | ok agent =>
      rw [workerReportEvent, selected]
      simp only [require_of _ valid, require_of _ run, isAgent, ok_bind]
      exact recordEvent_accepts coherent workerEvents events member active consistent keepsStage agent

/-- A report keeps the boundary when the event has every field that is compared, when it is refused
because something in it contradicts the job, or when it would leave a run without its stage. -/
theorem report_event_boundary (reachable : Reachable platform store)
    (selected : selectJob? (fun job => lease.holds now job && job.status.isActive) store = some job) :
    EventBoundary platform now lease event job store ↔
      CarriesFields event ∨ Contradicts platform job event ∨ StripsStage job event := by
  have coherent := reachable_coherent reachable
  rcases selectJob?_some selected with ⟨member, chosen⟩
  rcases Bool.and_eq_true_iff.mp chosen with ⟨holds, active⟩
  constructor
  · intro boundary
    by_contra outside
    rw [not_or, not_or] at outside
    rcases outside with ⟨lacking, consistent, keepsStage⟩
    rcases report_accepts coherent (reachable_workerEventsNumbered reachable) (reachable_eventsNumbered reachable)
      selected consistent keepsStage with ⟨result, accepted⟩
    exact lacking (boundary.accepted result true accepted).1.carries
  · intro inside
    have answered : forall result reply, workerReportEvent platform now lease event store = .ok (result, reply) ->
        WellFormed job event ∧ reply = true ∧ ∃ row, row.payloadJson = event ∧
          result.tables.workerJobEvents = store.tables.workerJobEvents ++ [row] := by
      intro result reply accepted
      rcases report_ok selected accepted with ⟨passed, agent, recorded⟩
      have consistent : ¬Contradicts platform job event := fun wrong => passed ((refusedByGuard_iff holds).mpr wrong)
      rcases recordEvent_ok coherent member active recorded with ⟨keepsStage, stored⟩
      rcases inside with carries | contradicts | strips
      · exact ⟨wellFormed_of_consistent carries consistent, stored⟩
      · exact absurd contradicts consistent
      · exact absurd strips keepsStage
    refine ⟨answered, fun malformed => ?_⟩
    cases outcome : workerReportEvent platform now lease event store with
    | error fault => exact ⟨fault, rfl⟩
    | ok answer => exact absurd (answered answer.1 answer.2 outcome).1 malformed

/-- The running sample run refuses an event that names its run and no stage. -/
theorem report_event_boundary_sample :
    ∃ job, selectJob? (fun job => runLease.holds 6 job && job.status.isActive) sampleStore = some job ∧
      EventBoundary samplePlatform 6 runLease (.object [("run_id", .string "run_1")]) job sampleStore := by
  have running : ∃ job ∈ selectJob? (fun job => runLease.holds 6 job && job.status.isActive) sampleStore,
      job.runId.isSome = true := by decide +kernel
  rcases running with ⟨job, selected, isRun⟩
  exact ⟨job, selected, (report_event_boundary sampleStore_reachable selected).mpr (Or.inr (Or.inr ⟨isRun, rfl⟩))⟩

/-- The preflight of the sample dataset has been claimed. -/
def validatingStore : Store :=
  replay samplePlatform (sampleSetup.take 5) (initialStore 0)

theorem validatingStore_reachable : Reachable samplePlatform validatingStore :=
  replay_reachable (sampleSetup.take 5) (System.Reachable.of_initial ⟨0, rfl⟩)

theorem empty_not_contradicting (preflight : job.runId = none) :
    ¬Contradicts samplePlatform job (.object []) := by
  intro contradicts
  cases contradicts with
  | schemaVersion present _ | jobId present _ | attemptId present _ | status present _ | stage present _
    | occurredAt present _ | diagnostics present _ => cases present
  | size large => exact absurd large (by decide)
  | runId differs => exact differs preflight.symm
  | agent other => exact other (Or.inl rfl)

/-- The empty object is stored as an event of a preflight. -/
theorem empty_event_stored :
    Reachable samplePlatform validatingStore ∧ ∃ job,
      selectJob? (fun job => preflightLease.holds 3 job && job.status.isActive) validatingStore = some job ∧
        (∃ result, workerReportEvent samplePlatform 3 preflightLease (.object []) validatingStore =
          .ok (result, true)) ∧
        ¬EventBoundary samplePlatform 3 preflightLease (.object []) job validatingStore := by
  have running : ∃ job ∈ selectJob? (fun job => preflightLease.holds 3 job && job.status.isActive) validatingStore,
      job.runId = none := by decide +kernel
  rcases running with ⟨job, selected, preflight⟩
  have coherent := reachable_coherent validatingStore_reachable
  rcases report_accepts coherent (reachable_workerEventsNumbered validatingStore_reachable)
    (reachable_eventsNumbered validatingStore_reachable) selected (empty_not_contradicting preflight)
    (fun strips => by rw [StripsStage, preflight] at strips; cases strips.1) with ⟨result, accepted⟩
  refine ⟨validatingStore_reachable, job, selected, ⟨result, accepted⟩, ?_⟩
  intro boundary
  have schema := (boundary.accepted result true accepted).1.schemaVersion
  cases schema

end Queue
end FederatedIot
