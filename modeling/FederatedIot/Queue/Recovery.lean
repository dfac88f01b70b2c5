import FederatedIot.Queue.Acceptance
import FederatedIot.Queue.Service

namespace FederatedIot
namespace Queue

open Foundation Foundation.Relation Foundation.Outcome

/-!
# The queue goes on

A job whose lease has run out is settled by the recovery, which never raises, and the next
claim takes the head of the queue.  So nothing that a worker leaves behind stops the queue.
-/

variable {platform : Platform} {store middle result : Store} {now : Instant} {job : WorkerJob}

/-! ## Recovery -/

theorem finalStatus_cases (candidate : ExpiredCandidate) :
    candidate.finalStatus = .cancelled ∨ candidate.finalStatus = .failedRecoverable := by
  unfold ExpiredCandidate.finalStatus
  split
  · exact Or.inl rfl
  · exact Or.inr rfl

theorem released_inactive (candidate : ExpiredCandidate) :
    candidate.released.status.isActive = false ∧ candidate.released.isLeased = false := by
  refine ⟨?_, rfl⟩
  change candidate.finalStatus.isActive = false
  rcases finalStatus_cases candidate with final | final <;> rw [final] <;> rfl

theorem settledRun_check (candidate : ExpiredCandidate) (row : Simulation) :
    (candidate.settledRun now row).Check ∧ (candidate.settledRun now row).status.isExecution = false := by
  unfold ExpiredCandidate.settledRun Simulation.Check
  dsimp only
  rcases finalStatus_cases candidate with final | final <;> rw [final] <;> decide

theorem recovers_settledRun {expired : List ExpiredCandidate} {row : Simulation} (selected : recovers expired row = true) :
    row.status.hasStage = true ∧ exists candidate, candidateFor? expired row = some candidate := by
  unfold recovers at selected
  rcases Bool.and_eq_true_iff.mp selected with ⟨staged, found⟩
  exact ⟨staged, Option.isSome_iff_exists.mp found⟩

theorem unfinished_of_hasStage {status : SimulationStatus} (staged : status.hasStage = true) : status.isTerminal = false := by
  cases status with
  | running | cancelling => rfl
  | _ => cases staged

/-- What the recovery does to the jobs and to their runs. -/
structure Recovers (now : Instant) (store result : Store) : Prop where
  jobs : result.tables.workerJobs = update store.tables.workerJobs (isExpired now) fun job =>
    { (ExpiredCandidate.of store.tables.simulations job).released with updatedAt := now }
  runs : result.tables.simulations = update store.tables.simulations (recovers (expiredCandidates now store.tables))
    fun row => { ((candidateFor? (expiredCandidates now store.tables) row).map fun candidate =>
      candidate.settledRun now row).getD row with updatedAt := now }
  instances : result.tables.workerInstances = store.tables.workerInstances

/-- The recovery raises nothing. -/
theorem recovery_accepts (coherent : store.view.Coherent) (numbered : EventsNumbered store)
    (workerEvents : WorkerEventsNumbered store) :
    exists result count, workerRecoverExpiredLeases now store = .ok (result, count) ∧ Recovers now store result := by
  have expiredJobs : ∀ candidate ∈ expiredCandidates now store.tables, candidate.job ∈ store.tables.workerJobs ∧
      isExpired now candidate.job = true ∧ candidate = ExpiredCandidate.of store.tables.simulations candidate.job := by
    intro candidate member
    rcases List.mem_map.mp member with ⟨job, isExpiredJob, rfl⟩
    rcases List.mem_filter.mp isExpiredJob with ⟨jobMember, expired⟩
    exact ⟨jobMember, expired, rfl⟩
  rcases @updateJobs_accepts store now (isExpired now)
      (fun job => (ExpiredCandidate.of store.tables.simulations job).released)
    (fun _ => rfl) (fun job _ _ => (released_inactive _).1.trans (released_inactive _).2.symm)
    (fun job _ active => by rw [(released_inactive _).1] at active; cases active) with ⟨released, isReleased⟩
  rcases updateJobs_ok_iff.mp isReleased with ⟨releasedTables, releasedSequences⟩
  have releasedWorkerEvents : WorkerEventsNumbered released := by
    unfold WorkerEventsNumbered
    rw [releasedTables, releasedSequences]
    exact workerEvents
  rcases @insertWorkerJobEvents_accepts released now ((expiredCandidates now store.tables).map ExpiredCandidate.workerEvent)
    releasedWorkerEvents (fun value isValue => by
      rcases List.mem_map.mp isValue with ⟨candidate, member, rfl⟩
      rcases expiredJobs candidate member with ⟨jobMember, expired, _⟩
      refine ⟨{ (ExpiredCandidate.of store.tables.simulations candidate.job).released with updatedAt := now }, ?_, rfl, rfl⟩
      rw [releasedTables]
      exact @mem_update_selected _ _ _ (fun job : WorkerJob =>
        { (ExpiredCandidate.of store.tables.simulations job).released with updatedAt := now }) _ jobMember expired) with
    ⟨reported, isReported⟩
  have reportedTables := (insertWorkerJobEvents_ok_iff.mp isReported).1
  rcases @updateDatasets_accepts reported now
    (fun dataset => dataset.status = .validating &&
      (expiredCandidates now store.tables).any fun candidate => candidate.invalidates dataset)
    (fun dataset => { dataset with
      status := .invalid, validationFinishedAt := some now, errorCode := some "PREFLIGHT_FAILED"
      errorMessage := some "LEASE_LOST" })
    (fun _ => rfl) (fun _ => rfl) (fun row rowMember selected => by
      rcases reported.checks.datasets row rowMember with ⟨size, summary, digest, filename⟩
      have validating : row.status = .validating := of_decide_eq_true (Bool.and_eq_true_iff.mp selected).1
      refine ⟨size, ?_, digest, filename⟩
      rw [validating] at summary
      exact (iff_of_false (by decide) (by decide) : DatasetStatus.invalid = .valid ↔ DatasetStatus.validating = .valid).trans
        summary) with ⟨invalidated, isInvalidated⟩
  have invalidatedTables := (updateDatasets_ok_iff.mp isInvalidated).1
  rcases @updateSimulations_accepts invalidated now (recovers (expiredCandidates now store.tables))
    (fun row => ((candidateFor? (expiredCandidates now store.tables) row).map fun candidate =>
      candidate.settledRun now row).getD row)
    (fun row => by cases candidateFor? (expiredCandidates now store.tables) row <;> rfl)
    (fun row _ selected => unfinished_of_hasStage (recovers_settledRun selected).1)
    (fun row _ selected => by
      rcases (recovers_settledRun selected).2 with ⟨candidate, found⟩
      rw [found]
      exact (settledRun_check candidate row).1)
    (fun row _ selected executes => by
      rcases (recovers_settledRun selected).2 with ⟨candidate, found⟩
      rw [found, Option.map_some, Option.getD_some, (settledRun_check candidate row).2] at executes
      cases executes) with ⟨settled, isSettled⟩
  have settledTables := (updateSimulations_ok_iff.mp isSettled).2.1
  have keeps : KeepsRows store settled :=
    (((updateJobs_keeps isReleased fun _ => rfl).trans (insertWorkerJobEvents_keeps isReported)).trans
      (updateDatasets_keeps isInvalidated)).trans
      (updateSimulations_keeps isSettled fun row => by
        cases candidateFor? (expiredCandidates now store.tables) row <;> rfl)
  rcases @insertSimulationEvents_accepts settled now
    ((store.tables.simulations.filter (recovers (expiredCandidates now store.tables))).filterMap fun row =>
      (candidateFor? (expiredCandidates now store.tables) row).map fun candidate => candidate.runEvent row)
    (keeps.events numbered) (fun value isValue => by
      rcases List.mem_filterMap.mp isValue with ⟨row, inside, made⟩
      rcases Option.map_eq_some_iff.mp made with ⟨candidate, _, rfl⟩
      rw [settledTables]
      refine exists_key_update (fun row => ?_) ⟨row, ?_, rfl⟩
      · cases candidateFor? (expiredCandidates now store.tables) row <;> rfl
      · rw [invalidatedTables, reportedTables, releasedTables]
        exact List.mem_of_mem_filter inside) with ⟨emitted, isEmitted⟩
  rcases @emitQueuePositionEvents_accepts emitted now
    ((keeps.trans (insertSimulationEvents_keeps isEmitted)).events numbered) with ⟨announced, isAnnounced⟩
  rw [workerRecoverExpiredLeases, requireScheduler_accepts coherent, ok_bind]
  dsimp only
  rw [isReleased, ok_bind, isReported, ok_bind, isInvalidated, ok_bind, isSettled, ok_bind, isEmitted, ok_bind]
  have recovered : Recovers now store emitted := by
    constructor <;> rw [(insertSimulationEvents_ok_iff.mp isEmitted).1, settledTables, invalidatedTables, reportedTables,
      releasedTables]
  split
  · rw [isAnnounced, ok_bind]
    refine ⟨announced, _, rfl, ?_⟩
    have announcedTables := (emitQueuePositionEvents_ok_iff.mp isAnnounced).1
    constructor <;> rw [announcedTables]
    · exact recovered.jobs
    · exact recovered.runs
    · exact recovered.instances
  · exact ⟨emitted, _, rfl, recovered⟩

/-- An update of rows that are not counted after it takes the selected rows away. -/
theorem filter_update_dropped {Row : Type} {rows : List Row} {selects counted : Row -> Bool} {assign : Row -> Row}
    (after : ∀ row ∈ rows, selects row = true -> counted (assign row) = false) :
    (update rows selects assign).filter counted = (rows.filter counted).filter fun row => !selects row := by
  induction rows with
  | nil => rfl
  | cons head tail inductionHypothesis =>
      have rest := inductionHypothesis fun row member => after row (List.mem_cons_of_mem head member)
      unfold update at rest ⊢
      rw [List.map_cons, List.filter_cons, List.filter_cons, rest]
      by_cases selected : selects head = true
      · rw [if_pos selected, after head List.mem_cons_self selected, if_neg Bool.false_ne_true]
        split
        · rw [List.filter_cons_of_neg (by rw [selected]; decide)]
        · rfl
      · rw [if_neg selected]
        split
        · rw [List.filter_cons_of_pos (by rw [Bool.not_eq_true] at selected; rw [selected]; rfl)]
        · rfl

/-- The waiting jobs go on waiting. -/
theorem Recovers.queued (recovered : Recovers now store result) :
    (result.tables.workerJobs.filter fun job => job.status = .queued) =
      store.tables.workerJobs.filter fun job => job.status = .queued := by
  rw [recovered.jobs]
  refine (filter_update_dropped fun job _ _ => ?_).trans ?_
  · exact decide_eq_false (released_not_queued store.tables.simulations job)
  apply List.filter_eq_self.mpr
  intro job member
  have queued : job.status = .queued := of_decide_eq_true (List.mem_filter.mp member).2
  rw [isExpired, queued]
  rfl

/-- An active job is left alone only while its lease lives. -/
theorem Recovers.live (recovered : Recovers now store result) (member : job ∈ result.tables.workerJobs)
    (active : job.status.isActive = true) : job ∈ store.tables.workerJobs ∧ job.leaseLive now = true := by
  rw [recovered.jobs] at member
  rcases mem_update_cases member with ⟨old, _, _, rfl⟩ | ⟨kept, passed⟩
  · change (ExpiredCandidate.of store.tables.simulations old).released.status.isActive = true at active
    rw [(released_inactive _).1] at active
    cases active
  · refine ⟨kept, ?_⟩
    rcases Option.isSome_iff_exists.mp (leased_of_active kept active).2.2 with ⟨expiry, present⟩
    rw [isExpired, active, WorkerJob.leaseExpired, present] at passed
    rw [WorkerJob.leaseLive, present]
    have later : ¬expiry ≤ now := of_decide_eq_false passed
    exact decide_eq_true (Int.lt_of_not_ge later)

/-- A run whose lease has run out is cancelled when that was asked for, and else it has failed. -/
theorem Recovers.settles (recovered : Recovers now store result) (coherent : store.view.Coherent)
    (member : job ∈ store.tables.workerJobs) (expired : isExpired now job = true) {runId : String}
    (present : job.runId = some runId) :
    Finished runId (if isCancellationRequested store.tables.simulations job then .cancelled else .failedRecoverable)
      result.view := by
  rcases row_of_job coherent member present with ⟨row, rowMember, sameRun, sameStatus⟩
  have candidate : candidateFor? (expiredCandidates now store.tables) row =
      some (ExpiredCandidate.of store.tables.simulations job) := by
    rw [expiredCandidates_one member expired, candidateFor?, List.find?_cons_of_pos]
    exact decide_eq_true (present.trans (congrArg some sameRun.symm))
  have staged : row.status.hasStage = true := by
    have active := (Bool.and_eq_true_iff.mp expired).1
    rw [sameStatus]
    revert active
    cases job.status <;> decide
  have selected : recovers (expiredCandidates now store.tables) row = true := by
    rw [recovers, staged, candidate]
    rfl
  have settled := @mem_update_selected _ store.tables.simulations (recovers (expiredCandidates now store.tables))
    (fun row : Simulation => { ((candidateFor? (expiredCandidates now store.tables) row).map fun candidate =>
      candidate.settledRun now row).getD row with updatedAt := now }) row rowMember selected
  rw [← recovered.runs] at settled
  dsimp only at settled
  rw [candidate] at settled
  refine finished_of_row ?_ settled sameRun ?_
  · cases isCancellationRequested store.tables.simulations job <;> rfl
  · change (ExpiredCandidate.of store.tables.simulations job).finalStatus.simulationStatus = _
    unfold ExpiredCandidate.finalStatus ExpiredCandidate.of
    cases isCancellationRequested store.tables.simulations job <;> rfl

/-! ## Starting a job -/

/-- Rows of one key are at most one. -/
theorem atMostOne_of_keyed {Row Key : Type} {key : Row -> Key} {rows : List Row} {counted : Row -> Bool} {value : Key}
    (keyed : Keyed key rows) (only : ∀ row ∈ rows, counted row = true -> key row = value) : AtMostOne counted rows := by
  have distinct : ((rows.filter counted).map key).Nodup := List.Nodup.sublist (List.filter_sublist.map key) keyed
  have same : ∀ other ∈ (rows.filter counted).map key, other = value := by
    intro other member
    rcases List.mem_map.mp member with ⟨row, inside, rfl⟩
    rcases List.mem_filter.mp inside with ⟨rowMember, isCounted⟩
    exact only row rowMember isCounted
  rw [List.eq_replicate_of_mem same, List.nodup_replicate, List.length_map] at distinct
  exact distinct

/-- When no row is counted, an update of the rows of one key makes it one at most. -/
theorem atMostOne_of_update {Row Key : Type} {key : Row -> Key} {rows : List Row} {selects counted : Row -> Bool}
    {assign : Row -> Row} {value : Key} (keyed : Keyed key rows) (fixed : forall row, key (assign row) = key row)
    (own : forall row, selects row = true -> key row = value) (idle : ∀ row ∈ rows, counted row = false) :
    AtMostOne counted (update rows selects assign) := by
  apply atMostOne_of_keyed (keyed.update fixed)
  intro row member isCounted
  rcases mem_update_cases member with ⟨old, _, selected, rfl⟩ | ⟨kept, _⟩
  · exact (fixed old).trans (own old selected)
  · rw [idle row kept] at isCounted
    cases isCounted

/-- The row that a claim leaves in `worker_jobs`. -/
def startedJob (now : Instant) (attemptId leaseToken : String) (leaseSeconds : Int) (job : WorkerJob) : WorkerJob :=
  { job with
    status := .running, attemptId := some attemptId, lastAttemptId := some attemptId
    leaseToken := some leaseToken, leaseExpiresAt := some (now + seconds leaseSeconds), lastHeartbeatAt := some now
    updatedAt := now }

/-- What a started job is answered with, and what it leaves. -/
theorem startJob_starts {attemptId leaseToken : String} {leaseSeconds : Int} {claimed : ClaimedJob}
    (accepted : startJob now attemptId leaseToken leaseSeconds job store = .ok (result, some claimed)) :
    claimed.jobId = job.jobId ∧ claimed.runId = job.runId ∧
      result.tables.workerJobs = update store.tables.workerJobs (fun other => other.jobId = job.jobId)
        (startedJob now attemptId leaseToken leaseSeconds) ∧
      result.tables.workerInstances = store.tables.workerInstances := by
  rw [startJob, bind_ok_iff] at accepted
  rcases accepted with ⟨started, isStarted, accepted⟩
  have startedTables := (updateJobs_ok_iff.mp isStarted).1
  cases kind : job.jobType with
  | datasetPreflight =>
      rw [kind] at accepted
      simp only [pure_ok_iff, Prod.mk.injEq, Option.some.injEq] at accepted
      rcases accepted with ⟨rfl, rfl⟩
      refine ⟨rfl, rfl, ?_, ?_⟩ <;> rw [startedTables]
      rfl
  | simulation =>
      rw [kind] at accepted
      simp only [bind_ok_iff, require_ok_iff, exists_const, pure_ok_iff, Prod.mk.injEq, Option.some.injEq] at accepted
      rcases accepted with ⟨moved, isMoved, _, reported, isReported, announced, isAnnounced, rfl, rfl⟩
      refine ⟨rfl, rfl, ?_, ?_⟩ <;>
        rw [(emitQueuePositionEvents_ok_iff.mp isAnnounced).1, (insertSimulationEvents_ok_iff.mp isReported).1,
          (updateSimulations_ok_iff.mp isMoved).2.1, startedTables]
      rfl

/-- A queued job is started when no job is active. -/
theorem startJob_accepts {attemptId leaseToken : String} {leaseSeconds : Int} (coherent : store.view.Coherent)
    (numbered : EventsNumbered store) (member : job ∈ store.tables.workerJobs) (queued : job.status = .queued)
    (idle : ∀ other ∈ store.tables.workerJobs, other.status.isActive = false) :
    exists result claimed, startJob now attemptId leaseToken leaseSeconds job store = .ok (result, some claimed) := by
  rcases @updateJobs_accepts_slot store now (fun other => other.jobId = job.jobId)
    (fun job => { job with
      status := .running, attemptId := some attemptId, lastAttemptId := some attemptId
      leaseToken := some leaseToken, leaseExpiresAt := some (now + seconds leaseSeconds), lastHeartbeatAt := some now })
    (fun _ => rfl) (fun _ _ _ => rfl)
    (atMostOne_of_update store.unique.jobId (fun _ => rfl) (fun _ selected => of_decide_eq_true selected) idle) with
    ⟨claimed, isClaimed⟩
  rcases updateJobs_ok_iff.mp isClaimed with ⟨claimedTables, claimedSequences⟩
  unfold startJob
  rw [isClaimed, ok_bind]
  dsimp only
  cases kind : job.jobType with
  | datasetPreflight =>
      exact ⟨claimed, _, rfl⟩
  | simulation =>
      dsimp only
      rcases job_run_agree coherent member kind with ⟨row, rowMember, present, sameStatus⟩
      rw [queued] at sameStatus
      have idleRuns : ∀ other ∈ store.tables.simulations, other.status.isExecution = false := by
        intro other otherMember
        rcases run_job_agree coherent otherMember with ⟨owner, ownerMember, _, _, agrees⟩
        have inactive := idle owner ownerMember
        rw [agrees]
        revert inactive
        cases owner.status <;> decide
      have sameRuns : claimed.tables.simulations = store.tables.simulations := by rw [claimedTables]
      rcases @updateSimulations_accepts_slot claimed now
        (fun other => job.runId = some other.runId && other.status = .queued)
        (fun other => { other with
          status := .running, currentStage := some .preprocessing, startedAt := some (other.startedAt.getD now)
          lastHeartbeatAt := some now, attemptId := some attemptId })
        (fun _ => rfl)
        (fun other _ selected => by
          rw [(of_decide_eq_true (Bool.and_eq_true_iff.mp selected).2 : other.status = .queued)]
          rfl)
        (fun _ _ _ => ⟨rfl, fun completed => (by cases completed)⟩)
        (atMostOne_of_update claimed.unique.runId (fun _ => rfl)
          (fun _ selected => (Option.some.inj
            (present.symm.trans (of_decide_eq_true (Bool.and_eq_true_iff.mp selected).1))).symm)
          (fun other otherMember => idleRuns other (by rw [← sameRuns]; exact otherMember))) with ⟨started, isStarted⟩
      have startedTables := (updateSimulations_ok_iff.mp isStarted).2.1
      have selected : (claimed.tables.simulations.any fun other => job.runId = some other.runId && other.status = .queued) =
          true := by
        rw [sameRuns]
        exact List.any_eq_true.mpr ⟨row, rowMember, Bool.and_eq_true_iff.mpr
          ⟨decide_eq_true present, decide_eq_true sameStatus⟩⟩
      have keeps : KeepsRows store started :=
        (updateJobs_keeps isClaimed fun _ => rfl).trans (updateSimulations_keeps isStarted fun _ => rfl)
      rcases @insertSimulationEvents_accepts started now
        [stateEvent (job.runId.getD "") [("previous_status", .string "QUEUED"), ("status", .string "RUNNING")]]
        (keeps.events numbered) (fun value isValue => by
          rcases keeps.run_target rowMember with ⟨later, laterMember, same⟩
          refine ⟨later, laterMember, (congrArg RunAdmission.runId same).trans ?_⟩
          rw [List.mem_singleton.mp isValue, present]
          rfl) with ⟨reported, isReported⟩
      rcases @emitQueuePositionEvents_accepts reported now
        ((keeps.trans (insertSimulationEvents_keeps isReported)).events numbered) with ⟨announced, isAnnounced⟩
      rw [isStarted, ok_bind, require_of _ selected, ok_bind, isReported, ok_bind, isAnnounced, ok_bind]
      exact ⟨announced, _, rfl⟩

/-! ## The claim -/

/-- A worker that is registered and was seen of late asks under a valid name for its attempt. -/
structure Asks (now : Instant) (workerId attemptId leaseToken : String) (leaseSeconds : Int) (store : Store) : Prop where
  duration : 1 ≤ leaseSeconds ∧ leaseSeconds ≤ 600
  identity : isIdentifier attemptId = true ∧ 16 ≤ leaseToken.length
  seen : ∃ row ∈ store.tables.workerInstances, row.workerId = workerId ∧ now - seconds leaseSeconds < row.lastHeartbeatAt

/-- Some job is executed, under a lease that lives. -/
def occupied (now : Instant) (tables : Tables) : Bool :=
  tables.workerJobs.any fun job => job.status.isActive && job.leaseLive now

/-- The jobs that wait. -/
def waitingJobs (tables : Tables) : List WorkerJob :=
  tables.workerJobs.filter fun job => job.status = .queued

theorem Recovers.occupied (recovered : Recovers now store result) : occupied now result.tables = occupied now store.tables := by
  apply Bool.eq_iff_iff.mpr
  unfold Queue.occupied
  rw [List.any_eq_true, List.any_eq_true]
  constructor
  · rintro ⟨job, member, holds⟩
    exact ⟨job, (recovered.live member (Bool.and_eq_true_iff.mp holds).1).1, holds⟩
  · rintro ⟨job, member, holds⟩
    refine ⟨job, ?_, holds⟩
    rw [recovered.jobs]
    apply mem_update_other member
    rcases Bool.and_eq_true_iff.mp holds with ⟨active, live⟩
    rcases Option.isSome_iff_exists.mp (leased_of_active member active).2.2 with ⟨expiry, present⟩
    rw [WorkerJob.leaseLive, present] at live
    rw [isExpired, active, WorkerJob.leaseExpired, present]
    exact decide_eq_false (Int.not_le_of_gt (of_decide_eq_true live))

/-- What a claim leaves: who was handed out, who goes on waiting, and how the lost runs ended. -/
structure Serves (now : Instant) (store result : Store) (claimed : Option ClaimedJob) : Prop where
  handedOut : claimed.map ClaimedJob.jobId =
    if occupied now store.tables then none else (nextQueuedJob? store.tables.workerJobs).map WorkerJob.jobId
  waiting : waitingJobs result.tables =
    (waitingJobs store.tables).filter fun job => claimed.map ClaimedJob.jobId ≠ some job.jobId
  settled : ∀ job ∈ store.tables.workerJobs, isExpired now job = true -> forall runId, job.runId = some runId ->
    Finished runId (if isCancellationRequested store.tables.simulations job then .cancelled else .failedRecoverable)
      result.view

/-- What is noted of the workers changes nothing of the queue. -/
theorem updateInstances_sound {selects : WorkerInstance -> Bool} {assign : WorkerInstance -> WorkerInstance}
    (coherent : store.view.Coherent) (numbered : EventsNumbered store) (workerEvents : WorkerEventsNumbered store)
    (accepted : updateInstances selects assign store = .ok result) :
    result.view.Coherent ∧ EventsNumbered result ∧ WorkerEventsNumbered result := by
  rcases updateInstances_ok_iff.mp accepted with ⟨tables, sequences⟩
  refine ⟨?_, ?_, ?_⟩
  · rw [updateInstances_view accepted]
    exact coherent
  · unfold EventsNumbered
    rw [tables, sequences]
    exact numbered
  · unfold WorkerEventsNumbered
    rw [tables, sequences]
    exact workerEvents

/-- A worker that may ask is answered. -/
theorem claim_serves {workerId attemptId leaseToken : String} {leaseSeconds : Int} (coherent : store.view.Coherent)
    (numbered : EventsNumbered store) (workerEvents : WorkerEventsNumbered store)
    (asks : Asks now workerId attemptId leaseToken leaseSeconds store) :
    exists result claimed, workerClaimNextJobForWorker now workerId attemptId leaseToken leaseSeconds store =
      .ok (result, claimed) ∧ Serves now store result claimed := by
  rcases updateInstances_liveness now (fun row : WorkerInstance =>
    row.workerId = workerId && row.workerContractVersion = "worker.task.v1" &&
      now - seconds leaseSeconds < row.lastHeartbeatAt) store with ⟨seen, isSeen⟩
  have seenTables := (updateInstances_ok_iff.mp isSeen).1
  have seenJobs : seen.tables.workerJobs = store.tables.workerJobs := by rw [seenTables]
  have seenRuns : seen.tables.simulations = store.tables.simulations := by rw [seenTables]
  have known : (store.tables.workerInstances.any fun row =>
      row.workerId = workerId && row.workerContractVersion = "worker.task.v1" &&
        now - seconds leaseSeconds < row.lastHeartbeatAt) = true := by
    rcases asks.seen with ⟨row, rowMember, sameWorker, fresh⟩
    refine List.any_eq_true.mpr ⟨row, rowMember, Bool.and_eq_true_iff.mpr ⟨Bool.and_eq_true_iff.mpr ⟨?_, ?_⟩, ?_⟩⟩
    · exact decide_eq_true sameWorker
    · exact decide_eq_true (store.checks.workerInstances row rowMember).2.1
    · exact decide_eq_true fresh
  rcases updateInstances_sound coherent numbered workerEvents isSeen with ⟨seenCoherent, seenNumbered, seenWorkerEvents⟩
  rcases @recovery_accepts seen now seenCoherent seenNumbered seenWorkerEvents with ⟨recovered, count, isRecovered, recovers⟩
  have recoveredCoherent : recovered.view.Coherent :=
    (workerRecoverExpiredLeases_steps seenCoherent isRecovered).coherent seenCoherent
  have recoveredNumbered : EventsNumbered recovered :=
    (workerRecoverExpiredLeases_framed keepsRows_framed isRecovered).events seenNumbered
  have sameWaiting : waitingJobs recovered.tables = waitingJobs store.tables := by
    unfold waitingJobs
    rw [recovers.queued, seenJobs]
  have sameNext : nextQueuedJob? recovered.tables.workerJobs = nextQueuedJob? store.tables.workerJobs := by
    unfold nextQueuedJob?
    rw [recovers.queued, seenJobs]
  have sameOccupied : occupied now recovered.tables = occupied now store.tables := by
    rw [recovers.occupied]
    unfold occupied
    rw [seenJobs]
  have settled : ∀ job ∈ store.tables.workerJobs, isExpired now job = true -> forall runId, job.runId = some runId ->
      Finished runId (if isCancellationRequested store.tables.simulations job then .cancelled else .failedRecoverable)
        recovered.view := by
    intro job member expired runId present
    rw [← seenJobs] at member
    rw [← seenRuns]
    exact recovers.settles seenCoherent member expired present
  have kept : waitingJobs recovered.tables = (waitingJobs store.tables).filter fun job =>
      (none : Option ClaimedJob).map ClaimedJob.jobId ≠ some job.jobId := by
    rw [sameWaiting]
    exact (List.filter_eq_self.mpr fun _ _ => rfl).symm
  rw [workerClaimNextJobForWorker, require_of _ asks.duration, ok_bind, require_of _ asks.identity, ok_bind]
  dsimp only
  rw [isSeen, ok_bind, require_of _ known, ok_bind, requireScheduler_accepts seenCoherent, ok_bind, isRecovered, ok_bind]
  dsimp only
  by_cases busy : occupied now recovered.tables = true
  · refine ⟨recovered, none, if_pos busy, ?_, kept, settled⟩
    rw [← sameOccupied, if_pos busy]
    rfl
  · rw [if_neg (by exact busy)]
    cases next : nextQueuedJob? recovered.tables.workerJobs with
    | none =>
        refine ⟨recovered, none, rfl, ?_, kept, settled⟩
        rw [← sameOccupied, if_neg busy, ← sameNext, next]
        rfl
    | some job =>
        rcases nextQueuedJob?_some next with ⟨member, queued, _⟩
        have idle : ∀ other ∈ recovered.tables.workerJobs, other.status.isActive = false := by
          intro other otherMember
          rw [Bool.eq_false_iff]
          intro active
          exact busy (List.any_eq_true.mpr ⟨other, otherMember, Bool.and_eq_true_iff.mpr
            ⟨active, (recovers.live otherMember active).2⟩⟩)
        rcases @startJob_accepts recovered now job attemptId leaseToken leaseSeconds recoveredCoherent recoveredNumbered
          member queued idle with ⟨started, claimed, isStarted⟩
        rcases startJob_starts isStarted with ⟨sameJob, _, startedJobs, _⟩
        refine ⟨started, some claimed, isStarted, ?_, ?_, fun other otherMember expired runId present =>
          (settled other otherMember expired runId present).steps
            (startJob_steps recoveredCoherent member queued isStarted) recoveredCoherent⟩
        · rw [← sameOccupied, if_neg busy, ← sameNext, next, Option.map_some, Option.map_some, sameJob]
        · rw [← sameWaiting, Option.map_some, sameJob]
          unfold waitingJobs
          rw [startedJobs, filter_update_dropped fun _ _ _ => rfl]
          apply List.filter_congr
          intro other _
          rw [← decide_not]
          exact decide_eq_decide.mpr ⟨fun apart same => apart (Option.some.inj same).symm,
            fun apart same => apart (congrArg some same.symm)⟩

/-- In every reachable store a claim is answered exactly when the worker may ask.  It hands out the head of the queue, or
nothing while a lease lives, takes nobody else off the queue, and ends the runs whose leases have run out. -/
theorem claim_answers (reachable : Reachable platform store) (workerId attemptId leaseToken : String) (leaseSeconds : Int) :
    (Asks now workerId attemptId leaseToken leaseSeconds store ∧
      exists result claimed, execute platform now (.claim workerId attemptId leaseToken leaseSeconds) store =
        .ok (result, .claimed claimed) ∧ Serves now store result claimed) ∨
    (¬Asks now workerId attemptId leaseToken leaseSeconds store ∧
      exists fault, execute platform now (.claim workerId attemptId leaseToken leaseSeconds) store = .error fault) := by
  by_cases asks : Asks now workerId attemptId leaseToken leaseSeconds store
  · rcases claim_serves (reachable_coherent reachable) (reachable_eventsNumbered reachable)
      (reachable_workerEventsNumbered reachable)
      asks with ⟨result, claimed, accepted, serves⟩
    exact Or.inl ⟨asks, result, claimed, answer_ok_iff.mpr ⟨claimed, Fault.ofPg_ok_iff.mpr accepted, rfl⟩, serves⟩
  · refine Or.inr ⟨asks, ?_⟩
    cases outcome : execute platform now (.claim workerId attemptId leaseToken leaseSeconds) store with
    | error fault => exact ⟨fault, rfl⟩
    | ok reply =>
        rcases answer_ok_iff.mp outcome with ⟨_, done, _⟩
        have accepted := Fault.ofPg_ok_iff.mp done
        unfold workerClaimNextJobForWorker at accepted
        simp only [bind_ok_iff, require_ok_iff, exists_const] at accepted
        rcases accepted with ⟨duration, identity, _, _, known, _⟩
        rcases List.any_eq_true.mp known with ⟨row, member, matched⟩
        rcases Bool.and_eq_true_iff.mp matched with ⟨named, fresh⟩
        exact absurd ⟨duration, identity, row, member, of_decide_eq_true (Bool.and_eq_true_iff.mp named).1,
          of_decide_eq_true fresh⟩ asks

/-- The worker stops with its run, and asks again when its lease has run out. -/
theorem claim_answers_sample : exists result claimed,
    execute samplePlatform (5 + seconds 60) (.claim "worker-1" "attempt_3" "lease-token-0003" 600) sampleStore =
      .ok (result, .claimed claimed) ∧ claimed.map ClaimedJob.jobId = none ∧
    Finished "run_1" .failedRecoverable result.view := by
  have facts : (∃ row ∈ sampleStore.tables.workerInstances, row.workerId = "worker-1" ∧
        5 + seconds 60 - seconds 600 < row.lastHeartbeatAt) ∧
      (nextQueuedJob? sampleStore.tables.workerJobs).map WorkerJob.jobId = none ∧
      ∃ job ∈ sampleStore.tables.workerJobs, isExpired (5 + seconds 60) job = true ∧ job.runId = some "run_1" ∧
        isCancellationRequested sampleStore.tables.simulations job = false := by decide +kernel
  rcases facts with ⟨seen, nobody, job, member, expired, present, unasked⟩
  rcases @claim_answers samplePlatform sampleStore (5 + seconds 60) sampleStore_reachable "worker-1" "attempt_3"
      "lease-token-0003" 600 with
    ⟨_, result, claimed, accepted, serves⟩ | ⟨refused, _⟩
  · refine ⟨result, claimed, accepted, ?_, ?_⟩
    · rw [serves.handedOut, nobody, ite_self]
    · have settled := serves.settled job member expired "run_1" present
      rw [unasked] at settled
      exact settled
  · exact absurd ⟨by decide, by decide +kernel, seen⟩ refused

/-! ## Bounded waiting -/

/-- A history in which a worker asks so many times while no lease lives, with any transactions in between. -/
inductive Polled (platform : Platform) : Nat -> Store -> Store -> Prop
  | done (store : Store) : Polled platform 0 store store
  | between {count : Nat} {store middle result : Store} {call : Call} :
      Transaction platform store call middle -> Polled platform count middle result -> Polled platform count store result
  | poll {count : Nat} {store middle result : Store} {now : Instant} {workerId attemptId leaseToken : String}
      {leaseSeconds : Int} {outcome : Except Fault Reply} :
      Asks now workerId attemptId leaseToken leaseSeconds store -> occupied now store.tables = false ->
        Transaction platform store ⟨now, .claim workerId attemptId leaseToken leaseSeconds, outcome⟩ middle ->
          Polled platform count middle result -> Polled platform (count + 1) store result

/-- The jobs that wait up to a place, with the one that has it. -/
def ahead (place : Nat) (tables : Tables) : List String :=
  ((waitingJobs tables).filter fun job => job.enqueueSeq ≤ place).map WorkerJob.jobId

theorem mem_ahead {place : Nat} {tables : Tables} {jobId : String} : jobId ∈ ahead place tables ↔
    ∃ job ∈ tables.workerJobs, job.status = .queued ∧ job.enqueueSeq ≤ place ∧ job.jobId = jobId := by
  unfold ahead waitingJobs
  simp only [List.mem_map, List.mem_filter, decide_eq_true_eq, and_assoc]

theorem ahead_nodup (place : Nat) (store : Store) : (ahead place store.tables).Nodup :=
  List.Nodup.sublist ((List.filter_sublist.trans List.filter_sublist).map _) store.unique.jobId

/-- Nobody overtakes. -/
theorem ahead_step {place : Nat} {call : Call} (reachable : Reachable platform store)
    (step : Transaction platform store call result) (drawn : place ≤ store.sequences.enqueueSequence) :
    ahead place result.tables ⊆ ahead place store.tables := by
  intro jobId inside
  rcases mem_ahead.mp inside with ⟨job, member, queued, within, same⟩
  rcases step.effect.job_source member with ⟨old, oldMember, sameAdmission⟩ | ⟨_, last⟩
  · have sameId : old.jobId = job.jobId := congrArg JobAdmission.jobId sameAdmission
    have samePlace : old.enqueueSeq = job.enqueueSeq := congrArg JobAdmission.enqueueSeq sameAdmission
    exact mem_ahead.mpr ⟨old, oldMember, queued_before reachable step oldMember member sameId queued,
      samePlace.le.trans within,
      sameId.trans same⟩
  · omega

/-- A poll takes one of the jobs that wait up to a place, when there is one. -/
theorem ahead_served {place : Nat} {claimed : Option ClaimedJob} (serves : Serves now store result claimed)
    (free : occupied now store.tables = false) {jobId : String} (inside : jobId ∈ ahead place store.tables) :
    exists served, served ∈ ahead place store.tables ∧ served ∉ ahead place result.tables := by
  rcases mem_ahead.mp inside with ⟨job, member, queued, within, _⟩
  have handed := serves.handedOut
  rw [free, if_neg Bool.false_ne_true] at handed
  cases next : nextQueuedJob? store.tables.workerJobs with
  | none =>
      have nothing := List.head?_eq_none_iff.mp next
      have waits : job ∈ (store.tables.workerJobs.filter fun job => job.status = .queued).insertionSort fun left right =>
          left.enqueueSeq ≤ right.enqueueSeq :=
        List.mem_insertionSort _ |>.mpr (List.mem_filter.mpr ⟨member, decide_eq_true queued⟩)
      rw [nothing] at waits
      cases waits
  | some first =>
      rcases nextQueuedJob?_some next with ⟨firstMember, firstQueued, least⟩
      refine ⟨first.jobId, mem_ahead.mpr ⟨first, firstMember, firstQueued, (least job member queued).trans within, rfl⟩, ?_⟩
      intro still
      rcases mem_ahead.mp still with ⟨later, laterMember, laterQueued, _, same⟩
      have waits : later ∈ waitingJobs result.tables := List.mem_filter.mpr ⟨laterMember, decide_eq_true laterQueued⟩
      rw [serves.waiting, List.mem_filter, handed, next, Option.map_some, same] at waits
      exact of_decide_eq_true waits.2 rfl

theorem ahead_bound {place count : Nat} (polled : Polled platform count store result) {jobId : String}
    (reachable : Reachable platform store) (has : HasPlace jobId place store)
    (few : (ahead place store.tables).length ≤ count) :
    jobId ∉ ahead place result.tables := by
  induction polled with
  | done store =>
      rw [List.eq_nil_of_length_eq_zero (Nat.le_zero.mp few)]
      exact List.not_mem_nil
  | @between count store middle result call step _ inductionHypothesis =>
      rcases has with ⟨job, member, same, rfl⟩
      have fewer := List.subperm_of_subset (ahead_nodup job.enqueueSeq middle)
        (ahead_step reachable step (reachable_placesDrawn reachable job member))
      exact inductionHypothesis (reachable.step step) (HasPlace.effect ⟨job, member, same, rfl⟩ step.effect)
        (fewer.length_le.trans few)
  | @poll count store middle result now workerId attemptId leaseToken leaseSeconds outcome asks free step _
      inductionHypothesis =>
      rcases has with ⟨job, member, same, rfl⟩
      have drawn := reachable_placesDrawn reachable job member
      refine inductionHypothesis (reachable.step step) (HasPlace.effect ⟨job, member, same, rfl⟩ step.effect) ?_
      rcases claim_serves (reachable_coherent reachable) (reachable_eventsNumbered reachable)
        (reachable_workerEventsNumbered reachable) asks with ⟨target, claimed, accepted, serves⟩
      have isTarget : middle = target := by
        cases step with
        | committed done =>
            rcases answer_ok_iff.mp done with ⟨_, isDone, _⟩
            have both := (Fault.ofPg_ok_iff.mp isDone).symm.trans accepted
            exact congrArg Prod.fst (Except.ok.inj both)
        | rolledBack refused _ _ =>
            have both := Fault.ofPg_ok_iff.mpr accepted
            rw [execute, both] at refused
            cases refused
      rw [← isTarget] at serves
      have subset := ahead_step reachable step drawn
      cases nobody : ahead job.enqueueSeq store.tables with
      | nil =>
          rw [nobody] at subset
          rw [List.subset_nil.mp subset]
          exact Nat.zero_le count
      | cons first rest =>
          have inside : first ∈ ahead job.enqueueSeq store.tables := by
            rw [nobody]
            exact List.mem_cons_self
          rcases ahead_served serves free inside with ⟨served, wasIn, isOut⟩
          have both := List.subperm_of_subset (List.nodup_cons.mpr ⟨isOut, ahead_nodup job.enqueueSeq middle⟩)
            (List.cons_subset.mpr ⟨wasIn, subset⟩)
          have longer := both.length_le
          rw [List.length_cons] at longer
          omega

theorem Polled.run {count : Nat} (polled : Polled platform count store result) :
    exists calls, (queueSystem platform).Run store calls result := by
  induction polled with
  | done store => exact ⟨[], System.Run.nil store⟩
  | between step _ inductionHypothesis | poll _ _ step _ inductionHypothesis =>
      rcases inductionHypothesis with ⟨calls, run⟩
      exact ⟨_ :: calls, System.Run.cons step run⟩

/-- A job among the first so many of the queue has left it after so many polls, whatever is admitted, cancelled, reported,
renewed or lost in between. -/
theorem bounded_waiting {count : Nat} (reachable : Reachable platform store) (polled : Polled platform count store result)
    (waits : job ∈ waitingJobs store.tables) (among : (ahead job.enqueueSeq store.tables).length ≤ count) :
    ∀ later ∈ waitingJobs result.tables, later.jobId ≠ job.jobId := by
  intro later laterWaits same
  have has : HasPlace job.jobId job.enqueueSeq store := ⟨job, (List.mem_filter.mp waits).1, rfl, rfl⟩
  rcases polled.run with ⟨calls, run⟩
  rcases has.run run with ⟨kept, keptMember, sameKept, samePlace⟩
  rcases List.mem_filter.mp laterWaits with ⟨laterMember, queued⟩
  have isKept : later = kept := result.unique.jobId.eq_of_mem laterMember keptMember (same.trans sameKept.symm)
  rw [← isKept] at samePlace
  exact ahead_bound polled reachable has among
    (mem_ahead.mpr ⟨later, laterMember, of_decide_eq_true queued, samePlace.le, same⟩)

/-- The admitted run has left the queue after one poll. -/
theorem bounded_waiting_sample : ((waitingJobs sampleStore.tables).all fun later => later.jobId ≠ "job_2") = true := by
  have facts : (∃ job ∈ waitingJobs admittedStore.tables, job.jobId = "job_2" ∧
        (ahead job.enqueueSeq admittedStore.tables).length ≤ 1) ∧
      (∃ row ∈ admittedStore.tables.workerInstances, row.workerId = "worker-1" ∧ 5 - seconds 60 < row.lastHeartbeatAt) ∧
      occupied 5 admittedStore.tables = false := by decide +kernel
  rcases facts with ⟨⟨job, member, isJob, among⟩, seen, free⟩
  have step : exists outcome, Transaction samplePlatform admittedStore
      ⟨5, .claim "worker-1" "attempt_2" "lease-token-0002" 60, outcome⟩ sampleStore := by
    have whole : sampleStore = settleCall samplePlatform admittedStore
        (5, .claim "worker-1" "attempt_2" "lease-token-0002" 60) := rfl
    rw [whole, settleCall]
    cases outcome : execute samplePlatform 5 (.claim "worker-1" "attempt_2" "lease-token-0002" 60) admittedStore with
    | ok reply => exact ⟨_, Transaction.committed outcome⟩
    | error fault => exact ⟨_, Transaction.rolledBack outcome rfl (Sequences.AtMost.refl _)⟩
  rcases step with ⟨outcome, step⟩
  have reachable : Reachable samplePlatform admittedStore := replay_reachable _ (System.Reachable.of_initial ⟨0, rfl⟩)
  rw [← isJob]
  refine List.all_eq_true.mpr fun later waits => decide_eq_true ?_
  exact bounded_waiting reachable (Polled.poll ⟨by decide, by decide +kernel, seen⟩ free step (Polled.done sampleStore))
    member among later waits

end Queue
end FederatedIot
