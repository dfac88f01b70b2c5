import FederatedIot.Queue.Invariant

namespace FederatedIot
namespace Queue

open Foundation Foundation.Relation Foundation.Outcome

/-!
# Fencing of workers and absorption of settled jobs

A job leaves the queue once: no transaction puts it back, so it is claimed at
most once in any history.  A settled job has no lease, so a worker that still
carries its old lease is told `FALSE` by every function and changes nothing
but its own liveness.  A settled run keeps its status for ever.
-/

variable {platform : Platform} {store result : Store}

/-! ## Jobs leave the queue once -/

/-- The job has left the queue. -/
def Started (jobId : String) (view : View) : Prop :=
  ∃ job ∈ view.jobs, job.jobId = jobId ∧ job.status ≠ .queued

/-- The job is settled. -/
def Settled (jobId : String) (view : View) : Prop :=
  ∃ job ∈ view.jobs, job.jobId = jobId ∧ job.status.isTerminal = true

theorem runAdvance_ne_queued {status next : JobStatus} (advance : View.RunAdvance status next) :
    next ≠ .queued := by
  rintro rfl
  cases advance with
  | settle terminal => cases terminal

theorem preflightAdvance_ne_queued {status next : JobStatus}
    (advance : View.PreflightAdvance status next) : next ≠ .queued := by
  rintro rfl
  cases advance with
  | settle terminal => cases terminal

theorem Started.step {view target : View} {jobId : String} (started : Started jobId view)
    (step : View.Step view target) : Started jobId target := by
  rcases started with ⟨job, member, same, left⟩
  rcases step.job_cases member with ⟨after, afterMember, sameAfter, unchanged | advance | advance⟩
  · rw [unchanged] at afterMember
    exact ⟨job, afterMember, same, left⟩
  · exact ⟨after, afterMember, sameAfter.trans same, runAdvance_ne_queued advance⟩
  · exact ⟨after, afterMember, sameAfter.trans same, preflightAdvance_ne_queued advance⟩

theorem Settled.step {view target : View} {jobId : String} (settled : Settled jobId view)
    (step : View.Step view target) : Settled jobId target := by
  rcases settled with ⟨job, member, same, terminal⟩
  rcases step.job_cases member with ⟨after, afterMember, sameAfter, unchanged | advance | advance⟩
  · rw [unchanged] at afterMember
    exact ⟨job, afterMember, same, terminal⟩
  · rw [advance.not_terminal] at terminal
    cases terminal
  · rw [advance.not_terminal] at terminal
    cases terminal

theorem Started.steps {view target : View} {jobId : String} (started : Started jobId view)
    (steps : Steps view target) : Started jobId target := by
  induction steps with
  | refl => exact started
  | tail _ step inductionHypothesis => exact inductionHypothesis.step step

theorem Settled.steps {view target : View} {jobId : String} (settled : Settled jobId view)
    (steps : Steps view target) : Settled jobId target := by
  induction steps with
  | refl => exact settled
  | tail _ step inductionHypothesis => exact inductionHypothesis.step step

/-! ## Claims -/

/-- The transaction hands out the job. -/
def claimsJob (jobId : String) (call : Call) : Bool :=
  match call.outcome with
  | .ok (.claimed (some job)) => job.jobId = jobId
  | _ => false

/-- Starting a job marks exactly its row as running. -/
theorem startJob_jobs {now : Instant} {attemptId leaseToken : String} {leaseSeconds : Int}
    {job : WorkerJob} {reply : Option ClaimedJob}
    (accepted : startJob now attemptId leaseToken leaseSeconds job store = .ok (result, reply)) :
    result.view.jobs = (store.view.setJob job.jobId .running).jobs ∧
      ∃ claimed, reply = some claimed ∧ claimed.jobId = job.jobId := by
  unfold startJob at accepted
  rw [bind_ok_iff] at accepted
  rcases accepted with ⟨claimed, claimedAccepted, accepted⟩
  have claimedView : claimed.view = store.view.setJob job.jobId .running :=
    updateJobs_setJob claimedAccepted (fun _ _ => rfl) fun _ _ _ => rfl
  cases kind : job.jobType with
  | datasetPreflight =>
      rw [kind] at accepted
      simp only [pure_ok_iff, Prod.mk.injEq] at accepted
      rcases accepted with ⟨rfl, rfl⟩
      exact ⟨congrArg View.jobs claimedView, _, rfl, rfl⟩
  | simulation =>
      rw [kind] at accepted
      simp only [bind_ok_iff, require_ok_iff, exists_const, pure_ok_iff, Prod.mk.injEq] at accepted
      rcases accepted with ⟨started, startedAccepted, _, reported, reportedAccepted, announced,
        announcedAccepted, rfl, rfl⟩
      refine ⟨?_, _, rfl, rfl⟩
      rw [emitQueuePositionEvents_view announcedAccepted,
        insertSimulationEvents_view reportedAccepted, ← claimedView]
      unfold Store.view Tables.view
      rw [(updateSimulations_ok_iff.mp startedAccepted).2.1]

/-- A claim that hands out a job takes it from the queue. -/
theorem workerClaimNextJobForWorker_claims {now : Instant}
    {workerId attemptId leaseToken : String} {leaseSeconds : Int} {claimed : ClaimedJob}
    (coherent : store.view.Coherent)
    (accepted : workerClaimNextJobForWorker now workerId attemptId leaseToken leaseSeconds store =
      .ok (result, some claimed)) :
    ¬Started claimed.jobId store.view ∧ Started claimed.jobId result.view := by
  unfold workerClaimNextJobForWorker at accepted
  simp only [bind_ok_iff, require_ok_iff, exists_const] at accepted
  rcases accepted with ⟨_, _, seen, seenAccepted, _, accepted⟩
  simp only [requireScheduler_ok_iff, exists_const] at accepted
  rcases accepted with ⟨_, ⟨recovered, count⟩, recoveredAccepted, accepted⟩
  have recovery : Steps store.view recovered.view := by
    have seenView := updateInstances_view seenAccepted
    rw [← seenView] at coherent ⊢
    exact workerRecoverExpiredLeases_steps coherent recoveredAccepted
  split at accepted
  · cases accepted
  · split at accepted
    · cases accepted
    · rename_i job selected
      rcases nextQueuedJob?_some selected with ⟨member, queued, _⟩
      rcases startJob_jobs accepted with ⟨jobs, _, same, sameJob⟩
      cases same
      rw [sameJob]
      constructor
      · -- The recovered store still holds the job as queued.
        intro started
        rcases started.steps recovery with ⟨view, viewMember, sameView, left⟩
        rcases List.mem_map.mp viewMember with ⟨other, otherMember, rfl⟩
        rw [recovered.unique.jobId.eq_of_mem otherMember member sameView] at left
        exact left queued
      · refine ⟨View.advanced .running job.view, ?_, rfl, fun same => (by cases same)⟩
        rw [jobs]
        exact mem_update_selected (List.mem_map_of_mem member) (decide_eq_true rfl)

/-- Only a claim hands out a job. -/
theorem claim_of_claimed {now : Instant} {operation : Operation} {claimed : ClaimedJob}
    (accepted : execute platform now operation store = .ok (result, .claimed (some claimed))) :
    ∃ workerId attemptId leaseToken leaseSeconds,
      workerClaimNextJobForWorker now workerId attemptId leaseToken leaseSeconds store =
        .ok (result, some claimed) := by
  cases operation with
  | claim workerId attemptId leaseToken leaseSeconds =>
      rcases answer_ok_iff.mp accepted with ⟨inner, done, same⟩
      cases same
      exact ⟨workerId, attemptId, leaseToken, leaseSeconds, Fault.ofPg_ok_iff.mp done⟩
  | registerDataset | createSimulation | cancelSimulation | saveParameterProfile
  | saveLoadMapping | registerInstance | heartbeatInstance | heartbeat | reportEvent
  | completePreflight | confirmCancel | failJob | commitSimulation | recoverExpiredLeases =>
      rcases answer_ok_iff.mp accepted with ⟨_, _, same⟩
      cases same

theorem claimsJob_spends {call : Call} {jobId : String} (coherent : store.view.Coherent)
    (step : Transaction platform store call result) (claims : claimsJob jobId call = true) :
    ¬Started jobId store.view ∧ Started jobId result.view := by
  cases step with
  | rolledBack => cases claims
  | committed accepted =>
      unfold claimsJob at claims
      split at claims
      · rename_i claimed outcome
        cases outcome
        rcases claim_of_claimed accepted with ⟨_, _, _, _, done⟩
        rw [← of_decide_eq_true claims]
        exact workerClaimNextJobForWorker_claims coherent done
      · cases claims

/-- A job is claimed at most once in a history. -/
theorem claimed_once {jobId : String} {calls : List Call} (reachable : Reachable platform store)
    (run : (queueSystem platform).Run store calls result) :
    calls.countP (claimsJob jobId) ≤ 1 := by
  refine System.Reachable.once (fun store => Started jobId store.view) (claimsJob jobId) ?_ ?_ ?_
    reachable run
  · intro source call target sourceReachable step started
    exact started.steps (step.steps (reachable_coherent sourceReachable))
  · intro source call target sourceReachable step started
    exact Bool.eq_false_iff.mpr fun claims =>
      (claimsJob_spends (reachable_coherent sourceReachable) step claims).1 started
  · intro source call target sourceReachable step claims
    exact (claimsJob_spends (reachable_coherent sourceReachable) step claims).2

/-! ## Worker calls for a settled job -/

/-- A call of one of the six worker functions with a lease on the job.  The
repository of a worker refuses to be built with another lease duration. -/
inductive WorkerCall (jobId : String) : Operation -> Prop
  | heartbeat {workerId attemptId leaseToken : String} {leaseSeconds : Int} :
      1 ≤ leaseSeconds ∧ leaseSeconds ≤ 600 ->
        WorkerCall jobId (.heartbeat workerId ⟨jobId, attemptId, leaseToken⟩ leaseSeconds)
  | reportEvent {attemptId leaseToken : String} {event : Json} :
      WorkerCall jobId (.reportEvent ⟨jobId, attemptId, leaseToken⟩ event)
  | completePreflight {attemptId leaseToken inputSha256 summarySha256 : String} {summary : Json} :
      WorkerCall jobId
        (.completePreflight ⟨jobId, attemptId, leaseToken⟩ inputSha256 summary summarySha256)
  | confirmCancel {attemptId leaseToken : String} :
      WorkerCall jobId (.confirmCancel ⟨jobId, attemptId, leaseToken⟩)
  | failJob {attemptId leaseToken : String} {error : Json} {recoverable : Bool} :
      WorkerCall jobId (.failJob ⟨jobId, attemptId, leaseToken⟩ error recoverable)
  | commitSimulation {attemptId leaseToken : String} {request : CommitRequest} :
      WorkerCall jobId (.commitSimulation ⟨jobId, attemptId, leaseToken⟩ request)

/-- The tables differ at most in the liveness of worker instances. -/
def OnlyLiveness (now : Instant) (before after : Tables) : Prop :=
  ∃ selects : WorkerInstance -> Bool,
    after = { before with
      workerInstances := update before.workerInstances selects fun row =>
        { row with lastHeartbeatAt := now } }

theorem OnlyLiveness.refl (now : Instant) (tables : Tables) : OnlyLiveness now tables tables := by
  refine ⟨fun _ => false, ?_⟩
  rw [update_eq_self]
  intro row _ selected
  cases selected

theorem isActive_of_isTerminal {status : JobStatus} (terminal : status.isTerminal = true) :
    status.isActive = false := by
  cases status with
  | completed | cancelled | failed | failedRecoverable => rfl
  | queued | running | cancelling => cases terminal

/-- Nobody holds a settled job, whatever lease is presented. -/
theorem not_holds_of_settled {now : Instant} {jobId : String} {lease : Lease}
    (settled : Settled jobId store.view) (same : lease.jobId = jobId) :
    ∀ job ∈ store.tables.workerJobs, lease.holds now job = false := by
  rcases settled with ⟨view, viewMember, sameJob, terminal⟩
  rcases List.mem_map.mp viewMember with ⟨settledJob, settledMember, rfl⟩
  intro job member
  apply Bool.eq_false_iff.mpr
  intro holds
  have sameRow : job = settledJob :=
    store.unique.jobId.eq_of_mem member settledMember
      ((Lease.holds_jobId holds).trans (same.trans sameJob.symm))
  have leased := (store.checks.workerJobs job member).2
  have present : job.isLeased = true := by
    unfold Lease.holds WorkerJob.leaseLive at holds
    simp only [Bool.and_eq_true, decide_eq_true_eq] at holds
    unfold WorkerJob.isLeased
    rw [holds.1.1.2, holds.1.2, Option.isSome_of_any holds.2]
    rfl
  have inactive : settledJob.status.isActive = false := isActive_of_isTerminal terminal
  rw [present, sameRow, inactive] at leased
  cases leased

theorem selectJob?_none {selects : WorkerJob -> Bool}
    (passed : ∀ job ∈ store.tables.workerJobs, selects job = false) :
    selectJob? selects store = none := by
  unfold selectJob?
  rw [List.find?_eq_none]
  intro job member selected
  rw [passed job member] at selected
  cases selected

/-- Marking worker instances as alive violates no constraint. -/
theorem updateInstances_liveness (now : Instant) (selects : WorkerInstance -> Bool)
    (store : Store) :
    ∃ seen, updateInstances selects (fun row => { row with lastHeartbeatAt := now }) store =
      .ok seen := by
  have checks : Tables.Checks { store.tables with
      workerInstances := update store.tables.workerInstances selects fun row =>
        { row with lastHeartbeatAt := now } } := by
    refine { store.checks with workerInstances := ?_ }
    intro row member
    rcases mem_update_cases member with ⟨old, oldMember, _, rfl⟩ | ⟨oldMember, _⟩
    · exact store.checks.workerInstances old oldMember
    · exact store.checks.workerInstances row oldMember
  have unique : Tables.Unique { store.tables with
      workerInstances := update store.tables.workerInstances selects fun row =>
        { row with lastHeartbeatAt := now } } :=
    { store.unique with workerId := store.unique.workerId.update fun _ => rfl }
  exact ⟨⟨_, store.sequences, checks, unique, { store.foreign with }⟩,
    Store.install_ok_iff.mpr ⟨rfl, rfl⟩⟩

/-- A heartbeat of a lease that nobody holds marks the worker as alive and
refuses. -/
theorem workerHeartbeatForWorker_absorbed {now : Instant} {lease : Lease} {leaseSeconds : Int}
    (workerId : String) (duration : 1 ≤ leaseSeconds ∧ leaseSeconds ≤ 600)
    (lost : ∀ job ∈ store.tables.workerJobs, lease.holds now job = false) :
    ∃ result, workerHeartbeatForWorker now workerId lease leaseSeconds store = .ok (result, false) ∧
      OnlyLiveness now store.tables result.tables := by
  rcases updateInstances_liveness now
    (fun row => row.workerId = workerId && row.workerContractVersion = "worker.task.v1") store with
    ⟨seen, seenAccepted⟩
  have seenTables := (updateInstances_ok_iff.mp seenAccepted).1
  have passed : ∀ job ∈ seen.tables.workerJobs,
      (lease.holds now job && job.status.isActive) = false := by
    intro job member
    rw [seenTables] at member
    rw [lost job member, Bool.false_and]
  refine ⟨seen, ?_, _, seenTables⟩
  unfold workerHeartbeatForWorker
  rw [require_of _ duration]
  change (updateInstances _ _ store >>= _) = _
  rw [seenAccepted]
  change (if _ then _ else _) = _
  split
  · have renewed : updateJobs now (fun job => lease.holds now job && job.status.isActive)
        (fun job => { job with
          leaseExpiresAt := some (now + seconds leaseSeconds), lastHeartbeatAt := some now }) seen =
        .ok seen := by
      rw [updateJobs_ok_iff, update_eq_self]
      · exact ⟨rfl, rfl⟩
      · intro job member selected
        rw [passed job member] at selected
        cases selected
    have nobody : seen.tables.workerJobs.any
        (fun job => lease.holds now job && job.status.isActive) = false := by
      rw [List.any_eq_false]
      intro job member
      exact Bool.eq_false_iff.mp (passed job member)
    rw [renewed]
    change (if _ then _ else _) = _
    rw [nobody]
    rfl
  · rfl

theorem workerReportEvent_absorbed {now : Instant} {lease : Lease} (event : Json)
    (lost : ∀ job ∈ store.tables.workerJobs, lease.holds now job = false) :
    workerReportEvent platform now lease event store = .ok (store, false) := by
  unfold workerReportEvent
  rw [selectJob?_none]
  intro job member
  rw [lost job member, Bool.false_and]

theorem workerCompletePreflight_absorbed {now : Instant} {lease : Lease}
    (inputSha256 : String) (summary : Json) (summarySha256 : String)
    (lost : ∀ job ∈ store.tables.workerJobs, lease.holds now job = false) :
    workerCompletePreflight now lease inputSha256 summary summarySha256 store =
      .ok (store, false) := by
  unfold workerCompletePreflight
  rw [selectJob?_none]
  intro job member
  rw [lost job member, Bool.false_and, Bool.false_and]

theorem workerConfirmCancel_absorbed {now : Instant} {lease : Lease}
    (lost : ∀ job ∈ store.tables.workerJobs, lease.holds now job = false) :
    workerConfirmCancel now lease store = .ok (store, false) := by
  unfold workerConfirmCancel
  rw [selectJob?_none]
  intro job member
  rw [lost job member, Bool.false_and]

theorem workerFailJob_absorbed {now : Instant} {lease : Lease} (error : Json) (recoverable : Bool)
    (scheduler : store.tables.schedulerControl.isSome = true)
    (lost : ∀ job ∈ store.tables.workerJobs, lease.holds now job = false) :
    workerFailJob now lease error recoverable store = .ok (store, false) := by
  unfold workerFailJob
  rw [show requireScheduler store = .ok Unit.unit from requireScheduler_ok_iff.mpr scheduler,
    selectJob?_none]
  · rfl
  · intro job member
    rw [lost job member, Bool.false_and]

theorem workerCommitSimulation_absorbed {now : Instant} {lease : Lease} (request : CommitRequest)
    (lost : ∀ job ∈ store.tables.workerJobs, lease.holds now job = false) :
    workerCommitSimulation platform now lease request store = .ok (store, false) := by
  unfold workerCommitSimulation
  rw [selectJob?_none]
  intro job member
  rw [lost job member, Bool.false_and, Bool.false_and]

theorem answer_accepted {outcome : Except PgError (Store × Bool)} {value : Bool}
    (returned : outcome = .ok (result, value)) :
    answer .accepted (Fault.ofPg outcome) = .ok (result, .accepted value) := by
  rw [returned]
  rfl

/-- A worker call with a lease on a settled job is refused and leaves every
row but the liveness of the worker as it was. -/
theorem workerCall_absorbed {now : Instant} {jobId : String} {operation : Operation}
    (coherent : store.view.Coherent) (settled : Settled jobId store.view)
    (call : WorkerCall jobId operation) :
    ∃ result, execute platform now operation store = .ok (result, .accepted false) ∧
      OnlyLiveness now store.tables result.tables := by
  have lost : forall lease : Lease, lease.jobId = jobId ->
      ∀ job ∈ store.tables.workerJobs, lease.holds now job = false :=
    fun _ same => not_holds_of_settled settled same
  have unchanged := OnlyLiveness.refl now store.tables
  cases call with
  | @heartbeat workerId attemptId leaseToken leaseSeconds duration =>
      rcases workerHeartbeatForWorker_absorbed workerId duration
        (lost ⟨jobId, attemptId, leaseToken⟩ rfl) with ⟨result, refused, only⟩
      exact ⟨result, answer_accepted refused, only⟩
  | reportEvent =>
      exact ⟨store, answer_accepted (workerReportEvent_absorbed _ (lost _ rfl)), unchanged⟩
  | completePreflight =>
      exact ⟨store, answer_accepted (workerCompletePreflight_absorbed _ _ _ (lost _ rfl)), unchanged⟩
  | confirmCancel =>
      exact ⟨store, answer_accepted (workerConfirmCancel_absorbed (lost _ rfl)), unchanged⟩
  | failJob =>
      exact ⟨store, answer_accepted (workerFailJob_absorbed _ _ coherent.control (lost _ rfl)),
        unchanged⟩
  | commitSimulation =>
      exact ⟨store, answer_accepted (workerCommitSimulation_absorbed _ (lost _ rfl)), unchanged⟩

/-! ## Settled runs -/

/-- The run has this status, which is terminal. -/
def Finished (runId : String) (status : SimulationStatus) (view : View) : Prop :=
  status.isTerminal = true ∧ ∃ run ∈ view.runs, run.runId = runId ∧ run.status = status

theorem Finished.step {view target : View} {runId : String} {status : SimulationStatus}
    (finished : Finished runId status view) (step : View.Step view target)
    (coherent : view.Coherent) : Finished runId status target := by
  rcases finished with ⟨terminal, run, member, sameRun, sameStatus⟩
  refine ⟨terminal, ?_⟩
  rcases step.run_cases coherent member with ⟨after, afterMember, sameAfter, unchanged | advanced⟩
  · rw [unchanged] at afterMember
    exact ⟨run, afterMember, sameRun, sameStatus⟩
  · rcases advanced with ⟨before, next, advance, beforeStatus, _, _⟩
    rw [← sameStatus, beforeStatus, JobStatus.simulationStatus_isTerminal,
      advance.not_terminal] at terminal
    cases terminal

theorem Finished.steps {view target : View} {runId : String} {status : SimulationStatus}
    (finished : Finished runId status view) (steps : Steps view target)
    (coherent : view.Coherent) : Finished runId status target := by
  induction steps with
  | refl => exact finished
  | tail earlier step inductionHypothesis =>
      exact inductionHypothesis.step step (Steps.coherent earlier coherent)

theorem Finished.run {runId : String} {status : SimulationStatus} {calls : List Call}
    (reachable : Reachable platform store) (run : (queueSystem platform).Run store calls result)
    (finished : Finished runId status store.view) : Finished runId status result.view := by
  refine System.Reachable.stable (fun store => Finished runId status store.view) ?_ reachable run
    finished
  intro source call target sourceReachable step held
  have coherent := reachable_coherent sourceReachable
  exact held.steps (step.steps coherent) coherent

/-! ## The claim -/

/-- In every history each job is claimed at most once; a worker call with a
lease on a job that was settled returns `FALSE` and changes nothing but the
liveness of a worker; and a settled run keeps its status. -/
theorem fencing_and_absorption {calls : List Call} (reachable : Reachable platform store)
    (run : (queueSystem platform).Run store calls result) :
    (forall jobId, calls.countP (claimsJob jobId) ≤ 1) ∧
      (∀ job ∈ store.tables.workerJobs, job.status.isTerminal = true ->
        forall now operation, WorkerCall job.jobId operation ->
          ∃ after, execute platform now operation result = .ok (after, .accepted false) ∧
            OnlyLiveness now result.tables after.tables) ∧
      (∀ row ∈ store.tables.simulations, row.status.isTerminal = true ->
        ∃ later ∈ result.tables.simulations,
          later.runId = row.runId ∧ later.status = row.status) := by
  refine ⟨fun jobId => claimed_once reachable run, ?_, ?_⟩
  · intro job member terminal now operation call
    have settled : Settled job.jobId store.view := ⟨job.view, List.mem_map_of_mem member, rfl, terminal⟩
    have laterSettled : Settled job.jobId result.view := by
      refine System.Reachable.stable (fun store => Settled job.jobId store.view) ?_ reachable run
        settled
      intro source _ target sourceReachable step held
      exact held.steps (step.steps (reachable_coherent sourceReachable))
    exact workerCall_absorbed (reachable_coherent (reachable.run run)) laterSettled call
  · intro row member terminal
    have finished : Finished row.runId row.status store.view :=
      ⟨terminal, row.view, List.mem_map_of_mem member, rfl, rfl⟩
    rcases finished.run reachable run with ⟨_, view, viewMember, sameRun, sameStatus⟩
    rcases List.mem_map.mp viewMember with ⟨later, laterMember, rfl⟩
    exact ⟨later, laterMember, sameRun, sameStatus⟩

/-- The sample run is cancelled while it executes; then its worker repeats the
heartbeat of the preflight that it completed before. -/
theorem fencing_and_absorption_sample :
    ∃ after, execute samplePlatform 8 (.heartbeat "worker-1" preflightLease 60)
        (replay samplePlatform [(6, .cancelSimulation "run_1" "stop"), (7, .confirmCancel runLease)]
          sampleStore) = .ok (after, .accepted false) ∧
      OnlyLiveness 8 (replay samplePlatform
        [(6, .cancelSimulation "run_1" "stop"), (7, .confirmCancel runLease)]
        sampleStore).tables after.tables := by
  have preflight : ∃ job ∈ sampleStore.tables.workerJobs,
      job.jobId = "job_1" ∧ job.status.isTerminal = true := by decide +kernel
  rcases preflight with ⟨job, member, sameJob, terminal⟩
  have call : WorkerCall job.jobId (.heartbeat "worker-1" preflightLease 60) := by
    rw [sameJob]
    exact .heartbeat (by decide)
  rcases replay_run [(6, .cancelSimulation "run_1" "stop"), (7, .confirmCancel runLease)]
    sampleStore with ⟨calls, run⟩
  exact (fencing_and_absorption sampleStore_reachable run).2.1 job member terminal 8 _ call

end Queue
end FederatedIot
