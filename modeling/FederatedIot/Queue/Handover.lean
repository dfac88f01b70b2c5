import FederatedIot.Queue.Attendance
import FederatedIot.Queue.Columns

namespace FederatedIot
namespace Queue

open Foundation Foundation.Relation Foundation.Outcome

/-!
# What a claim hands over

A claim that hands out the job of a run leaves the run attended by the worker that asked:
its job is held under the new lease, nobody has requested its cancellation, and the lease
lives for as long as the worker asked for.
-/

variable {platform : Platform} {store result : Store} {now : Instant} {job : WorkerJob}
  {workerId attemptId leaseToken : String} {leaseSeconds : Int} {claimed : ClaimedJob}

/-- The claim hands out the head of the queue, which it has started, to a worker that stays registered. -/
theorem claim_starts (reachable : Reachable platform store)
    (accepted : workerClaimNextJobForWorker now workerId attemptId leaseToken leaseSeconds store =
      .ok (result, some claimed)) :
    exists old, nextQueuedJob? store.tables.workerJobs = some old ∧ claimed.jobId = old.jobId ∧
      claimed.runId = old.runId ∧
      startedJob now attemptId leaseToken leaseSeconds old ∈ result.tables.workerJobs ∧
      ∃ row ∈ result.tables.workerInstances, row.workerId = workerId := by
  simp only [workerClaimNextJobForWorker, bind_ok_iff, require_ok_iff, exists_const] at accepted
  rcases accepted with ⟨_, _, seen, isSeen, known, accepted⟩
  simp only [requireScheduler_ok_iff, exists_const] at accepted
  rcases accepted with ⟨_, ⟨recovered, count⟩, isRecovered, accepted⟩
  have seenTables := (updateInstances_ok_iff.mp isSeen).1
  rcases updateInstances_sound (reachable_coherent reachable) (reachable_eventsNumbered reachable)
    (reachable_workerEventsNumbered reachable) isSeen with ⟨seenCoherent, seenNumbered, seenWorkerEvents⟩
  rcases @recovery_accepts seen now seenCoherent seenNumbered seenWorkerEvents with ⟨other, number, isOther, recovers⟩
  have same : other = recovered := congrArg Prod.fst (Except.ok.inj (isOther.symm.trans isRecovered))
  rw [same] at recovers
  have sameNext : nextQueuedJob? recovered.tables.workerJobs = nextQueuedJob? store.tables.workerJobs := by
    unfold nextQueuedJob?
    rw [recovers.queued, seenTables]
  split at accepted
  · cases accepted
  · split at accepted
    · cases accepted
    · rename_i old next
      rcases startJob_starts accepted with ⟨sameJob, sameRun, jobs, instances⟩
      refine ⟨old, sameNext.symm.trans next, sameJob, sameRun, ?_, ?_⟩
      · rw [jobs]
        exact mem_update_selected (nextQueuedJob?_some next).1 (decide_eq_true rfl)
      · rcases List.any_eq_true.mp known with ⟨row, rowMember, matched⟩
        have named := (Bool.and_eq_true_iff.mp (Bool.and_eq_true_iff.mp matched).1).1
        rw [instances, recovers.instances, seenTables]
        refine exists_key_update (fun _ => ?_) ⟨row, rowMember, of_decide_eq_true named⟩
        rfl

/-- A worker that is handed the job of a run attends the run, and its lease lives until it runs out. -/
theorem claim_hands_over (reachable : Reachable platform store)
    (accepted : execute platform now (.claim workerId attemptId leaseToken leaseSeconds) store =
      .ok (result, .claimed (some claimed))) {runId : String} (present : claimed.runId = some runId) :
    Attended platform ⟨claimed.jobId, attemptId, leaseToken⟩ runId workerId .running result ∧
      ∀ later < now + seconds leaseSeconds, Live ⟨claimed.jobId, attemptId, leaseToken⟩ later result := by
  rcases answer_ok_iff.mp accepted with ⟨inner, done, isClaimed⟩
  cases isClaimed
  rcases claim_starts reachable (Fault.ofPg_ok_iff.mp done) with ⟨old, _, sameJob, sameRun, member, registered⟩
  have later : Reachable platform result := System.Reachable.step reachable (Transaction.committed accepted)
  have ownRun : (startedJob now attemptId leaseToken leaseSeconds old).runId = some runId := sameRun.symm.trans present
  have held : HeldBy ⟨claimed.jobId, attemptId, leaseToken⟩ runId .running
      (startedJob now attemptId leaseToken leaseSeconds old) := by
    refine ⟨sameJob.symm, rfl, rfl, ?_, ownRun, rfl⟩
    rw [(result.checks.workerJobs _ member).1, ownRun]
    rfl
  refine ⟨⟨later, ⟨_, member, held⟩, fun _ row rowMember same => ?_, registered⟩, ?_⟩
  · have running : row.status = .running :=
      run_status_of_job (reachable_coherent later) member rowMember (ownRun.trans (congrArg some same.symm))
    have columns : row.columns = ⟨true, true, false, false, false, false⟩ :=
      (reachable_consistent later row rowMember).of_status running
    have absent : row.cancelRequestedAt.isSome = false := congrArg Columns.requested columns
    exact Option.not_isSome_iff_eq_none.mp (by rw [absent]; decide)
  · intro instant before other otherMember same _
    rw [result.unique.jobId.eq_of_mem otherMember member (same.trans sameJob)]
    exact decide_eq_true before

/-- The run of the sample history is handed over by its claim. -/
theorem claim_hands_over_sample : exists result claimed,
    execute samplePlatform 5 (.claim "worker-1" "attempt_2" "lease-token-0002" 60) admittedStore =
      .ok (result, .claimed (some claimed)) ∧
    Attended samplePlatform ⟨claimed.jobId, "attempt_2", "lease-token-0002"⟩ "run_1" "worker-1" .running result := by
  have facts : (nextQueuedJob? admittedStore.tables.workerJobs).bind WorkerJob.runId = some "run_1" ∧
      (∃ row ∈ admittedStore.tables.workerInstances, row.workerId = "worker-1" ∧ 5 - seconds 60 < row.lastHeartbeatAt) ∧
      occupied 5 admittedStore.tables = false := by decide +kernel
  rcases facts with ⟨next, seen, free⟩
  have reachable : Reachable samplePlatform admittedStore := replay_reachable _ (System.Reachable.of_initial ⟨0, rfl⟩)
  rcases claim_serves (reachable_coherent reachable) (reachable_eventsNumbered reachable)
    (reachable_workerEventsNumbered reachable)
    (⟨by decide, by decide +kernel, seen⟩ : Asks 5 "worker-1" "attempt_2" "lease-token-0002" 60 admittedStore) with
    ⟨result, claimed, accepted, serves⟩
  rcases Option.bind_eq_some_iff.mp next with ⟨old, isOld, present⟩
  have handed := serves.handedOut
  rw [free, if_neg Bool.false_ne_true, isOld] at handed
  rcases Option.map_eq_some_iff.mp handed with ⟨job, rfl, _⟩
  rcases claim_starts reachable accepted with ⟨other, isOther, _, sameRun, _⟩
  have same : other = old := Option.some.inj (isOther.symm.trans isOld)
  have executed : execute samplePlatform 5 (.claim "worker-1" "attempt_2" "lease-token-0002" 60) admittedStore =
      .ok (result, .claimed (some job)) := answer_ok_iff.mpr ⟨some job, Fault.ofPg_ok_iff.mpr accepted, rfl⟩
  exact ⟨result, job, executed, (claim_hands_over reachable executed (sameRun.trans (same ▸ present))).1⟩

end Queue
end FederatedIot
