import FederatedIot.Queue.Continuity
import FederatedIot.Queue.Fencing

namespace FederatedIot
namespace Queue

open Foundation Foundation.Relation Foundation.Outcome

/-!
# First in, first out

Each admission draws a place in the queue that is larger than every place
drawn before, and no transaction rewrites a place.  A claim takes the queued
job with the smallest place, and no job returns to the queue.  So of two jobs
that are both claimed, the one admitted first is claimed first, whatever was
rolled back, cancelled or recovered in between.
-/

variable {platform : Platform} {store result : Store} {now : Instant}

/-! ## Places in the queue -/

/-- The job is stored with this place in the queue. -/
def HasPlace (jobId : String) (place : Nat) (store : Store) : Prop :=
  ∃ job ∈ store.tables.workerJobs, job.jobId = jobId ∧ job.enqueueSeq = place

/-- Every place of a job was drawn from the sequence. -/
def PlacesDrawn (store : Store) : Prop :=
  ∀ job ∈ store.tables.workerJobs, job.enqueueSeq ≤ store.sequences.enqueueSequence

/-- A job of the result is a job of the store with the same columns. -/
theorem KeepsRows.job_source (kept : KeepsRows store result) {job : WorkerJob}
    (member : job ∈ result.tables.workerJobs) :
    ∃ old ∈ store.tables.workerJobs, old.admission = job.admission := by
  have mapped : job.admission ∈ result.tables.workerJobs.map WorkerJob.admission :=
    List.mem_map_of_mem member
  rw [kept.jobs] at mapped
  exact List.mem_map.mp mapped

theorem KeepsRows.job_target (kept : KeepsRows store result) {job : WorkerJob}
    (member : job ∈ store.tables.workerJobs) :
    ∃ later ∈ result.tables.workerJobs, later.admission = job.admission := by
  have mapped : job.admission ∈ store.tables.workerJobs.map WorkerJob.admission :=
    List.mem_map_of_mem member
  rw [← kept.jobs] at mapped
  exact List.mem_map.mp mapped

theorem HasPlace.effect {jobId : String} {place : Nat} (has : HasPlace jobId place store)
    (effect : Effect store result) : HasPlace jobId place result := by
  rcases has with ⟨job, member, sameId, samePlace⟩
  cases effect with
  | keeps kept =>
      rcases kept.job_target member with ⟨later, laterMember, same⟩
      exact ⟨later, laterMember, (congrArg JobAdmission.jobId same).trans sameId,
        (congrArg JobAdmission.enqueueSeq same).trans samePlace⟩
  | admitsPreflight added admits =>
      refine ⟨job, ?_, sameId, samePlace⟩
      rw [admits.jobs]
      exact List.mem_append_left [added] member
  | admitsRun run added admits =>
      refine ⟨job, ?_, sameId, samePlace⟩
      rw [admits.jobs]
      exact List.mem_append_left [added] member

theorem PlacesDrawn.append {added : WorkerJob} (drawn : PlacesDrawn store)
    (jobs : result.tables.workerJobs = store.tables.workerJobs ++ [added])
    (sequence : result.sequences.enqueueSequence = store.sequences.enqueueSequence + 1)
    (place : added.enqueueSeq = store.sequences.enqueueSequence + 1) : PlacesDrawn result := by
  intro job member
  rw [jobs] at member
  rw [sequence]
  rcases List.mem_append.mp member with earlier | last
  · exact (drawn job earlier).trans (Nat.le_succ _)
  · rw [List.mem_singleton.mp last, place]

theorem PlacesDrawn.effect (drawn : PlacesDrawn store) (effect : Effect store result) :
    PlacesDrawn result := by
  cases effect with
  | keeps kept =>
      intro job member
      rcases kept.job_source member with ⟨old, oldMember, same⟩
      have samePlace : old.enqueueSeq = job.enqueueSeq := congrArg JobAdmission.enqueueSeq same
      rw [← samePlace]
      exact (drawn old oldMember).trans kept.sequences.enqueueSequence
  | admitsPreflight added admits =>
      exact drawn.append admits.jobs (by rw [admits.sequences]) admits.jobPlace
  | admitsRun run added admits =>
      exact drawn.append admits.jobs admits.enqueueSequence admits.jobPlace

theorem reachable_placesDrawn (reachable : Reachable platform store) : PlacesDrawn store := by
  refine System.Reachable.invariant PlacesDrawn ?_ ?_ reachable
  · rintro start ⟨now, rfl⟩ job member
    cases member
  · intro source call target _ step drawn
    exact drawn.effect step.effect

theorem HasPlace.run {jobId : String} {place : Nat} {calls : List Call}
    (has : HasPlace jobId place store) (run : (queueSystem platform).Run store calls result) :
    HasPlace jobId place result :=
  System.Run.invariant (HasPlace jobId place)
    (fun _ _ _ (step : Transaction platform _ _ _) held => held.effect step.effect) run has

/-! ## Admissions -/

/-- The transaction admits the job: it registers a dataset with this preflight
job, or it creates a new run with this job. -/
def admitsJob (jobId : String) (call : Call) : Bool :=
  match call.operation, call.outcome with
  | .registerDataset _ identifiers _, .ok (.registered _) => identifiers.jobId = jobId
  | .createSimulation _ identifiers _ _, .ok (.created _ false) => identifiers.jobId = jobId
  | _, _ => false

/-- The job is stored. -/
def HasJob (jobId : String) (store : Store) : Prop :=
  ∃ job ∈ store.tables.workerJobs, job.jobId = jobId

theorem HasPlace.hasJob {jobId : String} {place : Nat} (has : HasPlace jobId place store) :
    HasJob jobId store := by
  rcases has with ⟨job, member, sameId, _⟩
  exact ⟨job, member, sameId⟩

theorem HasJob.effect {jobId : String} (has : HasJob jobId store) (effect : Effect store result) :
    HasJob jobId result := by
  rcases has with ⟨job, member, sameId⟩
  exact HasPlace.hasJob (HasPlace.effect ⟨job, member, sameId, rfl⟩ effect)

/-- An added job was not stored before, and it has the next place. -/
theorem added_place {added : WorkerJob}
    (jobs : result.tables.workerJobs = store.tables.workerJobs ++ [added])
    (place : added.enqueueSeq = store.sequences.enqueueSequence + 1) :
    ¬HasJob added.jobId store ∧
      HasPlace added.jobId (store.sequences.enqueueSequence + 1) result := by
  constructor
  · rintro ⟨job, member, same⟩
    have keyed := result.unique.jobId
    rw [jobs] at keyed
    exact keyed.of_append job member same
  · refine ⟨added, ?_, rfl, place⟩
    rw [jobs]
    exact List.mem_append_right _ (List.mem_singleton.mpr rfl)

/-- An admission stores a new job with the next place of the queue. -/
theorem admitsJob_place {call : Call} {jobId : String}
    (step : Transaction platform store call result) (admits : admitsJob jobId call = true) :
    ¬HasJob jobId store ∧ HasPlace jobId (store.sequences.enqueueSequence + 1) result := by
  cases step with
  | rolledBack refused same drawn =>
      unfold admitsJob at admits
      split at admits
      · rename_i outcome
        cases outcome
      · rename_i outcome
        cases outcome
      · cases admits
  | committed accepted =>
      unfold admitsJob at admits
      split at admits
      · rename_i clock identifiers input dataset isOperation outcome
        dsimp only at isOperation
        subst isOperation
        rcases answer_ok_iff.mp accepted with ⟨_, done, _⟩
        rcases registerDataset_admits done with ⟨job, added, sameId⟩
        rw [← of_decide_eq_true admits, ← sameId]
        exact added_place added.jobs added.jobPlace
      · rename_i clock identifiers key request record isOperation outcome
        dsimp only at isOperation
        subst isOperation
        cases outcome
        rcases answer_ok_iff.mp accepted with ⟨⟨record, replayed⟩, done, same⟩
        cases same
        rcases createSimulation_admits done with ⟨replayed, _⟩ | ⟨_, run, job, added, sameId⟩
        · cases replayed
        · rw [← of_decide_eq_true admits, ← sameId]
          exact added_place added.jobs added.jobPlace
      · cases admits

/-- A job that an earlier transaction admitted is stored. -/
theorem hasJob_of_admitted {jobId : String} {calls : List Call} {call : Call}
    (run : (queueSystem platform).Run store calls result) (member : call ∈ calls)
    (admits : admitsJob jobId call = true) : HasJob jobId result := by
  rcases run.of_mem member with ⟨_, before, after, _, _, step, later⟩
  exact HasPlace.hasJob ((admitsJob_place step admits).2.run later)

/-! ## Claims -/

theorem released_not_queued (simulations : List Simulation) (job : WorkerJob) :
    (ExpiredCandidate.of simulations job).released.status ≠ .queued := by
  change (ExpiredCandidate.of simulations job).finalStatus ≠ .queued
  unfold ExpiredCandidate.finalStatus
  split <;> decide

/-- Recovery leaves the queued jobs alone. -/
theorem workerRecoverExpiredLeases_queued {reply : Nat}
    (accepted : workerRecoverExpiredLeases now store = .ok (result, reply)) (job : WorkerJob) :
    (job ∈ result.tables.workerJobs ∧ job.status = .queued) ↔
      (job ∈ store.tables.workerJobs ∧ job.status = .queued) := by
  have jobs : result.tables.workerJobs =
      update store.tables.workerJobs (isExpired now) fun job =>
        { (ExpiredCandidate.of store.tables.simulations job).released with updatedAt := now } := by
    unfold workerRecoverExpiredLeases at accepted
    simp only [bind_ok_iff] at accepted
    rcases accepted with ⟨_, _, released, releasedAccepted, reported, reportedAccepted, invalidated,
      invalidatedAccepted, settled, settledAccepted, emitted, emittedAccepted, accepted⟩
    have emittedJobs : emitted.tables.workerJobs = released.tables.workerJobs := by
      rw [(insertSimulationEvents_ok_iff.mp emittedAccepted).1,
        (updateSimulations_ok_iff.mp settledAccepted).2.1,
        (updateDatasets_ok_iff.mp invalidatedAccepted).1,
        (insertWorkerJobEvents_ok_iff.mp reportedAccepted).1]
    rw [(updateJobs_ok_iff.mp releasedAccepted).1] at emittedJobs
    split at accepted
    · simp only [bind_ok_iff, pure_ok_iff, Prod.mk.injEq] at accepted
      rcases accepted with ⟨announced, announcedAccepted, rfl, _⟩
      rw [(emitQueuePositionEvents_ok_iff.mp announcedAccepted).1]
      exact emittedJobs
    · cases accepted
      exact emittedJobs
  rw [jobs]
  constructor
  · rintro ⟨member, queued⟩
    rcases mem_update_cases member with ⟨old, _, _, rfl⟩ | ⟨kept, _⟩
    · exact absurd queued (released_not_queued store.tables.simulations old)
    · exact ⟨kept, queued⟩
  · rintro ⟨member, queued⟩
    refine ⟨mem_update_other member ?_, queued⟩
    unfold isExpired
    rw [queued]
    rfl

/-- The job is queued, and no queued job has a smaller place. -/
def IsNextJob (jobs : List WorkerJob) (job : WorkerJob) : Prop :=
  job ∈ jobs ∧ job.status = .queued ∧
    ∀ other ∈ jobs, other.status = .queued -> job.enqueueSeq ≤ other.enqueueSeq

theorem workerClaimNextJobForWorker_next {workerId attemptId leaseToken : String}
    {leaseSeconds : Int} {claimed : ClaimedJob}
    (accepted : workerClaimNextJobForWorker now workerId attemptId leaseToken leaseSeconds store =
      .ok (result, some claimed)) :
    ∃ job, IsNextJob store.tables.workerJobs job ∧ job.jobId = claimed.jobId := by
  unfold workerClaimNextJobForWorker at accepted
  simp only [bind_ok_iff, require_ok_iff, exists_const] at accepted
  rcases accepted with ⟨_, _, seen, seenAccepted, _, accepted⟩
  simp only [requireScheduler_ok_iff, exists_const] at accepted
  rcases accepted with ⟨_, ⟨recovered, count⟩, recoveredAccepted, accepted⟩
  have seenJobs : seen.tables.workerJobs = store.tables.workerJobs := by
    rw [(updateInstances_ok_iff.mp seenAccepted).1]
  have queuedJobs := workerRecoverExpiredLeases_queued recoveredAccepted
  rw [seenJobs] at queuedJobs
  split at accepted
  · cases accepted
  · split at accepted
    · cases accepted
    · rename_i job selected
      rcases nextQueuedJob?_some selected with ⟨member, queued, first⟩
      rcases startJob_jobs accepted with ⟨_, _, same, sameJob⟩
      cases same
      refine ⟨job, ⟨((queuedJobs job).mp ⟨member, queued⟩).1, queued, ?_⟩, sameJob.symm⟩
      intro other otherMember otherQueued
      rcases (queuedJobs other).mpr ⟨otherMember, otherQueued⟩ with ⟨kept, _⟩
      exact first other kept otherQueued

/-- Every claim takes the queued job with the smallest place. -/
theorem claimsJob_next {call : Call} {jobId : String}
    (step : Transaction platform store call result) (claims : claimsJob jobId call = true) :
    ∃ job, IsNextJob store.tables.workerJobs job ∧ job.jobId = jobId := by
  cases step with
  | rolledBack => cases claims
  | committed accepted =>
      unfold claimsJob at claims
      split at claims
      · rename_i claimed outcome
        cases outcome
        rcases claim_of_claimed accepted with ⟨_, _, _, _, done⟩
        rw [← of_decide_eq_true claims]
        exact workerClaimNextJobForWorker_next done
      · cases claims

/-- When a job is claimed, every job with a smaller place has left the queue. -/
theorem started_of_claimed {call : Call} {firstId secondId : String} {first second : Nat}
    (step : Transaction platform store call result) (claims : claimsJob secondId call = true)
    (firstPlace : HasPlace firstId first store) (secondPlace : HasPlace secondId second store)
    (earlier : first < second) : Started firstId store.view := by
  rcases claimsJob_next step claims with ⟨next, ⟨nextMember, _, least⟩, sameNext⟩
  rcases firstPlace with ⟨job, member, sameJob, samePlace⟩
  rcases secondPlace with ⟨other, otherMember, sameOther, otherPlace⟩
  refine ⟨job.view, List.mem_map_of_mem member, sameJob, ?_⟩
  intro queued
  have isNext : other = next :=
    store.unique.jobId.eq_of_mem otherMember nextMember (sameOther.trans sameNext.symm)
  have bound := least job member queued
  rw [← isNext] at bound
  omega

/-- A job that has left the queue is not claimed in the rest of the history. -/
theorem not_claimed_of_started {jobId : String} {calls : List Call} {call : Call}
    (reachable : Reachable platform store) (run : (queueSystem platform).Run store calls result)
    (started : Started jobId store.view) (member : call ∈ calls) : claimsJob jobId call = false := by
  have never := System.Reachable.never (fun store => Started jobId store.view) (claimsJob jobId)
    (fun source call target sourceReachable (step : Transaction platform source call target) held =>
      held.steps (step.steps (reachable_coherent sourceReachable)))
    (fun source call target sourceReachable step held =>
      Bool.eq_false_iff.mpr fun claims =>
        (claimsJob_spends (reachable_coherent sourceReachable) step claims).1 held)
    reachable run started
  exact Bool.eq_false_iff.mpr (List.countP_eq_zero.mp never call member)

theorem claimsJob_unique {call : Call} {first second : String}
    (firstClaims : claimsJob first call = true) (secondClaims : claimsJob second call = true) :
    first = second := by
  unfold claimsJob at firstClaims secondClaims
  split at firstClaims
  · rename_i claimed outcome
    rw [outcome] at secondClaims
    exact (of_decide_eq_true firstClaims).symm.trans (of_decide_eq_true secondClaims)
  · cases firstClaims

/-- A transaction does not admit one job and claim another. -/
theorem not_admits_of_claims {call : Call} {first second : String}
    (claims : claimsJob first call = true) : admitsJob second call = false := by
  unfold claimsJob at claims
  split at claims
  · rename_i claimed outcome
    unfold admitsJob
    rw [outcome]
    split
    · rename_i other
      cases other
    · rename_i other
      cases other
    · rfl
  · cases claims

theorem HasJob.run {jobId : String} {calls : List Call} (has : HasJob jobId store)
    (run : (queueSystem platform).Run store calls result) : HasJob jobId result := by
  rcases has with ⟨job, member, sameId⟩
  exact HasPlace.hasJob (HasPlace.run ⟨job, member, sameId, rfl⟩ run)

/-- A stored job is not admitted in the rest of the history. -/
theorem not_admitted_of_hasJob {jobId : String} {calls : List Call} {call : Call}
    (run : (queueSystem platform).Run store calls result) (has : HasJob jobId store)
    (member : call ∈ calls) : admitsJob jobId call = false := by
  rcases run.of_mem member with ⟨_, before, after, _, earlier, step, _⟩
  exact Bool.eq_false_iff.mpr fun admits => (admitsJob_place step admits).1 (has.run earlier)

/-! ## The order of service -/

/-- Of two jobs that are both claimed in a history, the one admitted first is
claimed first. -/
theorem claimed_in_order {calls : List Call} {firstId secondId : String}
    {firstAdmitted secondAdmitted firstClaimed secondClaimed : Nat}
    {firstAdmission secondAdmission firstClaim secondClaim : Call}
    (reachable : Reachable platform store) (run : (queueSystem platform).Run store calls result)
    (atFirst : calls[firstAdmitted]? = some firstAdmission)
    (atSecond : calls[secondAdmitted]? = some secondAdmission)
    (admitsFirst : admitsJob firstId firstAdmission = true)
    (admitsSecond : admitsJob secondId secondAdmission = true)
    (atFirstClaim : calls[firstClaimed]? = some firstClaim)
    (atSecondClaim : calls[secondClaimed]? = some secondClaim)
    (claimsFirst : claimsJob firstId firstClaim = true)
    (claimsSecond : claimsJob secondId secondClaim = true)
    (order : firstAdmitted < secondAdmitted) : firstClaimed < secondClaimed := by
  rcases run.split atSecondClaim with ⟨before, after, earlier, step, later⟩
  rcases claimsJob_next step claimsSecond with ⟨next, ⟨nextMember, _, _⟩, sameNext⟩
  have stored : HasJob secondId before := ⟨next, nextMember, sameNext⟩
  have laterMember : forall {index : Nat} {call : Call}, secondClaimed < index ->
      calls[index]? = some call -> call ∈ calls.drop (secondClaimed + 1) := by
    intro index call after found
    apply List.mem_of_getElem? (i := index - (secondClaimed + 1))
    rw [List.getElem?_drop, ← found]
    congr 1
    omega
  have admittedEarlier : secondAdmitted < secondClaimed := by
    rcases Nat.lt_trichotomy secondAdmitted secondClaimed with less | same | more
    · exact less
    · rw [same, atSecondClaim] at atSecond
      cases atSecond
      rw [not_admits_of_claims claimsSecond] at admitsSecond
      cases admitsSecond
    · have again := not_admitted_of_hasJob later (stored.effect step.effect)
        (laterMember more atSecond)
      rw [again] at admitsSecond
      cases admitsSecond
  have inEarlier : (calls.take secondClaimed)[secondAdmitted]? = some secondAdmission := by
    rw [List.getElem?_take_of_lt admittedEarlier]
    exact atSecond
  rcases earlier.split inEarlier with ⟨admitting, admitted, start, admission, between⟩
  rcases admitsJob_place admission admitsSecond with ⟨isNew, secondPlace⟩
  have firstMember : firstAdmission ∈ (calls.take secondClaimed).take secondAdmitted := by
    apply List.mem_of_getElem? (i := firstAdmitted)
    rw [List.getElem?_take_of_lt order, List.getElem?_take_of_lt (order.trans admittedEarlier)]
    exact atFirst
  rcases hasJob_of_admitted start firstMember admitsFirst with ⟨job, member, sameJob⟩
  have drawn := reachable_placesDrawn (reachable.run start) job member
  have firstPlace : HasPlace firstId job.enqueueSeq admitting := ⟨job, member, sameJob, rfl⟩
  have started : Started firstId before.view :=
    started_of_claimed step claimsSecond ((firstPlace.effect admission.effect).run between)
      (secondPlace.run between) (Nat.lt_succ_of_le drawn)
  have reached := reachable.run earlier
  rcases Nat.lt_trichotomy firstClaimed secondClaimed with less | same | more
  · exact less
  · rw [same, atSecondClaim] at atFirstClaim
    cases atFirstClaim
    rw [claimsJob_unique claimsFirst claimsSecond] at firstPlace
    exact absurd firstPlace.hasJob isNew
  · have again := not_claimed_of_started (reached.step step) later
      (started.steps (step.steps (reachable_coherent reached))) (laterMember more atFirstClaim)
    rw [again] at claimsFirst
    cases claimsFirst

end Queue
end FederatedIot
