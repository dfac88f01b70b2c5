import FederatedIot.Queue.System

namespace FederatedIot
namespace Queue

open Foundation Foundation.Relation

/-!
# The joint invariant of the queue tables

The agreement of the lifecycle records, read back on the rows of the tables.
A job and its run carry one status, a lease is present exactly while its job
is active, one job at most is active, a dataset is being validated exactly
while its only preflight job is open, and a completed run has all of its
required artifacts.
-/

variable {platform : Platform} {store : Store}

/-- The job is the preflight job of the dataset. -/
def IsPreflightOf (job : WorkerJob) (dataset : Dataset) : Prop :=
  job.jobType = .datasetPreflight ∧ job.datasetId = dataset.datasetId

/-- The invariant that ties the tables of the queue together. -/
structure QueueInvariant (tables : Tables) : Prop where
  jobRun : ∀ job ∈ tables.workerJobs, job.jobType = .simulation ->
    ∃ run ∈ tables.simulations, job.runId = some run.runId ∧
      run.status = job.status.simulationStatus
  runJob : ∀ run ∈ tables.simulations, ∃ job ∈ tables.workerJobs,
    job.jobType = .simulation ∧ job.runId = some run.runId ∧
      run.status = job.status.simulationStatus
  leased : ∀ job ∈ tables.workerJobs, job.status = .running ∨ job.status = .cancelling ->
    job.attemptId.isSome ∧ job.leaseToken.isSome ∧ job.leaseExpiresAt.isSome
  unleased : ∀ job ∈ tables.workerJobs, ¬(job.status = .running ∨ job.status = .cancelling) ->
    job.attemptId = none ∧ job.leaseToken = none ∧ job.leaseExpiresAt = none
  slot : ∀ first ∈ tables.workerJobs, ∀ second ∈ tables.workerJobs,
    (first.status = .running ∨ first.status = .cancelling) ->
    (second.status = .running ∨ second.status = .cancelling) -> first = second
  validation : ∀ dataset ∈ tables.datasets, ∃ job ∈ tables.workerJobs, IsPreflightOf job dataset ∧
    (∀ other ∈ tables.workerJobs, IsPreflightOf other dataset -> other = job) ∧
    (dataset.status = .validating ↔ job.status = .queued ∨ job.status = .running)
  committed : ∀ run ∈ tables.simulations, run.status = .completed ↔ run.artifactState = .committed
  published : ∀ run ∈ tables.simulations, run.status = .completed ->
    ∀ name ∈ requiredArtifactNames, ∃ artifact ∈ tables.artifacts,
      artifact.runId = run.runId ∧ artifact.name = name ∧ artifact.required = true

theorem isActive_iff (status : JobStatus) :
    status.isActive = true ↔ status = .running ∨ status = .cancelling := by
  cases status <;> decide

/-! ## The parts -/

theorem job_run_agree (coherent : store.view.Coherent) {job : WorkerJob}
    (member : job ∈ store.tables.workerJobs) (kind : job.jobType = .simulation) :
    ∃ run ∈ store.tables.simulations, job.runId = some run.runId ∧
      run.status = job.status.simulationStatus := by
  rcases runId_some_of_simulation member kind with ⟨runId, present⟩
  rcases store.foreign.jobRun job member runId present with ⟨run, runMember, same⟩
  have jobRun : job.runId = some run.runId := by rw [present, same]
  exact ⟨run, runMember, jobRun, run_status_of_job coherent member runMember jobRun⟩

theorem run_job_agree (coherent : store.view.Coherent) {run : Simulation}
    (member : run ∈ store.tables.simulations) :
    ∃ job ∈ store.tables.workerJobs, job.jobType = .simulation ∧ job.runId = some run.runId ∧
      run.status = job.status.simulationStatus := by
  rcases job_of_run coherent member with ⟨job, jobMember, present, agreed⟩
  refine ⟨job, jobMember, ?_, present, agreed⟩
  rw [(store.checks.workerJobs job jobMember).1, present]
  rfl

/-- An active job has all three lease columns, by the row check. -/
theorem leased_of_active {job : WorkerJob} (member : job ∈ store.tables.workerJobs)
    (active : job.status.isActive = true) :
    job.attemptId.isSome ∧ job.leaseToken.isSome ∧ job.leaseExpiresAt.isSome := by
  have complete := (store.checks.workerJobs job member).2
  rw [active] at complete
  unfold WorkerJob.isLeased at complete
  have present := complete.symm
  rw [Bool.and_eq_true, Bool.and_eq_true] at present
  exact ⟨present.1.1, present.1.2, present.2⟩

/-- A job that is not active has no lease column. -/
theorem unleased_of_inactive (coherent : store.view.Coherent) {job : WorkerJob}
    (member : job ∈ store.tables.workerJobs) (inactive : job.status.isActive = false) :
    job.attemptId = none ∧ job.leaseToken = none ∧ job.leaseExpiresAt = none := by
  have cleared := isUnleased_of_job coherent member
  rw [inactive] at cleared
  unfold WorkerJob.isUnleased at cleared
  rw [Bool.not_false, Bool.not_eq_true', Bool.or_eq_false_iff, Bool.or_eq_false_iff] at cleared
  exact ⟨Option.isSome_eq_false_iff.mp cleared.1.1 |> Option.isNone_iff_eq_none.mp,
    Option.isSome_eq_false_iff.mp cleared.1.2 |> Option.isNone_iff_eq_none.mp,
    Option.isSome_eq_false_iff.mp cleared.2 |> Option.isNone_iff_eq_none.mp⟩

theorem dataset_validation (coherent : store.view.Coherent) {dataset : Dataset}
    (member : dataset ∈ store.tables.datasets) :
    ∃ job ∈ store.tables.workerJobs, IsPreflightOf job dataset ∧
      (∀ other ∈ store.tables.workerJobs, IsPreflightOf other dataset -> other = job) ∧
      (dataset.status = .validating ↔ job.status = .queued ∨ job.status = .running) := by
  rcases coherent.preflight dataset.view (List.mem_map_of_mem member) with
    ⟨view, viewMember, absent, same⟩
  rcases List.mem_map.mp viewMember with ⟨job, jobMember, rfl⟩
  refine ⟨job, jobMember, ⟨preflight_of_runId_none jobMember absent, same⟩, ?_, ?_⟩
  · rintro other otherMember ⟨kind, sameDataset⟩
    have sameView := coherent.onePreflight other.view (List.mem_map_of_mem otherMember) job.view
      viewMember (runId_none_of_preflight otherMember kind) absent (sameDataset.trans same.symm)
    exact store.unique.jobId.eq_of_mem otherMember jobMember (congrArg JobView.jobId sameView)
  · have notCancelling := preflight_not_cancelling coherent jobMember absent
    rw [dataset_status_of_job coherent jobMember absent member same]
    cases status : job.status with
    | cancelling => exact absurd status notCancelling
    | queued | running | completed | cancelled | failed | failedRecoverable => decide

/-- The records of a completed run's artifacts. -/
theorem artifacts_of_completed (coherent : store.view.Coherent) {run : Simulation}
    (member : run ∈ store.tables.simulations) (completed : run.status = .completed) :
    ∀ name ∈ requiredArtifactNames, ∃ artifact ∈ store.tables.artifacts,
      artifact.runId = run.runId ∧ artifact.name = name ∧ artifact.required = true := by
  have viewMember : run.view ∈ store.view.runs := List.mem_map_of_mem member
  have committed := (coherent.committed run.view viewMember).mp completed
  intro name nameMember
  rcases List.mem_map.mp (coherent.published run.view viewMember committed name nameMember) with
    ⟨artifact, artifactMember, same⟩
  exact ⟨artifact, artifactMember, congrArg ArtifactView.runId same,
    congrArg ArtifactView.name same, congrArg ArtifactView.required same⟩

/-! ## The invariant -/

/-- The joint invariant holds in every store that a history of the queue
reaches from the empty database. -/
theorem queue_invariant (reachable : Reachable platform store) : QueueInvariant store.tables := by
  have coherent := reachable_coherent reachable
  refine ⟨?_, ?_, ?_, ?_, ?_, ?_, ?_, ?_⟩
  · intro job member kind
    exact job_run_agree coherent member kind
  · intro run member
    exact run_job_agree coherent member
  · intro job member active
    exact leased_of_active member ((isActive_iff job.status).mpr active)
  · intro job member inactive
    apply unleased_of_inactive coherent member
    exact Bool.eq_false_iff.mpr fun active => inactive ((isActive_iff job.status).mp active)
  · intro first firstMember second secondMember firstActive secondActive
    exact store.unique.jobSlot.eq_of_mem firstMember secondMember
      ((isActive_iff first.status).mpr firstActive) ((isActive_iff second.status).mpr secondActive)
  · intro dataset member
    exact dataset_validation coherent member
  · intro run member
    exact coherent.committed run.view (List.mem_map_of_mem member)
  · intro run member completed
    exact artifacts_of_completed coherent member completed

/-- In the sample history the invariant relates a completed preflight and a
running simulation. -/
theorem queue_invariant_sample :
    QueueInvariant sampleStore.tables ∧
      sampleStore.tables.workerJobs.map WorkerJob.status = [.completed, .running] :=
  ⟨queue_invariant sampleStore_reachable, by decide +kernel⟩

end Queue
end FederatedIot
