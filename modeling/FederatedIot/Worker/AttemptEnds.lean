import FederatedIot.Worker.ArtifactSessions
import FederatedIot.Worker.AttemptOutcomes

namespace FederatedIot
namespace Worker
namespace Attempts

open Foundation Foundation.Interference
open Queue (Lease Store Operation Reply Fault Platform JobStatus SimulationStatus)

/-!
# What is left of an attempt

The worker goes on after an attempt that has settled its run, and stops after any other.  The
course of a cancellation says which of the two it is, what has become of the run, and whether
its results lie in their place.
-/

variable {setting : Setting} {plan : Plan} {course : Course} {published : Bool}

/-! ## What the worker makes of it -/

/-- The attempt has settled its run, and the worker goes on. -/
def Concluded (setting : Setting) (moment : Moment) : Prop :=
  Settles setting .completed .running true moment ∨ (exists failure, Recorded setting failure moment) ∨
    exists stage, Settles setting .cancelled (.seen stage) (decide (stage = "GENERATING_ARTIFACTS")) moment

/-- The attempt has raised what the worker does not survive. -/
def Abandoned (setting : Setting) : Failure -> Moment -> Prop
  | .leaseLost, moment => Raised setting .leaseLost moment
  | .repositoryOperation, moment => Raised setting .repositoryOperation moment
  | .exception, moment => Raised setting .exception moment
  | .cancelled _ _, _ | .worker _, _ => False

theorem concluded_stable : (service setting).logged.Stable (Concluded setting) :=
  Service.Stable.or (settles_running_stable (by decide))
    (Service.Stable.or (exists_stable recorded_stable) (exists_stable fun _ => settles_decided_stable))

theorem abandoned_stable (failure : Failure) : (service setting).logged.Stable (Abandoned setting failure) := by
  cases failure with
  | leaseLost => exact raised_stable .leaseLost
  | repositoryOperation => exact raised_stable .repositoryOperation
  | exception => exact raised_stable .exception
  | cancelled _ _ | worker _ => exact fun _ _ _ impossible _ => impossible

theorem runClaim_secures :
    (service setting).logged.Secures (Going setting false) (runClaim setting plan) (fun _ => Concluded setting)
      (Abandoned setting) := by
  have completes : (service setting).logged.Secures (Going setting false) (run setting plan)
      (fun _ => Concluded setting) (Settled setting) :=
    run_secures.weaken (fun _ _ settles => Or.inl settles) fun _ _ settled => settled
  have concludes := @Service.Secures.pure _ _ Unit _ _ Failure _ (fun _ => Concluded setting) (Abandoned setting) ()
    concluded_stable
  refine Service.Secures.tryCatch completes (fun failure => ?_) fun _ => concluded_stable
  cases failure with
  | cancelled stage agent => exact concludes.of_before fun _ settles => Or.inr (Or.inr ⟨stage, settles⟩)
  | worker failure => exact concludes.of_before fun _ recorded => Or.inr (Or.inl ⟨failure, recorded⟩)
  | leaseLost => exact Service.Secures.throw (abandoned_stable .leaseLost)
  | repositoryOperation => exact Service.Secures.throw (abandoned_stable .repositoryOperation)
  | exception => exact Service.Secures.throw (abandoned_stable .exception)

/-- An attempt begins with a running run that is held, and with nothing published. -/
structure Begins (setting : Setting) (state : State) : Prop where
  attended : Queue.Attended setting.platform setting.lease setting.runId setting.workerId .running state.store
  recorded : state.recorded = none
  writer : state.writer = .opened

theorem Begins.going {state : State} (begins : Begins setting state) : Going setting false (state, []) := by
  refine Or.inl ⟨rfl, begins.attended, begins.recorded, ?_⟩
  rw [begins.writer]
  rfl

/-- How an attempt ends: the course that a cancellation took, whether the worker survives, and
what has become of the run. -/
inductive Concludes (setting : Setting) (store : Store) : Course -> Except Failure Unit -> Prop
  | completed : Queue.Finished setting.runId .completed store.view -> Concludes setting store .running (.ok ())
  | failed (failure : WorkerFailure) :
      Queue.Finished setting.runId failure.status store.view -> Concludes setting store .running (.ok ())
  /-- A checkpoint saw the cancellation. -/
  | seen (stage : String) :
      Queue.Finished setting.runId .cancelled store.view -> Concludes setting store (.seen stage) (.ok ())
  /-- A failure came after the cancellation. -/
  | superseded (error : Json) (recoverable : Bool) : Queue.Finished setting.runId .cancelled store.view ->
      Concludes setting store (.decided (.database (.failJob setting.lease error recoverable))) (.ok ())
  /-- An event came after the cancellation. -/
  | eventRefused (event : Json) :
      Queue.Attended setting.platform setting.lease setting.runId setting.workerId .cancelling store ->
        Concludes setting store (.decided (.database (.reportEvent setting.lease event))) (.error .repositoryOperation)
  /-- The commit came after the cancellation. -/
  | commitRefused (request : Queue.CommitRequest) :
      Queue.Attended setting.platform setting.lease setting.runId setting.workerId .cancelling store ->
        Concludes setting store (.decided (.database (.commitSimulation setting.lease request))) (.error .leaseLost)
  /-- The worker stopped by itself. -/
  | stopped (course : Course) (failure : Failure) : course = .running ∨ course = .requested ->
      failure = .repositoryOperation ∨ failure = .exception ->
        Queue.Attended setting.platform setting.lease setting.runId setting.workerId course.status store ->
          Concludes setting store course (.error failure)

theorem Going.stopped {moment : Moment} (going : Going setting published moment) (failure : Failure)
    (stops : failure = .repositoryOperation ∨ failure = .exception) :
    Concludes setting moment.1.store (courseOf setting.runId moment.2) (.error failure) := by
  rcases going with stands | stands
  · rw [stands.reached]
    exact .stopped .running failure (Or.inl rfl) stops stands.attended
  · rw [stands.reached]
    exact .stopped .requested failure (Or.inr rfl) stops stands.attended

theorem Called.total {Value : Type} (call : Artifacts.Faults -> Artifacts.Call Value) (writer : Artifacts.Writer) :
    exists outcome later, Called call writer outcome later := by
  cases done : call Artifacts.noFaults writer with
  | ok value later =>
      refine ⟨.ok value, later, Artifacts.noFaults, ?_⟩
      unfold Foundation.Work.Leads
      rw [done]
      exact ⟨rfl, rfl⟩
  | error failure later =>
      refine ⟨.error failure, later, Artifacts.noFaults, ?_⟩
      unfold Foundation.Work.Leads
      rw [done]
      exact ⟨rfl, rfl⟩

theorem transacts_total (setting : Setting) (store : Store) (operation : Operation) :
    exists now outcome later, Transacts setting store ⟨now, operation, outcome⟩ later := by
  rcases Queue.exists_live setting.lease store with ⟨now, live⟩
  cases executed : Queue.execute setting.platform now operation store with
  | ok answer => exact ⟨now, .ok answer.2, answer.1, live, .committed executed⟩
  | error fault => exact ⟨now, .error fault, store, live, .rolledBack executed rfl (Queue.Sequences.AtMost.refl _)⟩

/-- Every request may be answered. -/
theorem answers_total (state : State) (request : Request) : exists answer later, answers setting state request answer later := by
  cases request with
  | database operation =>
      rcases transacts_total setting state.store operation with ⟨now, outcome, store, transacts⟩
      exact ⟨outcome, _, now, store, transacts, rfl⟩
  | cancellationContext checkpoint =>
      rcases Queue.exists_live setting.lease state.store with ⟨now, live⟩
      exact ⟨_, state, now, live, rfl, rfl⟩
  | startThread | stopThread => exact ⟨(), _, rfl⟩
  | heartbeatFailure => exact ⟨state.recorded, state, rfl, rfl⟩
  | renewalDue => exact ⟨false, state, rfl⟩
  | write name contents | buildManifest runId runMode snapshotSha256 createdAt | publish | abandon =>
      rcases Called.total _ state.writer with ⟨outcome, writer, called⟩
      exact ⟨outcome, _, writer, called, rfl⟩

/-- The worker of the sample history with its run. -/
def sampleSetting : Setting where
  platform := Queue.samplePlatform
  host := Artifacts.sampleHost
  workerId := "worker-1"
  leaseSeconds := 60
  lease := Queue.runLease
  runId := "run_1"
  duration := by decide

def sampleStart : State where
  store := Queue.sampleStore
  beating := false
  recorded := none
  writer := .opened

/-- A computation without checkpoints -/
def sampleStretch : Stretch where
  checks := []
  ending := .returns

def samplePlan : Plan where
  source := .returns
  verification := sampleStretch
  parameters := .returns
  preprocessing := sampleStretch
  preparation := .returns
  contexts := .returns
  localTraining := sampleStretch
  anchorAggregating := sampleStretch
  globalDistilling := sampleStretch
  testing := sampleStretch
  alarms := .returns
  destination := .returns
  outputs := []
  runMode := "REFERENCE"
  snapshotSha256 := "e3b0c44298fc1c149afbf4c8996fb92427ae41e4649b934ca495991b7852b855"
  createdAt := "2026-01-05T08:00:00.000Z"
  alarmRows := some (.array [])
  stageDurations := .object []
  occurredAt _ := "2026-01-05T08:00:00.000+00:00"
  diagnostics _ := []

theorem sampleStart_begins : Begins sampleSetting sampleStart := by
  have facts : (∃ job ∈ Queue.sampleStore.tables.workerJobs, job.jobId = Queue.runLease.jobId ∧
      job.attemptId = some Queue.runLease.attemptId ∧ job.leaseToken = some Queue.runLease.leaseToken ∧
        job.jobType = .simulation ∧ job.runId = some "run_1" ∧ job.status = .running) ∧
      (∀ row ∈ Queue.sampleStore.tables.simulations, row.cancelRequestedAt = none) ∧
        ∃ row ∈ Queue.sampleStore.tables.workerInstances, row.workerId = "worker-1" := by
    decide +kernel
  rcases facts with ⟨⟨job, member, sameJob, attempt, token, jobType, sameRun, running⟩, unrequested, registered⟩
  refine ⟨⟨Queue.sampleStore_reachable, ⟨job, member, ⟨sameJob, attempt, token, jobType, sameRun, running⟩⟩, ?_, ?_⟩, rfl, rfl⟩
  · exact fun _ row rowMember _ => unrequested row rowMember
  · exact registered

/-- The sample attempt has a run. -/
theorem sample_runs : exists result final,
    (service sampleSetting).logged.Runs (ExceptT.run (runClaim sampleSetting samplePlan)) (sampleStart, []) result final := by
  refine Service.exists_run (fun moment request => ?_) _ _
  rcases @answers_total sampleSetting moment.1 request with ⟨answer, later, answered⟩
  exact ⟨answer, (later, moment.2 ++ [.own request]), answered, rfl⟩

/-- What an attempt leaves on the disk.  A run that ends cancelled has published its results
exactly when the checkpoint behind the renaming of the directory was the first to see the
cancellation, and a commit that comes too late leaves them too. -/
structure Publishes (setting : Setting) (final : State) (course : Course) (result : Except Failure Unit) : Prop where
  finished (status : SimulationStatus) : Queue.Finished setting.runId status final.store.view ->
    (final.writer.committedDirectory.isSome = true ↔
      status = .completed ∨ course = .seen "GENERATING_ARTIFACTS")
  eventRefused (event : Json) : course = .decided (.database (.reportEvent setting.lease event)) ->
    final.writer.committedDirectory = none
  commitRefused : result = .error .leaseLost -> final.writer.committedDirectory.isSome = true
  stopped : result = .error .exception -> final.writer.committedDirectory = none

/-- What the end of a run says of its files. -/
theorem Settles.publishes {status : SimulationStatus} {final : State} {log : List (Happening Request Label)}
    {result : Except Failure Unit} (settles : Settles setting status course published (final, log))
    (shows : published = true ↔ status = .completed ∨ course = .seen "GENERATING_ARTIFACTS")
    (other : forall event, course ≠ .decided (.database (.reportEvent setting.lease event)))
    (returned : exists value, result = .ok value) : Publishes setting final (courseOf setting.runId log) result := by
  rcases returned with ⟨_, rfl⟩
  refine ⟨fun final finished => ?_, fun event decided => ?_, fun impossible => (by cases impossible),
    fun impossible => (by cases impossible)⟩
  · rw [settles.reached, settles.published, shows, settles.finished.unique finished]
  · rw [settles.reached] at decided
    exact absurd decided (other event)

theorem Stands.publishes {final : State} {log : List (Happening Request Label)} {failure : Failure}
    (stands : Stands setting course published (final, log))
    (other : published = true -> forall event, course ≠ .decided (.database (.reportEvent setting.lease event)))
    (lost : failure = .leaseLost -> published = true) (raised : failure = .exception -> published = false) :
    Publishes setting final (courseOf setting.runId log) (.error failure) := by
  refine ⟨fun status finished => absurd finished (stands.attended.not_finished course.status_active),
    fun event decided => ?_, fun same => ?_, fun same => ?_⟩
  · rw [stands.reached] at decided
    rw [← Option.not_isSome_iff_eq_none]
    intro shown
    exact other (stands.published.symm.trans shown) event decided
  · cases same
    exact stands.published.trans (lost rfl)
  · cases same
    have shown := stands.published.trans (raised rfl)
    rw [← Option.not_isSome_iff_eq_none]
    intro isSome
    rw [isSome] at shown
    cases shown

theorem Going.publishes {final : State} {log : List (Happening Request Label)} {failure : Failure}
    (going : Going setting published (final, log)) (lost : failure ≠ .leaseLost)
    (raised : failure = .exception -> published = false) :
    Publishes setting final (courseOf setting.runId log) (.error failure) := by
  rcases going with stands | stands
  · exact stands.publishes (fun _ _ impossible => by cases impossible) (fun same => absurd same lost) raised
  · exact stands.publishes (fun _ _ impossible => by cases impossible) (fun same => absurd same lost) raised

end Attempts
end Worker
end FederatedIot
