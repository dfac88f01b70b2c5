import FederatedIot.Queue.Continuity
import FederatedIot.Queue.Fencing

namespace FederatedIot
namespace Queue

open Foundation Foundation.Relation Foundation.Outcome

/-!
# The capacity of the queue

Admission counts the runs that execute and the runs that wait.  The slot is
shared with preflight jobs and is taken by the worker's own transaction, so
the bound cannot be read off the admission check alone: no lifecycle step
brings a run back among the open ones or a preflight job back into the queue,
so only admissions can make the two counts grow, and each admission checks the
count that it is about to increase.
-/

variable {platform : Platform} {store result : Store} {now : Instant}

/-! ## Counts -/

/-- The run executes or waits. -/
def SimulationStatus.isOpen (status : SimulationStatus) : Bool :=
  status.isExecution || status = .queued

def executingRuns (tables : Tables) : Nat :=
  (tables.simulations.filter fun row => row.status.isExecution).length

def waitingRuns (tables : Tables) : Nat :=
  (tables.simulations.filter fun row => row.status = .queued).length

def View.openRuns (view : View) : Nat :=
  (view.runs.filter fun run => run.status.isOpen).length

def View.queuedPreflights (view : View) : Nat :=
  (view.jobs.filter fun job => job.jobType = .datasetPreflight && job.status = .queued).length

/-- No run executes and waits at once. -/
theorem isExecution_of_queued {status : SimulationStatus} (queued : status = .queued) :
    status.isExecution = false := by
  rw [queued]
  rfl

theorem length_filter_isOpen (rows : List Simulation) :
    (rows.filter fun row => row.status.isOpen).length =
      (rows.filter fun row => row.status.isExecution).length +
        (rows.filter fun row => row.status = .queued).length := by
  induction rows with
  | nil => rfl
  | cons row rest inductionHypothesis =>
      by_cases queued : row.status = .queued
      · have still := isExecution_of_queued queued
        rw [List.filter_cons_of_pos (by simp [SimulationStatus.isOpen, queued]),
          List.filter_cons_of_neg (by simp [still]), List.filter_cons_of_pos (by simp [queued])]
        simp only [List.length_cons]
        omega
      · cases executing : row.status.isExecution with
        | true =>
            rw [List.filter_cons_of_pos (by simp [SimulationStatus.isOpen, executing]),
              List.filter_cons_of_pos (by simp [executing]),
              List.filter_cons_of_neg (by simp [queued])]
            simp only [List.length_cons]
            omega
        | false =>
            rw [List.filter_cons_of_neg (by simp [SimulationStatus.isOpen, executing, queued]),
              List.filter_cons_of_neg (by simp [executing]),
              List.filter_cons_of_neg (by simp [queued])]
            exact inductionHypothesis

theorem openRuns_store (store : Store) :
    store.view.openRuns = executingRuns store.tables + waitingRuns store.tables := by
  have mapped : store.view.openRuns =
      (store.tables.simulations.filter fun row => row.status.isOpen).length := by
    unfold View.openRuns Store.view Tables.view
    rw [List.filter_map, List.length_map]
    rfl
  rw [mapped, length_filter_isOpen]
  rfl

theorem queuedPreflights_store (store : Store) :
    store.view.queuedPreflights = queuedPreflights store.tables := by
  unfold View.queuedPreflights Store.view Tables.view
  rw [List.filter_map, List.length_map]
  rfl

/-! ## Steps -/

theorem runAdvance_isOpen {status next : JobStatus} (advance : View.RunAdvance status next) :
    status.simulationStatus.isOpen = true := by
  cases advance <;> rfl

namespace View

variable {view target : View}

/-- A step makes the open runs grow at most by the runs that it adds. -/
theorem Step.openRuns_le (step : Step view target) (coherent : view.Coherent) :
    target.openRuns + view.runs.length ≤ view.openRuns + target.runs.length := by
  cases step.move with
  | registerDataset datasetId jobId => exact Nat.le_refl _
  | createRun jobId datasetId key =>
      unfold openRuns
      rw [List.filter_append, List.length_append, List.length_append]
      have single := List.length_filter_le (fun run : RunView => run.status.isOpen)
        [{ runId := key.runId, status := .queued, artifactState := .notStarted }]
      omega
  | advanceRun job runId status assign artifacts jobMember jobRun advance publishes =>
      have fewer : (update view.runs (fun run => run.runId = runId) assign |>.filter
          fun run => run.status.isOpen).length ≤
          (view.runs.filter fun run => run.status.isOpen).length := by
        apply length_filter_update_le
        intro run member selected _
        rw [coherent.agreement job jobMember run member
          (by rw [jobRun, of_decide_eq_true selected])]
        exact runAdvance_isOpen advance
      have sameLength := length_update view.runs (fun run => run.runId = runId) assign
      unfold openRuns setRun setJob addArtifacts
      dsimp only
      omega
  | advancePreflight job status jobMember jobRun advance => exact Nat.le_refl _

/-- A step makes the queued preflights grow at most by the jobs that it adds. -/
theorem Step.queuedPreflights_le (step : Step view target) :
    target.queuedPreflights + view.jobs.length ≤ view.queuedPreflights + target.jobs.length := by
  have fewer : forall (jobId : String) (status : JobStatus), status ≠ .queued ->
      (view.setJob jobId status).queuedPreflights + view.jobs.length ≤
        view.queuedPreflights + (view.setJob jobId status).jobs.length := by
    intro jobId status left
    have counted := @length_filter_update_le _ view.jobs (fun job => job.jobId = jobId)
      (fun job => job.jobType = .datasetPreflight && job.status = .queued) (advanced status)
      (by
        intro job _ _ queued
        rw [Bool.and_eq_true, decide_eq_true_eq, decide_eq_true_eq] at queued
        exact absurd queued.2 left)
    have sameLength := length_update view.jobs (fun job => job.jobId = jobId) (advanced status)
    unfold View.queuedPreflights setJob
    dsimp only
    omega
  cases step.move with
  | registerDataset datasetId jobId =>
      unfold View.queuedPreflights
      rw [List.filter_append, List.length_append, List.length_append]
      have single := List.length_filter_le
        (fun job : JobView => job.jobType = .datasetPreflight && job.status = .queued)
        [{ jobId, jobType := .datasetPreflight, datasetId, runId := none, status := .queued
           unleased := true }]
      omega
  | createRun jobId datasetId key =>
      unfold View.queuedPreflights
      rw [List.filter_append, List.length_append, List.length_append]
      have single := List.length_filter_le
        (fun job : JobView => job.jobType = .datasetPreflight && job.status = .queued)
        [{ jobId, jobType := .simulation, datasetId, runId := some key.runId, status := .queued
           unleased := true }]
      omega
  | advanceRun job runId status assign artifacts jobMember jobRun advance publishes =>
      exact fewer job.jobId status (runAdvance_ne_queued advance)
  | advancePreflight job status jobMember jobRun advance =>
      exact fewer job.jobId status (preflightAdvance_ne_queued advance)

end View

theorem Steps.openRuns_le {view target : View} (steps : Steps view target)
    (coherent : view.Coherent) :
    target.openRuns + view.runs.length ≤ view.openRuns + target.runs.length := by
  induction steps with
  | refl => exact Nat.le_refl _
  | tail earlier step inductionHypothesis =>
      have last := step.openRuns_le (Steps.coherent earlier coherent)
      omega

theorem Steps.queuedPreflights_le {view target : View} (steps : Steps view target) :
    target.queuedPreflights + view.jobs.length ≤ view.queuedPreflights + target.jobs.length := by
  induction steps with
  | refl => exact Nat.le_refl _
  | tail _ step inductionHypothesis =>
      have last := step.queuedPreflights_le
      omega

/-! ## The bound -/

/-- What the queue never exceeds: one run in the execution slot, eleven open
runs, and as many queued preflight jobs as are configured. -/
structure WithinCapacity (tables : Tables) : Prop where
  slot : executingRuns tables ≤ 1
  runs : executingRuns tables + waitingRuns tables ≤ 11
  preflights : ∀ control ∈ tables.schedulerControl,
    (queuedPreflights tables : Int) ≤ control.preflightQueueCapacity

/-- The index on the execution slot. -/
theorem executingRuns_le_one (store : Store) : executingRuns store.tables ≤ 1 :=
  store.unique.runSlot

/-- With room for another run there are at most ten open ones. -/
theorem openRuns_of_hasCapacity (room : hasCapacity store.tables = true) :
    executingRuns store.tables + waitingRuns store.tables ≤ 10 := by
  have slot := executingRuns_le_one store
  unfold hasCapacity simulationWaitCapacity at room
  unfold executingRuns waitingRuns at *
  simp only [Bool.not_eq_true', Bool.or_eq_false_iff, Bool.and_eq_false_iff,
    decide_eq_false_iff_not] at room
  omega

/-- Without room there are eleven open runs at least. -/
theorem openRuns_of_full (full : hasCapacity store.tables = false) :
    11 ≤ executingRuns store.tables + waitingRuns store.tables := by
  unfold hasCapacity simulationWaitCapacity at full
  unfold executingRuns waitingRuns
  simp only [Bool.not_eq_false', Bool.or_eq_true, Bool.and_eq_true, decide_eq_true_eq] at full
  omega

theorem length_of_map_eq {ρ ν : Type} {column : ρ -> ν} {first second : List ρ}
    (same : first.map column = second.map column) : first.length = second.length := by
  have lengths := congrArg List.length same
  rw [List.length_map, List.length_map] at lengths
  exact lengths

/-- A transaction that keeps the rows does not raise the counts. -/
theorem KeepsRows.withinCapacity (kept : KeepsRows store result)
    (steps : Steps store.view result.view) (coherent : store.view.Coherent)
    (within : WithinCapacity store.tables) : WithinCapacity result.tables := by
  have runs := steps.openRuns_le coherent
  have preflights := steps.queuedPreflights_le
  have sameRuns : result.view.runs.length = store.view.runs.length := by
    rw [show result.view.runs.length = result.tables.simulations.length from List.length_map _,
      length_of_map_eq kept.runs]
    exact (List.length_map _).symm
  have sameJobs : result.view.jobs.length = store.view.jobs.length := by
    rw [show result.view.jobs.length = result.tables.workerJobs.length from List.length_map _,
      length_of_map_eq kept.jobs]
    exact (List.length_map _).symm
  rw [openRuns_store, openRuns_store] at runs
  rw [queuedPreflights_store, queuedPreflights_store] at preflights
  refine ⟨executingRuns_le_one result, ?_, ?_⟩
  · have bound := within.runs
    omega
  · intro control present
    rw [kept.control] at present
    have bound := within.preflights control present
    omega

theorem AdmitsPreflight.withinCapacity {job : WorkerJob} (admits : AdmitsPreflight store result job)
    (within : WithinCapacity store.tables) : WithinCapacity result.tables := by
  refine ⟨executingRuns_le_one result, ?_, ?_⟩
  · unfold executingRuns waitingRuns
    rw [admits.runs]
    exact within.runs
  · intro control present
    rw [admits.control] at present
    have room := admits.room control present
    unfold queuedPreflights at room ⊢
    rw [admits.jobs, List.filter_append, List.length_append]
    have single := List.length_filter_le
      (fun job : WorkerJob => job.jobType = .datasetPreflight && job.status = .queued) [job]
    rw [List.length_singleton] at single
    omega

theorem AdmitsRun.withinCapacity {run : Simulation} {job : WorkerJob}
    (admits : AdmitsRun store result run job) (within : WithinCapacity store.tables) :
    WithinCapacity result.tables := by
  refine ⟨executingRuns_le_one result, ?_, ?_⟩
  · have room := openRuns_of_hasCapacity admits.room
    have active : run.status.isExecution = false := isExecution_of_queued admits.runQueued
    unfold executingRuns waitingRuns at room ⊢
    rw [admits.runs, List.filter_append, List.filter_append, List.length_append,
      List.length_append, List.filter_cons_of_neg (by simp [active]),
      List.filter_cons_of_pos (by simp [admits.runQueued])]
    simp only [List.filter_nil, List.length_nil, List.length_singleton]
    omega
  · intro control present
    rw [admits.control] at present
    have bound := within.preflights control present
    unfold queuedPreflights at bound ⊢
    rw [admits.jobs, List.filter_append, List.length_append,
      List.filter_cons_of_neg (by simp [admits.jobKind])]
    simpa using bound

theorem initial_withinCapacity (now : Instant) : WithinCapacity (initialStore now).tables := by
  refine ⟨Nat.zero_le 1, Nat.zero_le 11, ?_⟩
  intro control present
  cases present
  exact Int.natCast_nonneg 4

/-- Every history stays within the capacity of the queue. -/
theorem reachable_withinCapacity (reachable : Reachable platform store) :
    WithinCapacity store.tables := by
  refine System.Reachable.invariant (fun store => WithinCapacity store.tables) ?_ ?_ reachable
  · rintro start ⟨now, rfl⟩
    exact initial_withinCapacity now
  · intro source call target sourceReachable step within
    have coherent := reachable_coherent sourceReachable
    cases step.effect with
    | keeps kept => exact kept.withinCapacity (step.steps coherent) coherent within
    | admitsPreflight job admits => exact admits.withinCapacity within
    | admitsRun run job admits => exact admits.withinCapacity within

/-! ## Refusals -/

/-- The error is not the answer that the queue is full. -/
def NotFull (error : StableError) : Prop :=
  error.code ≠ "QUEUE_FULL"

instance notFullDecidable (error : StableError) : Decidable (NotFull error) :=
  inferInstanceAs (Decidable (_ ≠ _))

theorem validateAgents_notFull (seen : List Int) (agents : List AgentOverride) :
    OnlyRefuses NotFull (validateAgents seen agents) := by
  induction agents generalizing seen with
  | nil => exact .ok _
  | cons agent rest inductionHypothesis =>
      refine .bind (.require (by decide)) fun _ _ => ?_
      refine .bind (.require (show "AGENT_OVERRIDE_NOT_ALLOWED" ≠ "QUEUE_FULL" by decide))
        fun _ _ => ?_
      exact inductionHypothesis _

theorem validate_notFull (request : CreateSimulationRequest) :
    OnlyRefuses NotFull request.validate := by
  refine .bind (.require (by decide)) fun _ _ => ?_
  refine .bind (.require (by decide)) fun _ _ => ?_
  refine .bind (.require (by decide)) fun _ _ => ?_
  refine .bind (.require (by decide)) fun _ _ => ?_
  exact validateAgents_notFull [] request.agentOverrides

theorem validateCreate_notFull (key : String) (request : CreateSimulationRequest) :
    OnlyRefuses NotFull (validateCreate platform key request) := by
  refine .bind (.require (by decide)) fun _ _ => ?_
  refine .bind (.require (by decide)) fun _ _ => ?_
  exact validate_notFull request

theorem validateReferenceProfile_notFull (normalized : Json) (storedSha : String) :
    OnlyRefuses NotFull (validateReferenceProfile platform normalized storedSha) := by
  have integrity : NotFull referenceProfileIntegrityError := by decide
  refine .bind ?_ fun _ _ => ?_
  · split
    · exact .ok _
    · exact .error integrity
  refine .bind (.require integrity) fun _ _ => ?_
  refine .bind (.require integrity) fun _ _ => ?_
  refine .bind (.require integrity) fun _ _ => ?_
  refine .bind (.require integrity) fun _ _ => ?_
  refine .bind ?_ fun _ _ => ?_
  · split
    · exact .ok _
    · exact .error integrity
  exact .require integrity

theorem admissibleDataset_notFull (request : CreateSimulationRequest) (tables : Tables) :
    OnlyRefuses NotFull (admissibleDataset request tables) := by
  unfold admissibleDataset
  split
  · exact .error (by decide)
  · split
    · exact .ok _
    · exact .error (by decide)

theorem admissibleProfile_notFull (request : CreateSimulationRequest) (tables : Tables) :
    OnlyRefuses NotFull (admissibleProfile platform request tables) := by
  unfold admissibleProfile
  split
  · exact .error (by decide)
  · refine .bind (.require (by decide)) fun _ _ => ?_
    split
    · refine .bind (validateReferenceProfile_notFull _ _) fun _ _ => ?_
      exact .ok _
    · exact .ok _

theorem admissibleMapping_notFull (request : CreateSimulationRequest) (tables : Tables) :
    OnlyRefuses NotFull (admissibleMapping request tables) := by
  unfold admissibleMapping
  split
  · exact .error (by decide)
  · refine .bind (.require (by decide)) fun _ _ => ?_
    exact .ok _

/-- A stable fault of the service is not the answer that the queue is full. -/
def FaultNotFull (fault : Fault) : Prop :=
  forall error, fault = .stable error -> NotFull error

theorem ofPg_notFull {α : Type} (outcome : Except PgError α) :
    OnlyRefuses FaultNotFull (Fault.ofPg outcome) := by
  cases outcome with
  | ok value => exact .ok value
  | error error => exact .error fun stable same => (by cases same)

theorem ofText_notFull {α : Type} (outcome : Except String α) :
    OnlyRefuses FaultNotFull (Fault.ofText outcome) := by
  cases outcome with
  | ok value => exact .ok value
  | error message => exact .error fun stable same => (by cases same)

theorem stable_notFull {error : StableError} (other : NotFull error) :
    FaultNotFull (.stable error) := by
  intro same equal
  cases equal
  exact other

theorem ofStable_notFull {α : Type} {outcome : Except StableError α}
    (refusals : OnlyRefuses NotFull outcome) : OnlyRefuses FaultNotFull (ofStable outcome) := by
  cases outcome with
  | ok value => exact .ok value
  | error error => exact .error (stable_notFull (refusals error rfl))

theorem simulationById_notFull (runId : String) (tables : Tables) :
    OnlyRefuses FaultNotFull (simulationById runId tables) := by
  unfold simulationById
  split
  · exact .ok _
  · exact .error (stable_notFull (by decide))

theorem admitRun_notFull {clock : Instant} {identifiers : Identifiers} {key : String}
    {request : CreateSimulationRequest} {inputs : AdmissionInputs} :
    OnlyRefuses FaultNotFull
      (admitRun platform now clock identifiers key request inputs store) := by
  refine .bind (ofText_notFull _) fun _ _ => ?_
  refine .bind (.require (stable_notFull (by decide))) fun _ _ => ?_
  refine .bind (ofText_notFull _) fun _ _ => ?_
  refine .bind (ofPg_notFull _) fun _ _ => ?_
  refine .bind (ofPg_notFull _) fun _ _ => ?_
  refine .bind (ofPg_notFull _) fun _ _ => ?_
  refine .bind (ofPg_notFull _) fun _ _ => ?_
  refine .bind (ofPg_notFull _) fun _ _ => ?_
  refine .bind (ofPg_notFull _) fun _ _ => ?_
  refine .bind (simulationById_notFull _ _) fun _ _ => ?_
  exact .ok _

/-- With room in the queue the checks of an admission do not answer that it is
full. -/
theorem checkAdmission_notFull {request : CreateSimulationRequest}
    (room : hasCapacity store.tables = true) :
    OnlyRefuses NotFull (checkAdmission platform request store.tables) := by
  refine .bind (admissibleDataset_notFull _ _) fun _ _ => ?_
  refine .bind (admissibleProfile_notFull _ _) fun _ _ => ?_
  refine .bind (admissibleMapping_notFull _ _) fun _ _ => ?_
  rw [require_of queueFull room]
  exact .ok _

/-- With room in the queue `CreateSimulation` does not answer that it is full. -/
theorem createSimulation_notFull {clock : Instant} {identifiers : Identifiers} {key : String}
    {request : CreateSimulationRequest} (room : hasCapacity store.tables = true) :
    OnlyRefuses FaultNotFull
      (createSimulation platform now clock identifiers key request store) := by
  refine .bind (ofStable_notFull (validateCreate_notFull key request)) fun _ _ => ?_
  unfold createSimulationTx
  split
  · refine .bind (.require (stable_notFull (by decide))) fun _ _ => ?_
    refine .bind (simulationById_notFull _ _) fun _ _ => ?_
    exact .ok _
  · refine .bind (ofStable_notFull (checkAdmission_notFull room)) fun _ _ => ?_
    refine .bind admitRun_notFull fun _ _ => ?_
    exact .ok _

/-! ## The claim -/

/-- In every history at most one run executes, at most eleven runs are open and
the queued preflight jobs stay within their configured number; and a run is
refused because the queue is full only when it would be the twelfth open run. -/
theorem admission_capacity (reachable : Reachable platform store) :
    WithinCapacity store.tables ∧
      forall now clock identifiers key request error,
        execute platform now (.createSimulation clock identifiers key request) store =
          .error (.stable error) -> error.code = "QUEUE_FULL" ->
            11 < executingRuns store.tables + (waitingRuns store.tables + 1) := by
  refine ⟨reachable_withinCapacity reachable, ?_⟩
  intro now clock identifiers key request error refused full
  have failed : createSimulation platform now clock identifiers key request store =
      .error (.stable error) := answer_error_iff.mp refused
  have noRoom : hasCapacity store.tables = false := by
    apply Bool.eq_false_iff.mpr
    intro room
    exact createSimulation_notFull room _ failed error rfl full
  exact Nat.lt_succ_of_le (openRuns_of_full noRoom)

/-- In the sample history the slot is taken and nothing waits. -/
theorem admission_capacity_sample :
    (WithinCapacity sampleStore.tables ∧
      forall now clock identifiers key request error,
        execute samplePlatform now (.createSimulation clock identifiers key request) sampleStore =
          .error (.stable error) -> error.code = "QUEUE_FULL" ->
            11 < executingRuns sampleStore.tables + (waitingRuns sampleStore.tables + 1)) ∧
      executingRuns sampleStore.tables = 1 ∧ waitingRuns sampleStore.tables = 0 :=
  ⟨admission_capacity sampleStore_reachable, by decide +kernel⟩

end Queue
end FederatedIot
