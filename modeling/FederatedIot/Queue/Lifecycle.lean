import FederatedIot.Queue.Store
import FederatedIot.Foundation.Transition

namespace FederatedIot
namespace Queue

open Foundation Foundation.Relation

/-!
# The lifecycle behind the tables

The queue exists to carry each job through one lifecycle: admitted, started
once in the single execution slot, and settled once.  The tables record the
position of a job in that lifecycle two or three times, in `worker_jobs`, in
`simulations` or `datasets`, and by the rows of `artifacts`.  A run comes into
being together with its snapshot and the use of its idempotency key.

A `View` keeps exactly those records.  A `Move` advances one job along its
lifecycle and rewrites all of its records together.  `Coherent` says that the
records agree, and every move keeps them in agreement.  What the transactions
do to a view is shown elsewhere to be a sequence of moves.
-/

structure JobView where
  jobId : String
  jobType : JobType
  datasetId : String
  runId : Option String
  status : JobStatus
  unleased : Bool

structure RunView where
  runId : String
  status : SimulationStatus
  artifactState : ArtifactState

structure DatasetView where
  datasetId : String
  status : DatasetStatus

/-- The name of a stored artifact of a run, and whether it is required. -/
structure ArtifactView where
  runId : String
  name : String
  required : Bool
  deriving DecidableEq

structure View where
  control : Option SchedulerControl
  jobs : List JobView
  runs : List RunView
  datasets : List DatasetView
  artifacts : List ArtifactView
  snapshots : List String
  keys : List IdempotencyKey

/-- No lease column of the job is present. -/
def WorkerJob.isUnleased (job : WorkerJob) : Bool :=
  !(job.attemptId.isSome || job.leaseToken.isSome || job.leaseExpiresAt.isSome)

def WorkerJob.view (job : WorkerJob) : JobView :=
  { jobId := job.jobId, jobType := job.jobType, datasetId := job.datasetId, runId := job.runId
    status := job.status, unleased := job.isUnleased }

def Simulation.view (row : Simulation) : RunView :=
  { runId := row.runId, status := row.status, artifactState := row.artifactState }

def Dataset.view (dataset : Dataset) : DatasetView :=
  { datasetId := dataset.datasetId, status := dataset.status }

def Artifact.view (artifact : Artifact) : ArtifactView :=
  { runId := artifact.runId, name := artifact.name, required := artifact.required }

/-- The lifecycle records of the tables. -/
def Tables.view (tables : Tables) : View :=
  { control := tables.schedulerControl
    jobs := tables.workerJobs.map WorkerJob.view
    runs := tables.simulations.map Simulation.view
    datasets := tables.datasets.map Dataset.view
    artifacts := tables.artifacts.map Artifact.view
    snapshots := tables.simulationSnapshots.map SimulationSnapshot.runId
    keys := tables.idempotencyKeys }

def Store.view (store : Store) : View :=
  store.tables.view

def requiredArtifactNames : List String :=
  ["run_manifest.json", "preprocessing_summary.json", "agent_partition_summary.csv",
    "feature_schema.json", "anchor_summary.json", "metrics.csv", "results_agent_1.csv",
    "results_agent_2.csv", "results_agent_3.csv", "alarms.csv", "diagnostics.json",
    "artifact_manifest.json"]

namespace View

variable {view target : View}

/-! ## Well-formed views -/

/-- What the constraints of the schema say about a view. -/
structure WellFormed (view : View) : Prop where
  jobId : Keyed JobView.jobId view.jobs
  jobRun : KeyedWhenPresent JobView.runId view.jobs
  runId : Keyed RunView.runId view.runs
  datasetId : Keyed DatasetView.datasetId view.datasets
  jobDataset : References JobView.datasetId DatasetView.datasetId view.jobs view.datasets
  jobHasRun : ReferencesWhenPresent JobView.runId RunView.runId view.jobs view.runs
  jobType : ∀ job ∈ view.jobs, job.jobType = .simulation ↔ job.runId.isSome
  slot : AtMostOne (fun job : JobView => job.status.isActive) view.jobs

/-- The view of a store is well formed. -/
theorem wellFormed_of_store (store : Store) : store.view.WellFormed where
  jobId := store.unique.jobId.map fun _ => rfl
  jobRun := store.unique.jobRun.map fun _ => rfl
  runId := store.unique.runId.map fun _ => rfl
  datasetId := store.unique.datasetId.map fun _ => rfl
  jobDataset := by
    intro job member
    rcases List.mem_map.mp member with ⟨row, rowMember, rfl⟩
    rcases store.foreign.jobDataset row rowMember with ⟨dataset, datasetMember, same⟩
    exact ⟨dataset.view, List.mem_map_of_mem datasetMember, same⟩
  jobHasRun := by
    intro job member runId present
    rcases List.mem_map.mp member with ⟨row, rowMember, rfl⟩
    rcases store.foreign.jobRun row rowMember runId present with ⟨run, runMember, same⟩
    exact ⟨run.view, List.mem_map_of_mem runMember, same⟩
  jobType := by
    intro job member
    rcases List.mem_map.mp member with ⟨row, rowMember, rfl⟩
    exact (store.checks.workerJobs row rowMember).1
  slot := by
    have single := store.unique.jobSlot
    unfold AtMostOne at single ⊢
    change ((store.tables.workerJobs.map WorkerJob.view).filter _).length ≤ 1
    rw [List.filter_map, List.length_map]
    exact single

/-! ## Moves -/

/-- The legal advances of a job with a run. -/
inductive RunAdvance : JobStatus -> JobStatus -> Prop
  | start : RunAdvance .queued .running
  | withdraw : RunAdvance .queued .cancelled
  | requestCancel : RunAdvance .running .cancelling
  | settle {outcome : JobStatus} : outcome.isTerminal = true -> RunAdvance .running outcome
  | confirmCancel : RunAdvance .cancelling .cancelled

/-- The legal advances of a preflight job. -/
inductive PreflightAdvance : JobStatus -> JobStatus -> Prop
  | start : PreflightAdvance .queued .running
  | settle {outcome : JobStatus} : outcome.isTerminal = true -> PreflightAdvance .running outcome

/-- A settled job does not advance. -/
theorem RunAdvance.not_terminal {status next : JobStatus} (advance : RunAdvance status next) :
    status.isTerminal = false := by
  cases advance <;> rfl

theorem PreflightAdvance.not_terminal {status next : JobStatus}
    (advance : PreflightAdvance status next) : status.isTerminal = false := by
  cases advance <;> rfl

/-- A preflight is never in the state of a requested cancellation. -/
theorem PreflightAdvance.ne_cancelling {status next : JobStatus}
    (advance : PreflightAdvance status next) : next ≠ .cancelling := by
  rintro rfl
  cases advance with
  | settle terminal => cases terminal

/-- The dataset status that goes with the status of its preflight job. -/
def preflightDatasetStatus : JobStatus -> DatasetStatus
  | .queued | .running | .cancelling => .validating
  | .completed => .valid
  | _ => .invalid

/-- A job in the given status, with a lease exactly while it is active. -/
def advanced (status : JobStatus) (job : JobView) : JobView :=
  { job with status, unleased := !status.isActive }

@[simp]
theorem advanced_runId (status : JobStatus) (job : JobView) :
    (advanced status job).runId = job.runId :=
  rfl

@[simp]
theorem advanced_datasetId (status : JobStatus) (job : JobView) :
    (advanced status job).datasetId = job.datasetId :=
  rfl

def setJob (view : View) (jobId : String) (status : JobStatus) : View :=
  { view with jobs := update view.jobs (fun job => job.jobId = jobId) (advanced status) }

def setRun (view : View) (runId : String) (assign : RunView -> RunView) : View :=
  { view with runs := update view.runs (fun run => run.runId = runId) assign }

def setDataset (view : View) (datasetId : String) (status : DatasetStatus) : View :=
  { view with
    datasets := update view.datasets (fun dataset => dataset.datasetId = datasetId)
      fun dataset => { dataset with status } }

def addArtifacts (view : View) (artifacts : List ArtifactView) : View :=
  { view with artifacts := view.artifacts ++ artifacts }

theorem setRun_setRun (view : View) (runId : String) (first second : RunView -> RunView)
    (kept : forall run, (first run).runId = run.runId) :
    (view.setRun runId first).setRun runId second =
      view.setRun runId fun run => second (first run) := by
  unfold setRun
  rw [update_update fun run => by rw [kept run]]

/-- All required artifacts of the run are among the rows. -/
def HasRequiredArtifacts (artifacts : List ArtifactView) (runId : String) : Prop :=
  ∀ name ∈ requiredArtifactNames, { runId, name, required := true } ∈ artifacts

/-- What an advance of a run does to its own record: the status follows the
job, and only a completed run has committed artifacts, all of them present. -/
structure Publishes (artifacts : List ArtifactView) (runId : String) (status : JobStatus)
    (assign : RunView -> RunView) : Prop where
  sameRun : forall run, (assign run).runId = run.runId
  sameStatus : forall run, (assign run).status = status.simulationStatus
  committed : forall run, status = .completed -> (assign run).artifactState = .committed
  uncommitted : forall run, status ≠ .completed -> run.artifactState ≠ .committed ->
    (assign run).artifactState ≠ .committed
  required : status = .completed -> HasRequiredArtifacts artifacts runId

/-- One advance of one job, with all records of it rewritten together. -/
inductive Move : View -> View -> Prop
  | registerDataset (view : View) (datasetId jobId : String) :
      Move view
        { view with
          datasets := view.datasets ++ [{ datasetId, status := .validating }]
          jobs := view.jobs ++
            [{ jobId, jobType := .datasetPreflight, datasetId, runId := none, status := .queued
               unleased := true }] }
  | createRun (view : View) (jobId datasetId : String) (key : IdempotencyKey) :
      Move view
        { view with
          runs := view.runs ++
            [{ runId := key.runId, status := .queued, artifactState := .notStarted }]
          jobs := view.jobs ++
            [{ jobId, jobType := .simulation, datasetId, runId := some key.runId
               status := .queued, unleased := true }]
          snapshots := view.snapshots ++ [key.runId]
          keys := view.keys ++ [key] }
  | advanceRun (view : View) (job : JobView) (runId : String) (status : JobStatus)
      (assign : RunView -> RunView) (artifacts : List ArtifactView) :
      job ∈ view.jobs -> job.runId = some runId -> RunAdvance job.status status ->
      Publishes (view.artifacts ++ artifacts) runId status assign ->
      Move view (((view.setJob job.jobId status).setRun runId assign).addArtifacts artifacts)
  | advancePreflight (view : View) (job : JobView) (status : JobStatus) :
      job ∈ view.jobs -> job.runId = none -> PreflightAdvance job.status status ->
      Move view
        ((view.setJob job.jobId status).setDataset job.datasetId (preflightDatasetStatus status))

/-- A move between well-formed views. -/
structure Step (view target : View) : Prop where
  source : view.WellFormed
  move : Move view target
  target : target.WellFormed

/-! ## Agreement of the records -/

structure Coherent (view : View) : Prop where
  control : view.control.isSome
  agreement : ∀ job ∈ view.jobs, ∀ run ∈ view.runs, job.runId = some run.runId ->
    run.status = job.status.simulationStatus
  runHasJob : ∀ run ∈ view.runs, ∃ job ∈ view.jobs, job.runId = some run.runId
  validation : ∀ job ∈ view.jobs, ∀ dataset ∈ view.datasets, job.runId = none ->
    job.datasetId = dataset.datasetId -> dataset.status = preflightDatasetStatus job.status
  preflight : ∀ dataset ∈ view.datasets, ∃ job ∈ view.jobs,
    job.runId = none ∧ job.datasetId = dataset.datasetId
  onePreflight : ∀ first ∈ view.jobs, ∀ second ∈ view.jobs, first.runId = none ->
    second.runId = none -> first.datasetId = second.datasetId -> first = second
  preflightStatus : ∀ job ∈ view.jobs, job.runId = none -> job.status ≠ .cancelling
  leases : ∀ job ∈ view.jobs, job.unleased = !job.status.isActive
  committed : ∀ run ∈ view.runs, run.status = .completed ↔ run.artifactState = .committed
  published : ∀ run ∈ view.runs, run.artifactState = .committed ->
    HasRequiredArtifacts view.artifacts run.runId
  frozen : ∀ run ∈ view.runs, run.runId ∈ view.snapshots

theorem HasRequiredArtifacts.append {artifacts more : List ArtifactView} {runId : String}
    (present : HasRequiredArtifacts artifacts runId) :
    HasRequiredArtifacts (artifacts ++ more) runId :=
  fun name member => List.mem_append_left more (present name member)

/-! ### Moves keep the agreement -/

private theorem mem_append_single {row : JobView} {rows : List JobView} {job : JobView}
    (member : job ∈ rows ++ [row]) : job ∈ rows ∨ job = row := by
  rcases List.mem_append.mp member with earlier | last
  · exact Or.inl earlier
  · exact Or.inr (List.mem_singleton.mp last)

theorem coherent_registerDataset {datasetId jobId : String} (wellFormed : view.WellFormed)
    (fresh : ∀ dataset ∈ view.datasets, dataset.datasetId ≠ datasetId) (coherent : view.Coherent) :
    Coherent
      { view with
        datasets := view.datasets ++ [{ datasetId, status := .validating }]
        jobs := view.jobs ++
          [{ jobId, jobType := .datasetPreflight, datasetId, runId := none, status := .queued
             unleased := true }] } := by
  have unused : ∀ job ∈ view.jobs, job.datasetId ≠ datasetId := by
    intro job member same
    rcases wellFormed.jobDataset job member with ⟨dataset, datasetMember, sameDataset⟩
    exact fresh dataset datasetMember (sameDataset.trans same)
  refine ⟨coherent.control, ?_, ?_, ?_, ?_, ?_, ?_, ?_, coherent.committed, coherent.published,
    coherent.frozen⟩
  · intro job member run runMember same
    rcases mem_append_single member with earlier | rfl
    · exact coherent.agreement job earlier run runMember same
    · cases same
  · intro run runMember
    rcases coherent.runHasJob run runMember with ⟨job, member, same⟩
    exact ⟨job, List.mem_append_left _ member, same⟩
  · intro job member dataset datasetMember absent same
    rcases List.mem_append.mp datasetMember with datasetEarlier | datasetLast
    · rcases mem_append_single member with earlier | rfl
      · exact coherent.validation job earlier dataset datasetEarlier absent same
      · exact absurd same.symm (fresh dataset datasetEarlier)
    · rw [List.mem_singleton] at datasetLast
      subst datasetLast
      rcases mem_append_single member with earlier | rfl
      · exact absurd same (unused job earlier)
      · rfl
  · intro dataset datasetMember
    rcases List.mem_append.mp datasetMember with datasetEarlier | datasetLast
    · rcases coherent.preflight dataset datasetEarlier with ⟨job, member, absent, same⟩
      exact ⟨job, List.mem_append_left _ member, absent, same⟩
    · rw [List.mem_singleton] at datasetLast
      subst datasetLast
      exact ⟨_, List.mem_append_right _ (List.mem_singleton.mpr rfl), rfl, rfl⟩
  · intro first firstMember second secondMember firstAbsent secondAbsent same
    rcases mem_append_single firstMember with firstEarlier | rfl
    · rcases mem_append_single secondMember with secondEarlier | rfl
      · exact coherent.onePreflight first firstEarlier second secondEarlier firstAbsent
          secondAbsent same
      · exact absurd same (unused first firstEarlier)
    · rcases mem_append_single secondMember with secondEarlier | rfl
      · exact absurd same.symm (unused second secondEarlier)
      · rfl
  · intro job member absent
    rcases mem_append_single member with earlier | rfl
    · exact coherent.preflightStatus job earlier absent
    · intro same
      cases same
  · intro job member
    rcases mem_append_single member with earlier | rfl
    · exact coherent.leases job earlier
    · rfl

theorem coherent_createRun {jobId datasetId : String} {key : IdempotencyKey}
    (wellFormed : view.WellFormed) (fresh : ∀ run ∈ view.runs, run.runId ≠ key.runId)
    (coherent : view.Coherent) :
    Coherent
      { view with
        runs := view.runs ++
          [{ runId := key.runId, status := .queued, artifactState := .notStarted }]
        jobs := view.jobs ++
          [{ jobId, jobType := .simulation, datasetId, runId := some key.runId
             status := .queued, unleased := true }]
        snapshots := view.snapshots ++ [key.runId]
        keys := view.keys ++ [key] } := by
  have unused : ∀ job ∈ view.jobs, job.runId ≠ some key.runId := by
    intro job member same
    rcases wellFormed.jobHasRun job member key.runId same with ⟨run, runMember, sameRun⟩
    exact fresh run runMember sameRun
  refine ⟨coherent.control, ?_, ?_, ?_, ?_, ?_, ?_, ?_, ?_, ?_, ?_⟩
  · intro job member run runMember same
    rcases List.mem_append.mp runMember with runEarlier | runLast
    · rcases mem_append_single member with earlier | rfl
      · exact coherent.agreement job earlier run runEarlier same
      · exact absurd (Option.some.inj same).symm (fresh run runEarlier)
    · rw [List.mem_singleton] at runLast
      subst runLast
      rcases mem_append_single member with earlier | rfl
      · exact absurd same (unused job earlier)
      · rfl
  · intro run runMember
    rcases List.mem_append.mp runMember with runEarlier | runLast
    · rcases coherent.runHasJob run runEarlier with ⟨job, member, same⟩
      exact ⟨job, List.mem_append_left _ member, same⟩
    · rw [List.mem_singleton] at runLast
      subst runLast
      exact ⟨_, List.mem_append_right _ (List.mem_singleton.mpr rfl), rfl⟩
  · intro job member dataset datasetMember absent same
    rcases mem_append_single member with earlier | rfl
    · exact coherent.validation job earlier dataset datasetMember absent same
    · cases absent
  · intro dataset datasetMember
    rcases coherent.preflight dataset datasetMember with ⟨job, member, absent, same⟩
    exact ⟨job, List.mem_append_left _ member, absent, same⟩
  · intro first firstMember second secondMember firstAbsent secondAbsent same
    rcases mem_append_single firstMember with firstEarlier | rfl
    · rcases mem_append_single secondMember with secondEarlier | rfl
      · exact coherent.onePreflight first firstEarlier second secondEarlier firstAbsent
          secondAbsent same
      · cases secondAbsent
    · cases firstAbsent
  · intro job member absent
    rcases mem_append_single member with earlier | rfl
    · exact coherent.preflightStatus job earlier absent
    · cases absent
  · intro job member
    rcases mem_append_single member with earlier | rfl
    · exact coherent.leases job earlier
    · rfl
  · intro run runMember
    rcases List.mem_append.mp runMember with runEarlier | runLast
    · exact coherent.committed run runEarlier
    · rw [List.mem_singleton] at runLast
      subst runLast
      exact ⟨fun same => (by cases same), fun same => (by cases same)⟩
  · intro run runMember committed
    rcases List.mem_append.mp runMember with runEarlier | runLast
    · exact coherent.published run runEarlier committed
    · rw [List.mem_singleton] at runLast
      subst runLast
      cases committed
  · intro run runMember
    rcases List.mem_append.mp runMember with runEarlier | runLast
    · exact List.mem_append_left _ (coherent.frozen run runEarlier)
    · rw [List.mem_singleton] at runLast
      subst runLast
      exact List.mem_append_right _ (List.mem_singleton.mpr rfl)

/-- A row of the jobs after `setJob`: the advanced job, or another job as it
was. -/
theorem mem_setJob (wellFormed : view.WellFormed) {job : JobView} (jobMember : job ∈ view.jobs)
    {status : JobStatus} {row : JobView} (member : row ∈ (view.setJob job.jobId status).jobs) :
    row = advanced status job ∨ (row ∈ view.jobs ∧ row.jobId ≠ job.jobId) := by
  rcases mem_update_cases member with ⟨old, oldMember, selected, rfl⟩ | ⟨rowMember, passed⟩
  · have same : old = job := wellFormed.jobId.eq_of_mem oldMember jobMember (of_decide_eq_true selected)
    rw [same]
    exact Or.inl rfl
  · exact Or.inr ⟨rowMember, of_decide_eq_false passed⟩

/-- Every job survives `setJob`, with its own or the new status. -/
theorem setJob_mem (jobId : String) (status : JobStatus) {row : JobView}
    (member : row ∈ view.jobs) :
    ∃ job ∈ (view.setJob jobId status).jobs, job.runId = row.runId ∧ job.datasetId = row.datasetId := by
  by_cases same : row.jobId = jobId
  · exact ⟨advanced status row, mem_update_selected member (decide_eq_true same), rfl, rfl⟩
  · exact ⟨row, mem_update_other member (decide_eq_false same), rfl, rfl⟩

theorem coherent_advanceRun {job : JobView} {runId : String} {status : JobStatus}
    {assign : RunView -> RunView} {artifacts : List ArtifactView} (wellFormed : view.WellFormed)
    (jobMember : job ∈ view.jobs) (jobRun : job.runId = some runId)
    (advance : RunAdvance job.status status)
    (publishes : Publishes (view.artifacts ++ artifacts) runId status assign)
    (coherent : view.Coherent) :
    (((view.setJob job.jobId status).setRun runId assign).addArtifacts artifacts).Coherent := by
  have notCompleted : ∀ run ∈ view.runs, run.runId = runId -> run.artifactState ≠ .committed := by
    intro run runMember same committed
    have completed := (coherent.committed run runMember).mpr committed
    have agreed := coherent.agreement job jobMember run runMember (by rw [jobRun, same])
    rw [completed] at agreed
    have terminal : job.status.isTerminal = true := by
      rw [← JobStatus.simulationStatus_isTerminal, ← agreed]
      rfl
    rw [advance.not_terminal] at terminal
    cases terminal
  have otherRun : ∀ row ∈ view.jobs, row.jobId ≠ job.jobId -> row.runId ≠ some runId := by
    intro row rowMember different same
    exact different (congrArg JobView.jobId
      (wellFormed.jobRun.eq_of_mem rowMember jobMember same jobRun))
  refine ⟨coherent.control, ?_, ?_, ?_, ?_, ?_, ?_, ?_, ?_, ?_, ?_⟩
  · intro row member run runMember same
    rcases mem_setJob wellFormed jobMember member with rfl | ⟨rowMember, different⟩
    · rcases mem_update_cases runMember with ⟨old, oldMember, selected, rfl⟩ | ⟨otherMember, passed⟩
      · exact publishes.sameStatus old
      · rw [advanced_runId, jobRun] at same
        exact absurd (Option.some.inj same).symm (of_decide_eq_false passed)
    · rcases mem_update_cases runMember with ⟨old, oldMember, selected, rfl⟩ | ⟨otherMember, passed⟩
      · rw [publishes.sameRun old, of_decide_eq_true selected] at same
        exact absurd same (otherRun row rowMember different)
      · exact coherent.agreement row rowMember run otherMember same
  · intro run runMember
    have source : ∃ old ∈ view.runs, old.runId = run.runId := by
      rcases mem_update_cases runMember with ⟨old, oldMember, selected, rfl⟩ | ⟨otherMember, passed⟩
      · exact ⟨old, oldMember, (publishes.sameRun old).symm⟩
      · exact ⟨run, otherMember, rfl⟩
    rcases source with ⟨old, oldMember, sameRun⟩
    rcases coherent.runHasJob old oldMember with ⟨row, rowMember, same⟩
    rcases setJob_mem job.jobId status rowMember with
      ⟨kept, keptMember, keptRun, _⟩
    exact ⟨kept, keptMember, by rw [keptRun, same, sameRun]⟩
  · intro row member dataset datasetMember absent same
    rcases mem_setJob wellFormed jobMember member with rfl | ⟨rowMember, different⟩
    · rw [advanced_runId, jobRun] at absent
      cases absent
    · exact coherent.validation row rowMember dataset datasetMember absent same
  · intro dataset datasetMember
    rcases coherent.preflight dataset datasetMember with ⟨row, rowMember, absent, same⟩
    rcases setJob_mem job.jobId status rowMember with
      ⟨kept, keptMember, keptRun, keptDataset⟩
    exact ⟨kept, keptMember, by rw [keptRun, absent], by rw [keptDataset, same]⟩
  · intro first firstMember second secondMember firstAbsent secondAbsent same
    rcases mem_setJob wellFormed jobMember firstMember with rfl | ⟨firstOld, _⟩
    · rw [advanced_runId, jobRun] at firstAbsent
      cases firstAbsent
    · rcases mem_setJob wellFormed jobMember secondMember with rfl | ⟨secondOld, _⟩
      · rw [advanced_runId, jobRun] at secondAbsent
        cases secondAbsent
      · exact coherent.onePreflight first firstOld second secondOld firstAbsent secondAbsent same
  · intro row member absent
    rcases mem_setJob wellFormed jobMember member with rfl | ⟨rowMember, _⟩
    · exact absurd (jobRun.symm.trans absent) (Option.some_ne_none runId)
    · exact coherent.preflightStatus row rowMember absent
  · intro row member
    rcases mem_setJob wellFormed jobMember member with rfl | ⟨rowMember, _⟩
    · rfl
    · exact coherent.leases row rowMember
  · intro run runMember
    rcases mem_update_cases runMember with ⟨old, oldMember, selected, rfl⟩ | ⟨otherMember, passed⟩
    · rw [publishes.sameStatus old]
      constructor
      · intro completed
        have same : status.simulationStatus = JobStatus.completed.simulationStatus := completed
        exact publishes.committed old (JobStatus.simulationStatus_injective same)
      · intro committed
        by_contra incomplete
        refine publishes.uncommitted old ?_
          (notCompleted old oldMember (of_decide_eq_true selected)) committed
        rintro rfl
        exact incomplete rfl
    · exact coherent.committed run otherMember
  · intro run runMember committed
    rcases mem_update_cases runMember with ⟨old, oldMember, selected, rfl⟩ | ⟨otherMember, passed⟩
    · rw [publishes.sameRun old, of_decide_eq_true selected]
      apply publishes.required
      by_contra incomplete
      exact publishes.uncommitted old incomplete
        (notCompleted old oldMember (of_decide_eq_true selected)) committed
    · exact (coherent.published run otherMember committed).append
  · intro run runMember
    rcases mem_update_cases runMember with ⟨old, oldMember, _, rfl⟩ | ⟨otherMember, _⟩
    · rw [publishes.sameRun old]
      exact coherent.frozen old oldMember
    · exact coherent.frozen run otherMember

theorem coherent_advancePreflight {job : JobView} {status : JobStatus}
    (wellFormed : view.WellFormed) (jobMember : job ∈ view.jobs) (jobRun : job.runId = none)
    (advance : PreflightAdvance job.status status) (coherent : view.Coherent) :
    ((view.setJob job.jobId status).setDataset job.datasetId
      (preflightDatasetStatus status)).Coherent := by
  refine ⟨coherent.control, ?_, ?_, ?_, ?_, ?_, ?_, ?_, coherent.committed, coherent.published,
    coherent.frozen⟩
  · intro row member run runMember same
    rcases mem_setJob wellFormed jobMember member with rfl | ⟨rowMember, _⟩
    · rw [advanced_runId, jobRun] at same
      cases same
    · exact coherent.agreement row rowMember run runMember same
  · intro run runMember
    rcases coherent.runHasJob run runMember with ⟨row, rowMember, same⟩
    rcases setJob_mem job.jobId status rowMember with
      ⟨kept, keptMember, keptRun, _⟩
    exact ⟨kept, keptMember, by rw [keptRun, same]⟩
  · intro row member dataset datasetMember absent same
    rcases mem_update_cases datasetMember with ⟨old, oldMember, selected, rfl⟩ | ⟨otherMember, passed⟩
    · rcases mem_setJob wellFormed jobMember member with rfl | ⟨rowMember, different⟩
      · rfl
      · have sameDataset : row.datasetId = job.datasetId := same.trans (of_decide_eq_true selected)
        exact absurd (congrArg JobView.jobId
          (coherent.onePreflight row rowMember job jobMember absent jobRun sameDataset)) different
    · rcases mem_setJob wellFormed jobMember member with rfl | ⟨rowMember, _⟩
      · exact absurd same.symm (of_decide_eq_false passed)
      · exact coherent.validation row rowMember dataset otherMember absent same
  · intro dataset datasetMember
    have source : ∃ old ∈ view.datasets, old.datasetId = dataset.datasetId := by
      rcases mem_update_cases datasetMember with ⟨old, oldMember, _, rfl⟩ | ⟨otherMember, _⟩
      · exact ⟨old, oldMember, rfl⟩
      · exact ⟨dataset, otherMember, rfl⟩
    rcases source with ⟨old, oldMember, sameDataset⟩
    rcases coherent.preflight old oldMember with ⟨row, rowMember, absent, same⟩
    rcases setJob_mem job.jobId status rowMember with
      ⟨kept, keptMember, keptRun, keptDataset⟩
    exact ⟨kept, keptMember, by rw [keptRun, absent], by rw [keptDataset, same, sameDataset]⟩
  · intro first firstMember second secondMember firstAbsent secondAbsent same
    rcases mem_setJob wellFormed jobMember firstMember with rfl | ⟨firstOld, firstDifferent⟩
    · rcases mem_setJob wellFormed jobMember secondMember with rfl | ⟨secondOld, secondDifferent⟩
      · rfl
      · exact absurd (congrArg JobView.jobId
          (coherent.onePreflight second secondOld job jobMember secondAbsent jobRun same.symm))
          secondDifferent
    · rcases mem_setJob wellFormed jobMember secondMember with rfl | ⟨secondOld, _⟩
      · exact absurd (congrArg JobView.jobId
          (coherent.onePreflight first firstOld job jobMember firstAbsent jobRun same))
          firstDifferent
      · exact coherent.onePreflight first firstOld second secondOld firstAbsent secondAbsent same
  · intro row member absent
    rcases mem_setJob wellFormed jobMember member with rfl | ⟨rowMember, _⟩
    · exact advance.ne_cancelling
    · exact coherent.preflightStatus row rowMember absent
  · intro row member
    rcases mem_setJob wellFormed jobMember member with rfl | ⟨rowMember, _⟩
    · rfl
    · exact coherent.leases row rowMember

/-- A move does not touch the configuration of the queue. -/
theorem Move.control (move : Move view target) : target.control = view.control := by
  cases move <;> rfl

/-- Every move between well-formed views keeps the records in agreement. -/
theorem Step.coherent (step : Step view target) (coherent : view.Coherent) : target.Coherent := by
  cases step.move with
  | registerDataset datasetId jobId =>
      exact coherent_registerDataset step.source
        (fun dataset member => step.target.datasetId.of_append dataset member) coherent
  | createRun jobId datasetId key =>
      exact coherent_createRun step.source
        (fun run member => step.target.runId.of_append run member) coherent
  | advanceRun job runId status assign artifacts jobMember jobRun advance publishes =>
      exact coherent_advanceRun step.source jobMember jobRun advance publishes coherent
  | advancePreflight job status jobMember jobRun advance =>
      exact coherent_advancePreflight step.source jobMember jobRun advance coherent

/-! ## What a step does to one run or one job -/

/-- After a step a run is as it was, or its job made a legal advance. -/
theorem Step.run_cases (step : Step view target) (coherent : view.Coherent) {run : RunView}
    (member : run ∈ view.runs) :
    ∃ after ∈ target.runs, after.runId = run.runId ∧
      (after = run ∨ ∃ status next, RunAdvance status next ∧
        run.status = status.simulationStatus ∧ after.status = next.simulationStatus ∧
        (next ≠ .completed -> run.artifactState ≠ .committed ->
          after.artifactState ≠ .committed)) := by
  cases step.move with
  | registerDataset datasetId jobId => exact ⟨run, member, rfl, Or.inl rfl⟩
  | createRun jobId datasetId key => exact ⟨run, List.mem_append_left _ member, rfl, Or.inl rfl⟩
  | advanceRun job runId status assign artifacts jobMember jobRun advance publishes =>
      by_cases same : run.runId = runId
      · refine ⟨assign run, mem_update_selected member (decide_eq_true same),
          publishes.sameRun run, Or.inr ⟨job.status, status, advance, ?_, publishes.sameStatus run,
            publishes.uncommitted run⟩⟩
        exact coherent.agreement job jobMember run member (by rw [jobRun, same])
      · exact ⟨run, mem_update_other member (decide_eq_false same), rfl, Or.inl rfl⟩
  | advancePreflight job status jobMember jobRun advance => exact ⟨run, member, rfl, Or.inl rfl⟩

/-- After a step a job is as it was, or it made a legal advance. -/
theorem Step.job_cases (step : Step view target) {job : JobView} (member : job ∈ view.jobs) :
    ∃ after ∈ target.jobs, after.jobId = job.jobId ∧
      (after = job ∨ RunAdvance job.status after.status ∨
        PreflightAdvance job.status after.status) := by
  cases step.move with
  | registerDataset datasetId jobId => exact ⟨job, List.mem_append_left _ member, rfl, Or.inl rfl⟩
  | createRun jobId datasetId key => exact ⟨job, List.mem_append_left _ member, rfl, Or.inl rfl⟩
  | advanceRun moved runId status assign artifacts movedMember movedRun advance publishes =>
      by_cases same : job.jobId = moved.jobId
      · have isMoved := step.source.jobId.eq_of_mem member movedMember same
        refine ⟨advanced status job, mem_update_selected member (decide_eq_true same), rfl, ?_⟩
        rw [isMoved]
        exact Or.inr (Or.inl advance)
      · exact ⟨job, mem_update_other member (decide_eq_false same), rfl, Or.inl rfl⟩
  | advancePreflight moved status movedMember movedRun advance =>
      by_cases same : job.jobId = moved.jobId
      · have isMoved := step.source.jobId.eq_of_mem member movedMember same
        refine ⟨advanced status job, mem_update_selected member (decide_eq_true same), rfl, ?_⟩
        rw [isMoved]
        exact Or.inr (Or.inr advance)
      · exact ⟨job, mem_update_other member (decide_eq_false same), rfl, Or.inl rfl⟩

end View

end Queue
end FederatedIot
