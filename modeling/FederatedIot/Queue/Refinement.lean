import FederatedIot.Queue.Admission
import Mathlib.Logic.Relation

namespace FederatedIot
namespace Queue

open Foundation Foundation.Relation Foundation.Outcome

/-!
# Transactions advance the lifecycle

Every committed transaction acts on the view of the store as a sequence of
lifecycle steps.  Most of the statements do not touch the view at all.  The
updates of jobs, runs and datasets are read on the view through their guards;
a guard that mentions a status selects exactly the row of the job's own run,
because the records agree beforehand.
-/

variable {store result : Store} {now : Instant}

/-- A finite sequence of lifecycle steps. -/
def Steps (view target : View) : Prop :=
  Relation.ReflTransGen View.Step view target

theorem Steps.refl (view : View) : Steps view view :=
  Relation.ReflTransGen.refl

theorem Steps.of_eq {view target : View} (same : target = view) : Steps view target := by
  rw [same]
  exact Steps.refl view

theorem Steps.trans {first second third : View} (before : Steps first second)
    (after : Steps second third) : Steps first third :=
  Relation.ReflTransGen.trans before after

/-- A move between the views of two stores is a step. -/
theorem Steps.of_move (move : View.Move store.view result.view) : Steps store.view result.view :=
  Relation.ReflTransGen.single
    ⟨View.wellFormed_of_store store, move, View.wellFormed_of_store result⟩

theorem Steps.coherent {view target : View} (steps : Steps view target)
    (coherent : view.Coherent) : target.Coherent := by
  induction steps with
  | refl => exact coherent
  | tail _ step inductionHypothesis => exact step.coherent inductionHypothesis

/-! ## Statements and the view -/

/-- Two sets of tables with the same lifecycle tables have the same view. -/
theorem view_eq_of_tables
    (control : result.tables.schedulerControl = store.tables.schedulerControl)
    (jobs : result.tables.workerJobs = store.tables.workerJobs)
    (runs : result.tables.simulations = store.tables.simulations)
    (datasets : result.tables.datasets = store.tables.datasets)
    (artifacts : result.tables.artifacts = store.tables.artifacts)
    (snapshots : result.tables.simulationSnapshots = store.tables.simulationSnapshots)
    (keys : result.tables.idempotencyKeys = store.tables.idempotencyKeys) :
    result.view = store.view := by
  unfold Store.view Tables.view
  rw [control, jobs, runs, datasets, artifacts, snapshots, keys]

theorem insertSimulationEvents_view {values : List EventValues}
    (accepted : insertSimulationEvents now values store = .ok result) :
    result.view = store.view := by
  have tables := (insertSimulationEvents_ok_iff.mp accepted).1
  apply view_eq_of_tables <;> rw [tables]

theorem emitQueuePositionEvents_view (accepted : emitQueuePositionEvents now store = .ok result) :
    result.view = store.view :=
  insertSimulationEvents_view accepted

theorem insertWorkerJobEvents_view {values : List WorkerEventValues}
    (accepted : insertWorkerJobEvents now values store = .ok result) :
    result.view = store.view := by
  have tables := (insertWorkerJobEvents_ok_iff.mp accepted).1
  apply view_eq_of_tables <;> rw [tables]

theorem updateInstances_view {selects : WorkerInstance -> Bool}
    {assign : WorkerInstance -> WorkerInstance}
    (accepted : updateInstances selects assign store = .ok result) : result.view = store.view := by
  have tables := (updateInstances_ok_iff.mp accepted).1
  apply view_eq_of_tables <;> rw [tables]

theorem insertAlarms_view {rows : List Alarm} (accepted : insertAlarms rows store = .ok result) :
    result.view = store.view := by
  have tables := (insertAlarms_ok_iff.mp accepted).1
  apply view_eq_of_tables <;> rw [tables]

theorem insertArtifacts_view {rows : List Artifact}
    (accepted : insertArtifacts rows store = .ok result) :
    result.view = store.view.addArtifacts (rows.map Artifact.view) := by
  have tables := (insertArtifacts_ok_iff.mp accepted).1
  unfold Store.view Tables.view View.addArtifacts
  rw [tables, List.map_append]

theorem updateJobs_view {selects : WorkerJob -> Bool} {assign : WorkerJob -> WorkerJob}
    {viewSelects : JobView -> Bool} {viewAssign : JobView -> JobView}
    (accepted : updateJobs now selects assign store = .ok result)
    (sameSelection : ∀ row ∈ store.tables.workerJobs, selects row = viewSelects row.view)
    (sameAssignment : ∀ row ∈ store.tables.workerJobs, selects row = true ->
      (assign row).view = viewAssign row.view) :
    result.view = { store.view with jobs := update store.view.jobs viewSelects viewAssign } := by
  have tables := (updateJobs_ok_iff.mp accepted).1
  unfold Store.view Tables.view
  rw [tables]
  simp only [View.mk.injEq, and_self, and_true, true_and]
  exact map_update sameSelection sameAssignment

/-- An update that keeps the lifecycle columns of the jobs. -/
theorem updateJobs_view_eq {selects : WorkerJob -> Bool} {assign : WorkerJob -> WorkerJob}
    (accepted : updateJobs now selects assign store = .ok result)
    (kept : forall row, selects row = true -> (assign row).view = row.view) :
    result.view = store.view := by
  have tables := (updateJobs_ok_iff.mp accepted).1
  unfold Store.view Tables.view
  rw [tables]
  simp only [View.mk.injEq, and_self, and_true, true_and]
  exact map_update_of_fixed WorkerJob.view fun row _ selected => kept row selected

/-- An update of one job's status. -/
theorem updateJobs_setJob {selects : WorkerJob -> Bool} {assign : WorkerJob -> WorkerJob}
    {jobId : String} {status : JobStatus}
    (accepted : updateJobs now selects assign store = .ok result)
    (selected : ∀ row ∈ store.tables.workerJobs, selects row = decide (row.jobId = jobId))
    (assigned : ∀ row ∈ store.tables.workerJobs, row.jobId = jobId ->
      (assign row).view = View.advanced status row.view) :
    result.view = store.view.setJob jobId status := by
  refine updateJobs_view accepted selected ?_
  intro row member isSelected
  rw [selected row member] at isSelected
  exact assigned row member (of_decide_eq_true isSelected)

theorem updateSimulations_view {selects : Simulation -> Bool} {assign : Simulation -> Simulation}
    {viewSelects : RunView -> Bool} {viewAssign : RunView -> RunView}
    (accepted : updateSimulations now selects assign store = .ok result)
    (sameSelection : ∀ row ∈ store.tables.simulations, selects row = viewSelects row.view)
    (sameAssignment : ∀ row ∈ store.tables.simulations, selects row = true ->
      (assign row).view = viewAssign row.view) :
    result.view = { store.view with runs := update store.view.runs viewSelects viewAssign } := by
  have tables := (updateSimulations_ok_iff.mp accepted).2.1
  unfold Store.view Tables.view
  rw [tables]
  simp only [View.mk.injEq, and_self, and_true, true_and]
  exact map_update sameSelection sameAssignment

/-- An update that keeps the lifecycle columns of the runs. -/
theorem updateSimulations_view_eq {selects : Simulation -> Bool}
    {assign : Simulation -> Simulation}
    (accepted : updateSimulations now selects assign store = .ok result)
    (kept : forall row, (assign row).view = row.view) : result.view = store.view := by
  have tables := (updateSimulations_ok_iff.mp accepted).2.1
  unfold Store.view Tables.view
  rw [tables]
  simp only [View.mk.injEq, and_self, and_true, true_and]
  exact map_update_of_fixed Simulation.view fun row _ _ => kept row

/-- An update of one run. -/
theorem updateSimulations_setRun {selects : Simulation -> Bool} {assign : Simulation -> Simulation}
    {runId : String} {viewAssign : RunView -> RunView}
    (accepted : updateSimulations now selects assign store = .ok result)
    (selected : ∀ row ∈ store.tables.simulations, selects row = decide (row.runId = runId))
    (assigned : ∀ row ∈ store.tables.simulations, row.runId = runId ->
      (assign row).view = viewAssign row.view) :
    result.view = store.view.setRun runId viewAssign := by
  refine updateSimulations_view accepted selected ?_
  intro row member isSelected
  rw [selected row member] at isSelected
  exact assigned row member (of_decide_eq_true isSelected)

/-- An update of one dataset's status. -/
theorem updateDatasets_setDataset {selects : Dataset -> Bool} {assign : Dataset -> Dataset}
    {datasetId : String} {status : DatasetStatus}
    (accepted : updateDatasets now selects assign store = .ok result)
    (selected : ∀ row ∈ store.tables.datasets, selects row = decide (row.datasetId = datasetId))
    (assigned : forall row, (assign row).view = { row.view with status }) :
    result.view = store.view.setDataset datasetId status := by
  have tables := (updateDatasets_ok_iff.mp accepted).1
  unfold Store.view Tables.view View.setDataset
  rw [tables]
  simp only [View.mk.injEq, and_true, true_and]
  exact map_update selected fun row _ _ => assigned row

/-! ### Updates that select nothing -/

theorem updateJobs_none {selects : WorkerJob -> Bool} {assign : WorkerJob -> WorkerJob}
    (accepted : updateJobs now selects assign store = .ok result)
    (passed : ∀ row ∈ store.tables.workerJobs, selects row = false) :
    result.tables = store.tables := by
  rw [(updateJobs_ok_iff.mp accepted).1, update_eq_self]
  intro row member selected
  rw [passed row member] at selected
  cases selected

theorem updateSimulations_none {selects : Simulation -> Bool} {assign : Simulation -> Simulation}
    (accepted : updateSimulations now selects assign store = .ok result)
    (passed : ∀ row ∈ store.tables.simulations, selects row = false) :
    result.tables = store.tables := by
  rw [(updateSimulations_ok_iff.mp accepted).2.1, update_eq_self]
  intro row member selected
  rw [passed row member] at selected
  cases selected

theorem updateDatasets_none {selects : Dataset -> Bool} {assign : Dataset -> Dataset}
    (accepted : updateDatasets now selects assign store = .ok result)
    (passed : ∀ row ∈ store.tables.datasets, selects row = false) :
    result.tables = store.tables := by
  rw [(updateDatasets_ok_iff.mp accepted).1, update_eq_self]
  intro row member selected
  rw [passed row member] at selected
  cases selected

theorem view_of_tables (same : result.tables = store.tables) : result.view = store.view :=
  congrArg Tables.view same

end Queue
end FederatedIot
