import FederatedIot.Queue.System

namespace FederatedIot
namespace Queue

open Foundation Foundation.Relation Foundation.Outcome

/-!
# A backlog of events

A run under way collects events without any other change: every heartbeat of its
worker logs one.  The heartbeats here come at the instant of the claim, so that
they find every column as they would leave it, and any number of them is one
store with that many more events.
-/

/-- The first events of the sample run. -/
def firstEvents : List SimulationEvent :=
  [{ eventId := 1, runId := "run_1", eventType := .state
     payloadJson := .object [("status", .string "QUEUED")], occurredAt := 4 },
   { eventId := 2, runId := "run_1", eventType := .queuePosition
     payloadJson := .object [("status", .string "QUEUED"), ("queue_position", Json.ofNat 1),
       ("queued_count", Json.ofNat 1)]
     occurredAt := 4 },
   { eventId := 3, runId := "run_1", eventType := .state
     payloadJson := .object [("previous_status", .string "QUEUED"), ("status", .string "RUNNING")]
     occurredAt := 5 }]

def beatSelects (job : WorkerJob) : Bool :=
  runLease.holds 5 job && job.status.isActive

/-- The run has just been claimed, so that a heartbeat at the same instant only
adds its events. -/
structure JustClaimed (store : Store) : Prop where
  events : store.tables.simulationEvents = firstEvents
  jobEvents : store.tables.workerJobEvents.map WorkerJobEvent.eventId = []
  eventId : store.sequences.simulationEventId = 3
  jobEventId : store.sequences.workerJobEventId = 0
  retention : store.tables.eventRetention = 2000
  run : store.tables.simulations.map Simulation.runId = ["run_1"]
  job : (store.tables.workerJobs.filter fun job => job.jobId = runLease.jobId).map
    (fun job => (job.jobId, job.runId, job.status)) = [("job_2", some "run_1", .running)]
  instances : ∀ row ∈ store.tables.workerInstances, row.lastHeartbeatAt = 5
  registered : (store.tables.workerInstances.any fun row =>
    row.workerId = "worker-1" && row.workerContractVersion = "worker.task.v1") = true
  leased : store.tables.workerJobs.any beatSelects = true
  jobs : ∀ job ∈ store.tables.workerJobs, beatSelects job = true ->
    job.leaseExpiresAt = some (5 + seconds 60) ∧ job.lastHeartbeatAt = some 5 ∧ job.updatedAt = 5
  runs : ∀ row ∈ store.tables.simulations, row.lastHeartbeatAt = some 5 ∧ row.updatedAt = 5 ∧
    row.status.isTerminal = false

theorem sampleStore_justClaimed : JustClaimed sampleStore := by
  have facts : sampleStore.tables.simulationEvents = firstEvents ∧
      sampleStore.tables.workerJobEvents.map WorkerJobEvent.eventId = [] ∧
      sampleStore.sequences.simulationEventId = 3 ∧ sampleStore.sequences.workerJobEventId = 0 ∧
      sampleStore.tables.eventRetention = 2000 ∧
      sampleStore.tables.simulations.map Simulation.runId = ["run_1"] ∧
      (sampleStore.tables.workerJobs.filter fun job => job.jobId = runLease.jobId).map
        (fun job => (job.jobId, job.runId, job.status)) = [("job_2", some "run_1", .running)] ∧
      (∀ row ∈ sampleStore.tables.workerInstances, row.lastHeartbeatAt = 5) ∧
      (sampleStore.tables.workerInstances.any fun row =>
        row.workerId = "worker-1" && row.workerContractVersion = "worker.task.v1") = true ∧
      sampleStore.tables.workerJobs.any beatSelects = true ∧
      (∀ job ∈ sampleStore.tables.workerJobs, beatSelects job = true ->
        job.leaseExpiresAt = some (5 + seconds 60) ∧ job.lastHeartbeatAt = some 5 ∧
          job.updatedAt = 5) ∧
      ∀ row ∈ sampleStore.tables.simulations, row.lastHeartbeatAt = some 5 ∧ row.updatedAt = 5 ∧
        row.status.isTerminal = false := by
    decide +kernel
  rcases facts with ⟨a, b, c, d, e, f, g, h, i, j, k, l⟩
  exact ⟨a, b, c, d, e, f, g, h, i, j, k, l⟩

def beatEvent (index : Nat) : SimulationEvent where
  eventId := 3 + index + 1
  runId := "run_1"
  eventType := .heartbeat
  payloadJson := .object [("status", .string "RUNNING")]
  occurredAt := 5

def beatJobEvent (index : Nat) : WorkerJobEvent where
  eventId := 0 + index + 1
  jobId := "job_2"
  runId := some "run_1"
  eventType := .heartbeat
  payloadJson := .object [("status", .string "RUNNING")]
  occurredAt := 5

section

variable {base : Store}

def beatTables (base : Store) (events jobEvents : Nat) : Tables :=
  { base.tables with
    simulationEvents := base.tables.simulationEvents ++ (List.range events).map beatEvent
    workerJobEvents := base.tables.workerJobEvents ++ (List.range jobEvents).map beatJobEvent }

theorem JustClaimed.run_mem (claimed : JustClaimed base) :
    ∃ row ∈ base.tables.simulations, row.runId = "run_1" := by
  have member : "run_1" ∈ base.tables.simulations.map Simulation.runId := by
    rw [claimed.run]
    exact List.mem_cons_self
  exact List.mem_map.mp member

theorem JustClaimed.job_mem (claimed : JustClaimed base) :
    ∃ job ∈ base.tables.workerJobs, job.jobId = "job_2" := by
  have member : ("job_2", some "run_1", JobStatus.running) ∈
      (base.tables.workerJobs.filter fun job => job.jobId = runLease.jobId).map
        fun job => (job.jobId, job.runId, job.status) := by
    rw [claimed.job]
    exact List.mem_cons_self
  rcases List.mem_map.mp member with ⟨job, selected, same⟩
  exact ⟨job, List.mem_of_mem_filter selected, congrArg Prod.fst same⟩

theorem beatTables_unique (claimed : JustClaimed base) (events jobEvents : Nat) : (beatTables base events jobEvents).Unique :=
  { base.unique with
    eventId := by
      change Keyed SimulationEvent.eventId
        (base.tables.simulationEvents ++ (List.range events).map beatEvent)
      unfold Keyed
      rw [claimed.events, List.map_append, List.map_map, List.nodup_append]
      refine ⟨by decide, ?_, ?_⟩
      · apply List.Nodup.map ?_ List.nodup_range
        intro first second same
        have apart : 3 + first + 1 = 3 + second + 1 := same
        omega
      · intro first firstMember second secondMember same
        rcases List.mem_map.mp secondMember with ⟨index, _, rfl⟩
        have small : first ∈ [1, 2, 3] := firstMember
        have large : first = 3 + index + 1 := same
        simp only [List.mem_cons, List.not_mem_nil, or_false] at small
        omega
    workerEventId := by
      change Keyed WorkerJobEvent.eventId
        (base.tables.workerJobEvents ++ (List.range jobEvents).map beatJobEvent)
      unfold Keyed
      rw [List.map_append, claimed.jobEvents, List.map_map, List.nil_append]
      apply List.Nodup.map ?_ List.nodup_range
      intro first second same
      have apart : 0 + first + 1 = 0 + second + 1 := same
      omega }

theorem beatTables_foreign (claimed : JustClaimed base) (events jobEvents : Nat) :
    (beatTables base events jobEvents).Foreign :=
  { base.foreign with
    eventRun := by
      intro event member
      rcases List.mem_append.mp member with old | beat
      · exact base.foreign.eventRun event old
      · rcases List.mem_map.mp beat with ⟨index, _, rfl⟩
        exact claimed.run_mem
    workerEventJob := by
      intro event member
      rcases List.mem_append.mp member with old | beat
      · exact base.foreign.workerEventJob event old
      · rcases List.mem_map.mp beat with ⟨index, _, rfl⟩
        exact claimed.job_mem
    workerEventRun := by
      intro event member value present
      rcases List.mem_append.mp member with old | beat
      · exact base.foreign.workerEventRun event old value present
      · rcases List.mem_map.mp beat with ⟨index, _, rfl⟩
        cases Option.mem_some_iff.mp present
        exact claimed.run_mem }

theorem beatTables_checks (base : Store) (events jobEvents : Nat) : (beatTables base events jobEvents).Checks :=
  { base.checks with }

/-- The store after heartbeats at one instant. -/
def beatStore (claimed : JustClaimed base) (events jobEvents : Nat) : Store where
  tables := beatTables base events jobEvents
  sequences :=
    { base.sequences with simulationEventId := 3 + events, workerJobEventId := 0 + jobEvents }
  checks := beatTables_checks base events jobEvents
  unique := beatTables_unique claimed events jobEvents
  foreign := beatTables_foreign claimed events jobEvents

/-- Nothing expires while the log is short. -/
theorem retain_eq_self {retention : Int} {runId : String} {events : List SimulationEvent}
    (short : (events.length : Int) ≤ retention) : retainSimulationEvents retention runId events = events := by
  unfold retainSimulationEvents
  apply List.filter_eq_self.mpr
  intro event member
  have fewer : (events.filter fun other =>
      other.runId = runId && event.eventId < other.eventId).length < events.length :=
    length_filter_lt member (by simp)
  have within : ¬ retention ≤ ((events.filter fun other =>
      other.runId = runId && event.eventId < other.eventId).length : Int) := by omega
  simp [within]

variable (claimed : JustClaimed base) (count : Nat)

theorem beat_instances : updateInstances
    (fun row => row.workerId = "worker-1" && row.workerContractVersion = "worker.task.v1")
    (fun row => { row with lastHeartbeatAt := 5 }) (beatStore claimed count count) =
      .ok (beatStore claimed count count) := by
  apply updateInstances_ok_iff.mpr
  have same : update base.tables.workerInstances
      (fun row => row.workerId = "worker-1" && row.workerContractVersion = "worker.task.v1")
      (fun row => { row with lastHeartbeatAt := 5 }) = base.tables.workerInstances := by
    apply update_eq_self
    intro row member _
    rw [← claimed.instances row member]
  refine ⟨?_, rfl⟩
  change _ = ({ beatTables base count count with
    workerInstances := update base.tables.workerInstances _ _ } : Tables)
  rw [same]
  rfl

theorem beat_jobs : updateJobs 5 beatSelects
    (fun job => { job with leaseExpiresAt := some (5 + seconds 60), lastHeartbeatAt := some 5 })
    (beatStore claimed count count) = .ok (beatStore claimed count count) := by
  apply updateJobs_ok_iff.mpr
  have same : update base.tables.workerJobs beatSelects
      (fun job => { job with
        leaseExpiresAt := some (5 + seconds 60), lastHeartbeatAt := some 5, updatedAt := 5 }) =
        base.tables.workerJobs := by
    apply update_eq_self
    intro job member selected
    rcases claimed.jobs job member selected with ⟨expires, beaten, updated⟩
    rw [← expires, ← beaten, ← updated]
  refine ⟨?_, rfl⟩
  change _ = ({ beatTables base count count with
    workerJobs := update base.tables.workerJobs _ _ } : Tables)
  rw [same]
  rfl

theorem beat_runs (selects : Simulation -> Bool) : updateSimulations 5 selects
    (fun row => { row with lastHeartbeatAt := some 5 }) (beatStore claimed count count) =
      .ok (beatStore claimed count count) := by
  apply updateSimulations_ok_iff.mpr
  have same : update base.tables.simulations selects
      (fun row => { row with lastHeartbeatAt := some 5, updatedAt := 5 }) = base.tables.simulations := by
    apply update_eq_self
    intro row member _
    rcases claimed.runs row member with ⟨beaten, updated, _⟩
    rw [← beaten, ← updated]
  refine ⟨?_, ?_, rfl⟩
  · intro row member _ terminal
    rw [(claimed.runs row member).2.2] at terminal
    cases terminal
  · change _ = ({ beatTables base count count with
      simulations := update base.tables.simulations _ _ } : Tables)
    rw [same]
    rfl

/-- One more heartbeat at the same instant. -/
theorem beat_heartbeat (few : count ≤ 1000) :
    execute samplePlatform 5 (.heartbeat "worker-1" runLease 60) (beatStore claimed count count) =
      .ok (beatStore claimed (count + 1) (count + 1), .accepted true) := by
  apply answer_ok_iff.mpr
  refine ⟨true, Fault.ofPg_ok_iff.mpr ?_, rfl⟩
  have jobValues : (base.tables.workerJobs.filter fun job => job.jobId = runLease.jobId).map
      (fun job => ({ jobId := job.jobId, runId := job.runId, eventType := .heartbeat
                     payloadJson := .object [("status", .string job.status.text)] } : WorkerEventValues)) =
        [{ jobId := "job_2", runId := some "run_1", eventType := .heartbeat
           payloadJson := .object [("status", .string "RUNNING")] }] := by
    have mapped := congrArg (List.map fun entry : String × Option String × JobStatus =>
      ({ jobId := entry.1, runId := entry.2.1, eventType := .heartbeat
         payloadJson := .object [("status", .string entry.2.2.text)] } : WorkerEventValues)) claimed.job
    rw [List.map_map] at mapped
    exact mapped
  have values : (base.tables.workerJobs.filter fun job => job.jobId = runLease.jobId).filterMap
      (fun job => job.runId.map fun runId =>
        ({ runId := runId, eventType := .heartbeat,
           payloadJson := .object [("status", .string job.status.text)] } : EventValues)) =
        [{ runId := "run_1", eventType := .heartbeat
           payloadJson := .object [("status", .string "RUNNING")] }] := by
    have mapped := congrArg (List.filterMap fun entry : String × Option String × JobStatus =>
      entry.2.1.map fun runId =>
        ({ runId := runId, eventType := .heartbeat,
           payloadJson := .object [("status", .string entry.2.2.text)] } : EventValues)) claimed.job
    rw [List.filterMap_map] at mapped
    exact mapped
  have short : ((base.tables.simulationEvents ++ (List.range count).map beatEvent ++
      [beatEvent count]).length : Int) ≤ 2000 := by
    rw [claimed.events]
    simp only [List.length_append, List.length_map, List.length_range, firstEvents, List.length_cons,
      List.length_nil]
    omega
  unfold workerHeartbeatForWorker
  simp only [bind_ok_iff, require_ok_iff, exists_const]
  refine ⟨by decide, beatStore claimed count count, beat_instances claimed count, ?_⟩
  have registered : (beatStore claimed count count).tables.workerInstances.any _ = true :=
    claimed.registered
  rw [if_pos registered]
  apply bind_ok_iff.mpr
  refine ⟨beatStore claimed count count, beat_jobs claimed count, ?_⟩
  have leased : ((beatStore claimed count count).tables.workerJobs.any fun job =>
      runLease.holds 5 job && job.status.isActive) = true := claimed.leased
  rw [if_pos leased]
  unfold recordHeartbeat
  have sameJobs : (beatStore claimed count count).tables.workerJobs = base.tables.workerJobs := rfl
  simp only [sameJobs, jobValues, values, bind_ok_iff, pure_ok_iff, Prod.mk.injEq,
    insertWorkerJobEvents_ok_iff, insertSimulationEvents_ok_iff]
  refine ⟨beatStore claimed count count, beat_runs claimed count _, beatStore claimed count (count + 1),
    ?_, beatStore claimed (count + 1) (count + 1), ?_, rfl, trivial⟩
  · have added : base.tables.workerJobEvents ++ (List.range (count + 1)).map beatJobEvent =
        base.tables.workerJobEvents ++ (List.range count).map beatJobEvent ++
          numberedWorkerEvents 5 (0 + count)
            [{ jobId := "job_2", runId := some "run_1", eventType := .heartbeat
               payloadJson := .object [("status", .string "RUNNING")] }] := by
      rw [List.range_succ, List.map_append, List.append_assoc]
      rfl
    have tables : beatTables base count (count + 1) = { beatTables base count count with
        workerJobEvents := base.tables.workerJobEvents ++ (List.range (count + 1)).map beatJobEvent } := rfl
    exact ⟨by rw [added] at tables; exact tables, rfl⟩
  · have added : base.tables.simulationEvents ++ (List.range (count + 1)).map beatEvent =
        appendEvents 5 (3 + count) base.tables.eventRetention
          [{ runId := "run_1", eventType := .heartbeat
             payloadJson := .object [("status", .string "RUNNING")] }]
          (base.tables.simulationEvents ++ (List.range count).map beatEvent) := by
      rw [List.range_succ, List.map_append, ← List.append_assoc]
      change _ = retainSimulationEvents base.tables.eventRetention "run_1"
        (base.tables.simulationEvents ++ (List.range count).map beatEvent ++ [beatEvent count])
      rw [claimed.retention, retain_eq_self short]
      rfl
    have tables : beatTables base (count + 1) (count + 1) = { beatTables base count (count + 1) with
        simulationEvents := base.tables.simulationEvents ++ (List.range (count + 1)).map beatEvent } := rfl
    exact ⟨by rw [added] at tables; exact tables, rfl⟩

/-- The claimed run is heartbeaten again and again. -/
theorem beat_run (few : count ≤ 1000) : ∃ calls, (queueSystem samplePlatform).Run
    (beatStore claimed 0 0) calls (beatStore claimed count count) := by
  induction count with
  | zero => exact ⟨[], System.Run.nil _⟩
  | succ count inductionHypothesis =>
      rcases inductionHypothesis (by omega) with ⟨calls, run⟩
      exact ⟨_, run.append (System.Run.single
        (Transaction.committed (beat_heartbeat claimed count (by omega))))⟩

theorem beatStore_zero : beatStore claimed 0 0 = base := by
  apply Store.ext
  · change ({ base.tables with
      simulationEvents := base.tables.simulationEvents ++ []
      workerJobEvents := base.tables.workerJobEvents ++ [] } : Tables) = base.tables
    rw [List.append_nil, List.append_nil]
  · change ({ base.sequences with simulationEventId := 3, workerJobEventId := 0 } : Sequences) =
      base.sequences
    rw [← claimed.eventId, ← claimed.jobEventId]

end

end Queue
end FederatedIot
