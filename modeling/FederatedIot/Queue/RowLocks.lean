import FederatedIot.Queue.Invariant
import FederatedIot.Foundation.Locking

namespace FederatedIot
namespace Queue

open Foundation Foundation.Relation Foundation.Outcome

/-!
# The row locks of the queue's transactions

The locks that the statements of a transaction take on `scheduler_control`,
`simulations` and `worker_jobs`, in the order in which they are taken.  Under
`READ COMMITTED` each statement reads the rows that are committed when it
begins; a statement that had to wait for a row evaluates its condition again
on the row as it is then.

`SELECT ... FOR UPDATE` takes the strongest lock and an `UPDATE` of columns
that no key covers the next one.  An insert takes a key share lock on every
row that a foreign key of the new row refers to, when its statement ends.  A
statement that raises ends the transaction; since a transaction may be rolled
back at any point, the programs only branch on the failures that decide
which later rows are locked.
-/

/-- A row that the transactions compete for. -/
inductive LockedRow where
  | schedulerControl
  | workerJob (jobId : String)
  | simulation (runId : String)
  deriving DecidableEq, Repr

/-- The row lock modes that occur. -/
inductive RowLock where
  | forKeyShare
  | forNoKeyUpdate
  | forUpdate
  deriving DecidableEq, Repr

/-- The conflict table of the row lock modes. -/
def RowLock.conflicts : RowLock -> RowLock -> Bool
  | .forUpdate, _ | _, .forUpdate => true
  | .forNoKeyUpdate, .forNoKeyUpdate => true
  | _, _ => false

theorem RowLock.conflicts_comm (left right : RowLock) : left.conflicts right = right.conflicts left := by
  cases left <;> cases right <;> rfl

abbrev RowProgram := LockProgram Store LockedRow RowLock

/-! ## Statements -/

/-- `SELECT ... FROM scheduler_control ... FOR UPDATE`. -/
def lockScheduler (rest : RowProgram) : RowProgram :=
  .read fun store =>
    if store.tables.schedulerControl.isSome then .lock .schedulerControl .forUpdate rest else .done

/-- Lock the job that a condition selects, by `SELECT ... FOR UPDATE` or by an
`UPDATE`. -/
def lockJob (mode : RowLock) (selects : WorkerJob -> Bool) (found : WorkerJob -> RowProgram)
    (missing : RowProgram) : RowProgram :=
  .read fun store =>
    match selectJob? selects store with
    | none => missing
    | some candidate =>
        .lock (.workerJob candidate.jobId) mode (.read fun current =>
          match selectJob? (fun job => job.jobId = candidate.jobId && selects job) current with
          | none => missing
          | some job => found job)

/-- `UPDATE simulations ... WHERE run_id = ...` with a further condition. -/
def updateRun (runId : String) (selects : Simulation -> Bool) (found missing : RowProgram) :
    RowProgram :=
  let matched := fun store : Store =>
    store.tables.simulations.any fun row => row.runId = runId && selects row
  .read fun store =>
    if matched store then
      .lock (.simulation runId) .forNoKeyUpdate (.read fun current =>
        if matched current then found else missing)
    else missing

/-- The key checks of an insert into `simulation_events`. -/
def insertEvent (runId : String) (rest : RowProgram) : RowProgram :=
  .lock (.simulation runId) .forKeyShare rest

/-- The key checks of an insert into `worker_job_events`. -/
def insertJobEvent (jobId : String) (runId : Option String) (rest : RowProgram) : RowProgram :=
  .lock (.workerJob jobId) .forKeyShare
    (LockProgram.lockEach (runId.toList.map fun run => (.simulation run, .forKeyShare)) rest)

/-- `emit_queue_position_events`.  A run that the transaction itself took out
of the queue is not announced. -/
def emitQueuePositions (dequeued : Option String) (rest : RowProgram) : RowProgram :=
  .read fun store =>
    let announced := ((queuedRuns store.tables.simulations).map Simulation.runId).filter fun runId =>
      dequeued != some runId
    LockProgram.lockEach (announced.map fun runId => (.simulation runId, .forKeyShare)) rest

/-! ## Transactions -/

/-- `CancelSimulation`. -/
def cancelSimulationLocks (runId : String) : RowProgram :=
  lockScheduler (.read fun store =>
    if (simulationById runId store.tables).isOk then
      .lock (.simulation runId) .forUpdate (.read fun current =>
        match (simulationById runId current.tables).map SimulationRecord.status with
        | .ok .queued =>
            .lock (.simulation runId) .forNoKeyUpdate
              (let announce := insertEvent runId (emitQueuePositions (some runId) .done)
              lockJob .forNoKeyUpdate (fun job => job.runId = some runId && job.status = .queued)
                (fun _ => announce) announce)
        | .ok .running =>
            .lock (.simulation runId) .forNoKeyUpdate
              (lockJob .forNoKeyUpdate (fun job => job.runId = some runId && job.status = .running)
                (fun _ => insertEvent runId .done) (insertEvent runId .done))
        | _ => .done)
    else .done)

/-- `worker_heartbeat_for_worker`. -/
def heartbeatLocks (now : Instant) (workerId : String) (lease : Lease) (leaseSeconds : Int) :
    RowProgram :=
  if 1 ≤ leaseSeconds ∧ leaseSeconds ≤ 600 then
    .read fun store =>
      if store.tables.workerInstances.any fun row =>
          row.workerId = workerId && row.workerContractVersion = "worker.task.v1" then
        lockJob .forNoKeyUpdate (fun job => lease.holds now job && job.status.isActive)
          (fun job =>
            match job.runId with
            | none => insertJobEvent lease.jobId none .done
            | some runId =>
                updateRun runId (fun _ => true)
                  (insertJobEvent lease.jobId (some runId) (insertEvent runId .done))
                  (insertJobEvent lease.jobId (some runId) (insertEvent runId .done)))
          .done
      else .done
  else .done

/-- `worker_report_event`. -/
def reportEventLocks (platform : Platform) (now : Instant) (lease : Lease) (event : Json) :
    RowProgram :=
  lockJob .forUpdate (fun job => lease.holds now job && job.status.isActive)
    (fun job =>
      if (invalidWorkerEvent platform lease job.status event).taken = false ∧
          refusedRunIdentifier job.runId event = false ∧ (eventAgent event).isOk then
        insertJobEvent job.jobId job.runId
          (match job.runId with
          | none => .done
          | some runId =>
              updateRun runId (fun row => row.status = job.status.simulationStatus)
                (insertEvent runId .done) (insertEvent runId .done))
      else .done)
    .done

/-- `worker_confirm_cancel`. -/
def confirmCancelLocks (now : Instant) (lease : Lease) : RowProgram :=
  lockJob .forUpdate (fun job => lease.holds now job && job.status = .cancelling)
    (fun job =>
      .lock (.workerJob job.jobId) .forNoKeyUpdate
        (match job.runId with
        | none => .done
        | some runId =>
            let announce := insertEvent runId (emitQueuePositions none .done)
            updateRun runId (fun row => row.status = .cancelling) announce announce))
    .done

/-- `worker_fail_job`. -/
def failJobLocks (now : Instant) (lease : Lease) : RowProgram :=
  lockScheduler (lockJob .forUpdate (fun job => lease.holds now job && job.status.isActive)
    (fun job =>
      .read fun store =>
        .lock (.workerJob job.jobId) .forNoKeyUpdate
          (match job.runId with
          | none => .done
          | some runId =>
              if isCancellationRequested store.tables.simulations job then
                let announce := insertEvent runId (emitQueuePositions none .done)
                updateRun runId (fun row => row.status.hasStage) announce announce
              else
                updateRun runId (fun _ => true) (insertEvent runId .done) (insertEvent runId .done)))
    .done)

/-- `worker_commit_simulation`. -/
def commitSimulationLocks (now : Instant) (lease : Lease) (request : CommitRequest) : RowProgram :=
  lockJob .forUpdate (fun job => lease.holds now job && job.jobType = .simulation &&
      job.status = .running)
    (fun job =>
      match job.runId, checkCommit request with
      | some runId, .ok alarms =>
          let share : LockedRow × RowLock := (.simulation runId, .forKeyShare)
          updateRun runId (fun row => row.status = .running)
            (LockProgram.lockEach
              ([share] ++ request.artifacts.map (fun _ => share) ++ alarms.map (fun _ => share) ++
                [(.simulation runId, .forNoKeyUpdate), (.workerJob job.jobId, .forNoKeyUpdate),
                  share, share]) .done)
            .done
      | _, _ => .done)
    .done

/-- `worker_recover_expired_leases`.  At most one job is active, so at most
one lease is recovered. -/
def recoverExpiredLeasesLocks (now : Instant) (rest : RowProgram) : RowProgram :=
  lockScheduler (lockJob .forUpdate (isExpired now)
    (fun job =>
      let checks := fun emitted : List String =>
        insertJobEvent job.jobId job.runId (LockProgram.lockEach
          (emitted.map fun runId => (.simulation runId, .forKeyShare))
          (emitQueuePositions none rest))
      .lock (.workerJob job.jobId) .forNoKeyUpdate
        (match job.runId with
        | none => checks []
        | some runId => updateRun runId (fun row => row.status.hasStage) (checks [runId]) (checks [])))
    rest)

/-- `FOR UPDATE SKIP LOCKED LIMIT 1` over the queued jobs. -/
def claimFirst (start : WorkerJob -> RowProgram) : List WorkerJob -> RowProgram
  | [] => .done
  | job :: others =>
      .tryLock (.workerJob job.jobId) .forUpdate
        (.read fun current =>
          match selectJob? (fun row => row.jobId = job.jobId && row.status = .queued) current with
          | some selectedJob => start selectedJob
          | none => claimFirst start others)
        (claimFirst start others)

/-- The queued jobs in the order of their admission. -/
def queuedJobsInOrder (jobs : List WorkerJob) : List WorkerJob :=
  (jobs.filter fun job => job.status = .queued).insertionSort fun left right =>
    left.enqueueSeq ≤ right.enqueueSeq

/-- The part of `worker_claim_next_job_for_worker` after a job was selected. -/
def startJobLocks (selectedJob : WorkerJob) : RowProgram :=
  .lock (.workerJob selectedJob.jobId) .forNoKeyUpdate
    (match selectedJob.runId with
    | none => .done
    | some runId =>
        updateRun runId (fun row => row.status = .queued)
          (insertEvent runId (emitQueuePositions (some runId) .done)) .done)

/-- `worker_claim_next_job_for_worker`. -/
def claimLocks (now : Instant) (workerId attemptId leaseToken : String) (leaseSeconds : Int) :
    RowProgram :=
  if (1 ≤ leaseSeconds ∧ leaseSeconds ≤ 600) ∧ isIdentifier attemptId = true ∧
      16 ≤ leaseToken.length then
    .read fun store =>
      if store.tables.workerInstances.any fun row =>
          row.workerId = workerId && row.workerContractVersion = "worker.task.v1" &&
            now - seconds leaseSeconds < row.lastHeartbeatAt then
        lockScheduler (recoverExpiredLeasesLocks now (.read fun current =>
          if current.tables.workerJobs.any fun job => job.status.isActive && job.leaseLive now then .done
          else
            .read fun snapshot =>
              claimFirst startJobLocks (queuedJobsInOrder snapshot.tables.workerJobs)))
      else .done
  else .done

/-- The row locks of a transaction.  The admissions and the transactions that
take no lock on these rows are not treated. -/
def lockProgram (platform : Platform) (call : Instant × Operation) : RowProgram :=
  match call.2 with
  | .cancelSimulation runId _ => cancelSimulationLocks runId
  | .heartbeat workerId lease leaseSeconds => heartbeatLocks call.1 workerId lease leaseSeconds
  | .reportEvent lease event => reportEventLocks platform call.1 lease event
  | .confirmCancel lease => confirmCancelLocks call.1 lease
  | .failJob lease _ _ => failJobLocks call.1 lease
  | .commitSimulation lease request => commitSimulationLocks call.1 lease request
  | .claim workerId attemptId leaseToken leaseSeconds =>
      claimLocks call.1 workerId attemptId leaseToken leaseSeconds
  | .recoverExpiredLeases => recoverExpiredLeasesLocks call.1 .done
  | _ => .done

/-- The queue with its transactions interleaved lock by lock. -/
def lockService (platform : Platform) :
    LockService (Instant × Operation) Store LockedRow RowLock where
  conflicts := RowLock.conflicts
  program := lockProgram platform
  initial := Reachable platform
  commits := fun store call result => ∃ outcome, Transaction platform store ⟨call.1, call.2, outcome⟩ result

end Queue
end FederatedIot
