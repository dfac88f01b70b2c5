import FederatedIot.Queue.Invariant

namespace FederatedIot
namespace Queue

open Foundation Foundation.Relation Foundation.Outcome

/-!
# The authority of a cancellation

Once a cancellation has been committed, the run is `CANCELLING` or
`CANCELLED`, and no order of later transactions can give it another terminal
status or a committed result set.  The invariant is local to one run: from
`CANCELLING` the only legal advance of its job is to `CANCELLED`, and a
cancelled job does not advance.
-/

variable {platform : Platform} {store result : Store}

/-- The run is being cancelled or has been cancelled, without results. -/
def Withdrawn (runId : String) (view : View) : Prop :=
  ∃ run ∈ view.runs, run.runId = runId ∧
    (run.status = .cancelling ∨ run.status = .cancelled) ∧ run.artifactState ≠ .committed

theorem Withdrawn.step {view target : View} {runId : String} (withdrawn : Withdrawn runId view)
    (step : View.Step view target) (coherent : view.Coherent) : Withdrawn runId target := by
  rcases withdrawn with ⟨run, member, sameRun, status, uncommitted⟩
  rcases step.run_cases coherent member with ⟨after, afterMember, sameAfter, unchanged | advanced⟩
  · rw [unchanged] at afterMember
    exact ⟨run, afterMember, sameRun, status, uncommitted⟩
  · rcases advanced with ⟨before, next, advance, beforeStatus, afterStatus, published⟩
    have next_cancelled : next = .cancelled := by
      rw [beforeStatus] at status
      cases advance with
      | confirmCancel => rfl
      | start | withdraw => rcases status with same | same <;> cases same
      | requestCancel | settle => rcases status with same | same <;> cases same
    refine ⟨after, afterMember, sameAfter.trans sameRun, Or.inr ?_, ?_⟩
    · rw [afterStatus, next_cancelled]
      rfl
    · exact published (by rw [next_cancelled]; decide) uncommitted

theorem Withdrawn.steps {view target : View} {runId : String} (withdrawn : Withdrawn runId view)
    (steps : Steps view target) (coherent : view.Coherent) : Withdrawn runId target := by
  induction steps with
  | refl => exact withdrawn
  | tail earlier step inductionHypothesis =>
      exact inductionHypothesis.step step (Steps.coherent earlier coherent)

/-- Later transactions do not undo a withdrawal. -/
theorem Withdrawn.run {runId : String} {calls : List Call} (reachable : Reachable platform store)
    (run : (queueSystem platform).Run store calls result)
    (withdrawn : Withdrawn runId store.view) : Withdrawn runId result.view := by
  refine System.Reachable.stable (fun store => Withdrawn runId store.view) ?_ reachable run withdrawn
  intro source call target sourceReachable step held
  have coherent := reachable_coherent sourceReachable
  exact held.steps (step.steps coherent) coherent

/-! ## A committed cancellation -/

theorem setRun_withdrawn {view : View} {runId : String} {assign : RunView -> RunView} {run : RunView}
    (member : run ∈ view.runs) (same : run.runId = runId)
    (sameRun : (assign run).runId = run.runId)
    (status : (assign run).status = .cancelling ∨ (assign run).status = .cancelled)
    (uncommitted : (assign run).artifactState ≠ .committed) :
    Withdrawn runId (view.setRun runId assign) :=
  ⟨assign run, mem_update_selected member (decide_eq_true same), sameRun.trans same, status,
    uncommitted⟩

/-- A cancellation that commits leaves its run withdrawn. -/
theorem cancelSimulation_withdrawn {now : Instant} {runId reason : String}
    {record : SimulationRecord} (coherent : store.view.Coherent)
    (accepted : cancelSimulation now runId reason store = .ok (result, record)) :
    Withdrawn runId result.view := by
  unfold cancelSimulation at accepted
  rw [bind_ok_iff] at accepted
  rcases accepted with ⟨found, foundAccepted, accepted⟩
  rcases simulationById_row foundAccepted with ⟨row, member, sameRun, sameStatus⟩
  have viewMember : row.view ∈ store.view.runs := List.mem_map_of_mem member
  have uncommitted : row.status ≠ .completed -> row.artifactState ≠ .committed := by
    intro incomplete committed
    exact incomplete ((coherent.committed row.view viewMember).mpr committed)
  rw [sameStatus] at accepted
  cases status : row.status with
  | queued =>
      rw [status] at accepted
      simp only [bind_ok_iff, Fault.ofPg_ok_iff, pure_ok_iff, Prod.mk.injEq] at accepted
      rcases accepted with ⟨announced, announcedAccepted, rfl, _⟩
      unfold cancelQueuedRun at announcedAccepted
      simp only [bind_ok_iff] at announcedAccepted
      rcases announcedAccepted with ⟨cancelled, cancelledAccepted, released, releasedAccepted,
        reported, reportedAccepted, announcedAccepted⟩
      have cancelledView : cancelled.view = store.view.setRun runId (withoutResults .cancelled) :=
        updateSimulations_setRun cancelledAccepted (fun _ _ => rfl) fun _ _ _ => rfl
      have sameRuns : announced.view.runs = cancelled.view.runs := by
        rw [emitQueuePositionEvents_view announcedAccepted,
          insertSimulationEvents_view reportedAccepted]
        unfold Store.view Tables.view
        rw [(updateJobs_ok_iff.mp releasedAccepted).1]
      unfold Withdrawn
      rw [sameRuns, cancelledView]
      exact setRun_withdrawn viewMember sameRun rfl (Or.inr rfl) fun same => (by cases same)
  | running =>
      rw [status] at accepted
      simp only [bind_ok_iff, Fault.ofPg_ok_iff, pure_ok_iff, Prod.mk.injEq] at accepted
      rcases accepted with ⟨reported, reportedAccepted, rfl, _⟩
      unfold cancelRunningRun at reportedAccepted
      simp only [bind_ok_iff] at reportedAccepted
      rcases reportedAccepted with ⟨requested, requestedAccepted, cancelling, cancellingAccepted,
        reportedAccepted⟩
      have requestedView : requested.view = store.view.setRun runId (withStatus .cancelling) :=
        updateSimulations_setRun requestedAccepted (fun _ _ => rfl) fun _ _ _ => rfl
      have sameRuns : reported.view.runs = requested.view.runs := by
        rw [insertSimulationEvents_view reportedAccepted]
        unfold Store.view Tables.view
        rw [(updateJobs_ok_iff.mp cancellingAccepted).1]
      unfold Withdrawn
      rw [sameRuns, requestedView]
      refine setRun_withdrawn viewMember sameRun rfl (Or.inl rfl) ?_
      exact uncommitted (by rw [status]; decide)
  | cancelling =>
      rw [status] at accepted
      cases accepted
      exact ⟨row.view, viewMember, sameRun, Or.inl status, uncommitted (by rw [status]; decide)⟩
  | cancelled =>
      rw [status] at accepted
      cases accepted
      exact ⟨row.view, viewMember, sameRun, Or.inr status, uncommitted (by rw [status]; decide)⟩
  | created | validating | generatingArtifacts | completed | failed | failedRecoverable =>
      rw [status] at accepted
      cases accepted

theorem cancelSimulation_reply {now : Instant} {runId reason : String} {reply : Reply}
    (accepted : execute platform now (.cancelSimulation runId reason) store = .ok (result, reply)) :
    ∃ record, cancelSimulation now runId reason store = .ok (result, record) ∧
      reply = .cancelled record := by
  rcases answer_ok_iff.mp accepted with ⟨record, done, same⟩
  exact ⟨record, done, same.symm⟩

/-- After `CancelSimulation` has committed for a run, every later state of the
run, whatever transactions happen in between, is `CANCELLING` or `CANCELLED`
without committed artifacts. -/
theorem cancellation_authority {cancelled : Store} {now : Instant} {runId reason : String}
    {record : SimulationRecord} {calls : List Call} (reachable : Reachable platform store)
    (committed : execute platform now (.cancelSimulation runId reason) store =
      .ok (cancelled, .cancelled record))
    (run : (queueSystem platform).Run cancelled calls result) :
    ∃ row ∈ result.tables.simulations, row.runId = runId ∧
      (row.status = .cancelling ∨ row.status = .cancelled) ∧
      (row.status.isTerminal = true -> row.status = .cancelled) ∧
      row.artifactState ≠ .committed := by
  rcases cancelSimulation_reply committed with ⟨_, accepted, _⟩
  have step : Transaction platform store ⟨now, .cancelSimulation runId reason,
      .ok (.cancelled record)⟩ cancelled := Transaction.committed committed
  have withdrawn := cancelSimulation_withdrawn (reachable_coherent reachable) accepted
  rcases withdrawn.run (reachable.step step) run with
    ⟨view, viewMember, sameRun, status, uncommitted⟩
  rcases List.mem_map.mp viewMember with ⟨row, member, rfl⟩
  refine ⟨row, member, sameRun, status, ?_, uncommitted⟩
  intro terminal
  rcases status with cancelling | finished
  · have active : row.status = .cancelling := cancelling
    rw [active] at terminal
    cases terminal
  · exact finished

/-- The sample run is cancelled while it executes, and its worker confirms. -/
theorem cancellation_authority_sample :
    ∃ row ∈ (replay samplePlatform
        [(6, .cancelSimulation "run_1" "stop"), (7, .confirmCancel runLease)]
        sampleStore).tables.simulations,
      row.runId = "run_1" ∧ (row.status = .cancelling ∨ row.status = .cancelled) ∧
        (row.status.isTerminal = true -> row.status = .cancelled) ∧
        row.artifactState ≠ .committed := by
  have succeeds : (execute samplePlatform 6 (.cancelSimulation "run_1" "stop")
      sampleStore).isOk = true := by decide +kernel
  rcases execute_of_isOk succeeds with ⟨cancelled, reply, outcome⟩
  rcases cancelSimulation_reply outcome with ⟨record, _, rfl⟩
  rcases replay_run [(7, .confirmCancel runLease)] cancelled with ⟨calls, run⟩
  rw [← settleCall_of_ok outcome] at run
  rw [← settleCall_of_ok outcome] at outcome
  exact cancellation_authority sampleStore_reachable outcome run

end Queue
end FederatedIot
