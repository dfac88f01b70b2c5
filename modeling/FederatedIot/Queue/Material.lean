import FederatedIot.Queue.Idempotency
import FederatedIot.Queue.Service

namespace FederatedIot
namespace Queue

open Foundation Foundation.Relation Foundation.Outcome

/-!
# What an admission freezes

An admission writes the snapshot of its run, and no transaction writes to the
snapshot again.  Nor does any transaction rewrite a saved parameter profile, or
the columns of a run that name its inputs.  So a run is found at any later time
with the material it was admitted with.
-/

variable {platform : Platform} {store middle result : Store} {now : Instant}

/-! ## Rows that stay -/

/-- The snapshots and the parameter profiles of the store are still there. -/
structure KeepsMaterial (store result : Store) : Prop where
  snapshots : store.tables.simulationSnapshots ⊆ result.tables.simulationSnapshots
  profiles : store.tables.parameterProfiles ⊆ result.tables.parameterProfiles

namespace KeepsMaterial

theorem of_tables (snapshots : result.tables.simulationSnapshots = store.tables.simulationSnapshots)
    (profiles : result.tables.parameterProfiles = store.tables.parameterProfiles) :
    KeepsMaterial store result :=
  ⟨snapshots ▸ List.Subset.refl _, profiles ▸ List.Subset.refl _⟩

theorem refl (store : Store) : KeepsMaterial store store :=
  of_tables rfl rfl

theorem trans (before : KeepsMaterial store middle) (after : KeepsMaterial middle result) :
    KeepsMaterial store result :=
  ⟨fun _ member => after.snapshots (before.snapshots member), fun _ member => after.profiles (before.profiles member)⟩

end KeepsMaterial

theorem keepsMaterial_framed : Framed KeepsMaterial where
  refl := KeepsMaterial.refl
  trans := KeepsMaterial.trans
  instances accepted := by
    apply KeepsMaterial.of_tables <;> rw [(updateInstances_ok_iff.mp accepted).1]
  newInstance _ tables _ := by
    apply KeepsMaterial.of_tables <;> rw [tables]
  datasets accepted := by
    apply KeepsMaterial.of_tables <;> rw [(updateDatasets_ok_iff.mp accepted).1]
  jobs accepted _ _ := by
    apply KeepsMaterial.of_tables <;> rw [(updateJobs_ok_iff.mp accepted).1]
  runs accepted _ := by
    apply KeepsMaterial.of_tables <;> rw [(updateSimulations_ok_iff.mp accepted).2.1]
  events accepted := by
    apply KeepsMaterial.of_tables <;> rw [(insertSimulationEvents_ok_iff.mp accepted).1]
  workerEvents accepted := by
    apply KeepsMaterial.of_tables <;> rw [(insertWorkerJobEvents_ok_iff.mp accepted).1]
  artifacts accepted := by
    apply KeepsMaterial.of_tables <;> rw [(insertArtifacts_ok_iff.mp accepted).1]
  alarms accepted := by
    apply KeepsMaterial.of_tables <;> rw [(insertAlarms_ok_iff.mp accepted).1]

theorem startJob_keepsMaterial {attemptId leaseToken : String} {leaseSeconds : Int} {job : WorkerJob}
    {reply : Option ClaimedJob}
    (accepted : startJob now attemptId leaseToken leaseSeconds job store = .ok (result, reply)) :
    KeepsMaterial store result := by
  rw [startJob, bind_ok_iff] at accepted
  rcases accepted with ⟨claimed, claimedAccepted, accepted⟩
  have jobs : KeepsMaterial store claimed := by
    apply KeepsMaterial.of_tables <;> rw [(updateJobs_ok_iff.mp claimedAccepted).1]
  cases kind : job.jobType with
  | datasetPreflight =>
      rw [kind] at accepted
      cases accepted
      exact jobs
  | simulation =>
      rw [kind] at accepted
      simp only [bind_ok_iff, require_ok_iff, exists_const, pure_ok_iff, Prod.mk.injEq] at accepted
      rcases accepted with ⟨started, startedAccepted, _, reported, reportedAccepted, announced,
        announcedAccepted, rfl, _⟩
      have runs := jobs.trans (keepsMaterial_framed.runs startedAccepted fun _ => rfl)
      have events := runs.trans (keepsMaterial_framed.events reportedAccepted)
      exact events.trans (emitQueuePositionEvents_framed keepsMaterial_framed announcedAccepted)

theorem registerDataset_keepsMaterial {clock : Instant} {identifiers : Identifiers}
    {input : DatasetRegistration} {reply : RegisteredDataset}
    (accepted : registerDataset platform now clock identifiers input store = .ok (result, reply)) :
    KeepsMaterial store result := by
  simp only [registerDataset, bind_ok_iff, require_ok_iff, exists_const, Fault.ofPg_ok_iff, pure_ok_iff,
    Prod.mk.injEq, insertDataset_ok_iff, insertJob_ok_iff] at accepted
  rcases accepted with ⟨_, _, _, registered, ⟨registeredTables, _⟩, enqueued, ⟨enqueuedTables, _⟩, rfl, _⟩
  apply KeepsMaterial.of_tables
  · rw [enqueuedTables, registeredTables]
    rfl
  · rw [enqueuedTables, registeredTables]
    rfl

/-! ## Admissions -/

/-- The run is stored with the inputs of the request, and its snapshot was built
from them. -/
structure AdmittedAs (platform : Platform) (request : CreateSimulationRequest) (runId : String)
    (inputs : AdmissionInputs) (snapshot : Json) (result : Store) : Prop where
  dataset : inputs.dataset.datasetId = request.datasetId
  profile : inputs.profile ∈ result.tables.parameterProfiles
  profileVersion : inputs.profile.versionId = request.parameterProfileVersionId
  mode : request.runMode = inputs.profile.mode.text
  built : ∃ clock, buildSnapshot platform runId request inputs clock = .ok snapshot
  run : ∃ row ∈ result.tables.simulations, row.runId = runId ∧ row.datasetId = request.datasetId ∧
    row.parameterProfileVersionId = request.parameterProfileVersionId ∧
      row.loadMappingVersionId = request.loadMappingVersionId ∧ row.runMode = inputs.profile.mode
  frozen : ∃ row ∈ result.tables.simulationSnapshots, row.runId = runId ∧ row.snapshotJson = snapshot

theorem admissibleDataset_ok {request : CreateSimulationRequest} {tables : Tables} {dataset : Dataset}
    (found : admissibleDataset request tables = .ok dataset) : dataset.datasetId = request.datasetId := by
  rw [admissibleDataset] at found
  split at found
  · cases found
  · rename_i row selected
    split at found
    · cases found
      exact of_decide_eq_true (List.find?_some selected :)
    · cases found

theorem admissibleProfile_ok {request : CreateSimulationRequest} {tables : Tables}
    {profile : ParameterProfile} (found : admissibleProfile platform request tables = .ok profile) :
    profile ∈ tables.parameterProfiles ∧ profile.versionId = request.parameterProfileVersionId ∧
      request.runMode = profile.mode.text := by
  rw [admissibleProfile] at found
  split at found
  · cases found
  · rename_i row selected
    have matched : row.versionId = request.parameterProfileVersionId :=
      of_decide_eq_true (List.find?_some selected :)
    rw [bind_ok_iff] at found
    rcases found with ⟨_, sameMode, found⟩
    have isRow : row = profile := by
      split at found
      · simp only [bind_ok_iff, pure_ok_iff] at found
        rcases found with ⟨_, _, same⟩
        exact same
      · simp only [pure_ok_iff] at found
        exact found
    rw [← isRow]
    exact ⟨List.mem_of_find?_eq_some selected, matched, (require_ok_iff _ _ _).mp sameMode⟩

/-- What an accepted new run leaves behind, with the record that answers it. -/
theorem createSimulation_admittedAs {clock : Instant} {identifiers : Identifiers} {key : String}
    {request : CreateSimulationRequest} {record : SimulationRecord}
    (accepted : createSimulation platform now clock identifiers key request store =
      .ok (result, record, false)) :
    KeepsMaterial store result ∧ request.validate = .ok Unit.unit ∧
      ∃ inputs, AdmittedAs platform request record.runId inputs record.snapshot result := by
  rw [createSimulation, bind_ok_iff] at accepted
  rcases accepted with ⟨_, validated, accepted⟩
  have valid : request.validate = .ok Unit.unit := by
    rw [ofStable_ok_iff, validateCreate] at validated
    simp only [bind_ok_iff, require_ok_iff, exists_const] at validated
    exact validated.2.2
  rw [createSimulationTx] at accepted
  split at accepted
  · simp only [bind_ok_iff, pure_ok_iff, Prod.mk.injEq] at accepted
    rcases accepted with ⟨_, _, _, _, _, _, impossible⟩
    cases impossible
  · simp only [bind_ok_iff, ofStable_ok_iff, pure_ok_iff, Prod.mk.injEq] at accepted
    rcases accepted with ⟨inputs, checked, ⟨admitted, admittedRecord⟩, admittedAccepted, rfl, rfl, _⟩
    simp only [checkAdmission, bind_ok_iff, pure_ok_iff] at checked
    rcases checked with ⟨dataset, datasetFound, profile, profileFound, mapping, _, _, _, rfl⟩
    rcases admissibleProfile_ok profileFound with ⟨profileMember, profileVersion, mode⟩
    simp only [admitRun, bind_ok_iff, require_ok_iff, exists_const, Fault.ofPg_ok_iff, Fault.ofText_ok_iff,
      pure_ok_iff, Prod.mk.injEq] at admittedAccepted
    rcases admittedAccepted with ⟨snapshot, built, _, envelope, _, simulated, simulatedAccepted, frozen,
      frozenAccepted, enqueued, enqueuedAccepted, reported, reportedAccepted, announced,
      announcedAccepted, keyed, keyedAccepted, found, recordFound, rfl, rfl⟩
    have simulatedTables := (insertSimulation_ok_iff.mp simulatedAccepted).1
    have frozenTables := (insertSimulationSnapshot_ok_iff.mp frozenAccepted).1
    have enqueuedTables := (insertJob_ok_iff.mp enqueuedAccepted).1
    have reportedTables := (insertSimulationEvents_ok_iff.mp reportedAccepted).1
    have announcedTables := (emitQueuePositionEvents_ok_iff.mp announcedAccepted).1
    have keyedTables := (insertIdempotencyKey_ok_iff.mp keyedAccepted).1
    have profiles : keyed.tables.parameterProfiles = store.tables.parameterProfiles := by
      rw [keyedTables, announcedTables, reportedTables, enqueuedTables, frozenTables, simulatedTables]
      rfl
    have snapshots : keyed.tables.simulationSnapshots = store.tables.simulationSnapshots ++
        [{ runId := identifiers.subjectId, snapshotJson := snapshot
           snapshotSha256 := platform.sha256Hex (Json.canonical snapshot) }] := by
      rw [keyedTables, announcedTables, reportedTables, enqueuedTables, frozenTables, simulatedTables]
      rfl
    have runs : keyed.tables.simulations = store.tables.simulations ++
        [admittedRun now identifiers.subjectId (nextSequence store).1 request
          { dataset, profile, mapping }] := by
      rw [keyedTables, announcedTables, reportedTables, enqueuedTables, frozenTables, simulatedTables]
      rfl
    have frozenRow : ∃ row ∈ keyed.tables.simulationSnapshots,
        row.runId = identifiers.subjectId ∧ row.snapshotJson = snapshot :=
      ⟨_, snapshots ▸ List.mem_append_right _ (List.mem_singleton.mpr rfl), rfl, rfl⟩
    have sameSnapshot : found.snapshot = snapshot := by
      rcases frozenRow with ⟨row, member, sameRun, rfl⟩
      rw [simulationById] at recordFound
      split at recordFound
      · rename_i selectedRun selected _ selectedSnapshot
        cases recordFound
        have matched : selected.runId = identifiers.subjectId :=
          of_decide_eq_true (List.find?_some selectedSnapshot :)
        exact congrArg SimulationSnapshot.snapshotJson (keyed.unique.snapshotRun.eq_of_mem
          (List.mem_of_find?_eq_some selectedSnapshot) member (matched.trans sameRun.symm))
      · cases recordFound
    rw [simulationById_runId recordFound, sameSnapshot]
    refine ⟨⟨?_, profiles ▸ List.Subset.refl _⟩, valid, { dataset, profile, mapping }, ?_⟩
    · rw [snapshots]
      exact List.subset_append_left _ _
    · exact
        { dataset := admissibleDataset_ok datasetFound, profile := profiles ▸ profileMember
          profileVersion, mode, built := ⟨clock, built⟩
          run := ⟨_, runs ▸ List.mem_append_right _ (List.mem_singleton.mpr rfl), rfl, rfl, rfl, rfl, rfl⟩
          frozen := frozenRow }

/-! ## Every transaction -/

theorem keepsMaterial_system : FramedSystem platform KeepsMaterial where
  framed := keepsMaterial_framed
  registers := registerDataset_keepsMaterial
  creates := by
    intro store result now clock identifiers key request record replayed done
    cases replayed with
    | false => exact (createSimulation_admittedAs done).1
    | true =>
        rcases createSimulation_admits done with ⟨_, rfl⟩ | ⟨impossible, _⟩
        · exact KeepsMaterial.refl _
        · cases impossible
  profiles := by
    intro store result row saved
    have tables := (insertParameterProfile_ok_iff.mp saved).1
    constructor
    · rw [tables]
      exact List.Subset.refl _
    · rw [tables]
      exact List.subset_append_left _ _
  mappings := by
    intro store result row saved
    have tables := (insertLoadMappingProfile_ok_iff.mp saved).1
    apply KeepsMaterial.of_tables <;> rw [tables]
  starts := startJob_keepsMaterial
  rolledBack := by
    intro store result same _
    apply KeepsMaterial.of_tables <;> rw [same]

theorem Transaction.keepsMaterial {call : Call} (step : Transaction platform store call result) :
    KeepsMaterial store result :=
  keepsMaterial_system.transaction step

/-- A run is found with the material of its admission after every transaction. -/
theorem AdmittedAs.step {request : CreateSimulationRequest} {runId : String} {inputs : AdmissionInputs}
    {snapshot : Json} {call : Call} (admitted : AdmittedAs platform request runId inputs snapshot store)
    (step : Transaction platform store call result) :
    AdmittedAs platform request runId inputs snapshot result := by
  have kept := step.keepsMaterial
  rcases admitted.run with ⟨row, member, sameRun, dataset, profile, mapping, mode⟩
  rcases step.effect.run_target member with ⟨later, laterMember, same⟩
  rcases admitted.frozen with ⟨frozen, frozenMember, frozenRun, frozenJson⟩
  exact
    { admitted with
      profile := kept.profiles admitted.profile
      run := ⟨later, laterMember, (congrArg RunAdmission.runId same).trans sameRun,
        (congrArg RunAdmission.datasetId same).trans dataset,
        (congrArg RunAdmission.parameterProfileVersionId same).trans profile,
        (congrArg RunAdmission.loadMappingVersionId same).trans mapping,
        (congrArg RunAdmission.runMode same).trans mode⟩
      frozen := ⟨frozen, kept.snapshots frozenMember, frozenRun, frozenJson⟩ }

theorem AdmittedAs.later {request : CreateSimulationRequest} {runId : String} {inputs : AdmissionInputs}
    {snapshot : Json} {calls : List Call} (admitted : AdmittedAs platform request runId inputs snapshot store)
    (run : (queueSystem platform).Run store calls result) :
    AdmittedAs platform request runId inputs snapshot result :=
  run.invariant _ (fun _ _ _ step held => held.step step) admitted

end Queue
end FederatedIot
