import FederatedIot.Queue.CanonicalRequest
import FederatedIot.Queue.System

namespace FederatedIot
namespace Queue

open Foundation Foundation.Relation Foundation.Outcome

/-!
# Idempotent admission

The use of an idempotency key is recorded in the transaction that creates its
run and is never removed.  From then on a request under the key is answered
from the record alone: with the run when the digests of the canonical forms
agree, and with a conflict otherwise.
-/

variable {platform : Platform} {store result : Store}

/-! ## Uses of a key -/

/-- The key was used for a request of this digest and created the run. -/
def KeyUsed (key digest runId : String) (view : View) : Prop :=
  ∃ row ∈ view.keys, row.idempotencyKey = key ∧ row.requestSha256 = digest ∧ row.runId = runId

theorem View.Step.keys {view target : View} (step : View.Step view target) :
    view.keys ⊆ target.keys := by
  intro row member
  cases step.move with
  | createRun jobId datasetId key => exact List.mem_append_left _ member
  | registerDataset | advanceRun | advancePreflight => exact member

theorem Steps.keys {view target : View} (steps : Steps view target) : view.keys ⊆ target.keys := by
  induction steps with
  | refl => exact List.Subset.refl _
  | tail _ step inductionHypothesis => exact fun _ member => step.keys (inductionHypothesis member)

/-- Later transactions keep the use of a key. -/
theorem KeyUsed.run {key digest runId : String} {calls : List Call}
    (reachable : Reachable platform store) (run : (queueSystem platform).Run store calls result)
    (used : KeyUsed key digest runId store.view) : KeyUsed key digest runId result.view := by
  refine System.Reachable.stable (fun store => KeyUsed key digest runId store.view) ?_ reachable run
    used
  intro source call target sourceReachable step held
  rcases held with ⟨row, member, same⟩
  exact ⟨row, (step.steps (reachable_coherent sourceReachable)).keys member, same⟩

theorem storedKey?_some {key : String} {row : IdempotencyKey}
    (member : row ∈ store.tables.idempotencyKeys) (same : row.idempotencyKey = key) :
    storedKey? key store.tables = some row := by
  unfold storedKey?
  cases found : store.tables.idempotencyKeys.find? fun row => row.idempotencyKey = key with
  | none =>
      have absent := List.find?_eq_none.mp found row member
      exact absurd (decide_eq_true same) absent
  | some other =>
      have matched := List.find?_some found
      rw [store.unique.idempotencyKey.eq_of_mem (List.mem_of_find?_eq_some found) member
        ((of_decide_eq_true matched).trans same.symm)]

/-! ## The run of a key -/

/-- Every run can be read with its snapshot. -/
theorem simulationById_ok (coherent : store.view.Coherent) {row : Simulation}
    (member : row ∈ store.tables.simulations) :
    ∃ record, simulationById row.runId store.tables = .ok record ∧ record.runId = row.runId := by
  have frozen : row.runId ∈ store.view.snapshots :=
    coherent.frozen row.view (List.mem_map_of_mem member)
  rcases List.mem_map.mp frozen with ⟨snapshot, snapshotMember, sameRun⟩
  have rowFound : (store.tables.simulations.find? fun other => other.runId = row.runId).isSome :=
    List.find?_isSome.mpr ⟨row, member, decide_eq_true rfl⟩
  have snapshotFound :
      (store.tables.simulationSnapshots.find? fun other => other.runId = row.runId).isSome :=
    List.find?_isSome.mpr ⟨snapshot, snapshotMember, decide_eq_true sameRun⟩
  rcases Option.isSome_iff_exists.mp rowFound with ⟨found, foundSame⟩
  rcases Option.isSome_iff_exists.mp snapshotFound with ⟨frozenRow, frozenSame⟩
  have matched := List.find?_some foundSame
  unfold simulationById
  rw [foundSame, frozenSame]
  exact ⟨_, rfl, of_decide_eq_true matched⟩

theorem simulationById_runId {runId : String} {record : SimulationRecord} {tables : Tables}
    (found : simulationById runId tables = .ok record) : record.runId = runId := by
  unfold simulationById at found
  split at found
  · rename_i row snapshot selected _
    cases found
    have matched := List.find?_some selected
    exact of_decide_eq_true matched
  · cases found

/-- An admission records the use of its key. -/
theorem admitRun_keyUsed {now clock : Instant} {identifiers : Identifiers} {key : String}
    {request : CreateSimulationRequest} {inputs : AdmissionInputs} {record : SimulationRecord}
    (accepted : admitRun platform now clock identifiers key request inputs store =
      .ok (result, record)) :
    KeyUsed key (platform.sha256Hex (canonicalSimulationRequest request)) record.runId
      result.view := by
  unfold admitRun at accepted
  simp only [bind_ok_iff, require_ok_iff, exists_const, Fault.ofPg_ok_iff, pure_ok_iff,
    Prod.mk.injEq] at accepted
  rcases accepted with ⟨_, _, _, _, _, _, _, _, _, _, _, _, _, announced, _, keyed, keyedAccepted,
    found, foundAccepted, rfl, rfl⟩
  have keyedTables := (insertIdempotencyKey_ok_iff.mp keyedAccepted).1
  refine ⟨usedKey platform now identifiers key request, ?_, rfl, rfl, ?_⟩
  · unfold Store.view Tables.view
    rw [keyedTables]
    exact List.mem_append_right _ (List.mem_singleton.mpr rfl)
  · exact (simulationById_runId foundAccepted).symm

/-- A call that creates a run finds its key unused and records its use. -/
theorem createSimulation_creates {now clock : Instant} {identifiers : Identifiers} {key : String}
    {request : CreateSimulationRequest} {record : SimulationRecord}
    (accepted : createSimulation platform now clock identifiers key request store =
      .ok (result, record, false)) :
    validateCreate platform key request = .ok Unit.unit ∧
      (∀ row ∈ store.view.keys, row.idempotencyKey ≠ key) ∧
      KeyUsed key (platform.sha256Hex (canonicalSimulationRequest request)) record.runId
        result.view := by
  unfold createSimulation createSimulationTx at accepted
  rw [bind_ok_iff] at accepted
  rcases accepted with ⟨_, validated, accepted⟩
  refine ⟨ofStable_ok_iff.mp validated, ?_⟩
  split at accepted
  · simp only [bind_ok_iff, require_ok_iff, exists_const, pure_ok_iff, Prod.mk.injEq] at accepted
    rcases accepted with ⟨_, _, _, _, _, replayed⟩
    cases replayed
  · rename_i unused
    simp only [bind_ok_iff, pure_ok_iff, Prod.mk.injEq] at accepted
    rcases accepted with ⟨inputs, _, ⟨admitted, admittedRecord⟩, admittedAccepted, rfl, rfl, _⟩
    refine ⟨?_, admitRun_keyUsed admittedAccepted⟩
    intro row member same
    have stored : storedKey? key store.tables = some row := storedKey?_some member same
    rw [stored] at unused
    cases unused

/-! ## Calls under a used key -/

section UsedKey

variable {key runId : String} {request : CreateSimulationRequest}

/-- The same request again: the run, and no change. -/
theorem createSimulation_replays (coherent : store.view.Coherent)
    (used : KeyUsed key (platform.sha256Hex (canonicalSimulationRequest request)) runId store.view)
    (valid : validateCreate platform key request = .ok Unit.unit) (now clock : Instant)
    (identifiers : Identifiers) :
    ∃ record, createSimulation platform now clock identifiers key request store =
      .ok (store, record, true) ∧ record.runId = runId := by
  rcases used with ⟨row, member, sameKey, sameDigest, sameRun⟩
  rcases store.foreign.idempotencyRun row member with ⟨run, runMember, runSame⟩
  rcases simulationById_ok coherent runMember with ⟨record, found, recordRun⟩
  refine ⟨record, ?_, recordRun.trans (runSame.trans sameRun)⟩
  rw [runSame] at found
  unfold createSimulation createSimulationTx
  rw [valid, storedKey?_some member sameKey]
  change (require _ _ >>= fun _ => simulationById row.runId store.tables >>= _) = _
  rw [require_of _ sameDigest, ok_bind, found]
  rfl

/-- A valid request with another digest: a conflict. -/
theorem createSimulation_conflicts {digest : String} (used : KeyUsed key digest runId store.view)
    (different : digest ≠ platform.sha256Hex (canonicalSimulationRequest request))
    (valid : validateCreate platform key request = .ok Unit.unit) (now clock : Instant)
    (identifiers : Identifiers) :
    createSimulation platform now clock identifiers key request store =
      .error (.stable idempotencyConflict) := by
  rcases used with ⟨row, member, sameKey, sameDigest, _⟩
  unfold createSimulation createSimulationTx
  rw [valid, storedKey?_some member sameKey]
  change (require _ _ >>= _) = _
  rw [require_refused _ (by rw [sameDigest]; exact different), error_bind]

end UsedKey

/-! ## Histories -/

theorem validateCreate_ok_iff {key : String} {request : CreateSimulationRequest} :
    validateCreate platform key request = .ok Unit.unit ↔
      platform.runtime.isValid = true ∧ (16 ≤ key.utf8ByteSize ∧ key.utf8ByteSize ≤ 128) ∧
        request.validate = .ok Unit.unit := by
  unfold validateCreate
  simp only [bind_ok_iff, require_ok_iff, exists_const]

theorem execute_createSimulation_ok_iff {now clock : Instant} {identifiers : Identifiers}
    {key : String} {request : CreateSimulationRequest} {record : SimulationRecord} {replayed : Bool} :
    execute platform now (.createSimulation clock identifiers key request) store =
        .ok (result, .created record replayed) ↔
      createSimulation platform now clock identifiers key request store =
        .ok (result, record, replayed) := by
  change answer _ _ = _ ↔ _
  rw [answer_ok_iff]
  constructor
  · rintro ⟨⟨inner, flag⟩, done, same⟩
    cases same
    exact done
  · intro done
    exact ⟨(record, replayed), done, rfl⟩

/-- The transaction creates a run under the key. -/
def createsRun (key : String) (call : Call) : Bool :=
  match call.operation, call.outcome with
  | .createSimulation _ _ used _, .ok (.created _ false) => used = key
  | _, _ => false

/-- What a transaction that creates a run is and does. -/
theorem createsRun_cases {key : String} {call : Call}
    (step : Transaction platform store call result) (creates : createsRun key call = true) :
    ∃ clock identifiers request record,
      createSimulation platform call.now clock identifiers key request store =
        .ok (result, record, false) := by
  cases step with
  | rolledBack =>
      unfold createsRun at creates
      split at creates
      · rename_i outcome
        cases outcome
      · cases creates
  | committed accepted =>
      unfold createsRun at creates
      split at creates
      · rename_i clock identifiers used request record sameOperation sameOutcome
        cases sameOperation
        cases sameOutcome
        rw [← of_decide_eq_true creates]
        exact ⟨clock, identifiers, request, record, execute_createSimulation_ok_iff.mp accepted⟩
      · cases creates

/-- A key creates at most one run in a history. -/
theorem created_once {key : String} {calls : List Call} (reachable : Reachable platform store)
    (run : (queueSystem platform).Run store calls result) :
    calls.countP (createsRun key) ≤ 1 := by
  refine System.Reachable.once
    (fun store => ∃ row ∈ store.view.keys, row.idempotencyKey = key) (createsRun key) ?_ ?_ ?_
    reachable run
  · rintro source call target sourceReachable step ⟨row, member, same⟩
    exact ⟨row, (step.steps (reachable_coherent sourceReachable)).keys member, same⟩
  · rintro source call target sourceReachable step ⟨row, member, same⟩
    apply Bool.eq_false_iff.mpr
    intro creates
    rcases createsRun_cases step creates with ⟨_, _, _, _, accepted⟩
    exact (createSimulation_creates accepted).2.1 row member same
  · intro source call target sourceReachable step creates
    rcases createsRun_cases step creates with ⟨_, _, _, _, accepted⟩
    rcases (createSimulation_creates accepted).2.2 with ⟨row, member, same, _⟩
    exact ⟨row, member, same⟩

/-- What the end of a history answers under a key that created `runId` for
`request`. -/
structure AnswersFromRecord (platform : Platform) (key runId : String)
    (request : CreateSimulationRequest) (store : Store) : Prop where
  replay : forall now clock identifiers other,
    canonicalSimulationRequest other = canonicalSimulationRequest request ->
      ∃ record, execute platform now (.createSimulation clock identifiers key other) store =
        .ok (store, .created record true) ∧ record.runId = runId
  conflict : forall now clock identifiers other, other.validate = .ok Unit.unit ->
    canonicalSimulationRequest other ≠ canonicalSimulationRequest request ->
      execute platform now (.createSimulation clock identifiers key other) store =
        .error (.stable idempotencyConflict)
  refusal : forall now clock identifiers other error, other.validate = .error error ->
    execute platform now (.createSimulation clock identifiers key other) store =
      .error (.stable error)

theorem answersFromRecord (injective : Function.Injective platform.sha256Hex)
    (coherent : store.view.Coherent) {key runId : String} {request : CreateSimulationRequest}
    (used : KeyUsed key (platform.sha256Hex (canonicalSimulationRequest request)) runId store.view)
    (validated : validateCreate platform key request = .ok Unit.unit) :
    AnswersFromRecord platform key runId request store := by
  rcases validateCreate_ok_iff.mp validated with ⟨runtime, keyLength, valid⟩
  constructor
  · intro now clock identifiers other same
    have otherValid : validateCreate platform key other = .ok Unit.unit :=
      validateCreate_ok_iff.mpr
        ⟨runtime, keyLength, validate_of_same (same_of_canonical valid same.symm) valid⟩
    rw [← same] at used
    rcases createSimulation_replays coherent used otherValid now clock identifiers with
      ⟨record, replayed, sameRun⟩
    exact ⟨record, execute_createSimulation_ok_iff.mpr replayed, sameRun⟩
  · intro now clock identifiers other otherValid different
    have apart : platform.sha256Hex (canonicalSimulationRequest request) ≠
        platform.sha256Hex (canonicalSimulationRequest other) :=
      fun same => different (injective same).symm
    have conflict := createSimulation_conflicts used apart
      (validateCreate_ok_iff.mpr ⟨runtime, keyLength, otherValid⟩) now clock identifiers
    change answer _ (createSimulation _ _ _ _ _ _ _) = _
    rw [conflict]
    rfl
  · intro now clock identifiers other error invalid
    have refused : validateCreate platform key other = .error error := by
      unfold validateCreate
      rw [require_of _ runtime, ok_bind, require_of _ keyLength, ok_bind, invalid]
    change answer _ (createSimulation _ _ _ _ _ _ _) = _
    unfold createSimulation
    rw [refused]
    rfl

/-- In every history a key creates at most one run.  After that run was
created, a request with the same canonical form is answered with the run and
changes nothing, another valid request is refused with a conflict, an invalid
one with its own error, and a refused call changes no table.  The canonical
forms of valid requests agree exactly when the requests differ at most in the
order of their agents. -/
theorem admission_idempotency (injective : Function.Injective platform.sha256Hex)
    {calls : List Call} (reachable : Reachable platform store)
    (run : (queueSystem platform).Run store calls result) :
    (forall key, calls.countP (createsRun key) ≤ 1) ∧
      (forall now clock identifiers key request record,
        ⟨now, .createSimulation clock identifiers key request, .ok (.created record false)⟩ ∈ calls ->
          AnswersFromRecord platform key record.runId request result) ∧
      (forall now operation fault after,
        Transaction platform result ⟨now, operation, .error fault⟩ after ->
          after.tables = result.tables) ∧
      (forall first second : CreateSimulationRequest, first.validate = .ok Unit.unit ->
        (canonicalSimulationRequest first = canonicalSimulationRequest second ↔
          first.SameUpToAgentOrder second)) := by
  refine ⟨fun key => created_once reachable run, ?_, ?_, fun first second => canonical_eq_iff⟩
  · intro now clock identifiers key request record member
    rcases run.of_mem member with ⟨earlier, before, after, later, prefixRun, step, suffix⟩
    have beforeReachable := reachable.run prefixRun
    have accepted : createSimulation platform now clock identifiers key request before =
        .ok (after, record, false) := by
      cases step with
      | committed executed => exact execute_createSimulation_ok_iff.mp executed
    rcases createSimulation_creates accepted with ⟨validated, _, used⟩
    exact answersFromRecord injective (reachable_coherent (reachable.run run))
      (used.run (beforeReachable.step step) suffix) validated
  · intro now operation fault after step
    cases step with
    | rolledBack _ same _ => exact same

/-- The identifier of the run that a call created. -/
def createdRun? : Except Fault (Store × Reply) -> Option String
  | .ok (_, .created record false) => some record.runId
  | _ => none

theorem createdRun?_some {outcome : Except Fault (Store × Reply)} {runId : String}
    (created : createdRun? outcome = some runId) :
    ∃ store record, outcome = .ok (store, .created record false) ∧ record.runId = runId := by
  unfold createdRun? at created
  split at created
  · exact ⟨_, _, rfl, Option.some.inj created⟩
  · cases created

theorem samplePlatform_injective : Function.Injective samplePlatform.sha256Hex := by
  unfold samplePlatform
  rw [platformWith_sha256Hex]
  apply listedDigest_injective
  · decide +kernel
  · decide +kernel

theorem sampleRequest_valid : sampleRequest.validate = .ok Unit.unit := by
  decide +kernel

/-- The sample request with its agents in another order. -/
def reorderedRequest : CreateSimulationRequest :=
  { sampleRequest with agentOverrides := sampleRequest.agentOverrides.reverse }

theorem reorderedRequest_same : sampleRequest.SameUpToAgentOrder reorderedRequest :=
  ⟨(List.reverse_perm _).symm, rfl⟩

/-- The sample history up to the admission of its run. -/
def beforeAdmission : Store :=
  replay samplePlatform sampleSetup (initialStore 0)

/-- The rest of the sample history begins with the admission of its run. -/
theorem sample_admission :
    ∃ admitted record calls, createSimulation samplePlatform 4 4 ⟨"run_1", "job_2"⟩ sampleKey
        sampleRequest beforeAdmission = .ok (admitted, record, false) ∧ record.runId = "run_1" ∧
      (queueSystem samplePlatform).Run admitted calls sampleStore := by
  have created : createdRun? (execute samplePlatform 4
      (.createSimulation 4 ⟨"run_1", "job_2"⟩ sampleKey sampleRequest) beforeAdmission) =
        some "run_1" := by decide +kernel
  rcases createdRun?_some created with ⟨admitted, record, executed, sameRun⟩
  rcases replay_run [(5, .claim "worker-1" "attempt_2" "lease-token-0002" 60)] admitted with
    ⟨calls, run⟩
  have whole : sampleStore = replay samplePlatform
      [(5, .claim "worker-1" "attempt_2" "lease-token-0002" 60)] admitted := by
    rw [← settleCall_of_ok executed]
    unfold sampleStore sampleHistory beforeAdmission
    rw [replay_append, replay_cons]
  rw [← whole] at run
  exact ⟨admitted, record, calls, execute_createSimulation_ok_iff.mp executed, sameRun, run⟩

theorem beforeAdmission_reachable : Reachable samplePlatform beforeAdmission :=
  replay_reachable _ (System.Reachable.of_initial ⟨0, rfl⟩)

/-- In the sample history the request of the first run is repeated with its
agents in another order while that run executes. -/
theorem admission_idempotency_sample :
    ∃ record, execute samplePlatform 9
        (.createSimulation 9 ⟨"run_2", "job_3"⟩ sampleKey reorderedRequest) sampleStore =
          .ok (sampleStore, .created record true) ∧ record.runId = "run_1" := by
  rcases sample_admission with ⟨admitted, record, calls, accepted, sameRun, run⟩
  have executed := execute_createSimulation_ok_iff.mpr accepted
  have whole := System.Run.cons (Transaction.committed executed) run
  have answers := (admission_idempotency samplePlatform_injective beforeAdmission_reachable
    whole).2.1 4 4 ⟨"run_1", "job_2"⟩ sampleKey sampleRequest record List.mem_cons_self
  rcases answers.replay 9 9 ⟨"run_2", "job_3"⟩ reorderedRequest
    (canonical_of_same sampleRequest_valid reorderedRequest_same).symm with
    ⟨again, replayed, againRun⟩
  exact ⟨again, replayed, againRun.trans sameRun⟩

/-- The code of the stable error that a call is refused with. -/
def refusalCode? : Except Fault (Store × Reply) -> Option String
  | .error (.stable error) => some error.code
  | _ => none

/-- The key of the sample run, used again with a request whose seed is zero,
is not answered with a conflict. -/
theorem reused_key_with_invalid_request :
    Reachable samplePlatform sampleStore ∧
      KeyUsed sampleKey (samplePlatform.sha256Hex (canonicalSimulationRequest sampleRequest)) "run_1"
        sampleStore.view ∧
      ¬∀ request : CreateSimulationRequest,
        canonicalSimulationRequest request ≠ canonicalSimulationRequest sampleRequest ->
          execute samplePlatform 9 (.createSimulation 9 ⟨"run_2", "job_3"⟩ sampleKey request)
            sampleStore = .error (.stable idempotencyConflict) := by
  refine ⟨sampleStore_reachable, ?_, ?_⟩
  · rcases sample_admission with ⟨admitted, record, calls, accepted, sameRun, run⟩
    have executed := execute_createSimulation_ok_iff.mpr accepted
    have admittedReachable : Reachable samplePlatform admitted :=
      beforeAdmission_reachable.step (Transaction.committed executed)
    rw [← sameRun]
    exact (createSimulation_creates accepted).2.2.run admittedReachable run
  · intro conflicts
    have apart : canonicalSimulationRequest { sampleRequest with seed := 0 } ≠
        canonicalSimulationRequest sampleRequest := by
      intro same
      have seeds := congrArg CreateSimulationRequest.seed
        (same_of_canonical sampleRequest_valid same.symm).2
      exact absurd seeds (by decide)
    have conflict := conflicts { sampleRequest with seed := 0 } apart
    have refused : refusalCode? (execute samplePlatform 9
        (.createSimulation 9 ⟨"run_2", "job_3"⟩ sampleKey { sampleRequest with seed := 0 })
        sampleStore) = some "PARAMETER_OUT_OF_RANGE" := by decide +kernel
    rw [conflict] at refused
    exact absurd refused (by decide)

end Queue
end FederatedIot
