import FederatedIot.Foundation.Decoding
import FederatedIot.Queue.Listing
import FederatedIot.Queue.Material

namespace FederatedIot
namespace Queue

open Foundation Foundation.Relation Foundation.Outcome

/-!
# Repeating a run

`RerunRequest` reads the identity of a terminal run from its frozen snapshot.
The numbers of the decoded snapshot are doubles, so the seed of the run comes
back as the integer of a double.  All other parts of the identity are texts.
-/

variable {platform : Platform} {store middle result : Store}

/-! ## The request of a repeated run -/

/-- The number that a decoded literal becomes. -/
def asFloat64? : Json -> Option Rat
  | .number literal => some (Binary64.round literal.value)
  | _ => none

/-- `rawJSONObject`; the numbers become doubles where they are read. -/
def storedObject? : Json -> Option (List (String × Json))
  | .object fields => some fields
  | .null => some []
  | _ => none

def InInt64Range (value : Rat) : Prop :=
  -2 ^ 63 ≤ value ∧ value < 2 ^ 63

instance (value : Rat) : Decidable (InInt64Range value) :=
  inferInstanceAs (Decidable (_ ∧ _))

/-- `int64(value)`.  Beyond the range of the integers the result is that of the
processor. -/
def int64OfFloat64 (outOfRange : Rat -> Int64) (value : Rat) : Int64 :=
  if InInt64Range value then Int64.ofInt (Binary64.truncate value) else outOfRange value

/-- `float64(value)` -/
def float64OfInt64 (value : Int64) : Rat :=
  Binary64.round value.toInt

def runNotRerunnable : StableError :=
  { code := "RUN_NOT_RERUNNABLE", field := "run_id"
    message := "Only a terminal simulation can be rerun.", recoverable := false }

def snapshotInvalid : StableError :=
  { code := "REFERENCE_CONFIG_IMMUTABLE", field := "run_id"
    message := "The immutable simulation snapshot is invalid.", recoverable := false }

def snapshotMismatch : StableError :=
  { code := "REFERENCE_CONFIG_IMMUTABLE", field := "run_id"
    message := "The immutable simulation snapshot does not match its task identity."
    recoverable := false }

/-- What names the inputs of a run. -/
structure RerunIdentity where
  datasetId : String
  profileVersionId : String
  mappingVersionId : String
  mode : String
  deriving DecidableEq

/-- `snapshotRerunIdentity` -/
def snapshotRerunIdentity (snapshot : Json) (fallback : RerunIdentity) : Except StableError RerunIdentity :=
  match storedObject? snapshot with
  | none => .error snapshotInvalid
  | some stored =>
      match ((Json.lookup "dataset" stored).bind Json.asObject?).bind fun dataset =>
          (Json.lookup "dataset_id" dataset).bind Json.asString?,
        (Json.lookup "parameter_profile_version_id" stored).bind Json.asString?,
        (Json.lookup "run_mode" stored).bind Json.asString? with
      | some datasetId, some profileVersionId, some mode =>
          let frozenMapping := ((Json.lookup "load_mapping_version_id" stored).bind Json.asString?).getD ""
          let mappingVersionId := if frozenMapping = "" then fallback.mappingVersionId else frozenMapping
          if datasetId ≠ fallback.datasetId ∨ profileVersionId ≠ fallback.profileVersionId ∨
              mode ≠ fallback.mode ∨ mappingVersionId = "" then .error snapshotMismatch
          else .ok { datasetId, profileVersionId, mappingVersionId, mode }
      | _, _, _ => .error snapshotInvalid

/-- The seed that `snapshotMasterSeed` takes from a double. -/
def seedOfFloat64 (outOfRange : Rat -> Int64) (value : Rat) : Except StableError Int64 :=
  if value = 0 ∨ value ≠ float64OfInt64 (int64OfFloat64 outOfRange value) then .error snapshotInvalid
  else .ok (int64OfFloat64 outOfRange value)

/-- `snapshotMasterSeed`; a decoded number is never an `int64`. -/
def snapshotMasterSeed (outOfRange : Rat -> Int64) (snapshot : Json) : Except StableError Int64 :=
  match (storedObject? snapshot).bind fun stored =>
      ((Json.lookup "runtime" stored).bind Json.asObject?).bind fun runtime =>
        (Json.lookup "master_seed" runtime).bind asFloat64? with
  | none => .error snapshotInvalid
  | some value => seedOfFloat64 outOfRange value

/-- The profile version that is asked for instead of the original one. -/
def selectedProfile (parameterProfileVersionId : String) (identity : RerunIdentity) (tables : Tables) :
    Except StableError (String × String) :=
  if trimSpace parameterProfileVersionId ≠ "" ∧ parameterProfileVersionId ≠ identity.profileVersionId then
    match tables.parameterProfiles.find? fun row => row.versionId = parameterProfileVersionId with
    | none => .error (stableError "PROFILE_NOT_FOUND" "parameter_profile_version_id"
        "Parameter profile was not found.")
    | some profile => .ok (parameterProfileVersionId, profile.mode.text)
  else .ok (identity.profileVersionId, identity.mode)

/-- `RerunRequest` -/
def rerunRequest (outOfRange : Rat -> Int64) (runId parameterProfileVersionId : String) (tables : Tables) :
    Except StableError CreateSimulationRequest :=
  match tables.simulations.find? (fun row => row.runId = runId),
      tables.simulationSnapshots.find? (fun row => row.runId = runId) with
  | some row, some snapshot => do
      require (row.status.isTerminal = true) runNotRerunnable
      let identity ← snapshotRerunIdentity snapshot.snapshotJson
        { datasetId := row.datasetId, profileVersionId := row.parameterProfileVersionId
          mappingVersionId := row.loadMappingVersionId, mode := row.runMode.text }
      let seed ← snapshotMasterSeed outOfRange snapshot.snapshotJson
      let selected ← selectedProfile parameterProfileVersionId identity tables
      return {
        datasetId := identity.datasetId, runMode := selected.2, parameterProfileVersionId := selected.1
        loadMappingVersionId := identity.mappingVersionId
        agentOverrides := [⟨1, some []⟩, ⟨2, some []⟩, ⟨3, some []⟩], seed
        displayName := row.displayName.getD "" }
  | _, _ => .error runNotFound

/-! ## The identity of a snapshot -/

variable {request : CreateSimulationRequest} {runId : String} {inputs : AdmissionInputs} {snapshot : Json}
  {outOfRange : Rat -> Int64}

theorem buildSnapshot_fields {clock : Instant}
    (built : buildSnapshot platform runId request inputs clock = .ok snapshot) :
    ∃ fields, snapshot = .object fields ∧
      Json.lookup "dataset" fields = some (datasetSnapshot inputs.dataset) ∧
      Json.lookup "parameter_profile_version_id" fields = some (.string request.parameterProfileVersionId) ∧
      Json.lookup "run_mode" fields = some (.string request.runMode) ∧
      Json.lookup "load_mapping_version_id" fields = some (.string request.loadMappingVersionId) ∧
      Json.lookup "runtime" fields = some (workerRuntime platform.runtime request.seed) ∧
      (effectiveParameterSnapshot platform inputs.profile.normalizedJson).toOption =
        Json.lookup "parameter_effective" fields := by
  rw [buildSnapshot, bind_ok_iff] at built
  rcases built with ⟨effective, derived, same⟩
  cases same
  rw [derived]
  exact ⟨_, rfl, rfl, rfl, rfl, rfl, rfl, rfl⟩

theorem snapshotRerunIdentity_ok {clock : Instant} {fallback : RerunIdentity}
    (built : buildSnapshot platform runId request inputs clock = .ok snapshot)
    (dataset : inputs.dataset.datasetId = request.datasetId) (mapped : request.loadMappingVersionId ≠ "")
    (same : fallback = ⟨request.datasetId, request.parameterProfileVersionId, request.loadMappingVersionId,
      request.runMode⟩) :
    snapshotRerunIdentity snapshot fallback = .ok fallback := by
  rcases buildSnapshot_fields built with ⟨fields, rfl, datasetField, profileField, modeField, mappingField, _, _⟩
  have datasetId : ((Json.lookup "dataset" fields).bind Json.asObject?).bind (fun dataset =>
      (Json.lookup "dataset_id" dataset).bind Json.asString?) = some request.datasetId := by
    rw [datasetField, ← dataset]
    rfl
  simp only [snapshotRerunIdentity, storedObject?, datasetId, profileField, modeField, mappingField,
    Option.bind_some, Json.asString?, Option.getD_some, same, ne_eq, not_true_eq_false, mapped,
    or_false, if_false]

/-- The seed as the decoded snapshot holds it. -/
theorem snapshotMasterSeed_eq {clock : Instant}
    (built : buildSnapshot platform runId request inputs clock = .ok snapshot) :
    snapshotMasterSeed outOfRange snapshot = seedOfFloat64 outOfRange (float64OfInt64 request.seed) := by
  rcases buildSnapshot_fields built with ⟨fields, rfl, _, _, _, _, runtimeField, _⟩
  have decoded : asFloat64? (Json.ofInt request.seed.toInt) = some (float64OfInt64 request.seed) := by
    simp only [asFloat64?, Json.ofInt, Decimal.ofInt, Decimal.value, pow_zero, div_one, float64OfInt64]
  have seedField : ((storedObject? (.object fields)).bind fun stored =>
      ((Json.lookup "runtime" stored).bind Json.asObject?).bind fun runtime =>
        (Json.lookup "master_seed" runtime).bind asFloat64?) = some (float64OfInt64 request.seed) := by
    rw [storedObject?, Option.bind_some, runtimeField, ← decoded]
    rfl
  rw [snapshotMasterSeed, seedField]

/-! ## The seed -/

/-- The seed is equal to its double; or its double is beyond the range, and the
processor converts it to this seed all the same. -/
def SeedSurvives (outOfRange : Rat -> Int64) (seed : Int64) : Prop :=
  Binary64.Representable seed.toInt ∨
    (¬InInt64Range (float64OfInt64 seed) ∧ outOfRange (float64OfInt64 seed) = seed)

theorem int64OfFloat64_ofInt64_iff {seed : Int64} :
    int64OfFloat64 outOfRange (float64OfInt64 seed) = seed ↔ SeedSurvives outOfRange seed := by
  rcases Binary64.exists_int_round seed.toInt with ⟨rounded, same⟩
  by_cases inRange : InInt64Range (float64OfInt64 seed)
  · have bounds : -2 ^ 63 ≤ rounded ∧ rounded < 2 ^ 63 := by
      rw [InInt64Range, float64OfInt64, same] at inRange
      exact_mod_cast inRange
    have converted : (Int64.ofInt (Binary64.truncate (float64OfInt64 seed))).toInt =
        Binary64.truncate (Binary64.round seed.toInt) := by
      rw [float64OfInt64, same, Binary64.truncate_intCast]
      exact Int64.toInt_ofInt_of_le bounds.1 bounds.2
    rw [int64OfFloat64, if_pos inRange, ← Int64.toInt_inj, converted, Binary64.truncate_round_iff, SeedSurvives]
    exact ⟨Or.inl, fun survives => survives.resolve_right fun beyond => beyond.1 inRange⟩
  · rw [int64OfFloat64, if_neg inRange, SeedSurvives]
    constructor
    · intro converted
      exact Or.inr ⟨inRange, converted⟩
    · rintro (representable | ⟨_, converted⟩)
      · -- a seed that is a double is its own double, and it is in the range
        refine absurd ?_ inRange
        rw [InInt64Range, float64OfInt64, Binary64.round_eq_self representable]
        exact ⟨by exact_mod_cast seed.le_toInt, by exact_mod_cast seed.toInt_lt⟩
      · exact converted

/-- The double of a seed that is not zero is not zero. -/
theorem float64OfInt64_ne_zero {seed : Int64} (nonzero : seed ≠ 0)
    (survives : int64OfFloat64 outOfRange (float64OfInt64 seed) = seed) : float64OfInt64 seed ≠ 0 := by
  intro zero
  apply nonzero
  rw [← survives, zero, int64OfFloat64, if_pos (by decide +kernel)]
  decide +kernel

/-- The seed that the snapshot yields is the seed of the run exactly when it
survives the passage through a double. -/
theorem snapshotMasterSeed_iff {clock : Instant} (nonzero : request.seed ≠ 0)
    (built : buildSnapshot platform runId request inputs clock = .ok snapshot) :
    snapshotMasterSeed outOfRange snapshot = .ok request.seed ↔ SeedSurvives outOfRange request.seed := by
  rw [snapshotMasterSeed_eq built, ← int64OfFloat64_ofInt64_iff, seedOfFloat64]
  constructor
  · intro found
    split at found
    · cases found
    · exact Except.ok.inj found
  · intro survives
    rw [survives, if_neg]
    rintro (zero | different)
    · exact float64OfInt64_ne_zero nonzero survives zero
    · exact different rfl

/-! ## The repeated run -/

def effectiveParameters (record : SimulationRecord) : Option Json :=
  record.snapshot.field? "parameter_effective"

def randomStreams (record : SimulationRecord) : Option Json :=
  (record.snapshot.field? "runtime").bind (Json.field? "random_streams")

/-- The requests name the same inputs. -/
structure SameIdentity (original rerun : CreateSimulationRequest) : Prop where
  dataset : rerun.datasetId = original.datasetId
  profile : rerun.parameterProfileVersionId = original.parameterProfileVersionId
  mapping : rerun.loadMappingVersionId = original.loadMappingVersionId
  mode : rerun.runMode = original.runMode
  seed : rerun.seed = original.seed

/-- Whenever the request is admitted later on, its run has the parameters and the
random streams of the recorded run. -/
def SameWhenAdmitted (platform : Platform) (record : SimulationRecord) (rerun : CreateSimulationRequest)
    (store : Store) : Prop :=
  forall calls before after now clock identifiers key repeated,
    (queueSystem platform).Run store calls before ->
    Transaction platform before
      ⟨now, .createSimulation clock identifiers key rerun, .ok (.created repeated false)⟩ after ->
    effectiveParameters repeated = effectiveParameters record ∧ randomStreams repeated = randomStreams record

/-- The run can be repeated with its inputs, its parameters and its random streams. -/
def Reproducible (platform : Platform) (outOfRange : Rat -> Int64) (request : CreateSimulationRequest)
    (record : SimulationRecord) (store : Store) : Prop :=
  ∃ rerun, rerunRequest outOfRange record.runId "" store.tables = .ok rerun ∧ SameIdentity request rerun ∧
    SameWhenAdmitted platform record rerun store

/-- Without an override the request of a repeated run has the identity of the
run and the seed that the snapshot yields. -/
theorem rerunRequest_ok_iff {rerun : CreateSimulationRequest} {row : Simulation}
    (admitted : AdmittedAs platform request runId inputs snapshot store) (mapped : request.loadMappingVersionId ≠ "")
    (member : row ∈ store.tables.simulations) (isRun : row.runId = runId)
    (terminal : row.status.isTerminal = true) :
    rerunRequest outOfRange runId "" store.tables = .ok rerun ↔
      ∃ seed, snapshotMasterSeed outOfRange snapshot = .ok seed ∧
        rerun = { datasetId := request.datasetId, runMode := request.runMode
                  parameterProfileVersionId := request.parameterProfileVersionId
                  loadMappingVersionId := request.loadMappingVersionId
                  agentOverrides := [⟨1, some []⟩, ⟨2, some []⟩, ⟨3, some []⟩], seed
                  displayName := row.displayName.getD "" } := by
  rcases admitted.built with ⟨clock, built⟩
  rcases admitted.run with ⟨stored, storedMember, storedRun, dataset, profile, mapping, mode⟩
  rcases admitted.frozen with ⟨frozen, frozenMember, frozenRun, frozenJson⟩
  have isStored : stored = row := store.unique.runId.eq_of_mem storedMember member (storedRun.trans isRun.symm)
  subst isStored
  have identity := snapshotRerunIdentity_ok built admitted.dataset mapped
    (show RerunIdentity.mk stored.datasetId stored.parameterProfileVersionId stored.loadMappingVersionId
      stored.runMode.text = _ by rw [dataset, profile, mapping, mode, ← admitted.mode])
  have rowFound := Keyed.find?_eq store.unique.runId member isRun
  have snapshotFound := Keyed.find?_eq store.unique.snapshotRun frozenMember frozenRun
  simp only [rerunRequest, rowFound, snapshotFound, frozenJson, bind_ok_iff, require_ok_iff, exists_const,
    terminal, true_and, identity, Except.ok.injEq, exists_eq_left', selectedProfile, pure_ok_iff]
  rw [if_neg (fun overridden => overridden.1 (by decide))]
  simp only [Except.ok.injEq, dataset, profile, mapping, mode, admitted.mode, eq_comm, exists_eq_left]

/-- A repeated run with the identity of the first one has its parameters and its
random streams. -/
theorem sameWhenAdmitted {record : SimulationRecord} {rerun : CreateSimulationRequest}
    (admitted : AdmittedAs platform request record.runId inputs record.snapshot store)
    (same : SameIdentity request rerun) : SameWhenAdmitted platform record rerun store := by
  intro calls before after now clock identifiers key repeated run step
  have kept := (admitted.later run).step step
  cases step with
  | committed accepted =>
      rcases answer_ok_iff.mp accepted with ⟨⟨record, replayed⟩, done, replied⟩
      cases replied
      rcases createSimulation_admittedAs done with ⟨_, _, others, again⟩
      have sameProfile : others.profile = inputs.profile :=
        after.unique.profileVersion.eq_of_mem again.profile kept.profile
          (again.profileVersion.trans (same.profile.trans admitted.profileVersion.symm))
      rcases admitted.built with ⟨_, built⟩
      rcases again.built with ⟨_, builtAgain⟩
      rcases buildSnapshot_fields built with ⟨fields, isObject, _, _, _, _, runtime, effective⟩
      rcases buildSnapshot_fields builtAgain with ⟨otherFields, otherObject, _, _, _, _, otherRuntime, otherEffective⟩
      constructor
      · rw [effectiveParameters, effectiveParameters, isObject, otherObject]
        change Json.lookup _ otherFields = Json.lookup _ fields
        rw [← effective, ← otherEffective, sameProfile]
      · rw [randomStreams, randomStreams, isObject, otherObject]
        change (Json.lookup _ otherFields).bind _ = (Json.lookup _ fields).bind _
        rw [runtime, otherRuntime, same.seed]

/-- A terminal run can be repeated with its inputs, its parameters and its random
streams exactly when its seed survives the passage through a double. -/
theorem reproducible_iff {now clock : Instant} {identifiers : Identifiers} {key : String}
    {record : SimulationRecord} {calls : List Call} {row : Simulation}
    (admission : Transaction platform store
      ⟨now, .createSimulation clock identifiers key request, .ok (.created record false)⟩ middle)
    (run : (queueSystem platform).Run middle calls result)
    (member : row ∈ result.tables.simulations) (isRun : row.runId = record.runId)
    (terminal : row.status.isTerminal = true) :
    Reproducible platform outOfRange request record result ↔ SeedSurvives outOfRange request.seed := by
  cases admission with
  | committed accepted =>
      rcases answer_ok_iff.mp accepted with ⟨⟨_, _⟩, done, replied⟩
      cases replied
      rcases createSimulation_admittedAs done with ⟨_, valid, inputs, admittedNow⟩
      have admitted := admittedNow.later run
      rcases admitted.built with ⟨_, built⟩
      rw [CreateSimulationRequest.validate] at valid
      simp only [bind_ok_iff, require_ok_iff, exists_const] at valid
      have mapped : request.loadMappingVersionId ≠ "" := by
        intro empty
        rw [empty] at valid
        exact valid.1.2.2 (by decide)
      rw [← snapshotMasterSeed_iff valid.2.2.1 built, Reproducible]
      simp only [rerunRequest_ok_iff admitted mapped member isRun terminal]
      constructor
      · rintro ⟨rerun, ⟨seed, found, rfl⟩, same, _⟩
        rw [found]
        exact congrArg Except.ok same.seed
      · intro found
        refine ⟨_, ⟨request.seed, found, rfl⟩, ⟨rfl, rfl, rfl, rfl, rfl⟩, ?_⟩
        exact sameWhenAdmitted admitted ⟨rfl, rfl, rfl, rfl, rfl⟩

/-! ## Two seeds -/

/-- The conversion of an x86-64 processor beyond the range. -/
def indefiniteInteger (_ : Rat) : Int64 :=
  Int64.minValue

/-- The least positive seed that is not a double. -/
def distantRequest : CreateSimulationRequest :=
  { sampleRequest with seed := 9007199254740993 }

/-- The SHA-256 digests of the texts that the admission of the request digests. -/
def distantDigests : List (String × String) :=
  fieldStandardDigests ++
    [(Json.canonical (preflightEnvelope (platformWith fieldStandardDigests) "job_1" "ds_1"
        "datasets/ds_1/source.csv" sampleDigest "Asia/Shanghai"),
        "94fdf0158a4672592e48912d99c5985930f35b90d094a5cd37c530c39b86e26d"),
      (canonicalText (buildSimulationEnvelope (platformWith fieldStandardDigests) "job_2" "run_1"
        distantRequest sampleInputs),
        "dfdf023674878914309a5a4df6ff1db96e858d3dee27db451fb07a2dffa27883"),
      (canonicalText (buildSnapshot (platformWith fieldStandardDigests) "run_1" distantRequest
        sampleInputs 4),
        "9a860b7b4827f336c046c2946793cd759753b16b211322dfeb666fe88a34abc3"),
      (canonicalSimulationRequest distantRequest,
        "a2c2070a81a09c2002572a45819fbf506d26aa18ac726d7af5778651b91db464")]

def distantPlatform : Platform :=
  platformWith distantDigests

/-- One dataset is validated. -/
def distantSetup : Store :=
  replay distantPlatform sampleSetup (initialStore 0)

theorem distantSetup_reachable : Reachable distantPlatform distantSetup :=
  replay_reachable sampleSetup (System.Reachable.of_initial ⟨0, rfl⟩)

/-- The run is withdrawn before a worker takes it. -/
def withdrawal : List (Instant × Operation) :=
  [(5, .cancelSimulation "run_1" "no longer needed")]

/-- A run that was admitted and then withdrawn. -/
structure WithdrawnRun (platform : Platform) (request : CreateSimulationRequest) (before : Store)
    (middle : Store) (record : SimulationRecord) : Prop where
  reachable : Reachable platform before
  admission : Transaction platform before
    ⟨4, .createSimulation 4 ⟨"run_1", "job_2"⟩ sampleKey request, .ok (.created record false)⟩ middle
  isRun : record.runId = "run_1"
  terminal : ∃ row ∈ (replay platform withdrawal middle).tables.simulations,
    row.runId = "run_1" ∧ row.status.isTerminal = true

theorem withdrawn_of_replay {request : CreateSimulationRequest} {before : Store}
    (reachable : Reachable platform before)
    (created : createdRun? (execute platform 4 (.createSimulation 4 ⟨"run_1", "job_2"⟩ sampleKey request)
      before) = some "run_1")
    (terminal : ∃ row ∈ (replay platform
        ((4, .createSimulation 4 ⟨"run_1", "job_2"⟩ sampleKey request) :: withdrawal) before).tables.simulations,
      row.runId = "run_1" ∧ row.status.isTerminal = true) :
    ∃ middle record, WithdrawnRun platform request before middle record ∧
      replay platform withdrawal middle = replay platform
        ((4, .createSimulation 4 ⟨"run_1", "job_2"⟩ sampleKey request) :: withdrawal) before := by
  rcases createdRun?_some created with ⟨middle, record, executed, isRun⟩
  have same : replay platform withdrawal middle = replay platform
      ((4, .createSimulation 4 ⟨"run_1", "job_2"⟩ sampleKey request) :: withdrawal) before := by
    rw [replay_cons, settleCall_of_ok executed]
  exact ⟨middle, record, ⟨reachable, .committed executed, isRun, same ▸ terminal⟩, same⟩

/-- The seed 2⁵³ + 1 comes back as 2⁵³. -/
theorem distant_seed_lost :
    ∃ middle record, WithdrawnRun distantPlatform distantRequest distantSetup middle record ∧
      ¬Reproducible distantPlatform indefiniteInteger distantRequest record
        (replay distantPlatform withdrawal middle) := by
  rcases withdrawn_of_replay distantSetup_reachable
    (show createdRun? (execute distantPlatform 4 (.createSimulation 4 ⟨"run_1", "job_2"⟩ sampleKey distantRequest)
      distantSetup) = some "run_1" by decide +kernel) (by decide +kernel) with ⟨middle, record, withdrawn, same⟩
  refine ⟨middle, record, withdrawn, ?_⟩
  rintro ⟨rerun, found, identity, _⟩
  have seed : (rerunRequest indefiniteInteger "run_1" "" (replay distantPlatform
      ((4, .createSimulation 4 ⟨"run_1", "job_2"⟩ sampleKey distantRequest) :: withdrawal)
        distantSetup).tables).toOption.map CreateSimulationRequest.seed = some 9007199254740992 := by
    decide +kernel
  rw [← same, ← withdrawn.isRun, found] at seed
  have lost : rerun.seed = 9007199254740992 := Option.some.inj seed
  rw [identity.seed] at lost
  exact absurd lost (by decide)

/-- The seed 7 comes back. -/
theorem reproducible_iff_sample :
    ∃ middle record, WithdrawnRun samplePlatform sampleRequest beforeAdmission middle record ∧
      Reproducible samplePlatform indefiniteInteger sampleRequest record
        (replay samplePlatform withdrawal middle) := by
  rcases withdrawn_of_replay beforeAdmission_reachable
    (show createdRun? (execute samplePlatform 4 (.createSimulation 4 ⟨"run_1", "job_2"⟩ sampleKey sampleRequest)
      beforeAdmission) = some "run_1" by decide +kernel) (by decide +kernel) with ⟨middle, record, withdrawn, _⟩
  refine ⟨middle, record, withdrawn, ?_⟩
  rcases withdrawn.terminal with ⟨row, member, isRun, terminal⟩
  rcases replay_run withdrawal middle with ⟨calls, run⟩
  apply (reproducible_iff withdrawn.admission run member (isRun.trans withdrawn.isRun.symm) terminal).mpr
  exact Or.inl (Binary64.representable_int_iff.mpr ⟨7, 0, by decide, by decide⟩)

end Queue
end FederatedIot
