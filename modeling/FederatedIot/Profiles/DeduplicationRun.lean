import FederatedIot.Profiles.Deduplication

namespace FederatedIot
namespace Profiles

open Foundation Foundation.JsonText Foundation.JsonText.Document Foundation.Outcome Queue

/-!
# Runs of the calls that store profiles

Rows are only added, and whoever adds a row has answered that it is new.  So the rows of
custom profiles and the calls that created one correspond, and the digests keep apart what
differs.  All that is required of the calls is that the identifiers they draw are new and
that a canonical text survives storage.
-/

/-! ## Texts that survive storage -/

/-- A text survives when no number in it is a negative zero. -/
theorem stable_of_numbers {value : Value} (distinct : value.Distinct)
    (unsigned : value.Numbers fun number => ¬number.IsNegativeZero) : Stable (canonicalJson value) := by
  intro stored isStored
  rcases Jsonb.marshal_stored_iff distinct isStored with ⟨back, decoded, same⟩
  unfold canonicalRaw
  rw [decoded]
  exact congrArg some (same.mpr unsigned)

theorem referenceProfile_distinct : referenceProfile.Distinct := by
  have same : referenceProfile.collapse = referenceProfile := rfl
  rw [← same]
  exact distinct_collapse _

/-- Numbers without a sign are no negative zeros. -/
theorem unsigned_of_check {value : Value} (checked : allNumbers (fun number => !number.negative) value = true) :
    value.Numbers fun number => ¬number.IsNegativeZero := by
  have each := (allNumbers_iff (fun number => !number.negative) value).mp checked
  refine each.imp fun number isPositive negative => ?_
  rw [negative.1] at isPositive
  cases isPositive

theorem referenceNormalized_stable : Stable referenceNormalized :=
  stable_of_numbers referenceProfile_distinct (unsigned_of_check (by decide +kernel))

section Runs

variable {CallId : Type} {platform : ProfilePlatform} {constraints : Option ConstraintDocument}
  {calls : CallId -> CallInput} {state source target : DedupState CallId}

/-- The canonical texts of the calls survive storage. -/
def StableCalls (state : DedupState CallId) : Prop :=
  forall id, ∀ material ∈ (state.phase id).material?, Stable material.normalized

/-! ## What every step keeps -/

/-- Every row but the reference belongs to the call that answered that it is new. -/
structure DedupInvariant (platform : ProfilePlatform) (calls : CallId -> CallInput) (state : DedupState CallId) : Prop where
  digests : (state.rows.map ProfileRow.normalizedSha256).Nodup
  creators : ∀ row ∈ state.rows, ReferenceRow platform row ∨ exists id material record,
    state.phase id = .answered material (.ok (record, false)) ∧ CustomRow platform (calls id).versionId material row
  holds : forall id, CallHolds platform state.rows (calls id) (state.phase id)

theorem DedupInvariant.rowsHold (invariant : DedupInvariant platform calls state) : RowsHold platform state.rows := by
  refine ⟨invariant.digests, fun row inside => ?_⟩
  rcases invariant.creators row inside with reference | ⟨id, material, _, _, custom⟩
  · exact Or.inl reference
  · exact Or.inr ⟨_, material, custom⟩

/-- A call that is about to insert has added no row before. -/
theorem DedupInvariant.newId (invariant : DedupInvariant platform calls state) (fresh : Fresh calls) {id : CallId}
    {input : ProfileInput} {material : Material} (isInsert : state.phase id = .insert input material) :
    (calls id).versionId ∉ state.rows.map ProfileRow.versionId := by
  intro inside
  rcases List.mem_map.mp inside with ⟨row, isRow, same⟩
  rcases invariant.creators row isRow with reference | ⟨creator, other, record, isAnswered, custom⟩
  · exact fresh.reference id (same.symm.trans reference.versionId)
  · have isCreator := fresh.injective creator id (custom.versionId.symm.trans same)
    rw [isCreator, isInsert] at isAnswered
    cases isAnswered

variable [DecidableEq CallId]

theorem seedReference_ok {now : Queue.Instant} {rows : List ProfileRow} (seeded : seedReference platform now = .ok rows) :
    exists row, rows = [row] ∧ ReferenceRow platform row := by
  unfold seedReference at seeded
  simp only [bind_ok_iff, jsonbParameter_ok] at seeded
  rcases seeded with ⟨shared, _, agents, _, fixed, _, normalized, stored, inserted⟩
  exact ⟨_, (insertProfile_ok inserted).2, rfl, rfl, stored⟩

theorem DedupInvariant.initial (initial : (dedupSystem platform constraints calls).initial state) :
    DedupInvariant platform calls state := by
  rcases initial with ⟨⟨now, seeded⟩, waiting⟩
  rcases seedReference_ok seeded with ⟨row, isRow, reference⟩
  refine ⟨?_, ?_, ?_⟩
  · rw [isRow]
    exact List.nodup_singleton _
  · intro other inside
    rw [isRow, List.mem_singleton] at inside
    rw [inside]
    exact Or.inl reference
  · intro id
    rw [waiting id]
    trivial

/-- The material of a call does not change. -/
theorem advance_material {given : CallInput} {rows next : List ProfileRow} {phase after : CallPhase} {material : Material}
    (stepped : advance platform constraints given rows phase = some (next, after)) (has : material ∈ phase.material?) :
    material ∈ after.material? := by
  cases phase with
  | waiting => cases has
  | refused | answered => cases stepped
  | lookUp input other =>
      rw [advance] at stepped
      split at stepped <;> cases stepped <;> exact has
  | insert input other =>
      rw [advance] at stepped
      split at stepped
      · cases stepped
        exact has
      · split at stepped <;> cases stepped <;> exact has
  | again input other =>
      rw [advance] at stepped
      split at stepped <;> cases stepped <;> exact has

theorem StableCalls.before {id : CallId} (stable : StableCalls target)
    (stepped : (dedupSystem platform constraints calls).step source id target) : StableCalls source := by
  rcases stepped with ⟨next, isNext, rfl⟩
  intro other material has
  by_cases same : other = id
  · rw [same] at has
    have kept := advance_material isNext has
    apply stable id material
    dsimp only
    rw [Function.update_self]
    exact kept
  · apply stable other material
    dsimp only
    rw [Function.update_of_ne same]
    exact has

theorem DedupInvariant.step {id : CallId} (invariant : DedupInvariant platform calls source)
    (injective : Function.Injective platform.sha256Hex) (fresh : Fresh calls) (stable : StableCalls source)
    (stepped : (dedupSystem platform constraints calls).step source id target) : DedupInvariant platform calls target := by
  rcases stepped with ⟨⟨rows, after⟩, isNext, rfl⟩
  have running : forall material outcome, source.phase id ≠ .answered material outcome := by
    intro material outcome isAnswered
    rw [isAnswered] at isNext
    cases isNext
  rcases advance_holds invariant.rowsHold injective (fun _ _ => invariant.newId fresh) (stable id) (invariant.holds id)
    isNext with ⟨held, writes⟩
  -- The answers of the other calls are what they were, and the call of the step had none.
  have answered : forall {creator material outcome}, source.phase creator = .answered material outcome ->
      Function.update source.phase id after creator = .answered material outcome := by
    intro creator material outcome isAnswered
    have other : creator ≠ id := by
      rintro rfl
      exact running material outcome isAnswered
    rw [Function.update_of_ne other]
    exact isAnswered
  have earlier : ∀ row ∈ source.rows, ReferenceRow platform row ∨ exists creator material record,
      Function.update source.phase id after creator = .answered material (.ok (record, false)) ∧
        CustomRow platform (calls creator).versionId material row := by
    intro row inside
    rcases invariant.creators row inside with reference | ⟨creator, material, record, isAnswered, custom⟩
    · exact Or.inl reference
    · exact Or.inr ⟨creator, material, record, answered isAnswered, custom⟩
  rcases writes with rfl | ⟨row, material, record, rfl, new, custom, rfl⟩
  · refine ⟨invariant.digests, earlier, fun other => ?_⟩
    by_cases same : other = id
    · rw [same]
      dsimp only
      rw [Function.update_self]
      exact held
    · dsimp only
      rw [Function.update_of_ne same]
      exact invariant.holds other
  · refine ⟨?_, ?_, fun other => ?_⟩
    · dsimp only
      rw [List.map_append]
      refine List.Nodup.append invariant.digests (List.nodup_singleton _) ?_
      exact List.disjoint_singleton.mpr new
    · intro other inside
      rcases List.mem_append.mp inside with before | added
      · exact earlier other before
      · rw [List.mem_singleton.mp added]
        exact Or.inr ⟨id, material, record, Function.update_self _ _ _, custom⟩
    · by_cases same : other = id
      · rw [same]
        dsimp only
        rw [Function.update_self]
        exact held
      · dsimp only
        rw [Function.update_of_ne same]
        exact (invariant.holds other).more

/-- The invariant holds at the end of a run after which the texts survive storage. -/
theorem DedupInvariant.run {start : DedupState CallId} {labels : List CallId}
    (injective : Function.Injective platform.sha256Hex) (fresh : Fresh calls)
    (initial : (dedupSystem platform constraints calls).initial start)
    (run : (dedupSystem platform constraints calls).Run start labels state) (stable : StableCalls state) :
    DedupInvariant platform calls state := by
  refine run.invariant (fun state => StableCalls state -> DedupInvariant platform calls state) ?_
    (fun _ => DedupInvariant.initial initial) stable
  intro source id target stepped before stableAfter
  have stableBefore := stableAfter.before stepped
  exact (before stableBefore).step injective fresh stableBefore stepped

/-! ## Rows and answers -/

omit [DecidableEq CallId]

/-- The digest of a row is that of its content. -/
theorem DedupInvariant.content (invariant : DedupInvariant platform calls state) (stable : StableCalls state)
    {row : ProfileRow} (inside : row ∈ state.rows) :
    exists normalized, row.content = some normalized ∧ row.normalizedSha256 = platform.sha256Hex normalized := by
  rcases invariant.creators row inside with reference | ⟨id, material, record, isAnswered, custom⟩
  · exact ⟨_, referenceNormalized_stable _ reference.stored, reference.digest⟩
  · refine ⟨_, stable id material ?_ _ custom.stored, custom.digest⟩
    rw [isAnswered]
    rfl

theorem DedupInvariant.oneRow (invariant : DedupInvariant platform calls state) (stable : StableCalls state) :
    (state.rows.map ProfileRow.content).Nodup := by
  refine List.pairwise_map.mpr ((List.pairwise_map.mp invariant.digests).imp_of_mem ?_)
  intro first second isFirst isSecond different same
  rcases invariant.content stable isFirst with ⟨normalized, isContent, digest⟩
  rcases invariant.content stable isSecond with ⟨other, isOther, otherDigest⟩
  rw [isContent, isOther] at same
  exact different (by rw [digest, otherDigest, Option.some.inj same])

/-- The row that answers a call. -/
theorem DedupInvariant.answer (invariant : DedupInvariant platform calls state) {id : CallId} {material : Material}
    {record : ProfileRecord} {found : Bool} (isAnswered : state.phase id = .answered material (.ok (record, found))) :
    (exists input, Sound platform input material) ∧ exists row, row ∈ state.rows ∧
      row.normalizedSha256 = platform.sha256Hex material.normalized ∧ row.versionId = record.versionId ∧
        (found = false -> row.versionId = (calls id).versionId) := by
  have held := invariant.holds id
  rw [isAnswered] at held
  rcases held with ⟨⟨input, sound⟩, row, inside, digest, known⟩
  exact ⟨⟨input, sound⟩, row, inside, digest.trans sound.digest, known⟩

/-- Rows with one digest are the same row. -/
theorem DedupInvariant.sameRow (invariant : DedupInvariant platform calls state) {first second : ProfileRow}
    (isFirst : first ∈ state.rows) (isSecond : second ∈ state.rows)
    (digest : first.normalizedSha256 = second.normalizedSha256) : first = second :=
  List.inj_on_of_nodup_map invariant.digests isFirst isSecond digest

theorem DedupInvariant.oneVersion (invariant : DedupInvariant platform calls state) {first second : CallId}
    {material other : Material} {record otherRecord : ProfileRecord} {found otherFound : Bool}
    (isFirst : state.phase first = .answered material (.ok (record, found)))
    (isSecond : state.phase second = .answered other (.ok (otherRecord, otherFound)))
    (same : material.normalized = other.normalized) : record.versionId = otherRecord.versionId := by
  rcases (invariant.answer isFirst).2 with ⟨row, inside, digest, version, _⟩
  rcases (invariant.answer isSecond).2 with ⟨otherRow, isOther, otherDigest, otherVersion, _⟩
  rw [← same] at otherDigest
  rw [← version, ← otherVersion, invariant.sameRow inside isOther (digest.trans otherDigest.symm)]

/-- The call that created what was answered. -/
theorem DedupInvariant.creator (invariant : DedupInvariant platform calls state)
    (injective : Function.Injective platform.sha256Hex) {id : CallId} {material : Material} {record : ProfileRecord}
    {found : Bool} (isAnswered : state.phase id = .answered material (.ok (record, found))) :
    exists creator other created, state.phase creator = .answered other (.ok (created, false)) ∧
      other.normalized = material.normalized := by
  rcases invariant.answer isAnswered with ⟨⟨input, sound⟩, row, inside, digest, _⟩
  rcases invariant.creators row inside with reference | ⟨creator, other, created, isCreated, custom⟩
  · exact absurd (injective (digest.symm.trans reference.digest)) sound.ne_reference
  · exact ⟨creator, other, created, isCreated, injective (custom.digest.symm.trans digest)⟩

/-- No other call created the same. -/
theorem DedupInvariant.oneCreator (invariant : DedupInvariant platform calls state) (fresh : Fresh calls)
    {first second : CallId} {material other : Material} {record otherRecord : ProfileRecord}
    (isFirst : state.phase first = .answered material (.ok (record, false)))
    (isSecond : state.phase second = .answered other (.ok (otherRecord, false)))
    (same : material.normalized = other.normalized) : first = second := by
  rcases (invariant.answer isFirst).2 with ⟨row, inside, digest, _, drawn⟩
  rcases (invariant.answer isSecond).2 with ⟨otherRow, isOther, otherDigest, _, otherDrawn⟩
  rw [← same] at otherDigest
  have sameRow := invariant.sameRow inside isOther (digest.trans otherDigest.symm)
  apply fresh.injective
  rw [← drawn rfl, ← otherDrawn rfl, sameRow]

theorem DedupInvariant.noConflict (invariant : DedupInvariant platform calls state) {id : CallId} {failure : Failure}
    (failed : state.phase id = .refused failure ∨ exists material, state.phase id = .answered material (.error failure)) :
    Harmless failure := by
  have held := invariant.holds id
  rcases failed with isRefused | ⟨material, isAnswered⟩
  · rw [isRefused] at held
    exact held
  · rw [isAnswered] at held
    exact held

end Runs

/-! ## Deduplication -/

/-- Texts stand for their own digests. -/
def samplePlatform : ProfilePlatform where
  sha256Hex text := text
  formatTime _ := []

/-- The parameters of nothing. -/
def sampleInput : ProfileInput where
  displayName := "Line A".toList
  baseVersionId := []
  shared := none
  agents := []

def sampleCalls (second : Bool) : CallInput where
  call := .create sampleInput
  versionId := if second then "pp_second".toList else "pp_first".toList
  now := 0
  clock := 0

theorem jsonbParameter_marshal {value : Value}
    (clean : Jsonb.mentions (Char.ofNat 0) ((value.sort byText).map Double.format) = false) :
    exists stored, jsonbParameter (marshal value) = .ok stored := by
  rcases Jsonb.ofText_marshal clean with ⟨stored, isStored⟩
  refine ⟨stored, ?_⟩
  rw [jsonbParameter, isStored]
  rfl

theorem exists_seed : exists rows, seedReference samplePlatform 0 = .ok rows := by
  rcases @jsonbParameter_marshal (.object referenceSharedParameters) (by decide +kernel) with ⟨shared, isShared⟩
  rcases @jsonbParameter_marshal (.array referenceAgents) (by decide +kernel) with ⟨agents, isAgents⟩
  rcases @jsonbParameter_marshal (.object referenceFixedItems) (by decide +kernel) with ⟨fixed, isFixed⟩
  rcases @jsonbParameter_marshal referenceProfile (by decide +kernel) with ⟨normalized, isNormalized⟩
  rw [seedReference, isShared, ok_bind, isAgents, ok_bind, isFixed, ok_bind, referenceNormalized, canonicalJson,
    isNormalized, ok_bind]
  exact ⟨_, rfl⟩

/-- Without constraints both calls are refused. -/
theorem sample_refused (rows : List ProfileRow) (second : Bool) :
    advance samplePlatform none (sampleCalls second) rows .waiting =
      some (rows, .refused (.stable parameterConstraintsError)) := by
  have prepared : (ProfileCall.create sampleInput).prepare =
      .ok { sampleInput with baseVersionId := referenceProfileVersionId } := by
    have named : validateProfileDisplayName sampleInput.displayName = .ok PUnit.unit := by
      unfold validateProfileDisplayName
      rw [require_of _ (by decide +kernel), ok_bind, require_of _ (by decide +kernel)]
    rw [ProfileCall.prepare, named, ok_bind]
    rfl
  have refused : (ProfileCall.create sampleInput).materialize samplePlatform none rows =
      .error (.stable parameterConstraintsError) := by
    rw [ProfileCall.materialize, prepared]
    rfl
  rw [advance, sampleCalls, refused]

end Profiles
end FederatedIot
