import FederatedIot.Foundation.Transition
import FederatedIot.Profiles.Materials

namespace FederatedIot
namespace Profiles

open Foundation Foundation.JsonText Foundation.JsonText.Document Foundation.Outcome Queue

/-!
# Calls that store one profile

Any number of calls create or import profiles at the same time, and each of their
statements sees what is committed when it starts.  Between the look-up and the insert of
one call another call may insert the same profile.  The digest is unique, so the later
insert is refused, and the look-up after it finds the profile of the earlier one.
-/

/-! ## Statements of a call -/

/-- A call with the identifier it draws and the instants it reads. -/
structure CallInput where
  call : ProfileCall
  versionId : List Char
  now : Queue.Instant
  clock : Queue.Instant

/-- The statement of a call that is next, or its answer. -/
inductive CallPhase where
  | waiting
  | lookUp (input : ProfileInput) (material : Material)
  | insert (input : ProfileInput) (material : Material)
  | again (input : ProfileInput) (material : Material)
  | refused (failure : Failure)
  | answered (material : Material) (outcome : Except Failure (ProfileRecord × Bool))

section Statements

variable (platform : ProfilePlatform) (constraints : Option ConstraintDocument) (given : CallInput) (rows : List ProfileRow)

/-- The look-up by the digest. -/
def lookUpProfile (input : ProfileInput) (material : Material) : Except StableError (Option ProfileRecord) :=
  exactCustomProfileByNormalized platform material.normalized material.normalizedSha256 input.baseVersionId rows

/-- The next statement of a call. -/
def advance : CallPhase -> Option (List ProfileRow × CallPhase)
  | .waiting =>
      match given.call.materialize platform constraints rows with
      | .error failure => some (rows, .refused failure)
      | .ok (input, material) => some (rows, .lookUp input material)
  | .lookUp input material =>
      match lookUpProfile platform rows input material with
      | .error error => some (rows, .answered material (.error (.stable error)))
      | .ok (some existing) => some (rows, .answered material (.ok (existing, true)))
      | .ok none => some (rows, .insert input material)
  | .insert input material =>
      match insertCustomProfile given.versionId input.displayName input.baseVersionId material given.now rows with
      | .ok inserted =>
          some (inserted, .answered material (.ok (createdRecord given.versionId input.displayName input.baseVersionId
            material given.clock, false)))
      | .error error =>
          if isNormalizedProfileUniqueViolation error then some (rows, .again input material)
          else some (rows, .answered material (.error (.database error)))
  | .again input material =>
      match lookUpProfile platform rows input material with
      | .error error => some (rows, .answered material (.error (.stable error)))
      | .ok (some existing) => some (rows, .answered material (.ok (existing, true)))
      | .ok none => some (rows, .answered material (.error (.stable customProfileConflictError)))
  | .refused _ => none
  | .answered _ _ => none

end Statements

/-! ## Interleavings -/

variable {CallId : Type} [DecidableEq CallId]

structure DedupState (CallId : Type) where
  rows : List ProfileRow
  phase : CallId -> CallPhase

/-- Any call may execute its next statement.  At first there is only the reference. -/
def dedupSystem (platform : ProfilePlatform) (constraints : Option ConstraintDocument) (calls : CallId -> CallInput) :
    System (DedupState CallId) CallId where
  initial state := (exists now, seedReference platform now = .ok state.rows) ∧ forall id, state.phase id = .waiting
  step source id target := exists next,
    advance platform constraints (calls id) source.rows (source.phase id) = some next ∧
      target = { rows := next.1, phase := Function.update source.phase id next.2 }

/-- The canonical text of a row. -/
def ProfileRow.content (row : ProfileRow) : Option (List Char) :=
  canonicalRaw (Jsonb.text row.normalizedJson)

/-- The canonical text is the same after it was stored. -/
def Stable (normalized : List Char) : Prop :=
  forall stored, Jsonb.ofText normalized = some stored -> canonicalRaw (Jsonb.text stored) = some normalized

def CallPhase.material? : CallPhase -> Option Material
  | .lookUp _ material => some material
  | .insert _ material => some material
  | .again _ material => some material
  | .answered material _ => some material
  | .waiting => none
  | .refused _ => none

/-- Identifiers that were drawn are new. -/
structure Fresh (calls : CallId -> CallInput) : Prop where
  injective : forall first second, (calls first).versionId = (calls second).versionId -> first = second
  reference : forall id, (calls id).versionId ≠ referenceProfileVersionId

/-- There is one row for every content, and the calls that succeed agree on it. -/
structure Deduplicated (state : DedupState CallId) : Prop where
  oneRow : (state.rows.map ProfileRow.content).Nodup
  oneVersion : forall first second material other record otherRecord found otherFound,
    state.phase first = .answered material (.ok (record, found)) ->
    state.phase second = .answered other (.ok (otherRecord, otherFound)) -> material.normalized = other.normalized ->
      record.versionId = otherRecord.versionId
  oneCreated : forall id material record found, state.phase id = .answered material (.ok (record, found)) ->
    exists creator, (exists other created, state.phase creator = .answered other (.ok (created, false)) ∧
      other.normalized = material.normalized) ∧
      forall rival other created, state.phase rival = .answered other (.ok (created, false)) ->
        other.normalized = material.normalized -> rival = creator
  noConflict : forall id failure, (state.phase id = .refused failure ∨
    exists material, state.phase id = .answered material (.error failure)) -> Harmless failure

/-! ## The text of the reference -/

/-- A custom profile is not the reference. -/
theorem custom_ne_reference (baseVersionId : List Char) (shared : Members) (agents : List Value) (fixed : Members) :
    canonicalJson (customProfile baseVersionId shared agents fixed) ≠ referenceNormalized := by
  intro same
  have custom := string_of_marshal same (show ("mode".toList, Document.string RunMode.custom.text.toList) ∈ _ by
    exact List.mem_cons_of_mem _ List.mem_cons_self)
  simp only [List.mem_cons, List.not_mem_nil, or_false, Prod.mk.injEq, word] at custom
  rcases custom with ⟨name, _⟩ | ⟨_, text⟩ | ⟨name, _⟩ | ⟨name, _⟩ | ⟨name, _⟩
  · exact absurd name (by decide)
  · exact absurd (Document.string.inj text) (by decide)
  · exact absurd name (by decide)
  · exact absurd name (by decide)
  · exact absurd name (by decide)

/-! ## Rows -/

section Rows

variable {platform : ProfilePlatform} {rows inserted : List ProfileRow}

theorem jsonbParameter_ok {text : List Char} {stored : Document Decimal} :
    jsonbParameter text = .ok stored ↔ Jsonb.ofText text = some stored := by
  unfold jsonbParameter
  cases Jsonb.ofText text with
  | none =>
      constructor
      · intro wrong
        cases wrong
      · intro wrong
        cases wrong
  | some found =>
      constructor
      · intro same
        exact congrArg some (Except.ok.inj same)
      · intro same
        exact congrArg Except.ok (Option.some.inj same)

theorem insertProfile_ok {row : ProfileRow} (done : insertProfile row rows = .ok inserted) :
    row.normalizedSha256 ∉ rows.map ProfileRow.normalizedSha256 ∧ inserted = rows ++ [row] := by
  unfold insertProfile at done
  simp only [bind_ok_iff, require_ok_iff, pure_ok_iff] at done
  rcases done with ⟨_, _, _, _, _, fresh, _, _, _, _, rfl⟩
  exact ⟨fresh, rfl⟩

/-- Only the digest violates a unique constraint, and it is in the table then. -/
def OnlyDigest (digest : List Char) (rows : List ProfileRow) (error : DatabaseError) : Prop :=
  forall name, error = .uniqueViolation name ->
    name = normalizedSha256Key ∧ digest ∈ rows.map ProfileRow.normalizedSha256

theorem insertProfile_only {row : ProfileRow} (newId : row.versionId ∉ rows.map ProfileRow.versionId)
    (custom : row.mode = .custom) :
    OnlyRefuses (OnlyDigest row.normalizedSha256 rows) (insertProfile row rows) := by
  unfold insertProfile
  refine OnlyRefuses.bind (OnlyRefuses.require fun _ => DatabaseError.noConfusion) fun _ _ => ?_
  rw [require_of _ newId, ok_bind]
  refine OnlyRefuses.bind ?_ fun _ _ => ?_
  · intro error refused
    by_cases fresh : row.normalizedSha256 ∉ rows.map ProfileRow.normalizedSha256
    · rw [require_of _ fresh] at refused
      cases refused
    · rw [require_refused _ fresh] at refused
      cases refused
      rintro _ ⟨⟩
      exact ⟨rfl, not_not.mp fresh⟩
  · have notReference : row.mode = .reference -> ∀ other ∈ rows, other.mode ≠ .reference := by
      rw [custom]
      intro wrong
      cases wrong
    rw [require_of _ notReference, ok_bind]
    exact OnlyRefuses.bind (OnlyRefuses.require fun _ => DatabaseError.noConfusion) fun _ _ => OnlyRefuses.ok _

theorem jsonbParameter_only (digest text : List Char) :
    OnlyRefuses (OnlyDigest digest rows) (jsonbParameter text) := by
  unfold jsonbParameter
  cases Jsonb.ofText text with
  | none => exact OnlyRefuses.error fun _ => DatabaseError.noConfusion
  | some stored => exact OnlyRefuses.ok _

/-- The row of a custom profile with its canonical text. -/
structure CustomRow (platform : ProfilePlatform) (versionId : List Char) (material : Material) (row : ProfileRow) : Prop where
  versionId : row.versionId = versionId
  mode : row.mode = .custom
  base : row.baseVersionId = some referenceProfileVersionId
  immutable : row.immutable = true
  digest : row.normalizedSha256 = platform.sha256Hex material.normalized
  stored : Jsonb.ofText material.normalized = some row.normalizedJson

section Insert

variable {input : ProfileInput} {material : Material} {versionId : List Char} {now : Queue.Instant}

theorem insertCustomProfile_ok (sound : Sound platform input material)
    (done : insertCustomProfile versionId input.displayName input.baseVersionId material now rows = .ok inserted) :
    exists row, inserted = rows ++ [row] ∧ row.normalizedSha256 ∉ rows.map ProfileRow.normalizedSha256 ∧
      CustomRow platform versionId material row := by
  unfold insertCustomProfile at done
  simp only [bind_ok_iff, require_ok_iff, jsonbParameter_ok] at done
  rcases done with ⟨_, _, shared, _, agents, _, fixed, _, normalized, stored, isInserted⟩
  rcases insertProfile_ok isInserted with ⟨fresh, rfl⟩
  exact ⟨_, rfl, fresh, rfl, rfl, congrArg some sound.base, rfl, sound.digest, stored⟩

theorem insertCustomProfile_only (newId : versionId ∉ rows.map ProfileRow.versionId) :
    OnlyRefuses (OnlyDigest material.normalizedSha256 rows)
      (insertCustomProfile versionId input.displayName input.baseVersionId material now rows) := by
  unfold insertCustomProfile
  refine OnlyRefuses.bind (OnlyRefuses.require fun _ => DatabaseError.noConfusion) fun _ _ => ?_
  refine OnlyRefuses.bind (jsonbParameter_only _ _) fun shared _ => OnlyRefuses.bind (jsonbParameter_only _ _) fun agents _ => ?_
  refine OnlyRefuses.bind (jsonbParameter_only _ _) fun fixed _ => OnlyRefuses.bind (jsonbParameter_only _ _) fun normalized _ => ?_
  exact insertProfile_only newId rfl

end Insert

/-! ## Look-ups -/

/-- The row of the reference. -/
structure ReferenceRow (platform : ProfilePlatform) (row : ProfileRow) : Prop where
  versionId : row.versionId = referenceProfileVersionId
  digest : row.normalizedSha256 = platform.sha256Hex referenceNormalized
  stored : Jsonb.ofText referenceNormalized = some row.normalizedJson

/-- The digests differ, and a row is the reference or a custom profile. -/
structure RowsHold (platform : ProfilePlatform) (rows : List ProfileRow) : Prop where
  digests : (rows.map ProfileRow.normalizedSha256).Nodup
  origin : ∀ row ∈ rows, ReferenceRow platform row ∨ exists versionId material, CustomRow platform versionId material row

variable {input : ProfileInput} {material : Material}

theorem Sound.ne_reference (sound : Sound platform input material) : material.normalized ≠ referenceNormalized := by
  rw [sound.normalized]
  exact custom_ne_reference _ _ _ _

/-- The row with the digest of a custom profile has its text. -/
theorem RowsHold.custom (holds : RowsHold platform rows) (injective : Function.Injective platform.sha256Hex)
    (sound : Sound platform input material) {row : ProfileRow} (inside : row ∈ rows)
    (same : row.normalizedSha256 = material.normalizedSha256) :
    exists versionId other, CustomRow platform versionId other row ∧ other.normalized = material.normalized := by
  rcases holds.origin row inside with reference | ⟨versionId, other, custom⟩
  · rw [reference.digest, sound.digest] at same
    exact absurd (injective same).symm sound.ne_reference
  · refine ⟨versionId, other, custom, injective ?_⟩
    rw [← custom.digest, same, sound.digest]

theorem lookUpProfile_none (absent : lookUpProfile platform rows input material = .ok none) :
    material.normalizedSha256 ∉ rows.map ProfileRow.normalizedSha256 := by
  unfold lookUpProfile exactCustomProfileByNormalized at absent
  split at absent
  · next none =>
      intro inside
      rcases List.mem_map.mp inside with ⟨row, isRow, same⟩
      exact List.find?_eq_none.mp none row isRow (decide_eq_true same)
  · simp only [bind_ok_iff, pure_ok_iff] at absent
    rcases absent with ⟨_, _, wrong⟩
    cases wrong

theorem lookUpProfile_some {record : ProfileRecord} (found : lookUpProfile platform rows input material = .ok (some record)) :
    exists row, row ∈ rows ∧ row.normalizedSha256 = material.normalizedSha256 ∧ record = row.record := by
  unfold lookUpProfile exactCustomProfileByNormalized at found
  split at found
  · cases found
  · next row isRow =>
      simp only [bind_ok_iff, pure_ok_iff] at found
      rcases found with ⟨_, _, same⟩
      have digest := List.find?_some isRow
      exact ⟨row, List.mem_of_find?_eq_some isRow, of_decide_eq_true digest, (Option.some.inj same).symm⟩

/-- A look-up has no conflict while the canonical text is stable. -/
theorem lookUpProfile_fine (holds : RowsHold platform rows) (injective : Function.Injective platform.sha256Hex)
    (sound : Sound platform input material) (stable : Stable material.normalized) (error : StableError) :
    lookUpProfile platform rows input material ≠ .error error := by
  intro refused
  unfold lookUpProfile exactCustomProfileByNormalized at refused
  split at refused
  · cases refused
  · next row isRow =>
      have isDigest := List.find?_some isRow
      have digest : row.normalizedSha256 = material.normalizedSha256 := of_decide_eq_true isDigest
      rcases holds.custom injective sound (List.mem_of_find?_eq_some isRow) digest with ⟨versionId, other, custom, same⟩
      have stored := custom.stored
      rw [same] at stored
      have canonical := stable _ stored
      have exactly : validateExactCustomProfile platform row.record (Jsonb.text row.normalizedJson) material.normalized
          material.normalizedSha256 input.baseVersionId = .ok PUnit.unit := by
        unfold validateExactCustomProfile
        rw [canonical]
        have first : (some material.normalized).any (fun canonical =>
            platform.sha256Hex canonical = material.normalizedSha256 && canonical = material.normalized) = true := by
          rw [Option.any_some, Bool.and_eq_true, decide_eq_true_eq, decide_eq_true_eq]
          exact ⟨sound.digest.symm, rfl⟩
        rw [require_of _ first, ok_bind]
        exact require_of _ ⟨custom.mode, custom.immutable, custom.base.trans (congrArg some sound.base.symm), digest⟩
      rw [exactly, ok_bind] at refused
      cases refused

/-! ## Steps of a call -/

/-- What is known of a call in its phase. -/
def CallHolds (platform : ProfilePlatform) (rows : List ProfileRow) (given : CallInput) : CallPhase -> Prop
  | .waiting => True
  | .lookUp input material => Sound platform input material
  | .insert input material => Sound platform input material
  | .again input material =>
      Sound platform input material ∧ material.normalizedSha256 ∈ rows.map ProfileRow.normalizedSha256
  | .refused failure => Harmless failure
  | .answered material (.ok (record, found)) =>
      (exists input, Sound platform input material) ∧ exists row, row ∈ rows ∧
        row.normalizedSha256 = material.normalizedSha256 ∧ row.versionId = record.versionId ∧
          (found = false -> row.versionId = given.versionId)
  | .answered _ (.error failure) => Harmless failure

/-- More rows do not change what is known. -/
theorem CallHolds.more {given : CallInput} {phase : CallPhase} {more : List ProfileRow}
    (holds : CallHolds platform rows given phase) : CallHolds platform (rows ++ more) given phase := by
  cases phase with
  | waiting | lookUp | insert | refused => exact holds
  | again input material =>
      refine ⟨holds.1, ?_⟩
      rw [List.map_append]
      exact List.mem_append_left _ holds.2
  | answered material outcome =>
      cases outcome with
      | error failure => exact holds
      | ok answer =>
          rcases answer with ⟨record, found⟩
          rcases holds with ⟨sound, row, inside, held⟩
          exact ⟨sound, row, List.mem_append_left _ inside, held⟩

/-- A statement leaves the rows, or it adds the row of the call and answers it. -/
def Writes (platform : ProfilePlatform) (rows : List ProfileRow) (given : CallInput) (next : List ProfileRow)
    (phase : CallPhase) : Prop :=
  next = rows ∨ exists row material record, next = rows ++ [row] ∧
    row.normalizedSha256 ∉ rows.map ProfileRow.normalizedSha256 ∧ CustomRow platform given.versionId material row ∧
      phase = .answered material (.ok (record, false))

theorem answered_of_lookUp {given : CallInput} {record : ProfileRecord} (sound : Sound platform input material)
    (found : lookUpProfile platform rows input material = .ok (some record)) :
    CallHolds platform rows given (.answered material (.ok (record, true))) := by
  rcases lookUpProfile_some found with ⟨row, inside, digest, rfl⟩
  exact ⟨⟨input, sound⟩, row, inside, digest, rfl, fun wrong => (by cases wrong)⟩

theorem advance_holds {constraints : Option ConstraintDocument} {given : CallInput} {phase after : CallPhase}
    {next : List ProfileRow} (rowsHold : RowsHold platform rows) (injective : Function.Injective platform.sha256Hex)
    (newId : forall input material, phase = .insert input material -> given.versionId ∉ rows.map ProfileRow.versionId)
    (stable : ∀ material ∈ phase.material?, Stable material.normalized) (holds : CallHolds platform rows given phase)
    (stepped : advance platform constraints given rows phase = some (next, after)) :
    CallHolds platform next given after ∧ Writes platform rows given next after := by
  cases phase with
  | refused | answered => cases stepped
  | waiting =>
      rw [advance] at stepped
      split at stepped
      · next failure isFailure =>
          cases stepped
          exact ⟨given.call.materialize_harmless platform constraints rows failure isFailure, Or.inl rfl⟩
      · next input material isMaterial =>
          cases stepped
          exact ⟨ProfileCall.materialize_sound isMaterial, Or.inl rfl⟩
  | lookUp input material =>
      have sound : Sound platform input material := holds
      rw [advance] at stepped
      split at stepped
      · next error refused =>
          exact absurd refused (lookUpProfile_fine rowsHold injective sound (stable material rfl) error)
      · next existing found =>
          cases stepped
          exact ⟨answered_of_lookUp sound found, Or.inl rfl⟩
      · cases stepped
        exact ⟨sound, Or.inl rfl⟩
  | insert input material =>
      have sound : Sound platform input material := holds
      rw [advance] at stepped
      split at stepped
      · next inserted isInserted =>
          cases stepped
          rcases insertCustomProfile_ok sound isInserted with ⟨row, rfl, fresh, custom⟩
          refine ⟨⟨⟨input, sound⟩, row, List.mem_append_right _ (List.mem_singleton.mpr rfl), ?_, custom.versionId,
            fun _ => custom.versionId⟩, Or.inr ⟨row, material, _, rfl, fresh, custom, rfl⟩⟩
          rw [custom.digest, sound.digest]
      · next error refused =>
          have only := insertCustomProfile_only (newId input material rfl) error refused
          split at stepped
          · next violation =>
              cases stepped
              exact ⟨⟨sound, (only _ (of_decide_eq_true violation)).2⟩, Or.inl rfl⟩
          · next other =>
              cases stepped
              refine ⟨⟨Failure.noConfusion, ?_⟩, Or.inl rfl⟩
              intro name same
              have isViolation := Failure.database.inj same
              rw [(only name isViolation).1] at isViolation
              exact other (decide_eq_true isViolation)
  | again input material =>
      have sound : Sound platform input material := holds.1
      rw [advance] at stepped
      split at stepped
      · next error refused =>
          exact absurd refused (lookUpProfile_fine rowsHold injective sound (stable material rfl) error)
      · next existing found =>
          cases stepped
          exact ⟨answered_of_lookUp sound found, Or.inl rfl⟩
      · next absent => exact absurd holds.2 (lookUpProfile_none absent)

end Rows

end Profiles
end FederatedIot
