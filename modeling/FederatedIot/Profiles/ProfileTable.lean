import FederatedIot.Profiles.DeduplicationRun
import FederatedIot.Profiles.Exchange

namespace FederatedIot
namespace Profiles

open Foundation Foundation.JsonText Foundation.JsonText.Document Foundation.Outcome Queue

/-!
# The table of profiles

Profiles are created, imported and given another display name, and none is ever removed.
Every custom row holds, column by column, what one call has materialized.
-/

/-! ## Requests -/

/-- `UpdateCustomProfileDisplayName`, up to the record that it answers with. -/
def updateDisplayName (versionId displayName : List Char) (now : Queue.Instant) (rows : List ProfileRow) :
    Except StableError (List ProfileRow) := do
  validateProfileDisplayName displayName
  require (∃ row ∈ rows, row.versionId = versionId)
    { code := "PROFILE_NOT_FOUND", field := "", message := "Parameter profile was not found.", recoverable := false }
  require (∃ row ∈ rows, row.versionId = versionId ∧ row.mode = .custom ∧ row.immutable = true)
    { code := "REFERENCE_CONFIG_IMMUTABLE", field := "display_name"
      message := "The immutable reference profile shown cannot be changed.", recoverable := false }
  return rows.map fun row =>
    if row.versionId = versionId ∧ row.mode = .custom ∧ row.immutable = true then
      { row with displayName, updatedAt := now }
    else row

/-- A request that may change the table. -/
inductive ProfileRequest where
  | call (constraints : Option ConstraintDocument) (given : CallInput)
  | rename (versionId displayName : List Char) (now : Queue.Instant)

/-- The table after a request, which changes nothing when it fails. -/
def ProfileRequest.execute (platform : ProfilePlatform) (request : ProfileRequest) (rows : List ProfileRow) :
    List ProfileRow :=
  match request with
  | .call constraints given =>
      match given.call.perform platform constraints given.versionId given.now given.clock rows with
      | .ok (after, _, _) => after
      | .error _ => rows
  | .rename versionId displayName now =>
      match updateDisplayName versionId displayName now rows with
      | .ok after => after
      | .error _ => rows

/-- Requests follow one another, and at first there is only the reference. -/
def profileSystem (platform : ProfilePlatform) : System (List ProfileRow) ProfileRequest where
  initial rows := exists now, seedReference platform now = .ok rows
  step source request target := target = request.execute platform source

/-! ## What a call does -/

/-- The parts of a material, none of which has a name twice. -/
structure Whole (material : Material) : Prop where
  normalized : material.normalized =
    canonicalJson (customProfile referenceProfileVersionId material.shared material.agents material.fixed)
  shared : (Document.object material.shared).Distinct
  agents : (Document.array material.agents).Distinct
  fixed : (Document.object material.fixed).Distinct

section Calls

variable {platform : ProfilePlatform} {constraints : Option ConstraintDocument} {rows after : List ProfileRow}
  {input : ProfileInput} {material : Material} {versionId : List Char} {now clock : Queue.Instant}
  {record : ProfileRecord} {found : Bool}

theorem profileComponents_distinct {profile : Members} {components : ReferenceComponents}
    (distinct : (Document.object profile).Distinct) (isProfile : profileComponents profile = some components) :
    (Document.object components.shared).Distinct ∧ (Document.array components.agents).Distinct ∧
      (Document.object components.fixed).Distinct := by
  unfold profileComponents at isProfile
  split at isProfile
  · next shared agents fixed hasShared hasAgents hasFixed =>
      cases isProfile
      exact ⟨distinct.member hasShared, distinct.member hasAgents, distinct.member hasFixed⟩
  · cases isProfile

theorem rawJsonObject_distinct {text : List Char} {members : Members} (decoded : rawJsonObject text = some members) :
    (Document.object members).Distinct := by
  unfold rawJsonObject at decoded
  split at decoded
  · next members isObject =>
      cases decoded
      exact distinct_of_unmarshal isObject
  · cases decoded
    exact Distinct.object List.nodup_nil fun _ inside => (by cases inside)
  · cases decoded

theorem referenceProfileComponents_distinct {components : ReferenceComponents}
    (read : referenceProfileComponents platform rows = .ok components) :
    (Document.object components.shared).Distinct ∧ (Document.array components.agents).Distinct ∧
      (Document.object components.fixed).Distinct := by
  unfold referenceProfileComponents at read
  rw [bind_ok_iff] at read
  rcases read with ⟨normalized, _, isRead⟩
  cases parts : (rawJsonObject normalized).bind profileComponents with
  | none =>
      rw [parts] at isRead
      cases isRead
  | some other =>
      rw [parts] at isRead
      cases isRead
      rcases Option.bind_eq_some_iff.mp parts with ⟨profile, decoded, isProfile⟩
      exact profileComponents_distinct (rawJsonObject_distinct decoded) isProfile

/-- What a profile is materialized from. -/
theorem materializeCustomProfile_ok_iff :
    materializeCustomProfile platform constraints input rows = .ok material ↔
      exists document reference profile, verifyParameterConstraints constraints = .ok document ∧
        referenceProfileComponents platform rows = .ok reference ∧
        document.materialize reference.shared reference.agents input.shared input.agents = .ok profile ∧
        material =
          { shared := profile.shared, agents := profile.agents, fixed := reference.fixed
            normalized := canonicalJson
              (customProfile input.baseVersionId profile.shared profile.agents reference.fixed)
            normalizedSha256 := platform.sha256Hex (canonicalJson
              (customProfile input.baseVersionId profile.shared profile.agents reference.fixed)) } := by
  unfold materializeCustomProfile
  simp only [bind_ok_iff, mapError_ok_iff, pure_ok_iff]
  constructor
  · rintro ⟨document, verified, reference, read, profile, done, same⟩
    exact ⟨document, reference, profile, verified, read, done, same.symm⟩
  · rintro ⟨document, reference, profile, verified, read, done, same⟩
    exact ⟨document, verified, reference, read, profile, done, same.symm⟩

theorem materializeCustomProfile_whole (done : materializeCustomProfile platform constraints input rows = .ok material)
    (base : input.baseVersionId = referenceProfileVersionId) : Whole material := by
  rcases materializeCustomProfile_ok_iff.mp done with ⟨document, reference, profile, _, read, isProfile, rfl⟩
  rcases referenceProfileComponents_distinct read with ⟨sharedDistinct, _, fixedDistinct⟩
  rcases ConstraintDocument.materialize_ok_iff.mp isProfile with ⟨_, ⟨object, _, completed⟩, _, _, overrides, _, areAgents⟩
  have value : document.completeValue "shared_parameters".toList (.object reference.shared) (.object object.members) =
      .ok (.object profile.shared) := by
    rw [ConstraintDocument.completeValue_object, completed]
    rfl
  refine ⟨by rw [base], ConstraintDocument.completeValue_distinct value sharedDistinct object.distinct, ?_, fixedDistinct⟩
  refine Distinct.array fun item inside => ?_
  rw [areAgents] at inside
  rcases List.mem_map.mp inside with ⟨agent, _, rfl⟩
  exact ConstraintDocument.distinct_agentObject agent (overrides agent)

/-- A call that succeeds has found its profile or inserted it. -/
theorem ProfileCall.perform_ok {call : ProfileCall}
    (done : call.perform platform constraints versionId now clock rows = .ok (after, record, found)) :
    exists input material, call.materialize platform constraints rows = .ok (input, material) ∧
      (found = true ∧ after = rows ∧ lookUpProfile platform rows input material = .ok (some record) ∨
        found = false ∧ lookUpProfile platform rows input material = .ok none ∧
          insertCustomProfile versionId input.displayName input.baseVersionId material now rows = .ok after ∧
          record = createdRecord versionId input.displayName input.baseVersionId material clock) := by
  unfold ProfileCall.perform at done
  split at done
  · cases done
  · next input material materialized =>
      refine ⟨input, material, materialized, ?_⟩
      unfold persistCustomProfile at done
      dsimp only at done
      split at done
      · cases done
      · next existing isFound =>
          cases done
          exact Or.inl ⟨rfl, rfl, isFound⟩
      · next absent =>
          split at done
          · next inserted isInserted =>
              cases done
              exact Or.inr ⟨rfl, absent, isInserted, rfl⟩
          · split at done <;> cases done

/-- A call finds what is in the table. -/
theorem ProfileCall.perform_found {call : ProfileCall}
    (materialized : call.materialize platform constraints rows = .ok (input, material))
    (isFound : lookUpProfile platform rows input material = .ok (some record)) :
    call.perform platform constraints versionId now clock rows = .ok (rows, record, true) := by
  unfold ProfileCall.perform persistCustomProfile
  rw [materialized]
  dsimp only
  rw [show exactCustomProfileByNormalized platform material.normalized material.normalizedSha256 input.baseVersionId rows =
    .ok (some record) from isFound]

/-- Where the material of a call comes from. -/
theorem ProfileCall.materialize_ok {call : ProfileCall}
    (done : call.materialize platform constraints rows = .ok (input, material)) :
    call.prepare = .ok input ∧ materializeCustomProfile platform constraints input rows = .ok material := by
  unfold ProfileCall.materialize at done
  simp only [bind_ok_iff, mapError_ok_iff] at done
  rcases done with ⟨prepared, isPrepared, made, isMade, rest⟩
  have same : prepared = input ∧ made = material := by
    cases call with
    | create given => exact Prod.mk.inj (pure_ok_iff.mp rest)
    | «import» given =>
        simp only [bind_ok_iff, pure_ok_iff] at rest
        rcases rest with ⟨_, _, pair⟩
        exact Prod.mk.inj pair
  rcases same with ⟨rfl, rfl⟩
  exact ⟨isPrepared, isMade⟩

end Calls

/-! ## Rows -/

/-- The columns of a row hold a material. -/
structure StoredRow (platform : ProfilePlatform) (material : Material) (row : ProfileRow) : Prop where
  custom : CustomRow platform row.versionId material row
  shared : Jsonb.ofText (marshal (.object material.shared)) = some row.sharedParameters
  agents : Jsonb.ofText (marshal (.array material.agents)) = some row.agentsJson
  fixed : Jsonb.ofText (marshal (.object material.fixed)) = some row.fixedItems

/-- Rows have their own identifiers, and hold the reference or a custom profile. -/
structure TableHolds (platform : ProfilePlatform) (rows : List ProfileRow) : Prop where
  versions : (rows.map ProfileRow.versionId).Nodup
  origin : ∀ row ∈ rows, (row.mode = .reference ∧ ReferenceRow platform row) ∨
    exists material, Whole material ∧ StoredRow platform material row

section Rows

variable {platform : ProfilePlatform} {constraints : Option ConstraintDocument} {rows after inserted : List ProfileRow}
  {input : ProfileInput} {material : Material} {versionId : List Char} {now : Queue.Instant} {row : ProfileRow}

theorem insertProfile_newId (done : insertProfile row rows = .ok inserted) :
    row.versionId ∉ rows.map ProfileRow.versionId := by
  unfold insertProfile at done
  simp only [bind_ok_iff, require_ok_iff] at done
  rcases done with ⟨_, _, _, fresh, _⟩
  exact fresh

theorem insertCustomProfile_stored (sound : Sound platform input material)
    (done : insertCustomProfile versionId input.displayName input.baseVersionId material now rows = .ok inserted) :
    exists row, inserted = rows ++ [row] ∧ row.versionId = versionId ∧ versionId ∉ rows.map ProfileRow.versionId ∧
      row.normalizedSha256 = material.normalizedSha256 ∧
      material.normalizedSha256 ∉ rows.map ProfileRow.normalizedSha256 ∧ StoredRow platform material row := by
  unfold insertCustomProfile at done
  simp only [bind_ok_iff, require_ok_iff, jsonbParameter_ok] at done
  rcases done with ⟨_, _, shared, isShared, agents, areAgents, fixed, isFixed, normalized, stored, isInserted⟩
  rcases insertProfile_ok isInserted with ⟨fresh, rfl⟩
  exact ⟨_, rfl, rfl, insertProfile_newId isInserted, rfl, fresh,
    ⟨rfl, rfl, congrArg some sound.base, rfl, sound.digest, stored⟩, isShared, areAgents, isFixed⟩

/-- A display name is no part of what a row holds. -/
theorem StoredRow.renamed (held : StoredRow platform material row) (displayName : List Char) (updatedAt : Queue.Instant) :
    StoredRow platform material { row with displayName, updatedAt } where
  custom := ⟨rfl, held.custom.mode, held.custom.base, held.custom.immutable, held.custom.digest, held.custom.stored⟩
  shared := held.shared
  agents := held.agents
  fixed := held.fixed

theorem seedReference_row (seeded : seedReference platform now = .ok rows) :
    exists row, rows = [row] ∧ row.mode = .reference ∧ row.immutable = true ∧ ReferenceRow platform row := by
  unfold seedReference at seeded
  simp only [bind_ok_iff, jsonbParameter_ok] at seeded
  rcases seeded with ⟨shared, _, agents, _, fixed, _, normalized, stored, inserted⟩
  exact ⟨_, (insertProfile_ok inserted).2, rfl, rfl, rfl, rfl, stored⟩

theorem TableHolds.initial (initial : (profileSystem platform).initial rows) : TableHolds platform rows := by
  rcases initial with ⟨now, seeded⟩
  rcases seedReference_row seeded with ⟨row, rfl, mode, _, reference⟩
  refine ⟨List.nodup_singleton _, fun other inside => ?_⟩
  rw [List.mem_singleton.mp inside]
  exact Or.inl ⟨mode, reference⟩

theorem TableHolds.append (holds : TableHolds platform rows) (fresh : row.versionId ∉ rows.map ProfileRow.versionId)
    (whole : Whole material) (stored : StoredRow platform material row) : TableHolds platform (rows ++ [row]) := by
  refine ⟨?_, fun other inside => ?_⟩
  · rw [List.map_append]
    exact List.Nodup.append holds.versions (List.nodup_singleton _) (List.disjoint_singleton.mpr fresh)
  · rcases List.mem_append.mp inside with before | added
    · exact holds.origin other before
    · rw [List.mem_singleton.mp added]
      exact Or.inr ⟨material, whole, stored⟩

/-- A successful call keeps the table. -/
theorem TableHolds.perform (holds : TableHolds platform rows) {call : ProfileCall} {clock : Queue.Instant}
    {record : ProfileRecord} {found : Bool}
    (done : call.perform platform constraints versionId now clock rows = .ok (after, record, found)) :
    TableHolds platform after := by
  rcases ProfileCall.perform_ok done with ⟨input, material, materialized, ⟨_, rfl, _⟩ | ⟨_, _, isInserted, _⟩⟩
  · exact holds
  · have sound := ProfileCall.materialize_sound materialized
    have whole := materializeCustomProfile_whole (ProfileCall.materialize_ok materialized).2 sound.base
    rcases insertCustomProfile_stored sound isInserted with ⟨row, rfl, named, fresh, _, _, stored⟩
    exact holds.append (by rwa [named]) whole stored

/-- The new name of a row. -/
def renameRow (versionId displayName : List Char) (now : Queue.Instant) (row : ProfileRow) : ProfileRow :=
  if row.versionId = versionId ∧ row.mode = .custom ∧ row.immutable = true then
    { row with displayName, updatedAt := now }
  else row

theorem renameRow_eq (versionId displayName : List Char) (now : Queue.Instant) (row : ProfileRow) :
    exists shown changed, renameRow versionId displayName now row = { row with displayName := shown, updatedAt := changed } := by
  unfold renameRow
  split
  · exact ⟨displayName, now, rfl⟩
  · exact ⟨row.displayName, row.updatedAt, rfl⟩

theorem updateDisplayName_ok {displayName : List Char} (done : updateDisplayName versionId displayName now rows = .ok after) :
    after = rows.map (renameRow versionId displayName now) := by
  unfold updateDisplayName at done
  simp only [bind_ok_iff, pure_ok_iff] at done
  rcases done with ⟨_, _, _, _, _, _, same⟩
  exact same.symm

theorem TableHolds.rename (holds : TableHolds platform rows) (displayName : List Char) :
    TableHolds platform (rows.map (renameRow versionId displayName now)) := by
  refine ⟨?_, fun other inside => ?_⟩
  · rw [List.map_map, show ProfileRow.versionId ∘ renameRow versionId displayName now = ProfileRow.versionId from ?_]
    · exact holds.versions
    · funext row
      rcases renameRow_eq versionId displayName now row with ⟨shown, changed, same⟩
      rw [Function.comp_apply, same]
  · rcases List.mem_map.mp inside with ⟨row, isRow, rfl⟩
    rcases holds.origin row isRow with ⟨mode, reference⟩ | ⟨material, whole, stored⟩
    · have unchanged : renameRow versionId displayName now row = row := by
        refine if_neg fun condition => ?_
        rw [mode] at condition
        cases condition.2.1
      rw [unchanged]
      exact Or.inl ⟨mode, reference⟩
    · rcases renameRow_eq versionId displayName now row with ⟨shown, changed, same⟩
      rw [same]
      exact Or.inr ⟨material, whole, stored.renamed shown changed⟩

theorem TableHolds.execute (holds : TableHolds platform rows) (request : ProfileRequest) :
    TableHolds platform (request.execute platform rows) := by
  cases request with
  | call constraints given =>
      unfold ProfileRequest.execute
      dsimp only
      split
      · next done => exact holds.perform done
      · exact holds
  | rename versionId displayName now =>
      unfold ProfileRequest.execute
      dsimp only
      split
      · next done =>
          rw [updateDisplayName_ok done]
          exact holds.rename displayName
      · exact holds

theorem TableHolds.run {labels : List ProfileRequest} (holds : TableHolds platform rows)
    (run : (profileSystem platform).Run rows labels after) : TableHolds platform after := by
  refine run.invariant (TableHolds platform) ?_ holds
  rintro source request target rfl before
  exact before.execute request

/-- The table of every reachable state holds profiles. -/
theorem tableHolds_of_reachable (reachable : (profileSystem platform).Reachable rows) : TableHolds platform rows := by
  rcases reachable with ⟨start, labels, initial, run⟩
  exact (TableHolds.initial initial).run run

/-! ## Rows are found again -/

/-- A test that does not read the display name. -/
def Blind (test : ProfileRow -> Bool) : Prop :=
  forall row displayName updatedAt, test { row with displayName, updatedAt } = test row

theorem execute_find? {test : ProfileRow -> Bool} (blind : Blind test) (request : ProfileRequest)
    (isFound : rows.find? test = some row) : exists displayName updatedAt,
      (request.execute platform rows).find? test = some { row with displayName, updatedAt } := by
  have unchanged : exists displayName updatedAt, rows.find? test = some { row with displayName, updatedAt } :=
    ⟨row.displayName, row.updatedAt, isFound⟩
  cases request with
  | call constraints given =>
      unfold ProfileRequest.execute
      dsimp only
      split
      · next done =>
          rcases ProfileCall.perform_ok done with ⟨input, material, materialized, ⟨_, rfl, _⟩ | ⟨_, _, isInserted, _⟩⟩
          · exact unchanged
          · rcases insertCustomProfile_stored (ProfileCall.materialize_sound materialized) isInserted with ⟨added, rfl, _⟩
            refine ⟨row.displayName, row.updatedAt, ?_⟩
            rw [List.find?_append, isFound]
            rfl
      · exact unchanged
  | rename versionId displayName now =>
      unfold ProfileRequest.execute
      dsimp only
      split
      · next done =>
          rw [updateDisplayName_ok done, List.find?_map]
          have same : test ∘ renameRow versionId displayName now = test := by
            funext other
            rcases renameRow_eq versionId displayName now other with ⟨shown, changed, renamed⟩
            rw [Function.comp_apply, renamed, blind]
          rw [same, isFound]
          rcases renameRow_eq versionId displayName now row with ⟨shown, changed, renamed⟩
          exact ⟨shown, changed, congrArg some renamed⟩
      · exact unchanged

/-- What was found is found in every later table. -/
theorem run_find? {test : ProfileRow -> Bool} (blind : Blind test) {labels : List ProfileRequest}
    (run : (profileSystem platform).Run rows labels after) (isFound : rows.find? test = some row) :
    exists displayName updatedAt, after.find? test = some { row with displayName, updatedAt } := by
  refine run.invariant (fun rows => exists displayName updatedAt,
    rows.find? test = some { row with displayName, updatedAt }) ?_ ⟨row.displayName, row.updatedAt, isFound⟩
  rintro source request target rfl ⟨displayName, updatedAt, found⟩
  have next := @execute_find? platform _ _ _ blind request found
  exact next

/-- The reference is read from every later table as it was. -/
theorem referenceProfileComponents_later {labels : List ProfileRequest} {components : ReferenceComponents}
    (run : (profileSystem platform).Run rows labels after)
    (read : referenceProfileComponents platform rows = .ok components) :
    referenceProfileComponents platform after = .ok components := by
  unfold referenceProfileComponents validatedReferenceProfile at read ⊢
  cases isFound : rows.find? fun row => row.versionId = referenceProfileVersionId && row.mode = .reference && row.immutable with
  | none =>
      rw [isFound] at read
      cases read
  | some row =>
      rcases run_find? (fun _ _ _ => rfl) run isFound with ⟨displayName, updatedAt, foundLater⟩
      rw [isFound] at read
      rw [foundLater]
      exact read

theorem materializeCustomProfile_later {labels : List ProfileRequest}
    (run : (profileSystem platform).Run rows labels after)
    (done : materializeCustomProfile platform constraints input rows = .ok material) :
    materializeCustomProfile platform constraints input after = .ok material := by
  rcases materializeCustomProfile_ok_iff.mp done with ⟨document, reference, profile, verified, read, isProfile, same⟩
  exact materializeCustomProfile_ok_iff.mpr
    ⟨document, reference, profile, verified, referenceProfileComponents_later run read, isProfile, same⟩

end Rows

end Profiles
end FederatedIot
