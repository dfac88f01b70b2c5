import FederatedIot.Profiles.ProfileTable

namespace FederatedIot
namespace Profiles

open Foundation Foundation.JsonText Foundation.JsonText.Document Foundation.Outcome Queue

/-!
# The identity of a stored profile

A profile is found again by the digest of its canonical text, and then that text is made
once more from what the table holds.  The table keeps every number but the sign of a zero.
So a profile that was accepted with a negative zero is in the table and can never be found,
and every other one is found by the same parameters and by its own export.
-/

/-- No number is a negative zero. -/
abbrev Unsigned (value : Value) : Prop :=
  value.Numbers fun number => ¬number.IsNegativeZero

/-- No posted number is a negative zero. -/
structure ProfileInput.Unsigned (input : ProfileInput) : Prop where
  shared : ∀ object ∈ input.shared, Profiles.Unsigned (.object object.members)
  agents : ∀ agent ∈ input.agents, ∀ object ∈ agent.parameters, Profiles.Unsigned (.object object.members)

/-- The parameters of a stored profile lead to it again, posted or exported and imported. -/
structure Survives (platform : ProfilePlatform) (constraints : Option ConstraintDocument) (input : ProfileInput)
    (record : ProfileRecord) (rows : List ProfileRow) : Prop where
  posted : forall versionId now clock (again : ProfileInput), again.shared = input.shared -> again.agents = input.agents ->
    again.baseVersionId = input.baseVersionId -> validateProfileDisplayName again.displayName = .ok () ->
    exists found, (ProfileCall.create again).perform platform constraints versionId now clock rows = .ok (rows, found, true) ∧
      found.versionId = record.versionId ∧ found.normalizedSha256 = record.normalizedSha256
  imported : exists text received, exportParameterProfile platform constraints record.versionId rows = .ok text ∧
    unmarshal text = some received ∧ forall sent versionId now clock, Reorder received sent ->
      exists found, importParameterProfile platform constraints versionId now clock (print (sent.map Double.format)) rows =
        .ok (rows, found, true) ∧
        found.versionId = record.versionId ∧ found.normalizedSha256 = record.normalizedSha256

/-! ## Whole profiles -/

section Profile

variable {shared otherShared : Members} {agents otherAgents : List Value} {fixed otherFixed : Members}
  {baseVersionId : List Char}

theorem customProfile_names (baseVersionId : List Char) (shared : Members) (agents : List Value) (fixed : Members) :
    ([("contract_version".toList, .string parameterContractVersion), word "mode" RunMode.custom.text,
      ("base_version_id".toList, .string baseVersionId), ("shared_parameters".toList, .object shared),
      ("agents".toList, .array agents), ("fixed_items".toList, .object fixed)].map
        (Prod.fst : List Char × Value -> List Char)).Nodup := by
  change (["contract_version", "mode", "base_version_id", "shared_parameters", "agents", "fixed_items"].map
    String.toList).Nodup
  decide

theorem Whole.distinct {material : Material} (whole : Whole material) :
    (customProfile referenceProfileVersionId material.shared material.agents material.fixed).Distinct := by
  refine Distinct.object (customProfile_names _ _ _ _) fun member inside => ?_
  simp only [List.mem_cons, List.not_mem_nil, or_false] at inside
  rcases inside with rfl | rfl | rfl | rfl | rfl | rfl
  · exact Distinct.string _
  · exact Distinct.string _
  · exact Distinct.string _
  · exact whole.shared
  · exact whole.agents
  · exact whole.fixed

/-- The parts of the same profiles are the same. -/
theorem customProfile_parts (same : Same (customProfile baseVersionId shared agents fixed)
    (customProfile baseVersionId otherShared otherAgents otherFixed)) :
    Same (.object shared) (.object otherShared) ∧ Same (.array agents) (.array otherAgents) ∧
      Same (.object fixed) (.object otherFixed) := by
  have found : forall {name : List Char} {value other : Value},
      member? name [("contract_version".toList, .string parameterContractVersion), word "mode" RunMode.custom.text,
        ("base_version_id".toList, .string baseVersionId), ("shared_parameters".toList, .object shared),
        ("agents".toList, .array agents), ("fixed_items".toList, .object fixed)] = some value ->
      member? name [("contract_version".toList, .string parameterContractVersion), word "mode" RunMode.custom.text,
        ("base_version_id".toList, .string baseVersionId), ("shared_parameters".toList, .object otherShared),
        ("agents".toList, .array otherAgents), ("fixed_items".toList, .object otherFixed)] = some other ->
      Same value other := by
    intro name value other present otherPresent
    rcases same.found (customProfile_names _ _ _ _) (customProfile_names _ _ _ _) present with ⟨_, isOther, held⟩
    rw [otherPresent] at isOther
    rw [Option.some.inj isOther]
    exact held
  refine ⟨@found "shared_parameters".toList _ _ ?_ ?_, @found "agents".toList _ _ ?_ ?_,
    @found "fixed_items".toList _ _ ?_ ?_⟩ <;> rfl

/-- The agents of a profile in another order make the same profile. -/
theorem customProfile_agents (same : Same (.array agents) (.array otherAgents)) :
    Same (customProfile baseVersionId shared agents fixed) (customProfile baseVersionId shared otherAgents fixed) := by
  have sorted : (Document.array agents).sort byText = (Document.array otherAgents).sort byText := same
  change Document.object (orderMembers byText [(_, _), (_, _), (_, _), (_, _),
    ("agents".toList, (Document.array agents).sort byText), (_, _)]) = _
  rw [sorted]
  rfl

theorem unsigned_customProfile : Unsigned (customProfile baseVersionId shared agents fixed) ↔
    Unsigned (.object shared) ∧ Unsigned (.array agents) ∧ Unsigned (.object fixed) := by
  unfold customProfile Unsigned
  rw [numbers_object_iff]
  simp only [List.forall_mem_cons, List.not_mem_nil, false_implies, implies_true, and_true]
  constructor
  · rintro ⟨_, _, _, isShared, areAgents, isFixed⟩
    exact ⟨isShared, areAgents, isFixed⟩
  · rintro ⟨isShared, areAgents, isFixed⟩
    exact ⟨Numbers.string _, Numbers.string _, Numbers.string _, isShared, areAgents, isFixed⟩

end Profile

/-! ## What the table holds -/

section Stored

variable {platform : ProfilePlatform} {constraints : Option ConstraintDocument} {rows : List ProfileRow}
  {material other : Material} {row : ProfileRow} {input : ProfileInput}

/-- The columns of a row are decoded to the parts of a material. -/
structure Reads (material : Material) (row : ProfileRow) : Prop where
  shared : exists back, unmarshal (Jsonb.text row.sharedParameters) = some back ∧ Same (.object material.shared) back
  agents : exists back, unmarshal (Jsonb.text row.agentsJson) = some back ∧ Same (.array material.agents) back
  fixed : exists back, unmarshal (Jsonb.text row.fixedItems) = some back ∧ Same (.object material.fixed) back

/-- The content of a row, which was stored for a material, is the canonical text of another one only
when both are the same but for the signs of zeros. -/
theorem StoredRow.content (stored : StoredRow platform other row) (otherWhole : Whole other) (whole : Whole material)
    (content : row.content = some material.normalized) :
    Unsigned (customProfile referenceProfileVersionId material.shared material.agents material.fixed) ∧
      Same ((customProfile referenceProfileVersionId other.shared other.agents other.fixed).map Double.clearZero)
        (customProfile referenceProfileVersionId material.shared material.agents material.fixed) := by
  have isStored := stored.custom.stored
  rw [otherWhole.normalized] at isStored
  rcases Jsonb.text_same otherWhole.distinct isStored with ⟨back, decoded, same⟩
  have backDistinct := distinct_of_unmarshal decoded
  have unsigned := Jsonb.text_unsigned otherWhole.distinct isStored decoded
  unfold ProfileRow.content canonicalRaw at content
  rw [decoded, Option.map_some, whole.normalized] at content
  have alike := (marshal_eq_iff backDistinct whole.distinct).mp (Option.some.inj content)
  exact ⟨alike.numbers_iff.mp unsigned, same.trans alike⟩

theorem StoredRow.reads (stored : StoredRow platform other row) (otherWhole : Whole other) (whole : Whole material)
    (content : row.content = some material.normalized) : Reads material row := by
  have parts := customProfile_parts (stored.content otherWhole whole content).2
  rcases Jsonb.text_same otherWhole.shared stored.shared with ⟨shared, isShared, sameShared⟩
  rcases Jsonb.text_same otherWhole.agents stored.agents with ⟨agents, areAgents, sameAgents⟩
  rcases Jsonb.text_same otherWhole.fixed stored.fixed with ⟨fixed, isFixed, sameFixed⟩
  exact ⟨⟨shared, isShared, parts.1.symm.trans sameShared⟩, ⟨agents, areAgents, parts.2.1.symm.trans sameAgents⟩,
    ⟨fixed, isFixed, parts.2.2.symm.trans sameFixed⟩⟩

/-- The numbers of the reference have no signs, in the table as before. -/
theorem TableHolds.fixed_unsigned (holds : TableHolds platform rows) {components : ReferenceComponents}
    (read : referenceProfileComponents platform rows = .ok components) : Unsigned (.object components.fixed) := by
  unfold referenceProfileComponents validatedReferenceProfile at read
  rw [bind_ok_iff] at read
  rcases read with ⟨normalized, isNormalized, isRead⟩
  split at isNormalized
  · cases isNormalized
  · next row isRow =>
      simp only [bind_ok_iff, pure_ok_iff] at isNormalized
      rcases isNormalized with ⟨_, _, rfl⟩
      have tested := List.find?_some isRow
      have mode : row.mode = .reference := by
        simp only [Bool.and_eq_true, decide_eq_true_eq] at tested
        exact tested.1.2
      rcases holds.origin row (List.mem_of_find?_eq_some isRow) with ⟨_, reference⟩ | ⟨material, _, stored⟩
      · cases parts : (rawJsonObject (Jsonb.text row.normalizedJson)).bind profileComponents with
        | none =>
            rw [parts] at isRead
            cases isRead
        | some found =>
            rw [parts] at isRead
            cases isRead
            rcases Option.bind_eq_some_iff.mp parts with ⟨profile, decoded, isProfile⟩
            rcases Jsonb.text_same referenceProfile_distinct reference.stored with ⟨back, isBack, _⟩
            have unsigned := Jsonb.text_unsigned referenceProfile_distinct reference.stored isBack
            unfold rawJsonObject at decoded
            rw [isBack] at decoded
            cases back with
            | object members =>
                cases decoded
                unfold profileComponents at isProfile
                split at isProfile
                · next shared agents fixed _ _ hasFixed =>
                    cases isProfile
                    exact numbers_object_iff.mp unsigned _ (mem_of_member? hasFixed)
                · cases isProfile
            | null =>
                cases decoded
                cases isProfile
            | bool | number | string | array => cases decoded
      · rw [stored.custom.mode] at mode
        cases mode

theorem agentNumber_unsigned (agent : Int) : Unsigned (agentNumber agent) := by
  refine Numbers.number fun negative => ?_
  have positive : (Double.ofFraction agent.toNat 1).negative = false := by
    unfold Double.ofFraction
    split <;> rfl
  rw [negative.1] at positive
  cases positive

/-- A material has the numbers that were posted, and those of the reference. -/
theorem unsigned_material (holds : TableHolds platform rows)
    (done : materializeCustomProfile platform constraints input rows = .ok material) :
    Unsigned (customProfile referenceProfileVersionId material.shared material.agents material.fixed) ↔ input.Unsigned := by
  rcases materializeCustomProfile_ok_iff.mp done with ⟨document, reference, profile, _, read, isProfile, rfl⟩
  rcases referenceProfileComponents_distinct read with ⟨sharedDistinct, _, _⟩
  rcases ConstraintDocument.materialize_ok_iff.mp isProfile with
    ⟨_, ⟨object, isObject, completed⟩, _, numbers, overrides, accepts, areAgents⟩
  have value : document.completeValue "shared_parameters".toList (.object reference.shared) (.object object.members) =
      .ok (.object profile.shared) := by
    rw [ConstraintDocument.completeValue_object, completed]
    rfl
  have sameShared := ConstraintDocument.completeValue_same value sharedDistinct object.distinct
  have agentsUnsigned : Unsigned (.array profile.agents) ↔
      ∀ agent ∈ agentNumbers, Unsigned (.object (overrides agent).members) := by
    rw [areAgents]
    unfold Unsigned
    rw [numbers_array_iff, List.forall_mem_map]
    refine forall₂_congr fun agent _ => ?_
    unfold ConstraintDocument.agentObject
    rw [numbers_object_iff]
    simp only [List.forall_mem_cons, List.not_mem_nil, false_implies, implies_true, and_true]
    exact ⟨fun each => each.2.2, fun parameters => ⟨agentNumber_unsigned agent, Numbers.string _, parameters⟩⟩
  rw [unsigned_customProfile, agentsUnsigned]
  constructor
  · rintro ⟨isShared, areUnsigned, _⟩
    refine ⟨?_, ?_⟩
    · intro given isGiven
      rw [isObject] at isGiven
      cases isGiven
      exact sameShared.numbers_iff.mpr isShared
    · intro agent inside given isGiven
      have parameters := (accepts agent inside).2.1
      rw [isGiven] at parameters
      rw [Option.some.inj parameters]
      exact areUnsigned _ (numbers.mem_iff.mp (List.mem_map_of_mem inside))
  · intro unsigned
    refine ⟨sameShared.numbers_iff.mp (unsigned.shared object isObject), ?_, holds.fixed_unsigned read⟩
    intro number isNumber
    rcases List.mem_map.mp (numbers.mem_iff.mpr isNumber) with ⟨agent, inside, rfl⟩
    exact unsigned.agents agent inside _ (accepts agent inside).2.1

end Stored

/-! ## The row of an accepted profile -/

section Accepted

variable {platform : ProfilePlatform} {constraints : Option ConstraintDocument} {rows after target : List ProfileRow}
  {material other : Material} {row : ProfileRow} {input prepared : ProfileInput} {record : ProfileRecord}
  {versionId : List Char} {now clock : Queue.Instant} {found : Bool}

theorem normalizeCustomProfileBase_eq (accepted : normalizeCustomProfileBase input = .ok prepared) :
    prepared = { input with baseVersionId := referenceProfileVersionId } := by
  unfold normalizeCustomProfileBase at accepted
  simp only [bind_ok_iff, require_ok_iff, pure_ok_iff] at accepted
  rcases accepted with ⟨_, isBase, rfl⟩
  split at isBase
  · next absent => rw [if_pos absent]
  · next present =>
      rw [if_neg present, ← isBase]

/-- The row that an accepted profile has in a table. -/
structure Home (platform : ProfilePlatform) (input : ProfileInput) (material other : Material) (record : ProfileRecord)
    (rows : List ProfileRow) (row : ProfileRow) : Prop where
  found : (rows.find? fun row => row.normalizedSha256 = material.normalizedSha256) = some row
  whole : Whole other
  stored : StoredRow platform other row
  version : row.versionId = record.versionId
  digest : record.normalizedSha256 = material.normalizedSha256
  content : row.content = some material.normalized ↔ input.Unsigned

/-- A profile is found by its digest when its row has its content. -/
theorem exactCustomProfile_ok_iff (digest : material.normalizedSha256 = platform.sha256Hex material.normalized) :
    exactCustomProfileByNormalized platform material.normalized material.normalizedSha256 referenceProfileVersionId rows =
        .ok (some record) ↔
      exists row, (rows.find? fun row => row.normalizedSha256 = material.normalizedSha256) = some row ∧
        row.record = record ∧ row.content = some material.normalized ∧ row.mode = .custom ∧ row.immutable = true ∧
        row.baseVersionId = some referenceProfileVersionId := by
  unfold exactCustomProfileByNormalized validateExactCustomProfile
  cases isRow : rows.find? fun row => row.normalizedSha256 = material.normalizedSha256 with
  | none =>
      constructor
      · intro wrong
        cases wrong
      · rintro ⟨_, wrong, _⟩
        cases wrong
  | some row =>
      have sameDigest : row.normalizedSha256 = material.normalizedSha256 :=
        of_decide_eq_true (by have tested := List.find?_some isRow; exact tested)
      have isContent : (canonicalRaw (Jsonb.text row.normalizedJson)).any (fun canonical =>
          platform.sha256Hex canonical = material.normalizedSha256 && canonical = material.normalized) = true ↔
          row.content = some material.normalized := by
        unfold ProfileRow.content
        cases canonicalRaw (Jsonb.text row.normalizedJson) with
        | none => exact ⟨fun wrong => (by cases wrong), fun wrong => (by cases wrong)⟩
        | some canonical =>
            rw [Option.any_some, Bool.and_eq_true, decide_eq_true_eq, decide_eq_true_eq, Option.some_inj, digest]
            exact ⟨And.right, fun same => ⟨congrArg platform.sha256Hex same, same⟩⟩
      simp only [bind_ok_iff, require_ok_iff, pure_ok_iff, isContent, Option.some_inj]
      constructor
      · rintro ⟨_, ⟨_, content, mode, immutable, base, _⟩, same⟩
        exact ⟨row, rfl, same, content, mode, immutable, base⟩
      · rintro ⟨_, rfl, same, content, mode, immutable, base⟩
        exact ⟨PUnit.unit, ⟨PUnit.unit, content, mode, immutable, base, sameDigest⟩, same⟩

theorem Home.lookUp_iff (home : Home platform input material other record rows row)
    (digest : material.normalizedSha256 = platform.sha256Hex material.normalized) :
    exactCustomProfileByNormalized platform material.normalized material.normalizedSha256 referenceProfileVersionId rows =
        .ok (some row.record) ↔ input.Unsigned := by
  rw [exactCustomProfile_ok_iff digest, ← home.content]
  constructor
  · rintro ⟨same, isFound, _, content, _⟩
    rw [home.found] at isFound
    rw [Option.some.inj isFound]
    exact content
  · intro content
    exact ⟨row, home.found, rfl, content, home.stored.custom.mode, home.stored.custom.immutable, home.stored.custom.base⟩

/-- A display name is no part of the row that a profile has. -/
theorem Home.later {labels : List ProfileRequest} (home : Home platform input material other record after row)
    (run : (profileSystem platform).Run after labels target) : exists displayName updatedAt,
      Home platform input material other record target { row with displayName, updatedAt } := by
  rcases run_find? (fun _ _ _ => rfl) run home.found with ⟨displayName, updatedAt, isFound⟩
  exact ⟨displayName, updatedAt, isFound, home.whole, home.stored.renamed displayName updatedAt, home.version, home.digest,
    home.content⟩

/-- The content of a row that was stored for a material. -/
theorem StoredRow.content_iff (stored : StoredRow platform material row) (whole : Whole material) :
    row.content = some material.normalized ↔
      Unsigned (customProfile referenceProfileVersionId material.shared material.agents material.fixed) := by
  constructor
  · intro content
    exact (stored.content whole whole content).1
  · intro unsigned
    have isStored := stored.custom.stored
    rw [whole.normalized] at isStored
    rcases Jsonb.marshal_stored_iff whole.distinct isStored with ⟨back, decoded, same⟩
    unfold ProfileRow.content canonicalRaw
    rw [decoded, Option.map_some, whole.normalized]
    exact congrArg some (same.mpr unsigned)

/-- An accepted profile has a row. -/
theorem home_of_accepted (holds : TableHolds platform rows)
    (accepted : (ProfileCall.create input).perform platform constraints versionId now clock rows =
      .ok (after, record, found)) : exists prepared material other row,
    (ProfileCall.create input).materialize platform constraints rows = .ok (prepared, material) ∧
      Home platform input material other record after row := by
  rcases ProfileCall.perform_ok accepted with ⟨prepared, material, materialized, outcome⟩
  have sound := ProfileCall.materialize_sound materialized
  rcases ProfileCall.materialize_ok materialized with ⟨isPrepared, made⟩
  have whole := materializeCustomProfile_whole made sound.base
  have same : prepared = { input with baseVersionId := referenceProfileVersionId } := by
    simp only [ProfileCall.prepare, bind_ok_iff] at isPrepared
    rcases isPrepared with ⟨_, _, normalized⟩
    exact normalizeCustomProfileBase_eq normalized
  have numbers := unsigned_material holds made
  have unsigned : prepared.Unsigned ↔ input.Unsigned := by
    rw [same]
    exact ⟨fun held => ⟨held.shared, held.agents⟩, fun held => ⟨held.shared, held.agents⟩⟩
  rcases outcome with ⟨_, rfl, isFound⟩ | ⟨_, absent, isInserted, rfl⟩
  · unfold lookUpProfile at isFound
    rw [sound.base, exactCustomProfile_ok_iff sound.digest] at isFound
    rcases isFound with ⟨row, isRow, rfl, content, mode, _⟩
    have digest : row.normalizedSha256 = material.normalizedSha256 :=
      of_decide_eq_true (by have tested := List.find?_some isRow; exact tested)
    rcases holds.origin row (List.mem_of_find?_eq_some isRow) with ⟨isReference, _⟩ | ⟨other, otherWhole, stored⟩
    · rw [mode] at isReference
      cases isReference
    · refine ⟨prepared, material, other, row, materialized, isRow, otherWhole, stored, rfl, digest, ?_⟩
      have held := unsigned.mp (numbers.mp (stored.content otherWhole whole content).1)
      exact ⟨fun _ => held, fun _ => content⟩
  · rcases insertCustomProfile_stored sound isInserted with ⟨row, rfl, named, _, digest, new, stored⟩
    refine ⟨prepared, material, material, row, materialized, ?_, whole, stored, named, rfl, ?_⟩
    · rw [List.find?_append, List.find?_eq_none.mpr fun other inside isSame => new ?_]
      · rw [Option.none_or, List.find?_singleton, if_pos (decide_eq_true digest)]
      · rw [← of_decide_eq_true isSame]
        exact List.mem_map_of_mem inside
    · rw [stored.content_iff whole, numbers, unsigned]

theorem materialize_create (isPrepared : (ProfileCall.create input).prepare = .ok prepared)
    (made : materializeCustomProfile platform constraints prepared rows = .ok material) :
    (ProfileCall.create input).materialize platform constraints rows = .ok (prepared, material) := by
  unfold ProfileCall.materialize
  rw [isPrepared]
  change (materializeCustomProfile platform constraints prepared rows).bind _ = _
  rw [made]
  rfl

theorem materialize_later {labels : List ProfileRequest} (run : (profileSystem platform).Run rows labels target)
    (materialized : (ProfileCall.create input).materialize platform constraints rows = .ok (prepared, material)) :
    (ProfileCall.create input).materialize platform constraints target = .ok (prepared, material) := by
  rcases ProfileCall.materialize_ok materialized with ⟨isPrepared, made⟩
  exact materialize_create isPrepared (materializeCustomProfile_later run made)

/-- The same parameters are materialized again, whatever the display name. -/
theorem materialize_again {again : ProfileInput}
    (materialized : (ProfileCall.create input).materialize platform constraints rows = .ok (prepared, material))
    (shared : again.shared = input.shared) (agents : again.agents = input.agents)
    (base : again.baseVersionId = input.baseVersionId) (named : validateProfileDisplayName again.displayName = .ok ()) :
    (ProfileCall.create again).materialize platform constraints rows =
      .ok ({ again with baseVersionId := referenceProfileVersionId }, material) := by
  rcases ProfileCall.materialize_ok materialized with ⟨isPrepared, made⟩
  simp only [ProfileCall.prepare, bind_ok_iff] at isPrepared
  rcases isPrepared with ⟨_, _, normalized⟩
  have isBase : normalizeCustomProfileBase again = .ok { again with baseVersionId := referenceProfileVersionId } := by
    have same := normalizeCustomProfileBase_eq normalized
    rcases again with ⟨displayName, baseVersionId, againShared, againAgents⟩
    dsimp only at shared agents base
    unfold normalizeCustomProfileBase at normalized ⊢
    simp only [bind_ok_iff, require_ok_iff, pure_ok_iff] at normalized ⊢
    rcases normalized with ⟨_, held, _⟩
    rw [base]
    by_cases absent : input.baseVersionId = []
    · rw [if_pos absent]
      exact ⟨PUnit.unit, rfl, rfl⟩
    · rw [if_neg absent] at held ⊢
      refine ⟨PUnit.unit, held, ?_⟩
      rw [← held]
  have isMade : materializeCustomProfile platform constraints { again with baseVersionId := referenceProfileVersionId } rows =
      .ok material := by
    have same := normalizeCustomProfileBase_eq normalized
    rw [same] at made
    unfold materializeCustomProfile at made ⊢
    dsimp only at made ⊢
    rw [shared, agents]
    exact made
  refine materialize_create ?_ isMade
  unfold ProfileCall.prepare
  dsimp only
  rw [named, ok_bind, isBase]

end Accepted

/-! ## The export of a profile -/

theorem canonicalJson_same {value other : Value} (same : Same value other) : canonicalJson value = canonicalJson other := by
  unfold canonicalJson marshal
  rw [same]

/-- What is read of the export of a profile. -/
structure Reimports (material : Material) (overrides : Int -> Object) (input : ImportProfileInput) : Prop where
  contract : input.contractVersion = parameterContractVersion
  mode : input.mode = RunMode.custom.text.toList
  immutable : input.immutable = true
  base : input.input.baseVersionId = referenceProfileVersionId
  digest : input.normalizedSha256 = material.normalizedSha256
  shared : exists object, input.input.shared = some object ∧ Same (.object material.shared) (.object object.members)
  agents : List.Forall₂ AgentOverride.Same (agentNumbers.map fun agent =>
    { agent, segment := fixedSegment agent, parameters := some (overrides agent) }) input.input.agents
  fixed : exists object, input.fixedItems = some object ∧ Same (.object material.fixed) (.object object.members)

section Export

variable {platform : ProfilePlatform} {constraints : Option ConstraintDocument} {rows : List ProfileRow}
  {document : ConstraintDocument} {material other : Material} {row : ProfileRow} {prepared given : ProfileInput}
  {record : ProfileRecord} {overrides : Int -> Object}

theorem profileMembers_map (platform : ProfilePlatform) (document : ConstraintDocument) (record : ProfileRecord) :
    (profileMembers platform document record).map Prod.fst =
      ["version_id", "mode", "display_name", "base_version_id", "immutable", "contract_version", "shared_parameters",
        "agents", "fixed_items", "constraints", "editable_paths", "normalized_sha256", "created_at",
        "updated_at"].map String.toList :=
  rfl

theorem profileMembers_names (platform : ProfilePlatform) (document : ConstraintDocument) (record : ProfileRecord) :
    ((profileMembers platform document record).map Prod.fst).Nodup := by
  rw [profileMembers_map]
  decide +kernel

theorem rawOrObject_eq {text : List Char} {back : Value} (decoded : unmarshal text = some back) :
    rawOrObject text = back := by
  rw [rawOrObject, decoded]
  rfl

/-- The export of a profile is decoded to its parameters. -/
theorem decodeImport_export (custom : CustomRow platform row.versionId other row) (reads : Reads material row)
    (digest : row.normalizedSha256 = material.normalizedSha256)
    (areAgents : material.agents = agentNumbers.map fun agent =>
      ConstraintDocument.agentObject agent (fixedSegment agent) (overrides agent).members)
    {received sent : Value} (decoded : unmarshal (marshal (profileResponse platform document row.record)) = some received)
    (reorder : Reorder received sent) : exists input, decodeImport sent = some input ∧ Reimports material overrides input := by
  have distinct : sent.Distinct := reorder.distinct (distinct_of_unmarshal decoded)
  rcases SameFields.of_decoded (profileMembers_names _ _ _) decoded reorder with ⟨others, rfl, fields⟩
  rcases reads.shared with ⟨shared, isShared, sameShared⟩
  rcases reads.agents with ⟨agents, isAgents, sameAgents⟩
  rcases reads.fixed with ⟨fixed, isFixed, sameFixed⟩
  rw [areAgents] at sameAgents
  have known : knownFields importFields (.object others) = some others := by
    refine fields.known ?_
    rw [profileMembers_map]
    decide +kernel
  have version : textField "version_id" others = some row.versionId := fields.textField rfl
  have mode : textField "mode" others = some RunMode.custom.text.toList := by
    rw [← custom.mode]
    exact fields.textField rfl
  have displayName : textField "display_name" others = some row.displayName := fields.textField rfl
  have base : textField "base_version_id" others = some referenceProfileVersionId := by
    refine fields.textField (Eq.trans (b := some (row.baseVersionId.elim .null .string)) rfl ?_)
    rw [custom.base]
    rfl
  have contract : textField "contract_version" others = some parameterContractVersion := fields.textField rfl
  have sha : textField "normalized_sha256" others = some row.normalizedSha256 := fields.textField rfl
  have immutable : boolField "immutable" others = some true := by
    rw [← custom.immutable]
    exact fields.boolField rfl
  have created : textField "created_at" others = some (platform.formatTime row.createdAt) := fields.textField rfl
  have updated : textField "updated_at" others = some (platform.formatTime row.updatedAt) := fields.textField rfl
  have hasShared : member? "shared_parameters".toList (profileMembers platform document row.record) = some shared := by
    rw [← rawOrObject_eq isShared]
    rfl
  have hasAgents : member? "agents".toList (profileMembers platform document row.record) = some agents := by
    rw [← rawOrObject_eq isAgents]
    rfl
  have hasFixed : member? "fixed_items".toList (profileMembers platform document row.record) = some fixed := by
    rw [← rawOrObject_eq isFixed]
    rfl
  rcases fields.mapField hasShared sameShared (distinct_of_unmarshal isShared) distinct with
    ⟨sharedObject, isSharedObject, sameSharedObject⟩
  rcases fields.mapField hasFixed sameFixed (distinct_of_unmarshal isFixed) distinct with
    ⟨fixedObject, isFixedObject, sameFixedObject⟩
  rcases fields.listField hasAgents sameAgents (distinct_of_unmarshal isAgents) distinct
    fun agent known other same => ConstraintDocument.importAgent_same known (overrides agent) same with
    ⟨agentList, isAgentList, sameAgentList⟩
  have readsPaths : exists paths, listField importPath "editable_paths" others = some paths := by
    have strings : (Document.array (document.editablePaths.map .string) : Value).Distinct := by
      refine Distinct.array fun item inside => ?_
      rcases List.mem_map.mp inside with ⟨path, _, rfl⟩
      exact Distinct.string path
    rcases @SameFields.listField "editable_paths" _ _ fields _ importPath _ (fun _ _ => True) document.editablePaths
      Document.string _ rfl (Same.refl _) strings distinct (fun path _ other same _ => ⟨path, by
        rw [same.eq_of_scalar rfl, importPath], trivial⟩) with ⟨paths, isPaths, _⟩
    exact ⟨paths, isPaths⟩
  rcases readsPaths with ⟨paths, isPaths⟩
  refine ⟨{ input := { displayName := row.displayName, baseVersionId := referenceProfileVersionId
                       shared := some sharedObject, agents := agentList }
            contractVersion := parameterContractVersion, mode := RunMode.custom.text.toList
            fixedItems := some fixedObject, normalizedSha256 := row.normalizedSha256, immutable := true }, ?_, ?_⟩
  · simp only [decodeImport, known, version, mode, displayName, base, contract, isSharedObject, isAgentList,
      isFixedObject, sha, immutable, created, updated, isPaths, Option.bind_eq_bind, Option.bind_some]
    rfl
  · refine ⟨rfl, rfl, rfl, rfl, digest, ⟨sharedObject, rfl, sameSharedObject⟩, ?_, ⟨fixedObject, rfl, sameFixedObject⟩⟩
    rw [List.forall₂_map_left_iff]
    exact sameAgentList

/-- What was materialized is materialized again from its export. -/
theorem materialize_import (made : materializeCustomProfile platform constraints prepared rows = .ok material)
    (base : prepared.baseVersionId = referenceProfileVersionId) : exists overrides : Int -> Object,
    (material.agents = agentNumbers.map fun agent =>
      ConstraintDocument.agentObject agent (fixedSegment agent) (overrides agent).members) ∧
    forall input, Reimports material overrides input -> exists again,
      (ProfileCall.import input).materialize platform constraints rows = .ok (input.input, again) ∧
        again.normalized = material.normalized ∧ again.normalizedSha256 = material.normalizedSha256 := by
  rcases materializeCustomProfile_ok_iff.mp made with ⟨document, reference, profile, verified, read, isProfile, rfl⟩
  rcases ConstraintDocument.kept_of_ok (referenceProfileComponents_distinct read).1 isProfile with ⟨_, _, kept⟩
  rcases kept.stored with ⟨overrides, _, _, areAgents, _, object, isObject, done⟩
  refine ⟨overrides, areAgents, fun input reimports => ?_⟩
  rcases reimports.shared with ⟨shared, isShared, sameShared⟩
  rcases reimports.fixed with ⟨fixed, isFixed, sameFixed⟩
  have sameObject : object.Same shared := by
    unfold Object.Same
    rw [isObject]
    exact sameShared
  rcases ConstraintDocument.materialize_reordered done sameObject reimports.agents with
    ⟨again, isAgain, againShared, againAgents⟩
  have normalized : canonicalJson (customProfile input.input.baseVersionId again.shared again.agents reference.fixed) =
      canonicalJson (customProfile prepared.baseVersionId profile.shared profile.agents reference.fixed) := by
    rw [reimports.base, base, againShared]
    exact (canonicalJson_same (customProfile_agents againAgents)).symm
  have digest := reimports.digest
  dsimp only at digest sameFixed
  have made : exists other, materializeCustomProfile platform constraints input.input rows = .ok other ∧
      other.fixed = reference.fixed ∧
      other.normalized = canonicalJson (customProfile prepared.baseVersionId profile.shared profile.agents reference.fixed) ∧
      other.normalizedSha256 = platform.sha256Hex
        (canonicalJson (customProfile prepared.baseVersionId profile.shared profile.agents reference.fixed)) := by
    refine ⟨_, materializeCustomProfile_ok_iff.mpr
      ⟨document, reference, again, verified, read, by rw [isShared]; exact isAgain, rfl⟩, rfl, normalized, ?_⟩
    dsimp only
    rw [normalized]
  rcases made with ⟨other, isMade, isFixedItems, isNormalized, isDigest⟩
  have header : (ProfileCall.import input).prepare = .ok input.input := by
    unfold ProfileCall.prepare validateImportHeader normalizeCustomProfileBase
    simp only [bind_ok_iff, require_ok_iff, pure_ok_iff]
    refine ⟨PUnit.unit, ⟨PUnit.unit, reimports.contract, PUnit.unit, reimports.mode, reimports.immutable⟩, ?_⟩
    rw [reimports.base, if_neg (by decide)]
    exact ⟨PUnit.unit, reimports.base, rfl⟩
  have valid : validateImportedMaterial input other = .ok PUnit.unit := by
    unfold validateImportedMaterial
    simp only [bind_ok_iff, require_ok_iff]
    rw [isFixed, isFixedItems, isDigest]
    exact ⟨PUnit.unit, (canonicalJson_same sameFixed).symm, digest⟩
  refine ⟨other, ?_, isNormalized, isDigest⟩
  unfold ProfileCall.materialize
  rw [header]
  change (materializeCustomProfile platform constraints input.input rows).bind _ = _
  rw [isMade]
  change ((validateImportedMaterial input other).mapError Failure.stable).bind _ = _
  rw [valid]
  rfl

end Export

/-! ## The identity of a profile -/

section Identity

variable {platform : ProfilePlatform} {constraints : Option ConstraintDocument} {rows : List ProfileRow}
  {material other : Material} {row : ProfileRow} {input prepared : ProfileInput} {record : ProfileRecord}

theorem find?_version (holds : TableHolds platform rows) (inside : row ∈ rows) :
    (rows.find? fun other => other.versionId = row.versionId) = some row := by
  cases isFound : rows.find? fun other => other.versionId = row.versionId with
  | none => exact absurd (decide_eq_true rfl) (List.find?_eq_none.mp isFound row inside)
  | some other =>
      have same := List.find?_some isFound
      rw [List.inj_on_of_nodup_map holds.versions (List.mem_of_find?_eq_some isFound) inside (of_decide_eq_true same)]

/-- A profile with a row is found exactly when no posted number is a negative zero. -/
theorem survives_iff (holds : TableHolds platform rows) (home : Home platform input material other record rows row)
    (materialized : (ProfileCall.create input).materialize platform constraints rows = .ok (prepared, material)) :
    Survives platform constraints input record rows ↔ input.Unsigned := by
  have sound := ProfileCall.materialize_sound materialized
  rcases ProfileCall.materialize_ok materialized with ⟨isPrepared, made⟩
  have named : validateProfileDisplayName input.displayName = .ok () := by
    simp only [ProfileCall.prepare, bind_ok_iff] at isPrepared
    rcases isPrepared with ⟨_, isNamed, _⟩
    exact isNamed
  have digest : row.normalizedSha256 = material.normalizedSha256 :=
    of_decide_eq_true (by have tested := List.find?_some home.found; exact tested)
  constructor
  · intro survives
    rcases survives.posted [] 0 0 input rfl rfl rfl named with ⟨found, isFound, _⟩
    rcases ProfileCall.perform_ok isFound with ⟨again, sameMaterial, isMaterial, outcome⟩
    rw [materialized] at isMaterial
    cases isMaterial
    rcases outcome with ⟨_, _, lookedUp⟩ | ⟨wrong, _⟩
    · unfold lookUpProfile at lookedUp
      rw [sound.base, exactCustomProfile_ok_iff sound.digest] at lookedUp
      rcases lookedUp with ⟨isRow, isHome, _, content, _⟩
      rw [home.found] at isHome
      rw [← home.content, Option.some.inj isHome]
      exact content
    · cases wrong
  · intro unsigned
    have lookedUp := (home.lookUp_iff sound.digest).mpr unsigned
    have whole := materializeCustomProfile_whole made sound.base
    have reads := home.stored.reads home.whole whole (home.content.mpr unsigned)
    have isDigest : row.record.normalizedSha256 = record.normalizedSha256 := digest.trans home.digest.symm
    refine ⟨fun versionId now clock again shared agents base isNamed => ?_, ?_⟩
    · have isMaterial := materialize_again materialized shared agents base isNamed
      exact ⟨row.record, ProfileCall.perform_found isMaterial lookedUp, home.version, isDigest⟩
    · rcases materializeCustomProfile_ok_iff.mp made with ⟨document, _, _, verified, _⟩
      rcases materialize_import made sound.base with ⟨overrides, areAgents, again⟩
      have found : getParameterProfile record.versionId rows = .ok row.record := by
        rw [getParameterProfile, ← home.version, find?_version holds (List.mem_of_find?_eq_some home.found)]
      refine ⟨marshal (profileResponse platform document row.record), _, ?_, unmarshal_marshal_collapse _, ?_⟩
      · rw [exportParameterProfile, found, ok_bind, verified]
        rfl
      · intro sent versionId now clock reorder
        have decoded := unmarshal_marshal_collapse (profileResponse platform document row.record)
        have sentDistinct := reorder.distinct (distinct_of_unmarshal decoded)
        rcases decodeImport_export home.stored.custom reads digest areAgents decoded reorder with ⟨imported, isImported, reimports⟩
        rcases again imported reimports with ⟨again, isAgain, normalized, sameDigest⟩
        refine ⟨row.record, ?_, home.version, isDigest⟩
        have body : unmarshal (print (sent.map Double.format)) = some sent := by
          rw [unmarshal_print finite?_format sentDistinct, Document.map_self]
        unfold importParameterProfile
        rw [body, Option.bind_some, isImported]
        refine (ok_bind _ _).trans ?_
        rw [require_of _ (by rw [reimports.mode]; decide), ok_bind]
        refine ProfileCall.perform_found isAgain ?_
        unfold lookUpProfile
        rw [normalized, sameDigest, reimports.base]
        exact lookedUp

end Identity

/-- The canonical text of an accepted profile survives storage exactly when no posted number is a
negative zero: then every later table finds the profile by its parameters and by its export. -/
theorem canonical_identity {platform : ProfilePlatform} {constraints : Option ConstraintDocument} {input : ProfileInput}
    {rows after later : List ProfileRow} {versionId : List Char} {now clock : Queue.Instant} {record : ProfileRecord}
    {found : Bool} {labels : List ProfileRequest} (reachable : (profileSystem platform).Reachable rows)
    (accepted : (ProfileCall.create input).perform platform constraints versionId now clock rows =
      .ok (after, record, found)) (run : (profileSystem platform).Run after labels later) :
    Survives platform constraints input record later ↔ input.Unsigned := by
  have holds := tableHolds_of_reachable reachable
  rcases home_of_accepted holds accepted with ⟨prepared, material, other, row, materialized, home⟩
  rcases home.later run with ⟨displayName, updatedAt, laterHome⟩
  have step : (profileSystem platform).step rows (.call constraints { call := .create input, versionId, now, clock }) after := by
    change after = ProfileRequest.execute platform _ rows
    unfold ProfileRequest.execute
    dsimp only
    rw [accepted]
  exact survives_iff ((holds.perform accepted).run run) laterHome (materialize_later (System.Run.cons step run) materialized)

/-! ## Canonical texts -/

/-- A canonical text is its own canonical text, and two texts have the same one exactly when they
differ in the order of members only. -/
theorem canonical_text_identity {text other : List Char} {value otherValue : Value}
    (decoded : unmarshal text = some value) (otherDecoded : unmarshal other = some otherValue) :
    (exists canonical, canonicalRaw text = some canonical ∧ canonicalRaw canonical = some canonical) ∧
      (canonicalRaw text = canonicalRaw other ↔ Same value otherValue) := by
  have distinct := distinct_of_unmarshal decoded
  have otherDistinct := distinct_of_unmarshal otherDecoded
  unfold canonicalRaw
  rw [decoded, otherDecoded, Option.map_some, Option.map_some, Option.some_inj]
  refine ⟨⟨canonicalJson value, rfl, ?_⟩, marshal_eq_iff distinct otherDistinct⟩
  rw [canonicalJson, unmarshal_marshal distinct, Option.map_some]
  exact congrArg some (marshal_reorder (reorder_sort byText value) distinct).symm

theorem canonical_text_identity_members :
    canonicalRaw (print (.object [("b".toList, .null), ("a".toList, .bool true)])) =
      canonicalRaw (print (.object [("a".toList, .bool true), ("b".toList, .null)])) := by
  have distinct : (Document.object [("b".toList, .null), ("a".toList, .bool true)] : Value).Distinct := by
    refine Distinct.object (by decide) fun member inside => ?_
    simp only [List.mem_cons, List.not_mem_nil, or_false] at inside
    rcases inside with rfl | rfl
    · exact Distinct.null
    · exact Distinct.bool true
  have otherDistinct : (Document.object [("a".toList, .bool true), ("b".toList, .null)] : Value).Distinct := by
    refine Distinct.object (by decide) fun member inside => ?_
    simp only [List.mem_cons, List.not_mem_nil, or_false] at inside
    rcases inside with rfl | rfl
    · exact Distinct.bool true
    · exact Distinct.null
  refine (canonical_text_identity (unmarshal_print finite?_format distinct)
    (unmarshal_print finite?_format otherDistinct)).2.mpr ?_
  exact congrArg Document.object (orderMembers_eq_of_perm (List.Perm.swap _ _ _) (by decide))

/-! ## The reference as a custom profile -/

/-- A constraint that the leaf satisfies. -/
def leafConstraint (leaf : List Char × Value) : List Char × Constraint :=
  (leaf.1, {
    type := match leaf.2 with
      | .bool _ => .boolean
      | .string _ => .string
      | _ => .number
    editable := !fixedPaths.contains leaf.1, nullable := true, minimum := none, maximum := none, allowedValues := none })

/-- Constraints that the parameters of the reference satisfy. -/
def referenceConstraints : ConstraintDocument where
  contractVersion := parametersContractVersion
  paths := ((flattenReference [] (.object referenceSharedParameters)).getD []).map leafConstraint
  distinct := by decide +kernel

theorem distinct_referenceShared : (Document.object referenceSharedParameters).Distinct :=
  referenceProfile_distinct.member (show member? "shared_parameters".toList _ = some _ from rfl)

/-- The parameters of the reference, without overrides. -/
def referenceInput : ProfileInput where
  displayName := "Line A".toList
  baseVersionId := []
  shared := some { members := referenceSharedParameters, distinct := distinct_referenceShared }
  agents := agentNumbers.map fun agent => { agent, segment := [], parameters := some ConstraintDocument.noParameters }

/-- The reference as it is read from the table. -/
def storedReference : Members :=
  match ((referenceProfile.sort byText).sort Jsonb.nameOrder).map Double.clearZero with
  | .object members => members
  | _ => []

/-- No text of the value has a null character. -/
def isClean (value : Value) : Bool :=
  !Jsonb.mentions (Char.ofNat 0) ((value.sort byText).map Double.format)

/-- The posted parameters are materialized from the reference in the table, and can be stored. -/
def materializes (stored : Members) : Bool :=
  match profileComponents stored with
  | none => false
  | some reference =>
      match referenceConstraints.materialize reference.shared reference.agents referenceInput.shared
          referenceInput.agents with
      | .error _ => false
      | .ok profile =>
          isClean (.object profile.shared) && isClean (.array profile.agents) && isClean (.object reference.fixed) &&
            isClean (customProfile referenceProfileVersionId profile.shared profile.agents reference.fixed)

theorem storedReference_materializes : materializes storedReference = true := by
  decide +kernel

/-- The parts of a row and the profile that is materialized from them. -/
theorem exists_materialized : exists reference profile, profileComponents storedReference = some reference ∧
    referenceConstraints.materialize reference.shared reference.agents referenceInput.shared referenceInput.agents =
      .ok profile ∧
    isClean (.object profile.shared) = true ∧ isClean (.array profile.agents) = true ∧
    isClean (.object reference.fixed) = true ∧
    isClean (customProfile referenceProfileVersionId profile.shared profile.agents reference.fixed) = true := by
  have held := storedReference_materializes
  unfold materializes at held
  split at held
  · cases held
  · next reference isReference =>
      split at held
      · cases held
      · next profile isProfile =>
          simp only [Bool.and_eq_true] at held
          exact ⟨reference, profile, isReference, isProfile, held.1.1.1, held.1.1.2, held.1.2, held.2⟩

theorem jsonbParameter_clean {value : Value} (clean : isClean value = true) :
    exists stored, jsonbParameter (marshal value) = .ok stored := by
  apply jsonbParameter_marshal
  unfold isClean at clean
  rw [Bool.not_eq_true'] at clean
  exact clean

/-- The seeded table has the reference. -/
theorem referenceProfileComponents_seeded {row : ProfileRow} (mode : row.mode = .reference) (immutable : row.immutable = true)
    (reference : ReferenceRow samplePlatform row) {components : ReferenceComponents}
    (isReference : profileComponents storedReference = some components) :
    referenceProfileComponents samplePlatform [row] = .ok components := by
  have decoded : unmarshal (Jsonb.text row.normalizedJson) = some (.object storedReference) :=
    Jsonb.unmarshal_text_eq referenceProfile_distinct reference.stored
  have members : rawJsonObject (Jsonb.text row.normalizedJson) = some storedReference := by
    rw [rawJsonObject, decoded]
  have canonical : canonicalJson (.object storedReference) = referenceNormalized := by
    have stable := referenceNormalized_stable _ reference.stored
    rw [canonicalRaw, decoded, Option.map_some] at stable
    exact Option.some.inj stable
  have shape : ((member? "contract_version".toList storedReference).any
        (fun value => valuesEqual value (.string parameterContractVersion)) &&
      (member? "mode".toList storedReference).any
        (fun value => valuesEqual value (.string RunMode.reference.text.toList)) &&
      match profileComponents storedReference with
      | none => false
      | some components =>
          components.shared ≠ [] && components.agents.length = 3 &&
            (["feature_state", "cleaning", "split", "trend"].all (hasGroup components.shared)) &&
            canonicalJson (.object referenceFixedItems) = canonicalJson (.object components.fixed)) = true := by
    decide +kernel
  have valid : validateReferenceProfile samplePlatform (Jsonb.text row.normalizedJson) row.normalizedSha256 = true := by
    rw [validateReferenceProfile, members]
    dsimp only
    rw [Bool.and_assoc, Bool.and_assoc, Bool.and_eq_true, ← Bool.and_assoc]
    refine ⟨decide_eq_true ?_, shape⟩
    rw [canonical, reference.digest]
  unfold referenceProfileComponents validatedReferenceProfile
  rw [List.find?_singleton, if_pos (by rw [reference.versionId, mode, immutable]; rfl)]
  dsimp only
  rw [require_of _ valid]
  change (((rawJsonObject (Jsonb.text row.normalizedJson)).bind profileComponents).elim _ Except.ok) = _
  rw [members, Option.bind_some, isReference]
  rfl

theorem referenceInput_unsigned : referenceInput.Unsigned := by
  have numbers := (allNumbers_iff (fun number : Double => !decide number.IsNegativeZero)
    (.object referenceSharedParameters)).mp (by decide +kernel)
  refine ⟨?_, ?_⟩
  · rintro object ⟨⟩
    exact numbers.imp fun number held => of_decide_eq_false (by rwa [Bool.not_eq_true'] at held)
  · intro agent inside object isObject
    rcases List.mem_map.mp inside with ⟨number, _, rfl⟩
    cases isObject
    exact Numbers.object fun _ wrong => (by cases wrong)

/-- A profile that is not in the table is inserted. -/
theorem perform_inserts {platform : ProfilePlatform} {constraints : Option ConstraintDocument} {input prepared : ProfileInput}
    {material : Material} {rows : List ProfileRow} {versionId : List Char} {now clock : Queue.Instant}
    (materialized : (ProfileCall.create input).materialize platform constraints rows = .ok (prepared, material))
    (absent : material.normalizedSha256 ∉ rows.map ProfileRow.normalizedSha256)
    (fresh : versionId ∉ rows.map ProfileRow.versionId)
    (base : referenceProfileVersionId ∈ rows.map ProfileRow.versionId)
    (named : Char.ofNat 0 ∉ prepared.displayName)
    (shared : exists stored, jsonbParameter (marshal (.object material.shared)) = .ok stored)
    (agents : exists stored, jsonbParameter (marshal (.array material.agents)) = .ok stored)
    (fixed : exists stored, jsonbParameter (marshal (.object material.fixed)) = .ok stored)
    (whole : exists stored, jsonbParameter material.normalized = .ok stored) :
    exists after record, (ProfileCall.create input).perform platform constraints versionId now clock rows =
      .ok (after, record, false) := by
  rcases shared with ⟨_, isShared⟩
  rcases agents with ⟨_, areAgents⟩
  rcases fixed with ⟨_, isFixed⟩
  rcases whole with ⟨_, isWhole⟩
  have isBase := (ProfileCall.materialize_sound materialized).base
  have lookedUp : exactCustomProfileByNormalized platform material.normalized material.normalizedSha256
      prepared.baseVersionId rows = .ok none := by
    have none : rows.find? (fun row => row.normalizedSha256 = material.normalizedSha256) = none :=
      List.find?_eq_none.mpr fun row inside same => absent (by
        rw [← of_decide_eq_true same]
        exact List.mem_map_of_mem inside)
    rw [exactCustomProfileByNormalized, none]
  have inserted : exists after, insertCustomProfile versionId prepared.displayName prepared.baseVersionId material now rows =
      .ok after := by
    unfold insertCustomProfile
    rw [require_of _ named, ok_bind, isShared, ok_bind, areAgents, ok_bind, isFixed, ok_bind, isWhole, ok_bind]
    unfold insertProfile
    rw [require_of _ ⟨rfl, fun wrong => (by cases wrong)⟩, ok_bind, require_of _ fresh, ok_bind, require_of _ absent, ok_bind,
      require_of _ (fun wrong => (by cases wrong)), ok_bind, require_of _ ?_, ok_bind]
    · exact ⟨_, rfl⟩
    · rintro other ⟨⟩
      rw [isBase, List.map_append]
      exact List.mem_append_left _ base
  rcases inserted with ⟨after, isInserted⟩
  refine ⟨after, createdRecord versionId prepared.displayName prepared.baseVersionId material clock, ?_⟩
  unfold ProfileCall.perform persistCustomProfile
  rw [materialized]
  dsimp only
  rw [lookedUp]
  dsimp only
  rw [isInserted]

theorem referenceInput_prepared : (ProfileCall.create referenceInput).prepare =
    .ok { referenceInput with baseVersionId := referenceProfileVersionId } := by
  have named : validateProfileDisplayName referenceInput.displayName = .ok PUnit.unit := by
    unfold validateProfileDisplayName
    rw [require_of _ (by decide +kernel), ok_bind, require_of _ (by decide +kernel)]
  rw [ProfileCall.prepare, named, ok_bind]
  rfl

theorem referenceConstraints_verified : verifyParameterConstraints (some referenceConstraints) = .ok referenceConstraints := by
  have valid : referenceConstraints.validateReference (.object referenceSharedParameters) = true := by decide +kernel
  rw [verifyParameterConstraints, require_of _ valid]
  rfl

theorem canonical_identity_sample : exists rows after record,
    (profileSystem samplePlatform).Reachable rows ∧
      (ProfileCall.create referenceInput).perform samplePlatform (some referenceConstraints) "pp_sample".toList 0 0 rows =
        .ok (after, record, false) ∧
      Survives samplePlatform (some referenceConstraints) referenceInput record after := by
  rcases exists_seed with ⟨rows, seeded⟩
  have reachable : (profileSystem samplePlatform).Reachable rows := System.Reachable.of_initial ⟨0, seeded⟩
  rcases seedReference_row seeded with ⟨row, rfl, mode, immutable, reference⟩
  rcases exists_materialized with ⟨components, profile, isComponents, isProfile, shared, agents, fixed, whole⟩
  have read := referenceProfileComponents_seeded mode immutable reference isComponents
  have made := materialize_create referenceInput_prepared ((@materializeCustomProfile_ok_iff _ _ _
    { referenceInput with baseVersionId := referenceProfileVersionId } _).mpr
      ⟨referenceConstraints, components, profile, referenceConstraints_verified, read, isProfile, rfl⟩)
  have accepted : exists after record, (ProfileCall.create referenceInput).perform samplePlatform
      (some referenceConstraints) "pp_sample".toList 0 0 [row] = .ok (after, record, false) := by
    refine perform_inserts made ?_ ?_ ?_ (by decide +kernel) (jsonbParameter_clean shared) (jsonbParameter_clean agents)
      (jsonbParameter_clean fixed) (jsonbParameter_clean whole)
    · rw [List.map_singleton, List.mem_singleton, reference.digest]
      exact custom_ne_reference _ _ _ _
    · rw [List.map_singleton, List.mem_singleton, reference.versionId]
      decide +kernel
    · rw [List.map_singleton, List.mem_singleton, reference.versionId]
  rcases accepted with ⟨after, record, done⟩
  exact ⟨_, after, record, reachable, done,
    (canonical_identity reachable done (System.Run.nil after)).mpr referenceInput_unsigned⟩

end Profiles
end FederatedIot
