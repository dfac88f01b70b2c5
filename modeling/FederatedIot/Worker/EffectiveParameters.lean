import FederatedIot.Frontend.ParameterView
import FederatedIot.Queue.Snapshot
import FederatedIot.Worker.Parameters

namespace FederatedIot
namespace Worker

open Foundation Foundation.Outcome

/-!
# One meaning of an override

The service, the worker and the browser each lay the sparse parameters of an
agent over the shared tree.  They do it in three ways, which differ on unknown
names, on nulls and on changes of shape.  On every tree that the worker accepts
the three results have the same paths and the same values.
-/

/-! ## Values -/

def asDict? : PyValue -> Option (List (String × PyValue))
  | .dict fields => some fields
  | _ => none

def asRecord? : JsValue -> Option (List (String × JsValue))
  | .object fields => some fields
  | _ => none

/-- The value of a frozen literal is the one the worker computes with: an integer
exactly, any other number as its double. -/
def FrozenValue : Json -> PyValue -> Prop
  | .null, .none => True
  | .bool left, .bool right => left = right
  | .string left, .str right => left = right
  | .number literal, .int number => literal.value = number
  | .number literal, .float number => Binary64.round literal.value = number
  | _, _ => False

/-- The value on display is the one the worker computes with, as a double. -/
def ShownValue : JsValue -> PyValue -> Prop
  | .null, .none => True
  | .boolean left, .bool right => left = right
  | .string left, .str right => left = right
  | .number shown, .int number => shown = Binary64.round number
  | .number shown, .float number => shown = number
  | _, _ => False

abbrev FrozenTree : Json -> PyValue -> Prop :=
  Fields.SameTree Json.asObject? asDict? FrozenValue

abbrev ShownTree : JsValue -> PyValue -> Prop :=
  Fields.SameTree asRecord? asDict? ShownValue

/-- What `_validate_value` makes of a value. -/
inductive Validated : PyValue -> PyValue -> Prop
  | none : Validated .none .none
  | bool (flag : Bool) : Validated (.bool flag) (.bool flag)
  | str (text : String) : Validated (.str text) (.str text)
  | int (number : Int) : Validated (.int number) (.int number)
  | ofInt (number : Int) : Validated (.int number) (.float (Binary64.round number))
  | float (number : Rat) : Validated (.float number) (.float number)

theorem finiteFloat_validated {value : PyValue} {field : String} {number : Rat}
    (accepted : finiteFloat value field = .ok number) : Validated value (.float number) := by
  cases value with
  | int whole =>
      rw [finiteFloat] at accepted
      split at accepted
      · cases accepted
      · cases accepted
        exact .ofInt whole
  | float real =>
      cases accepted
      exact .float _
  | none | bool _ | infinite _ | str _ | list _ | dict _ => cases accepted

theorem validatePresent_validated {value result : PyValue} {spec : FieldSpec} {field : String}
    (accepted : validatePresent value spec field = .ok result) : Validated value result := by
  unfold validatePresent at accepted
  cases kind : spec.kind with
  | boolean =>
      rw [kind] at accepted
      cases value with
      | bool flag =>
          simp only [bind_ok_iff, pure_ok_iff] at accepted
          rcases accepted with ⟨_, _, rfl⟩
          exact .bool flag
      | none | int _ | float _ | infinite _ | str _ | list _ | dict _ => cases accepted
  | string =>
      rw [kind] at accepted
      cases value with
      | str text =>
          simp only [bind_ok_iff, pure_ok_iff] at accepted
          rcases accepted with ⟨_, _, _, _, rfl⟩
          exact .str text
      | none | int _ | float _ | infinite _ | bool _ | list _ | dict _ => cases accepted
  | integer =>
      rw [kind] at accepted
      simp only [bind_ok_iff, pure_ok_iff] at accepted
      rcases accepted with ⟨number, found, rfl⟩
      cases value with
      | int whole =>
          simp only [integerOf, bind_ok_iff, pure_ok_iff] at found
          rcases found with ⟨_, _, _, _, rfl⟩
          exact .int whole
      | none | str _ | float _ | infinite _ | bool _ | list _ | dict _ => cases found
  | number =>
      rw [kind] at accepted
      simp only [numberOf, bind_ok_iff, pure_ok_iff] at accepted
      rcases accepted with ⟨number, ⟨_, converted, _, _, _, _, rfl⟩, rfl⟩
      exact finiteFloat_validated converted

theorem validateValue_validated {value result : PyValue} {spec : FieldSpec} {field : String}
    (accepted : validateValue value spec field = .ok result) : Validated value result := by
  cases value with
  | none =>
      rw [validateValue] at accepted
      split at accepted
      · cases accepted
        exact .none
      · cases accepted
  | bool _ | int _ | float _ | infinite _ | str _ | list _ | dict _ => exact validatePresent_validated accepted

theorem Validated.trans {first second third : PyValue} (before : Validated first second)
    (after : Validated second third) : Validated first third := by
  cases before with
  | none => exact after
  | bool flag => exact after
  | str text => exact after
  | int number => exact after
  | float number => exact after
  | ofInt number =>
      cases after
      exact .ofInt number

/-- A literal is frozen with the value that the worker reads from it. -/
theorem frozenValue_of_validated {literal : Json} {value : PyValue}
    (validated : Validated literal.loads value) :
    FrozenValue literal value ∧ literal.asObject? = none ∧ asDict? value = none := by
  cases literal with
  | null =>
      cases validated
      exact ⟨trivial, rfl, rfl⟩
  | bool flag =>
      cases validated
      exact ⟨rfl, rfl, rfl⟩
  | string text =>
      cases validated
      exact ⟨rfl, rfl, rfl⟩
  | array items => cases validated
  | object fields => cases validated
  | number digits =>
      rw [Json.loads, Decimal.loads] at validated
      split at validated
      · rename_i whole
        have value := Decimal.value_of_scale_zero whole
        cases validated with
        | int number => exact ⟨value, rfl, rfl⟩
        | ofInt number => exact ⟨congrArg Binary64.round value, rfl, rfl⟩
      · split at validated
        · cases validated
        · cases validated
          exact ⟨rfl, rfl, rfl⟩

/-- A literal in the range of the doubles is shown with the value that the worker
reads from it. -/
theorem shownValue_of_validated {literal : Json} {value : PyValue} (formed : literal.wellFormed = true)
    (validated : Validated literal.loads value) :
    ShownValue (Frontend.cloneJson literal.parse) value ∧
      asRecord? (Frontend.cloneJson literal.parse) = none ∧ asDict? value = none := by
  cases literal with
  | null =>
      cases validated
      exact ⟨trivial, rfl, rfl⟩
  | bool flag =>
      cases validated
      exact ⟨rfl, rfl, rfl⟩
  | string text =>
      cases validated
      exact ⟨rfl, rfl, rfl⟩
  | array items => cases validated
  | object fields => cases validated
  | number digits =>
      rw [Json.wellFormed, Bool.not_eq_true'] at formed
      have parsed : Frontend.cloneJson (Json.number digits).parse = .number (Binary64.round digits.value) := by
        rw [Json.parse, Decimal.parse, formed]
        rfl
      rw [parsed]
      rw [Json.loads, Decimal.loads, formed] at validated
      split at validated
      · rename_i whole
        have same := Decimal.value_of_scale_zero whole
        cases validated with
        | int number => exact ⟨congrArg Binary64.round same, rfl, rfl⟩
        | ofInt number => exact ⟨congrArg Binary64.round same, rfl, rfl⟩
      · cases validated
        exact ⟨rfl, rfl, rfl⟩

/-! ## What the worker accepts -/

theorem missingFrom_eq_nil_iff {left right : List String} :
    missingFrom left right = [] ↔ ∀ name ∈ left, name ∈ right := by
  have perm := List.perm_insertionSort (· ≤ ·) ((left.filter fun name => name ∉ right).dedup)
  have empty : missingFrom left right = [] ↔ (left.filter fun name => name ∉ right) = [] := by
    rw [missingFrom]
    constructor
    · intro sorted
      rw [sorted] at perm
      exact (List.dedup_eq_nil _).mp (List.perm_nil.mp perm.symm)
    · intro nothing
      rw [nothing]
      rfl
  rw [empty, List.filter_eq_nil_iff]
  simp only [decide_not, Bool.not_eq_true', decide_eq_false_iff_not, not_not]

theorem exactKeys_ok {α β : Type} {value : List (String × α)} {expected : List (String × β)} {field : String}
    (accepted : exactKeys value expected field = .ok Unit.unit) :
    forall name, name ∈ Fields.names value ↔ name ∈ Fields.names expected := by
  simp only [exactKeys, bind_ok_iff, require_ok_iff, exists_const, missingFrom_eq_nil_iff] at accepted
  exact fun name => ⟨accepted.2 name, accepted.1 name⟩

theorem objectOf_ok {value : PyValue} {field : String} {fields : List (String × PyValue)}
    (accepted : objectOf value field = .ok fields) : value = .dict fields := by
  cases value with
  | dict others =>
      cases accepted
      rfl
  | none | str _ | float _ | infinite _ | bool _ | list _ | int _ => cases accepted

/-- A value that is read as an object is stored under its name. -/
theorem lookup_of_get {name : String} {fields group : List (String × PyValue)}
    (found : get name fields = .dict group) : Fields.lookup name fields = some (.dict group) := by
  rw [get] at found
  cases stored : Fields.lookup name fields with
  | none =>
      rw [stored] at found
      cases found
  | some value =>
      rw [stored] at found
      exact congrArg some found

/-- The leaves of a group after their validation. -/
structure ValidatedLeaves (value leaves : List (String × PyValue)) : Prop where
  names : forall name, name ∈ Fields.names value ↔ name ∈ Fields.names leaves
  leaf : forall name raw, Fields.lookup name value = some raw ->
    ∃ result, Fields.lookup name leaves = some result ∧ Validated raw result

theorem validatedGroup_ok {value : List (String × PyValue)} {field : String}
    {group : String × List (String × FieldSpec)} {result : String × PyValue}
    (accepted : validatedGroup value field group = .ok result) :
    result.1 = group.1 ∧ ∃ groupValue leaves, Fields.lookup group.1 value = some (.dict groupValue) ∧
      result.2 = .dict leaves ∧ ValidatedLeaves groupValue leaves := by
  simp only [validatedGroup, bind_ok_iff, pure_ok_iff] at accepted
  rcases accepted with ⟨groupValue, isObject, _, keys, leaves, converted, rfl⟩
  have sameNames := exactKeys_ok keys
  have named : forall (entry : String × FieldSpec) (leaf : String × PyValue),
      (do
        let validated ← validateValue (get entry.1 groupValue) entry.2
          (field ++ "." ++ group.1 ++ "." ++ entry.1)
        return (entry.1, validated)) = Except.ok leaf -> leaf.1 = entry.1 := by
    intro entry leaf done
    simp only [bind_ok_iff, pure_ok_iff] at done
    rcases done with ⟨_, _, rfl⟩
    rfl
  rcases Fields.lookup_mapM named converted with ⟨leafNames, leafFound⟩
  refine ⟨rfl, groupValue, leaves, lookup_of_get (objectOf_ok isObject), rfl, ⟨?_, ?_⟩⟩
  · intro name
    rw [leafNames]
    exact sameNames name
  · intro name raw found
    have expected := (sameNames name).mp (Fields.exists_lookup_iff.mp ⟨raw, found⟩)
    rcases Fields.exists_lookup_iff.mpr expected with ⟨spec, isSpec⟩
    rcases leafFound name spec isSpec with ⟨result, isLeaf, done⟩
    simp only [bind_ok_iff, pure_ok_iff, Prod.mk.injEq] at done
    rcases done with ⟨validated, validates, _, rfl⟩
    rw [get, found] at validates
    exact ⟨validated, isLeaf, validateValue_validated validates⟩

/-- A validated tree has the groups of the value and their validated leaves. -/
theorem validatedParameterTree_ok {value tree : List (String × PyValue)} {field : String}
    (accepted : validatedParameterTree value field = .ok tree) :
    (forall name, name ∈ Fields.names value ↔ name ∈ Fields.names tree) ∧
      ∀ name ∈ Fields.names tree, ∃ groupValue leaves, Fields.lookup name value = some (.dict groupValue) ∧
        Fields.lookup name tree = some (.dict leaves) ∧ ValidatedLeaves groupValue leaves := by
  simp only [validatedParameterTree, bind_ok_iff, pure_ok_iff] at accepted
  rcases accepted with ⟨_, keys, validated, converted, _, _, rfl⟩
  rcases Fields.lookup_mapM (fun group result done => (validatedGroup_ok done).1) converted with
    ⟨groupNames, groupFound⟩
  refine ⟨fun name => (exactKeys_ok keys name).trans (by rw [groupNames]), ?_⟩
  intro name member
  rw [groupNames] at member
  rcases Fields.exists_lookup_iff.mpr member with ⟨specs, isSpec⟩
  rcases groupFound name specs isSpec with ⟨result, isGroup, done⟩
  rcases validatedGroup_ok done with ⟨_, groupValue, leaves, stored, same, leavesValidated⟩
  exact ⟨groupValue, leaves, stored, isGroup.trans (congrArg some same), leavesValidated⟩

/-! ## The merge of the worker -/

theorem knownKeys_ok {base override : List (String × PyValue)} {field : String}
    (accepted : knownKeys base override field = .ok Unit.unit) :
    ∀ name ∈ Fields.names override, name ∈ Fields.names base := by
  rw [knownKeys, require_ok_iff, missingFrom_eq_nil_iff] at accepted
  exact accepted

/-- The merge keeps the names of the base. -/
theorem mergeFields_ok {override base merged : List (String × PyValue)} {field : String}
    (accepted : mergeFields override field base = .ok merged) :
    Fields.names merged = Fields.names base ∧ forall name value, Fields.lookup name base = some value ->
      ∃ result, Fields.lookup name merged = some result ∧
        ∃ path, mergeValue value (Fields.lookup name override) path = .ok result := by
  induction base generalizing merged with
  | nil =>
      cases accepted
      exact ⟨rfl, fun _ _ impossible => (by cases impossible)⟩
  | cons head tail inductionHypothesis =>
      simp only [mergeFields, bind_ok_iff, pure_ok_iff] at accepted
      rcases accepted with ⟨first, firstMerged, others, othersMerged, rfl⟩
      rcases inductionHypothesis othersMerged with ⟨otherNames, otherFound⟩
      constructor
      · rw [Fields.names, Fields.names, List.map_cons, List.map_cons]
        exact congrArg _ otherNames
      · intro name value found
        rw [Fields.lookup_cons] at found ⊢
        by_cases same : head.1 = name
        · rw [if_pos same] at found ⊢
          rw [← Option.some.inj found, ← same]
          exact ⟨first, rfl, _, firstMerged⟩
        · rw [if_neg same] at found ⊢
          exact otherFound name value found

theorem mergeValue_leaf {base : PyValue} {override : Option PyValue} {field : String}
    (isLeaf : asDict? base = none) : mergeValue base override field = .ok (override.getD base) := by
  cases base with
  | dict fields => cases isLeaf
  | none | str _ | float _ | infinite _ | bool _ | list _ | int _ => cases override <;> rfl

theorem validated_isLeaf {value result : PyValue} (validated : Validated value result) : asDict? result = none := by
  cases validated <;> rfl

/-- The leaves of a group of the merged tree: those of the override, and those of
the shared group elsewhere. -/
structure AcceptedLeaves (shared override : List (String × Json)) (leaves : List (String × PyValue)) : Prop where
  known : ∀ name ∈ Fields.names override, name ∈ Fields.names shared
  absent : forall name, Fields.lookup name shared = none -> Fields.lookup name leaves = none
  leaf : forall name value, Fields.lookup name shared = some value ->
    (∃ result, Validated value.loads result) ∧ ∃ result, Fields.lookup name leaves = some result ∧
      Validated ((Fields.lookup name override).getD value).loads result

/-- The groups of the merged tree. -/
structure AcceptedGroups (shared override : List (String × Json)) (tree : List (String × PyValue)) : Prop where
  known : ∀ name ∈ Fields.names override, name ∈ Fields.names shared
  absent : forall name, Fields.lookup name shared = none -> Fields.lookup name tree = none
  group : forall name value, Fields.lookup name shared = some value ->
    ∃ sharedGroup leaves, value = .object sharedGroup ∧ Fields.lookup name tree = some (.dict leaves) ∧
      (Fields.lookup name override = none -> AcceptedLeaves sharedGroup [] leaves) ∧
      (forall added, Fields.lookup name override = some added ->
        ∃ addedGroup, added = .object addedGroup ∧ AcceptedLeaves sharedGroup addedGroup leaves)

/-- One group, from the validated shared leaves to the validated merged ones. -/
theorem acceptedLeaves_of_merge {shared override : List (String × Json)}
    {sharedLeaves merged leaves : List (String × PyValue)} {field : String}
    (sharedValidated : ValidatedLeaves (Fields.mapValues Json.loads shared) sharedLeaves)
    (known : ∀ name ∈ Fields.names (Fields.mapValues Json.loads override), name ∈ Fields.names sharedLeaves)
    (merges : mergeFields (Fields.mapValues Json.loads override) field sharedLeaves = .ok merged)
    (validated : ValidatedLeaves merged leaves) : AcceptedLeaves shared override leaves := by
  rcases mergeFields_ok merges with ⟨mergedNames, mergedFound⟩
  have sharedNames : forall name, name ∈ Fields.names shared ↔ name ∈ Fields.names sharedLeaves := by
    intro name
    rw [← sharedValidated.names, Fields.names_mapValues]
  refine ⟨?_, ?_, ?_⟩
  · intro name member
    rw [Fields.names_mapValues] at known
    exact (sharedNames name).mpr (known name member)
  · intro name missing
    rw [Fields.lookup_eq_none_iff] at missing ⊢
    rw [← validated.names, mergedNames, ← sharedNames]
    exact missing
  · intro name value found
    have raw : Fields.lookup name (Fields.mapValues Json.loads shared) = some value.loads := by
      rw [Fields.lookup_mapValues, found]
      rfl
    rcases sharedValidated.leaf name _ raw with ⟨sharedLeaf, isShared, sharedIs⟩
    rcases mergedFound name sharedLeaf isShared with ⟨mergedLeaf, isMerged, path, taken⟩
    rcases validated.leaf name mergedLeaf isMerged with ⟨result, isLeaf, resultIs⟩
    rw [mergeValue_leaf (validated_isLeaf sharedIs), Fields.lookup_mapValues] at taken
    refine ⟨⟨sharedLeaf, sharedIs⟩, result, isLeaf, ?_⟩
    cases overridden : Fields.lookup name override with
    | none =>
        rw [overridden] at taken
        rw [← Except.ok.inj taken] at resultIs
        exact sharedIs.trans resultIs
    | some added =>
        rw [overridden] at taken
        rw [← Except.ok.inj taken] at resultIs
        exact resultIs

theorem loads_eq_dict {value : Json} {fields : List (String × PyValue)} (same : value.loads = .dict fields) :
    ∃ objectFields, value = .object objectFields ∧ fields = Fields.mapValues Json.loads objectFields := by
  cases value with
  | object objectFields =>
      refine ⟨objectFields, rfl, ?_⟩
      rw [← Json.loadsFields_eq]
      exact (PyValue.dict.inj same).symm
  | number digits =>
      rw [Json.loads, Decimal.loads] at same
      split at same
      · cases same
      · split at same <;> cases same
  | null | bool _ | string _ | array _ => cases same

/-- What the worker accepts is an override of known leaves by values, and the
tree it computes with has the overridden leaves. -/
theorem acceptedGroups {shared override : List (String × Json)}
    {sharedTree merged tree : List (String × PyValue)} {sharedField field : String}
    (sharedAccepted : validatedParameterTree (Fields.mapValues Json.loads shared) sharedField = .ok sharedTree)
    (merges : deepMerge sharedTree (Fields.mapValues Json.loads override) field = .ok merged)
    (accepted : validatedParameterTree merged field = .ok tree) : AcceptedGroups shared override tree := by
  simp only [deepMerge, bind_ok_iff] at merges
  rcases merges with ⟨_, keys, merges⟩
  have known := knownKeys_ok keys
  rcases validatedParameterTree_ok sharedAccepted with ⟨sharedNames, sharedGroups⟩
  rcases validatedParameterTree_ok accepted with ⟨treeNames, treeGroups⟩
  rcases mergeFields_ok merges with ⟨mergedNames, mergedFound⟩
  have names : forall name, name ∈ Fields.names shared ↔ name ∈ Fields.names sharedTree := by
    intro name
    rw [← sharedNames, Fields.names_mapValues]
  refine ⟨?_, ?_, ?_⟩
  · intro name member
    rw [Fields.names_mapValues] at known
    exact (names name).mpr (known name member)
  · intro name missing
    rw [Fields.lookup_eq_none_iff] at missing ⊢
    rw [← treeNames, mergedNames, ← names]
    exact missing
  · intro name value found
    have member := (names name).mp (Fields.exists_lookup_iff.mp ⟨value, found⟩)
    rcases sharedGroups name member with ⟨groupValue, sharedLeaves, stored, isShared, sharedValidated⟩
    rw [Fields.lookup_mapValues, found] at stored
    rcases loads_eq_dict (Option.some.inj stored) with ⟨sharedGroup, rfl, rfl⟩
    rcases mergedFound name _ isShared with ⟨mergedGroup, isMerged, path, taken⟩
    have inTree : name ∈ Fields.names tree := (treeNames name).mp (Fields.exists_lookup_iff.mp ⟨_, isMerged⟩)
    rcases treeGroups name inTree with ⟨mergedValue, leaves, isMergedValue, isTree, validated⟩
    rw [isMerged] at isMergedValue
    rw [Option.some.inj isMergedValue, Fields.lookup_mapValues] at taken
    refine ⟨sharedGroup, leaves, rfl, isTree, ?_, ?_⟩
    · intro absent
      rw [absent, Option.map_none] at taken
      simp only [mergeValue, bind_ok_iff, pure_ok_iff, PyValue.dict.injEq] at taken
      rcases taken with ⟨_, groupMerges, rfl⟩
      exact @acceptedLeaves_of_merge sharedGroup [] _ _ _ _ sharedValidated (fun _ impossible => (by cases impossible))
        groupMerges validated
    · intro added overridden
      rw [overridden, Option.map_some] at taken
      cases loaded : added.loads with
      | dict fields =>
          rcases loads_eq_dict loaded with ⟨addedGroup, rfl, rfl⟩
          rw [loaded] at taken
          simp only [mergeValue, bind_ok_iff, pure_ok_iff, PyValue.dict.injEq] at taken
          rcases taken with ⟨_, groupKeys, _, groupMerges, rfl⟩
          exact ⟨addedGroup, rfl, acceptedLeaves_of_merge sharedValidated (knownKeys_ok groupKeys) groupMerges
            validated⟩
      | none | str _ | float _ | infinite _ | bool _ | list _ | int _ =>
          rw [loaded] at taken
          cases taken

/-! ## The frozen tree -/

/-- One turn of the loop in `mergeParameterMaps`. -/
def combineFrozen : Option Json -> Json -> Except String Json
  | none, _ => .error "stored Agent override has an unknown parameter path"
  | some baseValue, override => Queue.mergeParameter baseValue override

theorem mergeParameterMaps_eq (base override : List (String × Json)) :
    Queue.mergeParameterMaps base override = Fields.overlay combineFrozen base override := by
  induction override generalizing base with
  | nil => rfl
  | cons head tail inductionHypothesis =>
      rw [Queue.mergeParameterMaps, Fields.overlay]
      rw [show Json.lookup head.1 base = Fields.lookup head.1 base from rfl]
      cases Fields.lookup head.1 base with
      | none => rfl
      | some baseValue =>
          simp only [combineFrozen]
          cases Queue.mergeParameter baseValue head.2 with
          | error message => rfl
          | ok merged =>
              change Queue.mergeParameterMaps (Json.setField head.1 merged base) tail = _
              rw [Json.setField_eq]
              exact inductionHypothesis _

theorem mergeParameter_leaf {base override : Json} (baseLeaf : base.asObject? = none)
    (overrideLeaf : override.asObject? = none) : Queue.mergeParameter base override = .ok override := by
  cases override with
  | object fields => cases overrideLeaf
  | null | bool _ | number _ | string _ | array _ =>
      cases base with
      | object fields => cases baseLeaf
      | null | bool _ | number _ | string _ | array _ => rfl

theorem frozen_leaves {shared override : List (String × Json)} {leaves : List (String × PyValue)}
    (accepted : AcceptedLeaves shared override leaves) (distinct : (Fields.names override).Nodup) :
    ∃ merged, Queue.mergeParameterMaps shared override = .ok merged ∧ forall name,
      Option.Rel FrozenTree (Fields.lookup name merged) (Fields.lookup name leaves) := by
  rw [mergeParameterMaps_eq]
  apply Fields.overlay_sameTree distinct accepted.known accepted.absent
  · intro name value found missing
    rcases accepted.leaf name value found with ⟨_, result, isLeaf, validated⟩
    rw [missing] at validated
    rcases frozenValue_of_validated validated with ⟨same, valueLeaf, resultLeaf⟩
    exact ⟨result, isLeaf, Fields.sameTree_of_leaf valueLeaf resultLeaf same⟩
  · intro name value added found overridden
    rcases accepted.leaf name value found with ⟨⟨_, sharedIs⟩, result, isLeaf, validated⟩
    rw [overridden] at validated
    rcases frozenValue_of_validated validated with ⟨same, addedLeaf, resultLeaf⟩
    exact ⟨added, result, mergeParameter_leaf (frozenValue_of_validated sharedIs).2.1 addedLeaf, isLeaf,
      Fields.sameTree_of_leaf addedLeaf resultLeaf same⟩

/-- The merge of the service accepts what the worker accepts, with the same tree. -/
theorem frozen_groups {shared override : List (String × Json)} {tree : List (String × PyValue)}
    (accepted : AcceptedGroups shared override tree) (formed : (Json.object override).wellFormed = true) :
    ∃ merged, Queue.mergeParameterMaps shared override = .ok merged ∧
      FrozenTree (.object merged) (.dict tree) := by
  have trees : ∃ merged, Queue.mergeParameterMaps shared override = .ok merged ∧ forall name,
      Option.Rel FrozenTree (Fields.lookup name merged) (Fields.lookup name tree) := by
    rw [mergeParameterMaps_eq]
    apply Fields.overlay_sameTree (Json.wellFormed_object formed).1 accepted.known accepted.absent
    · intro name value found missing
      rcases accepted.group name value found with ⟨sharedGroup, leaves, rfl, isGroup, inherited, _⟩
      rcases frozen_leaves (inherited missing) List.nodup_nil with ⟨merged, done, agree⟩
      cases done
      exact ⟨.dict leaves, isGroup, Fields.sameTree_of_fields rfl rfl agree⟩
    · intro name value added found overridden
      rcases accepted.group name value found with ⟨sharedGroup, leaves, rfl, isGroup, _, overlaid⟩
      rcases overlaid added overridden with ⟨addedGroup, rfl, leavesAccepted⟩
      have addedFormed := Json.wellFormed_object (Json.wellFormed_lookup formed overridden)
      rcases frozen_leaves leavesAccepted addedFormed.1 with ⟨merged, done, agree⟩
      refine ⟨.object merged, .dict leaves, ?_, isGroup, Fields.sameTree_of_fields rfl rfl agree⟩
      rw [combineFrozen, Queue.mergeParameter, done]
  rcases trees with ⟨merged, done, agree⟩
  exact ⟨merged, done, Fields.sameTree_of_fields rfl rfl agree⟩

/-! ## The tree on display -/

/-- A value as the clone of the shared tree holds it. -/
def shown (value : Json) : JsValue :=
  Frontend.cloneJson value.parse

theorem cloneFields_shown (fields : List (String × Json)) :
    Frontend.cloneFields (Fields.mapValues shown fields) = Fields.mapValues shown fields := by
  rw [Frontend.cloneFields_eq, Fields.mapValues_mapValues]
  refine congrArg (fun rewrite => Fields.mapValues rewrite fields) (funext fun value => ?_)
  exact Frontend.cloneJson_cloneJson value.parse

theorem shown_object (fields : List (String × Json)) :
    shown (.object fields) = .object (Fields.mapValues shown fields) := by
  rw [shown, Json.parse, Json.parseFields_eq, Frontend.cloneJson, Frontend.cloneFields_eq,
    Fields.mapValues_mapValues]
  rfl

theorem mergeParameterEntry_leaf {current : Option JsValue} {value : Json} (isLeaf : value.asObject? = none) :
    Frontend.mergeParameterEntry current value.parse = .ok (shown value) := by
  cases value with
  | object fields => cases isLeaf
  | number digits =>
      rw [shown, Json.parse, Decimal.parse]
      split <;> rfl
  | null | bool _ | string _ | array _ => rfl

theorem shown_leaves {shared override : List (String × Json)} {leaves : List (String × PyValue)}
    (accepted : AcceptedLeaves shared override leaves) (sharedFormed : (Json.object shared).wellFormed = true)
    (formed : (Json.object override).wellFormed = true) :
    ∃ merged, Frontend.mergeParameterEntries (Fields.mapValues shown shared)
        (Fields.mapValues Json.parse override) = .ok merged ∧ forall name,
      Option.Rel ShownTree (Fields.lookup name merged) (Fields.lookup name leaves) := by
  rw [Frontend.mergeParameterEntries_eq]
  apply Fields.overlay_sameTree
  · rw [Fields.names_mapValues]
    exact (Json.wellFormed_object formed).1
  · rw [Fields.names_mapValues, Fields.names_mapValues]
    exact accepted.known
  · intro name missing
    rw [Fields.lookup_mapValues, Option.map_eq_none_iff] at missing
    exact accepted.absent name missing
  · intro name value found missing
    rw [Fields.lookup_mapValues] at found missing
    rcases Option.map_eq_some_iff.mp found with ⟨raw, isRaw, rfl⟩
    rcases accepted.leaf name raw isRaw with ⟨_, result, isLeaf, validated⟩
    rw [Option.map_eq_none_iff.mp missing] at validated
    rcases shownValue_of_validated (Json.wellFormed_lookup sharedFormed isRaw) validated with
      ⟨same, valueLeaf, resultLeaf⟩
    exact ⟨result, isLeaf, Fields.sameTree_of_leaf valueLeaf resultLeaf same⟩
  · intro name value added found overridden
    rw [Fields.lookup_mapValues] at found overridden
    rcases Option.map_eq_some_iff.mp found with ⟨raw, isRaw, rfl⟩
    rcases Option.map_eq_some_iff.mp overridden with ⟨rawAdded, isAdded, rfl⟩
    rcases accepted.leaf name raw isRaw with ⟨_, result, isLeaf, validated⟩
    rw [isAdded] at validated
    rcases shownValue_of_validated (Json.wellFormed_lookup formed isAdded) validated with
      ⟨same, valueLeaf, resultLeaf⟩
    exact ⟨shown rawAdded, result, mergeParameterEntry_leaf (frozenValue_of_validated validated).2.1, isLeaf,
      Fields.sameTree_of_leaf valueLeaf resultLeaf same⟩

/-- The browser shows the same tree. -/
theorem shown_groups {shared override : List (String × Json)} {tree : List (String × PyValue)}
    (accepted : AcceptedGroups shared override tree) (sharedFormed : (Json.object shared).wellFormed = true)
    (formed : (Json.object override).wellFormed = true) :
    ∃ merged, Frontend.mergeParameterValues (some (Json.object shared).parse)
        (Fields.mapValues Json.parse override) = .ok merged ∧ ShownTree merged (.dict tree) := by
  have trees : ∃ merged, Frontend.mergeParameterEntries (Fields.mapValues shown shared)
      (Fields.mapValues Json.parse override) = .ok merged ∧ forall name,
        Option.Rel ShownTree (Fields.lookup name merged) (Fields.lookup name tree) := by
    rw [Frontend.mergeParameterEntries_eq]
    apply Fields.overlay_sameTree
    · rw [Fields.names_mapValues]
      exact (Json.wellFormed_object formed).1
    · rw [Fields.names_mapValues, Fields.names_mapValues]
      exact accepted.known
    · intro name missing
      rw [Fields.lookup_mapValues, Option.map_eq_none_iff] at missing
      exact accepted.absent name missing
    · intro name value found missing
      rw [Fields.lookup_mapValues] at found missing
      rcases Option.map_eq_some_iff.mp found with ⟨raw, isRaw, rfl⟩
      rcases accepted.group name raw isRaw with ⟨sharedGroup, leaves, rfl, isGroup, inherited, _⟩
      rcases shown_leaves (inherited (Option.map_eq_none_iff.mp missing))
        (Json.wellFormed_lookup sharedFormed isRaw) rfl with ⟨merged, done, agree⟩
      cases done
      exact ⟨.dict leaves, isGroup, Fields.sameTree_of_fields (congrArg asRecord? (shown_object sharedGroup)) rfl
        agree⟩
    · intro name value added found overridden
      rw [Fields.lookup_mapValues] at found overridden
      rcases Option.map_eq_some_iff.mp found with ⟨raw, isRaw, rfl⟩
      rcases Option.map_eq_some_iff.mp overridden with ⟨rawAdded, isAdded, rfl⟩
      rcases accepted.group name raw isRaw with ⟨sharedGroup, leaves, rfl, isGroup, _, overlaid⟩
      rcases overlaid rawAdded isAdded with ⟨addedGroup, rfl, leavesAccepted⟩
      rcases shown_leaves leavesAccepted (Json.wellFormed_lookup sharedFormed isRaw)
        (Json.wellFormed_lookup formed isAdded) with ⟨merged, done, agree⟩
      refine ⟨.object merged, .dict leaves, ?_, isGroup, Fields.sameTree_of_fields rfl rfl agree⟩
      rw [shown_object, Json.parse, Json.parseFields_eq]
      exact Frontend.mergeParameterEntry_object (congrArg some (cloneFields_shown sharedGroup)) done
  rcases trees with ⟨merged, done, agree⟩
  refine ⟨.object merged, ?_, Fields.sameTree_of_fields rfl rfl agree⟩
  have target : Frontend.mergeTarget (some (Json.object shared).parse) = some (Fields.mapValues shown shared) := by
    rw [Json.parse, Json.parseFields_eq, Frontend.mergeTarget, Frontend.cloneFields_eq,
      Fields.mapValues_mapValues]
    rfl
  exact Frontend.mergeParameterEntry_object target done

end Worker
end FederatedIot
