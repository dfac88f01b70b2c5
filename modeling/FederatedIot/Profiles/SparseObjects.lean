import FederatedIot.Profiles.CompleteObjects

namespace FederatedIot
namespace Profiles

open Foundation Foundation.JsonText Foundation.JsonText.Document Foundation.Outcome

/-!
# Sparse objects

A sparse object is accepted when each of its leaves is an editable leaf of the reference
and fits, and it is kept as it is.  The path of a leaf is cut from the text of the field of
its group.  For the group at the top that text ends with the marker, and the slice behind
the marker fails.
-/

/-! ## Fields of an agent -/

/-- The field of a group, by its names, below a text without a dot. -/
def overrideField (base : List Char) (names : List (List Char)) : List Char :=
  base ++ (parametersMarker ++ dots names)

theorem overrideField_member (base : List Char) (names : List (List Char)) (key : List Char) :
    overrideField base names ++ '.' :: key = overrideField base (names ++ [key]) := by
  have last : dots [key] = '.' :: key := List.append_nil _
  unfold overrideField
  rw [dots_append, last, List.append_assoc, List.append_assoc]

/-- The marker is found behind a text without a dot. -/
theorem indexOf_marker {base : List Char} (plain : '.' ∉ base) (rest : List Char) :
    indexOf (base ++ (parametersMarker ++ rest)) parametersMarker = some base.length := by
  unfold indexOf
  rw [List.find?_range_eq_some]
  refine ⟨?_, ?_, ?_⟩
  · rw [decide_eq_true_eq, List.drop_left]
    exact List.prefix_append _ _
  · rw [List.mem_range, List.length_append]
    omega
  · intro index earlier
    rw [Bool.not_eq_true', decide_eq_false_iff_not, List.drop_append_of_le_length (Nat.le_of_lt earlier)]
    intro isPrefix
    have drop : base.drop index = base[index] :: base.drop (index + 1) := List.drop_eq_getElem_cons earlier
    rw [drop, List.cons_append, show parametersMarker = '.' :: "parameters".toList from rfl,
      List.cons_prefix_cons] at isPrefix
    exact plain (by rw [isPrefix.1]; exact List.getElem_mem _)

theorem agentParameterPrefix_top {base : List Char} (plain : '.' ∉ base) :
    agentParameterPrefix (overrideField base []) = none := by
  have length : (overrideField base []).length = base.length + parametersMarker.length := by
    rw [overrideField, List.length_append, List.length_append]
    rfl
  unfold agentParameterPrefix
  rw [show indexOf (overrideField base []) parametersMarker = some base.length from indexOf_marker plain _]
  dsimp only
  rw [if_neg (by omega)]

theorem agentParameterPrefix_below {base : List Char} (plain : '.' ∉ base) {names : List (List Char)}
    (nonempty : names ≠ []) :
    agentParameterPrefix (overrideField base names) = some (base ++ (parametersMarker ++ ['.'])) := by
  have split : overrideField base names = (base ++ (parametersMarker ++ ['.'])) ++ dotted names := by
    rw [overrideField, dots_eq_cons nonempty, List.append_assoc, List.append_assoc]
    rfl
  have length : (base ++ (parametersMarker ++ ['.'])).length = base.length + parametersMarker.length + 1 := by
    rw [List.length_append, List.length_append, Nat.add_assoc]
    rfl
  unfold agentParameterPrefix
  rw [show indexOf (overrideField base names) parametersMarker = some base.length from indexOf_marker plain _]
  dsimp only
  rw [if_pos (by rw [split, List.length_append]; omega), ← length, split, List.take_left]

theorem trimPrefix_overrideField (base : List Char) {names : List (List Char)} (nonempty : names ≠ []) :
    trimPrefix (overrideField base names) (base ++ (parametersMarker ++ ['.'])) = dotted names := by
  have split : overrideField base names = (base ++ (parametersMarker ++ ['.'])) ++ dotted names := by
    rw [overrideField, dots_eq_cons nonempty, List.append_assoc, List.append_assoc]
    rfl
  rw [split, trimPrefix_append]

namespace ConstraintDocument

variable {document : ConstraintDocument}

/-! ## Leaves -/

/-- The value satisfies the constraint of its path, which may be edited. -/
def OverrideLeaf (document : ConstraintDocument) (path : List Char) (value : Value) : Prop :=
  exists constraint, document.constraint? path = some constraint ∧ constraint.editable = true ∧
    constraint.validateValue value = true

section Leaves

variable {base key : List Char} {names : List (List Char)} {value out : Value}

/-- At the top the slice fails. -/
theorem sparseLeaf_top (plain : '.' ∉ base) :
    document.sparseLeaf (overrideField base []) key value = .error .panic := by
  unfold sparseLeaf
  rw [agentParameterPrefix_top plain]

theorem sparseLeaf_ok_iff (plain : '.' ∉ base) (nonempty : names ≠ []) :
    document.sparseLeaf (overrideField base names) key value = .ok out ↔
      out = value ∧ document.OverrideLeaf (dotted (names ++ [key])) value := by
  unfold sparseLeaf
  rw [agentParameterPrefix_below plain nonempty, overrideField_member]
  dsimp only
  rw [trimPrefix_overrideField base (List.append_ne_nil_of_left_ne_nil nonempty _)]
  have marked : indexOf (overrideField base (names ++ [key])) parametersMarker ≠ none := by
    rw [show indexOf (overrideField base (names ++ [key])) parametersMarker = some base.length from
      indexOf_marker plain _]
    exact Option.some_ne_none _
  simp only [bind_ok_iff, pure_ok_iff]
  constructor
  · rintro ⟨_, valid, rfl⟩
    rcases validateLeaf_ok_iff.mp valid with ⟨constraint, found, allowed, satisfied⟩
    exact ⟨rfl, constraint, found, allowed.resolve_right marked, satisfied⟩
  · rintro ⟨rfl, constraint, found, editable, satisfied⟩
    exact ⟨(), validateLeaf_ok_iff.mpr ⟨constraint, found, Or.inl editable, satisfied⟩, rfl⟩

end Leaves

/-! ## Objects -/

/-- A member that is accepted, and the one that is kept for it. -/
def KeepsMember (document : ConstraintDocument) (field : List Char) (reference : Members)
    (member kept : List Char × Value) : Prop :=
  member.1 = kept.1 ∧ exists child, member? member.1 reference = some child ∧
    document.sparseValue field member.1 member.2 child = .ok kept.2

/-- One member of a sparse object is kept. -/
def sparseMember (document : ConstraintDocument) (field : List Char) (reference : Members) (member : List Char × Value) :
    Except MaterializeFailure (List Char × Value) :=
  match member? member.1 reference with
  | none => .error (unknownPath (field ++ '.' :: member.1))
  | some child => do
      let kept ← document.sparseValue field member.1 member.2 child
      return (member.1, kept)

theorem sparseMembers_eq_mapM (field : List Char) (reference members : Members) :
    document.sparseMembers field reference members = members.mapM (document.sparseMember field reference) := by
  induction members with
  | nil => rfl
  | cons member rest inductionHypothesis =>
      have unfolded : document.sparseMembers field reference (member :: rest) =
          match member? member.1 reference with
          | none => .error (unknownPath (field ++ '.' :: member.1))
          | some child => do
              let kept ← document.sparseValue field member.1 member.2 child
              let others ← document.sparseMembers field reference rest
              return (member.1, kept) :: others := rfl
      rw [unfolded, List.mapM_cons, ← inductionHypothesis, sparseMember]
      cases member? member.1 reference with
      | none => rfl
      | some child =>
          dsimp only
          cases document.sparseValue field member.1 member.2 child with
          | error reason => rfl
          | ok kept => rfl

theorem sparseMember_ok_iff {field : List Char} {reference : Members} {member kept : List Char × Value} :
    document.sparseMember field reference member = .ok kept ↔ document.KeepsMember field reference member kept := by
  unfold sparseMember KeepsMember
  cases member? member.1 reference with
  | none =>
      constructor
      · intro wrong
        cases wrong
      · rintro ⟨_, _, present, _⟩
        cases present
  | some child =>
      dsimp only
      simp only [bind_ok_iff, pure_ok_iff]
      constructor
      · rintro ⟨out, isOut, rfl⟩
        exact ⟨rfl, child, rfl, isOut⟩
      · rintro ⟨same, other, isOther, isOut⟩
        cases isOther
        exact ⟨kept.2, isOut, Prod.ext same rfl⟩

theorem sparseMembers_ok_iff {field : List Char} {reference members kept : Members} :
    document.sparseMembers field reference members = .ok kept ↔
      List.Forall₂ (document.KeepsMember field reference) members kept := by
  rw [sparseMembers_eq_mapM, mapM_ok_iff]
  simp only [sparseMember_ok_iff]

theorem sparseMembers_error {field : List Char} {reference members : Members} {failure : MaterializeFailure}
    (refused : document.sparseMembers field reference members = .error failure) :
    exists member, member ∈ members ∧ (member? member.1 reference = none ∧
      failure = unknownPath (field ++ '.' :: member.1) ∨ exists child, member? member.1 reference = some child ∧
        document.sparseValue field member.1 member.2 child = .error failure) := by
  rw [sparseMembers_eq_mapM] at refused
  rcases mapM_error refused with ⟨member, isMember, isRefused⟩
  refine ⟨member, isMember, ?_⟩
  unfold sparseMember at isRefused
  cases found : member? member.1 reference with
  | none =>
      rw [found] at isRefused
      cases isRefused
      exact Or.inl ⟨rfl, rfl⟩
  | some child =>
      rw [found] at isRefused
      dsimp only at isRefused
      cases outcome : document.sparseValue field member.1 member.2 child with
      | error reason =>
          rw [outcome, error_bind] at isRefused
          cases isRefused
          exact Or.inr ⟨child, rfl, outcome⟩
      | ok kept =>
          rw [outcome, ok_bind] at isRefused
          cases isRefused

theorem sparseValue_leaf {field key : List Char} {value reference : Value} (leaf : reference.isObject = false) :
    document.sparseValue field key value reference = document.sparseLeaf field key value := by
  cases reference with
  | object members => cases leaf
  | null | bool | number | string | array => cases value <;> rfl

theorem sparseValue_mistyped {field key : List Char} {value : Value} {reference : Members}
    (leaf : value.isObject = false) :
    document.sparseValue field key value (.object reference) = .error (typeError (field ++ '.' :: key)) := by
  cases value with
  | object members => cases leaf
  | null | bool | number | string | array => rfl

theorem sparseValue_object (field key : List Char) (members reference : Members) :
    document.sparseValue field key (.object members) (.object reference) =
      (document.sparseMembers (field ++ '.' :: key) reference members).map Document.object := by
  change (document.sparseMembers (field ++ '.' :: key) reference members >>= fun kept => pure (Document.object kept)) = _
  cases document.sparseMembers (field ++ '.' :: key) reference members with
  | error reason => rfl
  | ok kept => rfl

/-- What holds of accepted leaves, and of objects whose members it holds of, holds of every accepted
value. -/
theorem sparse_induction {motive : List Char -> List Char -> Value -> Value -> Value -> Prop}
    (leaf : forall field key value reference out, reference.isObject = false ->
      document.sparseLeaf field key value = .ok out -> motive field key value reference out)
    (object : forall field key members reference kept,
      List.Forall₂ (fun member other => member.1 = other.1 ∧ exists child, member? member.1 reference = some child ∧
        motive (field ++ '.' :: key) member.1 member.2 child other.2) members kept ->
      motive field key (.object members) (.object reference) (.object kept))
    {field key : List Char} {value reference out : Value}
    (accepted : document.sparseValue field key value reference = .ok out) : motive field key value reference out := by
  have leafCase : forall field key value reference out, value.isObject = false ->
      document.sparseValue field key value reference = .ok out -> motive field key value reference out := by
    intro field key value reference out isLeaf isAccepted
    cases referenceLeaf : reference.isObject with
    | false =>
        rw [sparseValue_leaf referenceLeaf] at isAccepted
        exact leaf field key value reference out referenceLeaf isAccepted
    | true =>
        cases reference with
        | object members =>
            rw [sparseValue_mistyped isLeaf] at isAccepted
            cases isAccepted
        | null | bool | number | string | array => cases referenceLeaf
  have hereditary : Hereditary fun value : Value => forall field key reference out,
      document.sparseValue field key value reference = .ok out -> motive field key value reference out := by
    refine ⟨?_, fun _ => ?_, fun _ => ?_, fun _ => ?_, fun _ _ => ?_, ?_⟩
    iterate 5
      intro field key reference out isAccepted
      exact leafCase field key _ reference out rfl isAccepted
    intro members each field key reference out isAccepted
    cases referenceLeaf : reference.isObject with
    | false =>
        rw [sparseValue_leaf referenceLeaf] at isAccepted
        exact leaf field key _ reference out referenceLeaf isAccepted
    | true =>
        cases reference with
        | object reference =>
            rw [sparseValue_object] at isAccepted
            cases outcome : document.sparseMembers (field ++ '.' :: key) reference members with
            | error reason =>
                rw [outcome] at isAccepted
                cases isAccepted
            | ok kept =>
                rw [outcome] at isAccepted
                cases isAccepted
                refine object field key members reference kept ((forall₂_mem (sparseMembers_ok_iff.mp outcome)).imp ?_)
                rintro member other ⟨isMember, _, same, child, present, isOut⟩
                exact ⟨same, child, present, each member isMember _ _ _ _ isOut⟩
        | null | bool | number | string | array => cases referenceLeaf
  exact hereditary.all value field key reference out accepted

/-! ## What an accepted object is -/

section Accepted

variable {base field key : List Char} {value reference out : Value} {members kept : Members}

/-- An accepted value is kept as it is. -/
theorem sparseValue_eq (accepted : document.sparseValue field key value reference = .ok out) : out = value := by
  refine sparse_induction (motive := fun _ _ value _ out => out = value) ?_ ?_ accepted
  · intro field key value reference out _ isAccepted
    unfold sparseLeaf at isAccepted
    split at isAccepted
    · cases isAccepted
    · simp only [bind_ok_iff, pure_ok_iff] at isAccepted
      rcases isAccepted with ⟨_, _, same⟩
      exact same.symm
  · intro field key members reference kept each
    congr 1
    induction each with
    | nil => rfl
    | @cons member other rest others held _ inductionHypothesis =>
        rcases held with ⟨same, _, _, unchanged⟩
        rw [inductionHypothesis, show other = member from Prod.ext same.symm unchanged]

theorem sparseMembers_eq {reference : Members} (accepted : document.sparseMembers field reference members = .ok kept) :
    kept = members := by
  have pairs := sparseMembers_ok_iff.mp accepted
  clear accepted
  induction pairs with
  | nil => rfl
  | @cons member other rest others held _ inductionHypothesis =>
      rcases held with ⟨same, _, _, isOut⟩
      rw [inductionHypothesis, show other = member from Prod.ext same.symm (sparseValue_eq isOut)]

/-- The value has a place in the reference, and a leaf is editable and fits there. -/
def Placed (document : ConstraintDocument) (pathOf : List (List Char) -> List Char) (reference value : Value) : Prop :=
  forall names found, descend names value = some found -> exists leaf, descend names reference = some leaf ∧
    leaf.isObject = found.isObject ∧ (found.isObject = false -> document.OverrideLeaf (pathOf names) found)

/-- An object is placed when its members are. -/
theorem Placed.object {pathOf : List (List Char) -> List Char} {members reference : Members}
    (each : forall name value, member? name members = some value -> exists child,
      member? name reference = some child ∧ document.Placed (fun names => pathOf (name :: names)) child value) :
    document.Placed pathOf (.object reference) (.object members) := by
  intro names found isFound
  cases names with
  | nil =>
      cases isFound
      exact ⟨_, rfl, rfl, fun wrong => (by cases wrong)⟩
  | cons name rest =>
      rcases descend_cons_some isFound with ⟨value, isMember, below⟩
      rcases each name value isMember with ⟨child, inReference, placed⟩
      rcases placed rest found below with ⟨leaf, isLeaf, alike, fits⟩
      exact ⟨leaf, (descend_member inReference rest).trans isLeaf, alike, fits⟩

theorem sparseValue_placed (plain : '.' ∉ base) {before : List (List Char)}
    (accepted : document.sparseValue (overrideField base before) key value reference = .ok out) :
    document.Placed (fun names => dotted (before ++ key :: names)) reference value := by
  have general : forall field, document.sparseValue field key value reference = .ok out ->
      forall before, field = overrideField base before ->
        document.Placed (fun names => dotted (before ++ key :: names)) reference value := by
    intro field isAccepted
    refine sparse_induction (motive := fun field key value reference _ => forall before,
      field = overrideField base before ->
        document.Placed (fun names => dotted (before ++ key :: names)) reference value) ?_ ?_ isAccepted
    · rintro field key value reference out referenceLeaf leafAccepted before rfl names found isFound
      have nonempty : before ≠ [] := by
        rintro rfl
        rw [sparseLeaf_top plain] at leafAccepted
        cases leafAccepted
      have fits := ((sparseLeaf_ok_iff plain nonempty).mp leafAccepted).2
      have isLeaf : value.isObject = false := by
        rcases fits with ⟨_, _, _, satisfied⟩
        exact validateValue_leaf satisfied
      cases names with
      | nil =>
          cases isFound
          exact ⟨reference, rfl, referenceLeaf.trans isLeaf.symm, fun _ => fits⟩
      | cons name rest =>
          rw [descend_leaf isLeaf] at isFound
          cases isFound
    · rintro field key members reference kept each before rfl
      refine Placed.object fun name value isMember => ?_
      have related := member?_rel each name
      rw [isMember] at related
      cases inKept : member? name kept with
      | none =>
          rw [inKept] at related
          cases related
      | some keptValue =>
          rw [inKept] at related
          cases related with
          | some held =>
              rcases held with ⟨child, inReference, placed⟩
              refine ⟨child, inReference, ?_⟩
              have below := placed (before ++ [key]) (overrideField_member base before key)
              simpa only [List.append_assoc, List.singleton_append] using below
  exact general _ accepted before rfl

/-- The parameters of an agent that are accepted. -/
theorem sparseMembers_placed {reference : Members} (plain : '.' ∉ base)
    (accepted : document.sparseMembers (overrideField base []) reference members = .ok kept) :
    document.Placed dotted (.object reference) (.object members) := by
  refine Placed.object fun name value isMember => ?_
  have related := member?_rel (sparseMembers_ok_iff.mp accepted) name
  rw [isMember] at related
  cases inKept : member? name kept with
  | none =>
      rw [inKept] at related
      cases related
  | some keptValue =>
      rw [inKept] at related
      cases related with
      | some held =>
          rcases held with ⟨child, inReference, isOut⟩
          exact ⟨child, inReference, sparseValue_placed plain isOut⟩

end Accepted

/-! ## What a refusal points to -/

/-- What is wrong with the value of an agent at a path. -/
inductive OverrideFault (document : ConstraintDocument) (pathOf : List (List Char) -> List Char)
    (reference override : Value) (names : List (List Char)) : Prop
  | unknown (given : (descend names override).isSome = true) (absent : descend names reference = none)
  | unlisted {leaf : Value} (found : descend names reference = some leaf) (isLeaf : leaf.isObject = false)
      (given : (descend names override).isSome = true) (absent : document.constraint? (pathOf names) = none)
  | mistyped {members : Members} {value : Value} (found : descend names reference = some (.object members))
      (given : descend names override = some value) (isLeaf : value.isObject = false)
  | outOfConstraint {leaf value : Value} {constraint : Constraint} (found : descend names reference = some leaf)
      (isLeaf : leaf.isObject = false) (given : descend names override = some value)
      (listed : document.constraint? (pathOf names) = some constraint) (wrong : constraint.validateValue value = false)
  | fixed {leaf : Value} {constraint : Constraint} (found : descend names reference = some leaf)
      (isLeaf : leaf.isObject = false) (given : (descend names override).isSome = true)
      (listed : document.constraint? (pathOf names) = some constraint) (notEditable : constraint.editable = false)

section Refused

variable {pathOf : List (List Char) -> List Char} {base : List Char}

/-- A fault of a member is one of the object. -/
theorem OverrideFault.member {name : List Char} {members given : Members} {child value : Value}
    {rest : List (List Char)} (inReference : member? name members = some child)
    (inGiven : member? name given = some value)
    (fault : document.OverrideFault (fun others => pathOf (name :: others)) child value rest) :
    document.OverrideFault pathOf (.object members) (.object given) (name :: rest) := by
  have first := descend_member inReference rest
  have second := descend_member inGiven rest
  cases fault with
  | unknown isGiven absent => exact .unknown (by rwa [second]) (first.trans absent)
  | unlisted found isLeaf isGiven absent => exact .unlisted (first.trans found) isLeaf (by rwa [second]) absent
  | mistyped found isGiven isLeaf => exact .mistyped (first.trans found) (second.trans isGiven) isLeaf
  | outOfConstraint found isLeaf isGiven listed wrong =>
      exact .outOfConstraint (first.trans found) isLeaf (second.trans isGiven) listed wrong
  | fixed found isLeaf isGiven listed notEditable =>
      exact .fixed (first.trans found) isLeaf (by rwa [second]) listed notEditable

/-- A member that the reference does not know. -/
theorem OverrideFault.stranger {name : List Char} {members given : Members} {value : Value}
    (inGiven : member? name given = some value) (absent : member? name members = none) :
    document.OverrideFault pathOf (.object members) (.object given) [name] := by
  refine .unknown ?_ (descend_absent absent [])
  rw [descend_member inGiven]
  rfl

theorem sparseLeaf_fault (plain : '.' ∉ base) {key : List Char} {names : List (List Char)} {value reference : Value}
    {failure : MaterializeFailure} (nonempty : names ≠ []) (isLeaf : reference.isObject = false)
    (refused : document.sparseLeaf (overrideField base names) key value = .error failure) :
    document.OverrideFault (fun others => dotted (names ++ key :: others)) reference value [] := by
  by_cases fits : document.OverrideLeaf (dotted (names ++ [key])) value
  · rw [(sparseLeaf_ok_iff plain nonempty).mpr ⟨rfl, fits⟩] at refused
    cases refused
  · cases found : document.constraint? (dotted (names ++ [key])) with
    | none => exact .unlisted rfl isLeaf rfl found
    | some constraint =>
        cases satisfied : constraint.validateValue value with
        | false => exact .outOfConstraint rfl isLeaf rfl found satisfied
        | true =>
            have notEditable : constraint.editable = false :=
              Bool.eq_false_iff.mpr fun editable => fits ⟨constraint, found, editable, satisfied⟩
            exact .fixed rfl isLeaf rfl found notEditable

/-- A refused value has a fault at some path, or it is given for a leaf at the top. -/
theorem sparseValue_fault (plain : '.' ∉ base) (value : Value) :
    forall before key reference failure, value.Distinct ->
      document.sparseValue (overrideField base before) key value reference = .error failure ->
      (exists names, document.OverrideFault (fun names => dotted (before ++ key :: names)) reference value names) ∨
        before = [] ∧ reference.isObject = false := by
  have leafCase : forall value before key reference failure, reference.isObject = false ->
      document.sparseValue (overrideField base before) key value reference = .error failure ->
      (exists names, document.OverrideFault (fun names => dotted (before ++ key :: names)) reference value names) ∨
        before = [] ∧ reference.isObject = false := by
    intro value before key reference failure isLeaf refused
    by_cases top : before = []
    · exact Or.inr ⟨top, isLeaf⟩
    · rw [sparseValue_leaf isLeaf] at refused
      exact Or.inl ⟨[], sparseLeaf_fault plain top isLeaf refused⟩
  have mistyped : forall (pathOf : List (List Char) -> List Char) value (members : Members), value.isObject = false ->
      document.OverrideFault pathOf (.object members) value [] := by
    intro pathOf value members isLeaf
    exact .mistyped rfl rfl isLeaf
  have hereditary : Hereditary fun value : Value => forall before key reference failure, value.Distinct ->
      document.sparseValue (overrideField base before) key value reference = .error failure ->
      (exists names, document.OverrideFault (fun names => dotted (before ++ key :: names)) reference value names) ∨
        before = [] ∧ reference.isObject = false := by
    refine ⟨?_, fun _ => ?_, fun _ => ?_, fun _ => ?_, fun _ _ => ?_, ?_⟩
    iterate 5
      intro before key reference failure _ refused
      cases isLeaf : reference.isObject with
      | false => exact isLeaf ▸ leafCase _ before key reference failure isLeaf refused
      | true =>
          cases reference with
          | object members => exact Or.inl ⟨[], mistyped _ _ members rfl⟩
          | null | bool | number | string | array => cases isLeaf
    intro members each before key reference failure distinct refused
    cases isLeaf : reference.isObject with
    | false => exact isLeaf ▸ leafCase _ before key reference failure isLeaf refused
    | true =>
        cases reference with
        | null | bool | number | string | array => cases isLeaf
        | object reference =>
            rw [sparseValue_object, overrideField_member] at refused
            cases outcome : document.sparseMembers (overrideField base (before ++ [key])) reference members with
            | ok kept =>
                rw [outcome] at refused
                cases refused
            | error reason =>
                cases distinct with
                | object nodup inMembers =>
                    rcases sparseMembers_error outcome with ⟨member, isMember, held⟩
                    have inGiven := member?_of_mem nodup isMember
                    rcases held with ⟨absent, _⟩ | ⟨child, inReference, isRefused⟩
                    · exact Or.inl ⟨_, OverrideFault.stranger inGiven absent⟩
                    · rcases each member isMember _ _ _ _ (inMembers member isMember) isRefused with
                        ⟨names, fault⟩ | ⟨top, _⟩
                      · simp only [List.append_assoc, List.singleton_append] at fault
                        exact Or.inl ⟨member.1 :: names, fault.member inReference inGiven⟩
                      · exact absurd top (List.append_ne_nil_of_right_ne_nil _ (List.cons_ne_nil _ _))
  exact hereditary.all value

/-- A value is given for a leaf at the top of the reference. -/
def OverridesTop (reference members : Members) : Prop :=
  exists name value leaf, member? name members = some value ∧ member? name reference = some leaf ∧ leaf.isObject = false

theorem sparseMembers_fault (plain : '.' ∉ base) {reference members : Members} {failure : MaterializeFailure}
    (distinct : (Document.object members).Distinct)
    (refused : document.sparseMembers (overrideField base []) reference members = .error failure) :
    (exists names, document.OverrideFault dotted (.object reference) (.object members) names) ∨
      OverridesTop reference members := by
  cases distinct with
  | object nodup inMembers =>
      rcases sparseMembers_error refused with ⟨member, isMember, held⟩
      have inGiven := member?_of_mem nodup isMember
      rcases held with ⟨absent, _⟩ | ⟨child, inReference, isRefused⟩
      · exact Or.inl ⟨_, OverrideFault.stranger inGiven absent⟩
      · rcases sparseValue_fault plain member.2 _ _ _ _ (inMembers member isMember) isRefused with
          ⟨names, fault⟩ | ⟨_, isLeaf⟩
        · exact Or.inl ⟨member.1 :: names, fault.member inReference inGiven⟩
        · exact Or.inr ⟨member.1, member.2, child, inGiven, inReference, isLeaf⟩

/-- A value for a leaf at the top is not accepted. -/
theorem sparseMembers_overridesTop (plain : '.' ∉ base) {reference members kept : Members}
    (accepted : document.sparseMembers (overrideField base []) reference members = .ok kept) :
    ¬OverridesTop reference members := by
  rintro ⟨name, value, leaf, inGiven, inReference, isLeaf⟩
  have related := member?_rel (sparseMembers_ok_iff.mp accepted) name
  rw [inGiven] at related
  cases inKept : member? name kept with
  | none =>
      rw [inKept] at related
      cases related
  | some keptValue =>
      rw [inKept] at related
      cases related with
      | some held =>
          rcases held with ⟨child, isChild, isOut⟩
          rw [inReference] at isChild
          cases isChild
          rw [sparseValue_leaf isLeaf, sparseLeaf_top plain] at isOut
          cases isOut

end Refused

end ConstraintDocument

end Profiles
end FederatedIot
