import FederatedIot.Profiles.Constraints

namespace FederatedIot
namespace Profiles

open Foundation Foundation.JsonText Foundation.JsonText.Document Foundation.Outcome

/-!
# Complete objects

A complete object is accepted when it has the tree of the reference and every leaf fits.
A refusal points to a path where the tree differs or the leaf does not fit.
-/

/-! ## Leaves -/

theorem trimPrefix_append (start rest : List Char) : trimPrefix (start ++ rest) start = rest := by
  unfold trimPrefix
  rw [if_pos (List.prefix_append start rest), List.drop_left]

theorem validateValue_leaf {constraint : Constraint} {value : Value} (valid : constraint.validateValue value = true) :
    value.isObject = false := by
  cases value with
  | object members =>
      unfold Constraint.validateValue Constraint.validateValueWithoutAllowed at valid
      rw [Bool.and_eq_true] at valid
      cases type : constraint.type <;> rw [type] at valid <;> cases valid.1
  | null | bool | number | string | array => rfl

namespace ConstraintDocument

variable {document : ConstraintDocument}

theorem validateLeaf_ok_iff {path field : List Char} {value : Value} :
    document.validateLeaf path field value = .ok () ↔ exists constraint, document.constraint? path = some constraint ∧
      (constraint.editable = true ∨ indexOf field parametersMarker = none) ∧ constraint.validateValue value = true := by
  unfold validateLeaf
  cases found : document.constraint? path with
  | none =>
      constructor
      · intro wrong
        cases wrong
      · rintro ⟨_, wrong, _⟩
        cases wrong
  | some constraint =>
      dsimp only
      rw [bind_ok_iff]
      constructor
      · rintro ⟨_, allowed, valid⟩
        exact ⟨constraint, rfl, (require_ok_iff _ _ _).mp allowed, (require_ok_iff _ _ _).mp valid⟩
      · rintro ⟨_, ⟨⟩, allowed, valid⟩
        exact ⟨(), (require_ok_iff _ _ _).mpr allowed, (require_ok_iff _ _ _).mpr valid⟩

/-- The value satisfies the constraint of its path, and it is the value of the reference where that
is fixed. -/
def SharedLeaf (document : ConstraintDocument) (path : List Char) (reference value : Value) : Prop :=
  exists constraint, document.constraint? path = some constraint ∧ constraint.validateValue value = true ∧
    (constraint.editable = true ∨ valuesEqual value reference = true)

/-- Only the fixed paths may not be edited. -/
def FixedKnown (document : ConstraintDocument) : Prop :=
  forall path constraint, document.constraint? path = some constraint -> constraint.editable = false -> path ∈ fixedPaths

def sharedField (rest : List Char) : List Char :=
  "shared_parameters.".toList ++ rest

theorem sharedField_cons (key : List Char) : "shared_parameters".toList ++ '.' :: key = sharedField key := by
  unfold sharedField
  rw [show "shared_parameters.".toList = "shared_parameters".toList ++ ['.'] from rfl, List.append_assoc]
  rfl

/-- The text of a fixed path does not look like one of an agent's. -/
theorem fixed_unmarked {path : List Char} (isFixed : path ∈ fixedPaths) :
    indexOf (sharedField path) parametersMarker = none := by
  revert path
  decide

theorem completeLeaf_ok_iff (known : document.FixedKnown) {rest : List Char} {reference actual out : Value} :
    document.completeLeaf (sharedField rest) reference actual = .ok out ↔
      out = actual ∧ document.SharedLeaf rest reference actual := by
  have path : trimPrefix (sharedField rest) "shared_parameters.".toList = rest := trimPrefix_append _ _
  unfold completeLeaf
  rw [path]
  dsimp only
  simp only [bind_ok_iff, require_ok_iff, pure_ok_iff]
  constructor
  · rintro ⟨_, valid, _, kept, rfl⟩
    rcases validateLeaf_ok_iff.mp valid with ⟨constraint, found, _, satisfied⟩
    refine ⟨rfl, constraint, found, satisfied, ?_⟩
    unfold isEditable at kept
    rw [found] at kept
    exact kept
  · rintro ⟨rfl, constraint, found, satisfied, kept⟩
    have allowed : constraint.editable = true ∨ indexOf (sharedField rest) parametersMarker = none := by
      cases editable : constraint.editable with
      | true => exact Or.inl rfl
      | false => exact Or.inr (fixed_unmarked (known rest constraint found editable))
    refine ⟨(), validateLeaf_ok_iff.mpr ⟨constraint, found, allowed, satisfied⟩, PUnit.unit, ?_, rfl⟩
    unfold isEditable
    rw [found]
    exact kept

/-! ## Objects -/

theorem requireKnown_ok_iff {field : List Char} {reference actual : Members} :
    requireKnown field reference actual = .ok () ↔
      forall name, member? name reference = none -> member? name actual = none := by
  unfold requireKnown
  constructor
  · intro accepted name unknown
    rw [member?_eq_none_iff] at unknown ⊢
    split at accepted
    · next none =>
        intro inside
        rcases List.mem_map.mp inside with ⟨member, isMember, rfl⟩
        exact List.find?_eq_none.mp none member isMember (decide_eq_true unknown)
    · cases accepted
  · intro known
    split
    · rfl
    · next member found =>
        have unknown : member.1 ∉ reference.map Prod.fst := by
          have isUnknown := List.find?_some found
          exact of_decide_eq_true isUnknown
        have absent := member?_eq_none_iff.mp (known member.1 (member?_eq_none_iff.mpr unknown))
        exact absurd (List.mem_map_of_mem (List.mem_of_find?_eq_some found)) absent

/-- A member of the reference and the one that completes it. -/
def CompletesMember (document : ConstraintDocument) (field : List Char) (actual : Members)
    (member completed : List Char × Value) : Prop :=
  member.1 = completed.1 ∧ exists value, member? member.1 actual = some value ∧
    document.completeValue (field ++ '.' :: member.1) member.2 value = .ok completed.2

/-- One member of the reference is completed. -/
def completeMember (document : ConstraintDocument) (field : List Char) (actual : Members) (member : List Char × Value) :
    Except MaterializeFailure (List Char × Value) :=
  match member? member.1 actual with
  | none => .error (missingPath (field ++ '.' :: member.1))
  | some value => do
      let completed ← document.completeValue (field ++ '.' :: member.1) member.2 value
      return (member.1, completed)

theorem completeMembers_eq_mapM (field : List Char) (reference actual : Members) :
    document.completeMembers field reference actual = reference.mapM (document.completeMember field actual) := by
  induction reference with
  | nil => rfl
  | cons member rest inductionHypothesis =>
      have unfolded : document.completeMembers field (member :: rest) actual =
          match member? member.1 actual with
          | none => .error (missingPath (field ++ '.' :: member.1))
          | some value => do
              let completed ← document.completeValue (field ++ '.' :: member.1) member.2 value
              let others ← document.completeMembers field rest actual
              return (member.1, completed) :: others := rfl
      rw [unfolded, List.mapM_cons, ← inductionHypothesis, completeMember]
      cases member? member.1 actual with
      | none => rfl
      | some value =>
          dsimp only
          cases document.completeValue (field ++ '.' :: member.1) member.2 value with
          | error reason => rfl
          | ok completed => rfl

theorem completeMember_ok_iff {field : List Char} {actual : Members} {member completed : List Char × Value} :
    document.completeMember field actual member = .ok completed ↔
      document.CompletesMember field actual member completed := by
  unfold completeMember CompletesMember
  cases member? member.1 actual with
  | none =>
      constructor
      · intro wrong
        cases wrong
      · rintro ⟨_, _, present, _⟩
        cases present
  | some given =>
      dsimp only
      simp only [bind_ok_iff, pure_ok_iff]
      constructor
      · rintro ⟨out, isOut, rfl⟩
        exact ⟨rfl, given, rfl, isOut⟩
      · rintro ⟨same, other, isOther, isOut⟩
        cases isOther
        exact ⟨completed.2, isOut, Prod.ext same rfl⟩

theorem completeMembers_ok_iff {field : List Char} {reference actual completed : Members} :
    document.completeMembers field reference actual = .ok completed ↔
      List.Forall₂ (document.CompletesMember field actual) reference completed := by
  rw [completeMembers_eq_mapM, mapM_ok_iff]
  simp only [completeMember_ok_iff]

theorem completeValue_group (field : List Char) (reference actual : Members) :
    document.completeValue field (.object reference) (.object actual) = (do
      requireKnown field reference actual
      let completed ← document.completeMembers field reference actual
      return .object completed) :=
  rfl

theorem completeValue_object_ok_iff {field : List Char} {reference actual : Members} {out : Value} :
    document.completeValue field (.object reference) (.object actual) = .ok out ↔
      exists completed, (forall name, member? name reference = none -> member? name actual = none) ∧
        List.Forall₂ (document.CompletesMember field actual) reference completed ∧ out = .object completed := by
  rw [completeValue_group]
  simp only [bind_ok_iff, pure_ok_iff]
  constructor
  · rintro ⟨_, known, completed, areCompleted, rfl⟩
    exact ⟨completed, requireKnown_ok_iff.mp known, completeMembers_ok_iff.mp areCompleted, rfl⟩
  · rintro ⟨completed, known, areCompleted, rfl⟩
    exact ⟨(), requireKnown_ok_iff.mpr known, completed, completeMembers_ok_iff.mpr areCompleted, rfl⟩

theorem completeValue_leaf {field : List Char} {reference : Value} (leaf : reference.isObject = false) (actual : Value) :
    document.completeValue field reference actual = document.completeLeaf field reference actual := by
  cases reference with
  | object members => cases leaf
  | null | bool | number | string | array => rfl

/-- A group is completed by an object only. -/
theorem completeValue_mistyped {field : List Char} {reference : Members} {actual : Value}
    (leaf : actual.isObject = false) :
    document.completeValue field (.object reference) actual = .error (typeError field) := by
  cases actual with
  | object members => cases leaf
  | null | bool | number | string | array => rfl

/-- What holds of accepted leaves, and of objects whose members it holds of, holds of every accepted
value. -/
theorem completed_induction {motive : List Char -> Value -> Value -> Value -> Prop}
    (leaf : forall field reference actual out, reference.isObject = false ->
      document.completeLeaf field reference actual = .ok out -> motive field reference actual out)
    (object : forall field reference actual completed,
      (forall name, member? name reference = none -> member? name actual = none) ->
      List.Forall₂ (document.CompletesMember field actual) reference completed ->
      List.Forall₂ (fun member other => member.1 = other.1 ∧ exists value, member? member.1 actual = some value ∧
        motive (field ++ '.' :: member.1) member.2 value other.2) reference completed ->
      motive field (.object reference) (.object actual) (.object completed))
    {field : List Char} {reference actual out : Value}
    (accepted : document.completeValue field reference actual = .ok out) : motive field reference actual out := by
  have hereditary : Hereditary fun reference : Value => forall field actual out,
      document.completeValue field reference actual = .ok out -> motive field reference actual out := by
    refine ⟨?_, fun _ => ?_, fun _ => ?_, fun _ => ?_, fun _ _ => ?_, ?_⟩
    iterate 5
      intro field actual out isAccepted
      rw [completeValue_leaf rfl] at isAccepted
      exact leaf field _ actual out rfl isAccepted
    intro members each field actual out isAccepted
    cases actual with
    | object given =>
        rcases completeValue_object_ok_iff.mp isAccepted with ⟨completed, known, areCompleted, rfl⟩
        refine object field members given completed known areCompleted ?_
        clear isAccepted known
        induction areCompleted with
        | nil => exact List.Forall₂.nil
        | @cons member other rest others held _ inductionHypothesis =>
            rcases held with ⟨same, value, present, isOut⟩
            refine List.Forall₂.cons ⟨same, value, present, ?_⟩ (inductionHypothesis ?_)
            · exact each member List.mem_cons_self _ _ _ isOut
            · exact fun later inside => each later (List.mem_cons_of_mem _ inside)
    | null | bool | number | string | array =>
        rw [completeValue_mistyped rfl] at isAccepted
        cases isAccepted
  exact hereditary.all reference field actual out accepted

/-! ## What an accepted object is -/

section Accepted

variable {field : List Char} {reference actual out : Value}

theorem completeLeaf_eq (accepted : document.completeLeaf field reference actual = .ok out) :
    out = actual ∧ actual.isObject = false := by
  unfold completeLeaf at accepted
  simp only [bind_ok_iff, require_ok_iff, pure_ok_iff] at accepted
  rcases accepted with ⟨_, valid, _, _, rfl⟩
  rcases validateLeaf_ok_iff.mp valid with ⟨_, _, _, satisfied⟩
  exact ⟨rfl, validateValue_leaf satisfied⟩

/-- Leaves are alike wherever they stand. -/
theorem alike_leaf {View : Type} {view : Value -> View} {first second : Value} (firstLeaf : first.isObject = false)
    (secondLeaf : second.isObject = false) (same : view first = view second) : Alike view first second := by
  intro names
  cases names with
  | nil => exact congrArg some same
  | cons name rest => rw [descend_leaf firstLeaf, descend_leaf secondLeaf]

theorem completeValue_shape (accepted : document.completeValue field reference actual = .ok out) :
    SameShape reference out := by
  refine completed_induction (motive := fun _ reference _ out => SameShape reference out) ?_ ?_ accepted
  · intro field reference actual out leaf isAccepted
    rcases completeLeaf_eq isAccepted with ⟨rfl, isLeaf⟩
    exact alike_leaf leaf isLeaf (leaf.trans isLeaf.symm)
  · intro field reference actual completed _ _ each
    have alike : List.Forall₂ (fun member other : List Char × Value => member.1 = other.1 ∧ SameShape member.2 other.2)
        reference completed :=
      each.imp fun _ _ ⟨same, _, _, isAlike⟩ => ⟨same, isAlike⟩
    exact Alike.object rfl (member?_rel alike)

/-- No leaf that was given is changed, added or dropped. -/
theorem completeValue_agrees (accepted : document.completeValue field reference actual = .ok out) :
    Agrees actual out := by
  refine completed_induction (motive := fun _ _ actual out => Agrees actual out) ?_ ?_ accepted
  · intro field reference actual out _ isAccepted
    rw [(completeLeaf_eq isAccepted).1]
    exact Alike.refl _ _
  · intro field reference actual completed known _ each
    refine Alike.object rfl fun name => ?_
    have related := member?_rel each name
    cases inReference : member? name reference with
    | none =>
        rw [inReference] at related
        rw [known name inReference]
        cases inCompleted : member? name completed with
        | none => exact Option.Rel.none
        | some value =>
            rw [inCompleted] at related
            cases related
    | some value =>
        rw [inReference] at related
        cases inCompleted : member? name completed with
        | none =>
            rw [inCompleted] at related
            cases related
        | some value =>
            rw [inCompleted] at related
            cases related with
            | some held =>
                rcases held with ⟨given, present, agrees⟩
                rw [present]
                exact Option.Rel.some agrees

theorem completeValue_distinct (accepted : document.completeValue field reference actual = .ok out)
    (referenceDistinct : reference.Distinct) (actualDistinct : actual.Distinct) : out.Distinct := by
  revert referenceDistinct actualDistinct
  refine completed_induction (motive := fun _ reference actual out => reference.Distinct -> actual.Distinct -> out.Distinct)
    ?_ ?_ accepted
  · intro field reference actual out _ isAccepted _ distinct
    rwa [(completeLeaf_eq isAccepted).1]
  · rintro field reference actual completed _ _ each (_ | _ | _ | _ | _ | ⟨nodup, inReference⟩)
      (_ | _ | _ | _ | _ | ⟨_, inActual⟩)
    have names := names_eq each
    refine Distinct.object (by rwa [← names]) fun other inside => ?_
    rcases exists_of_mem each inside with ⟨member, isMember, _, value, present, distinct⟩
    exact distinct (inReference member isMember) (inActual _ (mem_of_member? present))

/-- What was accepted is accepted again. -/
theorem completeValue_again (accepted : document.completeValue field reference actual = .ok out)
    (distinct : reference.Distinct) : document.completeValue field reference out = .ok out := by
  revert distinct
  refine completed_induction (motive := fun field reference _ out =>
    reference.Distinct -> document.completeValue field reference out = .ok out) ?_ ?_ accepted
  · intro field reference actual out leaf isAccepted _
    rw [completeValue_leaf leaf]
    have same := (completeLeaf_eq isAccepted).1
    rwa [← same] at isAccepted
  · rintro field reference actual completed _ _ each (_ | _ | _ | _ | _ | ⟨nodup, inReference⟩)
    have names := names_eq each
    refine completeValue_object_ok_iff.mpr ⟨completed, ?_, (forall₂_mem each).imp ?_, rfl⟩
    · intro name unknown
      rw [member?_eq_none_iff] at unknown ⊢
      rwa [← names]
    · rintro member other ⟨isMember, isOther, same, _, _, isAgain⟩
      refine ⟨same, other.2, ?_, isAgain (inReference member isMember)⟩
      rw [same]
      exact member?_of_mem (by rwa [← names]) isOther

/-- The fields below a field have the texts of the paths. -/
def Leads (field : List Char) (pathOf : List (List Char) -> List Char) (reference : Value) : Prop :=
  forall names, names ≠ [] ∨ reference.isObject = false -> field ++ dots names = sharedField (pathOf names)

theorem Leads.member {pathOf : List (List Char) -> List Char} {members : Members}
    (leads : Leads field pathOf (.object members)) (name : List Char) (child : Value) :
    Leads (field ++ '.' :: name) (fun names => pathOf (name :: names)) child := by
  intro names _
  rw [List.append_assoc]
  exact leads (name :: names) (Or.inl (List.cons_ne_nil _ _))

theorem Leads.leaf {pathOf : List (List Char) -> List Char} (leads : Leads field pathOf reference)
    (isLeaf : reference.isObject = false) : field = sharedField (pathOf []) :=
  (List.append_nil field).symm.trans (leads [] (Or.inr isLeaf))

/-- The texts of the paths at the top. -/
theorem leads_dotted (members : Members) : Leads "shared_parameters".toList dotted (.object members) := by
  intro names nonempty
  cases names with
  | nil => cases nonempty.resolve_left fun wrong => wrong rfl
  | cons name rest => exact sharedField_cons (name ++ dots rest)

/-- Every leaf of the reference has a value that fits. -/
theorem completeValue_leaves (known : document.FixedKnown)
    (accepted : document.completeValue field reference actual = .ok out) {pathOf : List (List Char) -> List Char}
    (leads : Leads field pathOf reference) {names : List (List Char)} {leaf : Value}
    (found : descend names reference = some leaf) (isLeaf : leaf.isObject = false) :
    exists value, descend names out = some value ∧ document.SharedLeaf (pathOf names) leaf value := by
  revert pathOf names leaf
  refine completed_induction (motive := fun field reference _ out => forall {pathOf : List (List Char) -> List Char},
    Leads field pathOf reference -> forall {names leaf}, descend names reference = some leaf -> leaf.isObject = false ->
      exists value, descend names out = some value ∧ document.SharedLeaf (pathOf names) leaf value) ?_ ?_ accepted
  · intro field reference actual out referenceLeaf leafAccepted pathOf leads names leaf found _
    cases names with
    | nil =>
        cases found
        rw [leads.leaf referenceLeaf] at leafAccepted
        have fits := (completeLeaf_ok_iff known).mp leafAccepted
        refine ⟨out, rfl, ?_⟩
        rw [fits.1]
        exact fits.2
    | cons name names =>
        rw [descend_leaf referenceLeaf] at found
        cases found
  · intro field reference actual completed _ _ each pathOf leads names leaf found isLeaf
    cases names with
    | nil =>
        cases found
        cases isLeaf
    | cons name names =>
        rcases descend_cons_some found with ⟨child, inReference, inChild⟩
        have related := member?_rel each name
        rw [inReference] at related
        cases inCompleted : member? name completed with
        | none =>
            rw [inCompleted] at related
            cases related
        | some value =>
            rw [inCompleted] at related
            cases related with
            | some held =>
                rcases held with ⟨_, _, fits⟩
                rcases fits (leads.member name child) inChild isLeaf with ⟨reached, isReached, leafFits⟩
                exact ⟨reached, (descend_member inCompleted names).trans isReached, leafFits⟩

end Accepted

/-! ## What a refusal points to -/

/-- What is wrong with the value at a path.  The text of the path leads to its constraint. -/
inductive SharedFault (document : ConstraintDocument) (pathOf : List (List Char) -> List Char) (reference shared : Value)
    (names : List (List Char)) : Prop
  | unknown (given : (descend names shared).isSome = true) (absent : descend names reference = none)
  | unlisted {leaf : Value} (found : descend names reference = some leaf) (isLeaf : leaf.isObject = false)
      (absent : document.constraint? (pathOf names) = none)
  | missing (found : (descend names reference).isSome = true) (absent : descend names shared = none)
  | mistyped {members : Members} {value : Value} (found : descend names reference = some (.object members))
      (given : descend names shared = some value) (isLeaf : value.isObject = false)
  | outOfConstraint {leaf value : Value} {constraint : Constraint} (found : descend names reference = some leaf)
      (isLeaf : leaf.isObject = false) (given : descend names shared = some value)
      (listed : document.constraint? (pathOf names) = some constraint) (wrong : constraint.validateValue value = false)
  | fixed {leaf value : Value} {constraint : Constraint} (found : descend names reference = some leaf)
      (isLeaf : leaf.isObject = false) (given : descend names shared = some value)
      (listed : document.constraint? (pathOf names) = some constraint) (notEditable : constraint.editable = false)
      (wrong : valuesEqual value leaf = false)

section Refused

variable {pathOf : List (List Char) -> List Char}

/-- A fault of a member is one of the object. -/
theorem SharedFault.member {name : List Char} {members given : Members} {child value : Value} {rest : List (List Char)}
    (inReference : member? name members = some child) (inGiven : member? name given = some value)
    (fault : document.SharedFault (fun others => pathOf (name :: others)) child value rest) :
    document.SharedFault pathOf (.object members) (.object given) (name :: rest) := by
  have first := descend_member inReference rest
  have second := descend_member inGiven rest
  cases fault with
  | unknown isGiven absent => exact .unknown (by rwa [second]) (first.trans absent)
  | unlisted found isLeaf absent => exact .unlisted (first.trans found) isLeaf absent
  | missing found absent => exact .missing (by rwa [first]) (second.trans absent)
  | mistyped found isGiven isLeaf => exact .mistyped (first.trans found) (second.trans isGiven) isLeaf
  | outOfConstraint found isLeaf isGiven listed wrong =>
      exact .outOfConstraint (first.trans found) isLeaf (second.trans isGiven) listed wrong
  | fixed found isLeaf isGiven listed notEditable wrong =>
      exact .fixed (first.trans found) isLeaf (second.trans isGiven) listed notEditable wrong

theorem requireKnown_fault {field : List Char} {members given : Members} {failure : MaterializeFailure}
    (refused : requireKnown field members given = .error failure) :
    exists names, document.SharedFault pathOf (.object members) (.object given) names := by
  unfold requireKnown at refused
  split at refused
  · cases refused
  · next member found =>
      have unknown : member.1 ∉ members.map Prod.fst := by
        have isUnknown := List.find?_some found
        exact of_decide_eq_true isUnknown
      refine ⟨[member.1], .unknown ?_ (descend_absent (member?_eq_none_iff.mpr unknown) [])⟩
      cases here : member? member.1 given with
      | none =>
          have absent := member?_eq_none_iff.mp here
          exact absurd (List.mem_map_of_mem (List.mem_of_find?_eq_some found)) absent
      | some value =>
          rw [descend_member here]
          rfl

theorem completeMembers_error {field : List Char} {members given : Members} {failure : MaterializeFailure}
    (refused : document.completeMembers field members given = .error failure) :
    exists member, member ∈ members ∧ (member? member.1 given = none ∧ failure = missingPath (field ++ '.' :: member.1) ∨
      exists value, member? member.1 given = some value ∧
        document.completeValue (field ++ '.' :: member.1) member.2 value = .error failure) := by
  rw [completeMembers_eq_mapM] at refused
  rcases mapM_error refused with ⟨member, isMember, isRefused⟩
  refine ⟨member, isMember, ?_⟩
  unfold completeMember at isRefused
  cases found : member? member.1 given with
  | none =>
      rw [found] at isRefused
      cases isRefused
      exact Or.inl ⟨rfl, rfl⟩
  | some value =>
      rw [found] at isRefused
      dsimp only at isRefused
      cases outcome : document.completeValue (field ++ '.' :: member.1) member.2 value with
      | error reason =>
          rw [outcome, error_bind] at isRefused
          cases isRefused
          exact Or.inr ⟨value, rfl, outcome⟩
      | ok completed =>
          rw [outcome, ok_bind] at isRefused
          cases isRefused

theorem completeLeaf_fault (known : document.FixedKnown) {path : List Char} {reference actual : Value}
    {failure : MaterializeFailure} (isLeaf : reference.isObject = false) (isPath : pathOf [] = path)
    (refused : document.completeLeaf (sharedField path) reference actual = .error failure) :
    document.SharedFault pathOf reference actual [] := by
  by_cases fits : document.SharedLeaf path reference actual
  · rw [(completeLeaf_ok_iff known).mpr ⟨rfl, fits⟩] at refused
    cases refused
  · cases found : document.constraint? path with
    | none => exact .unlisted rfl isLeaf (by rw [isPath, found])
    | some constraint =>
        have listed : document.constraint? (pathOf []) = some constraint := by rw [isPath, found]
        cases satisfied : constraint.validateValue actual with
        | false => exact .outOfConstraint rfl isLeaf rfl listed satisfied
        | true =>
            have wrong : constraint.editable = false ∧ valuesEqual actual reference = false := by
              constructor
              · exact Bool.eq_false_iff.mpr fun editable => fits ⟨constraint, found, satisfied, Or.inl editable⟩
              · exact Bool.eq_false_iff.mpr fun same => fits ⟨constraint, found, satisfied, Or.inr same⟩
            exact .fixed rfl isLeaf rfl listed wrong.1 wrong.2

/-- A refused value has a fault at some path. -/
theorem completeValue_fault (known : document.FixedKnown) (reference : Value) :
    forall field pathOf actual failure, Leads field pathOf reference -> reference.Distinct ->
      document.completeValue field reference actual = .error failure ->
      exists names, document.SharedFault pathOf reference actual names := by
  have hereditary : Hereditary fun reference : Value => forall field pathOf actual failure,
      Leads field pathOf reference -> reference.Distinct ->
        document.completeValue field reference actual = .error failure ->
        exists names, document.SharedFault pathOf reference actual names := by
    refine ⟨?_, fun _ => ?_, fun _ => ?_, fun _ => ?_, fun _ _ => ?_, ?_⟩
    iterate 5
      intro field pathOf actual failure leads _ refused
      rw [completeValue_leaf rfl, leads.leaf rfl] at refused
      exact ⟨[], completeLeaf_fault known rfl rfl refused⟩
    intro members each field pathOf actual failure leads distinct refused
    cases actual with
    | object given =>
        rw [completeValue_group] at refused
        cases checked : requireKnown field members given with
        | error reason => exact requireKnown_fault checked
        | ok _ =>
            rw [checked, ok_bind] at refused
            cases outcome : document.completeMembers field members given with
            | ok completed =>
                rw [outcome, ok_bind] at refused
                cases refused
            | error reason =>
                cases distinct with
                | object nodup inMembers =>
                    rcases completeMembers_error outcome with ⟨member, isMember, held⟩
                    have inReference := member?_of_mem nodup isMember
                    rcases held with ⟨absent, _⟩ | ⟨value, present, isRefused⟩
                    · refine ⟨[member.1], .missing ?_ (descend_absent absent [])⟩
                      rw [descend_member inReference]
                      rfl
                    · rcases each member isMember _ _ _ _ (leads.member member.1 member.2) (inMembers member isMember)
                        isRefused with ⟨names, fault⟩
                      exact ⟨member.1 :: names, fault.member inReference present⟩
    | null | bool | number | string | array => exact ⟨[], .mistyped rfl rfl rfl⟩
  exact hereditary.all reference

end Refused

/-- The object at the top is completed as the others are. -/
theorem completeValue_object (field : List Char) (reference actual : Members) :
    document.completeValue field (.object reference) (.object actual) =
      (document.validateCompleteObject field reference actual).map Document.object := by
  rw [completeValue_group, validateCompleteObject]
  cases requireKnown field reference actual with
  | error reason => rfl
  | ok _ =>
      rw [ok_bind, ok_bind]
      cases document.completeMembers field reference actual with
      | error reason => rfl
      | ok completed => rfl

end ConstraintDocument

end Profiles
end FederatedIot
