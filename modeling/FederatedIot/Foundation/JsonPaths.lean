import FederatedIot.Foundation.JsonCoding

namespace Foundation
namespace JsonText

/-!
# The values in a document

Names lead from a document through its objects to the values in it.  Documents agree when
every path leads to the same leaf in both of them, or to an object in both.  The text of a
path has its names with dots between them.
-/

namespace Document

variable {Number : Type*} {document first second third : Document Number}

/-! ## Members -/

abbrev Pairs (Number : Type*) := List (List Char × Document Number)

theorem member?_cons (name key : List Char) (value : Document Number) (rest : Pairs Number) :
    member? name ((key, value) :: rest) = if key = name then some value else member? name rest := by
  unfold member?
  by_cases same : key = name
  · rw [List.find?_cons_of_pos (by exact decide_eq_true same), if_pos same]
    rfl
  · rw [List.find?_cons_of_neg (by exact fun isSame => same (of_decide_eq_true isSame)), if_neg same]

theorem member?_eq_none_iff {name : List Char} {members : Pairs Number} :
    member? name members = none ↔ name ∉ members.map Prod.fst := by
  unfold member?
  rw [Option.map_eq_none_iff, List.find?_eq_none]
  constructor
  · intro absent inside
    rcases List.mem_map.mp inside with ⟨member, isMember, same⟩
    exact absent member isMember (decide_eq_true same)
  · intro absent member isMember same
    exact absent (List.mem_map.mpr ⟨member, isMember, of_decide_eq_true same⟩)

/-- Lists of members with the same names have related values by every name. -/
theorem member?_rel {related : List Char × Document Number -> List Char × Document Number -> Prop}
    {members others : Pairs Number}
    (pairs : List.Forall₂ (fun member other => member.1 = other.1 ∧ related member other) members others)
    (name : List Char) :
    Option.Rel (fun value other => related (name, value) (name, other)) (member? name members) (member? name others) := by
  induction pairs with
  | nil => exact Option.Rel.none
  | @cons member other rest remaining held _ inductionHypothesis =>
      rcases member with ⟨key, value⟩
      rcases other with ⟨otherKey, otherValue⟩
      rcases held with ⟨same, isRelated⟩
      dsimp only at same isRelated
      subst same
      rw [member?_cons, member?_cons]
      by_cases here : key = name
      · rw [if_pos here, if_pos here, ← here]
        exact Option.Rel.some isRelated
      · rw [if_neg here, if_neg here]
        exact inductionHypothesis

/-- Related lists are related in their members. -/
theorem forall₂_mem {First Second : Type*} {related : First -> Second -> Prop} {firsts : List First}
    {seconds : List Second} (pairs : List.Forall₂ related firsts seconds) :
    List.Forall₂ (fun first second => first ∈ firsts ∧ second ∈ seconds ∧ related first second) firsts seconds := by
  induction pairs with
  | nil => exact List.Forall₂.nil
  | cons held _ inductionHypothesis =>
      refine List.Forall₂.cons ⟨List.mem_cons_self, List.mem_cons_self, held⟩ (inductionHypothesis.imp ?_)
      rintro first second ⟨inFirsts, inSeconds, isRelated⟩
      exact ⟨List.mem_cons_of_mem _ inFirsts, List.mem_cons_of_mem _ inSeconds, isRelated⟩

theorem names_eq {related : List Char × Document Number -> List Char × Document Number -> Prop}
    {members others : Pairs Number}
    (pairs : List.Forall₂ (fun member other => member.1 = other.1 ∧ related member other) members others) :
    members.map Prod.fst = others.map Prod.fst := by
  induction pairs with
  | nil => rfl
  | cons held _ inductionHypothesis => rw [List.map_cons, List.map_cons, held.1, inductionHypothesis]

/-- Every later member belongs to an earlier one. -/
theorem exists_of_mem {First Second : Type*} {related : First -> Second -> Prop} {firsts : List First}
    {seconds : List Second} (pairs : List.Forall₂ related firsts seconds) {second : Second} (inside : second ∈ seconds) :
    exists first, first ∈ firsts ∧ related first second := by
  induction pairs with
  | nil => cases inside
  | @cons head other rest others held _ inductionHypothesis =>
      rcases List.mem_cons.mp inside with same | later
      · rw [same]
        exact ⟨head, List.mem_cons_self, held⟩
      · rcases inductionHypothesis later with ⟨first, member, isRelated⟩
        exact ⟨first, List.mem_cons_of_mem _ member, isRelated⟩

theorem mem_setMember_names {name key : List Char} {value : Document Number} {members : Pairs Number}
    (inside : name = key ∨ name ∈ members.map Prod.fst) : name ∈ (setMember key value members).map Prod.fst := by
  induction members with
  | nil => exact List.mem_singleton.mpr (inside.resolve_right (List.not_mem_nil))
  | cons member rest inductionHypothesis =>
      unfold setMember
      split
      · next same =>
          rcases inside with here | here
          · exact List.mem_cons.mpr (Or.inl here)
          · rcases List.mem_cons.mp here with first | later
            · exact List.mem_cons.mpr (Or.inl (first.trans same))
            · exact List.mem_cons_of_mem _ later
      · rcases inside with here | here
        · exact List.mem_cons_of_mem _ (inductionHypothesis (Or.inl here))
        · rcases List.mem_cons.mp here with first | later
          · exact List.mem_cons.mpr (Or.inl first)
          · exact List.mem_cons_of_mem _ (inductionHypothesis (Or.inr later))

/-- No name is lost. -/
theorem mem_keepLast_names {name : List Char} {members : Pairs Number} (inside : name ∈ members.map Prod.fst) :
    name ∈ (keepLast members).map Prod.fst := by
  have general : forall kept : Pairs Number, name ∈ kept.map Prod.fst ∨ name ∈ members.map Prod.fst ->
      name ∈ (members.foldl (fun kept member => setMember member.1 member.2 kept) kept).map Prod.fst := by
    clear inside
    induction members with
    | nil => exact fun kept inside => inside.resolve_right (List.not_mem_nil)
    | cons member rest inductionHypothesis =>
        intro kept inside
        apply inductionHypothesis
        rcases inside with earlier | later
        · exact Or.inl (mem_setMember_names (Or.inr earlier))
        · rcases List.mem_cons.mp later with here | rest
          · exact Or.inl (mem_setMember_names (Or.inl here))
          · exact Or.inr rest
  exact general [] (Or.inr inside)

/-! ## Paths -/

def isObject : Document Number -> Bool
  | .object _ => true
  | _ => false

/-- The value that the names lead to. -/
def descend : List (List Char) -> Document Number -> Option (Document Number)
  | [], document => some document
  | name :: rest, .object members => (member? name members).bind (descend rest)
  | _ :: _, _ => none

theorem descend_leaf (leaf : document.isObject = false) (name : List Char) (rest : List (List Char)) :
    descend (name :: rest) document = none := by
  cases document with
  | object members => cases leaf
  | null | bool | number | string | array => rfl

theorem descend_member {name : List Char} {members : Pairs Number} {value : Document Number}
    (found : member? name members = some value) (rest : List (List Char)) :
    descend (name :: rest) (.object members) = descend rest value := by
  change (member? name members).bind (descend rest) = _
  rw [found]
  rfl

theorem descend_absent {name : List Char} {members : Pairs Number} (absent : member? name members = none)
    (rest : List (List Char)) : descend (name :: rest) (.object members) = none := by
  change (member? name members).bind (descend rest) = _
  rw [absent]
  rfl

/-- A path to a leaf begins with a member. -/
theorem descend_cons_some {name : List Char} {rest : List (List Char)} {members : Pairs Number}
    {value : Document Number} (found : descend (name :: rest) (.object members) = some value) :
    exists child, member? name members = some child ∧ descend rest child = some value :=
  Option.bind_eq_some_iff.mp found

/-- The same paths lead to a value in both, and the values look alike. -/
def Alike {View : Type*} (view : Document Number -> View) (first second : Document Number) : Prop :=
  forall names, (descend names first).map view = (descend names second).map view

theorem Alike.refl {View : Type*} (view : Document Number -> View) (document : Document Number) :
    Alike view document document :=
  fun _ => rfl

/-- Objects are alike when their members are. -/
theorem Alike.object {View : Type*} {view : Document Number -> View} {members others : Pairs Number}
    (same : view (.object members) = view (.object others))
    (each : forall name, Option.Rel (Alike view) (member? name members) (member? name others)) :
    Alike view (.object members) (.object others) := by
  intro names
  cases names with
  | nil => exact congrArg some same
  | cons name rest =>
      have held := each name
      cases found : member? name members with
      | none =>
          cases other : member? name others with
          | none => rw [descend_absent found, descend_absent other]
          | some value =>
              rw [found, other] at held
              cases held
      | some value =>
          cases other : member? name others with
          | none =>
              rw [found, other] at held
              cases held
          | some otherValue =>
              rw [found, other] at held
              cases held with
              | some alike =>
                  rw [descend_member found, descend_member other]
                  exact alike rest

/-- A value that is no object. -/
def leaf? : Document Number -> Option (Document Number)
  | .object _ => none
  | leaf => some leaf

theorem leaf?_of_object (isGroup : document.isObject = true) : document.leaf? = none := by
  cases document with
  | object members => rfl
  | null | bool | number | string | array => cases isGroup

theorem leaf?_of_leaf (isLeaf : document.isObject = false) : document.leaf? = some document := by
  cases document with
  | object members => cases isLeaf
  | null | bool | number | string | array => rfl

theorem eq_of_leaf? (found : document.leaf? = some first) : document = first := by
  cases document with
  | object members => cases found
  | null | bool | number | string | array => exact Option.some.inj found

/-- The paths lead to the same leaves, and to objects in both. -/
abbrev Agrees (first second : Document Number) : Prop :=
  Alike leaf? first second

/-- The paths lead to objects in both, and to leaves in both. -/
abbrev SameShape (first second : Document Number) : Prop :=
  Alike isObject first second

/-! ## Texts of paths -/

/-- The names with a dot before each. -/
def dots (names : List (List Char)) : List Char :=
  names.flatMap fun name => '.' :: name

/-- The names with dots between them. -/
def dotted : List (List Char) -> List Char
  | [] => []
  | name :: rest => name ++ dots rest

theorem dots_append (names others : List (List Char)) : dots (names ++ others) = dots names ++ dots others :=
  List.flatMap_append

theorem dots_eq_cons {names : List (List Char)} (nonempty : names ≠ []) : dots names = '.' :: dotted names := by
  cases names with
  | nil => exact absurd rfl nonempty
  | cons name rest => rfl

theorem dots_cons (name : List Char) (rest : List (List Char)) : dots (name :: rest) = '.' :: (name ++ dots rest) :=
  rfl

end Document

end JsonText
end Foundation
