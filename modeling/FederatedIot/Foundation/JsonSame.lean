import FederatedIot.Foundation.Jsonb
import FederatedIot.Foundation.JsonPaths

namespace Foundation
namespace JsonText

/-!
# Documents up to the order of their members

Documents are the same when sorting makes them equal.  The same objects have the same
value by every name, and objects whose names are distinct are the same when they do.
What a decoder reads of a document, name by name, does not depend on the order.
-/

namespace Document

variable {Number : Type*} {first second third document other : Document Number}

/-- Only the order of the members differs. -/
def Same (first second : Document Number) : Prop :=
  first.sort byText = second.sort byText

theorem Same.refl (document : Document Number) : Same document document :=
  rfl

theorem Same.symm (same : Same first second) : Same second first :=
  Eq.symm same

theorem Same.trans (earlier : Same first second) (later : Same second third) : Same first third :=
  Eq.trans earlier later

theorem Reorder.same (reorder : Reorder first second) (distinct : first.Distinct) : Same first second :=
  reorder.sort_eq byText distinct

/-- The same documents have the same numbers. -/
theorem Same.numbers_iff {property : Number -> Prop} (same : Same first second) :
    first.Numbers property ↔ second.Numbers property := by
  rw [← @numbers_sort_iff _ first property byText, ← @numbers_sort_iff _ second property byText, same]

/-! ## Scalars -/

/-- A value that has no order. -/
def isScalar : Document Number -> Bool
  | .array _ | .object _ => false
  | .null | .bool _ | .number _ | .string _ => true

theorem Same.eq_of_scalar (same : Same first second) (scalar : first.isScalar = true) : second = first := by
  cases first with
  | array items => cases scalar
  | object members => cases scalar
  | null | bool | number | string =>
      cases second with
      | null | bool | number | string => exact Eq.symm same
      | array | object => cases same

theorem Distinct.of_scalar (scalar : document.isScalar = true) : document.Distinct := by
  cases document with
  | null => exact Distinct.null
  | bool value => exact Distinct.bool value
  | number value => exact Distinct.number value
  | string value => exact Distinct.string value
  | array | object => cases scalar

/-! ## Lists -/

theorem Same.array_left {items : List (Document Number)} (same : Same (.array items) document) :
    exists others, document = .array others ∧ List.Forall₂ Same items others := by
  cases document with
  | array others =>
      refine ⟨others, rfl, ?_⟩
      have lists := Document.array.inj same
      rw [sortItems_eq, sortItems_eq] at lists
      rw [← List.forall₂_eq_eq_eq, List.forall₂_map_left_iff, List.forall₂_map_right_iff] at lists
      exact lists
  | null | bool | number | string | object => cases same

theorem Same.array {items others : List (Document Number)} (each : List.Forall₂ Same items others) :
    Same (.array items) (.array others) := by
  change Document.array _ = Document.array _
  rw [sortItems_eq, sortItems_eq]
  apply congrArg Document.array
  rw [← List.forall₂_eq_eq_eq, List.forall₂_map_left_iff, List.forall₂_map_right_iff]
  exact each

/-! ## Objects -/

theorem Same.object_left {members : Pairs Number} (same : Same (.object members) document) :
    exists others, document = .object others := by
  cases document with
  | object others => exact ⟨others, rfl⟩
  | null | bool | number | string | array => cases same

theorem member?_map {Other : Type*} (change : Document Number -> Document Other) (name : List Char)
    (members : Pairs Number) :
    member? name (members.map fun member => (member.1, change member.2)) = (member? name members).map change := by
  induction members with
  | nil => rfl
  | cons member rest inductionHypothesis =>
      rcases member with ⟨key, value⟩
      rw [List.map_cons, member?_cons, member?_cons, inductionHypothesis]
      by_cases here : key = name
      · rw [if_pos here, if_pos here]
        rfl
      · rw [if_neg here, if_neg here]

/-- The value of a name does not depend on the order. -/
theorem member?_perm {members others : Pairs Number} (perm : members.Perm others)
    (nodup : (members.map Prod.fst).Nodup) (name : List Char) : member? name members = member? name others := by
  cases found : member? name members with
  | none =>
      have absent := member?_eq_none_iff.mp found
      rw [(perm.map Prod.fst).mem_iff] at absent
      exact (member?_eq_none_iff.mpr absent).symm
  | some value =>
      have inside := perm.mem_iff.mp (mem_of_member? found)
      exact (member?_of_mem ((perm.map Prod.fst).nodup_iff.mp nodup) inside).symm

/-- Values by a name in a sorted object. -/
theorem member?_sorted {members : Pairs Number} (nodup : (members.map Prod.fst).Nodup) (name : List Char) :
    member? name (orderMembers byText (sortMembers byText members)) = (member? name members).map (sort byText) := by
  rw [sortMembers_eq, ← member?_map]
  refine (member?_perm (orderMembers_perm _).symm ?_ name).symm
  rw [List.map_map]
  exact nodup

theorem Distinct.names {members : Pairs Number} (distinct : (Document.object members).Distinct) :
    (members.map Prod.fst).Nodup := by
  cases distinct with
  | object nodup _ => exact nodup

theorem Distinct.member {members : Pairs Number} (distinct : (Document.object members).Distinct) {name : List Char}
    {value : Document Number} (found : member? name members = some value) : value.Distinct := by
  cases distinct with
  | object _ each => exact each _ (mem_of_member? found)

theorem Distinct.item {items : List (Document Number)} (distinct : (Document.array items).Distinct)
    {item : Document Number} (inside : item ∈ items) : item.Distinct := by
  cases distinct with
  | array each => exact each item inside

/-- The same objects have the same values. -/
theorem Same.related {members others : Pairs Number} (same : Same (.object members) (.object others))
    (nodup : (members.map Prod.fst).Nodup) (otherNodup : (others.map Prod.fst).Nodup) (name : List Char) :
    Option.Rel Same (member? name members) (member? name others) := by
  have lists : orderMembers byText (sortMembers byText members) = orderMembers byText (sortMembers byText others) :=
    Document.object.inj same
  have values := member?_sorted nodup name
  rw [lists, member?_sorted otherNodup name] at values
  cases found : member? name members with
  | none =>
      rw [found, Option.map_none, Option.map_eq_none_iff] at values
      rw [values]
      exact Option.Rel.none
  | some value =>
      rw [found, Option.map_some, Option.map_eq_some_iff] at values
      rcases values with ⟨otherValue, isOther, sorted⟩
      rw [isOther]
      exact Option.Rel.some sorted.symm

/-- A value by a name, in the same object. -/
theorem Same.found {members others : Pairs Number} (same : Same (.object members) (.object others))
    (nodup : (members.map Prod.fst).Nodup) (otherNodup : (others.map Prod.fst).Nodup) {name : List Char}
    {value : Document Number} (found : member? name members = some value) :
    exists other, member? name others = some other ∧ Same value other := by
  have related := same.related nodup otherNodup name
  rw [found] at related
  cases otherFound : member? name others with
  | none =>
      rw [otherFound] at related
      cases related
  | some other =>
      rw [otherFound] at related
      cases related with
      | some held => exact ⟨other, rfl, held⟩

/-- The same objects have the same names. -/
theorem Same.names {members others : Pairs Number} (same : Same (.object members) (.object others)) :
    (members.map Prod.fst).Perm (others.map Prod.fst) := by
  have lists : orderMembers byText (sortMembers byText members) = orderMembers byText (sortMembers byText others) :=
    Document.object.inj same
  have sorted : forall given : Pairs Number,
      ((orderMembers byText (sortMembers byText given)).map Prod.fst).Perm (given.map Prod.fst) := by
    intro given
    have perm : ((orderMembers byText (sortMembers byText given)).map Prod.fst).Perm ((sortMembers byText given).map Prod.fst) :=
      (orderMembers_perm _).map Prod.fst
    rw [sortMembers_eq, List.map_map] at perm
    rw [sortMembers_eq]
    exact perm
  have firsts := sorted members
  rw [lists] at firsts
  exact firsts.symm.trans (sorted others)

/-- Objects with the same values are the same. -/
theorem Same.object {members others : Pairs Number} (nodup : (members.map Prod.fst).Nodup)
    (otherNodup : (others.map Prod.fst).Nodup)
    (each : forall name, Option.Rel Same (member? name members) (member? name others)) :
    Same (.object members) (.object others) := by
  have names : forall given : Pairs Number, (sortMembers byText given).map Prod.fst = given.map Prod.fst := by
    intro given
    rw [sortMembers_eq, List.map_map]
    rfl
  have sortedNodup : ((sortMembers byText members).map Prod.fst).Nodup := by rwa [names]
  have otherSortedNodup : ((sortMembers byText others).map Prod.fst).Nodup := by rwa [names]
  have values : forall name, member? name (sortMembers byText members) =
      member? name (sortMembers byText others) := by
    intro name
    rw [sortMembers_eq, sortMembers_eq, member?_map, member?_map]
    have held := each name
    revert held
    cases member? name members with
    | none =>
        cases member? name others with
        | none => exact fun _ => rfl
        | some value => exact fun wrong => (by cases wrong)
    | some value =>
        cases member? name others with
        | none => exact fun wrong => (by cases wrong)
        | some other =>
            intro held
            cases held with
            | some same => exact congrArg some same
  change Document.object _ = Document.object _
  refine congrArg Document.object (orderMembers_eq_of_perm ?_ sortedNodup)
  refine (List.perm_ext_iff_of_nodup sortedNodup.of_map otherSortedNodup.of_map).mpr fun member => ?_
  constructor
  · intro inside
    have found := member?_of_mem sortedNodup inside
    rw [values] at found
    exact mem_of_member? found
  · intro inside
    have found := member?_of_mem otherSortedNodup inside
    rw [← values] at found
    exact mem_of_member? found

/-! ## Numbers -/

theorem numbers_object_iff {property : Number -> Prop} {members : Pairs Number} :
    (Document.object members).Numbers property ↔ ∀ member ∈ members, member.2.Numbers property := by
  constructor
  · intro numbers
    cases numbers with
    | object each => exact each
  · exact Numbers.object

theorem numbers_array_iff {property : Number -> Prop} {items : List (Document Number)} :
    (Document.array items).Numbers property ↔ ∀ item ∈ items, item.Numbers property := by
  constructor
  · intro numbers
    cases numbers with
    | array each => exact each
  · exact Numbers.array

/-- Converted numbers have what every conversion has. -/
theorem numbers_map {Other : Type*} {property : Other -> Prop} {convert : Number -> Other}
    (holds : forall value, property (convert value)) (document : Document Number) :
    (document.map convert).Numbers property := by
  have hereditary : Hereditary fun document : Document Number => (document.map convert).Numbers property := by
    refine ⟨Numbers.null, Numbers.bool, fun value => Numbers.number (holds value), Numbers.string, ?_, ?_⟩
    · intro items each
      change (Document.array (mapItems convert items)).Numbers property
      rw [mapItems_eq, numbers_array_iff, List.forall_mem_map]
      exact each
    · intro members each
      change (Document.object (mapMembers convert members)).Numbers property
      rw [mapMembers_eq, numbers_object_iff, List.forall_mem_map]
      exact each
  exact hereditary.all document

end Document

/-! ## Encodings -/

variable {value other : Document Double}

/-- Values have one encoding exactly when they are the same. -/
theorem marshal_eq_iff (distinct : value.Distinct) (otherDistinct : other.Distinct) :
    marshal value = marshal other ↔ Document.Same value other := by
  constructor
  · exact sort_of_marshal distinct otherDistinct
  · intro same
    unfold marshal
    rw [same]

/-- What was encoded is decoded with one member for every name. -/
theorem unmarshal_marshal_collapse (value : Document Double) :
    unmarshal (marshal value) = some (value.sort byText).collapse := by
  have doubles : ((value.sort byText).map Double.format).traverse finite? = some ((value.sort byText).map fun number => number) :=
    Document.traverse_map finite?_format _
  rw [Document.map_self] at doubles
  unfold unmarshal marshal
  rw [parse_print, Option.bind_some, doubles]
  rfl

end JsonText

/-! ## Stored values -/

namespace Jsonb

open JsonText

variable {value other : Document Double} {stored : Document Decimal}

/-- A stored value comes back the same, but no zero has a sign. -/
theorem text_same (distinct : value.Distinct) (isStored : ofText (marshal value) = some stored) :
    exists back, unmarshal (text stored) = some back ∧ Document.Same (value.map Double.clearZero) back := by
  rcases unmarshal_text distinct isStored with ⟨back, decoded, reorder⟩
  exact ⟨back, decoded, reorder.same (distinct.map _)⟩

theorem text_unsigned (distinct : value.Distinct) (isStored : ofText (marshal value) = some stored)
    (decoded : unmarshal (text stored) = some other) : other.Numbers fun number => ¬number.IsNegativeZero := by
  rcases text_same distinct isStored with ⟨back, isBack, same⟩
  rw [decoded] at isBack
  rw [Option.some.inj isBack, ← same.numbers_iff]
  exact @Document.numbers_map _ _ (fun number => ¬number.IsNegativeZero) Double.clearZero
    Double.clearZero_not_negative value

end Jsonb
end Foundation
