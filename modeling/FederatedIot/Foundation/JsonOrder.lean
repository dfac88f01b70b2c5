import FederatedIot.Foundation.JsonValue
import Mathlib.Data.List.Sort

namespace Foundation
namespace JsonText

/-!
# The order of members

An object has no order, so that one listing of its members stands for every
other.  Sorting the members of every object by name, under any order of the
names, chooses one listing.  Documents with distinct names that differ in the
order of their members are sorted to the same document.
-/

/-! ## Orders of names -/

/-- A decidable total order of names. -/
structure NameOrder where
  le : List Char -> List Char -> Bool
  total : forall first second, le first second = true ∨ le second first = true
  trans : forall first second third, le first second = true -> le second third = true ->
    le first third = true
  antisymm : forall first second, le first second = true -> le second first = true -> first = second

/-- The order of the code points, position by position. -/
def textLe : List Char -> List Char -> Bool
  | [], _ => true
  | _ :: _, [] => false
  | first :: rest, other :: others =>
      if first.toNat = other.toNat then textLe rest others else first.toNat < other.toNat

theorem toNat_injective {first second : Char} (same : first.toNat = second.toNat) : first = second := by
  rw [← Char.ofNat_toNat first, same, Char.ofNat_toNat]

theorem textLe_total (first second : List Char) :
    textLe first second = true ∨ textLe second first = true := by
  induction first generalizing second with
  | nil => exact Or.inl rfl
  | cons char rest inductionHypothesis =>
      cases second with
      | nil => exact Or.inr rfl
      | cons other others =>
          unfold textLe
          by_cases same : char.toNat = other.toNat
          · rw [if_pos same, if_pos same.symm]
            exact inductionHypothesis others
          · rw [if_neg same, if_neg (Ne.symm same), decide_eq_true_eq, decide_eq_true_eq]
            omega

theorem textLe_trans (first second third : List Char) (below : textLe first second = true)
    (above : textLe second third = true) : textLe first third = true := by
  induction first generalizing second third with
  | nil => rfl
  | cons char rest inductionHypothesis =>
      cases second with
      | nil => cases below
      | cons other others =>
          cases third with
          | nil => cases above
          | cons last lasts =>
              unfold textLe at below above ⊢
              by_cases firstSame : char.toNat = other.toNat
              · by_cases secondSame : other.toNat = last.toNat
                · rw [if_pos firstSame] at below
                  rw [if_pos secondSame] at above
                  rw [if_pos (firstSame.trans secondSame)]
                  exact inductionHypothesis others lasts below above
                · rw [if_neg secondSame, decide_eq_true_eq] at above
                  rw [if_neg (by omega), decide_eq_true_eq]
                  omega
              · rw [if_neg firstSame, decide_eq_true_eq] at below
                by_cases secondSame : other.toNat = last.toNat
                · rw [if_neg (by omega), decide_eq_true_eq]
                  omega
                · rw [if_neg secondSame, decide_eq_true_eq] at above
                  rw [if_neg (by omega), decide_eq_true_eq]
                  omega

theorem textLe_antisymm (first second : List Char) (below : textLe first second = true)
    (above : textLe second first = true) : first = second := by
  induction first generalizing second with
  | nil =>
      cases second with
      | nil => rfl
      | cons other others => cases above
  | cons char rest inductionHypothesis =>
      cases second with
      | nil => cases below
      | cons other others =>
          unfold textLe at below above
          by_cases same : char.toNat = other.toNat
          · rw [if_pos same] at below
            rw [if_pos same.symm] at above
            rw [toNat_injective same, inductionHypothesis others below above]
          · rw [if_neg same, decide_eq_true_eq] at below
            rw [if_neg (Ne.symm same), decide_eq_true_eq] at above
            omega

/-- Names in the order of their bytes, as Go compares strings. -/
def byText : NameOrder where
  le := textLe
  total := textLe_total
  trans := textLe_trans
  antisymm := textLe_antisymm

/-- Shorter names first, and names of one length in the order of their texts. -/
def lengthLe (size : List Char -> Nat) (first second : List Char) : Bool :=
  size first < size second || (size first = size second && textLe first second)

theorem lengthLe_iff {size : List Char -> Nat} {first second : List Char} :
    lengthLe size first second = true ↔
      size first < size second ∨ size first = size second ∧ textLe first second = true := by
  unfold lengthLe
  rw [Bool.or_eq_true, Bool.and_eq_true, decide_eq_true_eq, decide_eq_true_eq]

def byLength (size : List Char -> Nat) : NameOrder where
  le := lengthLe size
  total := by
    intro first second
    rw [lengthLe_iff, lengthLe_iff]
    rcases Nat.lt_trichotomy (size first) (size second) with less | same | greater
    · exact Or.inl (Or.inl less)
    · rcases textLe_total first second with below | above
      · exact Or.inl (Or.inr ⟨same, below⟩)
      · exact Or.inr (Or.inr ⟨same.symm, above⟩)
    · exact Or.inr (Or.inl greater)
  trans := by
    intro first second third below above
    rw [lengthLe_iff] at below above ⊢
    rcases below with less | ⟨same, below⟩
    · left
      omega
    · rcases above with less | ⟨sameToo, above⟩
      · left
        omega
      · exact Or.inr ⟨same.trans sameToo, textLe_trans first second third below above⟩
  antisymm := by
    intro first second below above
    rw [lengthLe_iff] at below above
    rcases below with less | ⟨same, below⟩
    · omega
    · rcases above with less | ⟨_, above⟩
      · omega
      · exact textLe_antisymm first second below above

/-! ## Sorting the members -/

namespace Document

variable {Number Other : Type*} {order : NameOrder}

def orderMembers (order : NameOrder) (members : List (List Char × Document Number)) :
    List (List Char × Document Number) :=
  members.insertionSort fun first second => order.le first.1 second.1 = true

mutual

/-- Order the members of every object. -/
def sort (order : NameOrder) : Document Number -> Document Number
  | .array items => .array (sortItems order items)
  | .object members => .object (orderMembers order (sortMembers order members))
  | .null => .null
  | .bool value => .bool value
  | .number value => .number value
  | .string value => .string value

def sortItems (order : NameOrder) : List (Document Number) -> List (Document Number)
  | [] => []
  | item :: rest => sort order item :: sortItems order rest

def sortMembers (order : NameOrder) :
    List (List Char × Document Number) -> List (List Char × Document Number)
  | [] => []
  | (name, value) :: rest => (name, sort order value) :: sortMembers order rest

end

theorem sortItems_eq (items : List (Document Number)) :
    sortItems order items = items.map (sort order) := by
  induction items with
  | nil => rfl
  | cons item rest inductionHypothesis =>
      unfold sortItems
      rw [inductionHypothesis, List.map_cons]

theorem sortMembers_eq (members : List (List Char × Document Number)) :
    sortMembers order members = members.map fun member => (member.1, sort order member.2) := by
  induction members with
  | nil => rfl
  | cons member rest inductionHypothesis =>
      unfold sortMembers
      rw [inductionHypothesis, List.map_cons]

theorem orderMembers_perm (members : List (List Char × Document Number)) :
    (orderMembers order members).Perm members :=
  List.perm_insertionSort _ members

theorem orderMembers_pairwise (order : NameOrder) (members : List (List Char × Document Number)) :
    (orderMembers order members).Pairwise fun first second => order.le first.1 second.1 = true := by
  have total : Std.Total fun first second : List Char × Document Number =>
      order.le first.1 second.1 = true := ⟨fun first second => order.total first.1 second.1⟩
  have trans : IsTrans (List Char × Document Number) fun first second =>
      order.le first.1 second.1 = true :=
    ⟨fun first second third => order.trans first.1 second.1 third.1⟩
  exact List.pairwise_insertionSort _ members

/-- Members with distinct names have one sorted listing. -/
theorem orderMembers_eq_of_perm {members others : List (List Char × Document Number)}
    (perm : members.Perm others) (nodup : (members.map Prod.fst).Nodup) :
    orderMembers order members = orderMembers order others := by
  refine List.Perm.eq_of_pairwise ?_ (orderMembers_pairwise order members)
    (orderMembers_pairwise order others)
    ((orderMembers_perm members).trans (perm.trans (orderMembers_perm others).symm))
  intro first second firstMember secondMember below above
  have firstInside := (orderMembers_perm members).mem_iff.mp firstMember
  have secondInside := perm.mem_iff.mpr ((orderMembers_perm others).mem_iff.mp secondMember)
  exact List.inj_on_of_nodup_map nodup firstInside secondInside (order.antisymm _ _ below above)

/-! ## Documents that differ in their order -/

/-- The documents differ in the order of the members of their objects. -/
inductive Reorder : Document Number -> Document Number -> Prop
  | object {members others : List (List Char × Document Number)} : members.Perm others ->
      Reorder (.object members) (.object others)
  | item {first second : Document Number} (before after : List (Document Number)) :
      Reorder first second -> Reorder (.array (before ++ first :: after)) (.array (before ++ second :: after))
  | member {first second : Document Number} (before : List (List Char × Document Number))
      (name : List Char) (after : List (List Char × Document Number)) : Reorder first second ->
      Reorder (.object (before ++ (name, first) :: after)) (.object (before ++ (name, second) :: after))
  | refl (document : Document Number) : Reorder document document
  | trans {first second third : Document Number} : Reorder first second -> Reorder second third ->
      Reorder first third

namespace Reorder

variable {first second : Document Number}

theorem distinct (reorder : Reorder first second) (isDistinct : first.Distinct) : second.Distinct := by
  induction reorder with
  | object perm =>
      cases isDistinct with
      | object nodup each =>
          exact Distinct.object ((perm.map Prod.fst).nodup_iff.mp nodup)
            fun member inside => each member (perm.mem_iff.mpr inside)
  | @item first second before after _ inductionHypothesis =>
      cases isDistinct with
      | array each =>
          refine Distinct.array fun item inside => ?_
          rcases List.mem_append.mp inside with earlier | later
          · exact each item (List.mem_append_left _ earlier)
          · rcases List.mem_cons.mp later with same | last
            · rw [same]
              exact inductionHypothesis (each first (List.mem_append_right _ List.mem_cons_self))
            · exact each item (List.mem_append_right _ (List.mem_cons_of_mem _ last))
  | @member first second before name after _ inductionHypothesis =>
      cases isDistinct with
      | object nodup each =>
          refine Distinct.object ?_ fun member inside => ?_
          · rw [List.map_append, List.map_cons] at nodup ⊢
            exact nodup
          · rcases List.mem_append.mp inside with earlier | later
            · exact each member (List.mem_append_left _ earlier)
            · rcases List.mem_cons.mp later with same | last
              · rw [same]
                exact inductionHypothesis (each (name, first)
                  (List.mem_append_right _ List.mem_cons_self))
              · exact each member (List.mem_append_right _ (List.mem_cons_of_mem _ last))
  | refl _ => exact isDistinct
  | trans _ _ firstHypothesis secondHypothesis => exact secondHypothesis (firstHypothesis isDistinct)

/-- The order of the members is lost in sorting. -/
theorem sort_eq (order : NameOrder) (reorder : Reorder first second) (isDistinct : first.Distinct) :
    first.sort order = second.sort order := by
  induction reorder with
  | @object members others perm =>
      cases isDistinct with
      | object nodup _ =>
          change Document.object _ = Document.object _
          rw [sortMembers_eq, sortMembers_eq]
          refine congrArg Document.object (orderMembers_eq_of_perm (perm.map _) ?_)
          rw [List.map_map]
          exact nodup
  | @item first second before after _ inductionHypothesis =>
      cases isDistinct with
      | array each =>
          have same := inductionHypothesis (each first (List.mem_append_right _ List.mem_cons_self))
          change Document.array _ = Document.array _
          rw [sortItems_eq, sortItems_eq, List.map_append, List.map_append, List.map_cons, List.map_cons,
            same]
  | @member first second before name after _ inductionHypothesis =>
      cases isDistinct with
      | object _ each =>
          have same := inductionHypothesis (each (name, first) (List.mem_append_right _ List.mem_cons_self))
          change Document.object _ = Document.object _
          rw [sortMembers_eq, sortMembers_eq, List.map_append, List.map_append, List.map_cons,
            List.map_cons, same]
  | refl _ => rfl
  | trans firstReorder _ firstHypothesis secondHypothesis =>
      exact (firstHypothesis isDistinct).trans (secondHypothesis (firstReorder.distinct isDistinct))

/-- Reorderings of the items are a reordering of the array. -/
theorem items {change : Document Number -> Document Number} {items : List (Document Number)}
    (each : ∀ item ∈ items, Reorder item (change item)) (before : List (Document Number)) :
    Reorder (.array (before ++ items)) (.array (before ++ items.map change)) := by
  induction items generalizing before with
  | nil => exact refl _
  | cons head rest inductionHypothesis =>
      have later := inductionHypothesis (fun item inside => each item (List.mem_cons_of_mem _ inside))
        (before ++ [change head])
      rw [List.append_assoc, List.append_assoc] at later
      exact trans (item before rest (each head List.mem_cons_self)) later

theorem members {change : Document Number -> Document Number}
    {members : List (List Char × Document Number)}
    (each : ∀ member ∈ members, Reorder (Prod.snd member) (change member.2))
    (before : List (List Char × Document Number)) :
    Reorder (.object (before ++ members))
      (.object (before ++ members.map fun member => (member.1, change member.2))) := by
  induction members generalizing before with
  | nil => exact refl _
  | cons head rest inductionHypothesis =>
      have later := inductionHypothesis (fun item inside => each item (List.mem_cons_of_mem _ inside))
        (before ++ [(head.1, change head.2)])
      rw [List.append_assoc, List.append_assoc] at later
      exact trans (member before head.1 rest (each head List.mem_cons_self)) later

end Reorder

/-- Sorting is a reordering. -/
theorem reorder_sort (order : NameOrder) (document : Document Number) :
    Reorder document (document.sort order) := by
  have hereditary : Hereditary fun document : Document Number => Reorder document (document.sort order) := by
    refine ⟨Reorder.refl _, fun _ => Reorder.refl _, fun _ => Reorder.refl _, fun _ => Reorder.refl _,
      ?_, ?_⟩
    · intro items each
      change Reorder _ (Document.array _)
      rw [sortItems_eq]
      exact Reorder.items each []
    · intro members each
      change Reorder _ (Document.object _)
      rw [sortMembers_eq]
      exact Reorder.trans (Reorder.members each []) (Reorder.object (orderMembers_perm _).symm)
  exact hereditary.all document

variable {document : Document Number}

theorem Distinct.sort (distinct : Distinct document) (order : NameOrder) : (document.sort order).Distinct :=
  (reorder_sort order document).distinct distinct

/-- A sorted document is sorted to itself. -/
theorem Distinct.sort_sort (distinct : Distinct document) (order : NameOrder) :
    (document.sort order).sort order = document.sort order :=
  ((reorder_sort order document).sort_eq order distinct).symm

/-- Sorting after another sorting. -/
theorem Distinct.sort_after (distinct : Distinct document) (order other : NameOrder) :
    (document.sort other).sort order = document.sort order :=
  ((reorder_sort other document).sort_eq order distinct).symm

/-! ## Conversions and the order -/

theorem orderMembers_map (convert : Number -> Other) (members : List (List Char × Document Number)) :
    (orderMembers order members).map (fun member => (member.1, member.2.map convert)) =
      orderMembers order (members.map fun member => (member.1, member.2.map convert)) := by
  unfold orderMembers
  apply List.map_insertionSort
  intro first _ second _
  exact Iff.rfl

/-- Numbers are converted before or after sorting. -/
theorem map_sort (convert : Number -> Other) (document : Document Number) :
    (document.sort order).map convert = (document.map convert).sort order := by
  have hereditary : Hereditary fun document : Document Number =>
      (document.sort order).map convert = (document.map convert).sort order := by
    refine ⟨rfl, fun _ => rfl, fun _ => rfl, fun _ => rfl, ?_, ?_⟩
    · intro items same
      change Document.array _ = Document.array _
      rw [sortItems_eq, mapItems_eq, mapItems_eq, sortItems_eq, List.map_map, List.map_map]
      exact congrArg Document.array (List.map_congr_left fun item member => same item member)
    · intro members same
      change Document.object _ = Document.object _
      rw [sortMembers_eq, mapMembers_eq, mapMembers_eq, sortMembers_eq, orderMembers_map, List.map_map,
        List.map_map]
      refine congrArg (fun list => Document.object (orderMembers order list)) ?_
      exact List.map_congr_left fun member inside => Prod.ext rfl (same member inside)
  exact hereditary.all document

end Document

end JsonText
end Foundation
