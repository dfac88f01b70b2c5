import FederatedIot.Foundation.Doubles
import FederatedIot.Foundation.JsonOrder

namespace Foundation
namespace JsonText

/-!
# Decoded values and their encoding

A decoder reads every number of a text as a double and keeps the last member of
every name.  An encoder writes the members of every object in the order of their
names and every number with the fewest digits.  What was encoded is decoded to
the same value, so an encoding tells the value up to the order of its members.
-/

/-! ## Documents -/

namespace Document

variable {Number Other : Type*} {document other : Document Number}

theorem map_self (document : Document Number) : document.map (fun value => value) = document := by
  have hereditary : Hereditary fun document : Document Number => document.Numbers fun value => value = value :=
    ⟨Numbers.null, Numbers.bool, fun _ => Numbers.number rfl, Numbers.string, fun _ each => Numbers.array each,
      fun _ each => Numbers.object each⟩
  exact map_eq_self_iff.mpr (hereditary.all document)

theorem Numbers.imp {property wider : Number -> Prop} (numbers : document.Numbers property)
    (implies : forall value, property value -> wider value) : document.Numbers wider := by
  induction numbers with
  | null => exact Numbers.null
  | bool value => exact Numbers.bool value
  | number held => exact Numbers.number (implies _ held)
  | string value => exact Numbers.string value
  | array _ inductionHypothesis => exact Numbers.array inductionHypothesis
  | object _ inductionHypothesis => exact Numbers.object inductionHypothesis

theorem Reorder.symm (reorder : Reorder document other) : Reorder other document := by
  induction reorder with
  | object perm => exact Reorder.object perm.symm
  | item before after _ inductionHypothesis => exact Reorder.item before after inductionHypothesis
  | member before name after _ inductionHypothesis => exact Reorder.member before name after inductionHypothesis
  | refl document => exact Reorder.refl document
  | trans _ _ firstHypothesis secondHypothesis => exact Reorder.trans secondHypothesis firstHypothesis

/-- The numbers do not depend on the order of the members. -/
theorem Reorder.numbers {property : Number -> Prop} (reorder : Reorder document other)
    (numbers : document.Numbers property) : other.Numbers property := by
  induction reorder with
  | object perm =>
      cases numbers with
      | object each => exact Numbers.object fun member inside => each member (perm.mem_iff.mpr inside)
  | @item first second before after _ inductionHypothesis =>
      cases numbers with
      | array each =>
          refine Numbers.array fun item inside => ?_
          rcases List.mem_append.mp inside with earlier | later
          · exact each item (List.mem_append_left _ earlier)
          · rcases List.mem_cons.mp later with same | last
            · rw [same]
              exact inductionHypothesis (each first (List.mem_append_right _ List.mem_cons_self))
            · exact each item (List.mem_append_right _ (List.mem_cons_of_mem _ last))
  | @member first second before name after _ inductionHypothesis =>
      cases numbers with
      | object each =>
          refine Numbers.object fun member inside => ?_
          rcases List.mem_append.mp inside with earlier | later
          · exact each member (List.mem_append_left _ earlier)
          · rcases List.mem_cons.mp later with same | last
            · rw [same]
              exact inductionHypothesis (each (name, first) (List.mem_append_right _ List.mem_cons_self))
            · exact each member (List.mem_append_right _ (List.mem_cons_of_mem _ last))
  | refl _ => exact numbers
  | trans _ _ firstHypothesis secondHypothesis => exact secondHypothesis (firstHypothesis numbers)

theorem numbers_sort_iff {property : Number -> Prop} {order : NameOrder} :
    (document.sort order).Numbers property ↔ document.Numbers property :=
  ⟨(reorder_sort order document).symm.numbers, (reorder_sort order document).numbers⟩

end Document

/-! ## Checks of all numbers -/

namespace Document

variable {Number : Type*} (check : Number -> Bool)

mutual

/-- Whether every number passes the check. -/
def allNumbers : Document Number -> Bool
  | .number value => check value
  | .array items => allItems items
  | .object members => allMembers members
  | .null | .bool _ | .string _ => true

def allItems : List (Document Number) -> Bool
  | [] => true
  | item :: rest => allNumbers item && allItems rest

def allMembers : List (List Char × Document Number) -> Bool
  | [] => true
  | (_, value) :: rest => allNumbers value && allMembers rest

end

theorem allItems_iff {items : List (Document Number)} :
    allItems check items = true ↔ ∀ item ∈ items, allNumbers check item = true := by
  induction items with
  | nil => exact ⟨fun _ _ inside => (by cases inside), fun _ => rfl⟩
  | cons item rest inductionHypothesis =>
      rw [allItems, Bool.and_eq_true, inductionHypothesis, List.forall_mem_cons]

theorem allMembers_iff {members : List (List Char × Document Number)} :
    allMembers check members = true ↔ ∀ member ∈ members, allNumbers check (Prod.snd member) = true := by
  induction members with
  | nil => exact ⟨fun _ _ inside => (by cases inside), fun _ => rfl⟩
  | cons member rest inductionHypothesis =>
      rcases member with ⟨name, value⟩
      rw [allMembers, Bool.and_eq_true, inductionHypothesis, List.forall_mem_cons]

theorem allNumbers_iff (document : Document Number) :
    allNumbers check document = true ↔ document.Numbers fun value => check value = true := by
  have hereditary : Hereditary fun document : Document Number =>
      allNumbers check document = true ↔ document.Numbers fun value => check value = true := by
    refine ⟨⟨fun _ => Numbers.null, fun _ => rfl⟩, fun value => ⟨fun _ => Numbers.bool value, fun _ => rfl⟩, ?_,
      fun value => ⟨fun _ => Numbers.string value, fun _ => rfl⟩, ?_, ?_⟩
    · intro value
      constructor
      · exact fun passes => Numbers.number passes
      · rintro ⟨⟩
        assumption
    · intro items each
      change allItems check items = true ↔ _
      rw [allItems_iff]
      constructor
      · exact fun all => Numbers.array fun item inside => (each item inside).mp (all item inside)
      · intro numbers item inside
        cases numbers with
        | array all => exact (each item inside).mpr (all item inside)
    · intro members each
      change allMembers check members = true ↔ _
      rw [allMembers_iff]
      constructor
      · exact fun all => Numbers.object fun member inside => (each member inside).mp (all member inside)
      · intro numbers member inside
        cases numbers with
        | object all => exact (each member inside).mpr (all member inside)
  exact hereditary.all document

end Document

/-! ## Members -/

/-- The value of a name. -/
def Document.member? {Number : Type*} (name : List Char) (members : List (List Char × Document Number)) :
    Option (Document Number) :=
  (members.find? fun member => member.1 = name).map Prod.snd

theorem Document.mem_of_member? {Number : Type*} {name : List Char}
    {members : List (List Char × Document Number)} {value : Document Number}
    (found : member? name members = some value) : (name, value) ∈ members := by
  rcases Option.map_eq_some_iff.mp found with ⟨member, isMember, rfl⟩
  have named : member.1 = name := of_decide_eq_true (List.find?_some isMember :)
  rw [← named]
  exact List.mem_of_find?_eq_some isMember

/-- A member is the value of its name when the names are distinct. -/
theorem Document.member?_of_mem {Number : Type*} {members : List (List Char × Document Number)}
    {member : List Char × Document Number} (nodup : (members.map Prod.fst).Nodup) (inside : member ∈ members) :
    member? member.1 members = some member.2 := by
  unfold member?
  cases found : members.find? fun other => other.1 = member.1 with
  | none => exact absurd (decide_eq_true rfl) (List.find?_eq_none.mp found member inside)
  | some other =>
      have named : other.1 = member.1 := of_decide_eq_true (List.find?_some found :)
      rw [List.inj_on_of_nodup_map nodup (List.mem_of_find?_eq_some found) inside named]
      rfl

/-! ## Decoding and encoding -/

/-- A number in the range of the doubles. -/
def finite? (value : Numeral) : Option Double :=
  match read value with
  | .finite double => some double
  | .infinite _ => none

theorem finite?_format (value : Double) : finite? value.format = some value := by
  unfold finite?
  rw [read_format]

/-- `json.Unmarshal` into a variable of any type. -/
def unmarshal (text : List Char) : Option (Document Double) :=
  (parse text).bind fun document => (document.traverse finite?).map Document.collapse

/-- `json.Marshal` of a decoded value. -/
def marshal (value : Document Double) : List Char :=
  print ((value.sort byText).map Double.format)

variable {text : List Char} {value other : Document Double}

theorem distinct_of_unmarshal (decoded : unmarshal text = some value) : value.Distinct := by
  rcases Option.bind_eq_some_iff.mp decoded with ⟨document, _, converted⟩
  rcases Option.map_eq_some_iff.mp converted with ⟨doubles, _, rfl⟩
  exact Document.distinct_collapse doubles

/-- The text of a document whose numbers are read as other numbers is decoded to these. -/
theorem unmarshal_print {Number : Type*} {write : Number -> Numeral} {total : Number -> Double}
    {document : Document Number} (reads : forall number, finite? (write number) = some (total number))
    (distinct : document.Distinct) : unmarshal (print (document.map write)) = some (document.map total) := by
  unfold unmarshal
  rw [parse_print, Option.bind_some, Document.traverse_map reads, Option.map_some, (distinct.map total).collapse]

/-- What was encoded is decoded to the same value. -/
theorem unmarshal_marshal (distinct : value.Distinct) : unmarshal (marshal value) = some (value.sort byText) := by
  have decoded := unmarshal_print finite?_format (distinct.sort byText)
  rw [Document.map_self] at decoded
  exact decoded

/-- The encoding of an object does not depend on the order of its members. -/
theorem marshal_reorder (reorder : Document.Reorder value other) (distinct : value.Distinct) :
    marshal value = marshal other := by
  unfold marshal
  rw [reorder.sort_eq byText distinct]

/-- Values with one encoding differ in the order of their members. -/
theorem sort_of_marshal (distinct : value.Distinct) (otherDistinct : other.Distinct)
    (same : marshal value = marshal other) : value.sort byText = other.sort byText := by
  have decoded := unmarshal_marshal distinct
  rw [same, unmarshal_marshal otherDistinct] at decoded
  exact (Option.some.inj decoded).symm

theorem mem_sort_map {members : List (List Char × Document Double)} {encoded : List Char × Document Numeral} :
    encoded ∈ Document.mapMembers Double.format (Document.orderMembers byText (Document.sortMembers byText members)) ↔
      ∃ member ∈ members, encoded = (member.1, (member.2.sort byText).map Double.format) := by
  rw [Document.mapMembers_eq, List.mem_map]
  constructor
  · rintro ⟨sorted, isSorted, rfl⟩
    have inside := (Document.orderMembers_perm _).mem_iff.mp isSorted
    rw [Document.sortMembers_eq, List.mem_map] at inside
    rcases inside with ⟨member, isMember, rfl⟩
    exact ⟨member, isMember, rfl⟩
  · rintro ⟨member, isMember, rfl⟩
    refine ⟨(member.1, member.2.sort byText), (Document.orderMembers_perm _).mem_iff.mpr ?_, rfl⟩
    rw [Document.sortMembers_eq]
    exact List.mem_map.mpr ⟨member, isMember, rfl⟩

/-- A text in an object is told by the encoding. -/
theorem string_of_marshal {members others : List (List Char × Document Double)} {name content : List Char}
    (same : marshal (.object members) = marshal (.object others)) (inside : (name, .string content) ∈ members) :
    (name, .string content) ∈ others := by
  have documents := congrArg parse same
  unfold marshal at documents
  rw [parse_print, parse_print] at documents
  have lists := Document.object.inj (Option.some.inj documents)
  have encoded : (name, Document.string content) ∈
      Document.mapMembers Double.format (Document.orderMembers byText (Document.sortMembers byText members)) :=
    mem_sort_map.mpr ⟨_, inside, rfl⟩
  rw [lists] at encoded
  rcases mem_sort_map.mp encoded with ⟨⟨key, value⟩, isOther, pair⟩
  rcases Prod.mk.inj pair with ⟨rfl, text⟩
  cases value with
  | string found =>
      cases text
      exact isOther
  | null | bool | number | array | object => cases text

end JsonText
end Foundation
