import FederatedIot.Foundation.JsonReading

namespace Foundation
namespace JsonText

/-!
# Values of JSON documents

The value of a text is its document with the literals converted to numbers and
with one member for every name, the last one of the text.  A value has no name
twice, and a document whose names are distinct is its own value.
-/

namespace Document

variable {Number Other : Type*}

/-! ## Numbers -/

mutual

/-- Convert every number of a document. -/
def map (convert : Number -> Other) : Document Number -> Document Other
  | .null => .null
  | .bool value => .bool value
  | .number value => .number (convert value)
  | .string value => .string value
  | .array items => .array (mapItems convert items)
  | .object members => .object (mapMembers convert members)

def mapItems (convert : Number -> Other) : List (Document Number) -> List (Document Other)
  | [] => []
  | item :: rest => map convert item :: mapItems convert rest

def mapMembers (convert : Number -> Other) :
    List (List Char × Document Number) -> List (List Char × Document Other)
  | [] => []
  | (name, value) :: rest => (name, map convert value) :: mapMembers convert rest

end

theorem mapItems_eq (convert : Number -> Other) (items : List (Document Number)) :
    mapItems convert items = items.map (map convert) := by
  induction items with
  | nil => rfl
  | cons item rest inductionHypothesis =>
      unfold mapItems
      rw [inductionHypothesis, List.map_cons]

theorem mapMembers_eq (convert : Number -> Other) (members : List (List Char × Document Number)) :
    mapMembers convert members = members.map fun member => (member.1, map convert member.2) := by
  induction members with
  | nil => rfl
  | cons member rest inductionHypothesis =>
      unfold mapMembers
      rw [inductionHypothesis, List.map_cons]

/-- Conversions follow one another. -/
theorem map_map {Third : Type*} (second : Other -> Third) (first : Number -> Other)
    (document : Document Number) : (document.map first).map second = document.map (second ∘ first) := by
  have hereditary : Hereditary fun document : Document Number =>
      (document.map first).map second = document.map (second ∘ first) := by
    refine ⟨rfl, fun _ => rfl, fun _ => rfl, fun _ => rfl, ?_, ?_⟩
    · intro items same
      change Document.array _ = Document.array _
      rw [mapItems_eq, mapItems_eq, mapItems_eq, List.map_map]
      exact congrArg Document.array (List.map_congr_left fun item member => same item member)
    · intro members same
      change Document.object _ = Document.object _
      rw [mapMembers_eq, mapMembers_eq, mapMembers_eq, List.map_map]
      refine congrArg Document.object (List.map_congr_left fun member inside => ?_)
      exact Prod.ext rfl (same member inside)
  exact hereditary.all document

/-! ## Distinct names -/

/-- Give a name its value, at its place or at the end. -/
def setMember (name : List Char) (value : Document Number) :
    List (List Char × Document Number) -> List (List Char × Document Number)
  | [] => [(name, value)]
  | member :: rest =>
      if member.1 = name then (name, value) :: rest else member :: setMember name value rest

/-- The last member of every name. -/
def keepLast (members : List (List Char × Document Number)) : List (List Char × Document Number) :=
  members.foldl (fun kept member => setMember member.1 member.2 kept) []

mutual

/-- One member for every name, at every depth. -/
def collapse : Document Number -> Document Number
  | .array items => .array (collapseItems items)
  | .object members => .object (keepLast (collapseMembers members))
  | .null => .null
  | .bool value => .bool value
  | .number value => .number value
  | .string value => .string value

def collapseItems : List (Document Number) -> List (Document Number)
  | [] => []
  | item :: rest => collapse item :: collapseItems rest

def collapseMembers : List (List Char × Document Number) -> List (List Char × Document Number)
  | [] => []
  | (name, value) :: rest => (name, collapse value) :: collapseMembers rest

end

theorem collapseItems_eq (items : List (Document Number)) :
    collapseItems items = items.map collapse := by
  induction items with
  | nil => rfl
  | cons item rest inductionHypothesis =>
      unfold collapseItems
      rw [inductionHypothesis, List.map_cons]

theorem collapseMembers_eq (members : List (List Char × Document Number)) :
    collapseMembers members = members.map fun member => (member.1, collapse member.2) := by
  induction members with
  | nil => rfl
  | cons member rest inductionHypothesis =>
      unfold collapseMembers
      rw [inductionHypothesis, List.map_cons]

/-- No object has a name twice. -/
inductive Distinct : Document Number -> Prop
  | null : Distinct .null
  | bool (value : Bool) : Distinct (.bool value)
  | number (value : Number) : Distinct (.number value)
  | string (value : List Char) : Distinct (.string value)
  | array {items : List (Document Number)} : (∀ item ∈ items, Distinct item) -> Distinct (.array items)
  | object {members : List (List Char × Document Number)} : (members.map Prod.fst).Nodup ->
      (∀ member ∈ members, Distinct (Prod.snd member)) -> Distinct (.object members)

theorem setMember_of_notMem {name : List Char} (value : Document Number)
    {members : List (List Char × Document Number)} (absent : name ∉ members.map Prod.fst) :
    setMember name value members = members ++ [(name, value)] := by
  induction members with
  | nil => rfl
  | cons member rest inductionHypothesis =>
      rw [List.map_cons, List.mem_cons, not_or] at absent
      unfold setMember
      rw [if_neg (Ne.symm absent.1), inductionHypothesis absent.2, List.cons_append]

theorem foldl_setMember {kept members : List (List Char × Document Number)}
    (nodup : ((kept ++ members).map Prod.fst).Nodup) :
    members.foldl (fun kept member => setMember member.1 member.2 kept) kept = kept ++ members := by
  induction members generalizing kept with
  | nil => rw [List.foldl_nil, List.append_nil]
  | cons member rest inductionHypothesis =>
      have absent : member.1 ∉ kept.map Prod.fst := by
        intro present
        rw [List.map_append, List.map_cons] at nodup
        exact List.disjoint_of_nodup_append nodup present List.mem_cons_self
      rw [List.foldl_cons, setMember_of_notMem member.2 absent, inductionHypothesis (by simpa using nodup)]
      simp

theorem keepLast_of_nodup {members : List (List Char × Document Number)}
    (nodup : (members.map Prod.fst).Nodup) : keepLast members = members :=
  foldl_setMember (by rw [List.nil_append]; exact nodup)

/-- A document with distinct names is its own value. -/
theorem Distinct.collapse {document : Document Number} (distinct : Distinct document) :
    document.collapse = document := by
  induction distinct with
  | null | bool | number | string => rfl
  | @array items _ inductionHypothesis =>
      change Document.array (collapseItems items) = _
      rw [collapseItems_eq]
      refine congrArg Document.array ?_
      conv_rhs => rw [← List.map_id items]
      exact List.map_congr_left fun item member => inductionHypothesis item member
  | @object members nodup _ inductionHypothesis =>
      have same : collapseMembers members = members := by
        rw [collapseMembers_eq]
        conv_rhs => rw [← List.map_id members]
        exact List.map_congr_left fun member inside => Prod.ext rfl (inductionHypothesis member inside)
      change Document.object (keepLast (collapseMembers members)) = _
      rw [same, keepLast_of_nodup nodup]

/-- The names do not depend on the numbers. -/
theorem Distinct.map {document : Document Number} (distinct : Distinct document)
    (convert : Number -> Other) : Distinct (document.map convert) := by
  induction distinct with
  | null => exact Distinct.null
  | bool value => exact Distinct.bool value
  | number value => exact Distinct.number (convert value)
  | string value => exact Distinct.string value
  | @array items _ inductionHypothesis =>
      change Distinct (Document.array (mapItems convert items))
      rw [mapItems_eq]
      apply Distinct.array
      intro item member
      rcases List.mem_map.mp member with ⟨original, inside, same⟩
      rw [← same]
      exact inductionHypothesis original inside
  | @object members nodup _ inductionHypothesis =>
      change Distinct (Document.object (mapMembers convert members))
      rw [mapMembers_eq]
      apply Distinct.object
      · rw [List.map_map]
        exact nodup
      · intro member inside
        rcases List.mem_map.mp inside with ⟨original, present, same⟩
        rw [← same]
        exact inductionHypothesis original present

/-! ## The members that are kept -/

theorem mem_setMember {name : List Char} {value : Document Number}
    {members : List (List Char × Document Number)} {member : List Char × Document Number}
    (inside : member ∈ setMember name value members) : member = (name, value) ∨ member ∈ members := by
  induction members with
  | nil => exact Or.inl (List.mem_singleton.mp inside)
  | cons head rest inductionHypothesis =>
      unfold setMember at inside
      split at inside
      · rcases List.mem_cons.mp inside with same | later
        · exact Or.inl same
        · exact Or.inr (List.mem_cons_of_mem head later)
      · rcases List.mem_cons.mp inside with same | later
        · exact Or.inr (by rw [same]; exact List.mem_cons_self)
        · rcases inductionHypothesis later with same | old
          · exact Or.inl same
          · exact Or.inr (List.mem_cons_of_mem head old)

theorem nodup_setMember {name : List Char} {value : Document Number}
    {members : List (List Char × Document Number)} (nodup : (members.map Prod.fst).Nodup) :
    ((setMember name value members).map Prod.fst).Nodup := by
  induction members with
  | nil => exact List.nodup_singleton name
  | cons head rest inductionHypothesis =>
      rw [List.map_cons, List.nodup_cons] at nodup
      unfold setMember
      split
      · rename_i same
        rw [List.map_cons, List.nodup_cons, ← same]
        exact nodup
      · rename_i different
        rw [List.map_cons, List.nodup_cons]
        refine ⟨?_, inductionHypothesis nodup.2⟩
        intro present
        rcases List.mem_map.mp present with ⟨member, inside, same⟩
        rcases mem_setMember inside with isNew | old
        · rw [isNew] at same
          exact different same.symm
        · exact nodup.1 (by rw [← same]; exact List.mem_map_of_mem old)

/-- What is kept is distinct and comes from the members. -/
theorem keepLast_spec (members : List (List Char × Document Number)) :
    ((keepLast members).map Prod.fst).Nodup ∧ ∀ member ∈ keepLast members, member ∈ members := by
  have general : forall kept : List (List Char × Document Number), (kept.map Prod.fst).Nodup ->
      ((members.foldl (fun kept member => setMember member.1 member.2 kept) kept).map Prod.fst).Nodup ∧
        ∀ member ∈ members.foldl (fun kept member => setMember member.1 member.2 kept) kept,
          member ∈ kept ∨ member ∈ members := by
    induction members with
    | nil => exact fun kept nodup => ⟨nodup, fun _ inside => Or.inl inside⟩
    | cons head rest inductionHypothesis =>
        intro kept nodup
        rcases inductionHypothesis (setMember head.1 head.2 kept) (nodup_setMember nodup) with
          ⟨later, members⟩
        refine ⟨later, fun member inside => ?_⟩
        rcases members member inside with old | new
        · rcases mem_setMember old with same | before
          · exact Or.inr (by rw [same]; exact List.mem_cons_self)
          · exact Or.inl before
        · exact Or.inr (List.mem_cons_of_mem head new)
  rcases general [] List.nodup_nil with ⟨nodup, members⟩
  refine ⟨nodup, fun member inside => ?_⟩
  rcases members member inside with old | new
  · cases old
  · exact new

/-- A value has distinct names. -/
theorem distinct_collapse (document : Document Number) : document.collapse.Distinct := by
  have hereditary : Hereditary fun document : Document Number => document.collapse.Distinct := by
    refine ⟨Distinct.null, Distinct.bool, Distinct.number, Distinct.string, ?_, ?_⟩
    · intro items each
      change Distinct (Document.array (collapseItems items))
      rw [collapseItems_eq]
      refine Distinct.array fun item inside => ?_
      rcases List.mem_map.mp inside with ⟨original, present, same⟩
      rw [← same]
      exact each original present
    · intro members each
      change Distinct (Document.object (keepLast (collapseMembers members)))
      rw [collapseMembers_eq]
      refine Distinct.object (keepLast_spec _).1 fun member inside => ?_
      rcases List.mem_map.mp ((keepLast_spec _).2 member inside) with ⟨original, present, same⟩
      rw [← same]
      exact each original present
  exact hereditary.all document

/-! ## Conversions that may fail -/

mutual

/-- Convert every number of a document, if all conversions succeed. -/
def traverse (convert : Number -> Option Other) : Document Number -> Option (Document Other)
  | .null => some .null
  | .bool value => some (.bool value)
  | .number value => (convert value).map .number
  | .string value => some (.string value)
  | .array items => (traverseItems convert items).map .array
  | .object members => (traverseMembers convert members).map .object

def traverseItems (convert : Number -> Option Other) :
    List (Document Number) -> Option (List (Document Other))
  | [] => some []
  | item :: rest =>
      (traverse convert item).bind fun first =>
        (traverseItems convert rest).map fun others => first :: others

def traverseMembers (convert : Number -> Option Other) :
    List (List Char × Document Number) -> Option (List (List Char × Document Other))
  | [] => some []
  | (name, value) :: rest =>
      (traverse convert value).bind fun first =>
        (traverseMembers convert rest).map fun others => (name, first) :: others

end

/-- A conversion that succeeds everywhere. -/
theorem traverse_map {Third : Type*} {convert : Other -> Option Third} {before : Number -> Other}
    {total : Number -> Third} (succeeds : forall value, convert (before value) = some (total value))
    (document : Document Number) : (document.map before).traverse convert = some (document.map total) := by
  have hereditary : Hereditary fun document : Document Number =>
      (document.map before).traverse convert = some (document.map total) := by
    refine ⟨rfl, fun _ => rfl, ?_, fun _ => rfl, ?_, ?_⟩
    · intro value
      change (convert (before value)).map Document.number = _
      rw [succeeds]
      rfl
    · intro items each
      have all : traverseItems convert (mapItems before items) = some (mapItems total items) := by
        induction items with
        | nil => rfl
        | cons item rest inductionHypothesis =>
            unfold mapItems traverseItems
            rw [each item List.mem_cons_self, inductionHypothesis fun other inside =>
              each other (List.mem_cons_of_mem _ inside)]
            rfl
      change (traverseItems convert (mapItems before items)).map Document.array = _
      rw [all]
      rfl
    · intro members each
      have all : traverseMembers convert (mapMembers before members) = some (mapMembers total members) := by
        induction members with
        | nil => rfl
        | cons member rest inductionHypothesis =>
            unfold mapMembers traverseMembers
            rw [each member List.mem_cons_self, inductionHypothesis fun other inside =>
              each other (List.mem_cons_of_mem _ inside)]
            rfl
      change (traverseMembers convert (mapMembers before members)).map Document.object = _
      rw [all]
      rfl
  exact hereditary.all document

/-! ## Properties of all numbers -/

/-- Every number has the property. -/
inductive Numbers (holds : Number -> Prop) : Document Number -> Prop
  | null : Numbers holds .null
  | bool (value : Bool) : Numbers holds (.bool value)
  | number {value : Number} : holds value -> Numbers holds (.number value)
  | string (value : List Char) : Numbers holds (.string value)
  | array {items : List (Document Number)} : (∀ item ∈ items, Numbers holds item) ->
      Numbers holds (.array items)
  | object {members : List (List Char × Document Number)} :
      (∀ member ∈ members, Numbers holds (Prod.snd member)) -> Numbers holds (.object members)

/-- A conversion changes nothing exactly when it changes no number. -/
theorem map_eq_self_iff {convert : Number -> Number} {document : Document Number} :
    document.map convert = document ↔ document.Numbers fun value => convert value = value := by
  have hereditary : Hereditary fun document : Document Number =>
      document.map convert = document ↔ document.Numbers fun value => convert value = value := by
    refine ⟨⟨fun _ => Numbers.null, fun _ => rfl⟩, fun _ => ⟨fun _ => Numbers.bool _, fun _ => rfl⟩, ?_,
      fun _ => ⟨fun _ => Numbers.string _, fun _ => rfl⟩, ?_, ?_⟩
    · intro value
      constructor
      · intro same
        exact Numbers.number (Document.number.inj same)
      · intro all
        cases all with
        | number same => exact congrArg Document.number same
    · intro items each
      have pointwise : items.map (map convert) = items ↔ ∀ item ∈ items, item.map convert = item := by
        conv_lhs => rhs; rw [← List.map_id items]
        exact List.map_inj_left
      change Document.array (mapItems convert items) = _ ↔ _
      rw [Document.array.injEq, mapItems_eq, pointwise]
      constructor
      · exact fun same => Numbers.array fun item inside => (each item inside).mp (same item inside)
      · intro allItems
        cases allItems with
        | array all => exact fun item inside => (each item inside).mpr (all item inside)
    · intro members each
      have pointwise : members.map (fun member => (member.1, member.2.map convert)) = members ↔
          ∀ member ∈ members, member.2.map convert = member.2 := by
        conv_lhs => rhs; rw [← List.map_id members]
        rw [List.map_inj_left]
        exact forall₂_congr fun member inside =>
          ⟨fun same => (Prod.mk.inj same).2, fun same => Prod.ext rfl same⟩
      change Document.object (mapMembers convert members) = _ ↔ _
      rw [Document.object.injEq, mapMembers_eq, pointwise]
      constructor
      · exact fun same => Numbers.object fun member inside => (each member inside).mp (same member inside)
      · intro allMembers
        cases allMembers with
        | object all => exact fun member inside => (each member inside).mpr (all member inside)
  exact hereditary.all document

end Document

end JsonText
end Foundation
