import FederatedIot.Foundation.Outcome

namespace Foundation
namespace Fields

/-!
# Objects as lists of fields

A reader takes the first field of a name.  An overlay goes through the fields
of a second list and combines each with the value that the first list holds
under its name.
-/

universe u

variable {α β γ ε : Type*}

/-- The field of a field list. -/
def lookup (name : String) (fields : List (String × α)) : Option α :=
  (fields.find? fun field => field.1 = name).map Prod.snd

/-- Replace a field of a field list, or add it at the end. -/
def set (name : String) (value : α) : List (String × α) -> List (String × α)
  | [] => [(name, value)]
  | (other, old) :: rest =>
      if other = name then (name, value) :: rest else (other, old) :: set name value rest

/-- Rewrite the values and keep the names. -/
def mapValues (rewrite : α -> β) (fields : List (String × α)) : List (String × β) :=
  fields.map fun field => (field.1, rewrite field.2)

def names (fields : List (String × α)) : List String :=
  fields.map Prod.fst

/-- Combine the fields of the second list, in their order, with the values of the
first. -/
def overlay (combine : Option α -> β -> Except ε α) :
    List (String × α) -> List (String × β) -> Except ε (List (String × α))
  | base, [] => .ok base
  | base, (name, value) :: rest =>
      match combine (lookup name base) value with
      | .ok merged => overlay combine (set name merged base) rest
      | .error failure => .error failure

/-! ## Readers -/

@[simp]
theorem lookup_nil (name : String) : lookup name ([] : List (String × α)) = none :=
  rfl

theorem lookup_cons (name : String) (field : String × α) (rest : List (String × α)) :
    lookup name (field :: rest) = if field.1 = name then some field.2 else lookup name rest := by
  rw [lookup, List.find?_cons]
  by_cases same : field.1 = name
  · rw [decide_eq_true same, if_pos same]
    rfl
  · rw [decide_eq_false same, if_neg same]
    rfl

theorem mem_of_lookup {name : String} {value : α} {fields : List (String × α)}
    (found : lookup name fields = some value) : (name, value) ∈ fields := by
  rcases Option.map_eq_some_iff.mp found with ⟨field, selected, rfl⟩
  have same : field.1 = name := of_decide_eq_true (List.find?_some selected :)
  rw [← same]
  exact List.mem_of_find?_eq_some selected

theorem lookup_eq_none_iff {name : String} {fields : List (String × α)} :
    lookup name fields = none ↔ name ∉ names fields := by
  rw [lookup, Option.map_eq_none_iff, List.find?_eq_none, names, List.mem_map]
  constructor
  · rintro absent ⟨field, member, same⟩
    exact absent field member (decide_eq_true same)
  · intro absent field member same
    exact absent ⟨field, member, of_decide_eq_true same⟩

theorem exists_lookup_iff {name : String} {fields : List (String × α)} :
    (∃ value, lookup name fields = some value) ↔ name ∈ names fields := by
  rw [← Option.ne_none_iff_exists', ne_eq, lookup_eq_none_iff, not_not]

theorem lookup_of_mem {name : String} {value : α} {fields : List (String × α)}
    (distinct : (names fields).Nodup) (member : (name, value) ∈ fields) :
    lookup name fields = some value := by
  induction fields with
  | nil => cases member
  | cons head tail inductionHypothesis =>
      rw [names, List.map_cons, List.nodup_cons] at distinct
      rw [lookup_cons]
      rcases List.mem_cons.mp member with isHead | inTail
      · rw [← isHead, if_pos rfl]
      · rw [if_neg, inductionHypothesis distinct.2 inTail]
        intro same
        apply distinct.1
        rw [same]
        exact List.mem_map_of_mem (f := Prod.fst) inTail

@[simp]
theorem lookup_mapValues (rewrite : α -> β) (name : String) (fields : List (String × α)) :
    lookup name (mapValues rewrite fields) = (lookup name fields).map rewrite := by
  induction fields with
  | nil => rfl
  | cons head tail inductionHypothesis =>
      rw [mapValues, List.map_cons, lookup_cons, lookup_cons]
      by_cases same : head.1 = name
      · rw [if_pos same, if_pos same]
        rfl
      · rw [if_neg same, if_neg same]
        exact inductionHypothesis

@[simp]
theorem names_mapValues (rewrite : α -> β) (fields : List (String × α)) :
    names (mapValues rewrite fields) = names fields := by
  rw [names, mapValues, List.map_map]
  rfl

theorem mapValues_mapValues (first : α -> β) (second : β -> γ) (fields : List (String × α)) :
    mapValues second (mapValues first fields) = mapValues (second ∘ first) fields := by
  rw [mapValues, mapValues, List.map_map]
  rfl

/-- A conversion of fields that keeps their names keeps the paths to them. -/
theorem lookup_mapM {α : Type*} {β ε : Type u} {convert : String × α -> Except ε (String × β)}
    {fields : List (String × α)} {results : List (String × β)}
    (keeps : forall field result, convert field = Except.ok result -> result.1 = field.1)
    (converted : fields.mapM convert = Except.ok results) :
    names results = names fields ∧ forall name value, lookup name fields = some value ->
      ∃ result, lookup name results = some result ∧ convert (name, value) = Except.ok (name, result) := by
  have pairs := Outcome.mapM_ok_iff.mp converted
  clear converted
  induction pairs with
  | nil => exact ⟨rfl, fun _ _ impossible => (by cases impossible)⟩
  | @cons field result rest others headConverted _ inductionHypothesis =>
      have sameName := keeps field result headConverted
      constructor
      · rw [names, names, List.map_cons, List.map_cons, sameName]
        exact congrArg _ inductionHypothesis.1
      · intro name value found
        rw [lookup_cons] at found ⊢
        rw [sameName]
        by_cases same : field.1 = name
        · rw [if_pos same] at found ⊢
          refine ⟨result.2, rfl, ?_⟩
          rw [← same, ← Option.some.inj found, headConverted, ← sameName]
        · rw [if_neg same] at found ⊢
          exact inductionHypothesis.2 name value found

/-! ## Updates -/

@[simp]
theorem lookup_set_self (name : String) (value : α) (fields : List (String × α)) :
    lookup name (set name value fields) = some value := by
  induction fields with
  | nil => rw [set, lookup_cons, if_pos rfl]
  | cons head tail inductionHypothesis =>
      by_cases same : head.1 = name
      · rw [set, if_pos same, lookup_cons, if_pos rfl]
      · rw [set, if_neg same, lookup_cons, if_neg same, inductionHypothesis]

theorem lookup_set_other {name other : String} (different : other ≠ name) (value : α)
    (fields : List (String × α)) : lookup name (set other value fields) = lookup name fields := by
  induction fields with
  | nil => rw [set, lookup_cons, if_neg different]
  | cons head tail inductionHypothesis =>
      by_cases same : head.1 = other
      · rw [set, if_pos same, lookup_cons, lookup_cons, if_neg different, if_neg (same ▸ different)]
      · rw [set, if_neg same, lookup_cons, lookup_cons, inductionHypothesis]

/-! ## Overlays -/

/-- An overlay in which every field combines succeeds.  Under each name it holds
the combination, or else the value of the first list. -/
theorem overlay_ok {combine : Option α -> β -> Except ε α} {base : List (String × α)}
    {changes : List (String × β)} (distinct : (names changes).Nodup)
    (combines : ∀ field ∈ changes, ∃ merged, combine (lookup field.1 base) field.2 = .ok merged) :
    ∃ result, overlay combine base changes = .ok result ∧ forall name,
      (lookup name changes = none -> lookup name result = lookup name base) ∧
        (forall value, lookup name changes = some value ->
          ∃ merged, combine (lookup name base) value = .ok merged ∧ lookup name result = some merged) := by
  induction changes generalizing base with
  | nil => exact ⟨base, rfl, fun name => ⟨fun _ => rfl, fun _ impossible => (by cases impossible)⟩⟩
  | cons head tail inductionHypothesis =>
      rw [names, List.map_cons, List.nodup_cons] at distinct
      rcases combines head List.mem_cons_self with ⟨merged, combined⟩
      have untouched : ∀ name ∈ names tail, lookup name (set head.1 merged base) = lookup name base := by
        intro name inTail
        apply lookup_set_other
        intro same
        exact distinct.1 (same ▸ inTail)
      have rest : ∀ field ∈ tail, ∃ merged',
          combine (lookup field.1 (set head.1 merged base)) field.2 = .ok merged' := by
        intro field inTail
        rw [untouched field.1 (List.mem_map_of_mem (f := Prod.fst) inTail)]
        exact combines field (List.mem_cons_of_mem head inTail)
      rcases inductionHypothesis distinct.2 rest with ⟨result, done, held⟩
      refine ⟨result, ?_, ?_⟩
      · rw [overlay, combined]
        exact done
      · intro name
        rw [lookup_cons]
        by_cases same : head.1 = name
        · -- the name of the head is not overlaid again
          have absent : lookup name tail = none := lookup_eq_none_iff.mpr (same ▸ distinct.1)
          rw [if_pos same]
          refine ⟨fun impossible => (by cases impossible), fun value isHead => ⟨merged, ?_, ?_⟩⟩
          · rw [← Option.some.inj isHead, ← same]
            exact combined
          · rw [(held name).1 absent, ← same, lookup_set_self]
        · rw [if_neg same]
          refine ⟨fun absent => ?_, fun value found => ?_⟩
          · rw [(held name).1 absent, lookup_set_other same]
          · rcases (held name).2 value found with ⟨later, combinedLater, isLater⟩
            rw [lookup_set_other same] at combinedLater
            exact ⟨later, combinedLater, isLater⟩

/-! ## Trees -/

section Trees

variable (fieldsOf : α -> Option (List (String × α))) (otherFieldsOf : β -> Option (List (String × β)))
  (same : α -> β -> Prop)

/-- The value at a path of names. -/
def valueAt : List String -> α -> Option α
  | [], value => some value
  | name :: rest, value => ((fieldsOf value).bind (lookup name)).bind (valueAt rest)

/-- Two objects, or two values without fields that are the same. -/
def SameNode (left : α) (right : β) : Prop :=
  ((fieldsOf left).isSome ∧ (otherFieldsOf right).isSome) ∨
    (fieldsOf left = none ∧ otherFieldsOf right = none ∧ same left right)

/-- The trees have the same paths and the same values at them. -/
def SameTree (left : α) (right : β) : Prop :=
  forall path, Option.Rel (SameNode fieldsOf otherFieldsOf same) (valueAt fieldsOf path left)
    (valueAt otherFieldsOf path right)

variable {fieldsOf otherFieldsOf same}

theorem sameTree_of_leaf {left : α} {right : β} (leftLeaf : fieldsOf left = none)
    (rightLeaf : otherFieldsOf right = none) (agrees : same left right) :
    SameTree fieldsOf otherFieldsOf same left right := by
  intro path
  cases path with
  | nil => exact Option.Rel.some (Or.inr ⟨leftLeaf, rightLeaf, agrees⟩)
  | cons name rest =>
      rw [valueAt, valueAt, leftLeaf, rightLeaf]
      exact Option.Rel.none

theorem sameTree_of_fields {left : α} {right : β} {leftFields : List (String × α)}
    {rightFields : List (String × β)} (leftObject : fieldsOf left = some leftFields)
    (rightObject : otherFieldsOf right = some rightFields)
    (agree : forall name, Option.Rel (SameTree fieldsOf otherFieldsOf same) (lookup name leftFields)
      (lookup name rightFields)) :
    SameTree fieldsOf otherFieldsOf same left right := by
  intro path
  cases path with
  | nil =>
      refine Option.Rel.some (Or.inl ⟨?_, ?_⟩)
      · rw [leftObject]
        rfl
      · rw [rightObject]
        rfl
  | cons name rest =>
      rw [valueAt, valueAt, leftObject, rightObject, Option.bind_some, Option.bind_some]
      have agreeHere := agree name
      generalize lookup name leftFields = leftField at agreeHere
      generalize lookup name rightFields = rightField at agreeHere
      cases agreeHere with
      | none => exact Option.Rel.none
      | some subtrees => exact subtrees rest

/-- An overlay has the tree of an object when each of its names has: a combined
value under an overlaid name, the value of the base under another one. -/
theorem overlay_sameTree {combine : Option α -> γ -> Except ε α} {base : List (String × α)}
    {changes : List (String × γ)} {fields : List (String × β)} (distinct : (names changes).Nodup)
    (known : ∀ name ∈ names changes, name ∈ names base)
    (absent : forall name, lookup name base = none -> lookup name fields = none)
    (kept : forall name value, lookup name base = some value -> lookup name changes = none ->
      ∃ field, lookup name fields = some field ∧ SameTree fieldsOf otherFieldsOf same value field)
    (combined : forall name value added, lookup name base = some value -> lookup name changes = some added ->
      ∃ merged field, combine (some value) added = .ok merged ∧ lookup name fields = some field ∧
        SameTree fieldsOf otherFieldsOf same merged field) :
    ∃ result, overlay combine base changes = .ok result ∧ forall name,
      Option.Rel (SameTree fieldsOf otherFieldsOf same) (lookup name result) (lookup name fields) := by
  have combines : ∀ field ∈ changes, ∃ merged, combine (lookup field.1 base) field.2 = .ok merged := by
    intro field member
    rcases exists_lookup_iff.mpr (known field.1 (List.mem_map_of_mem (f := Prod.fst) member)) with ⟨value, found⟩
    rcases combined field.1 value field.2 found (lookup_of_mem distinct member) with ⟨merged, _, done, _⟩
    exact ⟨merged, found ▸ done⟩
  rcases overlay_ok distinct combines with ⟨result, done, held⟩
  refine ⟨result, done, ?_⟩
  intro name
  cases overlaid : lookup name changes with
  | none =>
      rw [(held name).1 overlaid]
      cases found : lookup name base with
      | none =>
          rw [absent name found]
          exact Option.Rel.none
      | some value =>
          rcases kept name value found overlaid with ⟨field, isField, agrees⟩
          rw [isField]
          exact Option.Rel.some agrees
  | some added =>
      rcases exists_lookup_iff.mpr (known name (exists_lookup_iff.mp ⟨added, overlaid⟩)) with ⟨value, found⟩
      rcases (held name).2 added overlaid with ⟨merged, mergedDone, isMerged⟩
      rcases combined name value added found overlaid with ⟨other, field, otherDone, isField, agrees⟩
      rw [found, otherDone] at mergedDone
      rw [isMerged, isField, ← Except.ok.inj mergedDone]
      exact Option.Rel.some agrees

end Trees

end Fields
end Foundation
