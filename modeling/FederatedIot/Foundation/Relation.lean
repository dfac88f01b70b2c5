import Mathlib.Data.List.Nodup
import Mathlib.Data.List.Basic

namespace Foundation
namespace Relation

variable {ρ σ κ ν : Type*}

/-!
# Relations as lists of rows

A table is the list of its rows.  An `UPDATE` rewrites the selected rows in
place, a key is a function that no two rows share, and a foreign key names a
row of another table.  The order of the rows is the order of insertion; no
statement here depends on it.

A view keeps some columns of each row.  An update whose selection and
assignment can be read on the view commutes with it, so facts about a few
columns can be proved on the view alone.
-/

/-- `UPDATE rows SET assign WHERE selects`. -/
def update (rows : List ρ) (selects : ρ -> Bool) (assign : ρ -> ρ) : List ρ :=
  rows.map fun row => if selects row then assign row else row

/-- No two rows have the same key. -/
def Keyed (key : ρ -> κ) (rows : List ρ) : Prop :=
  (rows.map key).Nodup

/-- No two rows have the same present key; absent keys may repeat. -/
def KeyedWhenPresent (key : ρ -> Option κ) (rows : List ρ) : Prop :=
  (rows.filterMap key).Nodup

/-- Every foreign value is the key of a parent row. -/
def References (foreign : ρ -> κ) (key : σ -> κ) (rows : List ρ) (parents : List σ) : Prop :=
  ∀ row ∈ rows, ∃ parent ∈ parents, key parent = foreign row

/-- Every present foreign value is the key of a parent row. -/
def ReferencesWhenPresent (foreign : ρ -> Option κ) (key : σ -> κ) (rows : List ρ)
    (parents : List σ) : Prop :=
  ∀ row ∈ rows, ∀ value ∈ foreign row, ∃ parent ∈ parents, key parent = value

/-- At most one row satisfies the condition, as a partial unique index on a
constant demands. -/
def AtMostOne (selects : ρ -> Bool) (rows : List ρ) : Prop :=
  (rows.filter selects).length ≤ 1

instance keyedDecidable [DecidableEq κ] (key : ρ -> κ) (rows : List ρ) :
    Decidable (Keyed key rows) :=
  inferInstanceAs (Decidable (rows.map key).Nodup)

instance keyedWhenPresentDecidable [DecidableEq κ] (key : ρ -> Option κ) (rows : List ρ) :
    Decidable (KeyedWhenPresent key rows) :=
  inferInstanceAs (Decidable (rows.filterMap key).Nodup)

instance referencesDecidable [DecidableEq κ] (foreign : ρ -> κ) (key : σ -> κ)
    (rows : List ρ) (parents : List σ) : Decidable (References foreign key rows parents) :=
  inferInstanceAs (Decidable (∀ row ∈ rows, ∃ parent ∈ parents, key parent = foreign row))

instance referencesWhenPresentDecidable [DecidableEq κ] (foreign : ρ -> Option κ) (key : σ -> κ)
    (rows : List ρ) (parents : List σ) :
    Decidable (ReferencesWhenPresent foreign key rows parents) :=
  inferInstanceAs
    (Decidable (∀ row ∈ rows, ∀ value ∈ foreign row, ∃ parent ∈ parents, key parent = value))

instance atMostOneDecidable (selects : ρ -> Bool) (rows : List ρ) :
    Decidable (AtMostOne selects rows) :=
  inferInstanceAs (Decidable ((rows.filter selects).length ≤ 1))

/-! ## Keys -/

theorem Keyed.eq_of_mem {key : ρ -> κ} {rows : List ρ} (keyed : Keyed key rows)
    {first second : ρ} (firstMember : first ∈ rows) (secondMember : second ∈ rows)
    (same : key first = key second) : first = second :=
  List.inj_on_of_nodup_map keyed firstMember secondMember same

/-- A search by key finds the row with the key. -/
theorem Keyed.find?_eq [DecidableEq κ] {key : ρ -> κ} {rows : List ρ} (keyed : Keyed key rows) {row : ρ}
    {value : κ} (member : row ∈ rows) (same : key row = value) :
    rows.find? (fun other => key other = value) = some row := by
  cases found : rows.find? fun other => key other = value with
  | none => exact absurd (decide_eq_true same) (List.find?_eq_none.mp found row member)
  | some other =>
      have matched : key other = value := of_decide_eq_true (List.find?_some found :)
      rw [keyed.eq_of_mem (List.mem_of_find?_eq_some found) member (matched.trans same.symm)]

/-- A condition that holds exactly at the key of one row selects that row. -/
theorem Keyed.filter_eq_singleton [DecidableEq κ] {key : ρ -> κ} {rows : List ρ}
    (keyed : Keyed key rows) {row : ρ} (member : row ∈ rows) {selects : ρ -> Bool}
    (selected : ∀ other ∈ rows, selects other = decide (key other = key row)) :
    rows.filter selects = [row] := by
  induction rows with
  | nil => cases member
  | cons head tail inductionHypothesis =>
      unfold Keyed at keyed
      rw [List.map_cons, List.nodup_cons] at keyed
      have tailSelected : ∀ other ∈ tail, selects other = decide (key other = key row) :=
        fun other otherMember => selected other (List.mem_cons_of_mem head otherMember)
      by_cases same : key head = key row
      · have atHead : selects head = true := by
          rw [selected head List.mem_cons_self]
          exact decide_eq_true same
        have notInTail : row ∉ tail := by
          intro inTail
          exact keyed.1 (same ▸ List.mem_map_of_mem inTail)
        have headIsRow : head = row := by
          rcases List.mem_cons.mp member with isHead | inTail
          · exact isHead.symm
          · exact absurd inTail notInTail
        have rest : tail.filter selects = [] := by
          rw [List.filter_eq_nil_iff]
          intro other otherMember isSelected
          rw [tailSelected other otherMember] at isSelected
          exact keyed.1 (same.trans (of_decide_eq_true isSelected).symm ▸
            List.mem_map_of_mem otherMember)
        rw [List.filter_cons_of_pos atHead, rest, headIsRow]
      · have passed : ¬selects head = true := by
          rw [selected head List.mem_cons_self]
          exact fun isSelected => same (of_decide_eq_true isSelected)
        rw [List.filter_cons_of_neg passed]
        rcases List.mem_cons.mp member with isHead | inTail
        · exact absurd (congrArg key isHead.symm) same
        · exact inductionHypothesis keyed.2 inTail tailSelected

theorem Keyed.of_append {key : ρ -> κ} {rows : List ρ} {row : ρ}
    (keyed : Keyed key (rows ++ [row])) : ∀ other ∈ rows, key other ≠ key row := by
  intro other member same
  unfold Keyed at keyed
  rw [List.map_append, List.nodup_append] at keyed
  exact keyed.2.2 (key other) (List.mem_map_of_mem member) (key row)
    (List.mem_map_of_mem (List.mem_singleton.mpr rfl)) same

theorem Keyed.map {key : ρ -> κ} {view : ρ -> σ} {viewKey : σ -> κ} {rows : List ρ}
    (keyed : Keyed key rows) (agrees : forall row, viewKey (view row) = key row) :
    Keyed viewKey (rows.map view) := by
  unfold Keyed
  rw [List.map_map]
  have same : viewKey ∘ view = key := funext agrees
  rw [same]
  exact keyed

theorem KeyedWhenPresent.eq_of_mem {key : ρ -> Option κ} {rows : List ρ}
    (keyed : KeyedWhenPresent key rows) {first second : ρ} {value : κ}
    (firstMember : first ∈ rows) (secondMember : second ∈ rows)
    (firstKey : key first = some value) (secondKey : key second = some value) :
    first = second := by
  induction rows with
  | nil => cases firstMember
  | cons head tail inductionHypothesis =>
      have present : ∀ row ∈ tail, key row = some value -> value ∈ tail.filterMap key := by
        intro row member rowKey
        exact List.mem_filterMap.mpr ⟨row, member, rowKey⟩
      unfold KeyedWhenPresent at keyed
      cases headKey : key head with
      | none =>
          rw [List.filterMap_cons_none headKey] at keyed
          rcases List.mem_cons.mp firstMember with atHead | inTail
          · rw [atHead, headKey] at firstKey
            cases firstKey
          · rcases List.mem_cons.mp secondMember with atHead' | inTail'
            · rw [atHead', headKey] at secondKey
              cases secondKey
            · exact inductionHypothesis keyed inTail inTail'
      | some other =>
          rw [List.filterMap_cons_some headKey, List.nodup_cons] at keyed
          rcases List.mem_cons.mp firstMember with atHead | inTail
          · rcases List.mem_cons.mp secondMember with atHead' | inTail'
            · rw [atHead, atHead']
            · rw [atHead, headKey] at firstKey
              cases firstKey
              exact absurd (present second inTail' secondKey) keyed.1
          · rcases List.mem_cons.mp secondMember with atHead' | inTail'
            · rw [atHead', headKey] at secondKey
              cases secondKey
              exact absurd (present first inTail firstKey) keyed.1
            · exact inductionHypothesis keyed.2 inTail inTail'

theorem KeyedWhenPresent.map {key : ρ -> Option κ} {view : ρ -> σ} {viewKey : σ -> Option κ}
    {rows : List ρ} (keyed : KeyedWhenPresent key rows)
    (agrees : forall row, viewKey (view row) = key row) :
    KeyedWhenPresent viewKey (rows.map view) := by
  unfold KeyedWhenPresent
  rw [List.filterMap_map]
  have same : viewKey ∘ view = key := funext agrees
  rw [same]
  exact keyed

theorem AtMostOne.eq_of_mem {selects : ρ -> Bool} {rows : List ρ} (single : AtMostOne selects rows)
    {first second : ρ} (firstMember : first ∈ rows) (secondMember : second ∈ rows)
    (firstSelected : selects first = true) (secondSelected : selects second = true) :
    first = second := by
  have firstIn : first ∈ rows.filter selects := List.mem_filter.mpr ⟨firstMember, firstSelected⟩
  have secondIn : second ∈ rows.filter selects :=
    List.mem_filter.mpr ⟨secondMember, secondSelected⟩
  unfold AtMostOne at single
  cases filtered : rows.filter selects with
  | nil =>
      rw [filtered] at firstIn
      cases firstIn
  | cons only rest =>
      rw [filtered] at single firstIn secondIn
      have nothing : rest = [] := by
        cases rest with
        | nil => rfl
        | cons _ _ => simp at single
      rw [nothing, List.mem_singleton] at firstIn secondIn
      rw [firstIn, secondIn]

/-! ## Updates -/

theorem mem_update {rows : List ρ} {selects : ρ -> Bool} {assign : ρ -> ρ} {row : ρ} :
    row ∈ update rows selects assign ↔
      ∃ old ∈ rows, (if selects old then assign old else old) = row := by
  unfold update
  exact List.mem_map

theorem mem_update_selected {rows : List ρ} {selects : ρ -> Bool} {assign : ρ -> ρ} {row : ρ}
    (member : row ∈ rows) (selected : selects row = true) :
    assign row ∈ update rows selects assign :=
  mem_update.mpr ⟨row, member, if_pos selected⟩

theorem mem_update_other {rows : List ρ} {selects : ρ -> Bool} {assign : ρ -> ρ} {row : ρ}
    (member : row ∈ rows) (passed : selects row = false) :
    row ∈ update rows selects assign := by
  refine mem_update.mpr ⟨row, member, ?_⟩
  rw [passed]
  rfl

/-- A row after an update is a rewritten selected row or an untouched row. -/
theorem mem_update_cases {rows : List ρ} {selects : ρ -> Bool} {assign : ρ -> ρ} {row : ρ}
    (member : row ∈ update rows selects assign) :
    (∃ old ∈ rows, selects old = true ∧ row = assign old) ∨
      (row ∈ rows ∧ selects row = false) := by
  rcases mem_update.mp member with ⟨old, oldMember, same⟩
  cases selected : selects old with
  | false =>
      rw [selected] at same
      have unchanged : old = row := same
      rw [← unchanged]
      exact Or.inr ⟨oldMember, selected⟩
  | true =>
      rw [selected] at same
      exact Or.inl ⟨old, oldMember, selected, same.symm⟩

theorem update_eq_self {rows : List ρ} {selects : ρ -> Bool} {assign : ρ -> ρ}
    (fixed : ∀ row ∈ rows, selects row = true -> assign row = row) :
    update rows selects assign = rows := by
  unfold update
  conv_rhs => rw [← List.map_id rows]
  apply List.map_congr_left
  intro row member
  by_cases selected : selects row = true
  · rw [if_pos selected, fixed row member selected]
    rfl
  · rw [if_neg selected]
    rfl

theorem update_congr {rows : List ρ} {selects selects' : ρ -> Bool} {assign assign' : ρ -> ρ}
    (sameSelection : ∀ row ∈ rows, selects row = selects' row)
    (sameAssignment : ∀ row ∈ rows, selects row = true -> assign row = assign' row) :
    update rows selects assign = update rows selects' assign' := by
  unfold update
  apply List.map_congr_left
  intro row member
  rw [← sameSelection row member]
  by_cases selected : selects row = true
  · rw [if_pos selected, if_pos selected, sameAssignment row member selected]
  · rw [if_neg selected, if_neg selected]

/-- Two updates with one selection, which the first keeps, are one update. -/
theorem update_update {rows : List ρ} {selects : ρ -> Bool} {first second : ρ -> ρ}
    (kept : forall row, selects (first row) = selects row) :
    update (update rows selects first) selects second =
      update rows selects fun row => second (first row) := by
  unfold update
  rw [List.map_map]
  apply List.map_congr_left
  intro row _
  simp only [Function.comp_apply]
  by_cases selected : selects row = true
  · rw [if_pos selected, kept row, if_pos selected, if_pos selected]
  · rw [if_neg selected, if_neg selected, if_neg selected]

/-- An update that keeps a column keeps the list of that column's values. -/
theorem map_update_of_fixed {rows : List ρ} {selects : ρ -> Bool} {assign : ρ -> ρ}
    (column : ρ -> ν) (fixed : ∀ row ∈ rows, selects row = true -> column (assign row) = column row) :
    (update rows selects assign).map column = rows.map column := by
  unfold update
  rw [List.map_map]
  apply List.map_congr_left
  intro row member
  by_cases selected : selects row = true
  · simp only [Function.comp_apply, if_pos selected]
    exact fixed row member selected
  · simp only [Function.comp_apply, if_neg selected]

/-- An update that can be read on a view is an update of the view. -/
theorem map_update {rows : List ρ} {selects : ρ -> Bool} {assign : ρ -> ρ} {view : ρ -> σ}
    {viewSelects : σ -> Bool} {viewAssign : σ -> σ}
    (sameSelection : ∀ row ∈ rows, selects row = viewSelects (view row))
    (sameAssignment : ∀ row ∈ rows, selects row = true ->
      view (assign row) = viewAssign (view row)) :
    (update rows selects assign).map view = update (rows.map view) viewSelects viewAssign := by
  unfold update
  rw [List.map_map, List.map_map]
  apply List.map_congr_left
  intro row member
  simp only [Function.comp_apply]
  rw [← sameSelection row member]
  by_cases selected : selects row = true
  · rw [if_pos selected, if_pos selected, sameAssignment row member selected]
  · rw [if_neg selected, if_neg selected]

theorem Keyed.update {key : ρ -> κ} {rows : List ρ} (keyed : Keyed key rows)
    {selects : ρ -> Bool} {assign : ρ -> ρ} (fixed : forall row, key (assign row) = key row) :
    Keyed key (update rows selects assign) := by
  unfold Keyed
  rw [map_update_of_fixed key (fun row _ _ => fixed row)]
  exact keyed

/-- An update that brings no row into a selection does not make it larger. -/
theorem length_filter_update_le {rows : List ρ} {selects counted : ρ -> Bool} {assign : ρ -> ρ}
    (fewer : ∀ row ∈ rows, selects row = true -> counted (assign row) = true -> counted row = true) :
    ((update rows selects assign).filter counted).length ≤ (rows.filter counted).length := by
  unfold update
  rw [← List.countP_eq_length_filter, ← List.countP_eq_length_filter, List.countP_map]
  apply List.countP_mono_left
  intro row member
  simp only [Function.comp_apply]
  by_cases selected : selects row = true
  · rw [if_pos selected]
    exact fewer row member selected
  · rw [if_neg selected]
    exact id

/-- An update that keeps a selection and a column of the selected rows keeps
the list of their values. -/
theorem map_filter_update {rows : List ρ} {selects counted : ρ -> Bool} {assign : ρ -> ρ}
    (column : ρ -> ν)
    (sameCount : ∀ row ∈ rows, selects row = true -> counted (assign row) = counted row)
    (sameColumn : ∀ row ∈ rows, selects row = true -> column (assign row) = column row) :
    ((update rows selects assign).filter counted).map column = (rows.filter counted).map column := by
  have mapped : (update rows selects assign).filter counted =
      (rows.filter counted).map fun row => if selects row then assign row else row := by
    unfold update
    rw [List.filter_map]
    congr 1
    apply List.filter_congr
    intro row member
    simp only [Function.comp_apply]
    by_cases selected : selects row = true
    · rw [if_pos selected, sameCount row member selected]
    · rw [if_neg selected]
  rw [mapped, List.map_map]
  apply List.map_congr_left
  intro row member
  simp only [Function.comp_apply]
  by_cases selected : selects row = true
  · rw [if_pos selected, sameColumn row (List.mem_of_mem_filter member) selected]
  · rw [if_neg selected]

theorem length_update (rows : List ρ) (selects : ρ -> Bool) (assign : ρ -> ρ) :
    (update rows selects assign).length = rows.length :=
  List.length_map _

/-! ## Ranks -/

/-- Rows sorted by a key that no two rows share are strictly sorted. -/
theorem Keyed.pairwise_lt {key : ρ -> Nat} {rows : List ρ} (keyed : Keyed key rows)
    (sorted : rows.Pairwise fun first second => key first ≤ key second) :
    rows.Pairwise fun first second => key first < key second := by
  have distinct : rows.Pairwise fun first second => key first ≠ key second :=
    List.pairwise_map.mp keyed
  exact (sorted.and distinct).imp fun both => Nat.lt_of_le_of_ne both.1 both.2

/-- In strictly sorted rows the position of a row, counted from one, is the
number of rows up to its key. -/
theorem length_filter_le_of_getElem? {key : ρ -> Nat} {rows : List ρ}
    (sorted : rows.Pairwise fun first second => key first < key second) {index : Nat} {row : ρ}
    (found : rows[index]? = some row) :
    (rows.filter fun other => key other ≤ key row).length = index + 1 := by
  induction rows generalizing index with
  | nil =>
      rw [List.getElem?_nil] at found
      cases found
  | cons head tail inductionHypothesis =>
      rw [List.pairwise_cons] at sorted
      cases index with
      | zero =>
          rw [List.getElem?_cons_zero] at found
          cases found
          have none : tail.filter (fun other => key other ≤ key row) = [] := by
            rw [List.filter_eq_nil_iff]
            intro other member within
            have above := sorted.1 other member
            have below := of_decide_eq_true within
            omega
          rw [List.filter_cons_of_pos (by simp), none]
          rfl
      | succ index =>
          rw [List.getElem?_cons_succ] at found
          have above := sorted.1 row (List.mem_of_getElem? found)
          rw [List.filter_cons_of_pos (by simpa using Nat.le_of_lt above), List.length_cons,
            inductionHypothesis sorted.2 found]

/-- Removing a counted element lowers the count. -/
theorem countP_filter_lt {ρ : Type*} {counted kept : ρ -> Bool} {rows : List ρ} {row : ρ}
    (member : row ∈ rows) (isCounted : counted row = true) (removed : kept row = false) :
    (rows.filter kept).countP counted < rows.countP counted := by
  rw [List.countP_eq_length_filter, List.countP_eq_length_filter, List.filter_comm]
  apply List.length_filter_lt_length_iff_exists.mpr
  exact ⟨row, List.mem_filter.mpr ⟨member, isCounted⟩, by simp [removed]⟩

/-- Removing an element shortens the list. -/
theorem length_filter_lt {ρ : Type*} {kept : ρ -> Bool} {rows : List ρ} {row : ρ}
    (member : row ∈ rows) (removed : kept row = false) :
    (rows.filter kept).length < rows.length := by
  apply List.length_filter_lt_length_iff_exists.mpr
  exact ⟨row, member, by simp [removed]⟩

/-! ## References under updates -/

theorem References.update_rows {foreign : ρ -> κ} {key : σ -> κ} {rows : List ρ} {parents : List σ}
    (references : References foreign key rows parents) {selects : ρ -> Bool} {assign : ρ -> ρ}
    (fixed : forall row, foreign (assign row) = foreign row) :
    References foreign key (update rows selects assign) parents := by
  intro row member
  rcases mem_update_cases member with ⟨old, oldMember, _, rfl⟩ | ⟨oldMember, _⟩
  · rw [fixed]
    exact references old oldMember
  · exact references row oldMember

theorem exists_key_update {key : σ -> κ} {parents : List σ} {selects : σ -> Bool} {assign : σ -> σ}
    (fixed : forall row, key (assign row) = key row) {value : κ} (found : ∃ parent ∈ parents, key parent = value) :
    ∃ parent ∈ update parents selects assign, key parent = value := by
  rcases found with ⟨parent, member, rfl⟩
  have kept := List.mem_map_of_mem (f := key) member
  rw [← map_update_of_fixed key fun row _ _ => fixed row] at kept
  exact List.mem_map.mp kept

theorem References.update_parents {foreign : ρ -> κ} {key : σ -> κ} {rows : List ρ} {parents : List σ}
    (references : References foreign key rows parents) {selects : σ -> Bool} {assign : σ -> σ}
    (fixed : forall row, key (assign row) = key row) :
    References foreign key rows (update parents selects assign) :=
  fun row member => exists_key_update fixed (references row member)

theorem ReferencesWhenPresent.update_parents {foreign : ρ -> Option κ} {key : σ -> κ} {rows : List ρ}
    {parents : List σ} (references : ReferencesWhenPresent foreign key rows parents) {selects : σ -> Bool}
    {assign : σ -> σ} (fixed : forall row, key (assign row) = key row) :
    ReferencesWhenPresent foreign key rows (update parents selects assign) :=
  fun row member value present => exists_key_update fixed (references row member value present)

end Relation
end Foundation
