import Mathlib.Data.List.Basic
import Mathlib.Data.List.Infix

namespace Foundation
namespace Paths

/-!
# Relative paths

A path is a text with slashes between its components.  Walking it from a place
enters the directory or file of each component in turn.  An empty component and
a dot stay, and two dots go back to the parent, where the root is its own parent.
A path of plain components leads to a place of its own below its start.
-/

/-- The pieces between the slashes. -/
def components (path : List Char) : List (List Char) :=
  path.splitOn '/'

/-- The place that one component leads to.  A place is given by its names from
the root. -/
def enter (place : List (List Char)) (component : List Char) : List (List Char) :=
  if component = [] || component = ['.'] then place
  else if component = ['.', '.'] then place.dropLast
  else place ++ [component]

/-- The place that a path leads to.  A path that starts with a slash starts at
the root. -/
def resolve (start : List (List Char)) (path : List Char) : List (List Char) :=
  (components path).foldl enter (if path.head? = some '/' then [] else start)

/-- A component that names an entry. -/
def Plain (component : List Char) : Prop :=
  component ≠ [] ∧ component ≠ ['.'] ∧ component ≠ ['.', '.']

/-- A component that does not go back. -/
def Forward (component : List Char) : Prop :=
  component ≠ ['.', '.']

instance forwardDecidable (component : List Char) : Decidable (Forward component) :=
  inferInstanceAs (Decidable (_ ≠ _))

/-- The names that a path enters. -/
def entered (path : List Char) : List (List Char) :=
  (components path).filter fun component => component ≠ [] && component ≠ ['.']

variable {path other : List Char} {start : List (List Char)}

/-- A path is its components with slashes between them. -/
theorem intercalate_components (path : List Char) : ['/'].intercalate (components path) = path :=
  List.intercalate_splitOn '/'

theorem components_injective (same : components path = components other) : path = other := by
  rw [← intercalate_components path, same, intercalate_components]

/-- Paths that do not go back only add names to a place. -/
theorem foldl_enter {parts : List (List Char)} (forward : ∀ part ∈ parts, Forward part)
    (start : List (List Char)) :
    parts.foldl enter start = start ++ parts.filter fun part => part ≠ [] && part ≠ ['.'] := by
  induction parts generalizing start with
  | nil => exact (List.append_nil start).symm
  | cons part rest inductionHypothesis =>
      have ahead := inductionHypothesis fun other member => forward other (List.mem_cons_of_mem _ member)
      have notBack : part ≠ ['.', '.'] := forward part List.mem_cons_self
      rw [List.foldl_cons, ahead, enter]
      by_cases empty : part = []
      · simp [empty]
      · by_cases dot : part = ['.']
        · simp [dot]
        · simp [empty, dot, notBack]

/-- A relative path that does not go back stays below its start. -/
theorem resolve_forward (relative : path.head? ≠ some '/') (forward : ∀ part ∈ components path, Forward part) :
    resolve start path = start ++ entered path := by
  rw [resolve, if_neg relative, foldl_enter forward]
  rfl

theorem entered_of_plain (plain : ∀ part ∈ components path, Plain part) : entered path = components path := by
  apply List.filter_eq_self.mpr
  intro part member
  simp [(plain part member).1, (plain part member).2.1]

/-- A path of plain components is found again from the place that it leads to. -/
theorem resolve_plain_injective (relative : path.head? ≠ some '/') (otherRelative : other.head? ≠ some '/')
    (plain : ∀ part ∈ components path, Plain part) (otherPlain : ∀ part ∈ components other, Plain part)
    (same : resolve start path = resolve start other) : path = other := by
  rw [resolve_forward relative fun part member => (plain part member).2.2,
    resolve_forward otherRelative fun part member => (otherPlain part member).2.2,
    entered_of_plain plain, entered_of_plain otherPlain] at same
  exact components_injective (List.append_cancel_left same)

/-! ## Empty components -/

theorem components_slash (rest : List Char) : components ('/' :: rest) = [] :: components rest := by
  simp [components, List.splitOn_cons_eq_if_modifyHead]

theorem components_other {first : Char} (notSlash : first ≠ '/') (rest : List Char) :
    components (first :: rest) = (components rest).modifyHead fun part => first :: part := by
  simp [components, List.splitOn_cons_eq_if_modifyHead, notSlash]

/-- Only the empty text and a text that starts with a slash have an empty first
component. -/
theorem head_ne_nil (nonempty : path ≠ []) (relative : path.head? ≠ some '/') {part : List Char}
    (first : (components path).head? = some part) : part ≠ [] := by
  cases path with
  | nil => exact absurd rfl nonempty
  | cons head rest =>
      have notSlash : head ≠ '/' := fun same => relative (congrArg some same)
      rw [components_other notSlash] at first
      cases parts : components rest with
      | nil => exact absurd parts (List.splitOn_ne_nil _ _)
      | cons next more =>
          rw [parts] at first
          cases first
          exact List.cons_ne_nil _ _

theorem tail_ne_nil (single : ¬['/', '/'] <:+: path) (closed : path.getLast? ≠ some '/') :
    ∀ part ∈ (components path).tail, part ≠ [] := by
  induction path with
  | nil => exact fun part member => (by cases member)
  | cons head rest inductionHypothesis =>
      have restSingle : ¬['/', '/'] <:+: rest := fun doubled =>
        single (doubled.trans (List.suffix_cons head rest).isInfix)
      have restClosed : rest.getLast? ≠ some '/' := by
        cases rest with
        | nil => exact fun impossible => (by cases impossible)
        | cons next more =>
            rw [List.getLast?_cons_cons] at closed
            exact closed
      have later := inductionHypothesis restSingle restClosed
      by_cases slash : head = '/'
      · have nonempty : rest ≠ [] := by
          rintro rfl
          rw [slash] at closed
          exact closed rfl
        have relative : rest.head? ≠ some '/' := by
          intro starts
          rcases List.head?_eq_some_iff.mp starts with ⟨more, rfl⟩
          rw [slash] at single
          exact single ⟨[], more, rfl⟩
        rw [slash, components_slash, List.tail_cons]
        cases parts : components rest with
        | nil => exact fun part member => (by cases member)
        | cons next more =>
            rw [parts, List.tail_cons] at later
            have firstPart : (components rest).head? = some next := by rw [parts, List.head?_cons]
            exact List.forall_mem_cons.mpr ⟨head_ne_nil nonempty relative firstPart, later⟩
      · rw [components_other slash]
        cases parts : components rest with
        | nil => exact fun part member => (by cases member)
        | cons next more =>
            rw [parts] at later
            exact later

/-- A text without two adjacent slashes that neither starts nor ends with one
has no empty component. -/
theorem components_ne_nil (nonempty : path ≠ []) (relative : path.head? ≠ some '/')
    (single : ¬['/', '/'] <:+: path) (closed : path.getLast? ≠ some '/') : ∀ part ∈ components path, part ≠ [] := by
  have later := tail_ne_nil single closed
  cases parts : components path with
  | nil => exact fun part member => (by cases member)
  | cons first rest =>
      rw [parts, List.tail_cons] at later
      have firstPart : (components path).head? = some first := by rw [parts, List.head?_cons]
      exact List.forall_mem_cons.mpr ⟨head_ne_nil nonempty relative firstPart, later⟩

/-! ## Entered names -/

theorem slash_notMem (path : List Char) : ∀ part ∈ components path, '/' ∉ part := by
  induction path with
  | nil =>
      intro part member
      rw [List.mem_singleton.mp member]
      exact List.not_mem_nil
  | cons head rest inductionHypothesis =>
      by_cases slash : head = '/'
      · rw [slash, components_slash]
        exact List.forall_mem_cons.mpr ⟨List.not_mem_nil, inductionHypothesis⟩
      · rw [components_other slash]
        cases parts : components rest with
        | nil => exact fun part member => (by cases member)
        | cons next more =>
            rw [parts, List.forall_mem_cons] at inductionHypothesis
            refine List.forall_mem_cons.mpr ⟨?_, inductionHypothesis.2⟩
            exact List.not_mem_cons_of_ne_of_not_mem (Ne.symm slash) inductionHypothesis.1

/-- The names that a path enters, with slashes between them, enter the same names. -/
theorem entered_intercalate (inside : entered path ≠ []) : entered (['/'].intercalate (entered path)) = entered path := by
  have apart : ∀ part ∈ entered path, '/' ∉ part :=
    fun part member => slash_notMem path part (List.mem_of_mem_filter member)
  have same : components (['/'].intercalate (entered path)) = entered path := List.splitOn_intercalate '/' apart inside
  rw [entered, same]
  exact List.filter_eq_self.mpr fun part member => (List.mem_filter.mp member).2

end Paths
end Foundation
