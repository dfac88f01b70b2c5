import Mathlib.Data.List.Basic

namespace Foundation
namespace Splitting

/-!
# Splitting a growing text

A separator is given by the length of its match at the beginning of a text,
zero when there is none.  Cutting a text yields the pieces that a separator
ends and the rest.  A reader that only keeps the rest, and cuts it again when
more text has come, finds the pieces of the whole text, provided that a match
does not depend on what follows it and that an unfinished separator holds no
finished one.
-/

variable {α : Type*} (separator : List α -> Nat)

/-- Put an element in front of the first piece. -/
def prepend (element : α) (cut : List (List α) × List α) : List (List α) × List α :=
  match cut.1 with
  | [] => ([], element :: cut.2)
  | first :: others => ((element :: first) :: others, cut.2)

/-- The pieces of a text, of which the first `skipped` elements belong to a
separator that was already found. -/
def cutFrom : Nat -> List α -> List (List α) × List α
  | _, [] => ([], [])
  | skipped + 1, _ :: rest => cutFrom skipped rest
  | 0, element :: rest =>
      match separator (element :: rest) with
      | 0 => prepend element (cutFrom 0 rest)
      | length + 1 =>
          let later := cutFrom length rest
          ([] :: later.1, later.2)

/-- The pieces that a separator ends, and the rest. -/
def cut (text : List α) : List (List α) × List α :=
  cutFrom separator 0 text

/-- A match depends on its own elements only, and a text that ends within a
match is not cut. -/
structure Incremental : Prop where
  fits : forall text, separator text ≤ text.length
  extend : forall text more, separator text ≠ 0 -> separator (text ++ more) = separator text
  restrict : forall text more, separator (text ++ more) ≤ text.length ->
    separator (text ++ more) = separator text
  unfinished : forall text more, text.length < separator (text ++ more) -> cut separator text = ([], text)

variable {separator} {element : α} {text rest : List α}

theorem cutFrom_eq_drop (skipped : Nat) (text : List α) :
    cutFrom separator skipped text = cut separator (text.drop skipped) := by
  induction text generalizing skipped with
  | nil =>
      rw [List.drop_nil]
      cases skipped <;> rfl
  | cons element rest inductionHypothesis =>
      cases skipped with
      | zero => rfl
      | succ skipped => exact inductionHypothesis skipped

theorem cut_cons_other (none : separator (element :: rest) = 0) :
    cut separator (element :: rest) = prepend element (cut separator rest) := by
  conv_lhs => unfold cut cutFrom
  rw [none]
  rfl

theorem cut_separator {length : Nat} (found : separator (element :: rest) = length + 1) :
    cut separator (element :: rest) =
      ([] :: (cut separator (rest.drop length)).1, (cut separator (rest.drop length)).2) := by
  conv_lhs => unfold cut cutFrom
  rw [found]
  simp only [cutFrom_eq_drop]

theorem prepend_of_ne_nil {first : List (List α)} (nonempty : first ≠ []) (element : α)
    (second : List (List α)) (last other : List α) :
    prepend element (first ++ second, last) =
      ((prepend element (first, other)).1 ++ second, last) := by
  cases first with
  | nil => exact absurd rfl nonempty
  | cons head tail => rfl

/-- A text without a finished piece is its own rest. -/
theorem cut_rest (none : (cut separator text).1 = []) : (cut separator text).2 = text := by
  induction text with
  | nil => rfl
  | cons element rest inductionHypothesis =>
      cases found : separator (element :: rest) with
      | zero =>
          rw [cut_cons_other found] at none ⊢
          unfold prepend at none ⊢
          cases pieces : (cut separator rest).1 with
          | nil =>
              simp only
              rw [inductionHypothesis pieces]
          | cons first others =>
              rw [pieces] at none
              cases none
      | succ length =>
          rw [cut_separator found] at none
          cases none

/-- A text is cut by cutting a part of it, and then the rest with what follows. -/
theorem cut_append (incremental : Incremental separator) (text more : List α) :
    cut separator (text ++ more) =
      ((cut separator text).1 ++ (cut separator ((cut separator text).2 ++ more)).1,
        (cut separator ((cut separator text).2 ++ more)).2) := by
  by_cases none : (cut separator text).1 = []
  · rw [none, cut_rest none, List.nil_append]
  · cases text with
    | nil => exact absurd rfl none
    | cons element rest =>
        cases found : separator (element :: rest) with
        | zero =>
            have stays : separator (element :: (rest ++ more)) = 0 := by
              rcases Nat.lt_or_ge (element :: rest).length (separator ((element :: rest) ++ more)) with
                beyond | within
              · rw [incremental.unfinished _ _ beyond] at none
                exact absurd rfl none
              · exact (incremental.restrict _ _ within).trans found
            rw [List.cons_append, cut_cons_other stays, cut_cons_other found, cut_append incremental rest]
            rw [cut_cons_other found] at none
            have pieces : (cut separator rest).1 ≠ [] := by
              intro empty
              unfold prepend at none
              rw [empty] at none
              exact none rfl
            rw [prepend_of_ne_nil pieces element _ _ (cut separator rest).2]
            unfold prepend
            rcases List.exists_cons_of_ne_nil pieces with ⟨first, others, same⟩
            rw [same]
        | succ length =>
            have extended := incremental.extend (element :: rest) more (by omega)
            have fits := incremental.fits (element :: rest)
            rw [found, List.length_cons] at fits
            have longer : separator (element :: (rest ++ more)) = length + 1 := extended.trans found
            rw [List.cons_append, cut_separator found, cut_separator longer,
              List.drop_append_of_le_length (by omega), cut_append incremental (rest.drop length)]
            rfl
termination_by text.length
decreasing_by
  · exact Nat.lt_succ_self _
  · rw [List.length_drop, List.length_cons]
    omega

/-- The rest of a cut text is not cut again. -/
theorem cut_rest_unfinished (incremental : Incremental separator) (text : List α) :
    (cut separator (cut separator text).2).1 = [] := by
  have again := cut_append incremental text []
  rw [List.append_nil, List.append_nil] at again
  exact List.self_eq_append_right.mp (congrArg Prod.fst again)

end Splitting
end Foundation
