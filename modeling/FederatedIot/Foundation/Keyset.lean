import Mathlib.Data.List.Basic
import Mathlib.Order.RelClasses

namespace Foundation
namespace Keyset

universe u v

variable {α : Type u} {κ : Type v}

/-!
# Pages cut from one forward scan

Rows that are listed in a strict order of their keys can be handed out in pages
without counting positions.  A page keeps the first rows that lie beyond the key
of the last row handed out, and the rows beyond that key are exactly the rows
that were not handed out yet.

A scan in the opposite direction keeps the last rows it has seen instead, in a
ring of bounded length.  Both ways of keeping rows also tell whether a row was
left over.
-/

/-! ## Rows beyond a key -/

/-- The rows beyond a listed row are the rows listed after it. -/
theorem filter_beyond_eq (beyond : κ -> κ -> Prop) [DecidableRel beyond] [Std.Irrefl beyond] [IsTrans κ beyond]
    (key : α -> κ) {earlier later : List α} {last : α}
    (sorted : (earlier ++ last :: later).Pairwise fun left right => beyond (key left) (key right)) :
    (earlier ++ last :: later).filter (fun row => decide (beyond (key last) (key row))) = later := by
  rcases List.pairwise_append.mp sorted with ⟨_, tailSorted, across⟩
  rcases List.pairwise_cons.mp tailSorted with ⟨lastBefore, _⟩
  have noneEarlier : earlier.filter (fun row => decide (beyond (key last) (key row))) = [] := by
    rw [List.filter_eq_nil_iff]
    intro row member
    rw [decide_eq_true_eq]
    intro after
    exact irrefl (key row) (IsTrans.trans _ _ _ (across row member last List.mem_cons_self) after)
  have allLater : later.filter (fun row => decide (beyond (key last) (key row))) = later := by
    rw [List.filter_eq_self]
    intro row member
    exact decide_eq_true (lastBefore row member)
  rw [List.filter_append, noneEarlier, List.nil_append, List.filter_cons_of_neg, allLater]
  rw [decide_eq_true_eq]
  exact irrefl (key last)

/-- A row of a page is its last row, or it is listed before it. -/
theorem eq_or_before_last {before : κ -> κ -> Prop} {key : α -> κ} {rows : List α} {last row : α}
    (sorted : rows.Pairwise fun left right => before (key left) (key right))
    (isLast : rows.getLast? = some last) (member : row ∈ rows) : row = last ∨ before (key row) (key last) := by
  rw [← List.dropLast_append_getLast? last isLast] at sorted member
  rcases List.mem_append.mp member with earlier | final
  · exact Or.inr ((List.pairwise_append.mp sorted).2.2 row earlier last (List.mem_singleton.mpr rfl))
  · exact Or.inl (List.mem_singleton.mp final)

/-- The last row of a page is listed before every row behind the page. -/
theorem last_before_rest {before : κ -> κ -> Prop} {key : α -> κ} {rows : List α} {limit : Nat} {last row : α}
    (sorted : rows.Pairwise fun left right => before (key left) (key right))
    (isLast : (rows.take limit).getLast? = some last) (member : row ∈ rows.drop limit) :
    before (key last) (key row) := by
  rw [← List.take_append_drop limit rows] at sorted
  exact (List.pairwise_append.mp sorted).2.2 last (List.mem_of_getLast? isLast) row member

/-! ## Keeping the first rows -/

/-- The rows kept so far, and whether a row was left over. -/
abbrev Kept (α : Type u) := List α × Bool

/-- Keeps a row while there is room for it. -/
def keepFirst (limit : Nat) (kept : Kept α) (row : α) : Kept α :=
  if kept.1.length < limit then (kept.1 ++ [row], kept.2) else (kept.1, true)

theorem foldl_keepFirst (limit : Nat) (rows : List α) (kept : Kept α) (room : kept.1.length ≤ limit) :
    rows.foldl (keepFirst limit) kept =
      (kept.1 ++ rows.take (limit - kept.1.length),
        kept.2 || decide (limit < kept.1.length + rows.length)) := by
  induction rows generalizing kept with
  | nil =>
      have fits : ¬ limit < kept.1.length := Nat.not_lt.mpr room
      simp [fits]
  | cons row rest inductionHypothesis =>
      rw [List.foldl_cons, keepFirst]
      by_cases space : kept.1.length < limit
      · obtain ⟨free, free_eq⟩ : ∃ free, limit - kept.1.length = free + 1 :=
          Nat.exists_eq_succ_of_ne_zero (Nat.sub_ne_zero_of_lt space)
        have grown : (kept.1 ++ [row]).length = kept.1.length + 1 := List.length_append
        have left : limit - (kept.1.length + 1) = free := by omega
        rw [if_pos space, inductionHypothesis _ (by rw [grown]; exact space), grown, free_eq, left,
          List.take_succ_cons, List.append_assoc, List.length_cons, Nat.add_right_comm,
          Nat.add_assoc kept.1.length]
        rfl
      · have full : limit - kept.1.length = 0 := by omega
        have beyond : limit < kept.1.length + (row :: rest).length := by
          rw [List.length_cons]
          omega
        rw [if_neg space, inductionHypothesis (kept.1, true) room, full, List.take_zero, List.take_zero, Bool.true_or,
          decide_eq_true beyond, Bool.or_true]

theorem keepFirst_all (limit : Nat) (rows : List α) :
    rows.foldl (keepFirst limit) ([], false) = (rows.take limit, decide (limit < rows.length)) := by
  rw [foldl_keepFirst limit rows ([], false) (Nat.zero_le limit)]
  simp

/-! ## Keeping the last rows -/

/-- Keeps a row, and drops the oldest one when the ring is full. -/
def keepLast (limit : Nat) (kept : Kept α) (row : α) : Kept α :=
  if kept.1.length = limit then (kept.1.tail ++ [row], true) else (kept.1 ++ [row], kept.2)

/-- The last rows of a list. -/
def lastOf (limit : Nat) (rows : List α) : List α :=
  rows.drop (rows.length - limit)

theorem foldl_keepLast (limit : Nat) (positive : 0 < limit) (rows seen : List α) :
    rows.foldl (keepLast limit) (lastOf limit seen, decide (limit < seen.length)) =
      (lastOf limit (seen ++ rows), decide (limit < (seen ++ rows).length)) := by
  induction rows generalizing seen with
  | nil => rw [List.foldl_nil, List.append_nil]
  | cons row rest inductionHypothesis =>
      have split : seen ++ row :: rest = (seen ++ [row]) ++ rest := by
        rw [List.append_assoc, List.singleton_append]
      have oneStep : keepLast limit (lastOf limit seen, decide (limit < seen.length)) row =
          (lastOf limit (seen ++ [row]), decide (limit < (seen ++ [row]).length)) := by
        have grown : (seen ++ [row]).length = seen.length + 1 := List.length_append
        simp only [keepLast, lastOf, List.length_drop, grown]
        by_cases full : limit ≤ seen.length
        · have isFull : seen.length - (seen.length - limit) = limit := by omega
          have next : seen.length + 1 - limit = seen.length - limit + 1 := by omega
          rw [if_pos isFull, next, List.tail_drop, List.drop_append_of_le_length (by omega),
            decide_eq_true (Nat.lt_succ_of_le full)]
        · have hasRoom : ¬ seen.length - (seen.length - limit) = limit := by omega
          have nothing : seen.length - limit = 0 := by omega
          have still : seen.length + 1 - limit = 0 := by omega
          rw [if_neg hasRoom, nothing, still, List.drop_zero, List.drop_zero,
            decide_eq_false (show ¬ limit < seen.length by omega),
            decide_eq_false (show ¬ limit < seen.length + 1 by omega)]
      rw [List.foldl_cons, oneStep, inductionHypothesis, split]

theorem keepLast_all (limit : Nat) (positive : 0 < limit) (rows : List α) :
    rows.foldl (keepLast limit) ([], false) = (lastOf limit rows, decide (limit < rows.length)) := by
  have scanned := foldl_keepLast limit positive rows []
  have empty : lastOf limit ([] : List α) = [] := List.drop_nil
  rw [List.nil_append, List.length_nil, decide_eq_false (Nat.not_lt_zero limit), empty] at scanned
  exact scanned

/-- Read backwards, the last rows are the first rows of the opposite order. -/
theorem reverse_lastOf (limit : Nat) (rows : List α) :
    (lastOf limit rows).reverse = rows.reverse.take limit := by
  rw [lastOf, List.reverse_drop]
  by_cases short : rows.length ≤ limit
  · rw [Nat.sub_eq_zero_of_le short, Nat.sub_zero, ← List.length_reverse, List.take_length,
      List.take_of_length_le (by rw [List.length_reverse]; exact short)]
  · rw [Nat.sub_sub_self (by omega)]

end Keyset
end Foundation
