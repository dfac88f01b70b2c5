import FederatedIot.Foundation.Means
import Mathlib.Algebra.BigOperators.Group.List.Lemmas
import Mathlib.Algebra.BigOperators.Ring.Finset
import Mathlib.Algebra.Order.BigOperators.Group.Finset
import Mathlib.Tactic.Ring

namespace Foundation
namespace Clusters

/-!
# Points, centers and their cost

Points are lists of coordinates.  The cost of centers is the sum over the points
of the squared distance to the nearest center.  It does not grow when the points
are assigned to their nearest centers and the centers of the clusters that have
points are replaced by the means of these; what becomes of the other centers
plays no part.
-/

variable {α : Type*} [Field α]

/-- The squared distance, coordinate by coordinate. -/
def squaredDistance (left right : List α) : α :=
  (List.zipWith (fun a b => (a - b) ^ 2) left right).sum

theorem squaredDistance_eq_sum {left right : List α} {width : Nat} (leftWidth : left.length = width)
    (rightWidth : right.length = width) :
    squaredDistance left right = ∑ column ∈ Finset.range width, (left.getD column 0 - right.getD column 0) ^ 2 := by
  induction left generalizing right width with
  | nil =>
      rw [← leftWidth]
      rfl
  | cons a left inductionHypothesis =>
      cases right with
      | nil =>
          rw [← leftWidth] at rightWidth
          cases rightWidth
      | cons b right =>
          obtain rfl : left.length + 1 = width := leftWidth
          have tail := @inductionHypothesis right left.length rfl (Nat.succ.inj rightWidth)
          have split : squaredDistance (a :: left) (b :: right) = (a - b) ^ 2 + squaredDistance left right := rfl
          rw [Finset.sum_range_succ', split, tail, add_comm]
          rfl

/-- The points that are assigned to a center. -/
def members (points : List (List α)) (assignment : List Nat) (center : Nat) : List (List α) :=
  ((points.zip assignment).filter fun pair => decide (pair.2 = center)).map Prod.fst

omit [Field α] in
theorem members_subset {points : List (List α)} {assignment : List Nat} {center : Nat} {point : List α}
    (member : point ∈ members points assignment center) : point ∈ points := by
  rcases List.mem_map.mp member with ⟨pair, listed, rfl⟩
  exact (List.of_mem_zip (List.mem_filter.mp listed).1).1

/-- A sum over assigned points, cluster by cluster. -/
theorem sum_by_cluster {points : List (List α)} {assignment : List Nat} {count : Nat}
    (inside : ∀ center ∈ assignment, center < count) (part : List α -> Nat -> α) :
    ((points.zip assignment).map fun pair => part pair.1 pair.2).sum =
      ∑ center ∈ Finset.range count, ((members points assignment center).map fun point => part point center).sum := by
  simp only [members, List.map_map]
  induction assignment generalizing points with
  | nil => simp
  | cons first assignment inductionHypothesis =>
      cases points with
      | nil => simp
      | cons point points =>
          have here : first ∈ Finset.range count := Finset.mem_range.mpr (inside first List.mem_cons_self)
          rw [List.zip_cons_cons, List.map_cons, List.sum_cons,
            inductionHypothesis fun center member => inside center (List.mem_cons_of_mem first member)]
          have step (center : Nat) :
              ((((point, first) :: points.zip assignment).filter fun pair => decide (pair.2 = center)).map
                ((fun point => part point center) ∘ Prod.fst)).sum =
              (if first = center then part point center else 0) +
                (((points.zip assignment).filter fun pair => decide (pair.2 = center)).map
                  ((fun point => part point center) ∘ Prod.fst)).sum := by
            rw [List.filter_cons]
            by_cases same : first = center
            · rw [if_pos (decide_eq_true same), if_pos same]
              rfl
            · rw [if_neg (by simp [same]), if_neg same, zero_add]
          rw [Finset.sum_congr rfl fun center _ => step center, Finset.sum_add_distrib, Finset.sum_ite_eq, if_pos here]

/-- The sum of the distances to a point, coordinate by coordinate. -/
theorem sum_squaredDistance {points : List (List α)} {center : List α} {width : Nat}
    (widths : ∀ point ∈ points, point.length = width) (centerWidth : center.length = width) :
    (points.map fun point => squaredDistance point center).sum =
      ∑ column ∈ Finset.range width, ((points.map (·.getD column 0)).map fun value => (value - center.getD column 0) ^ 2).sum := by
  induction points with
  | nil => simp
  | cons point points inductionHypothesis =>
      rw [List.map_cons, List.sum_cons,
        inductionHypothesis fun other member => widths other (List.mem_cons_of_mem point member),
        squaredDistance_eq_sum (widths point List.mem_cons_self) centerWidth, ← Finset.sum_add_distrib]
      rfl

theorem squaredDistance_self (point : List α) : squaredDistance point point = 0 := by
  induction point with
  | nil => rfl
  | cons a rest inductionHypothesis =>
      have split : squaredDistance (a :: rest) (a :: rest) = (a - a) ^ 2 + squaredDistance rest rest := rfl
      rw [split, inductionHypothesis, sub_self, add_zero]
      exact zero_pow two_ne_zero

variable [LinearOrder α] [IsStrictOrderedRing α]

/-- The mean of the points, coordinate by coordinate, has the least sum of
distances to them. -/
theorem mean_minimizes {points : List (List α)} {mean center : List α} {width : Nat} (present : points ≠ [])
    (widths : ∀ point ∈ points, point.length = width) (meanWidth : mean.length = width)
    (centerWidth : center.length = width)
    (isMean : ∀ column < width, mean.getD column 0 = (points.map (·.getD column 0)).sum / points.length) :
    (points.map fun point => squaredDistance point mean).sum ≤
      (points.map fun point => squaredDistance point center).sum := by
  rw [sum_squaredDistance widths meanWidth, sum_squaredDistance widths centerWidth]
  apply Finset.sum_le_sum
  intro column inside
  rw [isMean column (Finset.mem_range.mp inside), ← List.length_map (·.getD column 0)]
  exact Means.mean_least_squares (fun empty => present (List.map_eq_nil_iff.mp empty)) _

theorem squaredDistance_nonnegative (left right : List α) : 0 ≤ squaredDistance left right := by
  apply List.sum_nonneg
  intro value member
  rw [← List.map_uncurry_zip_eq_zipWith] at member
  rcases List.mem_map.mp member with ⟨pair, _, rfl⟩
  exact sq_nonneg (pair.1 - pair.2)

/-- Points of one width are apart unless they are the same. -/
theorem eq_of_squaredDistance {left right : List α} (same : left.length = right.length)
    (zero : squaredDistance left right = 0) : left = right := by
  induction left generalizing right with
  | nil =>
      cases right with
      | nil => rfl
      | cons b right => cases same
  | cons a left inductionHypothesis =>
      cases right with
      | nil => cases same
      | cons b right =>
          have split : squaredDistance (a :: left) (b :: right) = (a - b) ^ 2 + squaredDistance left right := rfl
          have head := sq_nonneg (a - b)
          have tail := squaredDistance_nonnegative left right
          have equal : a = b := sub_eq_zero.mp (pow_eq_zero_iff two_ne_zero |>.mp (by linarith))
          rw [equal, inductionHypothesis (Nat.succ.inj same) (by linarith)]

/-! ## The cost of centers -/

/-- The squared distance to the nearest center. -/
def toNearest (centers : List (List α)) (point : List α) : α :=
  ((centers.map (squaredDistance point)).tail).foldl min ((centers.map (squaredDistance point)).headD 0)

/-- The sum over the points of the squared distance to the nearest center. -/
def cost (points centers : List (List α)) : α :=
  (points.map (toNearest centers)).sum

omit [Field α] [IsStrictOrderedRing α] in
theorem foldl_min_le {values : List α} {start value : α} (member : value = start ∨ value ∈ values) :
    values.foldl min start ≤ value := by
  induction values generalizing start value with
  | nil => exact (member.resolve_right List.not_mem_nil).ge
  | cons head tail inductionHypothesis =>
      rw [List.foldl_cons]
      have low : tail.foldl min (min start head) ≤ min start head := inductionHypothesis (Or.inl rfl)
      rcases member with isStart | listed
      · rw [isStart]
        exact low.trans (min_le_left start head)
      · rcases List.mem_cons.mp listed with isHead | inTail
        · rw [isHead]
          exact low.trans (min_le_right start head)
        · exact inductionHypothesis (Or.inr inTail)

omit [Field α] [IsStrictOrderedRing α] in
theorem foldl_min_mem (values : List α) (start : α) : values.foldl min start = start ∨ values.foldl min start ∈ values := by
  induction values generalizing start with
  | nil => exact Or.inl rfl
  | cons head tail inductionHypothesis =>
      rw [List.foldl_cons]
      rcases inductionHypothesis (min start head) with same | inTail
      · rcases min_choice start head with isStart | isHead
        · exact Or.inl (same.trans isStart)
        · exact Or.inr (by rw [same, isHead]; exact List.mem_cons_self)
      · exact Or.inr (List.mem_cons_of_mem head inTail)

omit [IsStrictOrderedRing α] in
theorem toNearest_le {centers : List (List α)} {center : List α} (member : center ∈ centers) (point : List α) :
    toNearest centers point ≤ squaredDistance point center := by
  cases centers with
  | nil => cases member
  | cons first rest =>
      apply foldl_min_le
      rcases List.mem_cons.mp member with isFirst | inRest
      · exact Or.inl (by rw [isFirst]; rfl)
      · exact Or.inr (List.mem_map_of_mem inRest)

omit [IsStrictOrderedRing α] in
theorem toNearest_attained {centers : List (List α)} (present : centers ≠ []) (point : List α) :
    ∃ center ∈ centers, toNearest centers point = squaredDistance point center := by
  cases centers with
  | nil => exact absurd rfl present
  | cons first rest =>
      rcases foldl_min_mem (rest.map (squaredDistance point)) (squaredDistance point first) with isFirst | inRest
      · exact ⟨first, List.mem_cons_self, isFirst⟩
      · rcases List.mem_map.mp inRest with ⟨center, listed, same⟩
        exact ⟨center, List.mem_cons_of_mem first listed, same.symm⟩

omit [IsStrictOrderedRing α] in
/-- One more center. -/
theorem toNearest_concat {centers : List (List α)} (present : centers ≠ []) (center point : List α) :
    toNearest (centers ++ [center]) point = min (toNearest centers point) (squaredDistance point center) := by
  cases centers with
  | nil => exact absurd rfl present
  | cons first rest =>
      simp only [toNearest, List.cons_append, List.map_cons, List.map_append, List.tail_cons, List.headD_cons,
        List.map_nil, List.foldl_append, List.foldl_cons, List.foldl_nil]

/-- The cost does not grow when the points are assigned to nearest centers and
the centers that have points move to their means. -/
theorem cost_le_of_move {points old new : List (List α)} {assignment : List Nat} {width count : Nat}
    (widths : ∀ point ∈ points, point.length = width) (oldCount : old.length = count) (newCount : new.length = count)
    (oldWidths : ∀ center ∈ old, center.length = width) (newWidths : ∀ center ∈ new, center.length = width)
    (assigned : assignment.length = points.length)
    (nearest : ∀ pair ∈ points.zip assignment, pair.2 < count ∧
      squaredDistance pair.1 (old.getD pair.2 []) = toNearest old pair.1)
    (moved : ∀ center < count, members points assignment center ≠ [] -> ∀ column < width,
      (new.getD center []).getD column 0 = ((members points assignment center).map (·.getD column 0)).sum /
        (members points assignment center).length) : cost points new ≤ cost points old := by
  have listedAt {centers : List (List α)} (length : centers.length = count) {index : Nat} (inside : index < count) :
      centers.getD index [] ∈ centers := by
    rw [List.getD_eq_getElem?_getD, List.getElem?_eq_getElem (length.symm ▸ inside)]
    exact List.getElem_mem _
  have inside : ∀ center ∈ assignment, center < count := by
    intro center member
    rw [← List.map_snd_zip assigned.le] at member
    rcases List.mem_map.mp member with ⟨pair, listed, rfl⟩
    exact (nearest pair listed).1
  have paired (part : List α -> α) : (points.map part).sum = ((points.zip assignment).map fun pair => part pair.1).sum := by
    conv_lhs => rw [← List.map_fst_zip assigned.ge, List.map_map]
    rfl
  calc cost points new = ((points.zip assignment).map fun pair => toNearest new pair.1).sum := paired _
    _ ≤ ((points.zip assignment).map fun pair => squaredDistance pair.1 (new.getD pair.2 [])).sum :=
        List.sum_le_sum fun pair listed => toNearest_le (listedAt newCount (nearest pair listed).1) pair.1
    _ = ∑ center ∈ Finset.range count,
          ((members points assignment center).map fun point => squaredDistance point (new.getD center [])).sum :=
        sum_by_cluster inside fun point center => squaredDistance point (new.getD center [])
    _ ≤ ∑ center ∈ Finset.range count,
          ((members points assignment center).map fun point => squaredDistance point (old.getD center [])).sum := by
        apply Finset.sum_le_sum
        intro center listed
        have below := Finset.mem_range.mp listed
        by_cases empty : members points assignment center = []
        · rw [empty]
          rfl
        · exact mean_minimizes empty (fun point member => widths point (members_subset member))
            (newWidths _ (listedAt newCount below)) (oldWidths _ (listedAt oldCount below)) (moved center below empty)
    _ = ((points.zip assignment).map fun pair => squaredDistance pair.1 (old.getD pair.2 [])).sum :=
        (sum_by_cluster inside fun point center => squaredDistance point (old.getD center [])).symm
    _ = ((points.zip assignment).map fun pair => toNearest old pair.1).sum :=
        congrArg List.sum (List.map_congr_left fun pair listed => (nearest pair listed).2)
    _ = cost points old := (paired _).symm

end Clusters
end Foundation
