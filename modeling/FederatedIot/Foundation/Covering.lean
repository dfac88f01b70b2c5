import FederatedIot.Foundation.Clusters
import Mathlib.Data.Fintype.Pigeonhole

namespace Foundation
namespace Clusters

/-!
# Coverings

Of points that are all apart two share the nearest of fewer places, so that one of the two
is not near to it.  Hence points that were chosen one after another, each the farthest from
those before, cover all points nearly as well as any as many places can.
-/

theorem squaredDistance_comm {α : Type*} [Field α] (left right : List α) :
    squaredDistance left right = squaredDistance right left := by
  unfold squaredDistance
  rw [List.zipWith_comm]
  exact congrArg (fun term => (List.zipWith term right left).sum) (funext₂ fun a b => sub_sq_comm b a)

variable {α : Type*} [Field α] [LinearOrder α] [IsStrictOrderedRing α] {width : Nat}

/-- Between two points there is no more than twice what is between either of them and a third. -/
theorem squaredDistance_through {left right third : List α} (leftWidth : left.length = width)
    (rightWidth : right.length = width) (thirdWidth : third.length = width) :
    squaredDistance left right ≤ 2 * (squaredDistance left third + squaredDistance right third) := by
  rw [squaredDistance_eq_sum leftWidth rightWidth, squaredDistance_eq_sum leftWidth thirdWidth,
    squaredDistance_eq_sum rightWidth thirdWidth, ← Finset.sum_add_distrib, Finset.mul_sum]
  refine Finset.sum_le_sum fun column _ => ?_
  have square := sq_nonneg (left.getD column 0 + right.getD column 0 - 2 * third.getD column 0)
  linarith

omit [IsStrictOrderedRing α] in
/-- Of more points than places two have the same nearest place. -/
theorem exists_shared {points places : List (List α)} (more : places.length < points.length) (present : places ≠ []) :
    exists first second : Nat, first < second ∧ exists left right place, points[first]? = some left ∧ points[second]? = some right ∧
      place ∈ places ∧ toNearest places left = squaredDistance left place ∧
        toNearest places right = squaredDistance right place := by
  have nearest (index : Fin points.length) : exists position : Fin places.length,
      toNearest places (points.get index) = squaredDistance (points.get index) (places.get position) := by
    rcases toNearest_attained present (points.get index) with ⟨place, listed, attained⟩
    rcases List.mem_iff_get.mp listed with ⟨position, rfl⟩
    exact ⟨position, attained⟩
  choose assigned attained using nearest
  rcases Fintype.exists_ne_map_eq_of_card_lt assigned (by rw [Fintype.card_fin, Fintype.card_fin]; exact more) with
    ⟨first, second, different, same⟩
  have found (index : Fin points.length) : points[index.val]? = some (points.get index) := List.getElem?_eq_getElem index.isLt
  rcases lt_or_gt_of_ne different with before | after
  · exact ⟨first, second, before, _, _, _, found first, found second, List.get_mem _ (assigned first), attained first,
      same ▸ attained second⟩
  · exact ⟨second, first, after, _, _, _, found second, found first, List.get_mem _ (assigned first), same ▸ attained second,
      attained first⟩

/-- When more points than places are apart by a radius, no bound below a quarter of it covers them. -/
theorem radius_le_of_covered {points places : List (List α)} {radius bound : α} (widths : ∀ point ∈ points, point.length = width)
    (placeWidths : ∀ place ∈ places, place.length = width) (present : places ≠ []) (more : places.length < points.length)
    (apart : points.Pairwise fun left right => radius ≤ squaredDistance left right)
    (covered : ∀ point ∈ points, toNearest places point ≤ bound) : radius ≤ 4 * bound := by
  rcases exists_shared more present with ⟨first, second, before, left, right, place, atFirst, atSecond, listed, toLeft, toRight⟩
  rcases List.getElem?_eq_some_iff.mp atFirst with ⟨firstInside, rfl⟩
  rcases List.getElem?_eq_some_iff.mp atSecond with ⟨secondInside, rfl⟩
  have between := List.pairwise_iff_getElem.mp apart first second firstInside secondInside before
  have through := squaredDistance_through (widths _ (List.getElem_mem firstInside)) (widths _ (List.getElem_mem secondInside))
    (placeWidths place listed)
  have leftBound := covered _ (List.getElem_mem firstInside)
  have rightBound := covered _ (List.getElem_mem secondInside)
  rw [toLeft] at leftBound
  rw [toRight] at rightBound
  linarith

end Clusters
end Foundation
