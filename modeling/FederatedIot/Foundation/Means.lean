import Mathlib.Algebra.BigOperators.Group.List.Basic
import Mathlib.Algebra.BigOperators.Ring.List
import Mathlib.Algebra.Order.BigOperators.Group.List
import Mathlib.Algebra.Order.Field.Basic
import Mathlib.Tactic.Linarith
import Mathlib.Tactic.Ring

namespace Foundation
namespace Means

/-!
# Weighted means

A mean of values with nonnegative weights lies between two of the values whose
weight is positive.  Items of weight zero take no part in it, and neither the
order of the items nor the scale of the weights matters.
-/

universe u v

variable {ι : Type u} {α : Type v} [Field α] [LinearOrder α]

/-- The items that take part in a mean. -/
def contributors (weight : ι -> α) (items : List ι) : List ι :=
  items.filter fun item => decide (0 < weight item)

/-- The value lies between two of the listed ones, and so between the least and
the greatest of them. -/
def Between (values : List α) (value : α) : Prop :=
  ∃ low ∈ values, ∃ high ∈ values, low ≤ value ∧ value ≤ high

omit [Field α] in
theorem Between.subset {values others : List α} {value : α} (between : Between values value)
    (inside : ∀ item ∈ values, item ∈ others) : Between others value := by
  rcases between with ⟨low, lowMember, high, highMember, lower, upper⟩
  exact ⟨low, inside low lowMember, high, inside high highMember, lower, upper⟩

omit [Field α] in
theorem Between.bounds {values : List α} {value low high : α} (between : Between values value)
    (lower : ∀ item ∈ values, low ≤ item) (upper : ∀ item ∈ values, item ≤ high) :
    low ≤ value ∧ value ≤ high := by
  rcases between with ⟨least, leastMember, greatest, greatestMember, above, below⟩
  exact ⟨(lower least leastMember).trans above, below.trans (upper greatest greatestMember)⟩

theorem contributors_mem {weight : ι -> α} {items : List ι} {item : ι} :
    item ∈ contributors weight items ↔ item ∈ items ∧ 0 < weight item := by
  rw [contributors, List.mem_filter, decide_eq_true_eq]

omit [LinearOrder α] in
/-- What a sum loses by leaving out items is zero when they are all zero. -/
theorem sum_filter_of_zero {keep : ι -> Bool} {part : ι -> α} {items : List ι}
    (zero : ∀ item ∈ items, keep item = false -> part item = 0) :
    ((items.filter keep).map part).sum = (items.map part).sum := by
  induction items with
  | nil => rfl
  | cons head tail inductionHypothesis =>
      have rest := inductionHypothesis fun item member => zero item (List.mem_cons_of_mem head member)
      cases kept : keep head with
      | true => rw [List.filter_cons_of_pos kept, List.map_cons, List.sum_cons, rest, List.map_cons, List.sum_cons]
      | false =>
          have nothing := zero head List.mem_cons_self kept
          rw [List.filter_cons_of_neg (by simp [kept]), rest, List.map_cons, List.sum_cons, nothing, zero_add]

theorem contributors_sum {weight : ι -> α} (value : ι -> α) {items : List ι}
    (nonnegative : ∀ item ∈ items, 0 ≤ weight item) :
    ((contributors weight items).map fun item => weight item * value item).sum =
      (items.map fun item => weight item * value item).sum := by
  apply sum_filter_of_zero
  intro item member dropped
  have zero : weight item = 0 :=
    le_antisymm (not_lt.mp (of_decide_eq_false dropped)) (nonnegative item member)
  rw [zero, zero_mul]

variable [IsStrictOrderedRing α]

/-- A weighted mean lies between two values of positive weight. -/
theorem between_of_mean {weight value : ι -> α} {items : List ι} {mean : α}
    (nonnegative : ∀ item ∈ items, 0 ≤ weight item) (positive : 0 < (items.map weight).sum)
    (balanced : mean * (items.map weight).sum = (items.map fun item => weight item * value item).sum) :
    Between ((contributors weight items).map value) mean := by
  have total := contributors_sum (fun _ => 1) nonnegative
  simp only [mul_one] at total
  have present : contributors weight items ≠ [] := by
    intro empty
    rw [empty, List.map_nil, List.sum_nil] at total
    exact positive.ne total
  have same : ((contributors weight items).map fun item => weight item * mean).sum =
      ((contributors weight items).map fun item => weight item * value item).sum := by
    rw [contributors_sum value nonnegative, ← balanced, List.sum_map_mul_right, total, mul_comm]
  rcases List.exists_le_of_sum_le present _ _ same.ge with ⟨low, lowMember, lower⟩
  rcases List.exists_le_of_sum_le present _ _ same.le with ⟨high, highMember, upper⟩
  refine ⟨value low, List.mem_map_of_mem lowMember, value high, List.mem_map_of_mem highMember, ?_, ?_⟩
  · exact le_of_mul_le_mul_left lower (contributors_mem.mp lowMember).2
  · exact le_of_mul_le_mul_left upper (contributors_mem.mp highMember).2

/-- The mean has the least sum of squared differences. -/
theorem mean_least_squares {values : List α} (present : values ≠ []) (other : α) :
    (values.map fun value => (value - values.sum / values.length) ^ 2).sum ≤
      (values.map fun value => (value - other) ^ 2).sum := by
  have count : (0 : α) < values.length := Nat.cast_pos.mpr (List.length_pos_iff.mpr present)
  have expand (center : α) : (values.map fun value => (value - center) ^ 2).sum =
      (values.map fun value => value ^ 2).sum - 2 * center * values.sum + values.length * center ^ 2 := by
    clear count present
    induction values with
    | nil => simp
    | cons value values inductionHypothesis =>
        rw [List.map_cons, List.sum_cons, inductionHypothesis, List.map_cons, List.sum_cons, List.sum_cons,
          List.length_cons]
        push_cast
        ring
  have balance : values.sum = values.length * (values.sum / values.length) := (mul_div_cancel₀ _ count.ne').symm
  rw [expand, expand]
  generalize values.sum / values.length = mean at balance
  rw [balance]
  have square : 0 ≤ (values.length : α) * (mean - other) ^ 2 := mul_nonneg count.le (sq_nonneg _)
  linarith [square, (by ring : (values.length : α) * (mean - other) ^ 2 =
    values.length * mean ^ 2 - 2 * mean * other * values.length + values.length * other ^ 2)]

end Means
end Foundation
