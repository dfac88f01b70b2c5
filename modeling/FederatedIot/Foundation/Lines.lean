import Mathlib.Algebra.Order.Field.Basic
import Mathlib.Tactic.FieldSimp
import Mathlib.Tactic.Linarith
import Mathlib.Tactic.Ring

namespace Foundation
namespace Lines

/-!
# Straight lines through two points

The line through two points of different abscissae, from either point.  Between
the points it stays between their ordinates, and points of an affine function
have that function as their line.
-/

universe u

variable {α : Type u} [Field α]

/-- The ordinate at `x` of the line through `(x₀, y₀)` and `(x₁, y₁)`. -/
def through (x₀ y₀ x₁ y₁ x : α) : α :=
  y₀ + (y₁ - y₀) * (x - x₀) / (x₁ - x₀)

theorem through_left (x₀ y₀ x₁ y₁ : α) : through x₀ y₀ x₁ y₁ x₀ = y₀ := by
  rw [through, sub_self, mul_zero, zero_div, add_zero]

theorem through_right {x₀ x₁ : α} (distinct : x₁ ≠ x₀) (y₀ y₁ : α) : through x₀ y₀ x₁ y₁ x₁ = y₁ := by
  rw [through, mul_div_cancel_right₀ _ (sub_ne_zero.mpr distinct), add_sub_cancel]

/-- The same line from its second point. -/
theorem through_second {x₀ x₁ : α} (distinct : x₁ ≠ x₀) (y₀ y₁ x : α) :
    y₁ + (y₁ - y₀) * (x - x₁) / (x₁ - x₀) = through x₀ y₀ x₁ y₁ x := by
  have width : x₁ - x₀ ≠ 0 := sub_ne_zero.mpr distinct
  rw [through]
  field_simp
  ring

/-- Two points of an affine function. -/
theorem through_affine {x₀ x₁ : α} (distinct : x₁ ≠ x₀) (level slope x : α) :
    through x₀ (level + slope * x₀) x₁ (level + slope * x₁) x = level + slope * x := by
  have width : x₁ - x₀ ≠ 0 := sub_ne_zero.mpr distinct
  rw [through]
  field_simp
  ring

variable [LinearOrder α] [IsStrictOrderedRing α]

/-- Between its points a line stays between their ordinates. -/
theorem through_between {x₀ x₁ x : α} (after : x₀ < x) (before : x < x₁) (y₀ y₁ : α) :
    min y₀ y₁ ≤ through x₀ y₀ x₁ y₁ x ∧ through x₀ y₀ x₁ y₁ x ≤ max y₀ y₁ := by
  have width : 0 < x₁ - x₀ := sub_pos.mpr (after.trans before)
  have left : 0 ≤ (x - x₀) / (x₁ - x₀) := div_nonneg (sub_nonneg.mpr after.le) width.le
  have right : (x - x₀) / (x₁ - x₀) ≤ 1 := (div_le_one width).mpr (sub_le_sub_right before.le x₀)
  rw [through, mul_div_assoc]
  generalize (x - x₀) / (x₁ - x₀) = part at left right
  have first : 0 ≤ 1 - part := sub_nonneg.mpr right
  have convex : y₀ + (y₁ - y₀) * part = (1 - part) * y₀ + part * y₁ := by ring
  rw [convex]
  constructor
  · calc min y₀ y₁ = (1 - part) * min y₀ y₁ + part * min y₀ y₁ := by ring
      _ ≤ (1 - part) * y₀ + part * y₁ := add_le_add (mul_le_mul_of_nonneg_left (min_le_left _ _) first)
          (mul_le_mul_of_nonneg_left (min_le_right _ _) left)
  · calc (1 - part) * y₀ + part * y₁ ≤ (1 - part) * max y₀ y₁ + part * max y₀ y₁ :=
          add_le_add (mul_le_mul_of_nonneg_left (le_max_left _ _) first)
            (mul_le_mul_of_nonneg_left (le_max_right _ _) left)
      _ = max y₀ y₁ := by ring

end Lines
end Foundation
