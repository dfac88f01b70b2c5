import Mathlib.Algebra.Order.Field.Rat
import Mathlib.Algebra.Order.Floor.Ring
import Mathlib.Data.Int.Log
import Mathlib.Data.Rat.Floor
import Mathlib.Tactic.Linarith
import Mathlib.Tactic.NormNum
import Mathlib.Tactic.Positivity
import Mathlib.Tactic.FieldSimp

namespace Foundation
namespace Binary64

/-!
# Rounding to double precision

A finite double is a rational number: an integer of at most 53 bits times a
power of two.  Rounding takes a rational number to the nearest double, and of
two that are equally near to the one with the even integer.  Both zeros have
the value 0.
-/

/-- The nearest integer, and of two the even one. -/
def roundEven (value : Rat) : Int :=
  let floor := ⌊value⌋
  if value - floor < 1 / 2 then floor
  else if 1 / 2 < value - floor then floor + 1
  else floor + floor % 2

/-- The exponent of the distance between the doubles around the value. -/
def spacing (value : Rat) : Int :=
  max (Int.log 2 |value| - 52) (-1074)

def round (value : Rat) : Rat :=
  roundEven (value / 2 ^ spacing value) * 2 ^ spacing value

/-- The values from which on there is no finite double. -/
def overflows (value : Rat) : Bool :=
  2 ^ 1024 ≤ |round value|

/-- An integer of at most 53 bits times a power of two that is not below the
least one. -/
def Representable (value : Rat) : Prop :=
  ∃ mantissa exponent : Int, |mantissa| ≤ 2 ^ 53 ∧ -1074 ≤ exponent ∧ value = mantissa * 2 ^ exponent

/-! ## Rounding to an integer -/

@[simp]
theorem roundEven_intCast (value : Int) : roundEven (value : Rat) = value := by
  simp [roundEven]

/-- An integer that is nearer than one half is the nearest one. -/
theorem roundEven_eq {value : Rat} {nearest : Int} (near : |value - nearest| < 1 / 2) :
    roundEven value = nearest := by
  rcases abs_lt.mp near with ⟨below, above⟩
  rcases lt_or_ge value nearest with less | notLess
  · have floor : ⌊value⌋ = nearest - 1 := by
      apply Int.floor_eq_iff.mpr
      push_cast
      constructor <;> linarith
    simp only [roundEven, floor]
    push_cast
    rw [if_neg (by linarith), if_pos (by linarith)]
    omega
  · have floor : ⌊value⌋ = nearest := by
      apply Int.floor_eq_iff.mpr
      constructor <;> linarith
    simp only [roundEven, floor]
    rw [if_pos (by linarith)]

theorem roundEven_bounds (value : Rat) : ⌊value⌋ ≤ roundEven value ∧ roundEven value ≤ ⌊value⌋ + 1 := by
  simp only [roundEven]
  split
  · omega
  · split
    · omega
    · omega

/-! ## Rounding to a double -/

theorem two_zpow_pos (exponent : Int) : (0 : Rat) < 2 ^ exponent :=
  zpow_pos (by norm_num) exponent

/-- A value measured in its spacing is below 2 to the 53. -/
theorem scaled_lt (value : Rat) : |value / 2 ^ spacing value| < 2 ^ 53 := by
  rw [abs_div, abs_of_pos (two_zpow_pos _), div_lt_iff₀ (two_zpow_pos _)]
  have bound : |value| < 2 ^ (Int.log 2 |value| + 1) := Int.lt_zpow_succ_log_self (by decide) _
  have grows : (2 : Rat) ^ (Int.log 2 |value| + 1) ≤ 2 ^ ((53 : Int) + spacing value) := by
    apply zpow_le_zpow_right₀ (by norm_num)
    have := le_max_left (Int.log 2 |value| - 52) (-1074)
    rw [spacing]
    omega
  calc |value| < 2 ^ (Int.log 2 |value| + 1) := bound
    _ ≤ (2 : Rat) ^ ((53 : Int) + spacing value) := grows
    _ = 2 ^ 53 * 2 ^ spacing value := by
        rw [zpow_add₀ (by norm_num)]
        norm_cast

/-- Rounding yields a double, or a power of two beyond the greatest one. -/
theorem representable_round (value : Rat) : Representable (round value) := by
  refine ⟨roundEven (value / 2 ^ spacing value), spacing value, ?_, le_max_right _ _, rfl⟩
  have scaled := abs_lt.mp (scaled_lt value)
  have floor := Int.floor_le (value / 2 ^ spacing value)
  have next := Int.lt_floor_add_one (value / 2 ^ spacing value)
  have bounds := roundEven_bounds (value / 2 ^ spacing value)
  have above : ⌊value / 2 ^ spacing value⌋ < 2 ^ 53 := by
    apply Int.floor_lt.mpr
    push_cast
    exact scaled.2
  have below : -2 ^ 53 - 1 < ⌊value / 2 ^ spacing value⌋ := by
    have : (-2 ^ 53 - 1 : Rat) < ⌊value / 2 ^ spacing value⌋ := by linarith
    exact_mod_cast this
  rw [abs_le]
  constructor
  · have : -2 ^ 53 ≤ ⌊value / 2 ^ spacing value⌋ := by omega
    omega
  · omega

/-- A double whose spacing divides it is its own rounding. -/
theorem round_of_multiple {value : Rat} {multiple : Int} (same : value = multiple * 2 ^ spacing value) :
    round value = value := by
  have scaled : value / 2 ^ spacing value = multiple := by
    rw [div_eq_iff (two_zpow_pos _).ne']
    exact same
  rw [round, scaled, roundEven_intCast]
  exact same.symm

theorem round_of_spacing_le {mantissa exponent : Int}
    (le : spacing ((mantissa : Rat) * 2 ^ exponent) ≤ exponent) :
    round ((mantissa : Rat) * 2 ^ exponent) = mantissa * 2 ^ exponent := by
  rcases Int.le.dest le with ⟨shift, same⟩
  refine @round_of_multiple _ (mantissa * 2 ^ shift) ?_
  conv_lhs => rw [← same, zpow_add₀ (by norm_num), zpow_natCast]
  push_cast
  ring

theorem spacing_le {value : Rat} {exponent : Int} (nonzero : value ≠ 0) (least : -1074 ≤ exponent)
    (bound : |value| < 2 ^ (exponent + 53)) : spacing value ≤ exponent := by
  have log := Int.zpow_log_le_self (b := 2) (by decide) (abs_pos.mpr nonzero)
  have less : (2 : Rat) ^ Int.log 2 |value| < 2 ^ (exponent + 53) := lt_of_le_of_lt log bound
  have exponents := (zpow_lt_zpow_iff_right₀ (by norm_num : (1 : Rat) < 2)).mp less
  exact max_le (by omega) least

/-- Doubles are their own roundings. -/
theorem round_eq_self {value : Rat} (representable : Representable value) : round value = value := by
  rcases representable with ⟨mantissa, exponent, bits, least, rfl⟩
  by_cases zero : mantissa = 0
  · rw [zero, Int.cast_zero, zero_mul, round, zero_div, ← Int.cast_zero, roundEven_intCast]
    rw [Int.cast_zero, zero_mul]
  · have nonzero : (mantissa : Rat) * 2 ^ exponent ≠ 0 :=
      mul_ne_zero (by exact_mod_cast zero) (two_zpow_pos _).ne'
    have size : |(mantissa : Rat) * 2 ^ exponent| = |mantissa| * 2 ^ exponent := by
      rw [abs_mul, abs_of_pos (two_zpow_pos _)]
      norm_cast
    rcases lt_or_eq_of_le bits with fewer | most
    · apply round_of_spacing_le
      refine spacing_le nonzero least ?_
      rw [size, zpow_add₀ (by norm_num), mul_comm]
      refine mul_lt_mul_of_pos_left ?_ (two_zpow_pos _)
      exact_mod_cast fewer
    · -- a mantissa of 54 bits is a power of two and may be halved
      have half : ∃ smaller : Int, mantissa = smaller * 2 ∧ |smaller| < 2 ^ 53 := by
        rcases abs_choice mantissa with positive | negative
        · exact ⟨2 ^ 52, by omega, by decide⟩
        · exact ⟨-2 ^ 52, by omega, by decide⟩
      rcases half with ⟨smaller, double, fewer⟩
      have same : (mantissa : Rat) * 2 ^ exponent = smaller * 2 ^ (exponent + 1) := by
        rw [double, zpow_add₀ (by norm_num)]
        push_cast
        ring
      have smallerNonzero : (smaller : Rat) * 2 ^ (exponent + 1) ≠ 0 := same ▸ nonzero
      rw [same]
      apply round_of_spacing_le
      refine spacing_le smallerNonzero (by omega) ?_
      rw [abs_mul, abs_of_pos (two_zpow_pos _), zpow_add₀ (by norm_num) (exponent + 1), mul_comm]
      refine mul_lt_mul_of_pos_left ?_ (two_zpow_pos _)
      exact_mod_cast fewer

/-- The doubles are the values that rounding leaves as they are. -/
theorem round_eq_self_iff {value : Rat} : round value = value ↔ Representable value := by
  constructor
  · intro same
    rw [← same]
    exact representable_round value
  · exact round_eq_self

theorem roundEven_le {value : Rat} {bound : Int} (below : value ≤ bound) : roundEven value ≤ bound := by
  rcases lt_or_eq_of_le below with less | same
  · exact (roundEven_bounds value).2.trans (Int.add_one_le_of_lt (Int.floor_lt.mpr less))
  · rw [same, roundEven_intCast]

theorem spacing_mono {value bound : Rat} (positive : 0 < value) (below : value ≤ bound) : spacing value ≤ spacing bound := by
  rw [spacing, spacing, abs_of_pos positive, abs_of_pos (positive.trans_le below)]
  exact max_le_max_right _ (sub_le_sub_right (Int.log_mono_right positive below) 52)

/-- Rounding does not go beyond a double. -/
theorem round_le {value bound : Rat} (nonnegative : 0 ≤ value) (below : value ≤ bound) (representable : Representable bound) :
    round value ≤ bound := by
  rcases lt_or_eq_of_le nonnegative with positive | zero
  · rcases Int.le.dest (spacing_mono positive below) with ⟨shift, same⟩
    have scale : (2 : Rat) ^ spacing bound = 2 ^ shift * 2 ^ spacing value := by
      rw [← same, zpow_add₀ (by norm_num), zpow_natCast, mul_comm]
    have boundIs : bound = (roundEven (bound / 2 ^ spacing bound) * 2 ^ shift : Int) * 2 ^ spacing value := by
      calc bound = roundEven (bound / 2 ^ spacing bound) * 2 ^ spacing bound := (round_eq_self representable).symm
        _ = roundEven (bound / 2 ^ spacing bound) * (2 ^ shift * 2 ^ spacing value) := congrArg _ scale
        _ = (roundEven (bound / 2 ^ spacing bound) * 2 ^ shift : Int) * 2 ^ spacing value := by
          push_cast
          rw [mul_assoc]
    have scaled : value / 2 ^ spacing value ≤ (roundEven (bound / 2 ^ spacing bound) * 2 ^ shift : Int) := by
      rw [div_le_iff₀ (two_zpow_pos _), ← boundIs]
      exact below
    rw [round]
    conv_rhs => rw [boundIs]
    exact mul_le_mul_of_nonneg_right (by exact_mod_cast roundEven_le scaled) (two_zpow_pos _).le
  · rw [← zero, round_eq_self ⟨0, 0, by norm_num, by norm_num, by simp⟩, zero]
    exact below

/-- An integer is a double when it has at most 53 bits before its trailing zeros. -/
theorem representable_int_iff {value : Int} :
    Representable value ↔
      ∃ mantissa : Int, ∃ zeros : Nat, |mantissa| ≤ 2 ^ 53 ∧ value = mantissa * 2 ^ zeros := by
  constructor
  · rintro ⟨mantissa, exponent, bits, least, same⟩
    rcases le_or_gt 0 exponent with whole | fraction
    · refine ⟨mantissa, exponent.toNat, bits, ?_⟩
      rw [← Int.toNat_of_nonneg whole, zpow_natCast] at same
      exact_mod_cast same
    · refine ⟨value, 0, ?_, by rw [pow_zero, mul_one]⟩
      rcases Int.eq_ofNat_of_zero_le (show 0 ≤ -exponent by omega) with ⟨shift, negated⟩
      have scaled : value * 2 ^ shift = mantissa := by
        have exponentEq : exponent = -(shift : Int) := by omega
        rw [exponentEq, zpow_neg, zpow_natCast, ← div_eq_mul_inv, eq_div_iff (by positivity)] at same
        exact_mod_cast same
      calc |value| ≤ |value| * 2 ^ shift := le_mul_of_one_le_right (abs_nonneg value) (one_le_pow₀ (by decide))
        _ = |mantissa| := by rw [← scaled, abs_mul, abs_of_pos (by positivity : (0 : Int) < 2 ^ shift)]
        _ ≤ 2 ^ 53 := bits
  · rintro ⟨mantissa, zeros, bits, rfl⟩
    refine ⟨mantissa, zeros, bits, by omega, ?_⟩
    rw [zpow_natCast]
    push_cast
    rfl

/-! ## Conversion to an integer -/

/-- The integer part, towards zero. -/
def truncate (value : Rat) : Int :=
  if 0 ≤ value then ⌊value⌋ else ⌈value⌉

@[simp]
theorem truncate_intCast (value : Int) : truncate (value : Rat) = value := by
  rw [truncate, Int.floor_intCast, Int.ceil_intCast, ite_self]

/-- An integer is rounded to an integer. -/
theorem exists_int_round (value : Int) : ∃ rounded : Int, round value = rounded := by
  rcases le_or_gt |value| (2 ^ 53) with few | many
  · exact ⟨value, round_eq_self (representable_int_iff.mpr ⟨value, 0, few, (mul_one value).symm⟩)⟩
  · have large : (2 : Rat) ^ (53 : Int) ≤ |(value : Rat)| := by
      rw [← Int.cast_abs]
      exact_mod_cast many.le
    have log : 53 ≤ Int.log 2 |(value : Rat)| :=
      (Int.zpow_le_iff_le_log (by decide) (by linarith [two_zpow_pos 53])).mp (by exact_mod_cast large)
    have whole : 0 ≤ spacing (value : Rat) := le_max_of_le_left (by omega)
    rcases Int.eq_ofNat_of_zero_le whole with ⟨shift, same⟩
    refine ⟨roundEven ((value : Rat) / 2 ^ spacing (value : Rat)) * 2 ^ shift, ?_⟩
    rw [round]
    conv_lhs => rw [same]
    rw [same, zpow_natCast]
    push_cast
    rfl

/-- An integer comes back from its double exactly when the double is equal to it. -/
theorem truncate_round_iff {value : Int} : truncate (round value) = value ↔ Representable value := by
  rw [← round_eq_self_iff]
  rcases exists_int_round value with ⟨rounded, same⟩
  rw [same, truncate_intCast, Int.cast_inj]

example : round (2 ^ 53 + 1) = 2 ^ 53 ∧ round (1 / 10) ≠ 1 / 10 := by decide +kernel

end Binary64
end Foundation
