import BoardDiagram.Number.Binary64
import Mathlib.Algebra.Order.Field.Power
import Mathlib.Algebra.Order.Ring.Abs
import Mathlib.Data.Rat.Floor
import Mathlib.Tactic.FieldSimp
import Mathlib.Tactic.Linarith
import Mathlib.Tactic.NormNum
import Mathlib.Tactic.Positivity
import Mathlib.Tactic.Ring

/-! Rounding to the binary64 format.  The error is at most half the distance between two values of
the format, which is tiny beside the number that is rounded; and the values of the format are
kept. -/

namespace BoardDiagram

theorem abs_roundHalfEven_sub_le (q : ℚ) : |(roundHalfEven q : ℚ) - q| ≤ 1 / 2 := by
  have hlow := Rat.floor_le q
  have hhigh := Rat.lt_floor_add_one q
  push_cast at hhigh
  unfold roundHalfEven
  dsimp only
  split_ifs with hbelow habove heven
  all_goals
    push_cast
    rw [abs_le]
    constructor <;> linarith

/-- Rounding to an integer stays within bounds that are integers. -/
theorem roundHalfEven_le {q : ℚ} {n : ℤ} (h : q ≤ n) : roundHalfEven q ≤ n := by
  have herror := (abs_le.mp (abs_roundHalfEven_sub_le q)).2
  have hlt : (roundHalfEven q : ℚ) < (n + 1 : ℤ) := by
    push_cast
    linarith
  have := Int.cast_lt.mp hlt
  omega

theorem le_roundHalfEven {q : ℚ} {n : ℤ} (h : n ≤ q) : n ≤ roundHalfEven q := by
  have herror := (abs_le.mp (abs_roundHalfEven_sub_le q)).1
  have hlt : ((n - 1 : ℤ) : ℚ) < roundHalfEven q := by
    push_cast
    linarith
  have := Int.cast_lt.mp hlt
  omega

namespace Binary64

/-! ### The powers of two about a number -/

theorem two_zpow_le {a b : ℤ} (h : a ≤ b) : (2 : ℚ) ^ a ≤ 2 ^ b :=
  zpow_le_zpow_right₀ (by norm_num) h

theorem le_of_two_zpow_le {a b : ℤ} (h : (2 : ℚ) ^ a ≤ 2 ^ b) : a ≤ b :=
  (zpow_le_zpow_iff_right₀ (by norm_num)).mp h

theorem lt_of_two_zpow_lt {a b : ℤ} (h : (2 : ℚ) ^ a < 2 ^ b) : a < b :=
  (zpow_lt_zpow_iff_right₀ (by norm_num)).mp h

theorem two_zpow_add (a b : ℤ) : (2 : ℚ) ^ (a + b) = 2 ^ a * 2 ^ b :=
  zpow_add₀ (by norm_num) a b

theorem two_zpow_log2 {n : ℕ} (h : n ≠ 0) :
    (2 : ℚ) ^ (n.log2 : ℤ) ≤ n ∧ (n : ℚ) < 2 ^ (n.log2 + 1 : ℤ) := by
  constructor
  · rw [zpow_natCast]
    exact_mod_cast Nat.log2_self_le h
  · have hlt := Nat.lt_log2_self (n := n)
    exact_mod_cast hlt

theorem binaryExponent_spec {q : ℚ} (h : q ≠ 0) :
    (2 : ℚ) ^ binaryExponent q ≤ |q| ∧ |q| < 2 ^ (binaryExponent q + 1) := by
  have hden : (0 : ℚ) < q.den := by exact_mod_cast q.den_pos
  have habs : |q| * q.den = q.num.natAbs := by
    rw [← abs_of_pos hden, ← abs_mul, Rat.mul_den_eq_num, Nat.cast_natAbs, Int.cast_abs]
  obtain ⟨hnum1, hnum2⟩ := two_zpow_log2 (Int.natAbs_ne_zero.mpr (Rat.num_ne_zero.mpr h))
  obtain ⟨hden1, hden2⟩ := two_zpow_log2 q.den_nz
  rw [← habs] at hnum1 hnum2
  have hlow : (2 : ℚ) ^ (q.num.natAbs.log2 - q.den.log2 - 1 : ℤ) ≤ |q| := by
    refine le_of_mul_le_mul_right ?_ hden
    refine le_trans (mul_le_mul_of_nonneg_left hden2.le (by positivity)) (le_trans ?_ hnum1)
    rw [← two_zpow_add]
    exact two_zpow_le (by omega)
  have hhigh : |q| < 2 ^ (q.num.natAbs.log2 - q.den.log2 + 1 : ℤ) := by
    refine lt_of_mul_lt_mul_right (lt_of_lt_of_le hnum2 ?_) hden.le
    refine le_trans (le_of_eq ?_) (mul_le_mul_of_nonneg_left hden1 (by positivity))
    rw [← two_zpow_add]
    congr 1
    ring
  unfold binaryExponent
  dsimp only
  split_ifs with hle
  · rw [← habs] at hle
    exact ⟨le_of_mul_le_mul_right hle hden, hhigh⟩
  · rw [← habs, not_le] at hle
    refine ⟨hlow, ?_⟩
    rw [sub_add_cancel]
    exact lt_of_mul_lt_mul_right hle hden.le

/-! ### Rounding -/

theorem spacing_pos (q : ℚ) : 0 < spacing q := by
  unfold spacing
  positivity

theorem abs_nearest_sub_le_spacing (q : ℚ) : |nearest q - q| ≤ spacing q / 2 := by
  have hpos := spacing_pos q
  have herror := mul_le_mul_of_nonneg_right (abs_roundHalfEven_sub_le (q / spacing q)) hpos.le
  have hscaled : nearest q - q = (roundHalfEven (q / spacing q) - q / spacing q) * spacing q := by
    unfold nearest
    field_simp
  rw [hscaled, abs_mul, abs_of_pos hpos]
  linarith

/-- A number that is a whole multiple of the distance is kept. -/
theorem nearest_of_multiple {q : ℚ} {n : ℤ} (h : q = n * spacing q) : nearest q = q := by
  have hpos := spacing_pos q
  have hquotient : q / spacing q = n := by
    rw [div_eq_iff hpos.ne', ← h]
  rw [nearest, hquotient, roundHalfEven_intCast, ← h]

theorem nearest_zero : nearest 0 = 0 :=
  nearest_of_multiple (n := 0) (by simp)

/-- A bound of a number bounds its error, unless the bound is among the least values of the
format. -/
theorem abs_nearest_sub_le {q bound : ℚ} (h : |q| ≤ bound)
    (hbound : (2 : ℚ) ^ (-1022 : ℤ) ≤ bound) : |nearest q - q| ≤ bound / 2 ^ 53 := by
  have hpos : (0 : ℚ) < 2 ^ (-1022 : ℤ) := by positivity
  by_cases hq : q = 0
  · rw [hq, nearest_zero, sub_zero, abs_zero]
    exact div_nonneg (hpos.le.trans hbound) (by norm_num)
  · have hshift (e : ℤ) : (2 : ℚ) ^ e / 2 = 2 ^ (e + 52) / 2 ^ 53 := by
      rw [two_zpow_add]
      field_simp
    have hexponent : (2 : ℚ) ^ (max (binaryExponent q - 52) (-1074) + 52) ≤ bound := by
      rcases le_total (-1074) (binaryExponent q - 52) with hnormal | hsubnormal
      · rw [max_eq_left hnormal, sub_add_cancel]
        exact (binaryExponent_spec hq).1.trans h
      · rw [max_eq_right hsubnormal]
        exact hbound
    refine (abs_nearest_sub_le_spacing q).trans ?_
    rw [spacing, hshift]
    exact div_le_div_of_nonneg_right hexponent (by norm_num)

/-- The values of the format are kept: whole multiples of a power of two with 53 bits or fewer. -/
theorem nearest_of_grid {m k : ℤ} (hm : |m| ≤ 2 ^ 53) (hk : -1074 ≤ k) :
    nearest (m * 2 ^ k) = m * 2 ^ k := by
  by_cases hzero : m = 0
  · rw [hzero, Int.cast_zero, zero_mul, nearest_zero]
  have hq : (m * 2 ^ k : ℚ) ≠ 0 :=
    mul_ne_zero (Int.cast_ne_zero.mpr hzero) (zpow_ne_zero k (by norm_num))
  have hlow := (binaryExponent_spec hq).1
  have habs : |(m * 2 ^ k : ℚ)| = (|m| : ℤ) * 2 ^ k := by
    rw [abs_mul, abs_of_pos (by positivity : (0 : ℚ) < 2 ^ k), Int.cast_abs]
  rw [habs] at hlow
  have hsize : ((|m| : ℤ) : ℚ) ≤ 2 ^ (53 : ℤ) := by exact_mod_cast hm
  have hexponent : binaryExponent (m * 2 ^ k : ℚ) ≤ 53 + k := by
    have hle : (2 : ℚ) ^ binaryExponent (m * 2 ^ k : ℚ) ≤ 2 ^ (53 + k) := by
      rw [two_zpow_add]
      exact hlow.trans (mul_le_mul_of_nonneg_right hsize (by positivity))
    exact le_of_two_zpow_le hle
  by_cases hfine : max (binaryExponent (m * 2 ^ k : ℚ) - 52) (-1074) ≤ k
  · refine nearest_of_multiple
      (n := m * 2 ^ (k - max (binaryExponent (m * 2 ^ k : ℚ) - 52) (-1074)).toNat) ?_
    rw [spacing]
    push_cast
    rw [← zpow_natCast, Int.toNat_of_nonneg (by omega), mul_assoc, ← two_zpow_add, sub_add_cancel]
  · -- only a number of exactly `2 ^ 53` units is too large for its own unit
    have htop : binaryExponent (m * 2 ^ k : ℚ) = 53 + k := by omega
    rw [htop, two_zpow_add] at hlow
    have hunits : (2 : ℚ) ^ (53 : ℤ) ≤ (|m| : ℤ) := le_of_mul_le_mul_right hlow (by positivity)
    have hmax : |m| = 2 ^ 53 := le_antisymm hm (by exact_mod_cast hunits)
    have heven : m = 2 * (m / 2) := by
      rcases abs_eq (by norm_num : (0 : ℤ) ≤ 2 ^ 53) |>.mp hmax with rfl | rfl <;> norm_num
    refine nearest_of_multiple (n := m / 2) ?_
    rw [spacing, htop, max_eq_left (by omega), show 53 + k - 52 = 1 + k by ring, two_zpow_add,
      zpow_one, ← mul_assoc]
    congr 1
    conv_lhs => rw [heven]
    push_cast
    ring

theorem nearest_intCast {n : ℤ} (h : |n| ≤ 2 ^ 53) : nearest n = n := by
  have hgrid := nearest_of_grid (k := 0) h (by norm_num)
  rw [zpow_zero, mul_one] at hgrid
  exact hgrid

theorem nearest_natCast {n : ℕ} (h : n ≤ 2 ^ 53) : nearest n = n := by
  have hint := nearest_intCast (n := n) (by rw [Nat.abs_cast]; exact_mod_cast h)
  rwa [Int.cast_natCast] at hint

/-- Half an integer is kept. -/
theorem nearest_half {n : ℤ} (h : |n| ≤ 2 ^ 53) : nearest (n / 2) = n / 2 := by
  have hgrid := nearest_of_grid (k := -1) h (by norm_num)
  rw [zpow_neg_one, ← div_eq_mul_inv] at hgrid
  exact hgrid

theorem nearest_nearest (q : ℚ) : nearest (nearest q) = nearest q := by
  by_cases hq : q = 0
  · rw [hq, nearest_zero, nearest_zero]
  have hpos := spacing_pos q
  have hquotient : |q / spacing q| ≤ ((2 ^ 53 : ℤ) : ℚ) := by
    rw [abs_div, abs_of_pos hpos, div_le_iff₀ hpos]
    refine (binaryExponent_spec hq).2.le.trans ?_
    have hcast : (((2 ^ 53 : ℤ) : ℚ)) = 2 ^ (53 : ℤ) := by norm_cast
    rw [spacing, hcast, ← two_zpow_add]
    exact two_zpow_le (by omega)
  obtain ⟨hlow, hhigh⟩ := abs_le.mp hquotient
  refine nearest_of_grid (abs_le.mpr ⟨le_roundHalfEven ?_, roundHalfEven_le hhigh⟩)
    (le_max_right _ _)
  push_cast at hlow ⊢
  exact hlow

end Binary64

end BoardDiagram
