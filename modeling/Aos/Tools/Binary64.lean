/-
  Aos.Tools.Binary64 — IEEE 754 binary64 rounding, for the `double` arithmetic of the
  monitoring code.

  A `double` is a rational `m * 2^q` with an integer significand `m` below `2^53`. A
  conversion to `double`, and each operation on doubles, gives the exact value rounded
  to the nearest double, a tie going to the even significand (roundTiesToEven, the
  default mode). For `x > 0` with `2^e ≤ x < 2^(e+1)` the doubles near `x` are the
  multiples of `2^(e - 52)`, so `round x` rounds `x / 2^(e - 52)` to an integer
  (`roundEven`). The values the code rounds lie between `2^-64` and `2^64`, far from
  overflow and from the subnormals, which are left out; so are negative values, which
  `round` sends to 0.

  Proved: `abs_roundEven_sub_le` (at most half a unit off), `abs_round_sub_le` (a
  relative error of at most `2^-53`), and `round_exact`: a value whose significand is
  below `2^53` is a double, and rounding keeps it; so are the natural numbers below
  `2^53` (`round_natCast`) and their halves. From `2^52` on the halves are not doubles:
  `round_tie` rounds an odd `n + 1/2` up to `n + 1`.
-/

import Mathlib.Data.Int.Log
import Mathlib.Data.Rat.Floor
import Mathlib.Tactic.Linarith
import Mathlib.Tactic.Positivity

namespace Aos.Binary64

/-- The integer nearest `x`, a tie going to the even one. -/
def roundEven (x : ℚ) : ℤ :=
  if x - ⌊x⌋ < 1 / 2 then ⌊x⌋
  else if 1 / 2 < x - ⌊x⌋ then ⌊x⌋ + 1
  else if ⌊x⌋ % 2 = 0 then ⌊x⌋ else ⌊x⌋ + 1

/-- `x` rounded to a `double`: the multiple of `2^(e - 52)` nearest `x`, where
    `2^e ≤ x < 2^(e+1)`. -/
def round (x : ℚ) : ℚ :=
  if x ≤ 0 then 0 else roundEven (x / 2 ^ (Int.log 2 x - 52)) * 2 ^ (Int.log 2 x - 52)

@[simp] theorem round_zero : round 0 = 0 := by simp [round]

/-- The nearest integer is the floor, when `x` is at most half above it, or the floor
    plus one, when at least half. -/
theorem abs_roundEven_sub_le (x : ℚ) : |(roundEven x : ℚ) - x| ≤ 1 / 2 := by
  have h1 := Int.floor_le x
  have h2 := Int.lt_floor_add_one x
  have key : ((roundEven x : ℚ) = ⌊x⌋ ∧ x - ⌊x⌋ ≤ 1 / 2) ∨ ((roundEven x : ℚ) = ⌊x⌋ + 1 ∧ 1 / 2 ≤ x - ⌊x⌋) := by
    unfold roundEven
    split_ifs with ha hb
    · exact .inl ⟨rfl, ha.le⟩
    · exact .inr ⟨by push_cast; rfl, hb.le⟩
    · exact .inl ⟨rfl, not_lt.mp hb⟩
    · exact .inr ⟨by push_cast; rfl, not_lt.mp ha⟩
  rw [abs_le]
  rcases key with ⟨he, hr⟩ | ⟨he, hr⟩ <;> rw [he] <;> constructor <;> linarith only [h1, h2, hr]

@[simp] theorem roundEven_intCast (n : ℤ) : roundEven n = n := by
  simp [roundEven]

theorem round_nonneg (x : ℚ) : 0 ≤ round x := by
  unfold round
  split_ifs with hx
  · exact le_rfl
  have hu : (0 : ℚ) < 2 ^ (Int.log 2 x - 52) := zpow_pos (by norm_num) _
  have hf : 0 ≤ ⌊x / 2 ^ (Int.log 2 x - 52)⌋ := Int.floor_nonneg.mpr (div_nonneg (le_of_not_le hx) hu.le)
  have he : 0 ≤ roundEven (x / 2 ^ (Int.log 2 x - 52)) := by
    unfold roundEven
    split_ifs <;> omega
  exact mul_nonneg (by exact_mod_cast he) hu.le

/-- Rounding to a `double` is off by at most `2^-53` of the value. -/
theorem abs_round_sub_le {x : ℚ} (hx : 0 ≤ x) : |round x - x| ≤ x / 2 ^ 53 := by
  rcases hx.eq_or_lt with rfl | hx
  · simp
  have he : (2 : ℚ) ^ Int.log 2 x ≤ x := by simpa using Int.zpow_log_le_self (b := 2) (by norm_num) hx
  rw [round, if_neg (not_le.mpr hx)]
  set u : ℚ := 2 ^ (Int.log 2 x - 52) with hu_def
  have hu : 0 < u := zpow_pos (by norm_num) _
  calc |(roundEven (x / u) : ℚ) * u - x| = |(roundEven (x / u) : ℚ) - x / u| * u := by
        rw [← abs_of_pos hu, ← abs_mul, abs_of_pos hu, sub_mul, div_mul_cancel₀ _ hu.ne']
    _ ≤ 1 / 2 * u := mul_le_mul_of_nonneg_right (abs_roundEven_sub_le _) hu.le
    _ = 2 ^ Int.log 2 x / 2 ^ 53 := by
        rw [hu_def, zpow_sub₀ two_ne_zero]
        norm_num
        ring
    _ ≤ x / 2 ^ 53 := div_le_div_of_nonneg_right he (by norm_num)

/-- A value with a significand below `2^53` is a double. -/
theorem round_exact (n : ℕ) (j : ℤ) (hn : n < 2 ^ 53) : round (n * 2 ^ j) = n * 2 ^ j := by
  rcases Nat.eq_zero_or_pos n with rfl | hpos
  · simp
  have hj : (0 : ℚ) < 2 ^ j := zpow_pos (by norm_num) _
  have hx : (0 : ℚ) < n * 2 ^ j := mul_pos (by exact_mod_cast hpos) hj
  have hlog : Int.log 2 ((n : ℚ) * 2 ^ j) < j + 53 := by
    have h : (n : ℚ) * 2 ^ j < 2 ^ (53 : ℤ) * 2 ^ j := mul_lt_mul_of_pos_right (by exact_mod_cast hn) hj
    rw [← zpow_add₀ two_ne_zero, add_comm] at h
    exact (Int.lt_zpow_iff_log_lt (b := 2) (by norm_num) hx).mp (by exact_mod_cast h)
  obtain ⟨t, ht⟩ : ∃ t : ℕ, j - (Int.log 2 ((n : ℚ) * 2 ^ j) - 52) = t :=
    ⟨_, (Int.toNat_of_nonneg (by omega)).symm⟩
  have hq : (n : ℚ) * 2 ^ j / 2 ^ (Int.log 2 ((n : ℚ) * 2 ^ j) - 52) = ((n * 2 ^ t : ℕ) : ℤ) := by
    rw [mul_div_assoc, ← zpow_sub₀ two_ne_zero, ht]
    push_cast
    rw [zpow_natCast]
  rw [round, if_neg (not_le.mpr hx), hq, roundEven_intCast, ← hq, div_mul_cancel₀ _ (zpow_pos (by norm_num) _).ne']

theorem round_natCast {n : ℕ} (hn : n < 2 ^ 53) : round n = n := by
  simpa using round_exact n 0 hn

/-- Between `2^52` and `2^53` the doubles are the integers: an odd `n` plus a half is a tie,
    which goes to the even `n + 1`. -/
theorem round_tie {n : ℕ} (h1 : 2 ^ 52 ≤ n) (h2 : n < 2 ^ 53) (hodd : n % 2 = 1) :
    round (n + 1 / 2) = n + 1 := by
  have hx : (0 : ℚ) < n + 1 / 2 := by positivity
  have hlog : Int.log 2 ((n : ℚ) + 1 / 2) = 52 := by
    refine le_antisymm (Int.lt_add_one_iff.mp ((Int.lt_zpow_iff_log_lt (by norm_num) hx).mp ?_))
      ((Int.zpow_le_iff_le_log (by norm_num) hx).mp ?_)
    · have : (n : ℚ) + 1 ≤ 2 ^ 53 := by exact_mod_cast h2
      norm_num
      linarith only [this]
    · have : (2 : ℚ) ^ 52 ≤ n := by exact_mod_cast h1
      norm_num
      linarith only [this]
  have hf : ⌊(n : ℚ) + 1 / 2⌋ = n := by
    rw [Int.floor_eq_iff]
    push_cast
    constructor <;> linarith only []
  have hodd' : (n : ℤ) % 2 ≠ 0 := by omega
  have hh : (n : ℚ) + 1 / 2 - n = 1 / 2 := by ring
  rw [round, if_neg (not_le.mpr hx), hlog, sub_self, zpow_zero, div_one, mul_one]
  rw [roundEven, hf, Int.cast_natCast, hh, if_neg (lt_irrefl _), if_neg (lt_irrefl _), if_neg hodd']
  push_cast
  rfl

end Aos.Binary64
