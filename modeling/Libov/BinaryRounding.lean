/-
# Rounding to binary digits

A floating point format keeps `p` binary digits of a number.  Which exponents it has is left out
here: numbers are neither too large nor too small for them.

* `nearest` : the number with `p` digits nearest to a number, the even one of two;
* `nearest_of_digits` : a number with `p` digits is not changed;
* `abs_nearest_sub_le` : others are changed by at most the `2 ^ p`th part.
-/
import Mathlib

namespace BinaryRounding

/-- The integer nearest to a number, the even one where there are two. -/
def toEven (x : ℚ) : ℤ :=
  if x - ⌊x⌋ < 1 / 2 ∨ (x - ⌊x⌋ = 1 / 2 ∧ ⌊x⌋ % 2 = 0) then ⌊x⌋ else ⌊x⌋ + 1

/-- What the last of `p` digits of a number stands for. -/
def lastPlace (p : ℕ) (x : ℚ) : ℚ := 2 ^ (Int.log 2 |x| + 1 - p)

/-- The number with `p` binary digits nearest to a number. -/
def nearest (p : ℕ) (x : ℚ) : ℚ := toEven (x / lastPlace p x) * lastPlace p x

theorem toEven_intCast (n : ℤ) : toEven n = n := by
  have hfloor : ⌊(n : ℚ)⌋ = n := Int.floor_intCast n
  rw [toEven, hfloor, sub_self, if_pos (Or.inl (by norm_num))]

/-- The nearest integer is not further away than a half. -/
theorem abs_toEven_sub_le (x : ℚ) : |(toEven x : ℚ) - x| ≤ 1 / 2 := by
  have hfloor := Int.floor_le x
  have hnext := Int.lt_floor_add_one x
  rw [toEven, abs_le]
  split_ifs with hbelow
  · have hhalf : x - ⌊x⌋ ≤ 1 / 2 := by
      rcases hbelow with hlt | ⟨heq, -⟩
      · exact hlt.le
      · exact heq.le
    constructor
    · linarith
    · linarith
  · have hhalf : 1 / 2 ≤ x - ⌊x⌋ := by
      by_contra hlt
      exact hbelow (Or.inl (not_le.mp hlt))
    push_cast
    constructor
    · linarith
    · linarith

theorem lastPlace_pos (p : ℕ) (x : ℚ) : 0 < lastPlace p x := by
  unfold lastPlace
  positivity

@[simp] theorem nearest_zero (p : ℕ) : nearest p 0 = 0 := by
  have hzero : toEven 0 = 0 := toEven_intCast 0
  rw [nearest, zero_div, hzero, Int.cast_zero, zero_mul]

/-- The last place of a number is at most its `2 ^ (p - 1)`th part. -/
theorem lastPlace_le (p : ℕ) {x : ℚ} (hx : x ≠ 0) : lastPlace p x ≤ 2 * |x| / 2 ^ p := by
  have hlog : (2 : ℚ) ^ Int.log 2 |x| ≤ |x| := by
    have := Int.zpow_log_le_self (b := 2) Nat.one_lt_two (abs_pos.mpr hx)
    exact_mod_cast this
  have hsplit : lastPlace p x = 2 * 2 ^ Int.log 2 |x| / 2 ^ p := by
    rw [lastPlace, zpow_sub₀ two_ne_zero, zpow_add_one₀ two_ne_zero, zpow_natCast, mul_comm]
  rw [hsplit]
  gcongr

/-- Rounding changes a number by at most its `2 ^ p`th part. -/
theorem abs_nearest_sub_le (p : ℕ) (x : ℚ) : |nearest p x - x| ≤ |x| / 2 ^ p := by
  by_cases hx : x = 0
  · rw [hx, nearest_zero, sub_zero, abs_zero, zero_div]
  · have hpos := lastPlace_pos p x
    have hdiff : nearest p x - x = (toEven (x / lastPlace p x) - x / lastPlace p x)
        * lastPlace p x := by
      rw [sub_mul, div_mul_cancel₀ x hpos.ne']
      rfl
    calc |nearest p x - x|
        = |(toEven (x / lastPlace p x) : ℚ) - x / lastPlace p x| * lastPlace p x := by
          rw [hdiff, abs_mul, abs_of_pos hpos]
      _ ≤ 1 / 2 * (2 * |x| / 2 ^ p) :=
          mul_le_mul (abs_toEven_sub_le _) (lastPlace_le p hx) hpos.le (by norm_num)
      _ = |x| / 2 ^ p := by ring

/-- What a number has at most behind rounding. -/
theorem abs_nearest_le (p : ℕ) (x : ℚ) : |nearest p x| ≤ |x| + |x| / 2 ^ p := by
  have hdiff := abs_nearest_sub_le p x
  have hsum := abs_add_le x (nearest p x - x)
  rw [add_sub_cancel] at hsum
  linarith

/-- A number of `p` digits is not changed. -/
theorem nearest_of_digits {p m : ℕ} (hm : m < 2 ^ p) (e : ℤ) :
    nearest p (m * 2 ^ e) = m * 2 ^ e := by
  by_cases hzero : m = 0
  · rw [hzero, Nat.cast_zero, zero_mul, nearest_zero]
  · have hpos : (0 : ℚ) < m * 2 ^ e := by
      have : (0 : ℚ) < m := by exact_mod_cast Nat.pos_of_ne_zero hzero
      positivity
    -- the number has its first digit at most `p` places in front of `e`
    have hlog : Int.log 2 |(m * 2 ^ e : ℚ)| < p + e := by
      rw [abs_of_pos hpos, ← Int.lt_zpow_iff_log_lt Nat.one_lt_two hpos, Nat.cast_ofNat,
        zpow_add₀ two_ne_zero, zpow_natCast]
      have hm' : (m : ℚ) < 2 ^ p := by exact_mod_cast hm
      gcongr
    obtain ⟨k, hk⟩ : ∃ k : ℕ, e - (Int.log 2 |(m * 2 ^ e : ℚ)| + 1 - p) = k :=
      Int.eq_ofNat_of_zero_le (by omega)
    have hquotient : (m * 2 ^ e : ℚ) / lastPlace p (m * 2 ^ e) = ((m * 2 ^ k : ℕ) : ℤ) := by
      rw [lastPlace, mul_div_assoc, ← zpow_sub₀ two_ne_zero, hk, zpow_natCast]
      push_cast
      rfl
    rw [nearest, hquotient, toEven_intCast, ← hquotient, div_mul_cancel₀ _ (lastPlace_pos p _).ne']

/-- A natural number of `p` digits, or the one behind them, is not changed. -/
theorem nearest_natCast {p m : ℕ} (hp : p ≠ 0) (hm : m ≤ 2 ^ p) : nearest p m = m := by
  rcases hm.lt_or_eq with hlt | rfl
  · have hdigits := nearest_of_digits hlt 0
    rwa [zpow_zero, mul_one] at hdigits
  · have hdigits := nearest_of_digits (Nat.one_lt_two_pow hp) (p : ℤ)
    rw [Nat.cast_one, one_mul, zpow_natCast] at hdigits
    exact_mod_cast hdigits

end BinaryRounding
