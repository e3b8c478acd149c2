/-
# Gains in decibels

A gain that is written as a level in decibels and read back.  The logarithm of zero is an infinite
level, the one of a negative gain is no number.

* `level`, `linear` : from a gain to its level and back;
* `map_linear_level` : what is read back is the gain, unless it is negative.
-/
import Mathlib

namespace Decibels

/-- The level of a gain, `⊥` for the infinite one and `none` where it is no number. -/
noncomputable def level (g : ℝ) : Option (WithBot ℝ) :=
  if g < 0 then none
  else if g = 0 then some ⊥
  else some ((20 * Real.logb 10 g : ℝ) : WithBot ℝ)

/-- The gain of a level. -/
noncomputable def linear : WithBot ℝ → ℝ := WithBot.recBotCoe 0 fun l => 10 ^ (l / 20)

@[simp] theorem linear_bot : linear ⊥ = 0 := rfl

@[simp] theorem linear_coe (l : ℝ) : linear l = 10 ^ (l / 20) := rfl

theorem linear_logb {g : ℝ} (hg : 0 < g) : linear (20 * Real.logb 10 g : ℝ) = g := by
  rw [linear_coe, mul_div_cancel_left₀ _ (by norm_num : (20 : ℝ) ≠ 0)]
  exact Real.rpow_logb (by norm_num) (by norm_num) hg

/-- A gain that is not negative is read back. -/
theorem map_linear_level (g : ℝ) : (level g).map linear = if g < 0 then none else some g := by
  unfold level
  split_ifs with hneg hzero
  · rfl
  · rw [Option.map_some, linear_bot, hzero]
  · have hpos : 0 < g := lt_of_le_of_ne (not_lt.mp hneg) (Ne.symm hzero)
    rw [Option.map_some, linear_logb hpos]

end Decibels
