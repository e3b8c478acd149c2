/-
# Serial numbers of 16 bits

Numbers that wrap around are compared by their difference modulo `2^16`, read as
a signed number.  Inside a window shorter than half the range that difference is
the difference of the positions in the window, wherever the window starts.

* `pos` : the position behind the start of a window;
* `toInt_sub_of_window` : differences inside a short window;
* `add_sub_base`, `add_sub_add` : differences of numbers ahead of a base;
* `toNat_ofInt` : a signed number stored in an unsigned counter of 64 bits.
-/
import Mathlib

namespace SerialNumbers

/-! ## Positions in a window -/

/-- Position of a number in a window that starts at `b`. -/
def pos (b x : Int16) : ℕ := ((x.toInt - b.toInt) % 65536).toNat

/-- A number is determined by its position. -/
theorem pos_injective (b : Int16) : Function.Injective (pos b) := by
  intro x y h
  have hx := x.toInt_lt
  have hx' := x.le_toInt
  have hy := y.toInt_lt
  have hy' := y.le_toInt
  unfold pos at h
  apply Int16.toInt_inj.mp
  omega

/-- Inside a window shorter than `2^15`, differences are differences of positions. -/
theorem toInt_sub_of_window {b x y : Int16} {w : ℕ} (hw : w < 2 ^ 15) (hx : pos b x < w)
    (hy : pos b y < w) : (x - y).toInt = (pos b x : ℤ) - pos b y := by
  unfold pos at *
  rw [Int16.toInt_sub, Int.bmod_def]
  split_ifs
  · omega
  · omega

theorem sub_ne_zero_of_ne {x y : Int16} (h : x ≠ y) : x - y ≠ 0 := by grind

/-! ## Numbers ahead of a base -/

theorem add_sub_base (n j : Int16) : n + j - n = j := by grind

theorem add_sub_before (n j : Int16) : n + j - (n - 1) = j + 1 := by grind

theorem add_sub_add (n i j : Int16) : n + i - (n + j) = i - j := by grind

/-- An offset of both numbers cancels. -/
theorem add_sub_add_right (i n j : Int16) : i + n - (j + n) = i - j := by grind

/-! ## Signed numbers in unsigned counters -/

/-- A signed number stored in a counter of 64 bits. -/
theorem toNat_ofInt (x : ℤ) : ((UInt64.ofInt x).toNat : ℤ) = x % 2 ^ 64 := by
  rw [UInt64.ofInt, UInt64.toNat_ofNat']
  omega

/-- Differences to a predecessor that is counted in add up to the difference to it. -/
theorem ofInt_telescope (u : UInt64) (a b c n : ℤ) :
    u + UInt64.ofInt (b - a - 1) + UInt64.ofInt (c - b - n)
      = u + UInt64.ofInt (c - a - (n + 1)) := by
  rw [add_assoc, ← UInt64.ofInt_add]
  congr 2
  ring

end SerialNumbers
