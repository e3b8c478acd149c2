/-
# Counters and their differences

A counter of 64 bits that only grows, and what is read from it by subtracting an
earlier value, its snapshot.  The subtraction is the one of machine integers: it is
the growth of the counter where the snapshot is a value that the counter once had,
and wraps around where the snapshot is larger.

* `RaisedBy` : a counter that has grown by at most so much;
* `sub_eq_sub_iff` : a difference is the growth since `since` exactly when the snapshot
  was taken there;
* `deficit_le_sent_iff` : what is missing of the things sent, where the snapshot may be
  one of another counter.
-/
import Mathlib

namespace Counters

/-! ## Growth -/

/-- The counter has grown by at most `n`. -/
def RaisedBy (n : ℕ) (old new : UInt64) : Prop := ∃ d ≤ n, new = old + UInt64.ofNat d

theorem RaisedBy.refl (n : ℕ) (a : UInt64) : RaisedBy n a a :=
  ⟨0, Nat.zero_le n, (UInt64.add_zero a).symm⟩

theorem RaisedBy.one (a : UInt64) : RaisedBy 1 a (a + 1) := ⟨1, le_rfl, rfl⟩

theorem RaisedBy.mono {n k : ℕ} {a b : UInt64} (h : RaisedBy n a b) (hle : n ≤ k) :
    RaisedBy k a b := by
  obtain ⟨d, hd, hb⟩ := h
  exact ⟨d, hd.trans hle, hb⟩

theorem RaisedBy.trans {n k : ℕ} {a b c : UInt64} (h : RaisedBy n a b) (h' : RaisedBy k b c) :
    RaisedBy (n + k) a c := by
  obtain ⟨d, hd, rfl⟩ := h
  obtain ⟨e, he, rfl⟩ := h'
  refine ⟨d + e, by omega, ?_⟩
  rw [UInt64.ofNat_add, UInt64.add_assoc]

/-- An upper bound, also for a counter that has started again from zero. -/
theorem RaisedBy.toNat_le {n : ℕ} {a b : UInt64} (h : RaisedBy n a b) :
    b.toNat ≤ a.toNat + n := by
  obtain ⟨d, hd, rfl⟩ := h
  rw [UInt64.toNat_add, UInt64.toNat_ofNat']
  omega

/-- A counter that does not come to its end has not become smaller. -/
theorem RaisedBy.le {n : ℕ} {a b : UInt64} (h : RaisedBy n a b) (hend : a.toNat + n < 2 ^ 64) :
    a ≤ b := by
  obtain ⟨d, hd, rfl⟩ := h
  rw [UInt64.le_iff_toNat_le, UInt64.toNat_add, UInt64.toNat_ofNat']
  omega

/-- What a counter has grown by is its difference to the old value. -/
theorem raisedBy_iff_sub_le {n : ℕ} (hn : n < 2 ^ 64) {a b : UInt64} :
    RaisedBy n a b ↔ b - a ≤ UInt64.ofNat n := by
  rw [UInt64.le_iff_toNat_le, UInt64.toNat_ofNat_of_lt' hn]
  constructor
  · rintro ⟨d, hd, rfl⟩
    rw [UInt64.add_comm, UInt64.add_sub_cancel, UInt64.toNat_ofNat_of_lt' (hd.trans_lt hn)]
    exact hd
  · intro h
    refine ⟨(b - a).toNat, h, ?_⟩
    rw [UInt64.ofNat_toNat, UInt64.add_comm, UInt64.sub_add_cancel]

/-! ## Differences -/

/-- A difference is the growth since `since` exactly when the snapshot that is
subtracted was taken there. -/
theorem sub_eq_sub_iff {counter since snapshot : UInt64} :
    counter - snapshot = counter - since ↔ snapshot = since := by
  have hc := counter.toNat_lt
  have h1 := snapshot.toNat_lt
  have h2 := since.toNat_lt
  constructor
  · intro h
    have hnat := congrArg UInt64.toNat h
    rw [UInt64.toNat_sub, UInt64.toNat_sub] at hnat
    apply UInt64.toNat_inj.mp
    omega
  · rintro rfl
    rfl

/-- What is missing of the things sent since a snapshot, after so many have come back. -/
def deficit (sent snapshot returned : UInt64) : UInt64 :=
  (sent - snapshot) - min returned (sent - snapshot)

theorem toNat_deficit (sent snapshot returned : UInt64) :
    (deficit sent snapshot returned).toNat
      = (sent - snapshot).toNat - min returned.toNat (sent - snapshot).toNat := by
  show (_ - if returned ≤ sent - snapshot then returned else sent - snapshot).toNat = _
  by_cases h : returned ≤ sent - snapshot
  · rw [if_pos h, UInt64.toNat_sub_of_le _ _ h, min_eq_left (UInt64.le_iff_toNat_le.mp h)]
  · have hnat := UInt64.lt_iff_toNat_lt.mp (UInt64.not_le.mp h)
    rw [if_neg h, UInt64.sub_self, min_eq_right hnat.le, Nat.sub_self]
    rfl

/-- Not more is missing than the difference to the snapshot. -/
theorem deficit_le (sent snapshot returned : UInt64) :
    deficit sent snapshot returned ≤ sent - snapshot := by
  rw [UInt64.le_iff_toNat_le, toNat_deficit]
  omega

/-- Not more is missing than was sent at all where the snapshot is not larger. -/
theorem deficit_le_sent {sent snapshot : UInt64} (returned : UInt64) (h : snapshot ≤ sent) :
    deficit sent snapshot returned ≤ sent := by
  rw [UInt64.le_iff_toNat_le, toNat_deficit, UInt64.toNat_sub_of_le _ _ h]
  omega

/-- A larger snapshot makes the difference wrap around, and what has come back does not
make up for it. -/
theorem deficit_le_sent_iff {sent snapshot returned : UInt64}
    (hend : snapshot.toNat + returned.toNat < 2 ^ 64) :
    deficit sent snapshot returned ≤ sent ↔ snapshot ≤ sent := by
  refine ⟨fun h => ?_, deficit_le_sent returned⟩
  by_contra hwrap
  have hc := sent.toNat_lt
  have hlt := UInt64.lt_iff_toNat_lt.mp (UInt64.not_le.mp hwrap)
  have hsub : (sent - snapshot).toNat = 2 ^ 64 - snapshot.toNat + sent.toNat := by
    rw [UInt64.toNat_sub]
    omega
  rw [UInt64.le_iff_toNat_le, toNat_deficit, hsub] at h
  omega

end Counters
