/-
# What the ping statistics report

A `ping_stat_collector_t` of capacity `N` keeps the last `N` ping times in a ring and
their sum; `update_ping_stat` sorts the part of the ring that has been filled.

* `updatePingStat_window` : the reported values are those of the last `N` samples;
* `updatePingStat_window_full`, `rounded_counts` : where single precision shows;
* `reported_pings_add_up` : what the reports of a run add up to.

Ping times and their sum are exact numbers, the positions in the sorted ping times are not.
-/
import Libov.BinaryRounding
import Libov.ClientStats
import Libov.Counters
import Libov.SlidingWindow

open Runs SlidingWindow BinaryRounding

namespace Libov

namespace PingStatCollector

/-! ## The ring of samples -/

/-- The samples of a collector. -/
def ring (c : PingStatCollector) : RingCells ℚ := ⟨c.data, c.idx, c.filled⟩

@[simp] theorem ring_addValue (c : PingStatCollector) (pt : ℚ) :
    (c.addValue pt).ring = c.ring.push pt := rfl

@[simp] theorem ring_init (n : ℕ) : (init n).ring = RingCells.empty n 0 := rfl

/-- The ring and the sum behind a number of samples. -/
structure Holds (n : ℕ) (samples : List ℚ) (c : PingStatCollector) : Prop where
  keeps : RingCells.Keeps n 0 samples c.ring
  sum_eq : c.sum = c.data.sum

/-- One more sample goes into the ring. -/
theorem Holds.addValue {n : ℕ} {samples : List ℚ} {c : PingStatCollector}
    (h : Holds n samples c) (pt : ℚ) : Holds n (samples ++ [pt]) (c.addValue pt) where
  keeps := h.keeps.push pt
  sum_eq := by
    have hidx : c.idx < c.data.length := lt_of_lt_of_eq h.keeps.next_lt h.keeps.length.symm
    show c.sum - c.data.getD c.idx 0 + pt = (c.data.set c.idx pt).sum
    rw [List.sum_set', dif_pos hidx, List.getD_eq_getElem _ _ hidx, h.sum_eq]
    ring

/-- By induction, a collector holds the samples that were added to it. -/
theorem holds_foldl_addValue {n : ℕ} (hn : 0 < n) (samples : List ℚ) :
    Holds n samples (samples.foldl PingStatCollector.addValue (init n)) := by
  induction samples using List.reverseRecOn with
  | nil => exact ⟨RingCells.keeps_empty hn 0, by simp [init]⟩
  | append_singleton samples pt ih =>
      rw [List.foldl_concat]
      exact ih.addValue pt

/-- The sum is that of the window. -/
theorem Holds.sum_window {n : ℕ} {samples : List ℚ} {c : PingStatCollector}
    (h : Holds n samples c) : c.sum = (samples.rtake n).sum := by
  have hcells := h.keeps.perm_cells.sum_eq
  rw [h.sum_eq]
  refine hcells.trans ?_
  unfold List.rtake
  rw [List.length_append, List.length_replicate]
  by_cases hfull : n ≤ samples.length
  · rw [Nat.add_sub_assoc hfull, ← List.drop_drop, List.drop_left' List.length_replicate]
  · -- cells without a sample hold zero
    rw [Nat.add_sub_cancel_left,
      List.drop_append_of_le_length (by rw [List.length_replicate]; omega), List.sum_append,
      List.drop_replicate, List.sum_replicate, smul_zero, zero_add,
      Nat.sub_eq_zero_of_le (by omega), List.drop_zero]

/-! ## The positions that are read -/

/-- The number of samples is exact as a `float` up to `2^24` of them. -/
theorem lastIdx_eq {m : ℕ} (hm : 1 ≤ m) (hle : m ≤ 2 ^ 24) : lastIdx m = ((m - 1 : ℕ) : ℚ) := by
  rw [lastIdx, nearest_natCast (by decide) hle, ← Nat.cast_pred hm,
    nearest_natCast (by decide) (by omega)]

/-- Half of the last position. -/
theorem round_half (m : ℕ) : round (((m : ℚ) - 1) / 2) = m / 2 := by
  have hfloor : ⌊((m : ℚ) - 1) / 2 + 1 / 2⌋ = ((m / 2 : ℕ) : ℤ) := by
    rw [show ((m : ℚ) - 1) / 2 + 1 / 2 = (m : ℚ) / (2 : ℕ) by push_cast; ring]
    exact Rat.floor_natCast_div_natCast m 2
  rw [round, hfloor, Int.toNat_natCast]

/-- `idx_med` is the middle of the samples. -/
theorem idxMed_eq {m : ℕ} (hm : 1 ≤ m) (hle : m ≤ 2 ^ 24) : idxMed m = m / 2 := by
  have hhalf : (1 / 2 * ((m - 1 : ℕ) : ℚ)) = ((m - 1 : ℕ) : ℚ) * 2 ^ (-1 : ℤ) := by
    rw [zpow_neg_one]
    ring
  rw [idxMed, lastIdx_eq hm hle, hhalf, nearest_of_digits (by omega), ← hhalf, Nat.cast_pred hm,
    ← round_half, one_div_mul_eq_div]

/-- `idx_99` is computed without rounding up to `2^24` samples. -/
theorem idx99_eq {m : ℕ} (hm : 1 ≤ m) (hle : m ≤ 2 ^ 24) :
    idx99 m = round (16609444 / 2 ^ 24 * ((m : ℚ) - 1)) := by
  have hdigits : (16609444 / 2 ^ 24 * ((m - 1 : ℕ) : ℚ))
      = ((16609444 * (m - 1) : ℕ) : ℚ) * 2 ^ (-24 : ℤ) := by
    rw [zpow_neg]
    push_cast
    ring
  rw [idx99, lastIdx_eq hm hle, hdigits, nearest_of_digits (by omega), ← hdigits,
    Nat.cast_pred hm]

/-- `idx_99` is a position in the sorted samples, however it is rounded. -/
theorem idx99_lt {m : ℕ} (hm : 1 ≤ m) : idx99 m < m := by
  have hm' : (1 : ℚ) ≤ m := by exact_mod_cast hm
  have hcount := abs_le.mp (abs_nearest_sub_le 24 (m : ℚ))
  rw [abs_of_pos (by linarith : (0 : ℚ) < m)] at hcount
  have hlast : |nearest 24 (m : ℚ) - 1| ≤ m - 1 + m / 2 ^ 24 := by
    rw [abs_le]
    constructor
    · linarith
    · linarith
  have hidx := abs_nearest_le 53 (nearest 24 (m : ℚ) - 1)
  have hproduct := abs_nearest_le 53 (16609444 / 2 ^ 24 * lastIdx m)
  rw [abs_mul, abs_of_pos (by norm_num : (0 : ℚ) < 16609444 / 2 ^ 24)] at hproduct
  have hle := le_abs_self (nearest 53 (16609444 / 2 ^ 24 * lastIdx m))
  have hfloor : ⌊nearest 53 (16609444 / 2 ^ 24 * lastIdx m) + 1 / 2⌋ < (m : ℤ) := by
    rw [Int.floor_lt]
    push_cast
    rw [lastIdx] at hproduct hle ⊢
    linarith
  unfold idx99 round
  omega

/-- The number that `0.99f` stands for is a little larger than `0.99`, which makes no
difference for the position where there are less than 1048652 samples. -/
theorem round_p99_float {m : ℕ} (hm : 1 ≤ m) (hlt : m < 1048652) :
    round (16609444 / 2 ^ 24 * ((m : ℚ) - 1)) = round (99 / 100 * ((m : ℚ) - 1)) := by
  obtain ⟨k, rfl⟩ : ∃ k, m = k + 1 := ⟨m - 1, by omega⟩
  have hexact : ⌊(99 / 100 * ((k + 1 : ℕ) - 1 : ℚ) + 1 / 2 : ℚ)⌋ = ((99 * k + 50) / 100 : ℕ) := by
    rw [show (99 / 100 * ((k + 1 : ℕ) - 1 : ℚ) + 1 / 2 : ℚ) = ((99 * k + 50 : ℕ) : ℚ) / (100 : ℕ) by
      push_cast; ring]
    exact Rat.floor_natCast_div_natCast _ 100
  have hfloat : ⌊(16609444 / 2 ^ 24 * ((k + 1 : ℕ) - 1 : ℚ) + 1 / 2 : ℚ)⌋
      = ((16609444 * k + 2 ^ 23) / 2 ^ 24 : ℕ) := by
    rw [show (16609444 / 2 ^ 24 * ((k + 1 : ℕ) - 1 : ℚ) + 1 / 2 : ℚ)
      = ((16609444 * k + 2 ^ 23 : ℕ) : ℚ) / (2 ^ 24 : ℕ) by push_cast; ring]
    exact Rat.floor_natCast_div_natCast _ (2 ^ 24)
  have hlast : (99 * k + 50) % 100 ≤ 98 ∨ k < 2 ^ 20 := by
    -- `k` would be 51 modulo 100
    omega
  rw [round, round, hexact, hfloat, Int.toNat_natCast, Int.toNat_natCast]
  omega

/-! ## The report -/

/-- The report on a collector with samples. -/
theorem updatePingStat_filled {c : PingStatCollector} (ps : PingStat) (hpos : 1 ≤ c.filled)
    (hlength : c.filled ≤ c.data.length) :
    let stat := c.updatePingStat ps
    let sb := (c.data.take c.filled).mergeSort
    stat.tMin = sb.getD 0 0
      ∧ stat.tP99 = sb.getD (idx99 c.filled) 0
      ∧ stat.tMean = c.sum / nearest 24 c.filled
      ∧ (c.filled % 2 = 1 → stat.tMed = sb.getD (idxMed c.filled) 0)
      ∧ (c.filled ≤ 2 ^ 24 → stat.tMed = median sb) := by
  have hne : c.filled ≠ 0 := by omega
  intro stat sb
  have hsb : sb.length = c.filled := by
    rw [List.length_mergeSort, List.length_take_of_le hlength]
  have hstat : stat = c.updatePingStat ps := rfl
  unfold updatePingStat at hstat
  rw [if_neg hne] at hstat
  have hmed : stat.tMed = if c.filled % 2 = 0 then (sb.getD (idxMed c.filled) 0
        + sb.getD (if idxMed c.filled ≠ 0 then idxMed c.filled - 1 else idxMed c.filled + 1) 0) / 2
      else sb.getD (idxMed c.filled) 0 := by
    rw [hstat]
  rw [hmed]
  refine ⟨by rw [hstat], by rw [hstat], by rw [hstat], ?_, ?_⟩
  · intro hodd
    rw [if_neg (by omega)]
  · intro hle
    rw [idxMed_eq hpos hle, median, hsb]
    by_cases heven : c.filled % 2 = 0
    · -- an even number of samples is at least two
      rw [if_pos heven, if_pos heven, if_pos (show c.filled / 2 ≠ 0 by omega), add_comm]
    · rw [if_neg heven, if_neg heven]

/-- What is read of the window and of its sorted copy. -/
theorem updatePingStat_reads {N : ℕ} (hN : 1 ≤ N) {samples : List ℚ} (hsamples : samples ≠ [])
    (ps : PingStat) :
    let stat := (samples.foldl addValue (init N)).updatePingStat ps
    let window := samples.rtake N
    let sorted := window.mergeSort
    window.length = min samples.length N
      ∧ stat.tMin = sorted.getD 0 0
      ∧ stat.tP99 = sorted.getD (idx99 window.length) 0
      ∧ stat.tMean = window.sum / nearest 24 window.length
      ∧ (window.length % 2 = 1 → stat.tMed = sorted.getD (idxMed window.length) 0)
      ∧ (window.length ≤ 2 ^ 24 → stat.tMed = median sorted) := by
  intro stat window sorted
  set c := samples.foldl addValue (init N) with hc
  have hholds : Holds N samples c := holds_foldl_addValue hN samples
  have hfilled : c.filled = min samples.length N := hholds.keeps.filled
  have hwindow : window.length = min samples.length N := by
    show (samples.drop _).length = _
    rw [List.length_drop]
    omega
  have hpos : 1 ≤ c.filled := by
    have := List.length_pos_iff.mpr hsamples
    omega
  have hle : c.filled ≤ c.data.length := by
    have hdata : c.data.length = N := hholds.keeps.length
    omega
  -- the sorted copy
  have hsorted : (c.data.take c.filled).mergeSort = sorted := by
    refine List.Perm.eq_of_sortedLE List.sortedLE_mergeSort List.sortedLE_mergeSort ?_
    exact ((List.mergeSort_perm _ _).trans hholds.keeps.perm_window).trans
      (List.mergeSort_perm _ _).symm
  have hreads := updatePingStat_filled ps hpos hle
  simp only at hreads
  rw [hsorted, hholds.sum_window, hfilled, ← hwindow] at hreads
  exact ⟨hwindow, hreads⟩

/-- A report on at least one sample is about the window: its least entry, its median, the
entry of the sorted window at the 99th percentile, and its mean.  Median and mean are exact
as long as the number of samples is one of a `float`. -/
theorem updatePingStat_window {N : ℕ} (hN : 1 ≤ N) {samples : List ℚ} (hsamples : samples ≠ [])
    (ps : PingStat) :
    let stat := (samples.foldl addValue (init N)).updatePingStat ps
    let window := samples.rtake N
    let sorted := window.mergeSort
    window.length = min samples.length N
      ∧ IsLeast {x | x ∈ window} stat.tMin
      ∧ (∃ h : idx99 window.length < sorted.length,
        stat.tP99 = sorted.get ⟨idx99 window.length, h⟩)
      ∧ (window.length < 1048652 →
        idx99 window.length = round (99 / 100 * ((window.length : ℚ) - 1)))
      ∧ (window.length ≤ 2 ^ 24 →
        stat.tMed = median sorted ∧ stat.tMean = window.sum / window.length) := by
  intro stat window sorted
  obtain ⟨hwindow, hmin, hp99, hmean, -, hmed⟩ := updatePingStat_reads hN hsamples ps
  have hpos : 1 ≤ window.length :=
    (le_min (List.length_pos_iff.mpr hsamples) hN).trans_eq hwindow.symm
  have hlength : sorted.length = window.length := List.length_mergeSort window
  have hidx : idx99 window.length < sorted.length := by
    rw [hlength]
    exact idx99_lt hpos
  refine ⟨hwindow, ?_, ⟨hidx, ?_⟩, ?_, ?_⟩
  · have hne : sorted ≠ [] := List.ne_nil_of_length_pos (by omega)
    have hleast := isLeast_head List.sortedLE_mergeSort.pairwise hne
    rw [← hmin] at hleast
    refine ⟨List.mem_mergeSort.mp hleast.1, ?_⟩
    intro x hx
    exact hleast.2 (List.mem_mergeSort.mpr hx)
  · rw [List.get_eq_getElem, ← List.getD_eq_getElem _ 0 hidx]
    exact hp99
  · intro hlt
    rw [idx99_eq hpos (hlt.le.trans (by norm_num)), round_p99_float hpos hlt]
  · intro hle
    refine ⟨hmed hle, ?_⟩
    rw [← nearest_natCast (by decide) hle]
    exact hmean

/-- Three samples in a collector of two. -/
theorem updatePingStat_window_three :
    IsLeast {x | x ∈ ([2, 0] : List ℚ)}
        ((([7, 2, 0] : List ℚ).foldl addValue (init 2)).updatePingStat PingStat.init).tMin
      ∧ ((([7, 2, 0] : List ℚ).foldl addValue (init 2)).updatePingStat PingStat.init).tMean
        = 1 := by
  obtain ⟨-, hmin, -, -, hexact⟩ := updatePingStat_window (N := 2) (by decide)
    (List.cons_ne_nil 7 [2, 0]) PingStat.init
  obtain ⟨-, hmean⟩ := hexact (by decide)
  refine ⟨hmin, hmean.trans ?_⟩
  show ([2, 0] : List ℚ).sum / (2 : ℕ) = 1
  norm_num

/-! ## Larger windows -/

/-- Ping times in ascending order. -/
def ascending (n : ℕ) : List ℚ := (List.range n).map (↑)

@[simp] theorem length_ascending (n : ℕ) : (ascending n).length = n := by
  rw [ascending, List.length_map, List.length_range]

/-- The samples that rise by one each. -/
theorem getD_ascending {n i : ℕ} (hi : i < n) : (ascending n).getD i 0 = i := by
  rw [List.getD_eq_getElem _ _ (by rwa [length_ascending])]
  unfold ascending
  rw [List.getElem_map, List.getElem_range]

/-- They are sorted already. -/
theorem mergeSort_ascending (n : ℕ) : (ascending n).mergeSort = ascending n := by
  refine List.mergeSort_eq_self _ ?_
  unfold ascending
  rw [List.pairwise_map]
  refine List.pairwise_lt_range.imp ?_
  intro a b hab
  exact_mod_cast hab.le

/-- All of them are in the window. -/
theorem rtake_ascending (n : ℕ) : (ascending n).rtake n = ascending n := by
  rw [List.rtake, length_ascending, Nat.sub_self, List.drop_zero]

/-- There is at least one of them. -/
theorem ascending_ne_nil {n : ℕ} (hn : 1 ≤ n) : ascending n ≠ [] := by
  rw [← List.length_pos_iff, length_ascending]
  exact hn

/-- Of 1048652 samples in a collector that holds them, the one reported as the 99th percentile
stands one position behind that of the exact factor `0.99`. -/
theorem updatePingStat_window_full :
    ¬ ∀ (N : ℕ) (samples : List ℚ) (ps : PingStat), 1 ≤ N → samples ≠ [] →
      let stat := (samples.foldl addValue (init N)).updatePingStat ps
      let window := samples.rtake N
      let sorted := window.mergeSort
      let p99 := round (99 / 100 * ((window.length : ℚ) - 1))
      IsLeast {x | x ∈ window} stat.tMin
        ∧ stat.tMed = median sorted
        ∧ (∃ h : p99 < sorted.length, stat.tP99 = sorted.get ⟨p99, h⟩)
        ∧ stat.tMean = window.sum / window.length := by
  intro h
  -- in ascending samples an entry is its position
  have hidx : ∀ n, 1 ≤ n → idx99 n = round (99 / 100 * ((n : ℚ) - 1)) := by
    intro n hn
    obtain ⟨-, -, ⟨hlt, hexact⟩, -⟩ := h n (ascending n) PingStat.init hn (ascending_ne_nil hn)
    obtain ⟨-, -, hp99, -⟩ := updatePingStat_reads hn (ascending_ne_nil hn) PingStat.init
    have hposition := hp99.symm.trans hexact
    rw [List.get_eq_getElem, ← List.getD_eq_getElem _ 0 hlt] at hposition
    simp only [rtake_ascending, mergeSort_ascending, length_ascending] at hlt hposition
    rw [getD_ascending (idx99_lt hn), getD_ascending hlt] at hposition
    exact_mod_cast hposition
  have hfull := hidx 1048652 (by norm_num)
  rw [idx99_eq (by norm_num) (by norm_num)] at hfull
  norm_num [round] at hfull
  exact absurd hfull (by decide)

/-- The number of samples is itself rounded from `2^24 + 1` on: the mean of so many is their
sum by `2^24`, and the median of `2^24 + 3` is the entry behind the middle. -/
theorem rounded_counts :
    nearest 24 (2 ^ 24 + 1 : ℕ) = 2 ^ 24 ∧ idxMed (2 ^ 24 + 3) = (2 ^ 24 + 3) / 2 + 1 := by
  constructor
  · decide +kernel
  · decide +kernel

end PingStatCollector

/-! ## Runs with reports -/

/-- What happens to a collector: `pingservice` counts a ping, a pong is added, or the
statistics are reported. -/
inductive PingOp where
  | ping
  | pong (pt : ℚ)
  | updatePingStat

/-- A collector and what the reports on it keep. -/
structure Pinging where
  collector : PingStatCollector
  stat : PingStat

/-- Nothing sent, nothing reported. -/
def Pinging.start (N : ℕ) : Pinging := ⟨PingStatCollector.init N, PingStat.init⟩

/-- One step. -/
def pingStep (x : Pinging) : PingOp → Pinging
  | .ping => { x with collector := { x.collector with sent := x.collector.sent + 1 } }
  | .pong pt => { x with collector := x.collector.addValue pt }
  | .updatePingStat => { x with stat := x.collector.updatePingStat x.stat }

/-- The `received` value that a step reports. -/
def reportedPongs (x : Pinging) : PingOp → ℕ
  | .updatePingStat => (x.collector.updatePingStat x.stat).received.toNat
  | _ => 0

/-- The `lost` value that a step reports. -/
def reportedLosses (x : Pinging) : PingOp → ℕ
  | .updatePingStat => (x.collector.updatePingStat x.stat).lost.toNat
  | _ => 0

/-- The number of pings sent. -/
def pings : List PingOp → ℕ
  | [] => 0
  | .ping :: ops => pings ops + 1
  | _ :: ops => pings ops

/-- The number of pongs added. -/
def pongs : List PingOp → ℕ
  | [] => 0
  | .pong _ :: ops => pongs ops + 1
  | _ :: ops => pongs ops

/-- Every pong answers a ping before it, and no two the same one. -/
def Answering (ops : List PingOp) : Prop :=
  ∀ before after, ops = before ++ after → pongs before ≤ pings before

/-! ## The intervals between reports -/

/-- What is sent and received since the last report. -/
structure PingInterval where
  sent : ℕ
  received : ℕ

/-- One step. -/
def intervalStep (i : PingInterval) : PingOp → PingInterval
  | .ping => { i with sent := i.sent + 1 }
  | .pong _ => { i with received := i.received + 1 }
  | .updatePingStat => ⟨0, 0⟩

/-- How many more pongs than pings the interval had that a report ends. -/
def overtaken (i : PingInterval) : PingOp → ℕ
  | .updatePingStat => i.received - i.sent
  | _ => 0

/-- A report that leaves nothing out. -/
theorem overtaken_eq_zero_iff (i : PingInterval) (op : PingOp) :
    overtaken i op = 0 ↔ (op = .updatePingStat → i.received ≤ i.sent) := by
  cases op with
  | ping => exact iff_of_true rfl fun h => by cases h
  | pong pt => exact iff_of_true rfl fun h => by cases h
  | updatePingStat =>
      rw [overtaken, Nat.sub_eq_zero_iff_le]
      exact ⟨fun h _ => h, fun h => h rfl⟩

/-- The numbers that a report on the interval should give. -/
def intervalPongs (i : PingInterval) : PingOp → ℕ
  | .updatePingStat => i.received
  | _ => 0

/-- The pings of the interval that no pong of the interval makes up for. -/
def intervalLosses (i : PingInterval) : PingOp → ℕ
  | .updatePingStat => i.sent - i.received
  | _ => 0

/-- The snapshots of the reports lie behind the counters by what the interval holds. -/
structure Measures (x : Pinging) (i : PingInterval) : Prop where
  sent : x.collector.sent - x.stat.stateSent = UInt64.ofNat i.sent
  received : x.collector.received - x.stat.stateReceived = UInt64.ofNat i.received

/-- A new collector has counted nothing, and nothing has happened. -/
theorem measures_start (N : ℕ) : Measures (Pinging.start N) ⟨0, 0⟩ where
  sent := UInt64.sub_self 0
  received := UInt64.sub_self 0

/-- What `update_ping_stat` sets besides the ping times. -/
theorem updatePingStat_counts (c : PingStatCollector) (ps : PingStat) :
    (c.updatePingStat ps).received = c.received - ps.stateReceived
      ∧ (c.updatePingStat ps).lost
        = Counters.deficit c.sent ps.stateSent (c.received - ps.stateReceived)
      ∧ (c.updatePingStat ps).stateSent = c.sent
      ∧ (c.updatePingStat ps).stateReceived = c.received := by
  unfold PingStatCollector.updatePingStat
  by_cases hempty : c.filled = 0
  · rw [if_pos hempty]
    exact ⟨rfl, rfl, rfl, rfl⟩
  · rw [if_neg hempty]
    exact ⟨rfl, rfl, rfl, rfl⟩

/-- Each operation is counted in the interval in which it happens. -/
theorem Measures.step {x : Pinging} {i : PingInterval} (h : Measures x i) (op : PingOp) :
    Measures (pingStep x op) (intervalStep i op) := by
  cases op with
  | ping =>
      refine ⟨?_, h.received⟩
      show x.collector.sent + 1 - x.stat.stateSent = UInt64.ofNat (i.sent + 1)
      rw [UInt64.ofNat_add, ← h.sent]
      exact add_sub_right_comm _ _ _
  | pong pt =>
      refine ⟨h.sent, ?_⟩
      show x.collector.received + 1 - x.stat.stateReceived = UInt64.ofNat (i.received + 1)
      rw [UInt64.ofNat_add, ← h.received]
      exact add_sub_right_comm _ _ _
  | updatePingStat =>
      obtain ⟨-, -, hsent, hreceived⟩ := updatePingStat_counts x.collector x.stat
      constructor
      · show x.collector.sent - (x.collector.updatePingStat x.stat).stateSent = 0
        rw [hsent, UInt64.sub_self]
      · show x.collector.received - (x.collector.updatePingStat x.stat).stateReceived = 0
        rw [hreceived, UInt64.sub_self]

/-- The interval fits into the counters. -/
def PingInterval.Fits (i : PingInterval) (_ : PingOp) : Prop :=
  i.sent < 2 ^ 64 ∧ i.received < 2 ^ 64

/-- A report gives the number of pongs of the interval. -/
theorem Measures.reportedPongs {x : Pinging} {i : PingInterval} {op : PingOp} (h : Measures x i)
    (hfits : i.Fits op) : reportedPongs x op = intervalPongs i op := by
  cases op with
  | ping => rfl
  | pong pt => rfl
  | updatePingStat =>
      show (x.collector.updatePingStat x.stat).received.toNat = i.received
      rw [(updatePingStat_counts _ _).1, h.received, UInt64.toNat_ofNat_of_lt' hfits.2]

/-- A report gives the losses of the interval, but not less than none. -/
theorem Measures.reportedLosses {x : Pinging} {i : PingInterval} {op : PingOp} (h : Measures x i)
    (hfits : i.Fits op) : reportedLosses x op = intervalLosses i op := by
  cases op with
  | ping => rfl
  | pong pt => rfl
  | updatePingStat =>
      show (x.collector.updatePingStat x.stat).lost.toNat = i.sent - i.received
      rw [(updatePingStat_counts _ _).2.1, Counters.toNat_deficit, h.sent, h.received,
        UInt64.toNat_ofNat_of_lt' hfits.1, UInt64.toNat_ofNat_of_lt' hfits.2]
      omega

/-! ## What the reports add up to -/

/-- The interval is a part of the run. -/
theorem run_intervalStep_le (i : PingInterval) (ops : List PingOp) :
    (run intervalStep i ops).sent ≤ i.sent + pings ops
      ∧ (run intervalStep i ops).received ≤ i.received + pongs ops := by
  induction ops generalizing i with
  | nil => exact ⟨le_rfl, le_rfl⟩
  | cons op ops ih =>
      have hrest := ih (intervalStep i op)
      cases op with
      | ping =>
          simp only [run_cons, pings, pongs, intervalStep] at hrest ⊢
          omega
      | pong pt =>
          simp only [run_cons, pings, pongs, intervalStep] at hrest ⊢
          omega
      | updatePingStat =>
          simp only [run_cons, pings, pongs, intervalStep] at hrest ⊢
          omega

/-- Pings are counted through. -/
theorem pings_append (ops ops' : List PingOp) : pings (ops ++ ops') = pings ops + pings ops' := by
  induction ops with
  | nil => rw [List.nil_append, pings, Nat.zero_add]
  | cons op ops ih =>
      cases op with
      | ping =>
          show pings (ops ++ ops') + 1 = pings ops + 1 + pings ops'
          rw [ih, Nat.add_right_comm]
      | pong pt => exact ih
      | updatePingStat => exact ih

/-- So are pongs. -/
theorem pongs_append (ops ops' : List PingOp) : pongs (ops ++ ops') = pongs ops + pongs ops' := by
  induction ops with
  | nil => rw [List.nil_append, pongs, Nat.zero_add]
  | cons op ops ih =>
      cases op with
      | ping => exact ih
      | pong pt =>
          show pongs (ops ++ ops') + 1 = pongs ops + 1 + pongs ops'
          rw [ih, Nat.add_right_comm]
      | updatePingStat => exact ih

/-- If there are fewer than `2 ^ 64` pings and no more pongs, the counters do not overflow on the
way. -/
theorem fits_run {ops : List PingOp} (hsent : pings ops < 2 ^ 64) (hle : pongs ops ≤ pings ops)
    (op : PingOp) : (run intervalStep ⟨0, 0⟩ ops).Fits op := by
  obtain ⟨hrunsent, hrunreceived⟩ := run_intervalStep_le ⟨0, 0⟩ ops
  rw [Nat.zero_add] at hrunsent hrunreceived
  constructor <;> omega

/-- In a run with fewer pings than the counters can hold no interval overflows them. -/
theorem allSteps_fits {ops : List PingOp} (hans : Answering ops) (hsent : pings ops < 2 ^ 64)
    (op : PingOp) : AllSteps intervalStep PingInterval.Fits ⟨0, 0⟩ (ops ++ [op]) := by
  refine allSteps_append_one.mpr ⟨allSteps_iff_split.mpr ?_, ?_⟩
  · intro before op' after hsplit
    refine fits_run ?_ (hans before (op' :: after) hsplit) op'
    rw [hsplit, pings_append] at hsent
    omega
  · exact fits_run hsent (hans ops [] (List.append_nil ops).symm) op

/-- The books of the intervals: a report closes one, and the last one is still open. -/
theorem total_intervals (i : PingInterval) (ops : List PingOp) :
    total intervalStep intervalPongs i ops + (run intervalStep i ops).received
        = i.received + pongs ops
      ∧ total intervalStep intervalLosses i ops + (run intervalStep i ops).sent
          + (i.received + pongs ops)
        = i.sent + pings ops + total intervalStep overtaken i ops
          + (run intervalStep i ops).received := by
  induction ops generalizing i with
  | nil => simp only [total, run_nil, pings, pongs]; omega
  | cons op ops ih =>
      have hrest := ih (intervalStep i op)
      cases op with
      | ping =>
          simp only [total, run_cons, pings, pongs, intervalStep, intervalPongs, intervalLosses,
            overtaken] at hrest ⊢
          omega
      | pong pt =>
          simp only [total, run_cons, pings, pongs, intervalStep, intervalPongs, intervalLosses,
            overtaken] at hrest ⊢
          omega
      | updatePingStat =>
          -- what a report leaves out of the losses is what it says was overtaken
          simp only [total, run_cons, pings, pongs, intervalStep, intervalPongs, intervalLosses,
            overtaken] at hrest ⊢
          omega

/-- The reports of a run that ends with one: the `received` values add up to the pongs,
and the `lost` values to the pings without a pong and the pongs that overtook the pings of
their interval.  The losses are exact if no interval has more pongs than pings. -/
theorem reported_pings_add_up (N : ℕ) {ops : List PingOp} (hans : Answering ops)
    (hsent : pings ops < 2 ^ 64) :
    let all := ops ++ [PingOp.updatePingStat]
    total pingStep reportedPongs (Pinging.start N) all = pongs ops
      ∧ total pingStep reportedLosses (Pinging.start N) all + pongs ops
        = pings ops + total intervalStep overtaken ⟨0, 0⟩ all
      ∧ (total pingStep reportedLosses (Pinging.start N) all = pings ops - pongs ops
        ↔ AllSteps intervalStep (fun i op => op = .updatePingStat → i.received ≤ i.sent)
          ⟨0, 0⟩ all) := by
  intro all
  have hle : pongs ops ≤ pings ops := hans ops [] (List.append_nil ops).symm
  have hfits : AllSteps intervalStep PingInterval.Fits ⟨0, 0⟩ all := allSteps_fits hans hsent _
  have hpongs : total pingStep reportedPongs (Pinging.start N) all
      = total intervalStep intervalPongs ⟨0, 0⟩ all :=
    total_eq_of_related (fun _ _ op h => h.step op) (fun _ _ _ h => h.reportedPongs)
      (measures_start N) hfits
  have hlosses : total pingStep reportedLosses (Pinging.start N) all
      = total intervalStep intervalLosses ⟨0, 0⟩ all :=
    total_eq_of_related (fun _ _ op h => h.step op) (fun _ _ _ h => h.reportedLosses)
      (measures_start N) hfits
  have hclosed : run intervalStep ⟨0, 0⟩ all = ⟨0, 0⟩ := run_append_one ..
  obtain ⟨hreceived, hlost⟩ := total_intervals ⟨0, 0⟩ all
  rw [hclosed] at hreceived hlost
  have hovertaken : total intervalStep overtaken ⟨0, 0⟩ all = 0
      ↔ AllSteps intervalStep (fun i op => op = .updatePingStat → i.received ≤ i.sent)
        ⟨0, 0⟩ all := by
    rw [total_eq_zero_iff]
    refine allSteps_congr (I := fun _ => True) (fun _ _ _ => trivial) ?_ trivial all
    intro i op _
    exact overtaken_eq_zero_iff i op
  have hpings : pings all = pings ops := by rw [pings_append]; rfl
  have hanswers : pongs all = pongs ops := by rw [pongs_append]; rfl
  rw [hpings, hanswers] at hlost
  rw [hanswers] at hreceived
  rw [hpongs, hlosses, ← hovertaken]
  refine ⟨?_, ?_, ?_⟩
  · omega
  · omega
  · omega

/-- A ping, a report, and the pong behind it. -/
def lateOps : List PingOp := [.ping, .updatePingStat, .pong 7]

/-- Each pong of the example answers a ping that has been sent. -/
theorem answering_lateOps : Answering lateOps := by
  intro before after hsplit
  have hbefore : before = lateOps.take before.length := by rw [hsplit, List.take_left]
  rw [hbefore]
  rcases before.length with _ | _ | _ | n
  · decide
  · decide
  · decide
  · rw [List.take_of_length_le (by show 3 ≤ n + 3; omega)]
    decide

/-- The late pong is received in the interval behind the one that has reported its loss. -/
theorem reported_pings_lateOps :
    total pingStep reportedPongs (Pinging.start 8) (lateOps ++ [.updatePingStat]) = 1
      ∧ total pingStep reportedLosses (Pinging.start 8) (lateOps ++ [.updatePingStat]) + 1
        = 1 + 1 := by
  obtain ⟨hpongs, hlosses, -⟩ := reported_pings_add_up 8 answering_lateOps (by decide)
  exact ⟨hpongs, hlosses⟩

/-- A ping whose pong comes behind the next report stays lost. -/
theorem late_pong_stays_lost :
    ¬ ∀ (N : ℕ) (ops : List PingOp), Answering ops →
      total pingStep reportedPongs (Pinging.start N) (ops ++ [.updatePingStat]) = pongs ops
        ∧ total pingStep reportedLosses (Pinging.start N) (ops ++ [.updatePingStat])
          = pings ops - pongs ops := by
  intro h
  have hlost := (h 8 lateOps answering_lateOps).2
  revert hlost
  decide

end Libov
