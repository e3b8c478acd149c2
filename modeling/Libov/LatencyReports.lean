/-
# The latency reports of an endpoint

`cid_setpingtime` keeps the sum, the number, the least and the largest of the ping times of
an entry; `checkstatus` announces them once in a minute and starts again.  The least time
starts from a finite value, another one behind an announcement than in a new entry.

* `latencyRecord_run` : the accumulators against the times that have been recorded;
* `latency_report_iff` : when a report is about the times of its interval.
-/
import Libov.EndpointLifeCycle

open Runs

namespace Libov

/-! ## Running extremes -/

section Extremes

variable {α : Type*} [LinearOrder α]

theorem foldr_min_le {c x : α} {xs : List α} (hx : x = c ∨ x ∈ xs) : xs.foldr min c ≤ x := by
  induction xs with
  | nil => exact (hx.resolve_right List.not_mem_nil).ge
  | cons y ys ih =>
      rw [List.foldr_cons]
      rcases hx with hx | hx
      · exact (min_le_right ..).trans (ih (Or.inl hx))
      · rcases List.mem_cons.mp hx with rfl | hx
        · exact min_le_left ..
        · exact (min_le_right ..).trans (ih (Or.inr hx))

theorem foldr_min_mem (c : α) (xs : List α) : xs.foldr min c = c ∨ xs.foldr min c ∈ xs := by
  induction xs with
  | nil => exact Or.inl rfl
  | cons y ys ih =>
      rw [List.foldr_cons]
      rcases min_choice y (ys.foldr min c) with h | h
      · rw [h]
        exact Or.inr List.mem_cons_self
      · rw [h]
        exact ih.imp_right (List.mem_cons_of_mem y)

/-- The running minimum is the least entry exactly if the start is not less than all of
them. -/
theorem isLeast_foldr_min_iff {c : α} {xs : List α} :
    IsLeast {x | x ∈ xs} (xs.foldr min c) ↔ ∃ x ∈ xs, x ≤ c := by
  constructor
  · intro h
    exact ⟨_, h.1, foldr_min_le (Or.inl rfl)⟩
  · rintro ⟨x, hx, hle⟩
    refine ⟨?_, fun y hy => foldr_min_le (Or.inr hy)⟩
    rcases foldr_min_mem c xs with h | h
    · have hxc : x = c := le_antisymm hle (h ▸ foldr_min_le (Or.inr hx))
      show xs.foldr min c ∈ xs
      rw [h, ← hxc]
      exact hx
    · exact h

/-- The running maximum. -/
theorem isGreatest_foldr_max_iff {c : α} {xs : List α} :
    IsGreatest {x | x ∈ xs} (xs.foldr max c) ↔ ∃ x ∈ xs, c ≤ x :=
  isLeast_foldr_min_iff (α := αᵒᵈ)

end Extremes

/-! ## Announced latencies -/

/-- The values of a latency announcement about a device. -/
def Announcement.latency? (cid : ℕ) : Announcement → Option (ℚ × ℚ × ℚ)
  | latency cid' lmin lmean lmax _ _ => if cid' = cid then some (lmin, lmean, lmax) else none
  | _ => none

/-- The latencies of a device among some announcements. -/
def latencies (cid : ℕ) (as : List Announcement) : List (ℚ × ℚ × ℚ) :=
  as.filterMap (Announcement.latency? cid)

/-- What a step announces. -/
def newAnnouncements (l : EndpointList) (op : EndpointOp) : List Announcement :=
  (endpointStep l op).announced.drop l.announced.length

/-- The positive ping times recorded for a device since its latency was announced last or its
entry was reset, and the value from which their minimum is formed. -/
structure LatencyInterval where
  recorded : List ℚ
  start : ℚ

/-- A new entry, or a reset one. -/
def LatencyInterval.new : LatencyInterval := ⟨[], 10000⟩

/-- A positive ping time of the device is recorded if the lock is obtained. -/
def LatencyInterval.record (i : Fin maxStageId) (h : LatencyInterval) :
    EndpointOp → LatencyInterval
  | .cidSetpingtime cid pingtime locked =>
      if cid.toNat = i ∧ 0 < pingtime ∧ locked = true then
        { h with recorded := pingtime :: h.recorded }
      else h
  | _ => h

/-- The interval behind a step. -/
def LatencyInterval.next (i : Fin maxStageId) (l : EndpointList) (h : LatencyInterval)
    (op : EndpointOp) : LatencyInterval :=
  if latencies i (newAnnouncements l op) ≠ [] then ⟨[], 1000⟩
  else if .lost ∈ connections i (newAnnouncements l op) then LatencyInterval.new
  else h.record i op

/-- A step of the list, with the interval of a device beside it. -/
def observedStep (i : Fin maxStageId) (x : EndpointList × LatencyInterval) (op : EndpointOp) :
    EndpointList × LatencyInterval :=
  (endpointStep x.1 op, x.2.next i x.1 op)

/-- The latencies that a step announces for the device are the least, the mean and the
largest of the times of the interval, if there are any. -/
def ReportsInterval (i : Fin maxStageId) (x : EndpointList × LatencyInterval) (op : EndpointOp) :
    Prop :=
  ∀ lat ∈ latencies i (newAnnouncements x.1 op), x.2.recorded ≠ [] →
    IsLeast {t | t ∈ x.2.recorded} lat.1 ∧
      lat.2.1 = x.2.recorded.sum / x.2.recorded.length ∧
      IsGreatest {t | t ∈ x.2.recorded} lat.2.2

/-! ## The accumulators -/

/-- The accumulators of an entry hold the times of an interval. -/
structure LatencyInterval.Held (h : LatencyInterval) (e : EpEntry) : Prop where
  count : e.pingtN = UInt32.ofNat h.recorded.length
  sum : e.pingtSum = h.recorded.sum
  least : e.pingtMin = h.recorded.foldr min h.start
  largest : e.pingtMax = h.recorded.foldr max 0
  positive : ∀ t ∈ h.recorded, 0 < t

/-- The entry is the same in its accumulators. -/
structure SameAccumulators (e e' : EpEntry) : Prop where
  count : e'.pingtN = e.pingtN
  sum : e'.pingtSum = e.pingtSum
  least : e'.pingtMin = e.pingtMin
  largest : e'.pingtMax = e.pingtMax

theorem SameAccumulators.refl (e : EpEntry) : SameAccumulators e e := ⟨rfl, rfl, rfl, rfl⟩

theorem LatencyInterval.Held.same {h : LatencyInterval} {e e' : EpEntry} (hheld : h.Held e)
    (hsame : SameAccumulators e e') : h.Held e' where
  count := hsame.count.trans hheld.count
  sum := hsame.sum.trans hheld.sum
  least := hsame.least.trans hheld.least
  largest := hsame.largest.trans hheld.largest
  positive := hheld.positive

theorem held_new (key : PublicKey) : LatencyInterval.new.Held (EpEntry.init key) :=
  ⟨rfl, rfl, rfl, rfl, fun _ ht => absurd ht List.not_mem_nil⟩

/-- A positive time that is recorded. -/
theorem LatencyInterval.Held.setpingtime {h : LatencyInterval} {e : EpEntry} (hheld : h.Held e)
    {pingtime : ℚ} (hpos : 0 < pingtime) :
    LatencyInterval.Held { h with recorded := pingtime :: h.recorded }
      (e.setpingtime pingtime true) := by
  unfold EpEntry.setpingtime
  dsimp only
  rw [if_pos ⟨hpos, rfl⟩]
  refine ⟨?_, ?_, ?_, ?_, ?_⟩
  · show e.pingtN + 1 = UInt32.ofNat (h.recorded.length + 1)
    rw [UInt32.ofNat_add, hheld.count]
    rfl
  · show e.pingtSum + pingtime = (pingtime :: h.recorded).sum
    rw [List.sum_cons, hheld.sum, add_comm]
  · show min pingtime e.pingtMin = _
    rw [hheld.least]
    rfl
  · show max pingtime e.pingtMax = _
    rw [hheld.largest]
    rfl
  · exact List.forall_mem_cons.mpr ⟨hpos, hheld.positive⟩

/-- Other calls of `cid_setpingtime` record nothing. -/
theorem sameAccumulators_setpingtime (e : EpEntry) {pingtime : ℚ} {locked : Bool}
    (h : ¬ (0 < pingtime ∧ locked = true)) :
    SameAccumulators e (e.setpingtime pingtime locked) := by
  unfold EpEntry.setpingtime
  dsimp only
  rw [if_neg h]
  exact ⟨rfl, rfl, rfl, rfl⟩

/-- The values that are announced for an entry. -/
def EpEntry.latency (e : EpEntry) : ℚ × ℚ × ℚ :=
  (e.pingtMin, e.pingtSum / (max 1 e.pingtN.toNat : ℕ), e.pingtMax)

theorem SameAccumulators.latency {e e' : EpEntry} (h : SameAccumulators e e') :
    e'.latency = e.latency := by
  unfold EpEntry.latency
  rw [h.count, h.sum, h.least, h.largest]

/-- They are right exactly if the number of the times has not wrapped around and one of them
is not above the value that the minimum starts from. -/
theorem LatencyInterval.Held.latency_iff {h : LatencyInterval} {e : EpEntry} (hheld : h.Held e)
    (hne : h.recorded ≠ []) :
    (IsLeast {t | t ∈ h.recorded} e.latency.1 ∧
      e.latency.2.1 = h.recorded.sum / h.recorded.length ∧
      IsGreatest {t | t ∈ h.recorded} e.latency.2.2) ↔
    h.recorded.length < 2 ^ 32 ∧ ∃ t ∈ h.recorded, t ≤ h.start := by
  have hleast : IsLeast {t | t ∈ h.recorded} e.latency.1 ↔ ∃ t ∈ h.recorded, t ≤ h.start := by
    show IsLeast _ e.pingtMin ↔ _
    rw [hheld.least]
    exact isLeast_foldr_min_iff
  have hgreatest : IsGreatest {t | t ∈ h.recorded} e.latency.2.2 := by
    show IsGreatest _ e.pingtMax
    rw [hheld.largest]
    obtain ⟨t, ts, hrecorded⟩ := List.exists_cons_of_ne_nil hne
    have ht : t ∈ h.recorded := hrecorded ▸ List.mem_cons_self
    exact isGreatest_foldr_max_iff.mpr ⟨t, ht, (hheld.positive t ht).le⟩
  have hmean : e.latency.2.1 = h.recorded.sum / h.recorded.length ↔
      h.recorded.length < 2 ^ 32 := by
    have hpos : 0 < h.recorded.sum := List.sum_pos _ hheld.positive hne
    have hlen : 0 < h.recorded.length := List.length_pos_iff.mpr hne
    show e.pingtSum / ((max 1 e.pingtN.toNat : ℕ) : ℚ) = _ ↔ _
    rw [hheld.sum, hheld.count, div_eq_mul_inv, div_eq_mul_inv, mul_right_inj' hpos.ne', inv_inj,
      Nat.cast_inj, UInt32.toNat_ofNat']
    omega
  rw [hleast, hmean]
  exact ⟨fun ⟨h1, h2, _⟩ => ⟨h2, h1⟩, fun ⟨h1, h2⟩ => ⟨h2, h1, hgreatest⟩⟩

/-! ## Steps -/

section Step

variable (l : EndpointList) (i : Fin maxStageId)

theorem latencies_forEntries (body : Fin maxStageId → EpEntry → List Announcement × EpEntry)
    (h : ∀ j e, j ≠ i → latencies i (body j e).1 = []) :
    latencies i (l.forEntries body).announced
      = latencies i l.announced ++ latencies i (body i (l.endpoints i)).1 :=
  filterMap_forEntries _ l i body h

theorem latencies_check (j : Fin maxStageId) (key : PublicKey) (e : EpEntry) :
    latencies i (e.check j key).1 = [] := by
  rcases check_cases j key e with ⟨-, -, h⟩ | ⟨-, -, -, h⟩ | ⟨-, -, -, h⟩
  · rw [h]
    split_ifs <;> rfl
  · rw [h]
    rfl
  · rw [h]
    rfl

theorem latencies_logStat (j : Fin maxStageId) (e : EpEntry) :
    latencies i (e.logStat j).1 = if j = i ∧ e.timeout ≠ 0 then [e.latency] else [] := by
  unfold EpEntry.logStat latencies
  by_cases htimeout : e.timeout ≠ 0
  · rw [if_pos htimeout]
    by_cases hj : j = i
    · subst hj
      rw [if_pos ⟨rfl, htimeout⟩]
      simp [Announcement.latency?, EpEntry.latency]
    · have hne : (j : ℕ) ≠ i := fun h => hj (Fin.ext h)
      rw [if_neg fun h => hj h.1]
      simp [Announcement.latency?, hne]
  · rw [if_neg htimeout, if_neg fun h => htimeout h.2]
    rfl

/-- The entry is counted down in front of the report. -/
theorem timeout_check (cid : ℕ) (key : PublicKey) (e : EpEntry) :
    (e.check cid key).2.timeout ≠ 0 ↔ 1 < e.timeout := by
  rcases check_cases cid key e with ⟨hzero, h, -⟩ | ⟨hzero, -, h, -⟩ | ⟨hzero, -, h, -⟩
  · rw [h]
    show e.timeout - 1 ≠ 0 ↔ 1 < e.timeout
    have hne : e.timeout.toNat ≠ 0 := fun h => hzero (UInt32.toNat_inj.mp h)
    have hone : (1 : UInt32).toNat = 1 := rfl
    rw [ne_eq, sub_eq_zero, ← UInt32.toNat_inj, UInt32.lt_iff_toNat_lt, hone]
    omega
  · rw [h, hzero]
    exact iff_of_false (fun h => h rfl) (by decide)
  · rw [h, hzero]
    exact iff_of_false (fun h => h rfl) (by decide)

/-- An entry with a timeout keeps its accumulators in a check. -/
theorem sameAccumulators_check (cid : ℕ) (key : PublicKey) {e : EpEntry} (h : e.timeout ≠ 0) :
    SameAccumulators e (e.check cid key).2 := by
  unfold EpEntry.check
  rw [if_pos h]
  exact ⟨rfl, rfl, rfl, rfl⟩

/-- The latencies that a pass announces. -/
theorem latencies_checkstatus (keys : Fin maxStageId → PublicKey) :
    latencies i (l.checkstatus keys).announced = latencies i l.announced ++
      if l.statlogcnt = 0 ∧ 1 < (l.endpoints i).timeout then [(l.endpoints i).latency] else [] := by
  have hcheck : latencies i (l.forEntries fun j e => e.check j (keys j)).announced
      = latencies i l.announced := by
    rw [latencies_forEntries l i _ fun j e _ => latencies_check i j (keys j) e, latencies_check,
      List.append_nil]
  have hentry := timeout_check i (keys i) (l.endpoints i)
  have hlatency := fun h => (sameAccumulators_check i (keys i) (e := l.endpoints i) h).latency
  unfold EndpointList.checkstatus EndpointList.logStats
  by_cases hlog : l.statlogcnt = 0
  · rw [if_pos (show (l.forEntries fun j e => e.check j (keys j)).statlogcnt = 0 from hlog)]
    refine (latencies_forEntries _ i _ ?_).trans ?_
    · intro j e hj
      rw [latencies_logStat, if_neg fun h => hj h.1]
    · rw [hcheck, latencies_logStat]
      show _ ++ (if i = i ∧ ((l.endpoints i).check i (keys i)).2.timeout ≠ 0
        then [((l.endpoints i).check i (keys i)).2.latency] else []) = _
      by_cases htimeout : 1 < (l.endpoints i).timeout
      · rw [if_pos ⟨rfl, hentry.mpr htimeout⟩, if_pos ⟨hlog, htimeout⟩,
          hlatency fun hzero => absurd (hzero ▸ htimeout) (by decide)]
      · rw [if_neg fun h => htimeout (hentry.mp h.2), if_neg fun h => htimeout h.2]
  · rw [if_neg (show ¬ (l.forEntries fun j e => e.check j (keys j)).statlogcnt = 0 from hlog),
      if_neg fun h => hlog h.1, List.append_nil]
    exact hcheck

omit l i in
theorem EndpointOp.eq_checkstatus {op : EndpointOp} (h : op.isPass = true) :
    ∃ keys, op = .checkstatus keys := by
  cases op with
  | checkstatus keys => exact ⟨keys, rfl⟩
  | _ => exact absurd h Bool.false_ne_true

include i in
/-- A step adds to what has been announced. -/
theorem announced_endpointStep (op : EndpointOp) :
    (endpointStep l op).announced = l.announced ++ newAnnouncements l op := by
  have hprefix : ∃ as, (endpointStep l op).announced = l.announced ++ as := by
    cases hpass : op.isPass with
    | false =>
        have hquiet := (quietStep_endpointStep (i := i) (l := l) hpass).announced
        exact ⟨[], by rw [hquiet, List.append_nil]⟩
    | true =>
        obtain ⟨keys, rfl⟩ := EndpointOp.eq_checkstatus hpass
        show ∃ as, (l.checkstatus keys).announced = _
        unfold EndpointList.checkstatus EndpointList.logStats
        split_ifs
        · exact ⟨_, List.append_assoc ..⟩
        · exact ⟨_, rfl⟩
  obtain ⟨as, has⟩ := hprefix
  unfold newAnnouncements
  rw [has, List.drop_left]

/-- What a step announces about the latency of a device. -/
theorem latencies_newAnnouncements (op : EndpointOp) :
    latencies i (newAnnouncements l op)
      = if op.isPass = true ∧ l.statlogcnt = 0 ∧ 1 < (l.endpoints i).timeout then
          [(l.endpoints i).latency] else [] := by
  have hnew := congrArg (latencies i) (announced_endpointStep l i op)
  unfold latencies at hnew
  rw [List.filterMap_append] at hnew
  cases hpass : op.isPass with
  | false =>
      have hquiet := (quietStep_endpointStep (i := i) (l := l) hpass).announced
      rw [if_neg fun h => Bool.false_ne_true h.1]
      rw [hquiet] at hnew
      exact List.self_eq_append_right.mp hnew
  | true =>
      obtain ⟨keys, rfl⟩ := EndpointOp.eq_checkstatus hpass
      have hpasses := latencies_checkstatus l i keys
      unfold latencies at hpasses
      rw [show endpointStep l (.checkstatus keys) = l.checkstatus keys from rfl, hpasses] at hnew
      simp only [true_and]
      exact (List.append_cancel_left hnew).symm

/-- A pass announces the loss of a device that it resets. -/
theorem lost_newAnnouncements (op : EndpointOp) :
    .lost ∈ connections i (newAnnouncements l op) ↔
      op.isPass = true ∧ (l.endpoints i).timeout = 0 ∧ (l.endpoints i).announced = true := by
  have hnew := congrArg (connections i) (announced_endpointStep l i op)
  rw [connections_append] at hnew
  cases hpass : op.isPass with
  | false =>
      have hquiet := (quietStep_endpointStep (i := i) (l := l) hpass).announced
      rw [hquiet] at hnew
      rw [List.self_eq_append_right.mp hnew]
      exact iff_of_false List.not_mem_nil fun h => Bool.false_ne_true h.1
  | true =>
      obtain ⟨keys, rfl⟩ := EndpointOp.eq_checkstatus hpass
      rw [show endpointStep l (.checkstatus keys) = l.checkstatus keys from rfl,
        connections_checkstatus] at hnew
      rw [← List.append_cancel_left hnew]
      rcases check_cases i (keys i) (l.endpoints i) with ⟨htimeout, -, h⟩ | ⟨htimeout, hann, -, h⟩ |
        ⟨htimeout, hann, -, h⟩
      · refine iff_of_false ?_ fun h' => htimeout h'.2.1
        rw [h]
        split_ifs
        · exact List.not_mem_nil
        · simp [connections, Announcement.connection?]
      · refine iff_of_true ?_ ⟨rfl, htimeout, hann⟩
        rw [h]
        simp [connections, Announcement.connection?]
      · refine iff_of_false ?_ fun h' => Bool.false_ne_true (hann.symm.trans h'.2.2)
        rw [h]
        exact List.not_mem_nil

/-- What a change of an entry leaves of the accumulators of the device. -/
theorem sameAccumulators_modifyEntry (cid : StageDeviceId) {f : EpEntry → EpEntry}
    (hf : ∀ e, SameAccumulators e (f e)) :
    SameAccumulators (l.endpoints i) ((l.modifyEntry cid f).endpoints i) := by
  rw [l.endpoints_modifyEntry]
  split_ifs
  · exact hf _
  · exact SameAccumulators.refl _

/-- An entry is reset by its report, and keeps its accumulators where there is none. -/
theorem accumulators_logStat (cid : ℕ) (e : EpEntry) :
    (e.timeout ≠ 0 → LatencyInterval.Held ⟨[], 1000⟩ (e.logStat cid).2) ∧
      (e.timeout = 0 → (e.logStat cid).2 = e) := by
  unfold EpEntry.logStat
  refine ⟨fun h => ?_, fun h => ?_⟩
  · rw [if_pos h]
    exact ⟨rfl, rfl, rfl, rfl, fun _ ht => absurd ht List.not_mem_nil⟩
  · rw [if_neg (not_not_intro h)]

/-- The interval behind a pass. -/
theorem held_checkstatus {h : LatencyInterval} (hheld : h.Held (l.endpoints i))
    (keys : Fin maxStageId → PublicKey) :
    (h.next i l (.checkstatus keys)).Held ((l.checkstatus keys).endpoints i) := by
  have hlatency := latencies_newAnnouncements l i (.checkstatus keys)
  have hlost := lost_newAnnouncements l i (.checkstatus keys)
  have hentry := timeout_check i (keys i) (l.endpoints i)
  have hendpoints : (l.checkstatus keys).endpoints i
      = if l.statlogcnt = 0 then (((l.endpoints i).check i (keys i)).2.logStat i).2
        else ((l.endpoints i).check i (keys i)).2 := by
    unfold EndpointList.checkstatus EndpointList.logStats
    by_cases hlog : l.statlogcnt = 0
    · rw [if_pos (show (l.forEntries fun j e => e.check j (keys j)).statlogcnt = 0 from hlog),
        if_pos hlog]
      rfl
    · rw [if_neg (show ¬ (l.forEntries fun j e => e.check j (keys j)).statlogcnt = 0 from hlog),
        if_neg hlog]
      rfl
  have hnext : h.next i l (.checkstatus keys)
      = if latencies i (newAnnouncements l (.checkstatus keys)) ≠ [] then ⟨[], 1000⟩
        else if .lost ∈ connections i (newAnnouncements l (.checkstatus keys)) then
          LatencyInterval.new
        else h := rfl
  rw [hendpoints, hnext]
  by_cases hreport : l.statlogcnt = 0 ∧ 1 < (l.endpoints i).timeout
  · rw [if_pos ⟨rfl, hreport⟩] at hlatency
    rw [hlatency, if_pos (List.cons_ne_nil _ _), if_pos hreport.1]
    exact (accumulators_logStat i _).1 (hentry.mpr hreport.2)
  rw [if_neg fun h => hreport h.2] at hlatency
  rw [hlatency, if_neg (not_not_intro rfl)]
  -- no report: the entry behind the check stays as it is
  have hkept : (if l.statlogcnt = 0 then (((l.endpoints i).check i (keys i)).2.logStat i).2
      else ((l.endpoints i).check i (keys i)).2) = ((l.endpoints i).check i (keys i)).2 := by
    split_ifs with hlog
    · refine (accumulators_logStat i _).2 ?_
      by_contra htimeout
      exact hreport ⟨hlog, hentry.mp htimeout⟩
    · rfl
  rw [hkept]
  rcases check_cases i (keys i) (l.endpoints i) with
    ⟨htimeout, -, -⟩ | ⟨htimeout, hann, hreset, -⟩ | ⟨-, hann, hsame, -⟩
  · rw [if_neg fun h => htimeout (hlost.mp h).2.1]
    exact hheld.same (sameAccumulators_check i (keys i) htimeout)
  · rw [if_pos (hlost.mpr ⟨rfl, htimeout, hann⟩), hreset]
    exact held_new (keys i)
  · rw [if_neg fun h => Bool.false_ne_true (hann.symm.trans (hlost.mp h).2.2), hsame]
    exact hheld

/-- A step that is no pass keeps the interval, or records a ping time. -/
theorem next_of_not_pass (h : LatencyInterval) {op : EndpointOp} (hpass : op.isPass = false) :
    h.next i l op = h.record i op := by
  have hlatency := latencies_newAnnouncements l i op
  rw [hpass, if_neg fun h => Bool.false_ne_true h.1] at hlatency
  have hlost : ¬ .lost ∈ connections i (newAnnouncements l op) := by
    rw [lost_newAnnouncements, hpass]
    exact fun h => Bool.false_ne_true h.1
  unfold LatencyInterval.next
  rw [hlatency, if_neg (not_not_intro rfl), if_neg hlost]

/-- The accumulators hold the times of the interval behind every step. -/
theorem held_step {h : LatencyInterval} (hheld : h.Held (l.endpoints i)) (op : EndpointOp) :
    (h.next i l op).Held ((endpointStep l op).endpoints i) := by
  cases op with
  | checkstatus keys => exact held_checkstatus l i hheld keys
  | cidSetpingtime cid pingtime locked =>
      have hrecord : h.record i (.cidSetpingtime cid pingtime locked)
          = if cid.toNat = i ∧ 0 < pingtime ∧ locked = true then
              { h with recorded := pingtime :: h.recorded }
            else h := rfl
      rw [next_of_not_pass l i h rfl, hrecord]
      show LatencyInterval.Held _ ((l.modifyEntry cid _).endpoints i)
      rw [l.endpoints_modifyEntry]
      by_cases hcid : cid.toNat = i
      · rw [if_pos hcid]
        by_cases hrec : 0 < pingtime ∧ locked = true
        · obtain ⟨hpos, rfl⟩ := hrec
          rw [if_pos ⟨hcid, hpos, rfl⟩]
          exact hheld.setpingtime hpos
        · rw [if_neg fun h => hrec h.2]
          exact hheld.same (sameAccumulators_setpingtime _ hrec)
      · rw [if_neg hcid, if_neg fun h => hcid h.1]
        exact hheld
  | cidRegister cid data mode rver locked =>
      rw [next_of_not_pass l i h rfl]
      show LatencyInterval.Held _ ((l.cidRegister cid data mode rver locked).endpoints i)
      unfold EndpointList.cidRegister
      split_ifs
      · exact hheld.same (sameAccumulators_modifyEntry l i cid fun e => ⟨rfl, rfl, rfl, rfl⟩)
      · exact hheld
  | cidSetlocalip cid data =>
      rw [next_of_not_pass l i h rfl]
      exact hheld.same (sameAccumulators_modifyEntry l i cid fun e => ⟨rfl, rfl, rfl, rfl⟩)
  | cidSetPubkey cid data =>
      rw [next_of_not_pass l i h rfl]
      show LatencyInterval.Held _ ((l.cidSetPubkey cid data).endpoints i)
      unfold EndpointList.cidSetPubkey
      split_ifs
      · exact hheld.same (sameAccumulators_modifyEntry l i cid fun e => ⟨rfl, rfl, rfl, rfl⟩)
      · exact hheld
      · exact hheld
      · exact hheld
  | setHiresping hr =>
      rw [next_of_not_pass l i h rfl]
      exact hheld

end Step

/-! ## Runs -/

/-- A report of the step is right exactly if there are less than `2^32` times in the interval
and one of them is not above the value that the minimum starts from. -/
theorem reportsInterval_iff (i : Fin maxStageId) (x : EndpointList × LatencyInterval)
    (hheld : x.2.Held (x.1.endpoints i)) (op : EndpointOp) :
    ReportsInterval i x op ↔
      (op.isPass = true → x.1.statlogcnt = 0 → 1 < (x.1.endpoints i).timeout →
        x.2.recorded ≠ [] →
        x.2.recorded.length < 2 ^ 32 ∧ ∃ t ∈ x.2.recorded, t ≤ x.2.start) := by
  unfold ReportsInterval
  rw [latencies_newAnnouncements]
  constructor
  · intro h hpass hlog htimeout hne
    rw [if_pos ⟨hpass, hlog, htimeout⟩] at h
    exact (hheld.latency_iff hne).mp (h _ List.mem_cons_self hne)
  · intro h lat hlat hne
    split_ifs at hlat with hreport
    · rw [List.mem_singleton.mp hlat]
      exact (hheld.latency_iff hne).mpr (h hreport.1 hreport.2.1 hreport.2.2 hne)
    · exact absurd hlat List.not_mem_nil

/-- In every run, all reports about a device are right exactly if each interval that is
reported has less than `2^32` ping times, one of them not above `1000` where a report has
been made before it, and not above `10000` for a new or reset entry. -/
theorem latency_report_iff (keys : Fin maxStageId → PublicKey) (srvPubkey : PublicKey)
    (i : Fin maxStageId) (ops : List EndpointOp) :
    AllSteps (observedStep i) (ReportsInterval i)
        (EndpointList.init keys srvPubkey, LatencyInterval.new) ops ↔
      AllSteps (observedStep i) (fun x op => op.isPass = true → x.1.statlogcnt = 0 →
          1 < (x.1.endpoints i).timeout → x.2.recorded ≠ [] →
          x.2.recorded.length < 2 ^ 32 ∧ ∃ t ∈ x.2.recorded, t ≤ x.2.start)
        (EndpointList.init keys srvPubkey, LatencyInterval.new) ops := by
  refine allSteps_congr (I := fun x => x.2.Held (x.1.endpoints i)) ?_ ?_ (held_new _) ops
  · intro x op hheld
    exact held_step x.1 i hheld op
  · intro x op hheld
    exact reportsInterval_iff i x hheld op

/-! ## An interval of long ping times -/

section Waiting

variable {i : Fin maxStageId} {x : EndpointList × LatencyInterval}

/-- A pass between two reports counts down. -/
theorem observedStep_pass (keys : Fin maxStageId → PublicKey) (hlog : x.1.statlogcnt ≠ 0)
    (htimeout : (x.1.endpoints i).timeout ≠ 0) :
    (observedStep i x (.checkstatus keys)).1.statlogcnt = x.1.statlogcnt - 1 ∧
      ((observedStep i x (.checkstatus keys)).1.endpoints i).timeout
        = (x.1.endpoints i).timeout - 1 ∧
      (observedStep i x (.checkstatus keys)).1.pingperiodms = x.1.pingperiodms ∧
      (observedStep i x (.checkstatus keys)).2 = x.2 := by
  have hlatency := latencies_newAnnouncements x.1 i (.checkstatus keys)
  rw [if_neg fun h => hlog h.2.1] at hlatency
  have hlost : ¬ .lost ∈ connections i (newAnnouncements x.1 (.checkstatus keys)) := by
    rw [lost_newAnnouncements]
    exact fun h => htimeout h.2.1
  have hlist : (observedStep i x (.checkstatus keys)).1
      = { (x.1.forEntries fun j e => e.check j (keys j)) with
          statlogcnt := x.1.statlogcnt - 1 } := by
    show x.1.checkstatus keys = _
    unfold EndpointList.checkstatus EndpointList.logStats
    rw [if_neg (show ¬ (x.1.forEntries fun j e => e.check j (keys j)).statlogcnt = 0 from hlog)]
    rfl
  rw [hlist]
  refine ⟨rfl, ?_, rfl, ?_⟩
  · show ((x.1.endpoints i).check i (keys i)).2.timeout = _
    unfold EpEntry.check
    rw [if_pos htimeout]
  · show x.2.next i x.1 (.checkstatus keys) = x.2
    unfold LatencyInterval.next
    rw [hlatency, if_neg (not_not_intro rfl), if_neg hlost]
    rfl

/-- Passes between two reports. -/
theorem run_passes (keys : Fin maxStageId → PublicKey) {n : ℕ} (hlog : n ≤ x.1.statlogcnt.toNat)
    (htimeout : n ≤ (x.1.endpoints i).timeout.toNat) :
    let x' := run (observedStep i) x (List.replicate n (.checkstatus keys))
    x'.1.statlogcnt.toNat = x.1.statlogcnt.toNat - n ∧
      (x'.1.endpoints i).timeout.toNat = (x.1.endpoints i).timeout.toNat - n ∧
      x'.1.pingperiodms = x.1.pingperiodms ∧ x'.2 = x.2 := by
  induction n generalizing x with
  | zero => exact ⟨rfl, rfl, rfl, rfl⟩
  | succ n ih =>
      have hlog0 : x.1.statlogcnt ≠ 0 := by
        intro h
        rw [h] at hlog
        exact absurd hlog (Nat.not_succ_le_zero n)
      have htimeout0 : (x.1.endpoints i).timeout ≠ 0 := by
        intro h
        rw [h] at htimeout
        exact absurd htimeout (Nat.not_succ_le_zero n)
      obtain ⟨h1, h2, h3, h4⟩ := observedStep_pass keys hlog0 htimeout0
      have hpred : ∀ c : UInt32, n + 1 ≤ c.toNat → (c - 1).toNat = c.toNat - 1 := by
        intro c hc
        have hone : (1 : UInt32).toNat = 1 := rfl
        rw [UInt32.toNat_sub_of_le _ _ (UInt32.le_iff_toNat_le.mpr (by omega)), hone]
      have h := ih (x := observedStep i x (.checkstatus keys))
        (by rw [h1, hpred _ hlog]; omega) (by rw [h2, hpred _ htimeout]; omega)
      rw [h1, h2, h3, h4, hpred _ hlog, hpred _ htimeout] at h
      rw [List.replicate_succ, run_cons]
      refine ⟨h.1.trans (by omega), h.2.1.trans (by omega), h.2.2⟩

/-- A pass that announces the latency. -/
theorem observedStep_report (keys : Fin maxStageId → PublicKey) (hlog : x.1.statlogcnt = 0)
    (htimeout : 1 < (x.1.endpoints i).timeout) :
    (observedStep i x (.checkstatus keys)).1.statlogcnt
        = EndpointList.statlogPasses x.1.pingperiodms - 1 ∧
      (observedStep i x (.checkstatus keys)).2 = ⟨[], 1000⟩ := by
  have hlatency := latencies_newAnnouncements x.1 i (.checkstatus keys)
  rw [if_pos ⟨rfl, hlog, htimeout⟩] at hlatency
  refine ⟨?_, ?_⟩
  · show (x.1.checkstatus keys).statlogcnt = _
    unfold EndpointList.checkstatus EndpointList.logStats
    rw [if_pos (show (x.1.forEntries fun j e => e.check j (keys j)).statlogcnt = 0 from hlog)]
    rfl
  · show x.2.next i x.1 (.checkstatus keys) = _
    unfold LatencyInterval.next
    rw [hlatency, if_pos (List.cons_ne_nil _ _)]

/-- A ping time and some passes. -/
def timedPasses (keys : Fin maxStageId → PublicKey) (cid : StageDeviceId) (pingtime : ℚ) (n : ℕ) :
    List EndpointOp :=
  .cidSetpingtime cid pingtime true :: List.replicate n (.checkstatus keys)

/-- The state in front of a report, where one ping time has been recorded behind `x`. -/
theorem run_timedPasses (keys : Fin maxStageId → PublicKey) (cid : StageDeviceId)
    (hcid : cid.toNat = i) (pingtime : ℚ) (hpos : 0 < pingtime) {n : ℕ}
    (hlog : x.1.statlogcnt.toNat = n) (hn : n < 119) :
    let x' := run (observedStep i) x (timedPasses keys cid pingtime n)
    x'.1.statlogcnt = 0 ∧ 1 < (x'.1.endpoints i).timeout ∧
      x'.1.pingperiodms = x.1.pingperiodms ∧
      x'.2 = { x.2 with recorded := pingtime :: x.2.recorded } := by
  let y := observedStep i x (.cidSetpingtime cid pingtime true)
  have hlist : y.1 = x.1.modifyEntry cid fun e => e.setpingtime pingtime true := rfl
  have hentry : (y.1.endpoints i).timeout = callerlistTimeout := by
    rw [hlist, x.1.endpoints_modifyEntry, if_pos hcid]
    unfold EpEntry.setpingtime
    dsimp only
    rw [if_pos ⟨hpos, rfl⟩]
  have hcounters : y.1.statlogcnt = x.1.statlogcnt ∧ y.1.pingperiodms = x.1.pingperiodms := by
    rw [hlist]
    unfold EndpointList.modifyEntry
    split_ifs
    · exact ⟨rfl, rfl⟩
    · exact ⟨rfl, rfl⟩
  have hinterval : y.2 = { x.2 with recorded := pingtime :: x.2.recorded } := by
    refine (next_of_not_pass x.1 i x.2 rfl).trans ?_
    exact if_pos ⟨hcid, hpos, rfl⟩
  have htimeout : (y.1.endpoints i).timeout.toNat = 120 := congrArg UInt32.toNat hentry
  obtain ⟨h1, h2, h3, h4⟩ := run_passes (i := i) (x := y) keys (n := n)
    (by rw [hcounters.1, hlog]) (by omega)
  rw [hcounters.1, hlog] at h1
  rw [htimeout] at h2
  refine ⟨?_, ?_, h3.trans hcounters.2, h4.trans hinterval⟩
  · exact UInt32.toNat_inj.mp (h1.trans (Nat.sub_self n))
  · exact UInt32.lt_iff_toNat_lt.mpr (lt_of_lt_of_eq (show 1 < 120 - n by omega) h2.symm)

/-- A report of one ping time above the value that the minimum starts from. -/
theorem not_reportsInterval (hheld : x.2.Held (x.1.endpoints i)) (hlog : x.1.statlogcnt = 0)
    (htimeout : 1 < (x.1.endpoints i).timeout) {t : ℚ} (hrecorded : x.2.recorded = [t])
    (hstart : x.2.start < t) (keys : Fin maxStageId → PublicKey) :
    ¬ ReportsInterval i x (.checkstatus keys) := by
  rw [reportsInterval_iff i x hheld]
  intro h
  have hne : x.2.recorded ≠ [] := hrecorded ▸ List.cons_ne_nil t []
  obtain ⟨-, t', ht', hle⟩ := h rfl hlog htimeout hne
  rw [hrecorded] at ht'
  rw [List.mem_singleton.mp ht'] at hle
  exact absurd hstart hle.not_gt

end Waiting

/-- A device answers within 5 ms, and within 1500 ms behind the first report: the second one
announces a least ping time of 1000 ms. -/
theorem least_ping_time_capped :
    ¬ ∀ (keys : Fin maxStageId → PublicKey) (srvPubkey : PublicKey) (i : Fin maxStageId)
      (ops : List EndpointOp),
      AllSteps (observedStep i) (ReportsInterval i)
        (EndpointList.init keys srvPubkey, LatencyInterval.new) ops := by
  intro hall
  have key : PublicKey := ⟨List.replicate cryptoBoxPublicKeyBytes 0, List.length_replicate⟩
  let keys : Fin maxStageId → PublicKey := fun _ => key
  let i : Fin maxStageId := ⟨0, Nat.zero_lt_succ _⟩
  let x : EndpointList × LatencyInterval := (EndpointList.init keys key, LatencyInterval.new)
  let first := timedPasses keys 0 5 30 ++ [.checkstatus keys]
  -- the first report
  obtain ⟨hlog, htimeout, hperiod, -⟩ := run_timedPasses (i := i) (x := x) keys 0 rfl 5
    (by norm_num) (n := 30) rfl (by norm_num)
  obtain ⟨hlog, hinterval⟩ := observedStep_report keys hlog htimeout
  rw [hperiod] at hlog
  let x1 := observedStep i (run (observedStep i) x (timedPasses keys 0 5 30)) (.checkstatus keys)
  have hcount : x1.1.statlogcnt.toNat = 29 := by
    have hpasses : (EndpointList.statlogPasses 2000 - 1).toNat = 29 := by decide
    exact (congrArg UInt32.toNat hlog).trans hpasses
  -- the second one
  obtain ⟨hlog, htimeout, -, hlast⟩ := run_timedPasses (i := i) (x := x1) keys 0 rfl
    1500 (by norm_num) hcount (by norm_num)
  rw [show x1.2 = ⟨[], 1000⟩ from hinterval] at hlast
  have hrun : run (observedStep i) x (first ++ timedPasses keys 0 1500 29)
      = run (observedStep i) x1 (timedPasses keys 0 1500 29) := by
    rw [run_append, run_append_one]
  have hstep : ∀ (x : EndpointList × LatencyInterval) (op : EndpointOp),
      x.2.Held (x.1.endpoints i) →
        (observedStep i x op).2.Held ((observedStep i x op).1.endpoints i) :=
    fun x op h => held_step x.1 i h op
  have hheld := invariant_run_of_step (I := fun x => x.2.Held (x.1.endpoints i)) hstep
    (s := x) (held_new key) (first ++ timedPasses keys 0 1500 29)
  have hsteps := hall keys key i (first ++ timedPasses keys 0 1500 29 ++ [.checkstatus keys])
  have hreport := (allSteps_append_one.mp hsteps).2
  rw [hrun] at hheld hreport
  refine not_reportsInterval hheld hlog htimeout (congrArg LatencyInterval.recorded hlast) ?_ keys
    hreport
  rw [hlast]
  norm_num

end Libov
