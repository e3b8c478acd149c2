/-
# The loss count of a sender

Every message but the first adds to the loss count the distance to the message
that arrived before it, less one.  The count is unsigned and falls below zero in
between; over a run the distances telescope, so that only the first and the last
arrival matter, whatever is held back or delivered early.

* `lost_run_known` : the telescoped count, from a number that is recorded;
* `loss_count_exact` : the count behind a run on a fresh sorter.
-/
import Libov.SorterSteps
import Libov.SerialNumbers

open Runs SerialNumbers

namespace Libov

/-! ## The messages of one sender -/

/-- The messages of a sender, in the order of their arrival. -/
def ofSender (c : StageDeviceId) (ms : List DataMsg) : List DataMsg :=
  ms.filter fun m => m.toMsgBuf.cid = c

theorem ofSender_cons_self {c : StageDeviceId} {m : DataMsg} (h : m.toMsgBuf.cid = c)
    (ms : List DataMsg) : ofSender c (m :: ms) = m :: ofSender c ms :=
  List.filter_cons_of_pos (by rw [h]; exact decide_eq_true rfl)

theorem ofSender_cons_of_ne {c : StageDeviceId} {m : DataMsg} (h : m.toMsgBuf.cid ≠ c)
    (ms : List DataMsg) : ofSender c (m :: ms) = ofSender c ms :=
  List.filter_cons_of_neg (by rw [decide_eq_true_iff]; exact h)

/-- The messages of a sender are one stream, with distinct numbers of a window of
fewer than `2^15` values that starts at `b`. -/
structure InWindow (c : StageDeviceId) (port : Port) (b : Sequence) (w : ℕ)
    (ms : List DataMsg) : Prop where
  short : w < 2 ^ 15
  oneStream : ∀ m ∈ ofSender c ms, m.toMsgBuf.destport = port
  inside : ∀ m ∈ ofSender c ms, pos b m.toMsgBuf.seq < w
  distinct : ((ofSender c ms).map fun m => m.toMsgBuf.seq).Nodup

section Tail

variable {c : StageDeviceId} {port : Port} {b : Sequence} {w : ℕ} {m : DataMsg}
  {ms : List DataMsg}

/-- Behind a message of another sender nothing has changed for the window. -/
theorem InWindow.tail_of_ne (h : InWindow c port b w (m :: ms)) (hc : m.toMsgBuf.cid ≠ c) :
    InWindow c port b w ms := by
  obtain ⟨hshort, hstream, hinside, hdistinct⟩ := h
  rw [ofSender_cons_of_ne hc] at hstream hinside hdistinct
  exact ⟨hshort, hstream, hinside, hdistinct⟩

/-- Behind a message of the sender the remaining numbers differ from its own. -/
theorem InWindow.tail_self (h : InWindow c port b w (m :: ms)) (hc : m.toMsgBuf.cid = c) :
    InWindow c port b w ms ∧ m.toMsgBuf.destport = port ∧ pos b m.toMsgBuf.seq < w ∧
      ∀ m' ∈ ofSender c ms, m'.toMsgBuf.seq ≠ m.toMsgBuf.seq := by
  obtain ⟨hshort, hstream, hinside, hdistinct⟩ := h
  rw [ofSender_cons_self hc] at hstream hinside hdistinct
  rw [List.map_cons, List.nodup_cons] at hdistinct
  have htail : InWindow c port b w ms :=
    ⟨hshort, fun x hx => hstream x (List.mem_cons_of_mem _ hx),
      fun x hx => hinside x (List.mem_cons_of_mem _ hx), hdistinct.2⟩
  refine ⟨htail, hstream m List.mem_cons_self, hinside m List.mem_cons_self, ?_⟩
  intro x hx heq
  exact hdistinct.1 (heq ▸ List.mem_map_of_mem hx)

end Tail

/-! ## Telescoping -/

/-- The number of the last message of a list, `a` for the empty one. -/
def lastSeq : Sequence → List DataMsg → Sequence
  | a, [] => a
  | _, m :: ms => lastSeq m.toMsgBuf.seq ms

theorem lastSeq_eq_getLast (m : DataMsg) (ms : List DataMsg) :
    lastSeq m.toMsgBuf.seq ms = ((m :: ms).getLast (List.cons_ne_nil m ms)).toMsgBuf.seq := by
  induction ms generalizing m with
  | nil => rfl
  | cons m' ms ih => exact (ih m').trans (by rw [List.getLast_cons (List.cons_ne_nil m' ms)])

/-- A message of another sender leaves the numbers of a sender alone. -/
theorem seqIn_of_other {s : MessageSorter} {m : DataMsg} (hbuf2 : s.buf2.valid = false)
    {c : StageDeviceId} (port : Port) (hc : m.toMsgBuf.cid ≠ c) :
    (sorterStep s m).seqIn c port = s.seqIn c port := by
  rw [seqIn_sorterStep s m hbuf2]
  exact (s.seqIn.record_apply m.toMsgBuf (c, port)).trans
    (if_neg fun h => hc (congrArg Prod.fst h).symm)

/-- A message of another sender leaves the loss count of a sender alone. -/
theorem lost_of_other {s : MessageSorter} {m : DataMsg} (hbuf2 : s.buf2.valid = false)
    {c : StageDeviceId} (hc : m.toMsgBuf.cid ≠ c) :
    ((sorterStep s m).getStat c).lost = (s.getStat c).lost := by
  rw [lost_sorterStep m hbuf2, if_neg (Ne.symm hc), UInt64.add_zero]

/-- A message of the stream is recorded as its last number. -/
theorem seqIn_self {s : MessageSorter} {m : DataMsg} (hbuf2 : s.buf2.valid = false) :
    (sorterStep s m).seqIn m.toMsgBuf.cid m.toMsgBuf.destport = some m.toMsgBuf.seq := by
  rw [seqIn_sorterStep s m hbuf2]
  exact (s.seqIn.record_apply m.toMsgBuf m.toMsgBuf.stream).trans (if_pos rfl)

/-- From a recorded number on, the loss count telescopes over the arrivals. -/
theorem lost_run_known {c : StageDeviceId} {port : Port} {b : Sequence} {w : ℕ}
    (ms : List DataMsg) (h : InWindow c port b w ms) (s : MessageSorter)
    (hbuf2 : s.buf2.valid = false) (a : Sequence) (hknown : s.seqIn c port = some a)
    (ha : pos b a < w) (hnew : ∀ m ∈ ofSender c ms, m.toMsgBuf.seq ≠ a) :
    ((run sorterStep s ms).getStat c).lost = (s.getStat c).lost
      + UInt64.ofInt ((pos b (lastSeq a (ofSender c ms)) : ℤ) - pos b a
          - (ofSender c ms).length) := by
  -- over the arrivals, with whatever number the stream has reached
  induction ms generalizing s a with
  | nil =>
      show (s.getStat c).lost = (s.getStat c).lost + UInt64.ofInt ((pos b a : ℤ) - pos b a - 0)
      rw [sub_self, sub_zero]
      exact (UInt64.add_zero _).symm
  | cons m ms ih =>
      have hnext := buf2_invalid_feed s m hbuf2
      by_cases hc : m.toMsgBuf.cid = c
      · -- the stream itself: one more distance
        obtain ⟨htail, hport, hpos, hdistinct⟩ := h.tail_self hc
        rw [ofSender_cons_self hc] at hnew ⊢
        have hlast : s.seqIn m.toMsgBuf.cid m.toMsgBuf.destport = some a := by
          rw [hc, hport]
          exact hknown
        have hdiff : deltaseqConst s.seqIn m.toMsgBuf = m.toMsgBuf.seq - a := by
          unfold deltaseqConst SequenceMap.at
          rw [hlast, Option.getD_some]
        have hloss : s.loss m.toMsgBuf
            = UInt64.ofInt ((pos b m.toMsgBuf.seq : ℤ) - pos b a - 1) := by
          have hne : m.toMsgBuf.seq - a ≠ 0 := sub_ne_zero_of_ne (hnew m List.mem_cons_self)
          unfold MessageSorter.loss
          rw [hdiff, if_pos ⟨hne, by rw [hlast]; rfl⟩,
            toInt_sub_of_window h.short hpos ha]
        have hknown' : (sorterStep s m).seqIn c port = some m.toMsgBuf.seq := by
          rw [← hc, ← hport]
          exact seqIn_self hbuf2
        rw [run_cons, ih htail (sorterStep s m) hnext m.toMsgBuf.seq hknown' hpos hdistinct,
          lost_sorterStep m hbuf2, if_pos hc.symm, hloss, ofInt_telescope, lastSeq,
          List.length_cons, Nat.cast_succ]
      · -- another sender
        rw [ofSender_cons_of_ne hc] at hnew ⊢
        rw [run_cons, ih (h.tail_of_ne hc) (sorterStep s m) hnext a
          ((seqIn_of_other hbuf2 port hc).trans hknown) ha hnew, lost_of_other hbuf2 hc]

/-- A first message adds nothing. -/
theorem lost_run_new {c : StageDeviceId} {port : Port} {b : Sequence} {w : ℕ}
    (ms : List DataMsg) (h : InWindow c port b w ms) (s : MessageSorter)
    (hbuf2 : s.buf2.valid = false) (hnew : s.seqIn c port = none) {first : DataMsg}
    {rest : List DataMsg} (hown : ofSender c ms = first :: rest) :
    ((run sorterStep s ms).getStat c).lost = (s.getStat c).lost
      + UInt64.ofInt ((pos b (lastSeq first.toMsgBuf.seq rest) : ℤ)
          - pos b first.toMsgBuf.seq - rest.length) := by
  induction ms generalizing s with
  | nil => cases hown
  | cons m ms ih =>
      -- other senders come first, until one message makes the stream known
      have hnext := buf2_invalid_feed s m hbuf2
      by_cases hc : m.toMsgBuf.cid = c
      · obtain ⟨htail, hport, hpos, hdistinct⟩ := h.tail_self hc
        rw [ofSender_cons_self hc] at hown
        obtain ⟨rfl, rfl⟩ := List.cons.inj hown
        have hloss : s.loss m.toMsgBuf = 0 := by
          unfold MessageSorter.loss
          rw [if_neg]
          rw [hc, hport, hnew]
          exact fun h => Bool.false_ne_true h.2
        have hknown' : (sorterStep s m).seqIn c port = some m.toMsgBuf.seq := by
          rw [← hc, ← hport]
          exact seqIn_self hbuf2
        rw [run_cons, lost_run_known ms htail (sorterStep s m) hnext _ hknown' hpos hdistinct,
          lost_sorterStep m hbuf2, if_pos hc.symm, hloss, UInt64.add_zero]
      · rw [ofSender_cons_of_ne hc] at hown
        rw [run_cons, ih (h.tail_of_ne hc) (sorterStep s m) hnext
          ((seqIn_of_other hbuf2 port hc).trans hnew) hown, lost_of_other hbuf2 hc]

/-! ## Numbers that never arrived -/

/-- The numbers between the first and the last position that never arrived. -/
def missing (b : Sequence) (own : List DataMsg) (first last : ℕ) : Finset ℕ :=
  (Finset.Ioo first last).filter fun p => ∀ m ∈ own, pos b m.toMsgBuf.seq ≠ p

/-- The positions of the messages that arrived. -/
def arrived (b : Sequence) (own : List DataMsg) : Finset ℕ :=
  (own.map fun m => pos b m.toMsgBuf.seq).toFinset

theorem mem_arrived {b : Sequence} {own : List DataMsg} {p : ℕ} :
    p ∈ arrived b own ↔ ∃ m ∈ own, pos b m.toMsgBuf.seq = p := by
  rw [arrived, List.mem_toFinset, List.mem_map]

theorem card_arrived {b : Sequence} {own : List DataMsg}
    (hdistinct : (own.map fun m => m.toMsgBuf.seq).Nodup) :
    (arrived b own).card = own.length := by
  have hnodup : (own.map fun m => pos b m.toMsgBuf.seq).Nodup := by
    have hmap := hdistinct.map (pos_injective b)
    rwa [List.map_map] at hmap
  rw [arrived, List.toFinset_card_of_nodup hnodup, List.length_map]

/-- Where the lowest position arrives first and the highest last, what is missing
between them is what their distance leaves over. -/
theorem card_missing {b : Sequence} {own : List DataMsg}
    (hdistinct : (own.map fun m => m.toMsgBuf.seq).Nodup) {first last : ℕ}
    (hbounds : ∀ m ∈ own, first ≤ pos b m.toMsgBuf.seq ∧ pos b m.toMsgBuf.seq ≤ last)
    (hfirst : ∃ m ∈ own, pos b m.toMsgBuf.seq = first)
    (hlast : ∃ m ∈ own, pos b m.toMsgBuf.seq = last) :
    (missing b own first last).card + own.length = last + 1 - first := by
  have hsub : arrived b own ⊆ Finset.Icc first last := by
    intro p hp
    obtain ⟨m, hm, rfl⟩ := mem_arrived.mp hp
    exact Finset.mem_Icc.mpr (hbounds m hm)
  -- both ends have arrived, so nothing is missing outside the open interval
  have hmissing : missing b own first last = Finset.Icc first last \ arrived b own := by
    ext p
    rw [missing, Finset.mem_filter, Finset.mem_Ioo, Finset.mem_sdiff, Finset.mem_Icc,
      mem_arrived]
    constructor
    · rintro ⟨hp, hnone⟩
      refine ⟨⟨hp.1.le, hp.2.le⟩, ?_⟩
      rintro ⟨m, hm, heq⟩
      exact hnone m hm heq
    · rintro ⟨⟨hlo, hhi⟩, hnone⟩
      have hnefirst : p ≠ first := fun h => hnone (h ▸ hfirst)
      have hnelast : p ≠ last := fun h => hnone (h ▸ hlast)
      exact ⟨⟨lt_of_le_of_ne hlo hnefirst.symm, lt_of_le_of_ne hhi hnelast⟩,
        fun m hm heq => hnone ⟨m, hm, heq⟩⟩
  have htotal := Finset.card_sdiff_add_card_eq_card hsub
  rw [← hmissing, card_arrived hdistinct, Nat.card_Icc] at htotal
  exact htotal

/-! ## The count behind a run -/

/-- On a fresh sorter the loss count of a sender with one stream is, modulo `2^64`,
the distance of the last arrival from the first less the number of messages in
between; with the lowest number first and the highest last it is exactly the
number of numbers that never arrived. -/
theorem loss_count_exact (sender1 sender2 : Endpoint) (c : StageDeviceId) (port : Port)
    (b : Sequence) (w : ℕ) (ms : List DataMsg) (h : InWindow c port b w ms)
    (hne : ofSender c ms ≠ []) :
    let own := ofSender c ms
    let lost := ((run sorterStep (MessageSorter.fresh sender1 sender2) ms).getStat c).lost
    let first := pos b (own.head hne).toMsgBuf.seq
    let last := pos b (own.getLast hne).toMsgBuf.seq
    (lost.toNat : ℤ) ≡ ((last : ℤ) - first) - (own.length - 1) [ZMOD 2 ^ 64] ∧
      ((∀ m ∈ own, first ≤ pos b m.toMsgBuf.seq ∧ pos b m.toMsgBuf.seq ≤ last) →
        lost.toNat = (missing b own first last).card) := by
  intro own lost first last
  -- the first message of the sender starts the sum, the others telescope
  obtain ⟨m, rest, hown⟩ := List.exists_cons_of_ne_nil hne
  have hfirst : first = pos b m.toMsgBuf.seq := by
    show pos b ((ofSender c ms).head hne).toMsgBuf.seq = _
    simp only [hown, List.head_cons]
  have hlast : last = pos b (lastSeq m.toMsgBuf.seq rest) := by
    show pos b ((ofSender c ms).getLast hne).toMsgBuf.seq = _
    rw [lastSeq_eq_getLast]
    simp only [hown]
  have hlength : own.length = rest.length + 1 := by
    show (ofSender c ms).length = _
    rw [hown, List.length_cons]
  have hlost : lost = UInt64.ofInt ((last : ℤ) - first - rest.length) := by
    show ((run sorterStep (MessageSorter.fresh sender1 sender2) ms).getStat c).lost = _
    rw [lost_run_new ms h _ rfl rfl hown, hfirst, hlast]
    exact UInt64.zero_add _
  have hcast : (own.length : ℤ) - 1 = rest.length := by rw [hlength]; push_cast; ring
  have hnat : (lost.toNat : ℤ) = ((last : ℤ) - first - rest.length) % 2 ^ 64 := by
    rw [hlost, toNat_ofInt]
  constructor
  · rw [hnat, hcast]
    exact Int.mod_modEq _ _
  · intro hbounds
    have hcard := card_missing h.distinct hbounds ⟨_, List.head_mem hne, rfl⟩
      ⟨_, List.getLast_mem hne, rfl⟩
    have hle : last < w := h.inside _ (List.getLast_mem hne)
    have hw := h.short
    -- in a short window the count modulo `2^64` is the count itself
    show lost.toNat = (missing b (ofSender c ms) first last).card
    change (missing b (ofSender c ms) first last).card + own.length = last + 1 - first at hcard
    omega

/-- Five numbers across the wrap, one of them never arriving, next to a message of
another sender. -/
def acrossWrap : List DataMsg :=
  [emptyMsg 1 1234 32766 dataPort, emptyMsg 2 1234 7 dataPort,
    emptyMsg 1 1234 (-32768) dataPort, emptyMsg 1 1234 32767 dataPort,
    emptyMsg 1 1234 (-32766) dataPort]

theorem loss_count_exact_across_wrap :
    ((run sorterStep (MessageSorter.fresh Endpoint.cleared Endpoint.cleared)
      acrossWrap).getStat 1).lost.toNat = 1 :=
  ((loss_count_exact Endpoint.cleared Endpoint.cleared 1 1234 32766 5 acrossWrap
    ⟨by decide, by decide, by decide, by decide⟩ (by decide)).2 (by decide +kernel)).trans
      (by decide +kernel)

end Libov
