/-
# Steps backwards in the input and in the output

`seqerr_in` counts the messages that arrive behind a later number of their stream,
`seqerr_out` those that are delivered so; their difference is reported as the number
of recovered messages.  What keeps it from going below zero is a potential: a
stream whose last arrival is behind its last delivery has an input error that the
output has not caught up with.

* `NoDisorder` : the message is delivered in no worse an order than it arrived in;
* `OrderInv.step` : such a message keeps the balance of every sender;
* `seqerr_ordered_run` : in a run of such messages `seqerr_out ≤ seqerr_in` throughout.
-/
import Libov.SorterSteps

open Runs

namespace Libov

/-! ## Messages that are delivered in order -/

/-- A message delivered at once comes neither behind a later number of its stream nor
in front of an earlier one, unless it arrived out of order, or its stream is still
behind. -/
structure NoDisorder (s : MessageSorter) (m : DataMsg) : Prop where
  held : s.Holds m.toMsgBuf.stream → ¬ s.Gap m.toMsgBuf → ¬ s.Swap m.toMsgBuf →
    0 ≤ deltaseqConst s.seqOut m.toMsgBuf ∧ 0 ≤ s.buf1.seq - m.toMsgBuf.seq
  free : ¬ s.Holds m.toMsgBuf.stream → ¬ s.Gap m.toMsgBuf →
    deltaseqConst s.seqOut m.toMsgBuf < 0 →
      deltaseqConst s.seqIn m.toMsgBuf < 0 ∨
        s.seqIn.last m.toMsgBuf.stream - s.seqOut.last m.toMsgBuf.stream < 0

/-- The last arrival of the stream is behind its last delivery, and nothing of it is
held back. -/
def MessageSorter.Behind (s : MessageSorter) (k : Stream) : Prop :=
  ¬ s.Holds k ∧ s.seqIn.last k - s.seqOut.last k < 0

/-! ## Single errors -/

/-- The count of a difference as a number. -/
theorem toNat_backward (d : Sequence) : (backward d).toNat = if d < 0 then 1 else 0 := by
  unfold backward
  split_ifs
  · rfl
  · rfl

/-- A difference that is not negative counts nothing. -/
theorem backward_eq_zero {d : Sequence} (h : 0 ≤ d) : backward d = 0 :=
  if_neg (Int16.not_lt.mpr h)

/-- In particular a gap does not count. -/
theorem backward_eq_zero_of_gap {d : Sequence} (h : 1 < d) : backward d = 0 :=
  backward_eq_zero (Int16.le_of_lt (Int16.lt_trans (by decide) h))

/-- The errors of a sender balance: those of the output, and one for every stream that
is behind, are covered by those of the input, of which there are at most `n`. -/
def Balanced (s : MessageSorter) (n : ℕ) (c : StageDeviceId) : Prop :=
  (∃ behind : Finset Port, (∀ port, s.Behind (c, port) → port ∈ behind) ∧
    (s.getStat c).seqerrOut.toNat + behind.card ≤ (s.getStat c).seqerrIn.toNat) ∧
  (s.getStat c).seqerrIn.toNat ≤ n

/-- What is held back is the last arrival of its stream, behind a gap. -/
structure HeldInv (s : MessageSorter) : Prop where
  free2 : s.buf2.valid = false
  lastIn : s.buf1.valid = true → s.seqIn.last s.buf1.stream = s.buf1.seq
  gapOut : s.buf1.valid = true → 1 < s.buf1.seq - s.seqOut.last s.buf1.stream

/-- A new sorter holds nothing. -/
theorem HeldInv.fresh (sender1 sender2 : Endpoint) :
    HeldInv (MessageSorter.fresh sender1 sender2) where
  free2 := rfl
  lastIn := fun h => absurd h Bool.false_ne_true
  gapOut := fun h => absurd h Bool.false_ne_true

/-- Every message keeps this. -/
theorem HeldInv.step {s : MessageSorter} (h : HeldInv s) (m : DataMsg) :
    HeldInv (sorterStep s m) := by
  have hnext := buf2_invalid_feed s m h.free2
  rcases sorterStep_cases s m h.free2 with ⟨hgap, hs⟩ | ⟨-, -, hs⟩ | ⟨-, -, hs⟩
  · -- the message is held back behind its gap
    rw [hs] at hnext ⊢
    refine ⟨hnext, fun _ => ?_, fun _ => ?_⟩
    · rw [MessageSorter.buf1_hold, MsgBuf.stream_copy, MessageSorter.seqIn_hold,
        SenderMap.last_record_self]
      rfl
    · rw [MessageSorter.buf1_hold, MsgBuf.stream_copy, MessageSorter.seqOut_hold]
      exact hgap.2
  · rw [hs] at hnext ⊢
    have hfree : ¬ (s.swap m.toMsgBuf).buf1.valid = true := Bool.false_ne_true
    exact ⟨hnext, fun hv => absurd hv hfree, fun hv => absurd hv hfree⟩
  · rw [hs] at hnext ⊢
    have hfree : ¬ (s.pass m.toMsgBuf).buf1.valid = true := by
      rw [MessageSorter.buf1_invalid_pass]
      exact Bool.false_ne_true
    exact ⟨hnext, fun hv => absurd hv hfree, fun hv => absurd hv hfree⟩

/-- Besides, the errors of every sender balance. -/
structure OrderInv (s : MessageSorter) (n : ℕ) : Prop extends HeldInv s where
  balanced : ∀ c, Balanced s n c

/-! ## Streams that are behind -/

section Behind

variable {s : MessageSorter} (h : HeldInv s) (m : DataMsg) {k : Stream}

include h

/-- A stream of which something is held back is not behind. -/
theorem HeldInv.not_behind_of_holds (hk : s.Holds k) :
    ¬ s.seqIn.last k - s.seqOut.last k < 0 := by
  obtain ⟨hvalid, rfl⟩ := hk
  rw [h.lastIn hvalid]
  have hgap := h.gapOut hvalid
  have hzero : (0 : Sequence) < s.buf1.seq - s.seqOut.last s.buf1.stream :=
    Int16.lt_trans (by decide) hgap
  exact Int16.lt_asymm hzero

/-- A message that is held back leaves no new stream behind. -/
theorem behind_hold (hk : (s.hold m.toMsgBuf).Behind k) : s.Behind k := by
  obtain ⟨hheld, hlt⟩ := hk
  have hne : k ≠ m.toMsgBuf.stream := fun heq => hheld ⟨m.valid, heq.symm⟩
  rw [MessageSorter.seqIn_hold, MessageSorter.seqOut_hold, SenderMap.last_record_of_ne _ hne] at hlt
  exact ⟨fun hholds => h.not_behind_of_holds hholds hlt, hlt⟩

omit h in
/-- Nor does a swap. -/
theorem behind_swap (hswap : s.Swap m.toMsgBuf) (hk : (s.swap m.toMsgBuf).Behind k) :
    s.Behind k := by
  obtain ⟨-, hlt⟩ := hk
  rw [MessageSorter.seqIn_swap, MessageSorter.last_swap s _ hswap, SenderMap.last_record] at hlt
  split_ifs at hlt with hkm
  · -- the last arrival has just been delivered
    rw [Int16.sub_self] at hlt
    exact absurd hlt Int16.lt_irrefl
  · exact ⟨fun hholds => hkm (hholds.2.symm.trans (holds_of_swap hswap).2), hlt⟩

/-- Behind a message that is delivered at once, its stream can only be behind through
the held message that comes after it. -/
theorem behind_pass (hk : (s.pass m.toMsgBuf).Behind k) :
    (k = m.toMsgBuf.stream ∧ s.Holds k ∧ m.toMsgBuf.seq - s.buf1.seq < 0) ∨
      (k ≠ m.toMsgBuf.stream ∧ s.Behind k) := by
  obtain ⟨-, hlt⟩ := hk
  rw [MessageSorter.seqIn_pass, MessageSorter.last_pass, SenderMap.last_record] at hlt
  split_ifs at hlt with hkm hholds hholds
  · exact Or.inl ⟨hkm, hholds, hlt⟩
  · -- the message itself is the last arrival and the last delivery
    rw [Int16.sub_self] at hlt
    exact absurd hlt Int16.lt_irrefl
  · -- so is the held message, which has been delivered
    rw [← hholds.2, h.lastIn hholds.1, Int16.sub_self] at hlt
    exact absurd hlt Int16.lt_irrefl
  · exact Or.inr ⟨hkm, hholds, hlt⟩

/-- A message is compared with the last arrival, the held one, where one is held. -/
theorem HeldInv.dseqIn_of_holds (hholds : s.Holds m.toMsgBuf.stream) :
    deltaseqConst s.seqIn m.toMsgBuf = m.toMsgBuf.seq - s.buf1.seq := by
  rw [deltaseqConst_eq, ← hholds.2, h.lastIn hholds.1]

/-- A held message comes out of a swap without an error. -/
theorem HeldInv.outErr_buf1 (c : StageDeviceId) (hvalid : s.buf1.valid = true) :
    s.seqOut.outErr s.buf1 c = 0 := by
  unfold SenderMap.outErr
  rw [deltaseqConst_eq, backward_eq_zero_of_gap (h.gapOut hvalid), ite_self]

/-- The message of a swap is compared with the held one, as in the input. -/
theorem HeldInv.outErr_swapped (c : StageDeviceId) (hholds : s.Holds m.toMsgBuf.stream) :
    (s.seqOut.record s.buf1).outErr m.toMsgBuf c
      = if c = m.toMsgBuf.cid then backward (deltaseqConst s.seqIn m.toMsgBuf) else 0 := by
  unfold SenderMap.outErr
  rw [h.dseqIn_of_holds m hholds, deltaseqConst_eq, ← hholds.2, SenderMap.last_record_self]

/-- A held message of another stream is released without an error. -/
theorem HeldInv.outErr_released (c : StageDeviceId) (hvalid : s.buf1.valid = true)
    (hne : ¬ s.Holds m.toMsgBuf.stream) :
    (s.seqOut.record m.toMsgBuf).outErr s.buf1 c = 0 := by
  have hstream : s.buf1.stream ≠ m.toMsgBuf.stream := fun heq => hne ⟨hvalid, heq⟩
  unfold SenderMap.outErr
  rw [deltaseqConst_eq, SenderMap.last_record_of_ne _ hstream,
    backward_eq_zero_of_gap (h.gapOut hvalid), ite_self]

end Behind

/-! ## The balance of a sender -/

/-- Adding one error to a counter that is far from its end. -/
theorem toNat_add_backward {a : UInt64} {n : ℕ} (ha : a.toNat ≤ n) (hn : n + 1 < 2 ^ 64)
    (d : Sequence) : (a + backward d).toNat = a.toNat + if d < 0 then 1 else 0 := by
  rw [UInt64.toNat_add, toNat_backward]
  split_ifs
  · exact Nat.mod_eq_of_lt (by omega)
  · exact Nat.mod_eq_of_lt (by omega)

/-- The same where only the sender of the message counts it. -/
theorem toNat_add_ite_backward {a : UInt64} {n : ℕ} (ha : a.toNat ≤ n) (hn : n + 1 < 2 ^ 64)
    (c cid : StageDeviceId) (d : Sequence) :
    (a + if c = cid then backward d else 0).toNat
      = a.toNat + if c = cid ∧ d < 0 then 1 else 0 := by
  by_cases hc : c = cid
  · rw [if_pos hc, toNat_add_backward ha hn]
    simp only [hc, true_and]
  · rw [if_neg hc, UInt64.add_zero, if_neg fun hh => hc hh.1, Nat.add_zero]

section Balance

variable {s : MessageSorter} {n : ℕ} (h : OrderInv s n) (hn : n + 1 < 2 ^ 64) (m : DataMsg)
  (c : StageDeviceId)

include h

/-- A message that is held back keeps the balance of the errors. -/
theorem balanced_hold : Balanced (s.hold m.toMsgBuf) (n + 1) c := by
  obtain ⟨⟨behind, hmem, hcard⟩, hbound⟩ := h.balanced c
  refine ⟨⟨behind, fun port hport => hmem port (behind_hold h.toHeldInv m hport), ?_⟩, ?_⟩
  · rw [MessageSorter.seqerrOut_hold, MessageSorter.seqerrIn_hold]
    exact hcard
  · rw [MessageSorter.seqerrIn_hold]
    exact Nat.le_succ_of_le hbound

include hn

/-- The errors of the input behind a message that is not held back. -/
theorem toNat_seqerrIn_add :
    ((s.getStat c).seqerrIn + if c = m.toMsgBuf.cid then
      backward (deltaseqConst s.seqIn m.toMsgBuf) else 0).toNat
      = (s.getStat c).seqerrIn.toNat
        + if c = m.toMsgBuf.cid ∧ deltaseqConst s.seqIn m.toMsgBuf < 0 then 1 else 0 :=
  toNat_add_ite_backward (h.balanced c).2 hn c _ _

/-- There is at most one for each message. -/
theorem seqerrIn_add_le :
    ((s.getStat c).seqerrIn + if c = m.toMsgBuf.cid then
      backward (deltaseqConst s.seqIn m.toMsgBuf) else 0).toNat ≤ n + 1 := by
  have hbound := (h.balanced c).2
  rw [toNat_seqerrIn_add h hn m c]
  split_ifs
  · omega
  · omega

/-- A swap brings one error into the input and at most one into the output. -/
theorem balanced_swap (hswap : s.Swap m.toMsgBuf) :
    Balanced (s.swap m.toMsgBuf) (n + 1) c := by
  obtain ⟨⟨behind, hmem, hcard⟩, hbound⟩ := h.balanced c
  have hholds := holds_of_swap hswap
  have hfirst := h.outErr_buf1 c hholds.1
  have hsecond : (s.seqOut.record s.buf1).outErr m.toMsgBuf c
      = if c = m.toMsgBuf.cid then backward (deltaseqConst s.seqIn m.toMsgBuf) else 0 :=
    h.outErr_swapped m c hholds
  have hin := toNat_seqerrIn_add h hn m c
  refine ⟨⟨behind, fun port hport => hmem port (behind_swap m hswap hport), ?_⟩, ?_⟩
  · have hle : (s.getStat c).seqerrOut.toNat ≤ n := by omega
    have hout := toNat_add_ite_backward hle hn c m.toMsgBuf.cid (deltaseqConst s.seqIn m.toMsgBuf)
    rw [MessageSorter.seqerrOut_swap, MessageSorter.seqerrIn_swap, hfirst, hsecond,
      UInt64.add_zero, hin, hout]
    omega
  · rw [MessageSorter.seqerrIn_swap]
    exact seqerrIn_add_le h hn m c

/-- A message in front of the held one of its stream: the output has no error, and the
stream is behind if the input has one. -/
theorem balanced_pass_held (hholds : s.Holds m.toMsgBuf.stream)
    (hout : 0 ≤ deltaseqConst s.seqOut m.toMsgBuf)
    (hheld : 0 ≤ s.buf1.seq - m.toMsgBuf.seq) :
    Balanced (s.pass m.toMsgBuf) (n + 1) c := by
  obtain ⟨⟨behind, hmem, hcard⟩, hbound⟩ := h.balanced c
  have hdiff := h.dseqIn_of_holds m hholds
  have hfirst : s.seqOut.outErr m.toMsgBuf c = 0 := by
    unfold SenderMap.outErr
    rw [backward_eq_zero hout, ite_self]
  have hsecond : (s.seqOut.record m.toMsgBuf).outErr s.buf1 c = 0 := by
    unfold SenderMap.outErr
    rw [deltaseqConst_eq, hholds.2, SenderMap.last_record_self, backward_eq_zero hheld, ite_self]
  have hnone : ((s.pass m.toMsgBuf).getStat c).seqerrOut = (s.getStat c).seqerrOut := by
    rw [MessageSorter.seqerrOut_pass, hfirst, if_pos hholds.1, hsecond, UInt64.add_zero,
      UInt64.add_zero]
  have hin := toNat_seqerrIn_add h hn m c
  constructor
  · by_cases hlate : c = m.toMsgBuf.cid ∧ deltaseqConst s.seqIn m.toMsgBuf < 0
    · -- the stream of the message is behind now, and its sender has one more input error
      refine ⟨insert m.toMsgBuf.destport behind, ?_, ?_⟩
      · intro port hport
        rcases behind_pass h.toHeldInv m hport with ⟨heq, -, -⟩ | ⟨-, hbehind⟩
        · have hp : port = m.toMsgBuf.destport := congrArg Prod.snd heq
          rw [hp]
          exact Finset.mem_insert_self _ _
        · exact Finset.mem_insert_of_mem (hmem port hbehind)
      · have hinsert := Finset.card_insert_le m.toMsgBuf.destport behind
        rw [hnone, MessageSorter.seqerrIn_pass, hin, if_pos hlate]
        omega
    · refine ⟨behind, ?_, ?_⟩
      · intro port hport
        rcases behind_pass h.toHeldInv m hport with ⟨heq, -, hlt⟩ | ⟨-, hbehind⟩
        · exact absurd ⟨congrArg Prod.fst heq, hdiff ▸ hlt⟩ hlate
        · exact hmem port hbehind
      · rw [hnone, MessageSorter.seqerrIn_pass, hin]
        omega
  · rw [MessageSorter.seqerrIn_pass]
    exact seqerrIn_add_le h hn m c

section Free

variable (hholds : ¬ s.Holds m.toMsgBuf.stream)

include hholds

/-- The errors of the output behind a message of a stream of which nothing is held. -/
theorem toNat_seqerrOut_pass_free :
    ((s.pass m.toMsgBuf).getStat c).seqerrOut.toNat = (s.getStat c).seqerrOut.toNat
      + if c = m.toMsgBuf.cid ∧ deltaseqConst s.seqOut m.toMsgBuf < 0 then 1 else 0 := by
  obtain ⟨⟨behind, -, hcard⟩, hbound⟩ := h.balanced c
  have hle : (s.getStat c).seqerrOut.toNat ≤ n := by omega
  have hreleased : (if s.buf1.valid = true then (s.seqOut.record m.toMsgBuf).outErr s.buf1 c
      else 0) = 0 := by
    split_ifs with hvalid
    · exact h.outErr_released m c hvalid hholds
    · rfl
  rw [MessageSorter.seqerrOut_pass, hreleased, UInt64.add_zero]
  exact toNat_add_ite_backward hle hn c _ _

/-- The other senders have nothing to count. -/
theorem balanced_pass_other (hc : c ≠ m.toMsgBuf.cid) :
    Balanced (s.pass m.toMsgBuf) (n + 1) c := by
  obtain ⟨⟨behind, hmem, hcard⟩, hbound⟩ := h.balanced c
  have hout := toNat_seqerrOut_pass_free h hn m c hholds
  rw [if_neg fun hh => hc hh.1] at hout
  refine ⟨⟨behind, ?_, ?_⟩, ?_⟩
  · intro port hport
    rcases behind_pass h.toHeldInv m hport with ⟨heq, -, -⟩ | ⟨-, hbehind⟩
    · exact absurd (congrArg Prod.fst heq) hc
    · exact hmem port hbehind
  · rw [MessageSorter.seqerrIn_pass, if_neg hc, UInt64.add_zero, hout]
    exact hcard
  · rw [MessageSorter.seqerrIn_pass]
    exact seqerrIn_add_le h hn m c

/-- A message of a stream of which nothing is held: an error of the output is covered
by one of the input, or the stream was behind and is no longer. -/
theorem balanced_pass_free
    (hfree : deltaseqConst s.seqOut m.toMsgBuf < 0 → deltaseqConst s.seqIn m.toMsgBuf < 0 ∨
      s.seqIn.last m.toMsgBuf.stream - s.seqOut.last m.toMsgBuf.stream < 0) :
    Balanced (s.pass m.toMsgBuf) (n + 1) c := by
  by_cases hc : c = m.toMsgBuf.cid
  · obtain ⟨⟨behind, hmem, hcard⟩, hbound⟩ := h.balanced c
    have hin := toNat_seqerrIn_add h hn m c
    have hout := toNat_seqerrOut_pass_free h hn m c hholds
    -- the stream of the message is in step again
    refine ⟨⟨behind.erase m.toMsgBuf.destport, ?_, ?_⟩, ?_⟩
    · intro port hport
      rcases behind_pass h.toHeldInv m hport with ⟨heq, hh, -⟩ | ⟨hne, hbehind⟩
      · exact absurd (heq ▸ hh) hholds
      · refine Finset.mem_erase.mpr ⟨?_, hmem port hbehind⟩
        intro hp
        exact hne (Prod.ext hc hp)
    · rw [MessageSorter.seqerrIn_pass, hin, hout]
      by_cases hlate : deltaseqConst s.seqOut m.toMsgBuf < 0
      · rw [if_pos ⟨hc, hlate⟩]
        rcases hfree hlate with hearly | hlag
        · have herase := Finset.card_erase_le (a := m.toMsgBuf.destport) (s := behind)
          rw [if_pos ⟨hc, hearly⟩]
          omega
        · have hstream : m.toMsgBuf.stream = (c, m.toMsgBuf.destport) := Prod.ext hc.symm rfl
          have hport : m.toMsgBuf.destport ∈ behind := hmem _ (hstream ▸ ⟨hholds, hlag⟩)
          have herase := Finset.card_erase_add_one hport
          omega
      · have herase := Finset.card_erase_le (a := m.toMsgBuf.destport) (s := behind)
        rw [if_neg fun hh => hlate hh.2]
        omega
    · rw [MessageSorter.seqerrIn_pass]
      exact seqerrIn_add_le h hn m c
  · exact balanced_pass_other h hn m c hholds hc

end Free

end Balance

/-! ## Whole runs -/

/-- A message that is delivered in no worse an order than it arrived in keeps the
balance. -/
theorem OrderInv.step {s : MessageSorter} {n : ℕ} (h : OrderInv s n) (hn : n + 1 < 2 ^ 64)
    {m : DataMsg} (hm : NoDisorder s m) : OrderInv (sorterStep s m) (n + 1) := by
  refine ⟨h.toHeldInv.step m, fun c => ?_⟩
  rcases sorterStep_cases s m h.free2 with ⟨hgap, hs⟩ | ⟨hgap, hswap, hs⟩ | ⟨hgap, hswap, hs⟩
  · rw [hs]
    exact balanced_hold h m c
  · rw [hs]
    exact balanced_swap h hn m c hswap
  · rw [hs]
    by_cases hholds : s.Holds m.toMsgBuf.stream
    · obtain ⟨hout, hheld⟩ := hm.held hholds hgap hswap
      exact balanced_pass_held h hn m c hholds hout hheld
    · exact balanced_pass_free h hn m c hholds (hm.free hholds hgap)

/-- A new sorter has counted nothing. -/
theorem OrderInv.fresh (sender1 sender2 : Endpoint) :
    OrderInv (MessageSorter.fresh sender1 sender2) 0 := by
  refine ⟨HeldInv.fresh sender1 sender2, fun c => ⟨⟨∅, fun port hport => ?_, le_rfl⟩, le_rfl⟩⟩
  -- both numbers of a stream are `0`
  have hzero : ¬ (0 : Sequence) - 0 < 0 := by decide
  exact absurd hport.2 hzero

/-- By induction, the invariant holds behind each run without a disorder. -/
theorem OrderInv.run {s : MessageSorter} {n : ℕ} (h : OrderInv s n) (ms : List DataMsg)
    (hn : n + ms.length < 2 ^ 64) (hC : AllSteps sorterStep NoDisorder s ms) :
    OrderInv (run sorterStep s ms) (n + ms.length) := by
  induction ms generalizing s n with
  | nil => exact h
  | cons m ms ih =>
      have hlen : n + 1 + ms.length = n + (m :: ms).length := by
        rw [List.length_cons]
        omega
      have hstep := h.step (by rw [List.length_cons] at hn; omega) hC.1
      have hrun := ih hstep (by rw [hlen]; exact hn) hC.2
      rw [hlen] at hrun
      exact hrun

/-- In a run of fewer than `2^64` messages that are delivered in no worse an order than
they arrived in, no sender ever has more errors in the output than in the input. -/
theorem seqerr_ordered_run (sender1 sender2 : Endpoint) (ms : List DataMsg)
    (hlen : ms.length < 2 ^ 64)
    (hC : AllSteps sorterStep NoDisorder (MessageSorter.fresh sender1 sender2) ms) (n : ℕ)
    (c : StageDeviceId) :
    let st := (run sorterStep (MessageSorter.fresh sender1 sender2) (ms.take n)).getStat c
    st.seqerrOut ≤ st.seqerrIn := by
  intro st
  have htake : 0 + (ms.take n).length < 2 ^ 64 := by
    have hle : (ms.take n).length ≤ ms.length := List.length_take_le' n ms
    omega
  obtain ⟨⟨behind, -, hcard⟩, -⟩ :=
    ((OrderInv.fresh sender1 sender2).run (ms.take n) htake (allSteps_take hC n)).balanced c
  rw [UInt64.le_iff_toNat_le]
  exact (Nat.le_add_right _ _).trans hcard

end Libov
