/-
# The balance of steps backwards

What a message adds to `seqerr_in` and to `seqerr_out` of its sender, whatever order the messages
come in.  The output falls behind the input where a message goes out in front of a held one that
it should follow, and where it follows a held one that a late message has let out; what the sender
has recovered by then makes up for it.

* `seqerrIn_sorterStep`, `seqerrOut_sorterStep` : the errors that a message adds;
* `shortfall_eq` : the errors of the output that those of the input do not cover;
* `seqerr_ordered_iff` : `seqerr_out ≤ seqerr_in` throughout a run exactly when what has been
  recovered covers every shortfall;
* `covered_of_noDisorder` : messages that are delivered in no worse an order have none to cover.
-/
import Libov.SorterOrder

open Runs

namespace Libov

namespace MessageSorter

/-! ## The errors of a message -/

section Errors

variable (s : MessageSorter) (m : MsgBuf)

/-- What a message adds to the errors of the output, with the message of its stream that is
held. -/
def outErrors : UInt64 :=
  if s.Gap m then 0
  else if s.Swap m then backward (m.seq - s.buf1.seq)
  else backward (deltaseqConst s.seqOut m)
    + if s.Holds m.stream then backward (s.buf1.seq - m.seq) else 0

/-- The errors that a message adds to the output beyond those of the input: it is ahead of the
held message of its stream and goes out in front of it nevertheless, or it is behind what was
delivered but not behind the message received before it. -/
def shortfall : ℕ :=
  if s.Gap m ∨ s.Swap m then 0
  else if s.Holds m.stream then
    if 0 < m.seq - s.buf1.seq then
      if deltaseqConst s.seqOut m < 0 then 2 else 1
    else if m.seq - s.buf1.seq = Int16.minValue ∧ deltaseqConst s.seqOut m < 0 then 1
    else 0
  else if deltaseqConst s.seqOut m < 0 ∧ 0 ≤ deltaseqConst s.seqIn m then 1
  else 0

end Errors

end MessageSorter

/-- The messages of a sender that were put into order again. -/
def MessageStat.recovered (st : MessageStat) : ℕ := st.seqerrIn.toNat - st.seqerrOut.toNat

/-- The sender of the message has recovered as many messages as this one falls short. -/
def Covered (s : MessageSorter) (m : DataMsg) : Prop :=
  s.shortfall m.toMsgBuf ≤ (s.getStat m.toMsgBuf.cid).recovered

/-- A message adds to the errors of its sender in front of the sorter if its number lies behind
the last one, whether it is held back or delivered. -/
theorem seqerrIn_sorterStep {s : MessageSorter} (m : DataMsg) (hbuf2 : s.buf2.valid = false)
    (c : StageDeviceId) : ((sorterStep s m).getStat c).seqerrIn
      = (s.getStat c).seqerrIn
        + if c = m.toMsgBuf.cid then backward (deltaseqConst s.seqIn m.toMsgBuf) else 0 := by
  rcases sorterStep_cases s m hbuf2 with ⟨hgap, hs⟩ | ⟨-, -, hs⟩ | ⟨-, -, hs⟩
  · rw [hs, MessageSorter.seqerrIn_hold, backward_eq_zero_of_gap hgap.1, ite_self, UInt64.add_zero]
  · rw [hs, MessageSorter.seqerrIn_swap]
  · rw [hs, MessageSorter.seqerrIn_pass]

section Step

variable {s : MessageSorter} (h : HeldInv s) (m : DataMsg) (c : StageDeviceId)

include h

/-- And to those behind the sorter what it, and the held message of its stream, do there. -/
theorem seqerrOut_sorterStep : ((sorterStep s m).getStat c).seqerrOut
    = (s.getStat c).seqerrOut + if c = m.toMsgBuf.cid then s.outErrors m.toMsgBuf else 0 := by
  unfold MessageSorter.outErrors
  rcases sorterStep_cases s m h.free2 with ⟨hgap, hs⟩ | ⟨hgap, hswap, hs⟩ | ⟨hgap, hswap, hs⟩
  · rw [hs, MessageSorter.seqerrOut_hold, if_pos hgap, ite_self, UInt64.add_zero]
  · have hholds := holds_of_swap hswap
    rw [hs, MessageSorter.seqerrOut_swap, if_neg hgap, if_pos hswap, h.outErr_buf1 c hholds.1,
      h.outErr_swapped m c hholds, h.dseqIn_of_holds m hholds, UInt64.add_zero]
  · have hreleased : (if s.buf1.valid = true then (s.seqOut.record m.toMsgBuf).outErr s.buf1 c
        else 0) = if c = m.toMsgBuf.cid then
          if s.Holds m.toMsgBuf.stream then backward (s.buf1.seq - m.toMsgBuf.seq) else 0
        else 0 := by
      by_cases hholds : s.Holds m.toMsgBuf.stream
      · have hcid : s.buf1.cid = m.toMsgBuf.cid := congrArg Prod.fst hholds.2
        rw [if_pos hholds.1, if_pos hholds]
        unfold SenderMap.outErr
        rw [hcid, deltaseqConst_eq, hholds.2, SenderMap.last_record_self]
      · rw [if_neg hholds, ite_self]
        split_ifs with hvalid
        · exact h.outErr_released m c hvalid hholds
        · rfl
    rw [hs, MessageSorter.seqerrOut_pass, if_neg hgap, if_neg hswap, hreleased]
    unfold SenderMap.outErr
    split_ifs
    · rw [UInt64.add_assoc]
    · rw [UInt64.add_assoc]
    · rw [UInt64.add_zero]

end Step

/-! ## What the input does not cover -/

/-- Two messages count at most two errors, as a number. -/
theorem toNat_backward_add (d e : Sequence) :
    (backward d + backward e).toNat = (if d < 0 then 1 else 0) + if e < 0 then 1 else 0 := by
  rw [UInt64.toNat_add, toNat_backward, toNat_backward]
  split_ifs
  · rfl
  · rfl
  · rfl
  · rfl

/-- The opposite of a difference. -/
theorem toInt_neg_eq (d : Sequence) :
    (-d).toInt = if d = Int16.minValue then -32768 else -d.toInt := by
  have hlt := d.toInt_lt
  have hle := d.le_toInt
  have hmin : d = Int16.minValue ↔ d.toInt = -32768 := by
    rw [← Int16.toInt_inj, Int16.toInt_minValue]
    norm_num
  rw [Int16.toInt_neg, Int.bmod_def]
  split_ifs with hmod heq heq
  · rw [hmin] at heq
    omega
  · rw [hmin] at heq
    omega
  · rw [hmin] at heq
    omega
  · rw [hmin] at heq
    omega

/-- The wrap-around aside, a difference is positive one way and negative the other. -/
theorem neg_lt_zero_of_pos {d : Sequence} (h : 0 < d) : -d < 0 := by
  rw [Int16.lt_iff_toInt_lt, Int16.toInt_zero] at h ⊢
  rw [toInt_neg_eq]
  split_ifs
  · omega
  · omega

/-- Only half the range away two numbers are behind each other. -/
theorem neg_lt_zero_iff_of_neg {d : Sequence} (h : d < 0) : -d < 0 ↔ d = Int16.minValue := by
  rw [Int16.lt_iff_toInt_lt, Int16.toInt_zero] at h ⊢
  rw [toInt_neg_eq]
  split_ifs with hmin
  · exact iff_of_true (by omega) hmin
  · exact iff_of_false (by omega) hmin

section Shortfall

variable {s : MessageSorter} (h : HeldInv s) (m : DataMsg)

include h

/-- A message with the number of the held one is ahead of what was delivered. -/
theorem dseqOut_of_same (hholds : s.Holds m.toMsgBuf.stream)
    (hsame : m.toMsgBuf.seq - s.buf1.seq = 0) : ¬ deltaseqConst s.seqOut m.toMsgBuf < 0 := by
  have hseq : m.toMsgBuf.seq = s.buf1.seq := by
    rw [← Int16.sub_add_cancel m.toMsgBuf.seq s.buf1.seq, hsame, Int16.zero_add]
  rw [deltaseqConst_eq, hseq, ← hholds.2, Int16.not_lt]
  exact Int16.le_of_lt (Int16.lt_trans (by decide) (h.gapOut hholds.1))

/-- The shortfall of a message that goes out in front of the held one of its stream. -/
theorem shortfall_of_holds (hgap : ¬ s.Gap m.toMsgBuf) (hswap : ¬ s.Swap m.toMsgBuf)
    (hholds : s.Holds m.toMsgBuf.stream) :
    s.shortfall m.toMsgBuf = (s.outErrors m.toMsgBuf).toNat
      - (backward (deltaseqConst s.seqIn m.toMsgBuf)).toNat := by
  unfold MessageSorter.shortfall MessageSorter.outErrors
  rw [if_neg (not_or.mpr ⟨hgap, hswap⟩), if_neg hgap, if_neg hswap, if_pos hholds, if_pos hholds,
    toNat_backward_add, toNat_backward, h.dseqIn_of_holds m hholds,
    show s.buf1.seq - m.toMsgBuf.seq = -(m.toMsgBuf.seq - s.buf1.seq) from Int16.neg_sub.symm]
  by_cases hahead : 0 < m.toMsgBuf.seq - s.buf1.seq
  · rw [if_pos hahead, if_pos (neg_lt_zero_of_pos hahead), if_neg (Int16.lt_asymm hahead)]
    split_ifs
    · rfl
    · rfl
  rw [if_neg hahead]
  by_cases hbehind : m.toMsgBuf.seq - s.buf1.seq < 0
  · -- the held message is counted only where the two are half the range away from each other
    rw [if_pos hbehind]
    by_cases hhalf : m.toMsgBuf.seq - s.buf1.seq = Int16.minValue
    · rw [if_pos ((neg_lt_zero_iff_of_neg hbehind).mpr hhalf)]
      simp only [hhalf, true_and]
      split_ifs
      · rfl
      · rfl
    · rw [if_neg (mt (neg_lt_zero_iff_of_neg hbehind).mp hhalf), if_neg fun hh => hhalf hh.1]
      split_ifs
      · rfl
      · rfl
  · -- the same number again
    have hsame : m.toMsgBuf.seq - s.buf1.seq = 0 :=
      Int16.le_antisymm (Int16.not_lt.mp hahead) (Int16.not_lt.mp hbehind)
    rw [hsame, if_neg (dseqOut_of_same h m hholds hsame)]
    rfl

omit h in
/-- The shortfall of a message of a stream that holds nothing back. -/
theorem shortfall_of_not_holds (hgap : ¬ s.Gap m.toMsgBuf) (hswap : ¬ s.Swap m.toMsgBuf)
    (hholds : ¬ s.Holds m.toMsgBuf.stream) :
    s.shortfall m.toMsgBuf = (s.outErrors m.toMsgBuf).toNat
      - (backward (deltaseqConst s.seqIn m.toMsgBuf)).toNat := by
  unfold MessageSorter.shortfall MessageSorter.outErrors
  rw [if_neg (not_or.mpr ⟨hgap, hswap⟩), if_neg hgap, if_neg hswap, if_neg hholds, if_neg hholds,
    UInt64.add_zero, toNat_backward, toNat_backward]
  by_cases hin : deltaseqConst s.seqIn m.toMsgBuf < 0
  · rw [if_pos hin, if_neg fun hh => Int16.not_lt.mpr hh.2 hin]
    split_ifs
    · rfl
    · rfl
  · rw [if_neg hin, Nat.sub_zero]
    simp only [Int16.not_lt.mp hin, and_true]

/-- The shortfall of a message is what its errors of the output exceed those of the input by. -/
theorem shortfall_eq :
    s.shortfall m.toMsgBuf = (s.outErrors m.toMsgBuf).toNat
      - (backward (deltaseqConst s.seqIn m.toMsgBuf)).toNat := by
  by_cases hgap : s.Gap m.toMsgBuf
  · unfold MessageSorter.shortfall MessageSorter.outErrors
    rw [if_pos (Or.inl hgap), if_pos hgap, UInt64.toNat_zero, Nat.zero_sub]
  by_cases hswap : s.Swap m.toMsgBuf
  · unfold MessageSorter.shortfall MessageSorter.outErrors
    rw [if_pos (Or.inr hswap), if_neg hgap, if_pos hswap,
      h.dseqIn_of_holds m (holds_of_swap hswap), Nat.sub_self]
  by_cases hholds : s.Holds m.toMsgBuf.stream
  · exact shortfall_of_holds h m hgap hswap hholds
  · exact shortfall_of_not_holds m hgap hswap hholds

end Shortfall

/-! ## Whole runs -/

/-- The counters behind `n` messages: no message comes in twice, none goes out twice. -/
structure ErrorsBounded (n : ℕ) (s : MessageSorter) : Prop extends HeldInv s where
  seqerrIn : ∀ c, (s.getStat c).seqerrIn.toNat ≤ n
  seqerrOut : ∀ c, (s.getStat c).seqerrOut.toNat + (if s.buf1.valid then 1 else 0) ≤ n

/-- A new sorter has counted nothing. -/
theorem errorsBounded_fresh (sender1 sender2 : Endpoint) :
    ErrorsBounded 0 (MessageSorter.fresh sender1 sender2) :=
  ⟨HeldInv.fresh sender1 sender2, fun _ => le_rfl, fun _ => le_rfl⟩

/-- One difference counts one error at most. -/
theorem toNat_backward_le (d : Sequence) : (backward d).toNat ≤ 1 := by
  rw [toNat_backward]
  split_ifs
  · exact le_rfl
  · exact Nat.zero_le 1

/-- A message in the first buffer is one that can still be counted. -/
theorem toNat_outErrors_le {s : MessageSorter} (h : HeldInv s) (m : DataMsg) :
    (s.outErrors m.toMsgBuf).toNat + (if (sorterStep s m).buf1.valid then 1 else 0)
      ≤ 1 + if s.buf1.valid then 1 else 0 := by
  unfold MessageSorter.outErrors
  rcases sorterStep_cases s m h.free2 with ⟨hgap, -⟩ | ⟨hgap, hswap, hs⟩ | ⟨hgap, hswap, hs⟩
  · rw [if_pos hgap, UInt64.toNat_zero, Nat.zero_add]
    split_ifs
    · omega
    · omega
    · omega
    · omega
  · have hfree : (sorterStep s m).buf1.valid = false := by
      rw [hs]
      rfl
    rw [if_neg hgap, if_pos hswap, hfree, if_neg Bool.false_ne_true, toNat_backward]
    split_ifs
    · omega
    · omega
    · omega
    · omega
  · have hfree : (sorterStep s m).buf1.valid = false := by
      rw [hs, MessageSorter.buf1_invalid_pass]
    rw [if_neg hgap, if_neg hswap, hfree, if_neg Bool.false_ne_true]
    by_cases hholds : s.Holds m.toMsgBuf.stream
    · rw [if_pos hholds, if_pos hholds.1, toNat_backward_add]
      split_ifs
      · omega
      · omega
      · omega
      · omega
    · rw [if_neg hholds, UInt64.add_zero, toNat_backward]
      split_ifs
      · omega
      · omega
      · omega
      · omega

/-- A counter of one sender that does not come to its end. -/
theorem toNat_add_ite {a e : UInt64} {p : Prop} [Decidable p] (hend : a.toNat + e.toNat < 2 ^ 64) :
    (a + if p then e else 0).toNat = a.toNat + if p then e.toNat else 0 := by
  split_ifs
  · rw [UInt64.toNat_add, Nat.mod_eq_of_lt hend]
  · rw [UInt64.add_zero, Nat.add_zero]

section Count

variable {n : ℕ} {s : MessageSorter} (h : ErrorsBounded n s) (hn : n < 2 ^ 64 - 1) (m : DataMsg)
  (c : StageDeviceId)

include h hn

/-- While the counters do not overflow, a message raises the errors on the way in by that of its
difference. -/
theorem toNat_seqerrIn_step : ((sorterStep s m).getStat c).seqerrIn.toNat
    = (s.getStat c).seqerrIn.toNat
      + if c = m.toMsgBuf.cid then (backward (deltaseqConst s.seqIn m.toMsgBuf)).toNat else 0 := by
  have hcount := h.seqerrIn c
  have hone := toNat_backward_le (deltaseqConst s.seqIn m.toMsgBuf)
  rw [seqerrIn_sorterStep m h.free2, toNat_add_ite (by omega)]

/-- In the same way it raises those of the delivery. -/
theorem toNat_seqerrOut_step : ((sorterStep s m).getStat c).seqerrOut.toNat
    = (s.getStat c).seqerrOut.toNat
      + if c = m.toMsgBuf.cid then (s.outErrors m.toMsgBuf).toNat else 0 := by
  have hcount := h.seqerrOut c
  have hone := toNat_outErrors_le h.toHeldInv m
  rw [seqerrOut_sorterStep h.toHeldInv, toNat_add_ite (by omega)]

/-- Each message counts one error more at most on either way. -/
theorem ErrorsBounded.step : ErrorsBounded (n + 1) (sorterStep s m) := by
  refine ⟨h.toHeldInv.step m, fun c => ?_, fun c => ?_⟩
  · have hcount := h.seqerrIn c
    have hone := toNat_backward_le (deltaseqConst s.seqIn m.toMsgBuf)
    rw [toNat_seqerrIn_step h hn]
    split_ifs
    · omega
    · omega
  · have hcount := h.seqerrOut c
    have hone := toNat_outErrors_le h.toHeldInv m
    rw [toNat_seqerrOut_step h hn]
    split_ifs at hcount hone ⊢
    all_goals omega

/-- Where the errors of the output are covered so far, they still are behind a message exactly if
its shortfall is. -/
theorem ordered_step_iff (hordered : ∀ c, (s.getStat c).seqerrOut ≤ (s.getStat c).seqerrIn) :
    (∀ c, ((sorterStep s m).getStat c).seqerrOut ≤ ((sorterStep s m).getStat c).seqerrIn)
      ↔ Covered s m := by
  have hown := UInt64.le_iff_toNat_le.mp (hordered m.toMsgBuf.cid)
  unfold Covered MessageStat.recovered
  rw [shortfall_eq h.toHeldInv]
  constructor
  · intro hnext
    have hcid := UInt64.le_iff_toNat_le.mp (hnext m.toMsgBuf.cid)
    rw [toNat_seqerrIn_step h hn, toNat_seqerrOut_step h hn, if_pos rfl, if_pos rfl] at hcid
    omega
  · intro hcovered c
    rw [UInt64.le_iff_toNat_le, toNat_seqerrIn_step h hn, toNat_seqerrOut_step h hn]
    by_cases hc : c = m.toMsgBuf.cid
    · rw [if_pos hc, if_pos hc, hc]
      omega
    · -- the errors are those of the sender of the message
      rw [if_neg hc, if_neg hc, Nat.add_zero, Nat.add_zero]
      exact UInt64.le_iff_toNat_le.mp (hordered c)

end Count

/-- The step lemma along a run from a new sorter. -/
theorem ordered_prefixes_iff (sender1 sender2 : Endpoint) {ms : List DataMsg}
    (hlen : ms.length < 2 ^ 64) :
    (∀ n c,
        ((run sorterStep (MessageSorter.fresh sender1 sender2) (ms.take n)).getStat c).seqerrOut ≤
          ((run sorterStep (MessageSorter.fresh sender1 sender2) (ms.take n)).getStat c).seqerrIn) ↔
      AllSteps sorterStep Covered (MessageSorter.fresh sender1 sender2) ms :=
  prefixes_iff_allSteps (I := ErrorsBounded) (C := Covered)
    (P := fun s => ∀ c, (s.getStat c).seqerrOut ≤ (s.getStat c).seqerrIn)
    (fun _ _ m hn h => h.step hn m) (fun _ _ m hn h => ordered_step_iff h hn m)
    (errorsBounded_fresh sender1 sender2) (fun _ => UInt64.le_refl 0)
    (by omega : 0 + ms.length ≤ 2 ^ 64 - 1)

/-- In a run of fewer than `2^64` messages no sender ever has more errors in the output than in
the input, so that the number of recovered messages is their true difference, exactly when every
message finds its shortfall covered by what its sender has recovered. -/
theorem seqerr_ordered_iff (sender1 sender2 : Endpoint) (ms : List DataMsg)
    (hlen : ms.length < 2 ^ 64) :
    (∀ n c,
        let st := (run sorterStep (MessageSorter.fresh sender1 sender2) (ms.take n)).getStat c
        st.seqerrOut ≤ st.seqerrIn ∧ (st.seqerrIn - st.seqerrOut).toNat = st.recovered) ↔
      AllSteps sorterStep Covered (MessageSorter.fresh sender1 sender2) ms := by
  rw [← ordered_prefixes_iff sender1 sender2 hlen]
  refine forall_congr' fun n => forall_congr' fun c => ?_
  exact and_iff_left_of_imp fun hle => UInt64.toNat_sub_of_le _ _ hle

instance (s : MessageSorter) (m : DataMsg) : Decidable (Covered s m) :=
  inferInstanceAs (Decidable (_ ≤ _))

/-- A first number held back, and the late message in front of it. -/
theorem seqerr_ordered_late :
    let st := (run sorterStep (MessageSorter.fresh Endpoint.cleared Endpoint.cleared)
      [emptyMsg 1 1234 2 (by decide), emptyMsg 1 1234 1 (by decide)]).getStat 1
    st.seqerrOut ≤ st.seqerrIn ∧ (st.seqerrIn - st.seqerrOut).toNat = st.recovered := by
  refine (seqerr_ordered_iff Endpoint.cleared Endpoint.cleared
    [emptyMsg 1 1234 2 (by decide), emptyMsg 1 1234 1 (by decide)] (by decide)).mpr
      ⟨by decide, ?_, trivial⟩ 2 1
  have hfeed := feed_eq_hold (s := MessageSorter.fresh Endpoint.cleared Endpoint.cleared)
    (emptyMsg 1 1234 2 (by decide)).valid (emptyMsg 1 1234 2 (by decide)).port (by decide)
  rw [show sorterStep _ (emptyMsg 1 1234 2 (by decide)) = _ from congrArg Prod.snd hfeed]
  decide

/-- The numbers `32767` and `-32768` on a new stream: the first is held back, the
second goes out in front of it, and both are counted as errors of the output though
they arrived in order. -/
theorem wrap_disorders :
    ¬ ((run sorterStep (MessageSorter.fresh Endpoint.cleared Endpoint.cleared)
        [emptyMsg 1 1234 32767 (by decide), emptyMsg 1 1234 (-32768) (by decide)]).getStat
          1).seqerrOut ≤
      ((run sorterStep (MessageSorter.fresh Endpoint.cleared Endpoint.cleared)
        [emptyMsg 1 1234 32767 (by decide), emptyMsg 1 1234 (-32768) (by decide)]).getStat
          1).seqerrIn := by
  let s := MessageSorter.fresh Endpoint.cleared Endpoint.cleared
  let first := emptyMsg 1 1234 32767 (by decide)
  let second := emptyMsg 1 1234 (-32768) (by decide)
  have hfirst : sorterStep s first = s.hold first.toMsgBuf :=
    congrArg Prod.snd (feed_eq_hold first.valid first.port (by decide))
  have hsecond : sorterStep (s.hold first.toMsgBuf) second
      = (s.hold first.toMsgBuf).pass second.toMsgBuf :=
    congrArg Prod.snd (feed_eq_pass second.valid second.port rfl (by decide) (by decide))
  have hrun : run sorterStep s [first, second] = (s.hold first.toMsgBuf).pass second.toMsgBuf := by
    rw [run_cons, run_cons, run_nil, hfirst, hsecond]
  show ¬ ((run sorterStep s [first, second]).getStat 1).seqerrOut
    ≤ ((run sorterStep s [first, second]).getStat 1).seqerrIn
  rw [hrun]
  decide

/-- Messages that are delivered in no worse an order than they arrived in have nothing to
cover, or what their stream has recovered. -/
theorem covered_of_noDisorder (sender1 sender2 : Endpoint) (ms : List DataMsg)
    (hlen : ms.length < 2 ^ 64)
    (hC : AllSteps sorterStep NoDisorder (MessageSorter.fresh sender1 sender2) ms) :
    AllSteps sorterStep Covered (MessageSorter.fresh sender1 sender2) ms := by
  rw [← ordered_prefixes_iff sender1 sender2 hlen]
  exact fun n c => seqerr_ordered_run sender1 sender2 ms hlen hC n c

end Libov
