/-
# Adding an offset to the numbers of one stream

`process` takes differences modulo `2^16`, which an offset common to all numbers of
a stream leaves alone.  Every operation of the sorter commutes with such an offset,
with one exception: whether the held message belongs in front of the new one is
decided by comparing their two numbers directly.

* `process_shift` : `process` commutes with the offset where that comparison is not
  reached, or comes out the same;
* `process_shift_iff` : and nowhere else.
-/
import Libov.SerialNumbers
import Libov.SorterSteps

open SerialNumbers

namespace Libov

/-! ## Offsets -/

/-- Add `d` to the number of a message of stream `k`. -/
def MsgBuf.shift (k : Stream) (d : Sequence) (m : MsgBuf) : MsgBuf :=
  { m with seq := if m.stream = k then m.seq + d else m.seq }

/-- Add `d` to the number recorded for stream `k`. -/
def SenderMap.shift (k : Stream) (d : Sequence) (seq : SenderMap) : SenderMap :=
  Function.update seq k.1 ((seq k.1).set k.2 (seq.last k + d))

/-- Add `d` to all numbers of stream `k`. -/
def MessageSorter.shift (k : Stream) (d : Sequence) (s : MessageSorter) : MessageSorter :=
  { s with
    seqIn := s.seqIn.shift k d
    seqOut := s.seqOut.shift k d
    buf1 := s.buf1.shift k d
    buf2 := s.buf2.shift k d }

def SendSrv.shift (k : Stream) (d : Sequence) (s : SendSrv) : SendSrv :=
  { s with sorter := s.sorter.shift k d, msg := s.msg.shift k d }

section Offset

variable (k : Stream) (d : Sequence)

/-- Of the recorded numbers that of the stream is shifted. -/
theorem SenderMap.shift_apply (seq : SenderMap) (k' : Stream) :
    seq.shift k d k'.1 k'.2 = if k' = k then some (seq.last k + d) else seq k'.1 k'.2 := by
  have h := seq.record_apply
    { MsgBuf.init Endpoint.cleared with cid := k.1, destport := k.2, seq := seq.last k + d } k'
  exact h

/-- The last number of the stream is shifted, and no other one. -/
theorem SenderMap.last_shift (seq : SenderMap) (k' : Stream) :
    (seq.shift k d).last k' = if k' = k then seq.last k + d else seq.last k' := by
  unfold SenderMap.last SequenceMap.at
  rw [SenderMap.shift_apply]
  by_cases hk : k' = k
  · rw [if_pos hk, if_pos hk, Option.getD_some]
    rfl
  · rw [if_neg hk, if_neg hk]

/-- Where the stream is known, it is recorded whether or not there is an offset. -/
theorem SenderMap.isSome_shift {seq : SenderMap} (h : seq.Known k) (k' : Stream) :
    (seq.shift k d k'.1 k'.2).isSome = (seq k'.1 k'.2).isSome := by
  rw [SenderMap.shift_apply]
  by_cases hk : k' = k
  · rw [if_pos hk, hk]
    exact h.symm
  · rw [if_neg hk]

/-- Differences do not see the offset. -/
theorem deltaseqConst_shift (seq : SenderMap) (m : MsgBuf) :
    deltaseqConst (seq.shift k d) (m.shift k d) = deltaseqConst seq m := by
  rw [deltaseqConst_eq, deltaseqConst_eq]
  show (if m.stream = k then m.seq + d else m.seq) - (seq.shift k d).last m.stream = _
  rw [SenderMap.last_shift]
  by_cases hk : m.stream = k
  · rw [if_pos hk, if_pos hk, hk]
    exact add_sub_add_right m.seq d (seq.last k)
  · rw [if_neg hk, if_neg hk]

/-- Shifted numbers are recorded as the shifted record. -/
theorem record_shift (seq : SenderMap) (m : MsgBuf) :
    (seq.shift k d).record (m.shift k d) = (seq.record m).shift k d := by
  funext cid port
  have hrecord := (seq.shift k d).record_apply (m.shift k d) (cid, port)
  have hshift := (seq.record m).shift_apply k d (cid, port)
  refine hrecord.trans (Eq.trans ?_ hshift.symm)
  show (if (cid, port) = m.stream then some (m.shift k d).seq else seq.shift k d cid port) = _
  rw [seq.shift_apply k d (cid, port), SenderMap.last_record,
    seq.record_apply m (cid, port)]
  show (if (cid, port) = m.stream then some (if m.stream = k then m.seq + d else m.seq) else _) = _
  by_cases hm : (cid, port) = m.stream
  · rw [if_pos hm, hm]
    by_cases hk : m.stream = k
    · rw [if_pos hk, if_pos hk, if_pos hk.symm]
    · rw [if_neg hk, if_neg hk, if_pos rfl]
  · rw [if_neg hm, if_neg hm]
    by_cases hk : (cid, port) = k
    · rw [if_pos hk, if_pos hk, if_neg (hk ▸ hm)]
    · rw [if_neg hk, if_neg hk]

/-! ## The operations of the sorter -/

variable {k} {s : MessageSorter} (m : MsgBuf)

/-- A message of a known stream arrives alike. -/
theorem arrive_shift (h : s.seqIn.Known k) :
    (s.shift k d).arrive (m.shift k d) = (s.arrive m).shift k d := by
  have hcount : (s.shift k d).countReceived (m.shift k d) = (s.countReceived m).shift k d := by
    have hdiff : deltaseqConst (s.shift k d).seqIn (m.shift k d) = deltaseqConst s.seqIn m :=
      deltaseqConst_shift k d s.seqIn m
    have hsome : ((s.shift k d).seqIn (m.shift k d).cid (m.shift k d).destport).isSome
        = (s.seqIn m.cid m.destport).isSome := SenderMap.isSome_shift k d h m.stream
    unfold MessageSorter.countReceived
    rw [hdiff, hsome]
    rfl
  unfold MessageSorter.arrive
  rw [hcount]
  show { (s.countReceived m).shift k d with
    seqIn := (s.seqIn.shift k d).record (m.shift k d) } = _
  rw [record_shift]
  rfl

/-- Its error is counted alike as well. -/
theorem accept_shift (h : s.seqIn.Known k) :
    (s.shift k d).accept (m.shift k d) = (s.accept m).shift k d := by
  have hdiff : deltaseqConst (s.shift k d).seqIn (m.shift k d) = deltaseqConst s.seqIn m :=
    deltaseqConst_shift k d s.seqIn m
  unfold MessageSorter.accept
  rw [arrive_shift d m h, hdiff]
  rfl

/-- So is a delivery. -/
theorem recordOut_shift (s : MessageSorter) :
    (s.shift k d).recordOut (m.shift k d) = (s.recordOut m).shift k d := by
  have hdiff : deltaseqConst (s.shift k d).seqOut (m.shift k d) = deltaseqConst s.seqOut m :=
    deltaseqConst_shift k d s.seqOut m
  have hrecord : (s.shift k d).seqOut.record (m.shift k d) = (s.seqOut.record m).shift k d :=
    record_shift k d s.seqOut m
  unfold MessageSorter.recordOut
  rw [hdiff, hrecord]
  rfl

/-- A message that is held back is held with its shifted number. -/
theorem hold_shift (h : s.seqIn.Known k) :
    (s.shift k d).hold (m.shift k d) = (s.hold m).shift k d := by
  unfold MessageSorter.hold
  rw [arrive_shift d m h]
  rfl

/-- Being a gap does not depend on the offset. -/
theorem gap_shift_iff (s : MessageSorter) : (s.shift k d).Gap (m.shift k d) ↔ s.Gap m := by
  have hin : deltaseqConst (s.shift k d).seqIn (m.shift k d) = deltaseqConst s.seqIn m :=
    deltaseqConst_shift k d s.seqIn m
  have hout : deltaseqConst (s.shift k d).seqOut (m.shift k d) = deltaseqConst s.seqOut m :=
    deltaseqConst_shift k d s.seqOut m
  unfold MessageSorter.Gap
  rw [hin, hout]

end Offset

/-! ## The comparison -/

/-- The new message is compared with the held one, which is of its stream. -/
def MessageSorter.Compared (s : MessageSorter) (m : MsgBuf) : Prop :=
  s.Far m ∧ s.Holds m.stream

/-- Which message is compared with a held one does not depend on the numbers. -/
theorem compared_shift_iff (k : Stream) (d : Sequence) (s : MessageSorter) (m : MsgBuf) :
    (s.shift k d).Compared (m.shift k d) ↔ s.Compared m := by
  have hin : deltaseqConst (s.shift k d).seqIn (m.shift k d) = deltaseqConst s.seqIn m :=
    deltaseqConst_shift k d s.seqIn m
  have hout : deltaseqConst (s.shift k d).seqOut (m.shift k d) = deltaseqConst s.seqOut m :=
    deltaseqConst_shift k d s.seqOut m
  unfold MessageSorter.Compared MessageSorter.Far
  rw [hin, hout]
  rfl

/-! ## One call of `process` -/

section Process

variable {s : SendSrv}

/-- The target of the loop is shifted with the loop. -/
theorem target_shift (k : Stream) (d : Sequence) (s : SendSrv) :
    (s.shift k d).target = s.target.shift k d := by
  obtain ⟨sorter, msg, pmsg⟩ := s
  cases pmsg with
  | msg => rfl
  | buf1 => rfl
  | buf2 => rfl

/-- An invalidated target is shifted alike. -/
theorem invalidate_shift (k : Stream) (d : Sequence) (s : SendSrv) :
    (s.shift k d).invalidate = s.invalidate.shift k d := by
  obtain ⟨sorter, msg, pmsg⟩ := s
  cases pmsg with
  | msg => rfl
  | buf1 => rfl
  | buf2 => rfl

theorem valid_target_shift (k : Stream) (d : Sequence) (s : SendSrv) :
    (s.shift k d).target.valid = s.target.valid := by
  rw [target_shift]
  rfl

theorem destport_target_shift (k : Stream) (d : Sequence) (s : SendSrv) :
    (s.shift k d).target.destport = s.target.destport := by
  rw [target_shift]
  rfl

/-- A gap is a matter of differences, which a shift leaves alone. -/
theorem gap_target_shift_iff (k : Stream) (d : Sequence) (s : SendSrv) :
    (s.shift k d).sorter.Gap (s.shift k d).target ↔ s.sorter.Gap s.target := by
  rw [target_shift]
  exact gap_shift_iff d s.target s.sorter

/-- With nothing at the pointer the buffers are delivered whatever their numbers. -/
theorem process_shift_held (k : Stream) (d : Sequence) (hinvalid : s.target.valid = false) :
    process (s.shift k d) = ((process s).1, (process s).2.shift k d) := by
  have hinvalid' : (s.shift k d).target.valid = false := by
    rw [valid_target_shift]
    exact hinvalid
  cases h1 : s.sorter.buf1.valid with
  | true =>
      have hrecord := recordOut_shift (k := k) d s.sorter.buf1
        { s.sorter with buf1 := s.sorter.buf1.invalidate }
      rw [process_held1 hinvalid h1, process_held1 (s := s.shift k d) hinvalid' h1]
      exact congrArg (fun t : MessageSorter =>
        (true, (⟨t, (s.shift k d).msg, .buf1⟩ : SendSrv))) hrecord
  | false =>
      cases h2 : s.sorter.buf2.valid with
      | true =>
          have hrecord := recordOut_shift (k := k) d s.sorter.buf2
            { s.sorter with buf2 := s.sorter.buf2.invalidate }
          rw [process_held2 hinvalid h1 h2, process_held2 (s := s.shift k d) hinvalid' h1 h2]
          exact congrArg (fun t : MessageSorter =>
            (true, (⟨t, (s.shift k d).msg, .buf2⟩ : SendSrv))) hrecord
      | false => rw [process_idle hinvalid h1 h2, process_idle (s := s.shift k d) hinvalid' h1 h2]

section Branches

variable {k : Stream} (d : Sequence) (hknown : s.sorter.seqIn.Known k)
  (hvalid : s.target.valid = true) (hspecial : ¬ s.target.destport ≤ maxSpecialPort)

include hknown hvalid hspecial

/-- Holding a message back commutes with the offset. -/
theorem process_shift_gap (hgap : s.sorter.Gap s.target) :
    process (s.shift k d) = ((process s).1, (process s).2.shift k d) := by
  have hvalid' := (valid_target_shift k d s).trans hvalid
  have hspecial' := (destport_target_shift k d s).symm ▸ hspecial
  have hgap' := (gap_target_shift_iff k d s).mpr hgap
  rw [process_gap hvalid hspecial hgap, process_gap hvalid' hspecial' hgap', target_shift,
    ← invalidate_shift]
  have hhold := hold_shift d s.target hknown
  exact congrArg (fun t : MessageSorter =>
    (false, { s.shift k d with sorter := t }.invalidate)) hhold

variable (hgap : ¬ s.sorter.Gap s.target)

include hgap

/-- A swap commutes with the offset if there is one with the offset as well. -/
theorem process_shift_swap (hsw : s.sorter.Swap s.target)
    (hsw' : (s.sorter.shift k d).Swap (s.target.shift k d)) :
    process (s.shift k d) = ((process s).1, (process s).2.shift k d) := by
  have hvalid' := (valid_target_shift k d s).trans hvalid
  have hspecial' := (destport_target_shift k d s).symm ▸ hspecial
  have hgap' := mt (gap_target_shift_iff k d s).mp hgap
  have hswap' : (s.shift k d).sorter.Swap (s.shift k d).target := by
    rw [target_shift]
    exact hsw'
  have haccept := accept_shift d s.target hknown
  have hrecord := recordOut_shift (k := k) d s.sorter.buf1 { s.sorter.accept s.target with
    buf2 := s.sorter.buf2.copy s.target, buf1 := s.sorter.buf1.invalidate }
  rw [process_swap hvalid hspecial hgap hsw, process_swap hvalid' hspecial' hgap' hswap',
    target_shift]
  -- receive buffer and pointer are as before, so only the sorters are compared
  refine congrArg (fun t : MessageSorter => (true, (⟨t, (s.shift k d).msg, .buf1⟩ : SendSrv)))
    (Eq.trans ?_ hrecord)
  show MessageSorter.recordOut { (s.sorter.shift k d).accept (s.target.shift k d) with
    buf2 := _, buf1 := _ } (s.sorter.buf1.shift k d) = _
  rw [haccept]
  rfl

/-- A delivery without a swap commutes with the offset if there is no swap with the
offset either. -/
theorem process_shift_direct (hsw : ¬ s.sorter.Swap s.target)
    (hsw' : ¬ (s.sorter.shift k d).Swap (s.target.shift k d)) :
    process (s.shift k d) = ((process s).1, (process s).2.shift k d) := by
  have hvalid' := (valid_target_shift k d s).trans hvalid
  have hspecial' := (destport_target_shift k d s).symm ▸ hspecial
  have hgap' := mt (gap_target_shift_iff k d s).mp hgap
  have hswap' : ¬ (s.shift k d).sorter.Swap (s.shift k d).target := by
    rw [target_shift]
    exact hsw'
  -- the message is recorded in the sorter that has accepted it
  have hrecord := recordOut_shift (k := k) d s.target (s.sorter.accept s.target)
  rw [← accept_shift d s.target hknown] at hrecord
  rw [process_direct hvalid hspecial hgap hsw, process_direct hvalid' hspecial' hgap' hswap',
    target_shift, ← invalidate_shift]
  exact congrArg (fun t : MessageSorter =>
    (true, { s.shift k d with sorter := t }.invalidate)) hrecord

end Branches

/-- `process` commutes with the offset where the new message swaps with the held one
with the offset exactly when it does without. -/
theorem process_shift {k : Stream} (d : Sequence) (hknown : s.sorter.seqIn.Known k)
    (hswap : s.target.valid = true → ¬ s.target.destport ≤ maxSpecialPort →
      ¬ s.sorter.Gap s.target →
      ((s.sorter.shift k d).Swap (s.target.shift k d) ↔ s.sorter.Swap s.target)) :
    process (s.shift k d) = ((process s).1, (process s).2.shift k d) := by
  by_cases hvalid : s.target.valid = true
  · by_cases hspecial : s.target.destport ≤ maxSpecialPort
    · have hvalid' := (valid_target_shift k d s).trans hvalid
      have hspecial' := (destport_target_shift k d s).symm ▸ hspecial
      rw [process_special hvalid hspecial, process_special hvalid' hspecial', invalidate_shift]
    · by_cases hgap : s.sorter.Gap s.target
      · exact process_shift_gap d hknown hvalid hspecial hgap
      · have hsame := hswap hvalid hspecial hgap
        by_cases hsw : s.sorter.Swap s.target
        · exact process_shift_swap d hknown hvalid hspecial hgap hsw (hsame.mpr hsw)
        · exact process_shift_direct d hknown hvalid hspecial hgap hsw (mt hsame.mp hsw)
  · exact process_shift_held k d (Bool.eq_false_iff.mpr hvalid)

end Process

/-! ## Where the offset shows -/

/-- The call compares the number at the pointer with the number of the held message. -/
def SendSrv.Compares (s : SendSrv) : Prop :=
  s.target.valid = true ∧ ¬ s.target.destport ≤ maxSpecialPort ∧ ¬ s.sorter.Gap s.target ∧
    s.sorter.Compared s.target

/-- With the offset the two numbers themselves are compared with the offset. -/
theorem swap_shift_iff {k : Stream} (d : Sequence) {s : MessageSorter} {m : MsgBuf}
    (hk : m.stream = k) :
    (s.shift k d).Swap (m.shift k d) ↔ s.Compared m ∧ s.buf1.seq + d < m.seq + d := by
  have hcompare := compared_shift_iff k d s m
  -- all but the comparison of the numbers is without the offset
  refine (swap_iff _ _).trans ((and_congr_left' hcompare).trans ?_)
  refine and_congr_right fun hcompared => ?_
  have hheld : s.buf1.stream = k := hcompared.2.2.trans hk
  show (if s.buf1.stream = k then s.buf1.seq + d else s.buf1.seq)
    < (if m.stream = k then m.seq + d else m.seq) ↔ _
  rw [if_pos hheld, if_pos hk]

/-- A message that is delivered itself leaves the first buffer alone, unless it is the
one in there. -/
theorem buf1_process_direct {s : SendSrv} (hvalid : s.target.valid = true)
    (hspecial : ¬ s.target.destport ≤ maxSpecialPort) (hgap : ¬ s.sorter.Gap s.target)
    (hswap : ¬ s.sorter.Swap s.target) (hptr : s.pmsg ≠ .buf1) :
    (process s).2.sorter.buf1 = s.sorter.buf1 := by
  rw [process_direct hvalid hspecial hgap hswap]
  obtain ⟨sorter, msg, pmsg⟩ := s
  cases pmsg with
  | msg => rfl
  | buf1 => exact absurd rfl hptr
  | buf2 => rfl

/-- A swap leaves the first buffer invalid. -/
theorem buf1_process_swap {s : SendSrv} (hvalid : s.target.valid = true)
    (hspecial : ¬ s.target.destport ≤ maxSpecialPort) (hgap : ¬ s.sorter.Gap s.target)
    (hswap : s.sorter.Swap s.target) : (process s).2.sorter.buf1.valid = false := by
  rw [process_swap hvalid hspecial hgap hswap]
  rfl

/-- For a message of a known stream the decision of `process` does not depend on an
offset of the stream exactly where its number is not compared with the held one, or
the offset keeps the order of the two numbers. -/
theorem process_shift_iff (s : SendSrv) (k : Stream) (d : Sequence)
    (hknown : s.sorter.seqIn.Known k) (hk : s.target.stream = k) :
    process (s.shift k d) = ((process s).1, (process s).2.shift k d) ↔
      (s.Compares → (s.sorter.buf1.seq < s.target.seq ↔
        s.sorter.buf1.seq + d < s.target.seq + d)) := by
  constructor
  · rintro hshift ⟨hvalid, hspecial, hgap, hcompared⟩
    have hvalid' := (valid_target_shift k d s).trans hvalid
    have hspecial' := (destport_target_shift k d s).symm ▸ hspecial
    have hgap' := mt (gap_target_shift_iff k d s).mp hgap
    have hswap' : (s.shift k d).sorter.Swap (s.shift k d).target ↔
        s.sorter.buf1.seq + d < s.target.seq + d := by
      rw [target_shift]
      exact (swap_shift_iff d hk).trans (and_iff_right hcompared)
    have hswap : s.sorter.Swap s.target ↔ s.sorter.buf1.seq < s.target.seq :=
      (swap_iff s.sorter s.target).trans (and_iff_right hcompared)
    by_cases hptr : s.pmsg = .buf1
    · -- the held message itself is at the pointer
      have hself : s.target = s.sorter.buf1 := by
        unfold SendSrv.target
        rw [hptr]
      rw [hself]
      exact iff_of_false Int16.lt_irrefl Int16.lt_irrefl
    · -- the first buffer tells whether there was a swap
      have hbuf1 : (process (s.shift k d)).2.sorter.buf1.valid
          = (process s).2.sorter.buf1.valid := by
        rw [hshift]
        rfl
      rw [← hswap, ← hswap']
      constructor
      · intro hsw
        by_contra hno
        rw [buf1_process_swap hvalid hspecial hgap hsw,
          buf1_process_direct hvalid' hspecial' hgap' hno hptr] at hbuf1
        exact Bool.false_ne_true (hbuf1.symm.trans hcompared.2.1)
      · intro hsw
        by_contra hno
        rw [buf1_process_swap hvalid' hspecial' hgap' hsw,
          buf1_process_direct hvalid hspecial hgap hno hptr] at hbuf1
        exact Bool.false_ne_true (hbuf1.trans hcompared.2.1)
  · intro hsame
    refine process_shift d hknown fun hvalid hspecial hgap => ?_
    rw [swap_shift_iff d hk, swap_iff]
    exact and_congr_right fun hcompared =>
      (hsame ⟨hvalid, hspecial, hgap, hcompared⟩).symm

/-- Stream `(1, 1234)` with the last numbers `30000`, the number `30002` held back,
and `30003` to process. -/
def heldBelowWrap : SendSrv :=
  { sorter :=
      { MessageSorter.fresh Endpoint.cleared Endpoint.cleared with
        seqIn := fun cid port => if cid = 1 ∧ port = 1234 then some 30002 else none
        seqOut := fun cid port => if cid = 1 ∧ port = 1234 then some 30000 else none
        buf1 := (emptyMsg 1 1234 30002 dataPort).toMsgBuf }
    msg := (emptyMsg 1 1234 30003 dataPort).toMsgBuf
    pmsg := .msg }

theorem heldBelowWrap_small_offset :
    process (heldBelowWrap.shift (1, 1234) 2000)
      = ((process heldBelowWrap).1, (process heldBelowWrap).2.shift (1, 1234) 2000) :=
  (process_shift_iff heldBelowWrap (1, 1234) 2000 rfl rfl).mpr fun _ => by decide

/-- Moved so that the wrap falls between the held number and the new one, the new
message overtakes the held one. -/
theorem heldBelowWrap_across_wrap :
    ¬ process (heldBelowWrap.shift (1, 1234) 2765)
      = ((process heldBelowWrap).1, (process heldBelowWrap).2.shift (1, 1234) 2765) := by
  intro hshift
  have hvalid : (process (heldBelowWrap.shift (1, 1234) 2765)).2.sorter.buf1.valid
      = (process heldBelowWrap).2.sorter.buf1.valid := by
    rw [hshift]
    rfl
  exact absurd hvalid (by decide)

end Libov
