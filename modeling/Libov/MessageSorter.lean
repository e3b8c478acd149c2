/-
# The message sorter (`message_sorter_t`) and its loop in `sendsrv`

The sorter holds a message back when numbers are missing in front of it and
delivers it behind a later message.  It has two buffers for that, shared by all
senders and ports.

* `MessageSorter`, `SendSrv`: the sorter, and the sorter together with the
  receive buffer `msg` and the pointer `pmsg` that `process` moves;
* `process`: one call, branch by branch;
* `drain`: the loop `while(sorter.process(&pmsg)) process_msg(*pmsg)`;
* `feed_gap`, `feed_swap`, `feed_direct`: what a data message makes the loop
  deliver, and which buffers it leaves valid.
-/
import Libov.UdpSocket

namespace Libov

/-! ## State -/

/-- `message_stat_t`; the counters are `size_t`. -/
structure MessageStat where
  received : UInt64
  lost : UInt64
  seqerrIn : UInt64
  seqerrOut : UInt64
  deriving DecidableEq

/-- The value that `operator[]` inserts. -/
def MessageStat.zero : MessageStat := ⟨0, 0, 0, 0⟩

/-- The last number per sender and port, `std::map<stage_device_id_t, sequence_map_t>`. -/
abbrev SenderMap := StageDeviceId → SequenceMap

/-- `deltaseq_const`: distance of a message from the last number of its stream. -/
def deltaseqConst (seq : SenderMap) (m : MsgBuf) : Sequence :=
  m.seq - (seq m.cid).at m.destport

/-- What `deltaseq` does besides: the number of the message becomes the last one. -/
def SenderMap.record (seq : SenderMap) (m : MsgBuf) : SenderMap :=
  Function.update seq m.cid ((seq m.cid).set m.destport m.seq)

/-- `message_sorter_t`. -/
structure MessageSorter where
  seqIn : SenderMap
  seqOut : SenderMap
  buf1 : MsgBuf
  buf2 : MsgBuf
  stat : StageDeviceId → MessageStat

/-- A sorter as constructed; the buffers' `sender` members are uninitialised. -/
def MessageSorter.fresh (sender1 sender2 : Endpoint) : MessageSorter :=
  { seqIn := fun _ _ => none
    seqOut := fun _ _ => none
    buf1 := MsgBuf.init sender1
    buf2 := MsgBuf.init sender2
    stat := fun _ => MessageStat.zero }

/-- The buffers that the pointer of the loop can point to. -/
inductive MsgPtr where
  | msg
  | buf1
  | buf2
  deriving DecidableEq

/-- The sorter, the receive buffer `msg` of `sendsrv` and its pointer `pmsg`. -/
structure SendSrv where
  sorter : MessageSorter
  msg : MsgBuf
  pmsg : MsgPtr

namespace SendSrv

/-- `*pmsg`. -/
def target (s : SendSrv) : MsgBuf :=
  match s.pmsg with
  | .msg => s.msg
  | .buf1 => s.sorter.buf1
  | .buf2 => s.sorter.buf2

/-- `pmsg->valid = false`. -/
def invalidate (s : SendSrv) : SendSrv :=
  match s.pmsg with
  | .msg => { s with msg := s.msg.invalidate }
  | .buf1 => { s with sorter := { s.sorter with buf1 := s.sorter.buf1.invalidate } }
  | .buf2 => { s with sorter := { s.sorter with buf2 := s.sorter.buf2.invalidate } }

@[simp] theorem valid_target_invalidate (s : SendSrv) : s.invalidate.target.valid = false := by
  unfold invalidate target
  cases s.pmsg <;> rfl

end SendSrv

/-! ## One call of `process` -/

/-- Change the counters of a sender. -/
def MessageSorter.count (s : MessageSorter) (cid : StageDeviceId)
    (f : MessageStat → MessageStat) : MessageSorter :=
  { s with stat := Function.update s.stat cid (f (s.stat cid)) }

/-- `++stat.received` and, behind a first message, `stat.lost += dseq_in - 1`. -/
def MessageSorter.countReceived (s : MessageSorter) (m : MsgBuf) : MessageSorter :=
  let notfirst := (s.seqIn m.cid m.destport).isSome
  let dseqIn := deltaseqConst s.seqIn m
  s.count m.cid fun st =>
    { st with
      received := st.received + 1
      lost := if dseqIn ≠ 0 ∧ notfirst then st.lost + UInt64.ofInt (dseqIn.toInt - 1) else st.lost }

/-- `deltaseq(seq_in, m)`: record the number of an arriving message. -/
def MessageSorter.recordIn (s : MessageSorter) (m : MsgBuf) : MessageSorter :=
  { s with seqIn := s.seqIn.record m }

/-- `deltaseq(seq_out, m)` and `stat.seqerr_out += (dseq_out < 0)`. -/
def MessageSorter.recordOut (s : MessageSorter) (m : MsgBuf) : MessageSorter :=
  let dseqOut := deltaseqConst s.seqOut m
  { s with seqOut := s.seqOut.record m }.count m.cid fun st =>
    { st with seqerrOut := st.seqerrOut + if dseqOut < 0 then 1 else 0 }

/-- `stat.seqerr_in += (dseq_in < 0)`. -/
def MessageSorter.countSeqerrIn (s : MessageSorter) (m : MsgBuf) (dseqIn : Sequence) :
    MessageSorter :=
  s.count m.cid fun st => { st with seqerrIn := st.seqerrIn + if dseqIn < 0 then 1 else 0 }

/-- Numbers are missing in front of the message, both in what arrived and in
what was delivered. -/
def MessageSorter.Gap (s : MessageSorter) (m : MsgBuf) : Prop :=
  1 < deltaseqConst s.seqIn m ∧ 1 < deltaseqConst s.seqOut m

instance (s : MessageSorter) (m : MsgBuf) : Decidable (s.Gap m) :=
  inferInstanceAs (Decidable (_ ∧ _))

/-- The held message belongs in front of this one. -/
def MessageSorter.Swap (s : MessageSorter) (m : MsgBuf) : Prop :=
  (deltaseqConst s.seqIn m < -1 ∨
      (1 < deltaseqConst s.seqOut m ∧ 0 < deltaseqConst s.seqIn m)) ∧
    (s.buf1.valid = true ∧ s.buf1.cid = m.cid ∧ s.buf1.destport = m.destport ∧
      s.buf1.seq < m.seq)

instance (s : MessageSorter) (m : MsgBuf) : Decidable (s.Swap m) :=
  inferInstanceAs (Decidable (_ ∧ _))

/-- `message_sorter_t::process`; the Boolean is its return value. -/
def process (s : SendSrv) : Bool × SendSrv :=
  let m := s.target
  if m.valid then
    -- control messages are neither counted nor sorted
    if m.destport ≤ maxSpecialPort then (true, s.invalidate)
    else
      let dseqIn := deltaseqConst s.sorter.seqIn m
      let counted := (s.sorter.countReceived m).recordIn m
      if s.sorter.Gap m then
        -- held back, whatever `buf1` holds
        (false, { s with sorter := { counted with buf1 := counted.buf1.copy m } }.invalidate)
      else
        let counted := counted.countSeqerrIn m dseqIn
        if s.sorter.Swap m then
          -- the held message goes out first, this one waits in `buf2`
          let buf1 := counted.buf1.invalidate
          let sorter := { counted with buf2 := counted.buf2.copy m, buf1 := buf1 }
          (true, { s with sorter := sorter.recordOut buf1, pmsg := .buf1 })
        else (true, { s with sorter := counted.recordOut m }.invalidate)
  -- nothing at the pointer: `buf1` goes out, then `buf2`
  else if s.sorter.buf1.valid then
    let sorter := { s.sorter with buf1 := s.sorter.buf1.invalidate }
    (true, { s with sorter := sorter.recordOut s.sorter.buf1, pmsg := .buf1 })
  else if s.sorter.buf2.valid then
    let sorter := { s.sorter with buf2 := s.sorter.buf2.invalidate }
    (true, { s with sorter := sorter.recordOut s.sorter.buf2, pmsg := .buf2 })
  else (false, s)

/-! ## The loop of `sendsrv` -/

section Buffers

variable (s : MessageSorter) (m : MsgBuf)

@[simp] theorem buf1_count (cid : StageDeviceId) (f : MessageStat → MessageStat) :
    (s.count cid f).buf1 = s.buf1 := rfl
@[simp] theorem buf2_count (cid : StageDeviceId) (f : MessageStat → MessageStat) :
    (s.count cid f).buf2 = s.buf2 := rfl
@[simp] theorem buf1_countReceived : (s.countReceived m).buf1 = s.buf1 := rfl
@[simp] theorem buf2_countReceived : (s.countReceived m).buf2 = s.buf2 := rfl
@[simp] theorem buf1_recordIn : (s.recordIn m).buf1 = s.buf1 := rfl
@[simp] theorem buf2_recordIn : (s.recordIn m).buf2 = s.buf2 := rfl
@[simp] theorem buf1_recordOut : (s.recordOut m).buf1 = s.buf1 := rfl
@[simp] theorem buf2_recordOut : (s.recordOut m).buf2 = s.buf2 := rfl
@[simp] theorem buf1_countSeqerrIn (d : Sequence) : (s.countSeqerrIn m d).buf1 = s.buf1 := rfl
@[simp] theorem buf2_countSeqerrIn (d : Sequence) : (s.countSeqerrIn m d).buf2 = s.buf2 := rfl

end Buffers

/-- Number of buffers that the loop still finds valid. -/
def SendSrv.pending (s : SendSrv) : ℕ :=
  s.target.valid.toNat + s.sorter.buf1.valid.toNat + s.sorter.buf2.valid.toNat

/-- Invalidating what the pointer points to takes it off the list. -/
theorem pending_invalidate (s : SendSrv) (h : s.target.valid = true) :
    s.invalidate.pending < s.pending := by
  have hinv := s.valid_target_invalidate
  unfold SendSrv.pending
  rw [hinv, h]
  unfold SendSrv.invalidate
  cases s.pmsg with
  | msg => simp
  | buf1 => simp only [MsgBuf.valid_invalidate, Bool.toNat_false, Bool.toNat_true]; omega
  | buf2 => simp only [MsgBuf.valid_invalidate, Bool.toNat_false, Bool.toNat_true]; omega

/-- The list depends on the buffers alone. -/
theorem pending_with_sorter (s : SendSrv) (sorter : MessageSorter)
    (h1 : sorter.buf1 = s.sorter.buf1) (h2 : sorter.buf2 = s.sorter.buf2) :
    ({ s with sorter := sorter } : SendSrv).pending = s.pending ∧
      ({ s with sorter := sorter } : SendSrv).target = s.target := by
  have htarget : ({ s with sorter := sorter } : SendSrv).target = s.target := by
    unfold SendSrv.target
    cases s.pmsg with
    | msg => rfl
    | buf1 => exact h1
    | buf2 => exact h2
  refine ⟨?_, htarget⟩
  unfold SendSrv.pending
  rw [htarget, h1, h2]

/-- A call that delivers leaves fewer valid buffers. -/
theorem pending_process {s s' : SendSrv} (h : process s = (true, s')) :
    s'.pending < s.pending := by
  unfold process at h
  simp only at h
  split_ifs at h with hvalid hspecial hgap hswap hbuf1 hbuf2
  · -- a special port
    obtain rfl := congrArg Prod.snd h
    exact pending_invalidate s hvalid
  · exact absurd (congrArg Prod.fst h) Bool.false_ne_true
  · -- two buffers were valid, only `buf2` still is
    have hheld : s.sorter.buf1.valid = true := hswap.2.1
    obtain rfl := congrArg Prod.snd h
    show false.toNat + false.toNat + s.target.valid.toNat
      < s.target.valid.toNat + s.sorter.buf1.valid.toNat + s.sorter.buf2.valid.toNat
    rw [hvalid, hheld, Bool.toNat_true, Bool.toNat_false]
    omega
  · -- the message itself is delivered
    obtain ⟨hpend, htarget⟩ := pending_with_sorter s
      ((((s.sorter.countReceived s.target).recordIn s.target).countSeqerrIn s.target
        (deltaseqConst s.sorter.seqIn s.target)).recordOut s.target) rfl rfl
    obtain rfl := congrArg Prod.snd h
    rw [← hpend]
    exact pending_invalidate _ (by rw [htarget]; exact hvalid)
  · -- `buf1` is delivered
    obtain rfl := congrArg Prod.snd h
    show false.toNat + false.toNat + s.sorter.buf2.valid.toNat
      < s.target.valid.toNat + s.sorter.buf1.valid.toNat + s.sorter.buf2.valid.toNat
    rw [hbuf1, Bool.toNat_true, Bool.toNat_false]
    omega
  · -- `buf2` is delivered
    obtain rfl := congrArg Prod.snd h
    show false.toNat + s.sorter.buf1.valid.toNat + false.toNat
      < s.target.valid.toNat + s.sorter.buf1.valid.toNat + s.sorter.buf2.valid.toNat
    rw [hbuf2, Bool.toNat_true, Bool.toNat_false]
    omega
  · exact absurd (congrArg Prod.fst h) Bool.false_ne_true

/-- `while(sorter.process(&pmsg)) process_msg(*pmsg)`: the messages delivered and
the state when the loop ends. -/
def drain (s : SendSrv) : List MsgBuf × SendSrv :=
  match _h : process s with
  | (false, s') => ([], s')
  | (true, s') => (s'.target :: (drain s').1, (drain s').2)
termination_by s.pending
decreasing_by all_goals exact pending_process _h

/-- The loop ends at once. -/
theorem drain_of_false {s s' : SendSrv} (h : process s = (false, s')) : drain s = ([], s') := by
  rw [drain]
  split
  · rename_i h'
    cases h'.symm.trans h
    rfl
  · rename_i h'
    cases h'.symm.trans h

/-- One message is delivered and the loop goes on. -/
theorem drain_of_true {s s' : SendSrv} (h : process s = (true, s')) :
    drain s = (s'.target :: (drain s').1, (drain s').2) := by
  rw [drain]
  split
  · rename_i h'
    cases h'.symm.trans h
  · rename_i h'
    cases h'.symm.trans h
    rfl

/-- Feeding one received message to the sorter: `pmsg = &msg` and the loop.  The
messages delivered and the sorter behind the loop. -/
def feed (s : MessageSorter) (m : MsgBuf) : List MsgBuf × MessageSorter :=
  ((drain ⟨s, m, .msg⟩).1, (drain ⟨s, m, .msg⟩).2.sorter)

/-! ## Delivery of what is held -/

/-- Nothing is left to deliver. -/
theorem process_idle {s : SendSrv} (hinvalid : s.target.valid = false)
    (h1 : s.sorter.buf1.valid = false) (h2 : s.sorter.buf2.valid = false) :
    process s = (false, s) := by
  unfold process
  simp only [hinvalid, h1, h2, Bool.false_eq_true, if_false]

/-- A call without a message delivers the first buffer, if it holds one. -/
theorem process_buf1 {s : SendSrv} (hinvalid : s.target.valid = false)
    (h1 : s.sorter.buf1.valid = true) :
    ∃ s', process s = (true, s') ∧ s'.target = s.sorter.buf1.invalidate ∧
      s'.sorter.buf1 = s.sorter.buf1.invalidate ∧ s'.sorter.buf2 = s.sorter.buf2 := by
  have hproc : process s = (true, { s with
      sorter := { s.sorter with buf1 := s.sorter.buf1.invalidate }.recordOut s.sorter.buf1
      pmsg := .buf1 }) := by
    unfold process
    simp only [hinvalid, h1, Bool.false_eq_true, if_false, if_true]
  exact ⟨_, hproc, rfl, rfl, rfl⟩

/-- With the first buffer empty it delivers the second one. -/
theorem process_buf2 {s : SendSrv} (hinvalid : s.target.valid = false)
    (h1 : s.sorter.buf1.valid = false) (h2 : s.sorter.buf2.valid = true) :
    ∃ s', process s = (true, s') ∧ s'.target = s.sorter.buf2.invalidate ∧
      s'.sorter.buf1 = s.sorter.buf1 ∧ s'.sorter.buf2 = s.sorter.buf2.invalidate := by
  have hproc : process s = (true, { s with
      sorter := { s.sorter with buf2 := s.sorter.buf2.invalidate }.recordOut s.sorter.buf2
      pmsg := .buf2 }) := by
    unfold process
    simp only [hinvalid, h1, h2, Bool.false_eq_true, if_false, if_true]
  exact ⟨_, hproc, rfl, rfl, rfl⟩

/-- The loop leaves both buffers invalid. -/
def SendSrv.Emptied (s : SendSrv) : Prop :=
  s.sorter.buf1.valid = false ∧ s.sorter.buf2.valid = false

/-- Only the second buffer is left to deliver. -/
theorem drain_buf2 {s : SendSrv} (hinvalid : s.target.valid = false)
    (h1 : s.sorter.buf1.valid = false) :
    (drain s).1 = (if s.sorter.buf2.valid then [s.sorter.buf2.invalidate] else [])
      ∧ (drain s).2.Emptied := by
  cases h2 : s.sorter.buf2.valid with
  | false =>
      rw [drain_of_false (process_idle hinvalid h1 h2)]
      exact ⟨rfl, h1, h2⟩
  | true =>
      obtain ⟨s', hproc, htarget, hbuf1, hbuf2⟩ := process_buf2 hinvalid h1 h2
      have hidle : process s' = (false, s') :=
        process_idle (by rw [htarget]; rfl) (by rw [hbuf1]; exact h1) (by rw [hbuf2]; rfl)
      rw [drain_of_true hproc, drain_of_false hidle, htarget]
      exact ⟨rfl, by rw [hbuf1]; exact h1, by rw [hbuf2]; rfl⟩

/-- The messages held in the two buffers, in the order of delivery. -/
def MessageSorter.heldList (s : MessageSorter) : List MsgBuf :=
  (if s.buf1.valid then [s.buf1.invalidate] else [])
    ++ if s.buf2.valid then [s.buf2.invalidate] else []

/-- With nothing to read at the pointer, the loop delivers what is held. -/
theorem drain_held {s : SendSrv} (hinvalid : s.target.valid = false) :
    (drain s).1 = s.sorter.heldList ∧ (drain s).2.Emptied := by
  cases h1 : s.sorter.buf1.valid with
  | false =>
      unfold MessageSorter.heldList
      rw [h1]
      exact drain_buf2 hinvalid h1
  | true =>
      obtain ⟨s', hproc, htarget, hbuf1, hbuf2⟩ := process_buf1 hinvalid h1
      obtain ⟨hlist, hempty⟩ := drain_buf2 (s := s') (by rw [htarget]; rfl) (by rw [hbuf1]; rfl)
      rw [drain_of_true hproc, htarget, hlist, hbuf2]
      unfold MessageSorter.heldList
      rw [h1]
      exact ⟨rfl, hempty⟩

/-! ## Delivery of a data message -/

section Feed

variable {s : MessageSorter} {m : MsgBuf} (hvalid : m.valid = true)
  (hport : maxSpecialPort < m.destport)

include hvalid hport

/-- Behind a gap nothing is delivered; the message is copied to the first buffer
and recorded as the last one to arrive. -/
theorem feed_gap (hgap : s.Gap m) :
    (feed s m).1 = [] ∧ (feed s m).2.buf1 = s.buf1.copy m ∧ (feed s m).2.buf2 = s.buf2 ∧
      (feed s m).2.seqIn = s.seqIn.record m ∧ (feed s m).2.seqOut = s.seqOut := by
  have hspecial : ¬ m.destport ≤ maxSpecialPort := UInt16.not_le.mpr hport
  have hproc : process ⟨s, m, .msg⟩ = (false,
      ⟨{ (s.countReceived m).recordIn m with buf1 := s.buf1.copy m }, m.invalidate, .msg⟩) := by
    unfold process
    simp only [SendSrv.target, hvalid, hspecial, hgap, if_true, if_false]
    rfl
  unfold feed
  rw [drain_of_false hproc]
  exact ⟨rfl, rfl, rfl, rfl, rfl⟩

/-- The held message is delivered first, the new one right behind it from the
second buffer. -/
theorem feed_swap (hgap : ¬ s.Gap m) (hswap : s.Swap m) :
    (feed s m).1 = [s.buf1.invalidate, (s.buf2.copy m).invalidate] ∧
      (feed s m).2.buf1.valid = false ∧ (feed s m).2.buf2.valid = false := by
  have hspecial : ¬ m.destport ≤ maxSpecialPort := UInt16.not_le.mpr hport
  obtain ⟨s', hproc, htarget, hbuf1, hbuf2⟩ : ∃ s', process ⟨s, m, .msg⟩ = (true, s') ∧
      s'.target = s.buf1.invalidate ∧ s'.sorter.buf1 = s.buf1.invalidate ∧
      s'.sorter.buf2 = s.buf2.copy m := by
    let counted := ((s.countReceived m).recordIn m).countSeqerrIn m (deltaseqConst s.seqIn m)
    refine ⟨⟨{ counted with buf2 := s.buf2.copy m, buf1 := s.buf1.invalidate }.recordOut
      s.buf1.invalidate, m, .buf1⟩, ?_, rfl, rfl, rfl⟩
    unfold process
    simp only [SendSrv.target, hvalid, hspecial, hgap, hswap, if_true, if_false]
    rfl
  -- the receive buffer keeps its valid flag, but the pointer has moved away from it
  obtain ⟨hlist, hempty⟩ := drain_buf2 (s := s') (by rw [htarget]; rfl) (by rw [hbuf1]; rfl)
  have hvalid2 : (s.buf2.copy m).valid = true := hvalid
  unfold feed
  rw [drain_of_true hproc, htarget, hlist, hbuf2, if_pos hvalid2]
  exact ⟨rfl, hempty⟩

/-- The message is delivered first, then whatever is held. -/
theorem feed_direct (hgap : ¬ s.Gap m) (hswap : ¬ s.Swap m) :
    (feed s m).1 = m.invalidate :: s.heldList ∧
      (feed s m).2.buf1.valid = false ∧ (feed s m).2.buf2.valid = false := by
  have hspecial : ¬ m.destport ≤ maxSpecialPort := UInt16.not_le.mpr hport
  obtain ⟨s', hproc, htarget, hheld⟩ : ∃ s', process ⟨s, m, .msg⟩ = (true, s') ∧
      s'.target = m.invalidate ∧ s'.sorter.heldList = s.heldList := by
    let counted := ((s.countReceived m).recordIn m).countSeqerrIn m (deltaseqConst s.seqIn m)
    refine ⟨⟨counted.recordOut m, m.invalidate, .msg⟩, ?_, rfl, rfl⟩
    unfold process
    simp only [SendSrv.target, hvalid, hspecial, hgap, hswap, if_true, if_false]
    rfl
  obtain ⟨hlist, hempty⟩ := drain_held (s := s') (by rw [htarget]; rfl)
  unfold feed
  rw [drain_of_true hproc, htarget, hlist, hheld]
  exact ⟨rfl, hempty⟩

end Feed

end Libov
