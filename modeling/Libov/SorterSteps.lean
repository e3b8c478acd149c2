/-
# The sorter behind a data message

`feed_gap`, `feed_swap` and `feed_direct` say what a data message makes the loop
of `sendsrv` deliver.  Here the whole sorter behind the loop is computed, in the
three ways a message can go:

* `MessageSorter.hold` : it is held back in the first buffer;
* `MessageSorter.swap` : the held message and then the new one are delivered;
* `MessageSorter.pass` : the new message and then a held one are delivered.

From `feed_eq_hold`, `feed_eq_swap` and `feed_eq_pass` follow the numbers of the
streams and the counters of the senders behind a message.
-/
import Libov.SorterConservation

open Runs

namespace Libov

/-! ## Streams -/

/-- A stream: the sender and the destination port of its messages. -/
abbrev Stream := StageDeviceId × Port

def MsgBuf.stream (m : MsgBuf) : Stream := (m.cid, m.destport)

@[simp] theorem MsgBuf.stream_invalidate (m : MsgBuf) : m.invalidate.stream = m.stream := rfl
@[simp] theorem MsgBuf.stream_copy (m src : MsgBuf) : (m.copy src).stream = src.stream := rfl

/-- The last number of a stream, `0` where none is recorded. -/
def SenderMap.last (seq : SenderMap) (k : Stream) : Sequence := (seq k.1).at k.2

/-- A number is recorded for the stream. -/
def SenderMap.Known (seq : SenderMap) (k : Stream) : Prop := (seq k.1 k.2).isSome = true

/-- The difference that decides what happens to a message is taken modulo `2 ^ 16`. -/
theorem deltaseqConst_eq (seq : SenderMap) (m : MsgBuf) :
    deltaseqConst seq m = m.seq - seq.last m.stream := rfl

/-- Recording a message changes the entry of its stream only. -/
theorem SenderMap.record_apply (seq : SenderMap) (m : MsgBuf) (k : Stream) :
    seq.record m k.1 k.2 = if k = m.stream then some m.seq else seq k.1 k.2 := by
  obtain ⟨cid, port⟩ := k
  unfold SenderMap.record SequenceMap.set MsgBuf.stream
  by_cases hcid : cid = m.cid
  · subst hcid
    rw [Function.update_self]
    by_cases hport : port = m.destport
    · subst hport
      rw [Function.update_self, if_pos rfl]
    · rw [Function.update_of_ne hport, if_neg]
      exact fun h => hport (congrArg Prod.snd h)
  · rw [Function.update_of_ne hcid, if_neg]
    exact fun h => hcid (congrArg Prod.fst h)

/-- The last number behind a record: that of the message for its own stream. -/
theorem SenderMap.last_record (seq : SenderMap) (m : MsgBuf) (k : Stream) :
    (seq.record m).last k = if k = m.stream then m.seq else seq.last k := by
  unfold SenderMap.last SequenceMap.at
  rw [SenderMap.record_apply]
  by_cases hk : k = m.stream
  · rw [if_pos hk, if_pos hk, Option.getD_some]
  · rw [if_neg hk, if_neg hk]

/-- Behind a record the message is the last one of its stream. -/
@[simp] theorem SenderMap.last_record_self (seq : SenderMap) (m : MsgBuf) :
    (seq.record m).last m.stream = m.seq := by
  rw [SenderMap.last_record, if_pos rfl]

/-- The last numbers of the other streams stay. -/
theorem SenderMap.last_record_of_ne (seq : SenderMap) {m : MsgBuf} {k : Stream}
    (h : k ≠ m.stream) : (seq.record m).last k = seq.last k := by
  rw [SenderMap.last_record, if_neg h]

/-- The first buffer holds a message of the stream. -/
def MessageSorter.Holds (s : MessageSorter) (k : Stream) : Prop :=
  s.buf1.valid = true ∧ s.buf1.stream = k

instance (s : MessageSorter) (k : Stream) : Decidable (s.Holds k) :=
  inferInstanceAs (Decidable (_ ∧ _))

/-- The message arrives far from where its stream is, so that a held one is looked at. -/
def MessageSorter.Far (s : MessageSorter) (m : MsgBuf) : Prop :=
  deltaseqConst s.seqIn m < -1 ∨ (1 < deltaseqConst s.seqOut m ∧ 0 < deltaseqConst s.seqIn m)

/-- A swap needs a message that arrives far off, one of its stream that is held, and numbers that
are in order as they stand. -/
theorem swap_iff (s : MessageSorter) (m : MsgBuf) :
    s.Swap m ↔ (s.Far m ∧ s.Holds m.stream) ∧ s.buf1.seq < m.seq := by
  unfold MessageSorter.Swap MessageSorter.Far MessageSorter.Holds MsgBuf.stream
  rw [Prod.mk.injEq]
  constructor
  · rintro ⟨hfar, hvalid, hcid, hport, hlt⟩
    exact ⟨⟨hfar, hvalid, hcid, hport⟩, hlt⟩
  · rintro ⟨⟨hfar, hvalid, hcid, hport⟩, hlt⟩
    exact ⟨hfar, hvalid, hcid, hport, hlt⟩

/-- A message swaps with a held one of its stream. -/
theorem holds_of_swap {s : MessageSorter} {m : MsgBuf} (h : s.Swap m) : s.Holds m.stream :=
  ((swap_iff s m).mp h).1.2

/-! ## The three ways of a message -/

namespace MessageSorter

variable (s : MessageSorter) (m : MsgBuf)

/-- The message is counted and recorded, whatever happens to it. -/
def arrive : MessageSorter := (s.countReceived m).recordIn m

/-- The same with the error count of a message that is not held back. -/
def accept : MessageSorter := (s.arrive m).countSeqerrIn m (deltaseqConst s.seqIn m)

/-- Behind a message that is held back. -/
def hold : MessageSorter := { s.arrive m with buf1 := s.buf1.copy m }

/-- Behind the delivery of what the first buffer holds. -/
def flush : MessageSorter :=
  if s.buf1.valid then { s with buf1 := s.buf1.invalidate }.recordOut s.buf1 else s

/-- Behind a message that is delivered before a held one. -/
def pass : MessageSorter := ((s.accept m).recordOut m).flush

/-- Behind a message that is delivered right after the held one. -/
def swap : MessageSorter :=
  ({ s.accept m with buf1 := s.buf1.invalidate, buf2 := (s.buf2.copy m).invalidate }.recordOut
    s.buf1).recordOut m

/-- The message in the first buffer, as it is delivered. -/
def released : List MsgBuf := if s.buf1.valid then [s.buf1.invalidate] else []

end MessageSorter

/-! ## The branches of `process` -/

section Process

variable {s : SendSrv}

section Data

variable (hvalid : s.target.valid = true) (hspecial : ¬ s.target.destport ≤ maxSpecialPort)

include hvalid hspecial

/-- A message behind a gap is copied into the first buffer, and nothing is delivered. -/
theorem process_gap (hgap : s.sorter.Gap s.target) :
    process s = (false, { s with sorter := s.sorter.hold s.target }.invalidate) := by
  unfold process
  simp only [hvalid, hspecial, hgap, if_true, if_false]
  rfl

/-- A swap delivers the held message first; the new one waits in the second buffer for the next
call. -/
theorem process_swap (hgap : ¬ s.sorter.Gap s.target) (hswap : s.sorter.Swap s.target) :
    process s = (true, { s with
      sorter := { s.sorter.accept s.target with
        buf2 := s.sorter.buf2.copy s.target
        buf1 := s.sorter.buf1.invalidate }.recordOut s.sorter.buf1
      pmsg := .buf1 }) := by
  unfold process
  simp only [hvalid, hspecial, hgap, hswap, if_true, if_false]
  rfl

/-- Any other data message is delivered as it is. -/
theorem process_direct (hgap : ¬ s.sorter.Gap s.target) (hswap : ¬ s.sorter.Swap s.target) :
    process s = (true, { s with
      sorter := (s.sorter.accept s.target).recordOut s.target }.invalidate) := by
  unfold process
  simp only [hvalid, hspecial, hgap, hswap, if_true, if_false]
  rfl

end Data

/-- A message for a reserved port is delivered and leaves no trace in the sorter. -/
theorem process_special (hvalid : s.target.valid = true)
    (hspecial : s.target.destport ≤ maxSpecialPort) : process s = (true, s.invalidate) := by
  unfold process
  simp only [hvalid, hspecial, if_true]

/-- A call without a message delivers what the first buffer holds. -/
theorem process_held1 (hinvalid : s.target.valid = false) (h1 : s.sorter.buf1.valid = true) :
    process s = (true, { s with
      sorter := { s.sorter with buf1 := s.sorter.buf1.invalidate }.recordOut s.sorter.buf1
      pmsg := .buf1 }) := by
  unfold process
  simp only [hinvalid, h1, Bool.false_eq_true, if_false, if_true]

/-- With the first buffer empty it delivers what the second one holds. -/
theorem process_held2 (hinvalid : s.target.valid = false) (h1 : s.sorter.buf1.valid = false)
    (h2 : s.sorter.buf2.valid = true) :
    process s = (true, { s with
      sorter := { s.sorter with buf2 := s.sorter.buf2.invalidate }.recordOut s.sorter.buf2
      pmsg := .buf2 }) := by
  unfold process
  simp only [hinvalid, h1, h2, Bool.false_eq_true, if_false, if_true]

/-- With nothing at the pointer and the second buffer free, the loop delivers what the
first buffer holds. -/
theorem drain_flush (hinvalid : s.target.valid = false) (hbuf2 : s.sorter.buf2.valid = false) :
    (drain s).1 = s.sorter.released ∧ (drain s).2.sorter = s.sorter.flush := by
  unfold MessageSorter.released MessageSorter.flush
  cases hbuf1 : s.sorter.buf1.valid with
  | false =>
      rw [drain_of_false (process_idle hinvalid hbuf1 hbuf2), if_neg Bool.false_ne_true,
        if_neg Bool.false_ne_true]
      exact ⟨rfl, rfl⟩
  | true =>
      let s₁ : SendSrv := { s with
        sorter := { s.sorter with buf1 := s.sorter.buf1.invalidate }.recordOut s.sorter.buf1
        pmsg := .buf1 }
      have hheld : process s = (true, s₁) := process_held1 hinvalid hbuf1
      have hidle : process s₁ = (false, s₁) := process_idle rfl rfl hbuf2
      rw [drain_of_true hheld, drain_of_false hidle, if_pos rfl, if_pos rfl]
      exact ⟨rfl, rfl⟩

end Process

/-! ## The loop behind a message -/

/-- A control message is delivered, and what is held behind it. -/
theorem feed_eq_special {s : MessageSorter} {m : MsgBuf} (hvalid : m.valid = true)
    (hspecial : m.destport ≤ maxSpecialPort) (hbuf2 : s.buf2.valid = false) :
    feed s m = (m.invalidate :: s.released, s.flush) := by
  have hproc : process ⟨s, m, .msg⟩ = (true, ⟨s, m.invalidate, .msg⟩) :=
    process_special hvalid hspecial
  obtain ⟨hlist, hsorter⟩ := drain_flush (s := ⟨s, m.invalidate, .msg⟩) rfl hbuf2
  unfold feed
  rw [drain_of_true hproc, hlist, hsorter]
  rfl

section Feed

variable {s : MessageSorter} {m : MsgBuf} (hvalid : m.valid = true)
  (hport : maxSpecialPort < m.destport)

include hvalid hport

/-- Behind a gap the loop delivers nothing and the sorter holds the message. -/
theorem feed_eq_hold (hgap : s.Gap m) : feed s m = ([], s.hold m) := by
  have hspecial : ¬ m.destport ≤ maxSpecialPort := UInt16.not_le.mpr hport
  have hproc : process ⟨s, m, .msg⟩ = (false, ⟨s.hold m, m.invalidate, .msg⟩) :=
    process_gap hvalid hspecial hgap
  unfold feed
  rw [drain_of_false hproc]

/-- In a swap the loop delivers the held message and then the new one. -/
theorem feed_eq_swap (hgap : ¬ s.Gap m) (hswap : s.Swap m) :
    feed s m = ([s.buf1.invalidate, (s.buf2.copy m).invalidate], s.swap m) := by
  have hspecial : ¬ m.destport ≤ maxSpecialPort := UInt16.not_le.mpr hport
  let s₁ : SendSrv := ⟨{ s.accept m with
    buf2 := s.buf2.copy m, buf1 := s.buf1.invalidate }.recordOut s.buf1, m, .buf1⟩
  have hproc : process ⟨s, m, .msg⟩ = (true, s₁) := process_swap hvalid hspecial hgap hswap
  -- the loop goes on with the new message in the second buffer
  have hsecond : process s₁ = (true, ⟨s.swap m, m, .buf2⟩) := process_held2 rfl rfl hvalid
  have hidle : process ⟨s.swap m, m, .buf2⟩ = (false, ⟨s.swap m, m, .buf2⟩) :=
    process_idle rfl rfl rfl
  unfold feed
  rw [drain_of_true hproc, drain_of_true hsecond, drain_of_false hidle]
  rfl

/-- Without a gap or a swap the loop delivers the message, and behind it what the first buffer
holds, of whatever stream that is. -/
theorem feed_eq_pass (hbuf2 : s.buf2.valid = false) (hgap : ¬ s.Gap m) (hswap : ¬ s.Swap m) :
    feed s m = (m.invalidate :: s.released, s.pass m) := by
  have hspecial : ¬ m.destport ≤ maxSpecialPort := UInt16.not_le.mpr hport
  let s₁ : SendSrv := ⟨(s.accept m).recordOut m, m.invalidate, .msg⟩
  have hproc : process ⟨s, m, .msg⟩ = (true, s₁) := process_direct hvalid hspecial hgap hswap
  obtain ⟨hlist, hsorter⟩ := drain_flush (s := s₁) rfl hbuf2
  unfold feed
  rw [drain_of_true hproc, hlist, hsorter]
  rfl

end Feed

/-- The ways of a message through a sorter whose second buffer is free. -/
theorem feed_cases {s : MessageSorter} {m : MsgBuf} (hvalid : m.valid = true)
    (hbuf2 : s.buf2.valid = false) :
    (m.destport ≤ maxSpecialPort ∧ feed s m = (m.invalidate :: s.released, s.flush)) ∨
    ((maxSpecialPort < m.destport ∧ s.Gap m) ∧ feed s m = ([], s.hold m)) ∨
    ((maxSpecialPort < m.destport ∧ ¬ s.Gap m) ∧ s.Swap m ∧
      feed s m = ([s.buf1.invalidate, (s.buf2.copy m).invalidate], s.swap m)) ∨
    ((maxSpecialPort < m.destport ∧ ¬ s.Gap m) ∧ ¬ s.Swap m ∧
      feed s m = (m.invalidate :: s.released, s.pass m)) := by
  by_cases hspecial : m.destport ≤ maxSpecialPort
  · exact Or.inl ⟨hspecial, feed_eq_special hvalid hspecial hbuf2⟩
  · have hport := UInt16.not_le.mp hspecial
    refine Or.inr ?_
    by_cases hgap : s.Gap m
    · exact Or.inl ⟨⟨hport, hgap⟩, feed_eq_hold hvalid hport hgap⟩
    · refine Or.inr ?_
      by_cases hswap : s.Swap m
      · exact Or.inl ⟨⟨hport, hgap⟩, hswap, feed_eq_swap hvalid hport hgap hswap⟩
      · exact Or.inr ⟨⟨hport, hgap⟩, hswap, feed_eq_pass hvalid hport hbuf2 hgap hswap⟩

/-- What a data message makes of a sorter whose second buffer is free. -/
theorem sorterStep_cases (s : MessageSorter) (m : DataMsg) (h : s.buf2.valid = false) :
    (s.Gap m.toMsgBuf ∧ sorterStep s m = s.hold m.toMsgBuf) ∨
    (¬ s.Gap m.toMsgBuf ∧ s.Swap m.toMsgBuf ∧ sorterStep s m = s.swap m.toMsgBuf) ∨
    (¬ s.Gap m.toMsgBuf ∧ ¬ s.Swap m.toMsgBuf ∧ sorterStep s m = s.pass m.toMsgBuf) := by
  unfold sorterStep
  rcases feed_cases m.valid h with ⟨hspecial, -⟩ | ⟨⟨-, hgap⟩, hfeed⟩ |
    ⟨⟨-, hgap⟩, hswap, hfeed⟩ | ⟨⟨-, hgap⟩, hswap, hfeed⟩
  · exact absurd hspecial (UInt16.not_le.mpr m.port)
  · rw [hfeed]
    exact Or.inl ⟨hgap, rfl⟩
  · rw [hfeed]
    exact Or.inr (Or.inl ⟨hgap, hswap, rfl⟩)
  · rw [hfeed]
    exact Or.inr (Or.inr ⟨hgap, hswap, rfl⟩)

/-- Behind every sequence of data messages the second buffer is free. -/
theorem buf2_invalid_run {s : MessageSorter} (h : s.buf2.valid = false) (ms : List DataMsg) :
    (run sorterStep s ms).buf2.valid = false :=
  invariant_run_of_step (I := fun s : MessageSorter => s.buf2.valid = false) buf2_invalid_feed h ms

/-! ## Numbers behind a message -/

namespace MessageSorter

variable (s : MessageSorter) (m : MsgBuf)

/-- What is released was recorded as received when it arrived. -/
@[simp] theorem seqIn_flush : s.flush.seqIn = s.seqIn := by
  unfold flush
  split_ifs
  · rfl
  · rfl

/-- What is released is recorded as delivered. -/
theorem seqOut_flush :
    s.flush.seqOut = if s.buf1.valid then s.seqOut.record s.buf1 else s.seqOut := by
  unfold flush
  split_ifs
  · rfl
  · rfl

/-- The release of the first buffer leaves the second one alone. -/
@[simp] theorem buf2_flush : s.flush.buf2 = s.buf2 := by
  unfold flush
  split_ifs
  · rfl
  · rfl

/-- The first buffer keeps the sender of what it held. -/
theorem sender_buf1_flush : s.flush.buf1.sender = s.buf1.sender := by
  unfold flush
  split_ifs
  · rfl
  · rfl

/-- Behind a release the first buffer is empty. -/
@[simp] theorem buf1_invalid_flush : s.flush.buf1.valid = false := by
  unfold flush
  by_cases h : s.buf1.valid = true
  · rw [if_pos h]
    rfl
  · rw [if_neg h]
    exact Bool.eq_false_iff.mpr h

/-- Every way of a message records it as received. -/
@[simp] theorem seqIn_hold : (s.hold m).seqIn = s.seqIn.record m := rfl
@[simp] theorem seqIn_swap : (s.swap m).seqIn = s.seqIn.record m := rfl
@[simp] theorem seqIn_pass : (s.pass m).seqIn = s.seqIn.record m := by
  unfold pass
  rw [seqIn_flush]
  rfl

/-- A message that is passed on is recorded as delivered before the held one. -/
@[simp] theorem seqOut_hold : (s.hold m).seqOut = s.seqOut := rfl
@[simp] theorem seqOut_swap : (s.swap m).seqOut = (s.seqOut.record s.buf1).record m := rfl
theorem seqOut_pass :
    (s.pass m).seqOut = if s.buf1.valid then (s.seqOut.record m).record s.buf1
      else s.seqOut.record m := by
  unfold pass
  rw [seqOut_flush]
  rfl

/-- The last delivery of a stream behind a swap. -/
theorem last_swap (h : s.Swap m) (k : Stream) :
    (s.swap m).seqOut.last k = if k = m.stream then m.seq else s.seqOut.last k := by
  rw [seqOut_swap, SenderMap.last_record]
  split_ifs with hk
  · rfl
  · rw [SenderMap.last_record_of_ne]
    exact fun heq => hk (heq.trans (holds_of_swap h).2)

/-- The last delivery of a stream behind a message and the held one after it. -/
theorem last_pass (k : Stream) : (s.pass m).seqOut.last k
    = if s.Holds k then s.buf1.seq else if k = m.stream then m.seq else s.seqOut.last k := by
  rw [seqOut_pass]
  by_cases hvalid : s.buf1.valid = true
  · rw [if_pos hvalid, SenderMap.last_record, SenderMap.last_record]
    by_cases hk : k = s.buf1.stream
    · have hholds : s.Holds k := ⟨hvalid, hk.symm⟩
      rw [if_pos hk, if_pos hholds]
    · have hholds : ¬ s.Holds k := fun h => hk h.2.symm
      rw [if_neg hk, if_neg hholds]
  · have hholds : ¬ s.Holds k := fun h => hvalid h.1
    rw [if_neg hvalid, if_neg hholds, SenderMap.last_record]

/-- Nothing is held behind a message that is passed on. -/
@[simp] theorem buf1_hold : (s.hold m).buf1 = s.buf1.copy m := rfl
@[simp] theorem buf1_swap : (s.swap m).buf1 = s.buf1.invalidate := rfl
@[simp] theorem buf1_invalid_pass : (s.pass m).buf1.valid = false := buf1_invalid_flush _

/-- Behind a message that is held back, its stream is the one held. -/
theorem holds_hold (h : m.valid = true) (k : Stream) : (s.hold m).Holds k ↔ m.stream = k :=
  and_iff_right h

/-- A swap leaves no message of any stream behind. -/
theorem not_holds_swap (k : Stream) : ¬ (s.swap m).Holds k := fun h => Bool.false_ne_true h.1

/-- Nor does a message that is passed on. -/
theorem not_holds_pass (k : Stream) : ¬ (s.pass m).Holds k := fun h =>
  Bool.false_ne_true ((s.buf1_invalid_pass m).symm.trans h.1)

end MessageSorter

/-- Every data message becomes the last one to arrive on its stream. -/
theorem seqIn_sorterStep (s : MessageSorter) (m : DataMsg) (h : s.buf2.valid = false) :
    (sorterStep s m).seqIn = s.seqIn.record m.toMsgBuf := by
  rcases sorterStep_cases s m h with ⟨-, hs⟩ | ⟨-, -, hs⟩ | ⟨-, -, hs⟩
  · rw [hs, MessageSorter.seqIn_hold]
  · rw [hs, MessageSorter.seqIn_swap]
  · rw [hs, MessageSorter.seqIn_pass]

/-! ## Counters behind a message -/

/-- `message_sorter_t::get_stat`. -/
def MessageSorter.getStat (s : MessageSorter) (id : StageDeviceId) : MessageStat := s.stat id

/-- The counters of a sender are known from their four fields. -/
theorem MessageStat.eq_mk {st : MessageStat} {r l i o : UInt64} (hr : st.received = r)
    (hl : st.lost = l) (hi : st.seqerrIn = i) (ho : st.seqerrOut = o) : st = ⟨r, l, i, o⟩ := by
  subst hr hl hi ho
  rfl

/-- A counter that a change leaves alone. -/
theorem MessageSorter.getStat_count_keep {β : Type*} (s : MessageSorter) (cid c : StageDeviceId)
    {f : MessageStat → MessageStat} (g : MessageStat → β) (h : ∀ st, g (f st) = g st) :
    g ((s.count cid f).getStat c) = g (s.getStat c) := by
  unfold MessageSorter.count MessageSorter.getStat
  by_cases hc : c = cid
  · subst hc
    show g (Function.update s.stat c (f (s.stat c)) c) = _
    rw [Function.update_self, h]
  · show g (Function.update s.stat cid (f (s.stat cid)) c) = _
    rw [Function.update_of_ne hc]

/-- A counter that a change adds to, for one sender. -/
theorem MessageSorter.getStat_count_add (s : MessageSorter) (cid c : StageDeviceId)
    {f : MessageStat → MessageStat} (g : MessageStat → UInt64) (d : UInt64)
    (h : ∀ st, g (f st) = g st + d) :
    g ((s.count cid f).getStat c) = g (s.getStat c) + if c = cid then d else 0 := by
  unfold MessageSorter.count MessageSorter.getStat
  by_cases hc : c = cid
  · subst hc
    show g (Function.update s.stat c (f (s.stat c)) c) = _
    rw [Function.update_self, h, if_pos rfl]
  · show g (Function.update s.stat cid (f (s.stat cid)) c) = _
    rw [Function.update_of_ne hc, if_neg hc, UInt64.add_zero]

/-- What a message adds to the loss count of its sender. -/
def MessageSorter.loss (s : MessageSorter) (m : MsgBuf) : UInt64 :=
  if deltaseqConst s.seqIn m ≠ 0 ∧ (s.seqIn m.cid m.destport).isSome then
    UInt64.ofInt ((deltaseqConst s.seqIn m).toInt - 1)
  else 0

/-- Whether a number is counted as a step backwards. -/
def backward (d : Sequence) : UInt64 := if d < 0 then 1 else 0

/-- What a delivered message adds to the output errors of a sender. -/
def SenderMap.outErr (seqOut : SenderMap) (m : MsgBuf) (c : StageDeviceId) : UInt64 :=
  if c = m.cid then backward (deltaseqConst seqOut m) else 0

namespace MessageSorter

variable (s : MessageSorter) (m : MsgBuf) (c : StageDeviceId)

/-- The record of a number does not touch the counters. -/
theorem getStat_arrive : (s.arrive m).getStat c = (s.countReceived m).getStat c := rfl

/-- Of the counters of received messages, that of the sender grows by one. -/
theorem received_arrive : ((s.arrive m).getStat c).received
    = (s.getStat c).received + if c = m.cid then 1 else 0 := by
  rw [getStat_arrive]
  dsimp only [countReceived]
  exact s.getStat_count_add m.cid c MessageStat.received 1 fun _ => rfl

/-- The sender loses what a message skips. -/
theorem lost_arrive : ((s.arrive m).getStat c).lost
    = (s.getStat c).lost + if c = m.cid then s.loss m else 0 := by
  rw [getStat_arrive]
  dsimp only [countReceived]
  refine s.getStat_count_add m.cid c MessageStat.lost (s.loss m) fun st => ?_
  unfold loss
  split_ifs
  · rfl
  · rw [UInt64.add_zero]

/-- Errors are not counted on arrival. -/
theorem seqerrIn_arrive : ((s.arrive m).getStat c).seqerrIn = (s.getStat c).seqerrIn := by
  rw [getStat_arrive]
  dsimp only [countReceived]
  exact s.getStat_count_keep m.cid c MessageStat.seqerrIn fun _ => rfl

/-- Nor are those of the order of delivery. -/
theorem seqerrOut_arrive : ((s.arrive m).getStat c).seqerrOut = (s.getStat c).seqerrOut := by
  rw [getStat_arrive]
  dsimp only [countReceived]
  exact s.getStat_count_keep m.cid c MessageStat.seqerrOut fun _ => rfl

/-- A message that is not held back is an error of its sender if it comes from behind. -/
theorem seqerrIn_accept : ((s.accept m).getStat c).seqerrIn
    = (s.getStat c).seqerrIn + if c = m.cid then backward (deltaseqConst s.seqIn m) else 0 := by
  rw [← s.seqerrIn_arrive m c]
  dsimp only [accept, countSeqerrIn]
  exact (s.arrive m).getStat_count_add m.cid c MessageStat.seqerrIn _ fun _ => rfl

/-- That count has nothing to do with the order of delivery. -/
theorem seqerrOut_accept : ((s.accept m).getStat c).seqerrOut = (s.getStat c).seqerrOut := by
  rw [← s.seqerrOut_arrive m c]
  dsimp only [accept, countSeqerrIn]
  exact (s.arrive m).getStat_count_keep m.cid c MessageStat.seqerrOut fun _ => rfl

/-- Delivery touches no counter but the output errors. -/
theorem getStat_recordOut_keep {β : Type*} (g : MessageStat → β)
    (h : ∀ st : MessageStat, ∀ d, g { st with seqerrOut := d } = g st) :
    g ((s.recordOut m).getStat c) = g (s.getStat c) :=
  getStat_count_keep { s with seqOut := s.seqOut.record m } m.cid c g fun st => h st _

/-- A delivered message is an error of its sender if it comes behind a later one. -/
theorem seqerrOut_recordOut : ((s.recordOut m).getStat c).seqerrOut
    = (s.getStat c).seqerrOut + s.seqOut.outErr m c := by
  dsimp only [recordOut]
  exact getStat_count_add { s with seqOut := s.seqOut.record m } m.cid c MessageStat.seqerrOut _
    fun _ => rfl

/-- What does not depend on the errors of the delivery is not changed by a release. -/
theorem getStat_flush_keep {β : Type*} (g : MessageStat → β)
    (h : ∀ st : MessageStat, ∀ d, g { st with seqerrOut := d } = g st) :
    g (s.flush.getStat c) = g (s.getStat c) := by
  unfold flush
  split_ifs
  · exact getStat_recordOut_keep { s with buf1 := s.buf1.invalidate } s.buf1 c g h
  · rfl

/-- A release counts an error of the sender whose message was held. -/
theorem seqerrOut_flush : (s.flush.getStat c).seqerrOut
    = (s.getStat c).seqerrOut + if s.buf1.valid then s.seqOut.outErr s.buf1 c else 0 := by
  unfold flush
  split_ifs
  · exact seqerrOut_recordOut { s with buf1 := s.buf1.invalidate } s.buf1 c
  · rw [UInt64.add_zero]

/-- The counters other than the output errors do not depend on what is delivered. -/
theorem getStat_swap_keep {β : Type*} (g : MessageStat → β)
    (h : ∀ st : MessageStat, ∀ d, g { st with seqerrOut := d } = g st) :
    g ((s.swap m).getStat c) = g ((s.accept m).getStat c) := by
  unfold swap
  rw [getStat_recordOut_keep _ m c g h, getStat_recordOut_keep _ s.buf1 c g h]
  rfl

/-- What does not depend on the errors of the delivery is, behind a message that is passed on, what
it was behind its arrival. -/
theorem getStat_pass_keep {β : Type*} (g : MessageStat → β)
    (h : ∀ st : MessageStat, ∀ d, g { st with seqerrOut := d } = g st) :
    g ((s.pass m).getStat c) = g ((s.accept m).getStat c) := by
  unfold pass
  rw [getStat_flush_keep _ c g h, getStat_recordOut_keep _ m c g h]

/-- A message that is held back is not counted among the errors on the way in. -/
theorem seqerrIn_hold : ((s.hold m).getStat c).seqerrIn = (s.getStat c).seqerrIn :=
  s.seqerrIn_arrive m c

/-- Both ways of a delivery count the error of the new message, if it is one. -/
theorem seqerrIn_swap : ((s.swap m).getStat c).seqerrIn
    = (s.getStat c).seqerrIn + if c = m.cid then backward (deltaseqConst s.seqIn m) else 0 := by
  rw [s.getStat_swap_keep m c MessageStat.seqerrIn fun _ _ => rfl, seqerrIn_accept]

/-- The same holds if no message has been waiting for it. -/
theorem seqerrIn_pass : ((s.pass m).getStat c).seqerrIn
    = (s.getStat c).seqerrIn + if c = m.cid then backward (deltaseqConst s.seqIn m) else 0 := by
  rw [s.getStat_pass_keep m c MessageStat.seqerrIn fun _ _ => rfl, seqerrIn_accept]

/-- Nothing is delivered where a message is held back. -/
theorem seqerrOut_hold : ((s.hold m).getStat c).seqerrOut = (s.getStat c).seqerrOut :=
  s.seqerrOut_arrive m c

/-- Both messages of a swap are compared with what was delivered before them. -/
theorem seqerrOut_swap : ((s.swap m).getStat c).seqerrOut
    = (s.getStat c).seqerrOut + s.seqOut.outErr s.buf1 c
      + (s.seqOut.record s.buf1).outErr m c := by
  unfold swap
  rw [seqerrOut_recordOut, seqerrOut_recordOut]
  show ((s.accept m).getStat c).seqerrOut + _ + _ = _
  rw [seqerrOut_accept]
  rfl

/-- So are a message and the held one behind it. -/
theorem seqerrOut_pass : ((s.pass m).getStat c).seqerrOut
    = (s.getStat c).seqerrOut + s.seqOut.outErr m c
      + if s.buf1.valid then (s.seqOut.record m).outErr s.buf1 c else 0 := by
  unfold pass
  rw [seqerrOut_flush, seqerrOut_recordOut, seqerrOut_accept]
  rfl

end MessageSorter

/-- The counters of arrival, the errors apart, of a data message. -/
theorem getStat_sorterStep_keep {β : Type*} (s : MessageSorter) (m : DataMsg)
    (hbuf2 : s.buf2.valid = false) (c : StageDeviceId) (g : MessageStat → β)
    (hin : ∀ st : MessageStat, ∀ d, g { st with seqerrIn := d } = g st)
    (hout : ∀ st : MessageStat, ∀ d, g { st with seqerrOut := d } = g st) :
    g ((sorterStep s m).getStat c) = g ((s.arrive m.toMsgBuf).getStat c) := by
  have haccept : g ((s.accept m.toMsgBuf).getStat c) = g ((s.arrive m.toMsgBuf).getStat c) :=
    (s.arrive m.toMsgBuf).getStat_count_keep _ c g fun st => hin st _
  rcases sorterStep_cases s m hbuf2 with ⟨-, hs⟩ | ⟨-, -, hs⟩ | ⟨-, -, hs⟩
  · rw [hs]
    rfl
  · rw [hs, MessageSorter.getStat_swap_keep _ _ _ g hout, haccept]
  · rw [hs, MessageSorter.getStat_pass_keep _ _ _ g hout, haccept]

section Counters

variable {s : MessageSorter} (m : DataMsg) (hbuf2 : s.buf2.valid = false) (c : StageDeviceId)

include hbuf2

/-- Every data message is counted for its sender. -/
theorem received_sorterStep : ((sorterStep s m).getStat c).received
    = (s.getStat c).received + if c = m.toMsgBuf.cid then 1 else 0 := by
  rw [getStat_sorterStep_keep s m hbuf2 c MessageStat.received (fun _ _ => rfl) (fun _ _ => rfl),
    MessageSorter.received_arrive]

/-- The loss count changes by the distance to the last message that arrived. -/
theorem lost_sorterStep : ((sorterStep s m).getStat c).lost
    = (s.getStat c).lost + if c = m.toMsgBuf.cid then s.loss m.toMsgBuf else 0 := by
  rw [getStat_sorterStep_keep s m hbuf2 c MessageStat.lost (fun _ _ => rfl) (fun _ _ => rfl),
    MessageSorter.lost_arrive]

end Counters

end Libov
