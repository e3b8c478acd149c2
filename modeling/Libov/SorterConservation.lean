/-
# Does the sorter keep every message?

Every message fed to the sorter is delivered, held in one of the two buffers, or
lost because another message was copied over it.  The step lemma
`feed_ledger` is that balance for one message; between two messages the second
buffer is always free (`buf2_invalid_feed`), so a loss can only happen where a
message is held back while the first buffer still holds one (`Overwrites`).

* `sorter_conservation_iff` : over a whole sequence nothing is lost and nothing
  comes twice exactly when that never happens;
* `sorter_drops_held_message` : two gaps in a row make it happen.
-/
import Libov.MessageSorter
import Libov.Runs

open Runs

namespace Libov

/-! ## Messages and what is counted -/

/-- What a message carries: sender id, port, number and payload. -/
abbrev Content := StageDeviceId × Port × Sequence × List UInt8

def MsgBuf.content (m : MsgBuf) : Content := (m.cid, m.destport, m.seq, m.payload)

@[simp] theorem MsgBuf.content_invalidate (m : MsgBuf) : m.invalidate.content = m.content := rfl

/-- Copying keeps the content, as the payload of an unpacked message starts
right behind the header. -/
theorem MsgBuf.content_copy (m src : MsgBuf) (h : src.msg = headerLen) :
    (m.copy src).content = src.content := by
  show (src.cid, src.destport, src.seq, src.rawbuffer.read headerLen src.size) = src.content
  rw [← h]
  rfl

/-- A received data message: valid, with a port behind the reserved ones and its
payload behind the header. -/
structure DataMsg where
  toMsgBuf : MsgBuf
  valid : toMsgBuf.valid = true
  port : maxSpecialPort < toMsgBuf.destport
  offset : toMsgBuf.msg = headerLen

/-- What `recv_sec_msg` accepts is valid and has its payload behind the header. -/
theorem recvSecMsg_accepted {secret : Secret} {m : MsgBuf} {rx : Option (List UInt8 × Endpoint)}
    (h : (recvSecMsg secret m rx).1 = true) :
    (recvSecMsg secret m rx).2.valid = true ∧ (recvSecMsg secret m rx).2.msg = headerLen := by
  unfold recvSecMsg at h ⊢
  cases rx with
  | none => exact absurd h Bool.false_ne_true
  | some r =>
      simp only at h ⊢
      split_ifs at h ⊢ with hlen hsecret
      refine ⟨h, ?_⟩
      -- `unpack` sets the valid flag only together with the payload pointer
      unfold MsgBuf.unpack at h ⊢
      split_ifs at h ⊢ with hsize
      · rfl

/-- A received message with a data port. -/
def DataMsg.received {secret : Secret} {m : MsgBuf} {rx : Option (List UInt8 × Endpoint)}
    (h : (recvSecMsg secret m rx).1 = true)
    (hport : maxSpecialPort < (recvSecMsg secret m rx).2.destport) : DataMsg :=
  ⟨(recvSecMsg secret m rx).2, (recvSecMsg_accepted h).1, hport, (recvSecMsg_accepted h).2⟩

/-! ## One message -/

/-- The contents of the messages held valid in the two buffers. -/
def MessageSorter.held (s : MessageSorter) : Multiset Content :=
  (s.heldList.map MsgBuf.content : List Content)

/-- The contents delivered for a message. -/
def delivered (s : MessageSorter) (m : DataMsg) : Multiset Content :=
  ((feed s m.toMsgBuf).1.map MsgBuf.content : List Content)

/-- The sorter behind a message. -/
def sorterStep (s : MessageSorter) (m : DataMsg) : MessageSorter := (feed s m.toMsgBuf).2

/-- The message is held back while the first buffer still holds another one. -/
def Overwrites (s : MessageSorter) (m : DataMsg) : Prop :=
  s.Gap m.toMsgBuf ∧ s.buf1.valid = true

instance (s : MessageSorter) (m : DataMsg) : Decidable (Overwrites s m) :=
  inferInstanceAs (Decidable (_ ∧ _))

/-- The contents that are lost when a message arrives. -/
def overwritten (s : MessageSorter) (m : DataMsg) : Multiset Content :=
  if Overwrites s m then {s.buf1.content} else 0

theorem overwritten_eq_zero_iff (s : MessageSorter) (m : DataMsg) :
    overwritten s m = 0 ↔ ¬ Overwrites s m := by
  unfold overwritten
  by_cases h : Overwrites s m
  · rw [if_pos h]
    exact iff_of_false (Multiset.singleton_ne_zero _) (not_not_intro h)
  · rw [if_neg h]
    exact iff_of_true rfl h

/-- Between two messages the second buffer is free. -/
theorem buf2_invalid_feed (s : MessageSorter) (m : DataMsg) (h : s.buf2.valid = false) :
    (sorterStep s m).buf2.valid = false := by
  by_cases hgap : s.Gap m.toMsgBuf
  · rw [sorterStep, (feed_gap m.valid m.port hgap).2.2.1]
    exact h
  · by_cases hswap : s.Swap m.toMsgBuf
    · exact (feed_swap m.valid m.port hgap hswap).2.2
    · exact (feed_direct m.valid m.port hgap hswap).2.2

theorem held_of_buf2_invalid {s : MessageSorter} (h : s.buf2.valid = false) :
    s.held = if s.buf1.valid then {s.buf1.content} else 0 := by
  unfold MessageSorter.held MessageSorter.heldList
  rw [h]
  cases s.buf1.valid with
  | false => rfl
  | true => rfl

/-- The balance of one message: delivered, held and overwritten make up what was
held before and the message. -/
theorem feed_ledger (s : MessageSorter) (m : DataMsg) (h : s.buf2.valid = false) :
    delivered s m + (sorterStep s m).held + overwritten s m
      = s.held + {m.toMsgBuf.content} := by
  have hnext := buf2_invalid_feed s m h
  rw [held_of_buf2_invalid h, held_of_buf2_invalid hnext]
  unfold delivered sorterStep
  by_cases hgap : s.Gap m.toMsgBuf
  · -- held back: the message takes the place of what the first buffer held
    obtain ⟨hlist, hbuf1, -⟩ := feed_gap m.valid m.port hgap
    have hvalid : (s.buf1.copy m.toMsgBuf).valid = true := m.valid
    have hlost : overwritten s m = if s.buf1.valid then {s.buf1.content} else 0 := by
      simp only [overwritten, Overwrites, hgap, true_and]
    rw [hlist, hbuf1, hlost, if_pos hvalid, MsgBuf.content_copy _ _ m.offset, List.map_nil,
      Multiset.coe_nil, zero_add, add_comm]
  · have hlost : overwritten s m = 0 := (overwritten_eq_zero_iff s m).mpr fun h => hgap h.1
    rw [hlost, add_zero]
    by_cases hswap : s.Swap m.toMsgBuf
    · -- the held message and the new one are delivered
      obtain ⟨hlist, hbuf1, -⟩ := feed_swap m.valid m.port hgap hswap
      have hheld : s.buf1.valid = true := hswap.2.1
      rw [hlist, hbuf1, if_pos hheld]
      simp only [List.map_cons, List.map_nil, MsgBuf.content_invalidate,
        MsgBuf.content_copy _ _ m.offset, Bool.false_eq_true, if_false, add_zero]
      rfl
    · -- the new message and everything held are delivered
      obtain ⟨hlist, hbuf1, -⟩ := feed_direct m.valid m.port hgap hswap
      rw [hlist, hbuf1, ← held_of_buf2_invalid h, MessageSorter.held, List.map_cons,
        MsgBuf.content_invalidate, ← Multiset.cons_coe, ← Multiset.singleton_add]
      simp only [Bool.false_eq_true, if_false, add_zero]
      rw [add_comm]

/-! ## Whole sequences -/

/-- `sendsrv` on a sequence of received messages: everything delivered, in order,
and the sorter at the end. -/
def sendsrv : MessageSorter → List DataMsg → List MsgBuf × MessageSorter
  | s, [] => ([], s)
  | s, m :: ms =>
    let r := feed s m.toMsgBuf
    let rest := sendsrv r.2 ms
    (r.1 ++ rest.1, rest.2)

/-- Delivered messages and messages still held are together the messages fed:
nothing is dropped and nothing is delivered twice. -/
def Conserved (s : MessageSorter) (ms : List DataMsg) : Prop :=
  (((sendsrv s ms).1.map MsgBuf.content : List Content) : Multiset Content)
      + (sendsrv s ms).2.held
    = s.held + ((ms.map fun m => m.toMsgBuf.content : List Content) : Multiset Content)

/-- `sendsrv` is the run of `sorterStep`, and it delivers what the steps deliver. -/
theorem sendsrv_run (s : MessageSorter) (ms : List DataMsg) :
    (((sendsrv s ms).1.map MsgBuf.content : List Content) : Multiset Content)
        = total sorterStep delivered s ms
      ∧ (sendsrv s ms).2 = run sorterStep s ms := by
  induction ms generalizing s with
  | nil => exact ⟨rfl, rfl⟩
  | cons m ms ih =>
      obtain ⟨hdel, hrun⟩ := ih (sorterStep s m)
      refine ⟨?_, hrun⟩
      rw [total, ← hdel]
      show ((((feed s m.toMsgBuf).1 ++ (sendsrv (sorterStep s m) ms).1).map MsgBuf.content :
        List Content) : Multiset Content) = _
      rw [List.map_append, ← Multiset.coe_add]
      rfl

theorem sum_singletons (ms : List DataMsg) :
    (ms.map fun m => ({m.toMsgBuf.content} : Multiset Content)).sum
      = ((ms.map fun m => m.toMsgBuf.content : List Content) : Multiset Content) := by
  induction ms with
  | nil => rfl
  | cons m ms ih =>
      rw [List.map_cons, List.sum_cons, ih, List.map_cons, ← Multiset.cons_coe,
        Multiset.singleton_add]

/-- From a sorter whose second buffer is free, conservation fails exactly when a
message is held back over another one. -/
theorem conserved_iff (s : MessageSorter) (h : s.buf2.valid = false) (ms : List DataMsg) :
    Conserved s ms ↔ AllSteps sorterStep (fun s m => ¬ Overwrites s m) s ms := by
  obtain ⟨hdel, hrun⟩ := sendsrv_run s ms
  have hbalance := balanced_iff (I := fun s : MessageSorter => s.buf2.valid = false)
    buf2_invalid_feed feed_ledger h ms
  simp only [overwritten_eq_zero_iff] at hbalance
  rw [← hbalance, Conserved, hdel, hrun, sum_singletons]

/-- Fed to a fresh sorter, a sequence of data messages is conserved exactly when
no message of it is held back while the first buffer is valid. -/
theorem sorter_conservation_iff (sender1 sender2 : Endpoint) (ms : List DataMsg) :
    Conserved (MessageSorter.fresh sender1 sender2) ms
      ↔ AllSteps sorterStep (fun s m => ¬ Overwrites s m)
          (MessageSorter.fresh sender1 sender2) ms :=
  conserved_iff _ rfl ms

/-- A data message without payload. -/
def emptyMsg (cid : StageDeviceId) (destport : Port) (seq : Sequence)
    (hport : maxSpecialPort < destport) : DataMsg :=
  ⟨{ MsgBuf.init Endpoint.cleared with
      valid := true, cid := cid, destport := destport, seq := seq, msg := headerLen },
    rfl, hport, rfl⟩

/-- The port of the streams in the examples. -/
theorem dataPort : maxSpecialPort < 1234 := by decide

/-- Numbers `2` and `4` on a new stream: the first is held back, then the second
is copied over it. -/
theorem sorter_drops_held_message :
    ¬ Conserved (MessageSorter.fresh Endpoint.cleared Endpoint.cleared)
      [emptyMsg 1 1234 2 (by decide), emptyMsg 1 1234 4 (by decide)] := by
  rw [conserved_iff _ rfl]
  rintro ⟨-, hsecond, -⟩
  apply hsecond
  obtain ⟨-, hbuf1, -, hin, hout⟩ :=
    feed_gap (s := MessageSorter.fresh Endpoint.cleared Endpoint.cleared)
      (emptyMsg 1 1234 2 (by decide)).valid (emptyMsg 1 1234 2 (by decide)).port (by decide)
  unfold Overwrites MessageSorter.Gap sorterStep
  rw [hbuf1, hin, hout]
  decide

end Libov
