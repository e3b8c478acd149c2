/-
# The receive loop of `sendsrv` and its deadline

Every turn of the loop waits for a datagram, at most until the reorder deadline.
Only a message that `recv_sec_msg` accepts takes the loop to the sorter; a deadline
that expires, like a datagram that is rejected, leaves the sorter as it is.

* `recvSecMsg_packed` : what is received of a packed message with the session's secret;
* `turn` : one turn of the loop;
* `held_run_iff` : the first buffer holds a message exactly when the last accepted one
  was held back;
* `deadline_releases_iff` : when an expired deadline leaves nothing held.
-/
import Libov.SorterSteps

open Runs

namespace Libov

/-! ## Receiving a packed message -/

/-- The fields of a header, read back from the start of a buffer. -/
theorem read_header {n : ℕ} (b : Buffer n) (secret : Secret) (cid : StageDeviceId) (port : Port)
    (seq : Sequence) (payload : List UInt8) (h : headerLen + payload.length ≤ n) :
    let b := b.write 0 (header secret cid port seq ++ payload)
    UInt32.ofNat (leValue (b.read 0 4)) = secret ∧ UInt8.ofNat (leValue (b.read 4 1)) = cid ∧
      UInt16.ofNat (leValue (b.read 5 2)) = port ∧
      (UInt16.ofNat (leValue (b.read 7 2))).toInt16 = seq ∧
      b.read headerLen payload.length = payload := by
  have hlen : (header secret cid port seq ++ payload).length = headerLen + payload.length := by
    rw [List.length_append, length_header]
  have hslice := fun off len (ho : off + len ≤ headerLen + payload.length) =>
    b.read_write_slice (header secret cid port seq ++ payload) off len (by rw [hlen]; exact ho)
      (by rw [hlen]; exact h)
  have h4 := secret.toNat_lt
  have h2 := port.toNat_lt
  have h2' := seq.toUInt16.toNat_lt
  have h9 : headerLen = 9 := rfl
  intro b
  refine ⟨?_, ?_, ?_, ?_, ?_⟩
  · rw [hslice 0 4 (by omega)]
    show UInt32.ofNat (leValue (leBytes 4 secret.toNat)) = secret
    rw [leValue_leBytes_of_lt (by omega), UInt32.ofNat_toNat]
  · rw [hslice 4 1 (by omega)]
    show UInt8.ofNat (leValue [cid]) = cid
    exact UInt8.ofNat_toNat
  · rw [hslice 5 2 (by omega)]
    show UInt16.ofNat (leValue (leBytes 2 port.toNat)) = port
    rw [leValue_leBytes_of_lt (by omega), UInt16.ofNat_toNat]
  · rw [hslice 7 2 (by omega)]
    show (UInt16.ofNat (leValue (leBytes 2 seq.toUInt16.toNat))).toInt16 = seq
    rw [leValue_leBytes_of_lt (by omega), UInt16.ofNat_toNat]
    rfl
  · rw [hslice headerLen payload.length le_rfl, List.drop_left' (length_header _ _ _ _),
      List.take_length]

/-- A packed message with the session's secret is accepted, with the fields it was
packed from and the address it came from. -/
theorem recvSecMsg_packed (secret : Secret) (cid : StageDeviceId) (port : Port) (seq : Sequence)
    (payload : List UInt8) (h : headerLen + payload.length ≤ bufSize) (m : MsgBuf)
    (addr : Endpoint) :
    ∃ raw : Buffer bufSize,
      recvSecMsg secret m (some (header secret cid port seq ++ payload, addr)) =
        (true, ⟨true, cid, port, seq, payload.length, raw, headerLen, addr⟩) ∧
      raw.read headerLen payload.length = payload := by
  have hlen : (header secret cid port seq ++ payload).length = headerLen + payload.length := by
    rw [List.length_append, length_header]
  obtain ⟨hsecret, hcid, hport, hseq, hpayload⟩ :=
    read_header m.rawbuffer secret cid port seq payload h
  refine ⟨_, ?_, hpayload⟩
  have htake : (header secret cid port seq ++ payload).take bufSize
      = header secret cid port seq ++ payload := List.take_of_length_le (by rw [hlen]; exact h)
  -- neither too short nor with another secret, and it fits into the buffer
  have hlong : ¬ headerLen + payload.length < headerLen := by omega
  unfold recvSecMsg
  simp only [htake, hlen]
  rw [if_neg hlong, if_neg (not_not_intro hsecret), MsgBuf.unpack,
    if_pos ⟨Nat.le_add_right _ _, h⟩]
  simp only [hcid, hport, hseq, Nat.add_sub_cancel_left]

/-! ## One turn of the loop -/

/-- The sorter and the receive buffer `msg`.  What `process_msg` writes into the receive
buffer is overwritten by the next receive. -/
structure SendsrvLoop where
  sorter : MessageSorter
  msg : MsgBuf

/-- The loop before its first turn; the buffers' addresses are uninitialised. -/
def SendsrvLoop.fresh (sender1 sender2 sender : Endpoint) : SendsrvLoop :=
  { sorter := MessageSorter.fresh sender1 sender2, msg := MsgBuf.init sender }

/-- What arrives until the deadline: a datagram and its address, or nothing. -/
abbrev Received := Option (List UInt8 × Endpoint)

section Turn

variable (secret : Secret) (x : SendsrvLoop) (rx : Received)

/-- One turn of `while(runsession)`: the messages handed to `process_msg` and the loop
behind the turn. -/
def turn : List MsgBuf × SendsrvLoop :=
  let r := recvSecMsg secret x.msg rx
  if r.1 then
    let d := drain ⟨x.sorter, r.2, .msg⟩
    (d.1, ⟨d.2.sorter, d.2.msg⟩)
  -- the deadline, or a datagram that is rejected: `process` is not called
  else ([], ⟨x.sorter, r.2⟩)

def loopStep : SendsrvLoop := (turn secret x rx).2

/-- `can_process`. -/
def Accepted : Prop := (recvSecMsg secret x.msg rx).1 = true

/-- The message as it has been unpacked into the receive buffer. -/
def incoming : MsgBuf := (recvSecMsg secret x.msg rx).2

/-- The turn receives a data message and holds it back behind a gap. -/
def HeldBack : Prop :=
  Accepted secret x rx ∧ maxSpecialPort < (incoming secret x rx).destport ∧
    x.sorter.Gap (incoming secret x rx)

instance : Decidable (Accepted secret x rx) := inferInstanceAs (Decidable (_ = _))

instance : Decidable (HeldBack secret x rx) := inferInstanceAs (Decidable (_ ∧ _))

variable {secret x rx}

/-- An accepted message goes through the sorter. -/
theorem turn_accepted (h : Accepted secret x rx) :
    (turn secret x rx).1 = (feed x.sorter (incoming secret x rx)).1 ∧
      (loopStep secret x rx).sorter = (feed x.sorter (incoming secret x rx)).2 := by
  unfold loopStep turn
  simp only [show (recvSecMsg secret x.msg rx).1 = true from h, if_true]
  exact ⟨rfl, rfl⟩

/-- A turn without a message leaves the sorter as it is. -/
theorem turn_idle (h : ¬ Accepted secret x rx) :
    (turn secret x rx).1 = [] ∧ (loopStep secret x rx).sorter = x.sorter := by
  have hfalse : (recvSecMsg secret x.msg rx).1 = false := Bool.eq_false_iff.mpr h
  unfold loopStep turn
  simp only [hfalse, Bool.false_eq_true, if_false]
  exact ⟨trivial, trivial⟩

/-- No message is accepted when the deadline expires. -/
theorem not_accepted_none : ¬ Accepted secret x none := Bool.false_ne_true

/-- An accepted message is valid, with its payload behind the header. -/
theorem incoming_accepted (h : Accepted secret x rx) :
    (incoming secret x rx).valid = true ∧ (incoming secret x rx).msg = headerLen :=
  recvSecMsg_accepted h

variable (secret rx) in
/-- What a turn can do: nothing, deliver a control message, hold a data message back, or
deliver it behind or in front of the held one. -/
theorem turn_cases (hbuf2 : x.sorter.buf2.valid = false) :
    (¬ Accepted secret x rx ∧ (turn secret x rx).1 = [] ∧
        (loopStep secret x rx).sorter = x.sorter) ∨
    (Accepted secret x rx ∧ (incoming secret x rx).destport ≤ maxSpecialPort ∧
        (turn secret x rx).1 = (incoming secret x rx).invalidate :: x.sorter.released ∧
        (loopStep secret x rx).sorter = x.sorter.flush) ∨
    (HeldBack secret x rx ∧ (turn secret x rx).1 = [] ∧
        (loopStep secret x rx).sorter = x.sorter.hold (incoming secret x rx)) ∨
    (Accepted secret x rx ∧ (maxSpecialPort < (incoming secret x rx).destport ∧
        ¬ x.sorter.Gap (incoming secret x rx)) ∧ x.sorter.Swap (incoming secret x rx) ∧
        (turn secret x rx).1 = [x.sorter.buf1.invalidate,
          (x.sorter.buf2.copy (incoming secret x rx)).invalidate] ∧
        (loopStep secret x rx).sorter = x.sorter.swap (incoming secret x rx)) ∨
    (Accepted secret x rx ∧ (maxSpecialPort < (incoming secret x rx).destport ∧
        ¬ x.sorter.Gap (incoming secret x rx)) ∧ ¬ x.sorter.Swap (incoming secret x rx) ∧
        (turn secret x rx).1 = (incoming secret x rx).invalidate :: x.sorter.released ∧
        (loopStep secret x rx).sorter = x.sorter.pass (incoming secret x rx)) := by
  by_cases hacc : Accepted secret x rx
  · obtain ⟨hvalid, -⟩ := incoming_accepted hacc
    obtain ⟨hlist, hsorter⟩ := turn_accepted hacc
    refine Or.inr ?_
    rw [hlist, hsorter]
    rcases feed_cases hvalid hbuf2 with ⟨hspecial, hfeed⟩ | ⟨hheld, hfeed⟩ |
      ⟨hport, hswap, hfeed⟩ | ⟨hport, hswap, hfeed⟩
    · rw [hfeed]
      exact Or.inl ⟨hacc, hspecial, rfl, rfl⟩
    · rw [hfeed]
      exact Or.inr (Or.inl ⟨⟨hacc, hheld⟩, rfl, rfl⟩)
    · rw [hfeed]
      exact Or.inr (Or.inr (Or.inl ⟨hacc, hport, hswap, rfl, rfl⟩))
    · rw [hfeed]
      exact Or.inr (Or.inr (Or.inr ⟨hacc, hport, hswap, rfl, rfl⟩))
  · exact Or.inl ⟨hacc, turn_idle hacc⟩

/-- The second buffer is free between the turns. -/
theorem buf2_invalid_loopStep (h : x.sorter.buf2.valid = false) :
    (loopStep secret x rx).sorter.buf2.valid = false := by
  rcases turn_cases secret rx h with ⟨-, -, hs⟩ | ⟨-, -, -, hs⟩ |
    ⟨-, -, hs⟩ | ⟨-, -, -, -, hs⟩ | ⟨-, -, -, -, hs⟩
  · rw [hs]
    exact h
  · rw [hs, MessageSorter.buf2_flush]
    exact h
  · rw [hs]
    exact h
  · rw [hs]
    rfl
  · rw [hs, MessageSorter.pass, MessageSorter.buf2_flush]
    exact h

/-- The first buffer holds a message behind a turn that holds one back, and behind a
turn without a message if it held one before. -/
theorem buf1_valid_loopStep (h : x.sorter.buf2.valid = false) :
    (loopStep secret x rx).sorter.buf1.valid = true ↔
      HeldBack secret x rx ∨ (¬ Accepted secret x rx ∧ x.sorter.buf1.valid = true) := by
  rcases turn_cases secret rx h with ⟨hidle, -, hs⟩ |
    ⟨hacc, hspecial, -, hs⟩ | ⟨hheld, -, hs⟩ | ⟨hacc, ⟨-, hgap⟩, -, -, hs⟩ |
    ⟨hacc, ⟨-, hgap⟩, -, -, hs⟩
  · rw [hs, or_iff_right fun hheld => hidle hheld.1, and_iff_right hidle]
  · -- a control message: whatever is held goes out
    rw [hs, MessageSorter.buf1_invalid_flush, or_iff_left fun hidle => hidle.1 hacc]
    exact iff_of_false Bool.false_ne_true fun hheld =>
      absurd hspecial (UInt16.not_le.mpr hheld.2.1)
  · rw [hs]
    exact iff_of_true (incoming_accepted hheld.1).1 (Or.inl hheld)
  · rw [hs, or_iff_left fun hidle => hidle.1 hacc]
    exact iff_of_false Bool.false_ne_true fun hheld => hgap hheld.2.2
  · rw [hs, MessageSorter.buf1_invalid_pass, or_iff_left fun hidle => hidle.1 hacc]
    exact iff_of_false Bool.false_ne_true fun hheld => hgap hheld.2.2

end Turn

/-! ## Whole runs -/

section Run

variable (secret : Secret) (x : SendsrvLoop)

/-- The last message that the loop has accepted was held back: since then only deadlines
have expired or datagrams have been rejected. -/
def HeldLast (rxs : List Received) : Prop :=
  ∃ before rx idle, rxs = before ++ rx :: idle ∧
    HeldBack secret (run (loopStep secret) x before) rx ∧
    AllSteps (loopStep secret) (fun x rx => ¬ Accepted secret x rx)
      (run (loopStep secret) x (before ++ [rx])) idle

theorem heldLast_append_one (rxs : List Received) (rx : Received) :
    HeldLast secret x (rxs ++ [rx]) ↔
      HeldBack secret (run (loopStep secret) x rxs) rx ∨
        (¬ Accepted secret (run (loopStep secret) x rxs) rx ∧ HeldLast secret x rxs) :=
  latest_append_one

variable {secret x}

theorem buf2_invalid_loop (h : x.sorter.buf2.valid = false) (rxs : List Received) :
    (run (loopStep secret) x rxs).sorter.buf2.valid = false :=
  invariant_run_of_step (I := fun x : SendsrvLoop => x.sorter.buf2.valid = false)
    (fun _ _ h => buf2_invalid_loopStep h) h rxs

variable (secret x) in
/-- The first buffer holds a message exactly when the last accepted one was held back. -/
theorem held_run_iff (h1 : x.sorter.buf1.valid = false) (h2 : x.sorter.buf2.valid = false)
    (rxs : List Received) :
    (run (loopStep secret) x rxs).sorter.buf1.valid = true ↔ HeldLast secret x rxs := by
  have hkeep : ∀ (x : SendsrvLoop) (rx : Received), x.sorter.buf2.valid = false →
      (loopStep secret x rx).sorter.buf2.valid = false := fun _ _ h => buf2_invalid_loopStep h
  have hstep : ∀ (x : SendsrvLoop) (rx : Received), x.sorter.buf2.valid = false →
      ((loopStep secret x rx).sorter.buf1.valid = true ↔ HeldBack secret x rx ∨
        (¬ Accepted secret x rx ∧ x.sorter.buf1.valid = true)) :=
    fun _ _ h => buf1_valid_loopStep h
  have hstart : ¬ x.sorter.buf1.valid = true := by
    rw [h1]
    exact Bool.false_ne_true
  exact run_iff_latest (P := fun x : SendsrvLoop => x.sorter.buf1.valid = true) hkeep hstep h2
    hstart rxs

end Run

/-- Nothing is held back whenever the deadline has expired, exactly when it never
expires behind a message that was held back, before another one is accepted. -/
theorem deadline_releases_iff (secret : Secret) (sender1 sender2 sender : Endpoint)
    (rxs : List Received) :
    (∀ before after, rxs = before ++ none :: after →
      (run (loopStep secret) (SendsrvLoop.fresh sender1 sender2 sender)
          (before ++ [none])).sorter.buf1.valid = false ∧
        (run (loopStep secret) (SendsrvLoop.fresh sender1 sender2 sender)
          (before ++ [none])).sorter.buf2.valid = false) ↔
      ∀ before after, rxs = before ++ none :: after →
        ¬ HeldLast secret (SendsrvLoop.fresh sender1 sender2 sender) before := by
  have hheld := held_run_iff secret (SendsrvLoop.fresh sender1 sender2 sender) rfl rfl
  constructor
  · intro hreleased before after hsplit hlast
    have hvalid := (hheld (before ++ [none])).mpr
      ((heldLast_append_one secret _ before none).mpr (Or.inr ⟨not_accepted_none, hlast⟩))
    exact Bool.false_ne_true ((hreleased before after hsplit).1.symm.trans hvalid)
  · intro hnever before after hsplit
    refine ⟨Bool.eq_false_iff.mpr fun hvalid => ?_, buf2_invalid_loop rfl _⟩
    rcases (heldLast_append_one secret _ before none).mp ((hheld _).mp hvalid) with hback | hlast
    · exact not_accepted_none hback.1
    · exact hnever before after hsplit hlast.2

/-- The number `2` on a new stream is held back. -/
theorem heldBack_second :
    HeldBack 7 (SendsrvLoop.fresh Endpoint.cleared Endpoint.cleared Endpoint.cleared)
      (some (header 7 1 1234 2 ++ [], Endpoint.cleared)) := by
  let x := SendsrvLoop.fresh Endpoint.cleared Endpoint.cleared Endpoint.cleared
  obtain ⟨raw, hreceived, -⟩ := recvSecMsg_packed 7 1 1234 2 [] (by decide) x.msg Endpoint.cleared
  have hincoming : incoming 7 x (some (header 7 1 1234 2 ++ [], Endpoint.cleared))
      = ⟨true, 1, 1234, 2, 0, raw, headerLen, Endpoint.cleared⟩ := congrArg Prod.snd hreceived
  have hport : maxSpecialPort < (1234 : Port) := by decide
  have hahead : 1 < (2 : Sequence) - 0 := by decide
  unfold HeldBack
  rw [hincoming]
  exact ⟨congrArg Prod.fst hreceived, hport, hahead, hahead⟩

/-- The number `2` on a new stream, and then silence: the message is still held when the
deadline has expired. -/
theorem deadline_keeps_message :
    ¬ (run (loopStep 7) (SendsrvLoop.fresh Endpoint.cleared Endpoint.cleared Endpoint.cleared)
      [some (header 7 1 1234 2 ++ [], Endpoint.cleared), none]).sorter.buf1.valid = false := by
  let x := SendsrvLoop.fresh Endpoint.cleared Endpoint.cleared Endpoint.cleared
  have hlast : HeldLast 7 x [some (header 7 1 1234 2 ++ [], Endpoint.cleared), none] :=
    ⟨[], _, [none], rfl, heldBack_second, not_accepted_none, trivial⟩
  intro hinvalid
  exact Bool.false_ne_true (hinvalid.symm.trans ((held_run_iff 7 x rfl rfl _).mpr hlast))

end Libov
