/-
# Rejected datagrams

A datagram that is too short or carries another secret is not handled, but it is left in
the one receive buffer, behind the messages that are received after it.  Everything that a
message makes the client do depends on the bytes of the message alone, with one exception:
for a pong through the relay server without a payload, `process_pong_msg` takes the length
of the payload below zero and reads a ping time from behind the message.

* `MsgBuf.settled` : a message without what its buffer holds behind it;
* `feed_settled`, `handle_settled` : the sorter and `process_msg` do not look there;
* `handle_pong_iff` : what the exception makes of the bytes behind the message;
* `rejected_without_influence_iff` : when the runs with and without rejected datagrams are
  the same.
-/
import Libov.ClientNode

open Runs

namespace Libov

/-! ## What stands behind a message -/

/-- The message in a buffer that holds nothing behind it. -/
def MsgBuf.settled (m : MsgBuf) : MsgBuf :=
  { m with rawbuffer := (Buffer.zero bufSize).write 0 (m.rawbuffer.read 0 (m.msg + m.size)) }

/-- The sorter with its messages in such buffers. -/
def MessageSorter.settled (s : MessageSorter) : MessageSorter :=
  { s with buf1 := s.buf1.settled, buf2 := s.buf2.settled }

section Settled

variable {m src : MsgBuf} {s : MessageSorter}

/-- What stands within the message can be read from the settled buffer. -/
theorem read_settled {off len : ℕ} (h : off + len ≤ m.msg + m.size) :
    m.settled.rawbuffer.read off len = m.rawbuffer.read off len :=
  Buffer.read_write_start _ _ h

@[simp] theorem payload_settled : m.settled.payload = m.payload := read_settled le_rfl

@[simp] theorem cid_settled : m.settled.cid = m.cid := rfl
@[simp] theorem destport_settled : m.settled.destport = m.destport := rfl

@[simp] theorem msg_invalidate : m.invalidate.msg = m.msg := rfl
@[simp] theorem size_invalidate : m.invalidate.size = m.size := rfl
@[simp] theorem rawbuffer_invalidate : m.invalidate.rawbuffer = m.rawbuffer := rfl

@[simp] theorem settled_invalidate : m.invalidate.settled = m.settled.invalidate := rfl

/-- A copy takes what stands in the message and nothing behind it. -/
theorem settled_copy (h : src.msg = headerLen) :
    (m.copy src).settled = m.settled.copy src.settled := by
  unfold MsgBuf.settled MsgBuf.copy
  rw [h]

namespace MessageSorter

/-- The held message is settled with the sorter. -/
theorem settled_hold (h : m.msg = headerLen) : (s.hold m).settled = s.settled.hold m.settled := by
  show { s.arrive m with buf1 := (s.buf1.copy m).settled, buf2 := s.buf2.settled } = _
  rw [settled_copy h]
  rfl

/-- A release does not look behind its message. -/
theorem settled_flush (s : MessageSorter) : s.flush.settled = s.settled.flush := by
  unfold flush
  by_cases hvalid : s.buf1.valid = true
  · have hvalid' : s.settled.buf1.valid = true := hvalid
    rw [if_pos hvalid, if_pos hvalid']
    rfl
  · have hvalid' : ¬ s.settled.buf1.valid = true := hvalid
    rw [if_neg hvalid, if_neg hvalid']

/-- A message that is passed on takes nothing along from behind it. -/
theorem settled_pass (s : MessageSorter) (m : MsgBuf) :
    (s.pass m).settled = s.settled.pass m.settled := by
  unfold pass
  rw [settled_flush]
  rfl

/-- Nor do the two messages of a swap. -/
theorem settled_swap (h : m.msg = headerLen) : (s.swap m).settled = s.settled.swap m.settled := by
  have hcopy : (s.buf2.copy m).settled = s.settled.buf2.copy m.settled := settled_copy h
  unfold swap
  rw [← hcopy]
  rfl

/-- What is released is settled with the sorter. -/
theorem map_settled_released (s : MessageSorter) :
    s.released.map MsgBuf.settled = s.settled.released := by
  unfold released
  by_cases hvalid : s.buf1.valid = true
  · have hvalid' : s.settled.buf1.valid = true := hvalid
    rw [if_pos hvalid, if_pos hvalid']
    rfl
  · have hvalid' : ¬ s.settled.buf1.valid = true := hvalid
    rw [if_neg hvalid, if_neg hvalid']
    rfl

end MessageSorter

/-- The sorter does not look behind the messages. -/
theorem feed_settled (hvalid : m.valid = true) (hmsg : m.msg = headerLen)
    (hbuf2 : s.buf2.valid = false) :
    feed s.settled m.settled = ((feed s m).1.map MsgBuf.settled, (feed s m).2.settled) := by
  by_cases hspecial : m.destport ≤ maxSpecialPort
  · rw [feed_eq_special hvalid hspecial hbuf2,
      feed_eq_special (m := m.settled) (s := s.settled) hvalid hspecial hbuf2, List.map_cons,
      s.map_settled_released, s.settled_flush]
    rfl
  · have hport := UInt16.not_le.mp hspecial
    by_cases hgap : s.Gap m
    · rw [feed_eq_hold hvalid hport hgap,
        feed_eq_hold (m := m.settled) (s := s.settled) hvalid hport hgap, s.settled_hold hmsg]
      rfl
    · by_cases hswap : s.Swap m
      · rw [feed_eq_swap hvalid hport hgap hswap,
          feed_eq_swap (m := m.settled) (s := s.settled) hvalid hport hgap hswap,
          s.settled_swap hmsg]
        have hcopy : (s.buf2.copy m).settled = s.settled.buf2.copy m.settled := settled_copy hmsg
        simp only [List.map_cons, List.map_nil, settled_invalidate, hcopy]
        rfl
      · rw [feed_eq_pass hvalid hport hbuf2 hgap hswap,
          feed_eq_pass (m := m.settled) (s := s.settled) hvalid hport hbuf2 hgap hswap,
          List.map_cons, s.map_settled_released, s.settled_pass]
        rfl

end Settled

/-! ## Receiving -/

/-- Whether a datagram is accepted does not depend on the receive buffer, and neither does
the message, but for what stands behind it. -/
theorem recvSecMsg_settled (secret : Secret) (m m' : MsgBuf) (rx : Received) :
    (recvSecMsg secret m rx).1 = (recvSecMsg secret m' rx).1 ∧
      ((recvSecMsg secret m rx).1 = true →
        (recvSecMsg secret m rx).2.settled = (recvSecMsg secret m' rx).2.settled) := by
  cases rx with
  | none => exact ⟨rfl, fun h => absurd h Bool.false_ne_true⟩
  | some received =>
      obtain ⟨bytes, addr⟩ := received
      rw [← recvSecMsg_cut, ← recvSecMsg_cut m']
      have hfit : (bytes.take bufSize).length ≤ bufSize := List.length_take_le _ _
      generalize bytes.take bufSize = bytes at hfit
      by_cases hrejected : bytes.length < headerLen ∨ msgSecret bytes ≠ secret
      · rw [(recvSecMsg_rejected m addr hrejected).1, (recvSecMsg_rejected m' addr hrejected).1]
        exact ⟨rfl, fun h => absurd h Bool.false_ne_true⟩
      · obtain ⟨hlong, hsecret⟩ := not_or.mp hrejected
        have hlen : headerLen + (bytes.length - headerLen) = bytes.length := by omega
        rw [recvSecMsg_of_secret m addr (not_lt.mp hlong) hfit (not_not.mp hsecret),
          recvSecMsg_of_secret m' addr (not_lt.mp hlong) hfit (not_not.mp hsecret)]
        refine ⟨rfl, fun _ => ?_⟩
        unfold MsgBuf.settled
        rw [hlen, Buffer.read_write_zero _ _ _ rfl hfit, Buffer.read_write_zero _ _ _ rfl hfit]

section Turn

variable {secret : Secret} {x y : SendsrvLoop} {rx : Received}

/-- Whether a datagram is accepted does not depend on what the buffer held before. -/
theorem accepted_congr : Accepted secret x rx ↔ Accepted secret y rx := by
  unfold Accepted
  rw [(recvSecMsg_settled secret x.msg y.msg rx).1]

/-- An accepted datagram leaves the same message in any buffer. -/
theorem settled_incoming (h : Accepted secret x rx) :
    (incoming secret x rx).settled = (incoming secret y rx).settled :=
  (recvSecMsg_settled secret x.msg y.msg rx).2 h

variable (secret rx) in
/-- Where the sorters agree, the same messages are delivered, and the sorters agree behind. -/
theorem turn_settled (hbuf2 : x.sorter.buf2.valid = false)
    (hsorter : x.sorter.settled = y.sorter.settled) :
    (turn secret x rx).1.map MsgBuf.settled = (turn secret y rx).1.map MsgBuf.settled ∧
      (loopStep secret x rx).sorter.settled = (loopStep secret y rx).sorter.settled := by
  by_cases hacc : Accepted secret x rx
  · have hacc' : Accepted secret y rx := accepted_congr.mp hacc
    have hbuf2' : y.sorter.buf2.valid = false :=
      (congrArg (fun s : MessageSorter => s.buf2.valid) hsorter).symm.trans hbuf2
    obtain ⟨hvalid, hmsg⟩ := incoming_accepted hacc
    obtain ⟨hvalid', hmsg'⟩ := incoming_accepted hacc'
    have hx := feed_settled hvalid hmsg hbuf2
    have hy := feed_settled hvalid' hmsg' hbuf2'
    rw [hsorter, settled_incoming hacc, hy] at hx
    obtain ⟨hlist, hnext⟩ := Prod.mk.inj hx
    rw [(turn_accepted hacc).1, (turn_accepted hacc).2, (turn_accepted hacc').1,
      (turn_accepted hacc').2]
    exact ⟨hlist.symm, hnext.symm⟩
  · have hidle : ¬ Accepted secret y rx := mt accepted_congr.mpr hacc
    rw [(turn_idle hacc).1, (turn_idle hacc).2, (turn_idle hidle).1, (turn_idle hidle).2]
    exact ⟨rfl, hsorter⟩

end Turn

/-! ## Handling -/

section Handle

variable {L : Sodium} {clock : List UInt8 → ℚ} {locked : Bool} {c : ClientState} {m m' : MsgBuf}

/-- The plaintext of a message is read from within it. -/
theorem plaintext_settled (B : Receiver) : B.plaintext L m.settled = B.plaintext L m := by
  unfold Receiver.plaintext
  rw [payload_settled]
  rfl

/-- Data is handed on from within the message. -/
theorem processData_settled (B : Receiver) :
    B.processData L m.settled = { B.processData L m with msg := m.settled } := by
  unfold Receiver.processData
  rw [plaintext_settled]
  by_cases hnet : isSameNetwork m.sender B.localep = true
  · have hnet' : isSameNetwork m.settled.sender B.localep = true := hnet
    simp only [if_pos hnet, if_pos hnet']
    rfl
  · have hnet' : ¬ isSameNetwork m.settled.sender B.localep = true := hnet
    simp only [if_neg hnet, if_neg hnet']
    rfl

/-- The arguments of a control call are read from within the message. -/
theorem controlCall_settled : controlCall m.settled = controlCall m := by
  unfold controlCall
  rw [payload_settled]
  rfl

/-- So is the decision for which messages a call is made. -/
theorem calledFor_settled (callerid : StageDeviceId) :
    calledFor callerid m.settled = calledFor callerid m := by
  unfold calledFor
  rw [controlCall_settled, cid_settled, destport_settled]

/-- What `process_msg` does itself does not depend on what stands behind the message. -/
theorem processMsg_settled (B : Receiver) :
    processMsg L B m.settled = { processMsg L B m with msg := m.settled.invalidate } := by
  have hdata := processData_settled (L := L) (m := m.invalidate) B
  have hcall := controlCall_settled (m := m.invalidate)
  rw [settled_invalidate] at hdata hcall
  unfold processMsg
  by_cases hown : m.invalidate.cid = B.client.callerid ∧ m.invalidate.destport ≠ portListcid ∧
      m.invalidate.destport ≠ portPubkey
  · have hown' : m.settled.invalidate.cid = B.client.callerid ∧
        m.settled.invalidate.destport ≠ portListcid ∧
        m.settled.invalidate.destport ≠ portPubkey := hown
    dsimp only
    rw [if_pos hown, if_pos hown']
  · have hown' : ¬ (m.settled.invalidate.cid = B.client.callerid ∧
        m.settled.invalidate.destport ≠ portListcid ∧
        m.settled.invalidate.destport ≠ portPubkey) := hown
    dsimp only
    rw [if_neg hown, if_neg hown']
    by_cases hport : maxSpecialPort < m.invalidate.destport
    · have hport' : maxSpecialPort < m.settled.invalidate.destport := hport
      rw [if_pos hport, if_pos hport', hdata]
    · have hport' : ¬ maxSpecialPort < m.settled.invalidate.destport := hport
      rw [if_neg hport, if_neg hport', hcall]

/-- The same for everything that does not call a function. -/
theorem handle_settled_of_not_called (h : calledFor c.callerid m.invalidate = none) :
    handle L clock locked c m.settled = handle L clock locked c m := by
  have h' : calledFor c.callerid m.settled.invalidate = none := by
    rw [← settled_invalidate, calledFor_settled]
    exact h
  rw [handle_of_not_called h, handle_of_not_called h', processMsg_settled]
  rfl

/-- The answer to a ping is made of the message. -/
theorem processPingMsg_settled (callerid : StageDeviceId) (hmsg : m.msg = headerLen) :
    (processPingMsg callerid m.settled).2 = (processPingMsg callerid m).2 := by
  have hbuf : bufSize = 8192 := rfl
  have h9 : headerLen = 9 := rfl
  have hstart : m.settled.rawbuffer.read 0 (m.size + headerLen)
      = m.rawbuffer.read 0 (m.size + headerLen) := read_settled (by omega)
  have hid := Buffer.read_zero_write_congr 4 [callerid]
    (by rw [List.length_singleton]; omega) hstart
  have hport := fun port : Port => Buffer.read_zero_write_congr 5
    (leBytes 2 port.toNat) (by rw [length_leBytes]; omega) hid
  have hsender := Buffer.read_zero_write_congr m.msg [m.cid]
    (by rw [List.length_singleton]; omega) (hport portPongSrv)
  have hbuffer : (pongBuffer callerid m.settled).read 0 (m.size + headerLen)
      = (pongBuffer callerid m).read 0 (m.size + headerLen) := by
    unfold pongBuffer
    rw [destport_settled]
    split_ifs
    · exact hport portPong
    · exact hsender
    · exact hport portPongLocal
    · exact hid
  exact congrArg (fun data => sendEp data m.sender) hbuffer

/-- A pong through the relay server without a payload. -/
def MsgBuf.IsEmptyPong (m : MsgBuf) : Prop := m.destport = portPongSrv ∧ m.size = 0

/-- A message that has been delivered counts as the same pong. -/
theorem isEmptyPong_invalidate : m.invalidate.IsEmptyPong ↔ m.IsEmptyPong := Iff.rfl

/-- The ping time is read from within any other message. -/
theorem pongTime_settled (hsize : m.size ≤ bufSize) (h : ¬ m.IsEmptyPong) :
    pongTime clock m.settled = pongTime clock m := by
  have hbuf : bufSize = 8192 := rfl
  unfold pongTime getPingtime
  rw [destport_settled]
  by_cases hport : m.destport = portPongSrv
  · have hpos : 1 ≤ m.size := Nat.one_le_iff_ne_zero.mpr fun hzero => h ⟨hport, hzero⟩
    have hsub : sizeSub m.size 1 = m.size - 1 := sizeSub_of_le hpos (by omega)
    have hsub' : sizeSub m.settled.size 1 = m.size - 1 := hsub
    rw [if_pos hport, if_pos hport, hsub, hsub']
    by_cases hlong : 8 ≤ m.size - 1
    · have hread : m.settled.rawbuffer.read (m.msg + 1) 8 = m.rawbuffer.read (m.msg + 1) 8 :=
        read_settled (by omega)
      rw [if_pos hlong, if_pos hlong]
      exact congrArg clock hread
    · rw [if_neg hlong, if_neg hlong]
  · rw [if_neg hport, if_neg hport]
    by_cases hlong : 8 ≤ m.size
    · have hlong' : 8 ≤ m.settled.size := hlong
      have hread : m.settled.rawbuffer.read m.msg 8 = m.rawbuffer.read m.msg 8 :=
        read_settled (by omega)
      rw [if_pos hlong, if_pos hlong']
      exact congrArg clock hread
    · have hlong' : ¬ 8 ≤ m.settled.size := hlong
      rw [if_neg hlong, if_neg hlong']

/-- What a message makes the client do does not depend on what stands behind it, unless it
is a pong without a payload. -/
theorem handle_settled (hmsg : m.msg = headerLen) (hsize : m.size ≤ bufSize)
    (hpong : calledFor c.callerid m.invalidate = some .processPongMsg → ¬ m.IsEmptyPong) :
    handle L clock locked c m.settled = handle L clock locked c m := by
  have hcalled : calledFor c.callerid m.settled.invalidate = calledFor c.callerid m.invalidate := by
    rw [← settled_invalidate, calledFor_settled]
  cases hcall : calledFor c.callerid m.invalidate with
  | none => exact handle_settled_of_not_called hcall
  | some call =>
      rw [handle_of_call hcall, handle_of_call (hcalled.trans hcall), ← settled_invalidate]
      cases call with
      | processPingMsg =>
          unfold ClientState.perform
          rw [processPingMsg_settled (m := m.invalidate) c.callerid hmsg]
      | processPongMsg =>
          unfold ClientState.perform ClientState.processPongMsg
          dsimp only
          rw [pongTime_settled (m := m.invalidate) hsize (hpong hcall)]
          rfl
      | cidSetlocalip cid msg => rfl
      | cidRegister cid msg mode => rfl
      | cidSetPubkey cid msg => rfl

/-- Two messages that differ in what stands behind them make the same of the client, unless
they are empty pongs of another device. -/
theorem handle_alike (hsame : m.settled = m'.settled) (hmsg : m.msg = headerLen)
    (hsize : m.size ≤ bufSize) (hnot : ¬ (m.IsEmptyPong ∧ m.cid ≠ c.callerid)) :
    handle L clock locked c m = handle L clock locked c m' := by
  have hport : m.destport = m'.destport := (congrArg MsgBuf.destport hsame :)
  have hsize' : m.size = m'.size := (congrArg MsgBuf.size hsame :)
  have hcid : m.cid = m'.cid := (congrArg MsgBuf.cid hsame :)
  have hmsg' : m.msg = m'.msg := (congrArg MsgBuf.msg hsame :)
  -- an empty pong that is not looped back is one of another device
  have hother : ∀ m : MsgBuf, calledFor c.callerid m.invalidate = some .processPongMsg →
      m.IsEmptyPong → m.cid ≠ c.callerid := by
    intro m hcall hempty hown
    have hloop : m.invalidate.cid = c.callerid ∧ m.invalidate.destport ≠ portListcid ∧
        m.invalidate.destport ≠ portPubkey := by
      rw [m.destport_invalidate, hempty.1]
      exact ⟨hown, by decide, by decide⟩
    unfold calledFor at hcall
    rw [if_pos hloop] at hcall
    exact absurd hcall.symm (Option.some_ne_none _)
  rw [← handle_settled hmsg hsize fun hcall hempty => hnot ⟨hempty, hother m hcall hempty⟩, hsame,
    handle_settled (hmsg'.symm.trans hmsg) (hsize' ▸ hsize) fun hcall hempty => ?_]
  refine hnot ⟨⟨hport.trans hempty.1, hsize'.trans hempty.2⟩, ?_⟩
  rw [hcid]
  exact hother m' hcall hempty

/-- Data messages one after the other. -/
theorem foldl_handle_settled {ms ms' : List MsgBuf}
    (hsame : ms.map MsgBuf.settled = ms'.map MsgBuf.settled)
    (hdata : ∀ m ∈ ms, maxSpecialPort < m.destport) (c : ClientState) :
    ms.foldl (handle L clock locked) c = ms'.foldl (handle L clock locked) c := by
  induction ms generalizing ms' c with
  | nil =>
      rw [List.map_nil, eq_comm, List.map_eq_nil_iff] at hsame
      rw [hsame]
  | cons m ms ih =>
      cases ms' with
      | nil => exact absurd hsame (List.cons_ne_nil _ _)
      | cons m' ms' =>
          obtain ⟨hm, hms⟩ := List.cons.inj hsame
          obtain ⟨hport, hrest⟩ := List.forall_mem_cons.mp hdata
          have hport' : maxSpecialPort < m'.destport := by
            rw [← destport_settled (m := m'), ← hm]
            exact hport
          have hfirst : handle L clock locked c m = handle L clock locked c m' := by
            rw [← handle_settled_of_not_called (calledFor_of_data _ hport), hm,
              handle_settled_of_not_called (calledFor_of_data _ hport')]
          rw [List.foldl_cons, List.foldl_cons, hfirst]
          exact ih hms hrest _

end Handle

/-! ## A pong without a payload -/

/-- The ping time that eight bytes are counted with, if they are. -/
def countedTime (clock : List UInt8 → ℚ) (bytes : List UInt8) : Option ℚ :=
  if 0 < clock bytes then some (clock bytes) else none

/-- Counting a ping time or none. -/
def PingStatCollector.count (p : PingStatCollector) (tms : Option ℚ) : PingStatCollector :=
  tms.elim p p.addValue

/-- A collector tells what has been counted. -/
theorem PingStatCollector.count_injective (p : PingStatCollector) : Function.Injective p.count := by
  have hreceived : ∀ tms, p ≠ p.addValue tms := by
    intro tms h
    have hone : p.received + 1 = p.received := (congrArg PingStatCollector.received h).symm
    exact absurd (add_eq_left.mp hone) (by decide)
  intro s t h
  cases s with
  | none =>
      cases t with
      | none => rfl
      | some t => exact absurd h (hreceived t)
  | some s =>
      cases t with
      | none => exact absurd h.symm (hreceived s)
      | some t =>
          have hsum : p.sum - p.data.getD p.idx 0 + s = p.sum - p.data.getD p.idx 0 + t :=
            congrArg PingStatCollector.sum h
          rw [add_left_cancel hsum]

section Pong

variable {L : Sodium} {clock : List UInt8 → ℚ} {locked : Bool} {c : ClientState} {m m' : MsgBuf}

/-- Its ping time is read from behind it. -/
theorem processPongMsg_emptyPong (hmsg : m.msg = headerLen) (h : m.IsEmptyPong) :
    c.processPongMsg clock m
      = (countedTime clock (m.rawbuffer.read 10 8)).elim c (c.reportPing m) := by
  have hlong : 8 ≤ sizeSub 0 1 := by decide
  have htime : pongTime clock m = clock (m.rawbuffer.read 10 8) := by
    unfold pongTime getPingtime
    rw [if_pos h.1, h.2, hmsg, if_pos hlong]
    rfl
  unfold ClientState.processPongMsg countedTime
  rw [htime]
  split_ifs
  · rfl
  · rfl

/-- A pong through the relay server counts with the collector of its sender, where a time
was read. -/
theorem collectors_reportPing (hport : m.destport = portPongSrv) (tms : Option ℚ) :
    (tms.elim c (c.reportPing m)).collectors .srv m.cid = (c.collectors .srv m.cid).count tms := by
  cases tms with
  | none => rfl
  | some tms =>
      have hclass : OvboxCounters.pongClass m.destport = some .srv := by rw [hport]; rfl
      unfold PingStatCollector.count
      rw [Option.elim_some, Option.elim_some]
      unfold ClientState.reportPing
      rw [hclass]
      unfold ClientState.onCollector
      dsimp only
      rw [Function.update_self, Function.update_self]
      split_ifs
      · rfl
      · rfl

/-- Data messages count no pings. -/
theorem collectors_foldl_handle {ms : List MsgBuf} (hdata : ∀ m ∈ ms, maxSpecialPort < m.destport)
    (c : ClientState) : (ms.foldl (handle L clock locked) c).collectors = c.collectors := by
  induction ms generalizing c with
  | nil => rfl
  | cons m ms ih =>
      obtain ⟨hport, hrest⟩ := List.forall_mem_cons.mp hdata
      rw [List.foldl_cons, ih hrest, handle_of_not_called (calledFor_of_data _ hport)]
      rfl

/-- What it makes the client do depends on the ping time that the bytes behind it are
counted with. -/
theorem handle_pong_iff (hsame : m.settled = m'.settled) (hmsg : m.msg = headerLen)
    (hempty : m.IsEmptyPong) (hother : m.cid ≠ c.callerid) {ms ms' : List MsgBuf}
    (hmap : ms.map MsgBuf.settled = ms'.map MsgBuf.settled)
    (hdata : ∀ m ∈ ms, maxSpecialPort < m.destport) :
    (m :: ms).foldl (handle L clock locked) c = (m' :: ms').foldl (handle L clock locked) c ↔
      countedTime clock (m.rawbuffer.read 10 8) = countedTime clock (m'.rawbuffer.read 10 8) := by
  have hmsg' : m'.msg = headerLen := (congrArg MsgBuf.msg hsame).symm.trans hmsg
  have hcid : m.cid = m'.cid := (congrArg MsgBuf.cid hsame :)
  have hport : m.destport = m'.destport := (congrArg MsgBuf.destport hsame :)
  have hsender : m.sender = m'.sender := (congrArg MsgBuf.sender hsame :)
  have hempty' : m'.IsEmptyPong :=
    ⟨hport.symm.trans hempty.1, (congrArg MsgBuf.size hsame).symm.trans hempty.2⟩
  have hcall : ∀ m : MsgBuf, m.IsEmptyPong → m.cid ≠ c.callerid →
      calledFor c.callerid m.invalidate = some .processPongMsg := by
    intro m hempty hother
    unfold calledFor controlCall
    rw [if_neg fun h => hother h.1, show m.invalidate.destport = portPongSrv from hempty.1]
    rfl
  have hreport : c.reportPing m'.invalidate = c.reportPing m.invalidate := by
    funext tms
    unfold ClientState.reportPing
    dsimp only [MsgBuf.invalidate]
    rw [hcid, hport, hsender]
  rw [List.foldl_cons, List.foldl_cons, handle_of_call (hcall m hempty hother),
    handle_of_call (hcall m' hempty' (hcid ▸ hother))]
  unfold ClientState.perform
  dsimp only
  rw [processPongMsg_emptyPong (m := m.invalidate) hmsg hempty,
    processPongMsg_emptyPong (m := m'.invalidate) hmsg' hempty', hreport,
    ← foldl_handle_settled hmap hdata]
  constructor
  · intro h
    have hcollectors := congrArg ClientState.collectors h
    rw [collectors_foldl_handle hdata, collectors_foldl_handle hdata] at hcollectors
    have hcollector := congrFun (congrFun hcollectors .srv) m.invalidate.cid
    rw [collectors_reportPing (m := m.invalidate) hempty.1,
      collectors_reportPing (m := m.invalidate) hempty.1] at hcollector
    exact PingStatCollector.count_injective _ hcollector
  · intro h
    exact congrArg (fun tms : Option ℚ =>
      ms.foldl (handle L clock locked) (tms.elim c (c.reportPing m.invalidate))) h

end Pong

/-! ## Two runs -/

/-- The step receives a datagram that is too short or has another secret. -/
def Rejected (secret : Secret) (e : NodeEvent) : Prop :=
  ∃ bytes addr clock locked, e = .received (some (bytes, addr)) clock locked ∧
    (bytes.length < headerLen ∨ msgSecret bytes ≠ secret)

/-- The clients are the same, with everything they have sent and reported, and so are the
sorters, but for what their buffers hold behind the messages. -/
structure SameObservables (n n' : ClientNode) : Prop where
  client : n.client = n'.client
  sorter : n.loop.sorter.settled = n'.loop.sorter.settled

/-- If the step receives an empty pong of another device through the relay server, then the
bytes that the two receive buffers hold behind it are counted alike. -/
def CountedAlike (secret : Secret) (callerid : StageDeviceId) (n n' : ClientNode)
    (e : NodeEvent) : Prop :=
  ∀ cid seq addr clock locked,
    e = .received (some (header secret cid portPongSrv seq, addr)) clock locked →
    cid ≠ callerid →
    countedTime clock (n.loop.msg.rawbuffer.read 10 8)
      = countedTime clock (n'.loop.msg.rawbuffer.read 10 8)

section Received

variable {secret : Secret} {x : SendsrvLoop}

/-- A received datagram overwrites the start of the buffer, whether it is accepted or not. -/
theorem rawbuffer_received (secret : Secret) (m : MsgBuf) (bytes : List UInt8) (addr : Endpoint) :
    (recvSecMsg secret m (some (bytes, addr))).2.rawbuffer
      = m.rawbuffer.write 0 (bytes.take bufSize) := by
  unfold recvSecMsg MsgBuf.unpack
  dsimp only
  split_ifs
  · rfl
  · rfl
  · rfl
  · rfl

variable (secret x) in
/-- What is received of an empty pong, and what stands behind it. -/
theorem received_emptyPong (cid : StageDeviceId) (seq : Sequence) (addr : Endpoint) :
    let rx : Received := some (header secret cid portPongSrv seq, addr)
    Accepted secret x rx ∧ (incoming secret x rx).IsEmptyPong ∧ (incoming secret x rx).cid = cid ∧
      (incoming secret x rx).rawbuffer.read 10 8 = x.msg.rawbuffer.read 10 8 := by
  have hbuf : bufSize = 8192 := rfl
  have h9 : headerLen = 9 := rfl
  have hlen : (header secret cid portPongSrv seq).length = 9 := length_header ..
  obtain ⟨raw, hreceived, -⟩ := recvSecMsg_packed secret cid portPongSrv seq []
    (by rw [List.length_nil]; omega) x.msg addr
  rw [List.append_nil] at hreceived
  have hraw := rawbuffer_received secret x.msg (header secret cid portPongSrv seq) addr
  intro rx
  have hincoming : incoming secret x rx = ⟨true, cid, portPongSrv, seq, 0, raw, headerLen, addr⟩ :=
    congrArg Prod.snd hreceived
  refine ⟨congrArg Prod.fst hreceived, ?_, ?_, ?_⟩
  · rw [hincoming]
    exact ⟨rfl, rfl⟩
  · rw [hincoming]
  · rw [show (incoming secret x rx).rawbuffer = _ from hraw, List.take_of_length_le (by omega)]
    exact x.msg.rawbuffer.read_write_behind 8 (by omega) (by omega)

/-- Nothing else is received as an empty pong. -/
theorem bytes_of_emptyPong {rx : Received} (hacc : Accepted secret x rx)
    (hempty : (incoming secret x rx).IsEmptyPong) :
    ∃ cid seq addr, rx = some (header secret cid portPongSrv seq, addr) := by
  have hsize : (recvSecMsg secret x.msg rx).2.size = 0 := hempty.2
  have hport : (recvSecMsg secret x.msg rx).2.destport = portPongSrv := hempty.1
  have hfit : headerLen + 0 < bufSize := by decide
  obtain ⟨addr, hrx⟩ := bytes_received x.msg hacc (by rw [hsize]; exact hfit)
  have hpayload : (recvSecMsg secret x.msg rx).2.payload = [] := by
    unfold MsgBuf.payload
    rw [hsize]
    exact List.take_zero
  rw [hport, hpayload, List.append_nil] at hrx
  exact ⟨_, _, addr, hrx⟩

end Received

section Step

variable {L : Sodium} {secret : Secret} {callerid : StageDeviceId} {n n' : ClientNode}

/-- The messages that are delivered in two loops that agree make the same of a client exactly
if the bytes behind an empty pong are counted alike. -/
theorem delivered_alike_iff (h : n.Running secret callerid) (h' : n'.Running secret callerid)
    (hsorter : n.loop.sorter.settled = n'.loop.sorter.settled) (rx : Received)
    (clock : List UInt8 → ℚ) (locked : Bool) {c : ClientState} (hc : c.callerid = callerid) :
    (turn secret n.loop rx).1.foldl (handle L clock locked) c
        = (turn secret n'.loop rx).1.foldl (handle L clock locked) c ↔
      CountedAlike secret callerid n n' (.received rx clock locked) := by
  obtain ⟨hlist, -⟩ := turn_settled secret rx h.buf2 hsorter
  have hspecial : portPongSrv ≤ maxSpecialPort := by decide
  rcases data_of_delivered secret rx h.buf2 h.held with
    hdata | ⟨hacc, hport, hlist1, hreleased⟩
  · -- no pong among the messages
    refine iff_of_true (foldl_handle_settled hlist hdata c) ?_
    intro cid seq addr clock' locked' hevent _
    obtain ⟨rfl, -, -⟩ := NodeEvent.received.inj hevent
    obtain ⟨hacc, hempty, -, -⟩ := received_emptyPong secret n.loop cid seq addr
    have hport := hspecial
    rw [← hempty.1] at hport
    rw [turn_special hacc hport h.buf2] at hdata
    have hfirst := (List.forall_mem_cons.mp hdata).1
    rw [MsgBuf.destport_invalidate] at hfirst
    exact absurd hport (UInt16.not_le.mpr hfirst)
  · have hacc' : Accepted secret n'.loop rx := accepted_congr.mp hacc
    have hsame : (incoming secret n.loop rx).invalidate.settled
        = (incoming secret n'.loop rx).invalidate.settled := by
      rw [settled_invalidate, settled_invalidate, settled_incoming hacc]
    have hport' : (incoming secret n'.loop rx).destport ≤ maxSpecialPort := by
      rw [← destport_settled, ← settled_incoming hacc]
      exact hport
    rw [hlist1, turn_special hacc' hport' h'.buf2] at hlist ⊢
    have hrest := (List.cons.inj hlist).2
    have hmsg : (incoming secret n.loop rx).invalidate.msg = headerLen :=
      msg_invalidate.trans (incoming_accepted hacc).2
    by_cases hpong : (incoming secret n.loop rx).IsEmptyPong ∧
        (incoming secret n.loop rx).cid ≠ callerid
    · have hempty := isEmptyPong_invalidate.mpr hpong.1
      have hother : (incoming secret n.loop rx).invalidate.cid ≠ c.callerid := by
        rw [MsgBuf.cid_invalidate, hc]
        exact hpong.2
      rw [handle_pong_iff hsame hmsg hempty hother hrest hreleased, rawbuffer_invalidate,
        rawbuffer_invalidate]
      obtain ⟨cid, seq, addr, rfl⟩ := bytes_of_emptyPong hacc hpong.1
      obtain ⟨-, -, hcid, hraw⟩ :=
        received_emptyPong secret n.loop cid seq addr
      obtain ⟨-, -, -, hraw'⟩ :=
        received_emptyPong secret n'.loop cid seq addr
      rw [hraw, hraw']
      constructor
      · intro hcount cid' seq' addr' clock' locked' hevent _
        obtain ⟨-, rfl, -⟩ := NodeEvent.received.inj hevent
        exact hcount
      · intro hcount
        exact hcount cid seq addr clock locked rfl (hcid ▸ hpong.2)
    · -- everything else is made of the message
      have hnot : ¬ ((incoming secret n.loop rx).invalidate.IsEmptyPong ∧
          (incoming secret n.loop rx).invalidate.cid ≠ c.callerid) := by
        rw [isEmptyPong_invalidate, MsgBuf.cid_invalidate, hc]
        exact hpong
      have hsize : (incoming secret n.loop rx).invalidate.size ≤ bufSize := by
        rw [size_invalidate]
        exact (Nat.le_add_left _ _).trans (unpacked_received n.loop.msg hacc).size
      refine iff_of_true ?_ ?_
      · rw [List.foldl_cons, List.foldl_cons, handle_alike hsame hmsg hsize hnot]
        exact foldl_handle_settled hrest hreleased _
      · intro cid seq addr clock' locked' hevent hother
        obtain ⟨rfl, -, -⟩ := NodeEvent.received.inj hevent
        obtain ⟨-, hempty, hcid, -⟩ :=
          received_emptyPong secret n.loop cid seq addr
        rw [← hcid] at hother
        exact absurd ⟨hempty, hother⟩ hpong

/-- A step of two nodes that agree, taken by both. -/
theorem sameObservables_step_iff (h : n.Running secret callerid) (h' : n'.Running secret callerid)
    (hsame : SameObservables n n') (e : NodeEvent) :
    SameObservables (nodeStep L n e) (nodeStep L n' e) ↔ CountedAlike secret callerid n n' e := by
  obtain ⟨hclient, hsorter⟩ := hsame
  cases e with
  | received rx clock locked =>
      have halike := delivered_alike_iff (L := L) h h' hsorter rx clock locked h.callerid
      have hnext := (turn_settled secret rx h.buf2 hsorter).2
      have hsecret : n.client.remoteServer.secret = secret := h.secret
      have hsecret' : n'.client.remoteServer.secret = secret := h'.secret
      rw [← halike]
      constructor
      · intro hafter
        have hclients := hafter.client
        rw [client_received, client_received, hsecret, hsecret', ← hclient] at hclients
        exact hclients
      · intro hclients
        refine ⟨?_, ?_⟩
        · rw [client_received, client_received, hsecret, hsecret', ← hclient]
          exact hclients
        · rw [sorter_received, sorter_received, hsecret, hsecret']
          exact hnext
  | checkstatus keys =>
      refine iff_of_true ⟨?_, hsorter⟩ fun cid seq addr clock locked h => nomatch h
      unfold nodeStep
      rw [hclient]
  | payload thread th payload =>
      refine iff_of_true ⟨?_, hsorter⟩ fun cid seq addr clock locked h => nomatch h
      unfold nodeStep
      rw [hclient]

/-- A rejected datagram that only one of them receives. -/
theorem sameObservables_rejected (h : n.Running secret callerid) (hsame : SameObservables n n')
    {e : NodeEvent} (hrejected : Rejected secret e) : SameObservables (nodeStep L n e) n' := by
  obtain ⟨bytes, addr, clock, locked, rfl, hbad⟩ := hrejected
  have hsecret : n.client.remoteServer.secret = secret := h.secret
  have hidle : ¬ Accepted secret n.loop (some (bytes, addr)) := by
    unfold Accepted
    rw [(recvSecMsg_rejected n.loop.msg addr hbad).1]
    exact Bool.false_ne_true
  refine ⟨?_, ?_⟩
  · rw [client_received, hsecret, (turn_idle hidle).1]
    exact hsame.client
  · rw [sorter_received, hsecret, (turn_idle hidle).2]
    exact hsame.sorter

end Step

/-- A datagram that is not accepted is left in the receive buffer. -/
theorem msg_not_accepted {L : Sodium} {n : ClientNode} {rx : Received} {clock : List UInt8 → ℚ}
    {locked : Bool} (h : ¬ Accepted n.client.remoteServer.secret n.loop rx) :
    (nodeStep L n (.received rx clock locked)).loop.msg
      = incoming n.client.remoteServer.secret n.loop rx := by
  have hfalse : (recvSecMsg n.client.remoteServer.secret n.loop.msg rx).1 = false :=
    Bool.eq_false_iff.mpr h
  show (if Accepted n.client.remoteServer.secret n.loop rx then _
    else (turn n.client.remoteServer.secret n.loop rx).2.msg) = _
  rw [if_neg h]
  unfold turn
  simp only [hfalse, Bool.false_eq_true, if_false]
  rfl

/-- The loop of a new thread is in order from the start. -/
theorem running_fresh (c : ClientState) (sender1 sender2 sender : Endpoint) :
    ClientNode.Running c.remoteServer.secret c.callerid
      ⟨c, SendsrvLoop.fresh sender1 sender2 sender⟩ :=
  ⟨rfl, rfl, rfl, fun h => absurd h Bool.false_ne_true⟩

/-- A client with the secret `7` and the id `1`, as constructed. -/
def ClientState.idle : ClientState where
  remoteServer := OvboxUdpSocket.fresh Endpoint.cleared 7 1
  recipientPublic := Buffer.zero _
  recipientSecret := Buffer.zero _
  localServer := Endpoint.cleared
  localep := Endpoint.zero
  toport := 4464
  recport := 4464
  portoffset := 0
  callerid := 1
  mode := bPeer2peer
  sendlocal := true
  xdest := []
  proxyclients := []
  decryptedMsg := Buffer.zero _
  endpointList := EndpointList.init (fun _ => Buffer.zero _) (Buffer.zero _)
  outside := EpDesc.unused
  collectors := fun _ _ => PingStatCollector.init 2048
  cbPing := false
  threads := fun _ => ThreadState.start
  localSends := []
  remoteSends := []
  pingReports := []

/-- Leaving out rejected datagrams changes nothing that can be observed, at any time of a
run, exactly if the ping times that are read from behind empty pongs are counted alike. -/
theorem rejected_without_influence_iff (L : Sodium) (c : ClientState)
    (sender1 sender2 sender : Endpoint) (es : List (NodeEvent × Bool))
    (hrejected : ∀ e, (e, true) ∈ es → Rejected c.remoteServer.secret e) :
    let start : ClientNode := ⟨c, SendsrvLoop.fresh sender1 sender2 sender⟩
    (∀ before after, es = before ++ after →
      SameObservables (run (nodeStep L) start (before.map Prod.fst))
        (run (nodeStep L) start (unmarked before))) ↔
    ∀ before e after, es = before ++ (e, false) :: after →
      CountedAlike c.remoteServer.secret c.callerid
        (run (nodeStep L) start (before.map Prod.fst))
        (run (nodeStep L) start (unmarked before)) e := by
  intro start
  have hstart : start.Running c.remoteServer.secret c.callerid :=
    running_fresh c sender1 sender2 sender
  exact related_unmarked_iff (I := ClientNode.Running c.remoteServer.secret c.callerid)
    (R := SameObservables) (C := CountedAlike c.remoteServer.secret c.callerid)
    (fun n e => running_step L n e)
    (fun n n' e he h hsame => sameObservables_rejected h hsame (hrejected e he))
    (fun n n' e h h' hsame => sameObservables_step_iff h h' hsame e) hstart hstart ⟨rfl, rfl⟩

/-- An empty datagram in front of a check of the table leaves no trace. -/
theorem rejected_without_influence_empty :
    let start : ClientNode :=
      ⟨ClientState.idle, SendsrvLoop.fresh Endpoint.cleared Endpoint.cleared Endpoint.cleared⟩
    let junk : NodeEvent := .received (some ([], Endpoint.cleared)) (fun _ => 1) false
    let pass : NodeEvent := .checkstatus fun _ => Buffer.zero _
    SameObservables (run (nodeStep Sodium.padding) start [junk, pass])
      (run (nodeStep Sodium.padding) start [pass]) := by
  intro start junk pass
  have hrejected : ∀ e, (e, true) ∈ [(junk, true), (pass, false)] →
      Rejected ClientState.idle.remoteServer.secret e := by
    intro e he
    have hjunk : e = junk := by simpa using he
    exact ⟨[], _, _, _, hjunk, Or.inl (by decide)⟩
  have hsame := (rejected_without_influence_iff Sodium.padding ClientState.idle Endpoint.cleared
    Endpoint.cleared Endpoint.cleared _ hrejected).mpr ?_ [(junk, true), (pass, false)] []
    (List.append_nil _).symm
  · have hkept : unmarked [(junk, true), (pass, false)] = [pass] := rfl
    rw [hkept] at hsame
    exact hsame
  · intro before e after hsplit
    have hmem : (e, false) ∈ [(junk, true), (pass, false)] := by
      rw [hsplit]
      exact List.mem_append_right _ List.mem_cons_self
    have hpass : e = pass := by simpa using hmem
    rw [hpass]
    exact fun cid seq addr clock locked h => nomatch h

/-! ## A run that differs -/

/-- The number that the bytes of a finite `double` stand for. -/
def doubleValue (bytes : List UInt8) : ℚ :=
  let bits := leValue bytes
  let sign : ℚ := if bits / 2 ^ 63 = 0 then 1 else -1
  let exponent : ℕ := bits / 2 ^ 52 % 2 ^ 11
  let mantissa : ℕ := bits % 2 ^ 52
  if exponent = 0 then sign * mantissa * (2 : ℚ) ^ (-1074 : ℤ)
  else sign * (2 ^ 52 + mantissa) * (2 : ℚ) ^ ((exponent : ℤ) - 1075)

/-- The clock so many seconds behind `t_start`. -/
def clockAt (timeSinceStart : ℚ) (bytes : List UInt8) : ℚ :=
  1000 * (timeSinceStart - doubleValue bytes)

/-- The bytes of the number two. -/
theorem doubleValue_two : doubleValue (leBytes 8 (2 ^ 62)) = 2 := by
  have hbits : leValue (leBytes 8 (2 ^ 62)) = 2 ^ 62 := leValue_leBytes_of_lt (by norm_num)
  unfold doubleValue
  rw [hbits]
  norm_num

/-- The bytes of zero. -/
theorem doubleValue_zero : doubleValue (List.replicate 8 0) = 0 := by
  have hbits : leValue (List.replicate 8 0) = 0 := rfl
  unfold doubleValue
  rw [hbits]
  norm_num

/-- A datagram with another secret, and the `double` with the value `2` behind its tenth
byte. -/
def twoSeconds : List UInt8 := header 8 2 1234 0 ++ 0 :: leBytes 8 (2 ^ 62)

/-- The datagram with another secret makes a pong behind it a ping time of minus one second,
which is not counted.  Without the datagram it is counted with a second. -/
theorem rejected_datagram_read :
    let start : ClientNode :=
      ⟨ClientState.idle, SendsrvLoop.fresh Endpoint.cleared Endpoint.cleared Endpoint.cleared⟩
    let junk : NodeEvent := .received (some (twoSeconds, Endpoint.cleared)) (clockAt 1) false
    let pong : NodeEvent :=
      .received (some (header 7 2 portPongSrv 0, Endpoint.cleared)) (clockAt 1) false
    Rejected 7 junk ∧
      ¬ SameObservables (run (nodeStep Sodium.padding) start [junk, pong])
        (run (nodeStep Sodium.padding) start [pong]) := by
  intro start junk pong
  have hrunning : start.Running 7 1 :=
    running_fresh ClientState.idle Endpoint.cleared Endpoint.cleared Endpoint.cleared
  have hrejected : Rejected 7 junk :=
    ⟨_, _, _, _, rfl, Or.inr (by decide)⟩
  refine ⟨hrejected, fun hsame => ?_⟩
  have hbefore : SameObservables (nodeStep Sodium.padding start junk) start :=
    sameObservables_rejected hrunning ⟨rfl, rfl⟩ hrejected
  have hcounted := (sameObservables_step_iff (running_step Sodium.padding start junk hrunning)
    hrunning hbefore pong).mp hsame 2 0 _ _ _ rfl (by decide)
  -- what the two receive buffers hold behind the ninth byte
  have hidle : ¬ Accepted 7 start.loop (some (twoSeconds, Endpoint.cleared)) := by
    unfold Accepted
    rw [(recvSecMsg_rejected start.loop.msg Endpoint.cleared (Or.inr (by decide))).1]
    exact Bool.false_ne_true
  have hleft : (nodeStep Sodium.padding start junk).loop.msg.rawbuffer.read 10 8
      = leBytes 8 (2 ^ 62) := by
    rw [msg_not_accepted hidle, incoming, rawbuffer_received,
      Buffer.read_write_slice _ _ _ _ (by decide) (List.length_take_le _ _)]
    decide
  have hempty : start.loop.msg.rawbuffer.read 10 8 = List.replicate 8 0 := by
    decide
  rw [hleft, hempty] at hcounted
  unfold countedTime clockAt at hcounted
  rw [doubleValue_two, doubleValue_zero] at hcounted
  norm_num at hcounted
  exact Option.some_ne_none _ hcounted.symm

end Libov
