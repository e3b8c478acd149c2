/-
# The time stamps of pongs

A pong carries the time stamp of its ping, a `double`; through the relay server the id of
a device stands in front of it.  `process_pong_msg` skips that id by unsigned arithmetic
before `get_pingtime` checks the size.

* `pongTime_eq` : which bytes of the raw buffer a ping time is taken from;
* `pong_sound_iff` : a pong makes a sample only of a complete time stamp within the
  payload, unless it is an empty one through the relay server.
-/
import Libov.RejectedDatagrams

namespace Libov

/-! ## The bytes of a time stamp -/

/-- `sizeof(double)`. -/
def sizeofDouble : ℕ := 8

/-- What stands in front of the time stamp in the payload of a pong. -/
def stampOffset (destport : Port) : ℕ := if destport = portPongSrv then 1 else 0

/-- The payload contains a complete time stamp. -/
def MsgBuf.HasTimeStamp (m : MsgBuf) : Prop := stampOffset m.destport + sizeofDouble ≤ m.size

instance (m : MsgBuf) : Decidable m.HasTimeStamp := inferInstanceAs (Decidable (_ ≤ _))

instance (m : MsgBuf) : Decidable m.IsEmptyPong := inferInstanceAs (Decidable (_ ∧ _))

/-- The position in the raw buffer from which `get_pingtime` copies, if it does. -/
def stampRead (m : MsgBuf) : Option ℕ :=
  if m.destport = portPongSrv then
    if sizeofDouble ≤ sizeSub m.size 1 then some (m.msg + 1) else none
  else if sizeofDouble ≤ m.size then some m.msg else none

/-- The copied bytes are bytes of the payload. -/
def MsgBuf.ReadsWithin (m : MsgBuf) : Prop :=
  ∀ off, stampRead m = some off → m.msg ≤ off ∧ off + sizeofDouble ≤ m.msg + m.size

/-- A value is added to a collector or the callback is called. -/
def Samples (c : ClientState) (clock : List UInt8 → ℚ) (m : MsgBuf) : Prop :=
  (c.processPongMsg clock m).collectors ≠ c.collectors ∨
    (c.processPongMsg clock m).pingReports ≠ c.pingReports

/-- The ping time is that of the bytes that are copied. -/
theorem pongTime_eq (clock : List UInt8 → ℚ) (m : MsgBuf) :
    pongTime clock m
      = (stampRead m).elim (-1) fun off => clock (m.rawbuffer.read off sizeofDouble) := by
  unfold pongTime stampRead getPingtime
  by_cases hsrv : m.destport = portPongSrv
  · rw [if_pos hsrv, if_pos hsrv]
    by_cases hsize : sizeofDouble ≤ sizeSub m.size 1
    · rw [if_pos hsize, if_pos (show 8 ≤ sizeSub m.size 1 from hsize)]
      rfl
    · rw [if_neg hsize, if_neg (show ¬ 8 ≤ sizeSub m.size 1 from hsize)]
      rfl
  · rw [if_neg hsrv, if_neg hsrv]
    by_cases hsize : sizeofDouble ≤ m.size
    · rw [if_pos hsize, if_pos (show 8 ≤ m.size from hsize)]
      rfl
    · rw [if_neg hsize, if_neg (show ¬ 8 ≤ m.size from hsize)]
      rfl

/-- A message with a time stamp has it at its place in the payload. -/
theorem stampRead_of_hasTimeStamp {m : MsgBuf} (hsize : m.size < 2 ^ 64) (h : m.HasTimeStamp) :
    stampRead m = some (m.msg + stampOffset m.destport) := by
  unfold MsgBuf.HasTimeStamp stampOffset at h
  unfold stampRead stampOffset
  by_cases hsrv : m.destport = portPongSrv
  · rw [if_pos hsrv] at h
    rw [if_pos hsrv, if_pos hsrv, sizeSub_of_le (by omega) hsize, if_pos (by omega)]
  · rw [if_neg hsrv] at h
    rw [if_neg hsrv, if_neg hsrv, if_pos (by omega), Nat.add_zero]

/-- The size of an empty pong wraps around, and what follows the payload is read. -/
theorem stampRead_emptyPong {m : MsgBuf} (h : m.IsEmptyPong) :
    stampRead m = some (m.msg + 1) := by
  unfold stampRead
  rw [if_pos h.1, h.2, if_pos (by decide)]

/-- Nothing is read of other messages without a time stamp. -/
theorem stampRead_of_not_hasTimeStamp {m : MsgBuf} (hsize : m.size < 2 ^ 64)
    (h : ¬ m.HasTimeStamp) (hnot : ¬ m.IsEmptyPong) : stampRead m = none := by
  unfold MsgBuf.HasTimeStamp stampOffset at h
  unfold stampRead
  by_cases hsrv : m.destport = portPongSrv
  · have hpos : m.size ≠ 0 := fun hzero => hnot ⟨hsrv, hzero⟩
    rw [if_pos hsrv] at h ⊢
    rw [sizeSub_of_le (by omega) hsize, if_neg (by omega)]
  · rw [if_neg hsrv] at h ⊢
    rw [if_neg (by omega)]

/-! ## Samples -/

section Samples

variable {c : ClientState} {clock : List UInt8 → ℚ} {m : MsgBuf}

/-- A message that no time stamp is read from adds no sample. -/
theorem not_samples_of_not_read (h : stampRead m = none) : ¬ Samples c clock m := by
  have htime : pongTime clock m = -1 := by rw [pongTime_eq, h]; rfl
  have hsame : c.processPongMsg clock m = c := by
    unfold ClientState.processPongMsg
    rw [htime, if_neg (by norm_num)]
  unfold Samples
  rw [hsame]
  rintro (hcollectors | hreports)
  · exact hcollectors rfl
  · exact hreports rfl

/-- The collectors behind a report. -/
theorem collectors_reportPing_class {cls : PingClass}
    (hcls : OvboxCounters.pongClass m.destport = some cls) (tms : ℚ) :
    (c.reportPing m tms).collectors = Function.update c.collectors cls
      (Function.update (c.collectors cls) m.cid ((c.collectors cls m.cid).addValue tms)) := by
  unfold ClientState.reportPing
  rw [hcls]
  by_cases hcb : c.cbPing = true
  · rw [if_pos hcb]
    rfl
  · rw [if_neg hcb]
    rfl

/-- The calls of the callback behind a report. -/
theorem pingReports_reportPing (tms : ℚ) :
    (c.reportPing m tms).pingReports
      = c.pingReports ++ if c.cbPing then [⟨m.cid, m.destport, tms, m.sender⟩] else [] := by
  unfold ClientState.reportPing
  by_cases hcb : c.cbPing = true
  · rw [if_pos hcb, if_pos hcb]
    cases OvboxCounters.pongClass m.destport <;> rfl
  · rw [if_neg hcb, if_neg hcb, List.append_nil]
    cases OvboxCounters.pongClass m.destport <;> rfl

/-- A positive ping time is added to a collector. -/
theorem samples_of_pos {cls : PingClass} (hcls : OvboxCounters.pongClass m.destport = some cls)
    (hpos : 0 < pongTime clock m) : Samples c clock m := by
  refine Or.inl fun hsame => ?_
  unfold ClientState.processPongMsg at hsame
  rw [if_pos hpos, collectors_reportPing_class hcls] at hsame
  have hcount := congrArg PingStatCollector.received (congrFun (congrFun hsame cls) m.cid)
  rw [Function.update_self, Function.update_self] at hcount
  -- the collector has counted it
  have hsucc : (c.collectors cls m.cid).received + 1 = (c.collectors cls m.cid).received := hcount
  exact absurd (add_eq_left.mp hsucc) (by decide)

end Samples

/-- Whatever the receive buffer held before: a received pong adds a sample only if its
payload contains a complete time stamp, and it is read from within the payload, exactly if
it is not an empty pong through the relay server. -/
theorem pong_sound_iff (secret : Secret) (m₀ : MsgBuf) (rx : Received)
    (hacc : (recvSecMsg secret m₀ rx).1 = true) (c : ClientState) (clock : List UInt8 → ℚ) :
    let m := (recvSecMsg secret m₀ rx).2
    ((Samples c clock m → m.HasTimeStamp) ∧ m.ReadsWithin) ↔ ¬ m.IsEmptyPong := by
  intro m
  have hunpacked : m.Unpacked := unpacked_received m₀ hacc
  have hbuf : bufSize = 8192 := rfl
  have hsize : m.size < 2 ^ 64 := by
    have := hunpacked.size
    omega
  by_cases hstamp : m.HasTimeStamp
  · -- read at its place
    have hread := stampRead_of_hasTimeStamp hsize hstamp
    have hnot : ¬ m.IsEmptyPong := by
      intro hempty
      unfold MsgBuf.HasTimeStamp at hstamp
      rw [hempty.2] at hstamp
      exact absurd hstamp (by unfold sizeofDouble; omega)
    refine iff_of_true ⟨fun _ => hstamp, ?_⟩ hnot
    intro off hoff
    rw [hread] at hoff
    obtain rfl := Option.some.inj hoff
    unfold MsgBuf.HasTimeStamp at hstamp
    omega
  · by_cases hempty : m.IsEmptyPong
    · -- nothing of what is read belongs to the payload
      refine iff_of_false ?_ (not_not_intro hempty)
      rintro ⟨-, hwithin⟩
      have hbound := (hwithin _ (stampRead_emptyPong hempty)).2
      rw [hempty.2] at hbound
      unfold sizeofDouble at hbound
      omega
    · have hread := stampRead_of_not_hasTimeStamp hsize hstamp hempty
      refine iff_of_true ⟨fun hsamples => ?_, ?_⟩ hempty
      · exact absurd hsamples (not_samples_of_not_read hread)
      · intro off hoff
        rw [hread] at hoff
        exact absurd hoff.symm (Option.some_ne_none off)

/-- A pong with its time stamp, received by a new client. -/
theorem pong_sound_stamped :
    let m := (recvSecMsg 7 (MsgBuf.init Endpoint.cleared)
      (some (header 7 2 portPong 0 ++ List.replicate 8 0, Endpoint.cleared))).2
    (Samples ClientState.idle (fun _ => 1) m → m.HasTimeStamp) ∧ m.ReadsWithin := by
  refine (pong_sound_iff 7 (MsgBuf.init Endpoint.cleared) _ (by decide) ClientState.idle _).mpr ?_
  decide

/-- An empty pong through the relay server adds a sample. -/
theorem empty_pong_samples :
    ¬ ∀ (secret : Secret) (m₀ : MsgBuf) (rx : Received) (c : ClientState)
      (clock : List UInt8 → ℚ), (recvSecMsg secret m₀ rx).1 = true →
      (Samples c clock (recvSecMsg secret m₀ rx).2 → (recvSecMsg secret m₀ rx).2.HasTimeStamp) ∧
        (recvSecMsg secret m₀ rx).2.ReadsWithin := by
  intro h
  let rx : Received := some (header 7 2 portPongSrv 0, Endpoint.cleared)
  have hempty : (recvSecMsg 7 (MsgBuf.init Endpoint.cleared) rx).2.IsEmptyPong := by decide
  have hcls : OvboxCounters.pongClass (recvSecMsg 7 (MsgBuf.init Endpoint.cleared) rx).2.destport
      = some .srv := by decide
  have hsamples : Samples ClientState.idle (fun _ => 1)
      (recvSecMsg 7 (MsgBuf.init Endpoint.cleared) rx).2 := by
    apply samples_of_pos hcls
    rw [pongTime_eq, stampRead_emptyPong hempty]
    exact one_pos
  have hstamp := (h 7 _ rx ClientState.idle (fun _ => 1) (by decide)).1 hsamples
  revert hstamp
  decide

end Libov
