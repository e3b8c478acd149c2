/-
# Whom a held message comes from

`process_msg` reads the sender address of a message to decide whether the message
goes on to the proxy clients.  `copy` does not take the address along, so a message
delivered from a buffer carries the address that happens to be in that buffer, and
the buffers' addresses are never written.

* `transparent_iff` : buffering is transparent in a run exactly when every message
  delivered from a buffer came from the address that is in the buffer;
* `held_message_to_proxies` : a local message that goes to the proxy clients.
-/
import Libov.SendsrvTrace

open Runs

namespace Libov

/-! ## Transparency -/

/-- The message handed to `process_msg` agrees with the received one in all it reads. -/
structure Agrees (orig handed : MsgBuf) : Prop where
  cid : handed.cid = orig.cid
  destport : handed.destport = orig.destport
  seq : handed.seq = orig.seq
  size : handed.size = orig.size
  payload : handed.payload = orig.payload
  sender : handed.sender = orig.sender

section Transparency

variable (secret : Secret) (x : Traced) (rx : Received)

/-- Every message delivered from a buffer agrees with what was received, and the
decision to forward it to the proxy clients is the same. -/
def Transparent : Prop :=
  ∀ p ∈ (received secret x rx).zip (turn secret x.loop rx).1, p.1.2 = true →
    Agrees p.1.1 p.2 ∧
      ∀ localep, isSameNetwork p.2.sender localep = isSameNetwork p.1.1.sender localep

/-- The messages that the turn delivers from the buffers came from the addresses
`sender1` and `sender2` that are in the first and in the second buffer. -/
def SendersKept (sender1 sender2 : Endpoint) : Prop :=
  Accepted secret x.loop rx → ¬ HeldBack secret x.loop rx →
    (x.loop.sorter.buf1.valid = true → x.original.sender = sender1) ∧
      (maxSpecialPort < (incoming secret x.loop rx).destport →
        x.loop.sorter.Swap (incoming secret x.loop rx) →
          (incoming secret x.loop rx).sender = sender2)

variable {x}

/-- A buffer filled from a message hands out the message, with its own sender address. -/
theorem agrees_iff_sender (orig held : MsgBuf) (hcontent : held.content = orig.content)
    (hsize : held.size = orig.size) :
    (Agrees orig held.invalidate ∧ ∀ localep,
      isSameNetwork held.invalidate.sender localep = isSameNetwork orig.sender localep) ↔
      orig.sender = held.sender := by
  constructor
  · exact fun h => h.1.sender.symm
  · intro hsender
    refine ⟨⟨?_, ?_, ?_, hsize, ?_, hsender.symm⟩, fun localep => ?_⟩
    · exact congrArg (fun x : Content => x.1) hcontent
    · exact congrArg (fun x : Content => x.2.1) hcontent
    · exact congrArg (fun x : Content => x.2.2.1) hcontent
    · exact congrArg (fun x : Content => x.2.2.2) hcontent
    · show isSameNetwork held.sender localep = _
      rw [hsender]

/-- One turn: all that is delivered from a buffer agrees exactly when it came from the
address that is in the buffer. -/
theorem transparent_step_iff (sender1 sender2 : Endpoint) (h : Copied sender1 sender2 x) :
    Transparent secret x rx ↔ SendersKept secret x rx sender1 sender2 := by
  have hfirst := fun hvalid => agrees_iff_sender _ _ (h.content hvalid) (h.size hvalid)
  rw [h.sender1] at hfirst
  unfold Transparent SendersKept
  rcases delivered_cases secret rx h.free2 with ⟨hnone, hlist⟩ | ⟨⟨hacc, hheld⟩, hswap, hlist⟩ |
    ⟨⟨hacc, hheld⟩, ⟨hport, hswap⟩, hlist⟩
  · -- nothing is delivered
    rw [hlist]
    exact iff_of_true (fun p hp => absurd hp List.not_mem_nil)
      fun hacc hheld => absurd ⟨hacc, hheld⟩ hnone
  · -- only the held message comes out of a buffer
    rw [hlist]
    by_cases hvalid : x.loop.sorter.buf1.valid = true
    · rw [if_pos hvalid]
      constructor
      · intro hall _ _
        refine ⟨fun _ => (hfirst hvalid).mp ?_, fun hport hsw => absurd ⟨hport, hsw⟩ hswap⟩
        exact hall (_, _) (List.mem_cons_of_mem _ List.mem_cons_self) rfl
      · intro hkept p hp hbuffered
        rcases List.mem_cons.mp hp with rfl | hp
        · exact absurd hbuffered Bool.false_ne_true
        · rw [List.mem_singleton.mp hp]
          exact (hfirst hvalid).mpr ((hkept hacc hheld).1 hvalid)
    · rw [if_neg hvalid]
      refine iff_of_true ?_ fun _ _ => ⟨fun hv => absurd hv hvalid,
        fun hport hsw => absurd ⟨hport, hsw⟩ hswap⟩
      intro p hp hbuffered
      rw [List.mem_singleton.mp hp] at hbuffered
      exact absurd hbuffered Bool.false_ne_true
  · -- the held message out of the first buffer, the new one out of the second
    have hvalid : x.loop.sorter.buf1.valid = true := (holds_of_swap hswap).1
    have hsecond := agrees_iff_sender (incoming secret x.loop rx)
      (x.loop.sorter.buf2.copy (incoming secret x.loop rx))
      (MsgBuf.content_copy _ _ (incoming_accepted hacc).2) rfl
    have hsender2 : (x.loop.sorter.buf2.copy (incoming secret x.loop rx)).sender = sender2 :=
      h.sender2
    rw [hsender2] at hsecond
    rw [hlist]
    constructor
    · intro hall _ _
      refine ⟨fun _ => (hfirst hvalid).mp ?_, fun _ _ => hsecond.mp ?_⟩
      · exact hall (_, _) List.mem_cons_self rfl
      · exact hall (_, _) (List.mem_cons_of_mem _ List.mem_cons_self) rfl
    · intro hkept p hp _
      obtain ⟨hkept1, hkept2⟩ := hkept hacc hheld
      rcases List.mem_cons.mp hp with rfl | hp
      · exact (hfirst hvalid).mpr (hkept1 hvalid)
      · rw [List.mem_singleton.mp hp]
        exact hsecond.mpr (hkept2 hport hswap)

end Transparency

/-- In a run of `sendsrv` buffering is transparent exactly when every message delivered
from a buffer came from the address that was left in the buffer. -/
theorem transparent_iff (secret : Secret) (sender1 sender2 sender : Endpoint)
    (rxs : List Received) :
    AllSteps (tracedStep secret) (Transparent secret) (Traced.fresh sender1 sender2 sender) rxs ↔
      AllSteps (tracedStep secret) (fun x rx => SendersKept secret x rx sender1 sender2)
        (Traced.fresh sender1 sender2 sender) rxs :=
  allSteps_congr (I := Copied sender1 sender2)
    (fun _ rx h => copied_step secret rx sender1 sender2 h)
    (fun _ rx h => transparent_step_iff secret rx sender1 sender2 h)
    (copied_fresh sender1 sender2 sender) rxs

/-- An address in the network `192.168.0`. -/
def localSender : Endpoint := { Endpoint.cleared with sinPort := 1234, sAddr := 0x0700a8c0 }

/-- The number `2` from a local device, packed. -/
def localAhead : Received := some (header 7 1 1234 2 ++ [], localSender)

/-- The number `1` of the same stream. -/
def localLate : Received := some (header 7 1 1234 1 ++ [], localSender)

/-- The number `2` is held back as the first message of its stream. -/
theorem localAhead_held {x : Traced} (hsorter : x.loop.sorter = MessageSorter.fresh
    Endpoint.cleared Endpoint.cleared) :
    HeldBack 7 x.loop localAhead ∧
      (incoming 7 x.loop localAhead).sender = localSender := by
  obtain ⟨raw, hreceived, -⟩ := recvSecMsg_packed 7 1 1234 2 [] (by decide) x.loop.msg localSender
  have hincoming : incoming 7 x.loop localAhead
      = ⟨true, 1, 1234, 2, 0, raw, headerLen, localSender⟩ := congrArg Prod.snd hreceived
  have hport : maxSpecialPort < (1234 : Port) := by decide
  have hahead : 1 < (2 : Sequence) - 0 := by decide
  unfold HeldBack
  rw [hincoming, hsorter]
  exact ⟨⟨congrArg Prod.fst hreceived, hport, hahead, hahead⟩, rfl⟩

/-- The number `1` is not held back, whatever has been held back before as the first. -/
theorem localLate_not_held {x : Traced} {m : MsgBuf} (hsorter : x.loop.sorter =
      (MessageSorter.fresh Endpoint.cleared Endpoint.cleared).hold m) :
    Accepted 7 x.loop localLate ∧ ¬ HeldBack 7 x.loop localLate := by
  obtain ⟨raw, hreceived, -⟩ := recvSecMsg_packed 7 1 1234 1 [] (by decide) x.loop.msg localSender
  have hincoming : incoming 7 x.loop localLate
      = ⟨true, 1, 1234, 1, 0, raw, headerLen, localSender⟩ := congrArg Prod.snd hreceived
  refine ⟨congrArg Prod.fst hreceived, ?_⟩
  rintro ⟨-, -, hgap⟩
  rw [hincoming, hsorter] at hgap
  have hclose : ¬ 1 < (1 : Sequence) - 0 := by decide
  exact hclose hgap.2

/-- The number `2` from a local device is held back behind a gap, and handed on behind
the late number `1` with the cleared address of the buffer. -/
theorem held_message_to_proxies :
    ¬ AllSteps (tracedStep 7) (Transparent 7)
      (Traced.fresh Endpoint.cleared Endpoint.cleared Endpoint.cleared)
      [localAhead, localLate] := by
  have hfresh := copied_fresh Endpoint.cleared Endpoint.cleared Endpoint.cleared
  obtain ⟨hheld, hsender⟩ := localAhead_held (x := Traced.fresh
    Endpoint.cleared Endpoint.cleared Endpoint.cleared) rfl
  have hcopied := copied_step 7 localAhead Endpoint.cleared Endpoint.cleared hfresh
  have hsorter := (turn_accepted hheld.1).2.trans
    (congrArg Prod.snd (feed_eq_hold (incoming_accepted hheld.1).1 hheld.2.1 hheld.2.2))
  -- the late message lets the held one go
  obtain ⟨hacc, hlate⟩ := localLate_not_held (x := tracedStep 7 (Traced.fresh Endpoint.cleared
    Endpoint.cleared Endpoint.cleared) localAhead) hsorter
  intro htransparent
  have hkept := (transparent_step_iff 7 localLate Endpoint.cleared Endpoint.cleared hcopied).mp
    htransparent.2.1 hacc hlate
  have hvalid := (buf1_valid_loopStep hfresh.free2).mpr (Or.inl hheld)
  have horiginal := hkept.1 hvalid
  rw [tracedStep, if_pos hheld, hsender] at horiginal
  exact absurd horiginal (by decide)

end Libov
