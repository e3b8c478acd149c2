/-
# Streams that arrive in order

Two devices, and between them a way that loses none of the datagrams of one stream and keeps
their order.  Whatever else the two do in between, and whatever else arrives: the payloads that
the first device reads for a port come out at the local ports of the second one, in the order in
which they were read and as they were: of each of them the copies that the second device makes for
its local ports.

* `OrderedWay`, `wayStep` : the two devices and the datagrams under way;
* `Synced` : the sorter is level with a stream and holds nothing of it;
* `UnderWay` : the datagrams under way carry payloads with consecutive numbers;
* `stream_delivered` : what has come out is what has been read, but for what is under way.
-/
import Libov.DeviceSetup

open Runs

namespace Libov

/-! ## The way between two devices -/

/-- Two devices and the datagrams of a stream between them, with what has been read of the
stream and what has come out of it. -/
structure OrderedWay where
  sender : ClientNode
  receiver : ClientNode
  underWay : List (List UInt8)
  read : List (List UInt8)
  heard : List Datagram

/-- A step of one of the devices.  The steps `read` and `arrive` are those with the stream. -/
inductive WayEvent where
  | read (thread : ℕ) (th : Thread) (payload : List UInt8)
  | arrive (addr : Endpoint) (clock : List UInt8 → ℚ) (locked : Bool)
  | sender (e : DeviceEvent)
  | receiver (e : DeviceEvent)

/-- The datagrams of a payload to a peer. -/
def ClientState.sentTo (L : Sodium) (c : ClientState) (thread : ℕ) (th : Thread)
    (payload : List UInt8) (ocid : ℕ) : List (List UInt8) :=
  ((forward L c.client (c.threads thread) payload th).1.sends.filter
    fun x => x.recipient == .peer ocid).map fun x => x.datagram.data

/-- What the messages of a stream make a client send to its local ports. -/
def ClientState.heardFrom (L : Sodium) (clock : List UInt8 → ℚ) (locked : Bool) (k : Stream) :
    ClientState → List MsgBuf → List Datagram
  | _, [] => []
  | c, m :: ms =>
      (if m.stream = k then (processMsg L c.receiver m).localSends else []) ++
        heardFrom L clock locked k (handle L clock locked c m) ms

/-- The same for a step of the device. -/
def ClientNode.hears (L : Sodium) (k : Stream) (n : ClientNode) : DeviceEvent → List Datagram
  | .node (.received rx clock locked) =>
      n.client.heardFrom L clock locked k (turn n.client.remoteServer.secret n.loop rx).1
  | _ => []

/-- One step; `k` is the stream. -/
def wayStep (L : Sodium) (k : Stream) (w : OrderedWay) : WayEvent → OrderedWay
  | .read thread th payload =>
      { w with
        sender := deviceStep L w.sender (.node (.payload thread th payload))
        underWay := w.underWay
          ++ w.sender.client.sentTo L thread th payload w.receiver.client.callerid.toNat
        read := w.read ++ [payload] }
  | .arrive addr clock locked =>
      match w.underWay with
      | [] => w
      | d :: ds =>
          let e : DeviceEvent := .node (.received (some (d, addr)) clock locked)
          { w with
            receiver := deviceStep L w.receiver e
            underWay := ds
            heard := w.heard ++ w.receiver.hears L k e }
  | .sender e => { w with sender := deviceStep L w.sender e }
  | .receiver e =>
      { w with
        receiver := deviceStep L w.receiver e
        heard := w.heard ++ w.receiver.hears L k e }

/-- What the table of a device says of another one is right as far as encryption goes. -/
def ClientState.Knows (c other : ClientState) : Prop :=
  ∀ i : Fin maxStageId, other.callerid.toNat = i →
    (c.endpointList.endpoints i).mode.has bEncryption = other.mode.has bEncryption ∧
      ((c.endpointList.endpoints i).hasPubkey = true →
        (c.endpointList.endpoints i).pubkey = other.recipientPublic)

/-- The step does not bring a message of the stream. -/
def DeviceEvent.BringsOther (k : Stream) (n : ClientNode) : DeviceEvent → Prop
  | .node (.received rx _ _) =>
      Accepted n.client.remoteServer.secret n.loop rx →
        (incoming n.client.remoteServer.secret n.loop rx).stream ≠ k
  | _ => True

/-- When a step is possible: a payload of the stream fits with its seal, is not itself a box for
the receiver, and is sent to it; and the datagrams of the stream arrive on the way only. -/
def OnWay (L : Sodium) (k : Stream) (w : OrderedWay) : WayEvent → Prop
  | .read thread th payload =>
      th.packPort w.sender.client.client = k.2 ∧ 1 ≤ payload.length ∧
        headerLen + payload.length + cryptoBoxSealBytes ≤ bufSize ∧
        (∀ rnd msg, payload ≠ L.boxSeal rnd msg w.receiver.client.recipientPublic) ∧
        w.sender.client.Knows w.receiver.client ∧
        ∃ x ∈ (forward L w.sender.client.client (w.sender.client.threads thread) payload
          th).1.sends, x.recipient = .peer w.receiver.client.callerid.toNat
  | .arrive _ _ _ => w.receiver.client.Knows w.sender.client
  | .sender e => e.NotFor k.2 w.sender.client
  | .receiver e => e.BringsOther k w.receiver

/-! ## The sorter -/

/-- The sorter has received the stream up to this number, and holds nothing of it. -/
structure Synced (k : Stream) (seq : Sequence) (s : MessageSorter) : Prop where
  buf2 : s.buf2.valid = false
  free : ¬ s.Holds k
  last : s.seqIn.last k = seq

section Sorter

variable {k : Stream} {seq : Sequence} {secret : Secret} {x : SendsrvLoop} {rx : Received}

theorem Synced.released {s : MessageSorter} (h : Synced k seq s) :
    ∀ m ∈ s.released, m.stream ≠ k := by
  intro m hm
  unfold MessageSorter.released at hm
  split_ifs at hm with hvalid
  · rw [List.mem_singleton.mp hm]
    exact fun hk => h.free ⟨hvalid, hk⟩
  · exact absurd hm List.not_mem_nil

theorem not_holds_of_invalid {s : MessageSorter} (h : s.buf1.valid = false) : ¬ s.Holds k :=
  fun hk => Bool.false_ne_true (h.symm.trans hk.1)

/-- A turn without a message of the stream delivers none of it. -/
theorem synced_other (h : Synced k seq x.sorter)
    (hother : Accepted secret x rx → (incoming secret x rx).stream ≠ k) :
    (∀ m ∈ (turn secret x rx).1, m.stream ≠ k) ∧ Synced k seq (loopStep secret x rx).sorter := by
  have hrecord : Accepted secret x rx →
      (x.sorter.seqIn.record (incoming secret x rx)).last k = seq := fun hacc =>
    (SenderMap.last_record_of_ne _ (Ne.symm (hother hacc))).trans h.last
  rcases turn_cases secret rx h.buf2 with ⟨-, hlist, hs⟩ | ⟨hacc, -, hlist, hs⟩ |
    ⟨hback, hlist, hs⟩ | ⟨hacc, -, hswap, hlist, hs⟩ | ⟨hacc, -, -, hlist, hs⟩
  · rw [hlist, hs]
    exact ⟨fun m hm => absurd hm List.not_mem_nil, h⟩
  · rw [hlist, hs]
    refine ⟨List.forall_mem_cons.mpr ⟨hother hacc, h.released⟩, ?_, ?_, ?_⟩
    · rw [MessageSorter.buf2_flush]
      exact h.buf2
    · exact not_holds_of_invalid (MessageSorter.buf1_invalid_flush _)
    · rw [MessageSorter.seqIn_flush]
      exact h.last
  · -- the message goes into the buffer, which may have held one of yet another stream
    rw [hlist, hs]
    exact ⟨fun m hm => absurd hm List.not_mem_nil, h.buf2, fun hk => hother hback.1 hk.2,
      hrecord hback.1⟩
  · rw [hlist, hs]
    have hheld : x.sorter.buf1.stream ≠ k := fun hk => h.free ⟨hswap.2.1, hk⟩
    refine ⟨List.forall_mem_cons.mpr ⟨hheld, ?_⟩, rfl, not_holds_of_invalid rfl, hrecord hacc⟩
    intro m hm
    rw [List.mem_singleton.mp hm]
    exact hother hacc
  · rw [hlist, hs]
    refine ⟨List.forall_mem_cons.mpr ⟨hother hacc, h.released⟩, ?_, ?_, ?_⟩
    · rw [MessageSorter.pass, MessageSorter.buf2_flush]
      exact h.buf2
    · exact not_holds_of_invalid (MessageSorter.buf1_invalid_pass _ _)
    · rw [MessageSorter.seqIn_pass]
      exact hrecord hacc

/-- The next message of the stream is delivered at once, and what was held of others behind it. -/
theorem synced_next (h : Synced k seq x.sorter) (hacc : Accepted secret x rx)
    (hk : (incoming secret x rx).stream = k) (hdata : maxSpecialPort < k.2)
    (hseq : (incoming secret x rx).seq = seq + 1) :
    (turn secret x rx).1 = (incoming secret x rx).invalidate :: x.sorter.released ∧
      Synced k (seq + 1) (loopStep secret x rx).sorter := by
  have hdelta : deltaseqConst x.sorter.seqIn (incoming secret x rx) = 1 := by
    rw [deltaseqConst_eq, hk, h.last, hseq, Int16.add_comm]
    exact Int16.add_sub_cancel 1 seq
  have hport : maxSpecialPort < (incoming secret x rx).destport := by
    rw [← hk] at hdata
    exact hdata
  have hgap : ¬ x.sorter.Gap (incoming secret x rx) := by
    unfold MessageSorter.Gap
    rw [hdelta]
    exact fun hgap => absurd hgap.1 (by decide)
  have hswap : ¬ x.sorter.Swap (incoming secret x rx) := by
    intro hswap
    have hholds := holds_of_swap hswap
    rw [hk] at hholds
    exact h.free hholds
  rcases turn_cases secret rx h.buf2 with ⟨hidle, -, -⟩ | ⟨-, hspecial, -, -⟩ |
    ⟨hback, -, -⟩ | ⟨-, -, hswap', -, -⟩ | ⟨-, -, -, hlist, hs⟩
  · exact absurd hacc hidle
  · exact absurd hport (UInt16.not_lt.mpr hspecial)
  · exact absurd hback.2.2 hgap
  · exact absurd hswap' hswap
  · refine ⟨hlist, ?_⟩
    rw [hs]
    refine ⟨?_, not_holds_of_invalid (MessageSorter.buf1_invalid_pass _ _), ?_⟩
    · rw [MessageSorter.pass, MessageSorter.buf2_flush]
      exact h.buf2
    · rw [MessageSorter.seqIn_pass, ← hk, SenderMap.last_record_self]
      exact hseq

end Sorter

/-! ## What is under way -/

/-- The local ports for a payload on the port `p`: those at the offset of the client and at its
extra destinations, without the port that it receives on itself and without `0`. -/
def ClientState.localPorts (c : ClientState) (p : Port) : List Port :=
  ((c.portoffset :: c.xdest).filter fun offset =>
    p.toNat + offset.toNat ≠ c.recport.toNat ∧ p + offset ≠ 0).map fun offset => p + offset

/-- The payload once for each of its local ports. -/
def ClientState.copies (c : ClientState) (p : Port) (payload : List UInt8) : List Datagram :=
  (c.localPorts p).map fun port => ⟨{ c.localServer with sinPort := htons port }, payload⟩

/-- What `process_msg` sends to the local ports are these copies. -/
theorem copies_eq (c : ClientState) (p : Port) (payload : List UInt8) :
    c.copies p payload = (c.portoffset :: c.xdest).flatMap (c.receiver.sendLocal payload p) := by
  unfold ClientState.copies ClientState.localPorts
  induction c.portoffset :: c.xdest with
  | nil => rfl
  | cons offset offsets ih =>
      have hown : c.receiver.client.recport = c.recport := rfl
      rw [List.flatMap_cons, ← ih, sendLocal_eq, hown, List.filter_cons]
      by_cases hleft : p.toNat + offset.toNat = c.recport.toNat ∨ p + offset = 0
      · have hout : ¬ (p.toNat + offset.toNat ≠ c.recport.toNat ∧ p + offset ≠ 0) :=
          fun h => hleft.elim h.1 h.2
        rw [if_pos hleft, if_neg (mt of_decide_eq_true hout), List.nil_append]
      · rw [if_neg hleft, if_pos (decide_eq_true (not_or.mp hleft))]
        rfl

section Way

variable (L : Sodium) (a b : ClientState) (k : Stream)

/-- The datagram carries this payload with this number. -/
def OnItsWay (seq : Sequence) (payload d : List UInt8) : Prop :=
  ∃ body, d = header a.remoteServer.secret k.1 k.2 seq ++ body ∧
    headerLen + body.length ≤ bufSize ∧ payload.length + cryptoBoxSealBytes ≤ bufSize ∧
    (∀ rnd msg, payload ≠ L.boxSeal rnd msg b.recipientPublic) ∧
    (body = payload ∨ (∃ rnd, body = L.boxSeal rnd payload b.recipientPublic) ∧
      a.mode.has bEncryption = true ∧ b.mode.has bEncryption = true)

/-- The datagrams carry these payloads, with the numbers behind the first one up to the last. -/
inductive UnderWay : Sequence → List (List UInt8) → List (List UInt8) → Sequence → Prop
  | nil (seq : Sequence) : UnderWay seq [] [] seq
  | cons {seq last : Sequence} {d payload : List UInt8} {ds payloads : List (List UInt8)}
      (hd : OnItsWay L a b k (seq + 1) payload d) (hds : UnderWay (seq + 1) ds payloads last) :
      UnderWay seq (d :: ds) (payload :: payloads) last

/-- Two different devices of one session, and a stream from the first to the second. -/
structure Linked : Prop where
  secret : a.remoteServer.secret = b.remoteServer.secret
  sender : a.remoteServer.callerid = a.callerid
  stream : k.1 = a.callerid
  data : maxSpecialPort < k.2
  distinct : a.callerid ≠ b.callerid
  inTable : a.callerid.toNat < maxStageId
  peerInTable : b.callerid.toNat < maxStageId
  boxes : SealedBoxes L b.recipientPublic b.recipientSecret

/-- What holds between the steps: what has been read has come out, but for what is under way. -/
structure WayInvariant (w : OrderedWay) (done ahead : List (List UInt8)) (seq : Sequence) :
    Prop where
  sender : SameIdentity a w.sender.client
  receiver : SameIdentity b w.receiver.client
  synced : Synced k seq w.receiver.loop.sorter
  underWay : UnderWay L a b k seq w.underWay ahead (w.sender.client.remoteServer.seqmap.at k.2)
  read : w.read = done ++ ahead
  heard : w.heard = done.flatMap (b.copies k.2)

variable {L a b k} {c : ClientState}

theorem UnderWay.append_one {seq last : Sequence} {ds payloads : List (List UInt8)}
    (h : UnderWay L a b k seq ds payloads last) {d payload : List UInt8}
    (hd : OnItsWay L a b k (last + 1) payload d) :
    UnderWay L a b k seq (ds ++ [d]) (payloads ++ [payload]) (last + 1) := by
  induction h with
  | nil seq => exact .cons hd (.nil _)
  | cons hfirst _ ih => exact .cons hfirst (ih hd)

theorem UnderWay.length_eq {seq last : Sequence} {ds payloads : List (List UInt8)}
    (h : UnderWay L a b k seq ds payloads last) : ds.length = payloads.length := by
  induction h with
  | nil seq => rfl
  | cons _ _ ih => exact congrArg (· + 1) ih

/-! ### Reading a payload -/

/-- A peer gets at most one datagram for a payload. -/
theorem PassSpec.countTo_peer_le {c : OvboxClient} {th : Thread} {msg : Buffer bufSize}
    {msglen : ℕ} {p : Pass} (h : PassSpec L c th msg msglen p) (ocid : ℕ) :
    p.countTo (.peer ocid) ≤ 1 := by
  rw [← length_destinations, h.destinations_peer]
  split_ifs
  · cases c.endpoints.1[ocid]? with
    | none => exact Nat.zero_le 1
    | some ep =>
        show (th.decision c ocid ep).direct.toList.length ≤ 1
        cases (th.decision c ocid ep).direct with
        | none => exact Nat.zero_le 1
        | some a => exact le_rfl
  · exact Nat.zero_le 1

/-- It gets one if one of those that are sent is for it. -/
theorem sentTo_eq {thread : ℕ} {th : Thread} {payload : List UInt8} {ocid : ℕ}
    (hsent : ∃ x ∈ (forward L c.client (c.threads thread) payload th).1.sends,
      x.recipient = .peer ocid) :
    ∃ x ∈ (forward L c.client (c.threads thread) payload th).1.sends,
      x.recipient = .peer ocid ∧ c.sentTo L thread th payload ocid = [x.datagram.data] := by
  obtain ⟨x, hx, hpeer⟩ := hsent
  have hspec := forward_spec L c.client (c.threads thread) payload th (length_pos_of_sends hx)
  have hle := hspec.countTo_peer_le ocid
  rw [Pass.countTo, List.countP_eq_length_filter] at hle
  have hmem : x ∈ (forward L c.client (c.threads thread) payload th).1.sends.filter
      fun x => x.recipient == .peer ocid :=
    List.mem_filter.mpr ⟨hx, by rw [hpeer]; exact beq_self_eq_true _⟩
  refine ⟨x, hx, hpeer, ?_⟩
  unfold ClientState.sentTo
  generalize List.filter _ _ = sent at hle hmem ⊢
  obtain ⟨y, rfl⟩ := List.length_eq_one_iff.mp (le_antisymm hle (List.length_pos_of_mem hmem))
  rw [List.mem_singleton.mp hmem]
  rfl

/-- What the sender makes of a payload of the stream. -/
theorem onItsWay_of_sent (hlink : Linked L a b k) (ha : SameIdentity a c) {thread : ℕ}
    {th : Thread} {payload : List UInt8} (hport : th.packPort c.client = k.2)
    (hfit : headerLen + payload.length + cryptoBoxSealBytes ≤ bufSize)
    (hnobox : ∀ rnd msg, payload ≠ L.boxSeal rnd msg b.recipientPublic) {other : ClientState}
    (hother : SameIdentity b other) (hknows : c.Knows other) {x : Sent}
    (hx : x ∈ (forward L c.client (c.threads thread) payload th).1.sends)
    (hpeer : x.recipient = .peer b.callerid.toNat) :
    OnItsWay L a b k (c.remoteServer.seqmap.at k.2 + 1) payload x.datagram.data := by
  let i : Fin maxStageId := ⟨b.callerid.toNat, hlink.peerInTable⟩
  have hspec := forward_spec L c.client (c.threads thread) payload th (length_pos_of_sends hx)
  have hout := hspec.data_peer hx hpeer (getElem?_table c.endpointList i)
  have hid : other.callerid = b.callerid := congrArg Member.callerid hother.member
  obtain ⟨hmode, hkey⟩ := hknows i (congrArg UInt8.toNat hid)
  have hheader : th.header c.client = header a.remoteServer.secret k.1 k.2
      (c.remoteServer.seqmap.at k.2 + 1) := by
    have hsender : c.remoteServer.callerid = k.1 :=
      ha.sender.trans (hlink.sender.trans hlink.stream.symm)
    unfold Thread.header
    rw [hport]
    show header c.remoteServer.secret c.remoteServer.callerid k.2
      (c.remoteServer.nextSeq k.2) = _
    rw [OvboxUdpSocket.nextSeq, if_pos (UInt16.le_of_lt hlink.data), ha.secret, hsender]
  by_cases hseals : c.client.encryptsTo (c.endpointList.endpoints i).toEpDesc = true
  · rw [hseals] at hout
    obtain ⟨rnd, hdata⟩ := outgoing_sealed hfit hout
    unfold OvboxClient.encryptsTo at hseals
    simp only [Bool.and_eq_true] at hseals
    have hpublic : (c.endpointList.endpoints i).pubkey = b.recipientPublic :=
      (hkey hseals.2).trans (congrArg Member.publicKey hother.member)
    rw [hheader, hpublic] at hdata
    refine ⟨_, hdata, ?_, by omega, hnobox, Or.inr ⟨⟨rnd, rfl⟩, ?_, ?_⟩⟩
    · rw [L.length_boxSeal]
      omega
    · rw [← ha.mode]
      exact hseals.1.1
    · rw [← hother.mode, ← hmode]
      exact hseals.1.2
  · rw [Bool.eq_false_iff.mpr hseals] at hout
    have hdata := outgoing_plain (by omega) hout
    unfold Thread.packed at hdata
    rw [hheader] at hdata
    exact ⟨payload, hdata, by omega, by omega, hnobox, Or.inl rfl⟩

/-! ### Arrival -/

/-- Messages of other streams are none of this one. -/
theorem heardFrom_other {clock : List UInt8 → ℚ} {locked : Bool} {ms : List MsgBuf}
    (h : ∀ m ∈ ms, m.stream ≠ k) (c : ClientState) : c.heardFrom L clock locked k ms = [] := by
  induction ms generalizing c with
  | nil => rfl
  | cons m ms ih =>
      obtain ⟨hm, hms⟩ := List.forall_mem_cons.mp h
      unfold ClientState.heardFrom
      rw [if_neg hm, List.nil_append]
      exact ih hms _

/-- The receiver makes the payload of what is under way. -/
theorem plaintext_arrived (hlink : Linked L a b k) (hb : SameIdentity b c) {other : ClientState}
    (hother : SameIdentity a other) (hknows : c.Knows other) {m : MsgBuf} (hcid : m.cid = k.1)
    (hsize : m.payload.length = m.size) {payload body : List UInt8} (hbody : m.payload = body)
    (hfit : payload.length + cryptoBoxSealBytes ≤ bufSize)
    (hnobox : ∀ rnd msg, payload ≠ L.boxSeal rnd msg b.recipientPublic)
    (hcarries : body = payload ∨ (∃ rnd, body = L.boxSeal rnd payload b.recipientPublic) ∧
      a.mode.has bEncryption = true ∧ b.mode.has bEncryption = true) :
    (c.receiver.plaintext L m).1 = payload := by
  have hpublic : c.receiver.recipientPublic = b.recipientPublic :=
    congrArg Member.publicKey hb.member
  have hsecret : c.receiver.recipientSecret = b.recipientSecret :=
    congrArg Member.secretKey hb.member
  rcases hcarries with rfl | ⟨⟨rnd, hsealed⟩, hmodeA, hmodeB⟩
  · rw [plaintext_of_not_opened, hbody]
    intro _
    rw [hbody, hpublic, hsecret]
    exact hlink.boxes.rejects _ hnobox
  · have hid : other.callerid = a.callerid := congrArg Member.callerid hother.member
    obtain ⟨hmode, -⟩ := hknows ⟨a.callerid.toNat, hlink.inTable⟩ (congrArg UInt8.toNat hid)
    have htries : c.receiver.TriesToOpen m := by
      have hentry : c.receiver.entry a.callerid
          = (c.endpointList.endpoints ⟨a.callerid.toNat, hlink.inTable⟩).toEpDesc := by
        unfold Receiver.entry
        rw [List.getD_eq_getElem?_getD]
        exact congrArg (fun e => Option.getD e _)
          (getElem?_table c.endpointList ⟨a.callerid.toNat, hlink.inTable⟩)
      unfold Receiver.TriesToOpen
      rw [hcid, hlink.stream, hentry]
      refine ⟨hlink.inTable, ?_, ?_⟩
      · rw [hmode, hother.mode]
        exact hmodeA
      · rw [← hb.mode] at hmodeB
        exact hmodeB
    have hlen : m.size = payload.length + cryptoBoxSealBytes := by
      rw [← hsize, hbody, hsealed, L.length_boxSeal]
    refine plaintext_of_opened htries ?_ hlen (hlen ▸ hfit)
    rw [hbody, hsealed, hpublic, hsecret]
    exact hlink.boxes.opens rnd payload

/-- The local datagrams depend on what stays the same. -/
theorem copies_same (hb : SameIdentity b c) (p : Port) (payload : List UInt8) :
    (c.receiver.client.portoffset :: c.receiver.xdest).flatMap (c.receiver.sendLocal payload p)
      = b.copies p payload := by
  have hoffset : c.portoffset = b.portoffset := congrArg Member.portoffset hb.member
  have hxdest : c.xdest = b.xdest := congrArg Member.xdest hb.member
  have hserver : c.localServer = b.localServer := congrArg Member.localServer hb.member
  refine (copies_eq c p payload).symm.trans ?_
  unfold ClientState.copies ClientState.localPorts
  rw [hoffset, hxdest, hserver, hb.recport]

/-- The datagram that arrives next comes out at the local ports. -/
theorem hears_arrived (hlink : Linked L a b k) {n : ClientNode} (hb : SameIdentity b n.client)
    {other : ClientState} (hother : SameIdentity a other) (hknows : n.client.Knows other)
    {seq : Sequence} (hsync : Synced k seq n.loop.sorter) {payload d : List UInt8}
    (hd : OnItsWay L a b k (seq + 1) payload d) (addr : Endpoint) (clock : List UInt8 → ℚ)
    (locked : Bool) :
    n.hears L k (.node (.received (some (d, addr)) clock locked)) = b.copies k.2 payload ∧
      Synced k (seq + 1)
        (nodeStep L n (.received (some (d, addr)) clock locked)).loop.sorter := by
  obtain ⟨body, rfl, hlen, hfit, hnobox, hcarries⟩ := hd
  have hsecret : a.remoteServer.secret = n.client.remoteServer.secret :=
    hlink.secret.trans hb.secret.symm
  obtain ⟨hacc, hunpacked, -, hcid, hport, hseq, hpayload⟩ := incoming_cut
    n.client.remoteServer.secret n.loop k.1 k.2 (seq + 1) body addr
  rw [← hsecret] at hacc hcid hport hseq hpayload hunpacked
  rw [List.take_of_length_le (by omega)] at hpayload
  obtain ⟨hlist, hsynced⟩ := synced_next hsync hacc (Prod.ext hcid hport) hlink.data hseq
  rw [sorter_received, ← hsecret]
  refine ⟨?_, hsynced⟩
  unfold ClientNode.hears
  dsimp only
  rw [← hsecret, hlist]
  generalize incoming a.remoteServer.secret n.loop _ = m at *
  have hstream : m.invalidate.stream = k := Prod.ext hcid hport
  have hsize : m.payload.length = m.size :=
    m.rawbuffer.length_read _ _ (by rw [hunpacked.msg]; exact hunpacked.size)
  have hforeign : m.invalidate.cid ≠ n.client.receiver.client.callerid := by
    have hid : n.client.callerid = b.callerid := congrArg Member.callerid hb.member
    show m.cid ≠ n.client.callerid
    rw [hcid, hlink.stream, hid]
    exact hlink.distinct
  have hdata : maxSpecialPort < m.invalidate.destport := by
    show maxSpecialPort < m.destport
    rw [hport]
    exact hlink.data
  have hplain := plaintext_arrived hlink hb hother hknows (m := m.invalidate) hcid hsize hpayload
    hfit hnobox hcarries
  unfold ClientState.heardFrom
  rw [if_pos hstream, heardFrom_other hsync.released, List.append_nil,
    localSends_processMsg hforeign hdata, hplain]
  show List.flatMap (n.client.receiver.sendLocal payload m.destport) _ = _
  rw [hport]
  exact copies_same hb k.2 payload

/-- A step without the stream lets nothing of it be heard. -/
theorem hears_other {n : ClientNode} {seq : Sequence} (hsync : Synced k seq n.loop.sorter)
    {e : DeviceEvent} (he : e.BringsOther k n) :
    n.hears L k e = [] ∧ Synced k seq (deviceStep L n e).loop.sorter := by
  cases e with
  | node e =>
      cases e with
      | received rx clock locked =>
          obtain ⟨hlist, hsynced⟩ := synced_other hsync he
          exact ⟨heardFrom_other hlist n.client, hsynced⟩
      | checkstatus keys => exact ⟨rfl, hsync⟩
      | payload thread th payload => exact ⟨rfl, hsync⟩
  | pingservice rver buffer stamps => exact ⟨rfl, hsync⟩
  | announceLatency double cid p2p => exact ⟨rfl, hsync⟩

/-! ### Whole runs -/

/-- What a step keeps. -/
theorem wayInvariant_step (hlink : Linked L a b k) {w : OrderedWay}
    (h : ∃ done ahead seq, WayInvariant L a b k w done ahead seq) {e : WayEvent}
    (he : OnWay L k w e) :
    ∃ done ahead seq, WayInvariant L a b k (wayStep L k w e) done ahead seq := by
  obtain ⟨done, ahead, seq, h⟩ := h
  have hid : w.receiver.client.callerid = b.callerid :=
    congrArg Member.callerid h.receiver.member
  cases e with
  | read thread th payload =>
      obtain ⟨hport, hpos, hfit, hnobox, hknows, hsent⟩ := he
      obtain ⟨x, hx, hpeer, hdatagrams⟩ := sentTo_eq hsent
      obtain ⟨hsame, hlast⟩ := sameIdentity_forwardPayload (L := L) hlink.data w.sender.client
        thread hport hpos
      have hpublic : w.receiver.client.recipientPublic = b.recipientPublic :=
        congrArg Member.publicKey h.receiver.member
      rw [hpublic] at hnobox
      rw [hid] at hpeer
      have hd := onItsWay_of_sent hlink h.sender hport hfit hnobox h.receiver hknows hx hpeer
      refine ⟨done, ahead ++ [payload], seq, h.sender.trans hsame, h.receiver, h.synced, ?_, ?_,
        h.heard⟩
      · show UnderWay L a b k seq (w.underWay ++ _) _
          ((w.sender.client.forwardPayload L thread th payload).remoteServer.seqmap.at k.2)
        rw [hdatagrams, hlast]
        exact h.underWay.append_one hd
      · show w.read ++ [payload] = _
        rw [h.read, List.append_assoc]
  | arrive addr clock locked =>
      cases hway : w.underWay with
      | nil =>
          have hstay : wayStep L k w (.arrive addr clock locked) = w := by
            unfold wayStep
            dsimp only
            rw [hway]
          rw [hstay]
          exact ⟨done, ahead, seq, h⟩
      | cons d ds =>
          obtain ⟨hsender, hreceiver, hsynced, hunder, hread, hheard⟩ := h
          rw [hway] at hunder
          cases hunder with | @cons _ _ _ payload _ payloads hd hds =>
          obtain ⟨hhears, hsynced'⟩ := hears_arrived hlink hreceiver hsender he hsynced hd addr
            clock locked
          unfold wayStep
          dsimp only
          rw [hway]
          refine ⟨done ++ [payload], payloads, seq + 1, hsender, ?_, hsynced', hds, ?_, ?_⟩
          · exact hreceiver.trans (sameDevice_foldl_handle k.2 clock locked _ _).toSameIdentity
          · rw [List.append_assoc]
            exact hread
          · dsimp only
            rw [hhears, hheard, List.flatMap_append, List.flatMap_singleton]
  | sender e =>
      have hsame := sameDevice_step (L := L) hlink.data w.sender he
      refine ⟨done, ahead, seq, h.sender.trans hsame.toSameIdentity, h.receiver, h.synced, ?_,
        h.read, h.heard⟩
      show UnderWay L a b k seq w.underWay ahead
        ((deviceStep L w.sender e).client.remoteServer.seqmap.at k.2)
      rw [hsame.last]
      exact h.underWay
  | receiver e =>
      obtain ⟨hhears, hsynced'⟩ := hears_other (L := L) h.synced he
      refine ⟨done, ahead, seq, h.sender, h.receiver.trans (sameIdentity_step w.receiver e),
        hsynced', h.underWay, h.read, ?_⟩
      show w.heard ++ w.receiver.hears L k e = _
      rw [hhears, List.append_nil]
      exact h.heard

end Way

/-- In every run what has come out of the stream at the local ports are the copies of what has been
read of it, payload by payload and in order, but for the datagrams under way. -/
theorem stream_delivered (L : Sodium) (a b : ClientNode) (k : Stream)
    (hlink : Linked L a.client b.client k)
    (hsync : Synced k (a.client.remoteServer.seqmap.at k.2) b.loop.sorter) (es : List WayEvent)
    (hes : AllSteps (wayStep L k) (OnWay L k) ⟨a, b, [], [], []⟩ es) :
    let w := run (wayStep L k) ⟨a, b, [], [], []⟩ es
    w.underWay.length ≤ w.read.length ∧
      w.heard = (w.read.take (w.read.length - w.underWay.length)).flatMap
        (b.client.copies k.2) := by
  intro w
  have hstart : ∃ done ahead seq,
      WayInvariant L a.client b.client k ⟨a, b, [], [], []⟩ done ahead seq :=
    ⟨[], [], _, SameIdentity.refl _, SameIdentity.refl _, hsync, .nil _, rfl, rfl⟩
  obtain ⟨done, ahead, seq, h⟩ := invariant_run
    (I := fun w => ∃ done ahead seq, WayInvariant L a.client b.client k w done ahead seq)
    (fun _ _ h he => wayInvariant_step hlink h he) hstart hes
  have hlen : w.underWay.length = ahead.length := h.underWay.length_eq
  rw [hlen, show w.read = done ++ ahead from h.read, List.length_append, Nat.add_sub_cancel,
    List.take_left]
  exact ⟨Nat.le_add_left _ _, h.heard⟩

/-- The last datagram under way leaves the way empty. -/
theorem arrive_last (L : Sodium) (k : Stream) {w : OrderedWay} {d : List UInt8}
    (hway : w.underWay = [d]) (addr : Endpoint) (clock : List UInt8 → ℚ) (locked : Bool) :
    (wayStep L k w (.arrive addr clock locked)).underWay = [] ∧
      (wayStep L k w (.arrive addr clock locked)).read = w.read := by
  unfold wayStep
  dsimp only
  rw [hway]
  exact ⟨rfl, rfl⟩

/-- A payload of the device `1` for the port `9000` comes out at this port of the device `2`. -/
theorem stream_delivered_one :
    let a : ClientNode := ⟨ClientState.encrypting 1,
      SendsrvLoop.fresh Endpoint.cleared Endpoint.cleared Endpoint.cleared⟩
    let b : ClientNode := ⟨ClientState.encrypting 2,
      SendsrvLoop.fresh Endpoint.cleared Endpoint.cleared Endpoint.cleared⟩
    (run (wayStep Sodium.tagged (1, 9000)) ⟨a, b, [], [], []⟩
        [.read 0 (.xrecsrv 9000) [1], .arrive Endpoint.cleared (fun _ => 0) true]).heard
      = [⟨{ Endpoint.cleared with sinPort := htons 9000 }, [1]⟩] := by
  intro a b
  have hlink : Linked Sodium.tagged a.client b.client (1, 9000) :=
    ⟨rfl, rfl, rfl, by decide, by decide, by decide, by decide, sealedBoxes_tagged _ _⟩
  have hsync : Synced (1, 9000) (a.client.remoteServer.seqmap.at 9000) b.loop.sorter :=
    ⟨rfl, not_holds_of_invalid rfl, rfl⟩
  have hnobox : ∀ rnd msg, [1] ≠ Sodium.tagged.boxSeal rnd msg b.client.recipientPublic := by
    intro rnd msg heq
    have hlen := Sodium.tagged.length_boxSeal rnd msg b.client.recipientPublic
    rw [← heq] at hlen
    simp [cryptoBoxSealBytes] at hlen
  have hsent : ∃ x ∈ (forward Sodium.tagged a.client.client (a.client.threads 0) [1]
      (.xrecsrv 9000)).1.sends, x.recipient = .peer 2 :=
    exists_sent_to_peer (k := ⟨2, by decide⟩) (by decide) (by decide) (by decide) (by decide)
      (by decide) (by decide) (by decide)
  have hknows : ∀ c other : ClientState, c.endpointList = a.client.endpointList →
      other.mode = a.client.mode → c.Knows other := by
    rintro c other hlist hother i -
    rw [hlist, hother]
    exact ⟨rfl, fun hkey => absurd hkey Bool.false_ne_true⟩
  obtain ⟨x, -, -, hdatagrams⟩ := sentTo_eq hsent
  -- the payload is under way, and then it is not
  let w : OrderedWay := wayStep Sodium.tagged (1, 9000) ⟨a, b, [], [], []⟩
    (.read 0 (.xrecsrv 9000) [1])
  have hway : w.underWay = [x.datagram.data] := hdatagrams
  obtain ⟨hempty, hread⟩ := arrive_last Sodium.tagged (1, 9000) hway Endpoint.cleared (fun _ => 0)
    true
  obtain ⟨-, hheard⟩ := stream_delivered Sodium.tagged a b (1, 9000) hlink hsync
    [.read 0 (.xrecsrv 9000) [1], .arrive Endpoint.cleared (fun _ => 0) true]
    ⟨⟨rfl, by decide, by decide, hnobox, hknows _ _ rfl rfl, hsent⟩, hknows _ _ rfl rfl,
      trivial⟩
  rw [run_cons, run_cons, run_nil] at hheard ⊢
  rw [hheard, hempty, hread]
  rfl

end Libov
