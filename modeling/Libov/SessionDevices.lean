/-
# The devices of a session

The devices of a session run the same client, with one secret, and exchange datagrams.  Between
them is a network that may lose, repeat and reorder them and bring them to the wrong device,
the relay server, and whoever else sends to their sockets without knowing the secret.

* `DeviceEvent`, `deviceStep` : a client with all its threads, as a `Party` of a network;
* `Authored`, `Outside` : what a device and what others can send;
* `Understood` : what a device makes of a message that it accepts;
* `Honest` : a device has sent only what it may, and has handed to its local receivers only
  payloads that another device has read; `honest_foldl_handle`, `honest_pingservice`,
  `honest_announceLatency` and `honest_forwardPayload` say that its threads keep it so.
-/
import Libov.KeyBinding
import Libov.Networks
import Libov.PayloadDelivery
import Libov.Registration

open Runs

namespace Libov

/-! ## The steps of a device -/

namespace OvboxUdpSocket

/-- `pack_and_send`; a message that does not fit is not sent. -/
def packAndSend (s : OvboxUdpSocket) (destport : Port) (msg : List UInt8) (remoteport : Port) :
    List Datagram × OvboxUdpSocket :=
  let (r, s) := s.packmsg (Buffer.zero bufSize) bufSize destport msg
  if r.2 = 0 then ([], s) else s.sendTo (r.1.read 0 r.2) remoteport

end OvboxUdpSocket

/-- `data` of `announce_latency`, six numbers of type `double`. -/
def latencyReport (double : ℚ → TimeStamp) (cid : StageDeviceId) (p2p : PingStat) : List UInt8 :=
  [(cid.toNat : ℚ), p2p.tMin, p2p.tMed, p2p.tP99, (p2p.received.toNat : ℚ),
    (p2p.lost.toNat : ℚ)].flatMap fun x => (double x).1

/-- `announce_latency`, as far as the relay server is told. -/
def ClientState.announceLatency (c : ClientState) (double : ℚ → TimeStamp) (cid : StageDeviceId)
    (p2p : PingStat) : ClientState :=
  if cid = c.callerid then c
  else
    let r := c.remoteServer.packAndSend portPeerlatrep (latencyReport double cid p2p) c.toport
    { c with remoteServer := r.2, remoteSends := c.remoteSends ++ r.1 }

/-- A step of one of the threads of a device. -/
inductive DeviceEvent where
  /-- `sendsrv`, `checkstatus` and the forwarding threads -/
  | node (e : NodeEvent)
  | pingservice (rver : List UInt8) (buffer : Buffer pingbufsize)
      (stamps : Fin maxStageId → PingClass → TimeStamp)
  | announceLatency (double : ℚ → TimeStamp) (cid : StageDeviceId) (p2p : PingStat)

/-- One step. -/
def deviceStep (L : Sodium) (n : ClientNode) : DeviceEvent → ClientNode
  | .node e => nodeStep L n e
  | .pingservice rver buffer stamps => { n with client := n.client.pingservice rver buffer stamps }
  | .announceLatency double cid p2p =>
      { n with client := n.client.announceLatency double cid p2p }

/-- A payload that a forwarding thread has read, with the port and the number it is sent with. -/
structure AppPayload where
  destport : Port
  seq : Sequence
  bytes : List UInt8
  deriving DecidableEq

/-- What a step takes in at the local sockets. -/
def readBy (n : ClientNode) : DeviceEvent → List AppPayload
  | .node (.payload _ th payload) =>
      if 0 < payload.length then
        [⟨th.packPort n.client.client, n.client.remoteServer.nextSeq (th.packPort n.client.client),
          payload⟩]
      else []
  | _ => []

/-- What devices do not send: datagrams without the secret of the session, and the control
messages of the relay server, among them its own key. -/
inductive Outside (secret : Secret) : List UInt8 → Prop
  | rejected {bytes : List UInt8} (h : bytes.length < headerLen ∨ msgSecret bytes ≠ secret) :
      Outside secret bytes
  | relay (cid : StageDeviceId) {port : Port} (seq : Sequence) (body : List UInt8)
      (hport : port ≤ maxSpecialPort) (hkey : port = portPubkey → maxStageId ≤ cid.toNat) :
      Outside secret (header secret cid port seq ++ body)

/-- When a step is possible: a datagram that is received has been sent by some device, or comes
from outside; a payload is not for a reserved port, and fits into a datagram. -/
def CanHappen (n : ClientNode) (around : List UInt8 → Prop) : DeviceEvent → Prop
  | .node (.received (some (bytes, _)) _ _) =>
      around bytes ∨ Outside n.client.remoteServer.secret bytes
  | .node (.payload _ th payload) =>
      maxSpecialPort < th.packPort n.client.client ∧ headerLen + payload.length ≤ bufSize
  | _ => True

/-- A device on the network.  The addresses of datagrams do not matter to the network, which may
bring them anywhere. -/
def device (L : Sodium) : Networks.Party ClientNode DeviceEvent (List UInt8) AppPayload where
  step := deviceStep L
  sent n bytes := ∃ d ∈ n.client.remoteSends, d.data = bytes
  input := readBy
  possible := CanHappen
  possible_mono := by
    intro n M N e hMN h
    cases e with
    | node e =>
        cases e with
        | received rx clock locked =>
            cases rx with
            | none => trivial
            | some received => exact h.imp_left (hMN received.1)
        | checkstatus keys => trivial
        | payload thread th payload => exact h
    | pingservice rver buffer stamps => trivial
    | announceLatency double cid p2p => trivial

/-! ## What a device is known by -/

/-- What makes a device a member of the session: its id and its keys, and the local ports that
it serves. -/
structure Member where
  callerid : StageDeviceId
  publicKey : PublicKey
  secretKey : SecretKey
  localServer : Endpoint
  portoffset : Port
  xdest : List Port

/-- The member that a client is. -/
def ClientState.member (c : ClientState) : Member where
  callerid := c.callerid
  publicKey := c.recipientPublic
  secretKey := c.recipientSecret
  localServer := c.localServer
  portoffset := c.portoffset
  xdest := c.xdest

/-- The body of a message with this payload: the payload, or a box with it. -/
def InBody (L : Sodium) (payload body : List UInt8) : Prop :=
  body = payload ∨ ∃ rnd pubkey, body = L.boxSeal rnd payload pubkey

/-- What a device hands to its local receivers of this payload: the payload, a box with it that
it does not open (even one for itself, where it does not know that the sender takes part in
encryption), or what it finds in the payload where that is itself a box for this device. -/
def HandedOn (L : Sodium) (pubkey : PublicKey) (payload data : List UInt8) : Prop :=
  InBody L payload data ∨ ∃ rnd, payload = L.boxSeal rnd data pubkey

section Members

variable {ι : Type*} (L : Sodium) (members : ι → Member) (secret : Secret)
  (inputs : List (ι × AppPayload))

/-- What the devices of a session send: less than a header, control messages in their own name
with their own key, and the payloads that they have read. -/
inductive Authored : List UInt8 → Prop
  | short {bytes : List UInt8} (h : bytes.length < headerLen) : Authored bytes
  | control (i : ι) {port : Port} (seq : Sequence) (body : List UInt8)
      (hport : port ≤ maxSpecialPort)
      (hkey : port = portPubkey → body = (members i).publicKey.1) :
      Authored (header secret (members i).callerid port seq ++ body)
  | data {i : ι} {p : AppPayload} {body : List UInt8} (hread : (i, p) ∈ inputs)
      (hport : maxSpecialPort < p.destport) (hbody : InBody L p.bytes body)
      (hfit : headerLen + body.length ≤ bufSize) :
      Authored (header secret (members i).callerid p.destport p.seq ++ body)

/-- What a device makes of an accepted message: it has the bytes of the message in its buffer,
and a data message has been sent by a device that has read its payload. -/
structure Understood (m : MsgBuf) : Prop extends m.Unpacked where
  bytes : m.packedBytes = header secret m.cid m.destport m.seq ++ m.payload
  data : maxSpecialPort < m.destport → ∃ i p, (i, p) ∈ inputs ∧ m.cid = (members i).callerid ∧
    m.destport = p.destport ∧ m.seq = p.seq ∧ InBody L p.bytes m.payload

/-- What goes to the local receivers of a device: a payload that another device has read, at the
port that it was sent to, shifted by one of the offsets. -/
def HandedOut (w : Member) (d : Datagram) : Prop :=
  ∃ j p, (j, p) ∈ inputs ∧ (members j).callerid ≠ w.callerid ∧ maxSpecialPort < p.destport ∧
    (∃ offset ∈ w.portoffset :: w.xdest,
      d.dest = { w.localServer with sinPort := htons (p.destport + offset) }) ∧
    HandedOn L w.publicKey p.bytes d.data

variable {L members secret inputs}

/-- What was written by a device of the session stays so when more is read. -/
theorem Authored.mono {inputs' : List (ι × AppPayload)} (h : inputs <+: inputs')
    {bytes : List UInt8} (ha : Authored L members secret inputs bytes) :
    Authored L members secret inputs' bytes := by
  cases ha with
  | short hshort => exact .short hshort
  | control i seq body hport hkey => exact .control i seq body hport hkey
  | data hread hport hbody hfit => exact .data (h.subset hread) hport hbody hfit

/-- A message that is understood stays understood. -/
theorem Understood.mono {inputs' : List (ι × AppPayload)} (h : inputs <+: inputs') {m : MsgBuf}
    (hm : Understood L members secret inputs m) : Understood L members secret inputs' m := by
  refine ⟨hm.toUnpacked, hm.bytes, fun hport => ?_⟩
  obtain ⟨i, p, hread, hrest⟩ := hm.data hport
  exact ⟨i, p, h.subset hread, hrest⟩

/-- What was handed out was read before. -/
theorem HandedOut.mono {inputs' : List (ι × AppPayload)} (h : inputs <+: inputs') {w : Member}
    {d : Datagram} (hd : HandedOut L members inputs w d) : HandedOut L members inputs' w d := by
  obtain ⟨j, p, hread, hrest⟩ := hd
  exact ⟨j, p, h.subset hread, hrest⟩

/-! ## Accepted messages -/

/-- Copying a message into a buffer of the sorter keeps what is understood. -/
theorem Understood.copy {src : MsgBuf} (h : Understood L members secret inputs src) (m : MsgBuf) :
    Understood L members secret inputs (m.copy src) := by
  have hpayload : (m.copy src).payload = src.payload := by
    unfold MsgBuf.payload MsgBuf.copy
    rw [h.msg]
  refine ⟨⟨rfl, h.size⟩, ?_, ?_⟩
  · rw [hpayload]
    exact h.bytes
  · rw [hpayload]
    exact h.data

/-- A message is understood whether it is valid or not. -/
theorem Understood.invalidate {m : MsgBuf} (h : Understood L members secret inputs m) :
    Understood L members secret inputs m.invalidate :=
  ⟨⟨h.msg, h.size⟩, h.bytes, h.data⟩

/-- The payload of a message that is understood has the size that was announced. -/
theorem Understood.length_payload {m : MsgBuf} (h : Understood L members secret inputs m) :
    m.payload.length = m.size :=
  m.rawbuffer.length_read _ _ (by rw [h.msg]; exact h.size)

/-- A datagram without the secret is not accepted. -/
theorem not_accepted_of_rejected {x : SendsrvLoop} {bytes : List UInt8} {addr : Endpoint}
    (h : bytes.length < headerLen ∨ msgSecret bytes ≠ secret) :
    ¬ Accepted secret x (some (bytes, addr)) := by
  unfold Accepted
  rw [(recvSecMsg_rejected x.msg addr h).1]
  exact Bool.false_ne_true

/-- Whatever is accepted of what devices and others send is understood. -/
theorem understood_incoming {x : SendsrvLoop} {rx : Received} (hacc : Accepted secret x rx)
    (hrx : ∀ bytes addr, rx = some (bytes, addr) →
      Authored L members secret inputs bytes ∨ Outside secret bytes) :
    Understood L members secret inputs (incoming secret x rx) := by
  cases rx with
  | none => exact absurd hacc not_accepted_none
  | some received =>
      obtain ⟨bytes, addr⟩ := received
      rcases hrx bytes addr rfl with hauthored | houtside
      · cases hauthored with
        | short hshort => exact absurd hacc (not_accepted_of_rejected (Or.inl hshort))
        | control i seq body hport hkey =>
            obtain ⟨-, hunpacked, hbytes, hcid, hdest, hseq, -⟩ :=
              incoming_cut secret x (members i).callerid _ seq body addr
            refine ⟨hunpacked, ?_, fun hdata => ?_⟩
            · rw [hcid, hdest, hseq]
              exact hbytes
            · rw [hdest] at hdata
              exact absurd hport (UInt16.not_le.mpr hdata)
        | @data i p body hread hport hbody hfit =>
            obtain ⟨-, hunpacked, hbytes, hcid, hdest, hseq, hpayload⟩ :=
              incoming_cut secret x (members i).callerid p.destport p.seq body addr
            rw [List.take_of_length_le (by omega)] at hpayload
            refine ⟨hunpacked, ?_, fun _ => ⟨i, p, hread, hcid, hdest, hseq, ?_⟩⟩
            · rw [hcid, hdest, hseq]
              exact hbytes
            · rw [hpayload]
              exact hbody
      · cases houtside with
        | rejected h => exact absurd hacc (not_accepted_of_rejected h)
        | relay cid seq body hport hkey =>
            obtain ⟨-, hunpacked, hbytes, hcid, hdest, hseq, -⟩ :=
              incoming_cut secret x cid _ seq body addr
            refine ⟨hunpacked, ?_, fun hdata => ?_⟩
            · rw [hcid, hdest, hseq]
              exact hbytes
            · rw [hdest] at hdata
              exact absurd hport (UInt16.not_le.mpr hdata)

end Members

/-- What the sorter delivers and what it holds back are received messages, as they are or copied
into one of its buffers. -/
theorem turn_all {Q : MsgBuf → Prop} (hcopy : ∀ m src, Q src → Q (MsgBuf.copy m src))
    (hinvalidate : ∀ m, Q m → Q m.invalidate) {secret : Secret} {x : SendsrvLoop} {rx : Received}
    (hbuf2 : x.sorter.buf2.valid = false)
    (hin : Accepted secret x rx → Q (incoming secret x rx))
    (hheld : x.sorter.buf1.valid = true → Q x.sorter.buf1) :
    (∀ m ∈ (turn secret x rx).1, Q m) ∧
      ((loopStep secret x rx).sorter.buf1.valid = true → Q (loopStep secret x rx).sorter.buf1) := by
  have hreleased : ∀ m ∈ x.sorter.released, Q m := by
    intro m hm
    unfold MessageSorter.released at hm
    split_ifs at hm with hvalid
    · rw [List.mem_singleton.mp hm]
      exact hinvalidate _ (hheld hvalid)
    · exact absurd hm List.not_mem_nil
  rcases turn_cases secret rx hbuf2 with ⟨-, hlist, hs⟩ | ⟨hacc, -, hlist, hs⟩ |
    ⟨hback, hlist, hs⟩ | ⟨hacc, -, hswap, hlist, hs⟩ | ⟨hacc, -, -, hlist, hs⟩
  · rw [hlist, hs]
    exact ⟨fun m hm => absurd hm List.not_mem_nil, hheld⟩
  · rw [hlist, hs, MessageSorter.buf1_invalid_flush]
    exact ⟨List.forall_mem_cons.mpr ⟨hinvalidate _ (hin hacc), hreleased⟩,
      fun h => absurd h Bool.false_ne_true⟩
  · -- the message is copied, and delivered later
    rw [hlist, hs]
    exact ⟨fun m hm => absurd hm List.not_mem_nil, fun _ => hcopy _ _ (hin hback.1)⟩
  · rw [hlist, hs]
    refine ⟨List.forall_mem_cons.mpr ⟨hinvalidate _ (hheld hswap.2.1), ?_⟩,
      fun h => absurd h Bool.false_ne_true⟩
    intro m hm
    rw [List.mem_singleton.mp hm]
    exact hinvalidate _ (hcopy _ _ (hin hacc))
  · rw [hlist, hs, MessageSorter.buf1_invalid_pass]
    exact ⟨List.forall_mem_cons.mpr ⟨hinvalidate _ (hin hacc), hreleased⟩,
      fun h => absurd h Bool.false_ne_true⟩

/-! ## What a step sends -/

/-- The client is the member of the session, and has no proxy clients. -/
structure IsMember (secret : Secret) (w : Member) (c : ClientState) : Prop where
  member : c.member = w
  inSession : c.remoteServer.secret = secret
  sender : c.remoteServer.callerid = w.callerid
  noProxies : c.proxyclients = []

/-- The client is the member of the session, has sent what a device may send, and has handed out
what has been read by others. -/
structure Honest {ι : Type*} (L : Sodium) (members : ι → Member) (secret : Secret)
    (inputs : List (ι × AppPayload)) (w : Member) (c : ClientState) : Prop
    extends IsMember secret w c where
  remote : ∀ d ∈ c.remoteSends, Authored L members secret inputs d.data
  handedOut : ∀ d ∈ c.localSends, HandedOut L members inputs w d

section Honest

variable {ι : Type*} {L : Sodium} {members : ι → Member} {secret : Secret}
  {inputs : List (ι × AppPayload)} {w : Member} {c c' : ClientState}

/-- An honest device stays honest when others read more. -/
theorem Honest.mono {inputs' : List (ι × AppPayload)} (h : inputs <+: inputs')
    (hc : Honest L members secret inputs w c) : Honest L members secret inputs' w c :=
  ⟨hc.toIsMember, fun d hd => (hc.remote d hd).mono h, fun d hd => (hc.handedOut d hd).mono h⟩

/-- A step that sends and hands out what it may. -/
theorem Honest.extend (h : Honest L members secret inputs w c) (hmember : IsMember secret w c')
    {new newLocal : List Datagram} (hremote : c'.remoteSends = c.remoteSends ++ new)
    (hlocal : c'.localSends = c.localSends ++ newLocal)
    (hnew : ∀ d ∈ new, Authored L members secret inputs d.data)
    (hnewLocal : ∀ d ∈ newLocal, HandedOut L members inputs w d) :
    Honest L members secret inputs w c' := by
  refine ⟨hmember, ?_, ?_⟩
  · intro d hd
    rw [hremote] at hd
    exact (List.mem_append.mp hd).elim (h.remote d) (hnew d)
  · intro d hd
    rw [hlocal] at hd
    exact (List.mem_append.mp hd).elim (h.handedOut d) (hnewLocal d)

/-- A step that sends and hands out nothing. -/
theorem Honest.quiet (h : Honest L members secret inputs w c) (hmember : IsMember secret w c')
    (hremote : c'.remoteSends = c.remoteSends) (hlocal : c'.localSends = c.localSends) :
    Honest L members secret inputs w c' :=
  ⟨hmember, fun d hd => h.remote d (hremote ▸ hd), fun d hd => h.handedOut d (hlocal ▸ hd)⟩

/-! ### Data messages -/

/-- Without proxy clients nothing is forwarded to them. -/
theorem processMsg_noProxies {B : Receiver} (hB : B.proxyclients = []) (m : MsgBuf) :
    (processMsg L B m).remoteSends = [] ∧ (processMsg L B m).receiver.proxyclients = [] := by
  have hproxies : ∀ m, B.proxiesFor m = [] := by
    intro m
    unfold Receiver.proxiesFor
    rw [hB, List.map_nil]
  have hdata : ∀ m, (B.processData L m).remoteSends = [] ∧
      (B.processData L m).receiver.proxyclients = [] := by
    intro m
    unfold Receiver.processData Receiver.sendProxies
    by_cases hnet : isSameNetwork m.sender B.localep = true
    · simp only [if_pos hnet]
      exact ⟨trivial, hB⟩
    · simp only [if_neg hnet, hproxies, List.filter_nil, List.map_nil, and_self]
  unfold processMsg
  dsimp only
  split_ifs
  · exact ⟨rfl, hB⟩
  · exact hdata _
  · exact ⟨rfl, hB⟩

/-- What is forwarded of a payload: the payload itself, or what a box for this device holds. -/
theorem plaintext_cases {B : Receiver} (hbox : SealedBoxes L B.recipientPublic B.recipientSecret)
    {m : MsgBuf} (hlen : m.payload.length = m.size) (hfit : m.size ≤ bufSize) :
    (B.plaintext L m).1 = m.payload ∨
      ∃ rnd, m.payload = L.boxSeal rnd (B.plaintext L m).1 B.recipientPublic := by
  by_cases htries : B.TriesToOpen m
  · cases hopen : L.boxSealOpen m.payload B.recipientPublic B.recipientSecret with
    | none => exact Or.inl (plaintext_of_not_opened fun _ => hopen)
    | some opened =>
        -- only a box can be opened, and it holds what it was sealed with
        have hsealed : ∃ rnd msg, m.payload = L.boxSeal rnd msg B.recipientPublic := by
          by_contra hno
          push Not at hno
          rw [hbox.rejects _ hno] at hopen
          cases hopen
        obtain ⟨rnd, msg, hmsg⟩ := hsealed
        rw [hmsg, hbox.opens] at hopen
        cases hopen
        have hsize : m.size = opened.length + cryptoBoxSealBytes := by
          rw [← hlen, hmsg, L.length_boxSeal]
        have hplain := plaintext_of_opened htries (hmsg ▸ hbox.opens rnd opened) hsize hfit
        exact Or.inr ⟨rnd, by rw [hplain]; exact hmsg⟩
  · exact Or.inl (plaintext_of_not_opened fun h => absurd h htries)

/-- The keys of every device open the boxes for it, and no boxes for other keys. -/
structure KeyPairs (L : Sodium) (members : ι → Member) : Prop where
  boxes : ∀ i, SealedBoxes L (members i).publicKey (members i).secretKey
  apart : ∀ i rnd msg pubkey, pubkey ≠ (members i).publicKey →
    L.boxSealOpen (L.boxSeal rnd msg pubkey) (members i).publicKey (members i).secretKey = none

/-- A box with a payload is handed on, or opened to the payload. -/
theorem handedOn_of_inBody (hkeys : KeyPairs L members) (i : ι) {payload body data : List UInt8}
    (hbody : InBody L payload body)
    (hdata : data = body ∨ ∃ rnd, body = L.boxSeal rnd data (members i).publicKey) :
    HandedOn L (members i).publicKey payload data := by
  rcases hdata with rfl | ⟨rnd, hopened⟩
  · exact Or.inl hbody
  · rcases hbody with rfl | ⟨rnd', pubkey, hsealed⟩
    · exact Or.inr ⟨rnd, hopened⟩
    · -- the box that is opened is the one that was sealed
      have hown : pubkey = (members i).publicKey := by
        by_contra hne
        have hnone := hkeys.apart i rnd' payload pubkey hne
        rw [← hsealed, hopened, (hkeys.boxes i).opens] at hnone
        cases hnone
      subst hown
      have hsame := (hkeys.boxes i).opens rnd' payload
      rw [← hsealed, hopened, (hkeys.boxes i).opens] at hsame
      exact Or.inl (Or.inl (Option.some.inj hsame))

/-- A data message of another device is handed out as it may. -/
theorem handedOut_of_understood (hkeys : KeyPairs L members) {i : ι}
    (h : Honest L members secret inputs (members i) c) {m : MsgBuf}
    (hm : Understood L members secret inputs m) (hother : m.cid ≠ c.callerid)
    (hport : maxSpecialPort < m.destport) :
    ∀ d ∈ (processMsg L c.receiver m).localSends, HandedOut L members inputs (members i) d := by
  have hmember : c.member = members i := h.member
  intro d hd
  rw [localSends_processMsg hother hport] at hd
  obtain ⟨offset, hoffset, hd⟩ := List.mem_flatMap.mp hd
  rw [sendLocal_eq] at hd
  split_ifs at hd with hskip
  · exact absurd hd List.not_mem_nil
  obtain ⟨j, p, hread, hcid, hdest, -, hbody⟩ := hm.data hport
  have hsize := hm.size
  have hplain := plaintext_cases (B := c.receiver)
    (show SealedBoxes L c.member.publicKey c.member.secretKey from hmember ▸ hkeys.boxes i)
    hm.length_payload (by omega)
  rw [List.mem_singleton.mp hd]
  refine ⟨j, p, hread, ?_, hdest ▸ hport, ⟨offset, ?_, ?_⟩, ?_⟩
  · rw [← hcid, ← hmember]
    exact hother
  · rw [← hmember]
    exact hoffset
  · rw [← hmember, ← hdest]
    rfl
  · refine handedOn_of_inBody hkeys i hbody ?_
    rw [← hmember]
    exact hplain

/-! ### Control messages -/

/-- The answer to a ping is a control message of its own. -/
theorem authored_answer {i : ι} {m : MsgBuf} (hm : Understood L members secret inputs m)
    (hcall : calledFor (members i).callerid m = some .processPingMsg) :
    Authored L members secret inputs (processPingMsg (members i).callerid m).2.data := by
  have hsize := hm.size
  have h9 : headerLen = 9 := rfl
  have hbuf : bufSize = 8192 := rfl
  have hlen := hm.length_payload
  have hfit : headerLen + m.payload.length ≤ bufSize := by omega
  have hraw : m.rawbuffer.read 0 (headerLen + m.payload.length)
      = header secret m.cid m.destport m.seq ++ m.payload := by
    rw [hlen]
    exact hm.bytes
  have hport := fun port : Port => read_write_port hfit
    (read_write_callerid hfit hraw (members i).callerid) port
  have hanswer : (processPingMsg (members i).callerid m).2.data
      = (pongBuffer (members i).callerid m).read 0 (headerLen + m.payload.length) := by
    rw [hlen, Nat.add_comm]
    rfl
  rw [hanswer]
  unfold pongBuffer
  dsimp only
  by_cases hping : m.destport = portPing
  · rw [if_pos hping, hport]
    exact .control i m.seq _ (by decide) fun hkey => absurd hkey (by decide)
  · rw [if_neg hping]
    by_cases hsrv : m.destport = portPingSrv
    · -- the id of the sender goes in front of the payload, if there is one
      have hroom : headerLen + [m.cid].length ≤ bufSize := by
        rw [List.length_singleton]
        omega
      rw [if_pos hsrv, hm.msg, Buffer.read_zero_write _ _ _ _ hroom, hport,
        List.take_left' (length_header _ _ _ _), List.append_assoc]
      exact .control i m.seq _ (by decide) fun hkey => absurd hkey (by decide)
    · rw [if_neg hsrv]
      by_cases hloc : m.destport = portPingLocal
      · rw [if_pos hloc, hport]
        exact .control i m.seq _ (by decide) fun hkey => absurd hkey (by decide)
      · -- nothing else is answered
        unfold calledFor controlCall at hcall
        rw [if_neg (not_or_intro hping (not_or_intro hsrv hloc))] at hcall
        split_ifs at hcall <;> cases hcall

/-- A delivered message makes a client send and hand out only what it may. -/
theorem honest_handle (hkeys : KeyPairs L members) {i : ι} (clock : List UInt8 → ℚ) (locked : Bool)
    {m : MsgBuf} (hm : Understood L members secret inputs m)
    (h : Honest L members secret inputs (members i) c) :
    Honest L members secret inputs (members i) (handle L clock locked c m) := by
  have hmember : c.member = members i := h.member
  have hid : c.callerid = (members i).callerid := congrArg Member.callerid hmember
  cases hcall : calledFor c.callerid m.invalidate with
  | none =>
      rw [handle_of_not_called hcall]
      obtain ⟨hremote, hproxies⟩ :=
        processMsg_noProxies (L := L) (B := c.receiver) h.noProxies m
      have hmember : IsMember secret (members i) (c.behind (processMsg L c.receiver m)) :=
        ⟨h.member, h.inSession, h.sender, hproxies⟩
      by_cases hdata : m.cid ≠ c.callerid ∧ maxSpecialPort < m.destport
      · refine h.extend hmember rfl rfl ?_ (handedOut_of_understood hkeys h hm hdata.1 hdata.2)
        rw [hremote]
        exact fun d hd => absurd hd List.not_mem_nil
      · -- a message of the device itself, or one for a reserved port
        have hnothing := sends_processMsg_of_not_data (L := L) (B := c.receiver) (m := m) (by
          by_cases hport : maxSpecialPort < m.destport
          · refine Or.inl ⟨not_not.mp fun hne => hdata ⟨hne, hport⟩, ?_, ?_⟩
            · rintro heq
              exact absurd hport (by rw [heq]; decide)
            · rintro heq
              exact absurd hport (by rw [heq]; decide)
          · exact Or.inr (UInt16.not_lt.mp hport))
        refine h.quiet hmember ?_ ?_
        · show c.remoteSends ++ (processMsg L c.receiver m).remoteSends = c.remoteSends
          rw [hnothing.2, List.append_nil]
        · show c.localSends ++ (processMsg L c.receiver m).localSends = c.localSends
          rw [hnothing.1, List.append_nil]
  | some call =>
      rw [handle_of_call hcall]
      cases call with
      | processPingMsg =>
          rw [hid] at hcall
          refine h.extend ⟨h.member, h.inSession, h.sender, h.noProxies⟩ rfl
            (List.append_nil _).symm ?_ fun d hd => absurd hd List.not_mem_nil
          intro d hd
          rw [List.mem_singleton.mp hd, hid]
          exact authored_answer hm.invalidate hcall
      | processPongMsg =>
          obtain ⟨collectors, reports, hpong⟩ := processPongMsg_eq clock c m.invalidate
          unfold ClientState.perform
          rw [hpong]
          exact h.quiet ⟨h.member, h.inSession, h.sender, h.noProxies⟩ rfl rfl
      | _ => exact h.quiet ⟨h.member, h.inSession, h.sender, h.noProxies⟩ rfl rfl

/-- Messages that are understood leave a device honest, one after the other. -/
theorem honest_foldl_handle (hkeys : KeyPairs L members) {i : ι} (clock : List UInt8 → ℚ)
    (locked : Bool) {ms : List MsgBuf} (hms : ∀ m ∈ ms, Understood L members secret inputs m)
    (h : Honest L members secret inputs (members i) c) :
    Honest L members secret inputs (members i) (ms.foldl (handle L clock locked) c) := by
  induction ms generalizing c with
  | nil => exact h
  | cons m ms ih =>
      obtain ⟨hm, hrest⟩ := List.forall_mem_cons.mp hms
      exact ih hrest (honest_handle hkeys clock locked hm h)

/-! ### Messages of the device itself -/

/-- What a call of a socket sends, and the socket behind it, that of a member of the session. -/
structure SendsAs (L : Sodium) (members : ι → Member) (secret : Secret)
    (inputs : List (ι × AppPayload)) (i : ι) (r : List Datagram × OvboxUdpSocket) : Prop where
  sends : ∀ d ∈ r.1, Authored L members secret inputs d.data
  inSession : r.2.secret = secret
  sender : r.2.callerid = (members i).callerid

variable {i : ι} {s : OvboxUdpSocket}

/-- The socket behind a call can be used for the next one. -/
theorem SendsAs.socket {r : List Datagram × OvboxUdpSocket}
    (hr : SendsAs L members secret inputs i r) :
    SendsAs L members secret inputs i ([], r.2) :=
  ⟨fun _ hd => absurd hd List.not_mem_nil, hr.inSession, hr.sender⟩

/-- Two calls, one after the other. -/
theorem SendsAs.append {ds : List Datagram}
    (hds : ∀ d ∈ ds, Authored L members secret inputs d.data)
    {r : List Datagram × OvboxUdpSocket} (hr : SendsAs L members secret inputs i r) :
    SendsAs L members secret inputs i (ds ++ r.1, r.2) :=
  ⟨fun d hd => (List.mem_append.mp hd).elim (hds d) (hr.sends d), hr.inSession, hr.sender⟩

/-- Sending what a member has written is a call of this member; the port `0` sends nothing. -/
theorem sendsAs_sendTo (hs : SendsAs L members secret inputs i ([], s)) {data : List UInt8}
    (hdata : Authored L members secret inputs data) (port : Port) :
    SendsAs L members secret inputs i (s.sendTo data port) := by
  unfold OvboxUdpSocket.sendTo sendPort
  by_cases hport : port = 0
  · rw [if_pos hport, if_pos hport]
    exact hs
  · rw [if_neg hport, if_neg hport]
    refine ⟨?_, hs.inSession, hs.sender⟩
    intro d hd
    rw [List.mem_singleton.mp hd]
    exact hdata

/-- Packing keeps the secret and the id of a socket. -/
theorem sendsAs_packmsg (hs : SendsAs L members secret inputs i ([], s)) {n : ℕ}
    (destbuf : Buffer n) (maxlen : ℕ) (destport : Port) (msg : List UInt8) :
    SendsAs L members secret inputs i ([], (s.packmsg destbuf maxlen destport msg).2) := by
  obtain ⟨seqmap, hsocket⟩ := s.packmsg_socket destbuf maxlen destport msg
  rw [hsocket]
  exact ⟨hs.sends, hs.inSession, hs.sender⟩

/-- A control message in the name of a member. -/
theorem authored_packmsg (hs : SendsAs L members secret inputs i ([], s)) {n : ℕ}
    (destbuf : Buffer n) {destport : Port} {msg : List UInt8} (hport : ¬ maxSpecialPort ≤ destport)
    (hkey : destport = portPubkey → msg = (members i).publicKey.1)
    (hfit : headerLen + msg.length ≤ n) :
    Authored L members secret inputs ((s.packmsg destbuf n destport msg).1.1.read 0
      (s.packmsg destbuf n destport msg).1.2) := by
  have hsecret : s.secret = secret := hs.inSession
  have hid : s.callerid = (members i).callerid := hs.sender
  rw [(s.packs_control destbuf msg hport hfit).2, hsecret, hid]
  exact .control i 0 msg (UInt16.le_of_lt (UInt16.not_le.mp hport)) hkey

/-- A control message that is packed and sent is one of the member; a key in it is the own one. -/
theorem sendsAs_packAndSendTo (hs : SendsAs L members secret inputs i ([], s)) (destport : Port)
    (msg : List UInt8) (port : Port) (hport : ¬ maxSpecialPort ≤ destport)
    (hkey : destport = portPubkey → msg = (members i).publicKey.1) :
    SendsAs L members secret inputs i (s.packAndSendTo destport msg port) :=
  sendsAs_sendTo (sendsAs_packmsg hs _ _ destport msg)
    (authored_packmsg hs _ hport hkey le_rfl) port

/-- The same with a buffer of full size, if the message fits. -/
theorem sendsAs_packAndSend (hs : SendsAs L members secret inputs i ([], s)) (destport : Port)
    (msg : List UInt8) (port : Port) (hport : ¬ maxSpecialPort ≤ destport)
    (hkey : destport = portPubkey → msg = (members i).publicKey.1)
    (hfit : headerLen + msg.length ≤ bufSize) :
    SendsAs L members secret inputs i (s.packAndSend destport msg port) := by
  unfold OvboxUdpSocket.packAndSend
  dsimp only
  split_ifs
  · exact sendsAs_packmsg hs _ _ destport msg
  · exact sendsAs_sendTo (sendsAs_packmsg hs _ _ destport msg)
      (authored_packmsg hs _ hport hkey hfit) port

/-- The three messages of a registration. -/
theorem sendsAs_sendRegistration (hs : SendsAs L members secret inputs i ([], s))
    (rver : List UInt8) (mode : Epmode) (port : Port) (localep : Endpoint) :
    SendsAs L members secret inputs i
      (s.sendRegistration (members i).publicKey rver mode port localep) := by
  have hregister : Authored L members secret inputs
      ((packmsg (Buffer.zero (headerLen + (rver ++ [0]).length))
        (headerLen + (rver ++ [0]).length) s.secret s.callerid portRegister
        mode.toUInt16.toInt16 (rver ++ [0])).1.read 0
      (packmsg (Buffer.zero (headerLen + (rver ++ [0]).length))
        (headerLen + (rver ++ [0]).length) s.secret s.callerid portRegister
        mode.toUInt16.toInt16 (rver ++ [0])).2) := by
    have hlen : (packmsg (Buffer.zero (headerLen + (rver ++ [0]).length))
        (headerLen + (rver ++ [0]).length) s.secret s.callerid portRegister
        mode.toUInt16.toInt16 (rver ++ [0])).2 = headerLen + (rver ++ [0]).length := by
      unfold packmsg
      rw [if_neg (by omega)]
    have hsecret : s.secret = secret := hs.inSession
    have hid : s.callerid = (members i).callerid := hs.sender
    rw [hlen, read_packmsg _ _ _ _ _ _ le_rfl, hsecret, hid]
    exact .control i _ _ (by decide) fun hkey => absurd hkey (by decide)
  have hfirst := sendsAs_sendTo hs hregister port
  have hsecond := sendsAs_packAndSendTo hfirst.socket portSetlocalip localep.toBytes port
    (by decide) fun hkey => absurd hkey (by decide)
  have hthird := sendsAs_packAndSendTo hsecond.socket portPubkey (members i).publicKey.1 port
    (by decide) fun _ => rfl
  exact hthird.append fun d hd => (List.mem_append.mp hd).elim (hfirst.sends d) (hsecond.sends d)

/-- The socket of a member has the secret of the session and the id of the member. -/
theorem IsMember.socket {i : ι} (h : IsMember secret (members i) c) :
    SendsAs L members secret inputs i ([], c.remoteServer) :=
  ⟨fun _ hd => absurd hd List.not_mem_nil, h.inSession, h.sender⟩

/-- A client that has sent something through its socket. -/
theorem Honest.sending (h : Honest L members secret inputs (members i) c)
    {r : List Datagram × OvboxUdpSocket} (hr : SendsAs L members secret inputs i r) :
    Honest L members secret inputs (members i)
      { c with remoteServer := r.2, remoteSends := c.remoteSends ++ r.1 } :=
  h.extend ⟨h.member, hr.inSession, hr.sender, h.noProxies⟩ rfl (List.append_nil _).symm hr.sends
    fun _ hd => absurd hd List.not_mem_nil

/-- A registration sends the own key in the name of the device. -/
theorem honest_register (h : Honest L members secret inputs (members i) c) (rver : List UInt8) :
    Honest L members secret inputs (members i) (c.register rver) := by
  have hkey : c.recipientPublic = (members i).publicKey := congrArg Member.publicKey h.member
  have hsent := h.sending
    (sendsAs_sendRegistration h.toIsMember.socket rver c.mode c.toport c.localep)
  rw [← hkey] at hsent
  exact hsent

/-- A ping is a control message in the name of the device. -/
theorem honest_sendPing (h : Honest L members secret inputs (members i) c)
    (buffer : Buffer pingbufsize) (ep : Endpoint) (ocid : StageDeviceId) (cls : PingClass)
    (t1 : TimeStamp) :
    Honest L members secret inputs (members i) (c.sendPing buffer ep ocid cls t1) := by
  obtain ⟨hping, seqmap, hsocket⟩ := sendPing_eq c.remoteServer buffer ep ocid cls t1
  have hcontrol : cls.pingPort ≤ maxSpecialPort := by cases cls <;> decide
  have hkey : cls.pingPort ≠ portPubkey := by cases cls <;> decide
  have hauthored : Authored L members secret inputs
      (pingDatagram c.remoteServer cls ocid t1 ep).data := by
    unfold pingDatagram
    rw [h.inSession, h.sender]
    exact .control i 0 _ hcontrol fun heq => absurd heq hkey
  have hsent := h.sending (r := ([pingDatagram c.remoteServer cls ocid t1 ep],
      (c.remoteServer.sendPing buffer ep ocid cls.pingPort t1).2)) (by
    rw [hsocket]
    refine ⟨?_, h.inSession, h.sender⟩
    intro d hd
    rw [List.mem_singleton.mp hd]
    exact hauthored)
  unfold ClientState.sendPing
  dsimp only
  rw [hping]
  exact hsent.quiet ⟨hsent.member, hsent.inSession, hsent.sender, hsent.noProxies⟩ rfl rfl

/-- A turn of `pingservice` is a registration and pings. -/
theorem honest_pingservice (h : Honest L members secret inputs (members i) c) (rver : List UInt8)
    (buffer : Buffer pingbufsize) (stamps : Fin maxStageId → PingClass → TimeStamp) :
    Honest L members secret inputs (members i) (c.pingservice rver buffer stamps) := by
  have hpeers : ∀ (ks : List (Fin maxStageId)) (c : ClientState),
      Honest L members secret inputs (members i) c →
      Honest L members secret inputs (members i)
        (ks.foldl (ClientState.pingPeer buffer stamps) c) := by
    intro ks
    induction ks with
    | nil => exact fun _ hc => hc
    | cons k ks ih =>
        intro c hc
        refine ih _ ?_
        unfold ClientState.pingPeer
        dsimp only
        split_ifs
        · exact honest_sendPing (honest_sendPing (honest_sendPing hc _ _ _ .p2p _) _ _ _ .srv _)
            _ _ _ .loc _
        · exact honest_sendPing (honest_sendPing hc _ _ _ .p2p _) _ _ _ .srv _
        · exact hc
  exact hpeers _ _ (honest_register h rver)

/-- A report of latencies has six numbers. -/
theorem length_latencyReport (double : ℚ → TimeStamp) (cid : StageDeviceId) (p2p : PingStat) :
    (latencyReport double cid p2p).length = 48 := by
  have h8 : ∀ x, (double x).1.length = 8 := fun x => (double x).2
  unfold latencyReport
  simp [h8]

/-- A report of latencies is a control message that fits; about itself a device reports nothing. -/
theorem honest_announceLatency (h : Honest L members secret inputs (members i) c)
    (double : ℚ → TimeStamp) (cid : StageDeviceId) (p2p : PingStat) :
    Honest L members secret inputs (members i) (c.announceLatency double cid p2p) := by
  unfold ClientState.announceLatency
  by_cases hown : cid = c.callerid
  · rw [if_pos hown]
    exact h
  · rw [if_neg hown]
    refine h.sending (sendsAs_packAndSend h.toIsMember.socket portPeerlatrep _ c.toport (by decide)
      (fun hkey => absurd hkey (by decide)) ?_)
    rw [length_latencyReport]
    decide

/-! ### Payloads -/

/-- The socket behind a payload is that of the same member. -/
theorem sendsAs_forward (hs : SendsAs L members secret inputs i ([], c.remoteServer))
    (t : ThreadState) (payload : List UInt8) (th : Thread) :
    SendsAs L members secret inputs i ([], (forward L c.client t payload th).2.2) := by
  cases th with
  | recsrv =>
      show SendsAs L members secret inputs i ([], (recsrv L c.client t payload).2.2)
      unfold recsrv
      by_cases hlen : 0 < payload.length
      · rw [if_pos hlen]
        exact sendsAs_packmsg hs t.msg _ _ _
      · rw [if_neg hlen]
        exact hs
  | xrecsrv destport =>
      show SendsAs L members secret inputs i ([], (xrecsrv L c.client destport t payload).2.2)
      unfold xrecsrv
      by_cases hlen : 0 < payload.length
      · rw [if_pos hlen]
        exact sendsAs_packmsg hs t.msg _ _ _
      · rw [if_neg hlen]
        exact hs

/-- What is sent of a payload that fits: the packed message, a box with the payload, or nothing
but an empty datagram where the box does not fit. -/
theorem body_of_outgoing {c : OvboxClient} {t : ThreadState} {th : Thread} {payload : List UInt8}
    {pubkey : PublicKey} {encrypt : Bool} {data : List UInt8}
    (hfit : headerLen + payload.length ≤ bufSize)
    (h : Outgoing L (th.pack c t payload).1 (th.pack c t payload).2 pubkey encrypt data) :
    data = [] ∨ ∃ body, data = th.header c ++ body ∧ InBody L payload body ∧
      headerLen + body.length ≤ bufSize := by
  cases encrypt with
  | false => exact Or.inr ⟨payload, outgoing_plain hfit h, Or.inl rfl, hfit⟩
  | true =>
      by_cases hbox : headerLen + payload.length + cryptoBoxSealBytes ≤ bufSize
      · obtain ⟨rnd, hdata⟩ := outgoing_sealed hbox h
        refine Or.inr ⟨_, hdata, Or.inr ⟨rnd, pubkey, rfl⟩, ?_⟩
        rw [L.length_boxSeal]
        omega
      · -- `encryptmsg` reports the length `0`
        cases h with | encrypted rnd cmsg =>
        refine Or.inl ?_
        rw [Thread.pack_length, if_neg (not_lt.mpr hfit)]
        unfold encryptmsg
        rw [if_pos (not_le.mp hbox)]
        rfl

/-- A payload that fits is sent as it may be. -/
theorem honest_forwardPayload (h : Honest L members secret inputs (members i) c) (thread : ℕ)
    (th : Thread) (payload : List UInt8) (hport : maxSpecialPort < th.packPort c.client)
    (hfit : headerLen + payload.length ≤ bufSize)
    (hread : 0 < payload.length →
      (i, ⟨th.packPort c.client, c.remoteServer.nextSeq (th.packPort c.client), payload⟩)
        ∈ inputs) :
    Honest L members secret inputs (members i) (c.forwardPayload L thread th payload) := by
  have hstart : SendsAs L members secret inputs i ([], c.remoteServer) := h.toIsMember.socket
  have hsocket := sendsAs_forward hstart (c.threads thread) payload th
  refine h.extend ⟨h.member, hsocket.inSession, hsocket.sender, h.noProxies⟩ rfl
    (List.append_nil _).symm ?_ fun _ hd => absurd hd List.not_mem_nil
  intro d hd
  obtain ⟨x, hx, rfl⟩ := List.mem_map.mp hd
  have hpos := length_pos_of_sends hx
  have hspec := forward_spec L c.client (c.threads thread) payload th hpos
  have hdata : ∀ pubkey encrypt, Outgoing L (th.pack c.client (c.threads thread) payload).1
      (th.pack c.client (c.threads thread) payload).2 pubkey encrypt x.datagram.data →
      Authored L members secret inputs x.datagram.data := by
    intro pubkey encrypt hout
    rcases body_of_outgoing hfit hout with hnil | ⟨body, hdata, hbody, hlen⟩
    · rw [hnil]
      exact .short (by decide)
    · have hheader : th.header c.client = header secret (members i).callerid
          (th.packPort c.client) (c.remoteServer.nextSeq (th.packPort c.client)) := by
        rw [← h.inSession, ← h.sender]
        rfl
      rw [hdata, hheader]
      exact .data (hread hpos) hport hbody hlen
  rcases hspec.data x hx with ⟨e, -, -, hout⟩ | ⟨-, hout⟩
  · exact hdata _ _ hout
  · exact hdata _ _ hout

end Honest

end Libov
