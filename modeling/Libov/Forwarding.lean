/-
# The forwarding threads (`ovboxclient_t::recsrv`, `ovboxclient_t::xrecsrv`)

Both threads take a payload from a local socket, pack it and send it to the
peers of the endpoint table and to the relay server.  They are two copies of one
loop that differ in places, and both copies are kept here.

* `EpDesc`, `OvboxClient`: the endpoint table and what the threads read of the
  client;
* `Pass`: what a thread does for one payload: the calls of `encryptmsg`, the
  datagrams sent and the flag `sendtoserver`;
* `recsrvPeer`, `xrecsrvPeer`: the two loop bodies, `recsrv` and `xrecsrv` the
  two threads on one payload.
-/
import Libov.UdpSocket

namespace Libov

/-! ## The client -/

/-- `ep_desc_t`, as far as forwarding reads it. -/
structure EpDesc where
  /-- public address -/
  ep : Endpoint
  /-- local address -/
  localep : Endpoint
  timeout : UInt32
  mode : Epmode
  hasPubkey : Bool
  pubkey : PublicKey

/-- An entry nobody has registered for. -/
def EpDesc.unused : EpDesc :=
  ⟨Endpoint.cleared, Endpoint.cleared, 0, bPeer2peer, false, Buffer.zero _⟩

/-- The endpoint table, `MAX_STAGE_ID` entries. -/
abbrev EndpointTable := { l : List EpDesc // l.length = maxStageId }

/-- The state of `ovboxclient_t` that the forwarding threads read.  `outside` is
what `endpoints[callerid]` gives for an index behind the table. -/
structure OvboxClient where
  remoteServer : OvboxUdpSocket
  toport : Port
  recport : Port
  portoffset : Port
  callerid : StageDeviceId
  mode : Epmode
  sendlocal : Bool
  endpoints : EndpointTable
  outside : EpDesc
  srvHasPubkey : Bool
  srvPubkey : PublicKey

namespace OvboxClient

/-- `endpoints[callerid]`. -/
def self (c : OvboxClient) : EpDesc := c.endpoints.1.getD c.callerid.toNat c.outside

/-- `target_in_same_network`: the test that both threads make. -/
def targetInSameNetwork (c : OvboxClient) (ep : EpDesc) : Bool :=
  c.self.ep.sAddr == ep.ep.sAddr && ep.localep.sAddr != 0

/-- The condition under which the message to a peer is sealed. -/
def encryptsTo (c : OvboxClient) (ep : EpDesc) : Bool :=
  c.mode.has bEncryption && ep.mode.has bEncryption && ep.hasPubkey

/-- The condition under which `recsrv` seals the message to the relay server. -/
def encryptsToServer (c : OvboxClient) : Bool := c.mode.has bEncryption && c.srvHasPubkey

/-- Sending is not deactivated by the peer, or it is but the peer uses a proxy in
the same network. -/
def sendingPermitted (c : OvboxClient) (ep : EpDesc) : Bool :=
  !ep.mode.has bDonotsend || (ep.mode.has bUsingproxy && c.targetInSameNetwork ep)

/-- The address that a direct datagram goes to. -/
def peerAddress (c : OvboxClient) (ep : EpDesc) : Endpoint :=
  if c.sendlocal && c.targetInSameNetwork ep then ep.localep else ep.ep

end OvboxClient

/-! ## One payload -/

/-- Whom a datagram is meant for: the table entry with that index, or the relay
server. -/
inductive Recipient where
  | peer (ocid : ℕ)
  | server
  deriving DecidableEq

/-- A datagram with its recipient. -/
structure Sent where
  recipient : Recipient
  datagram : Datagram
  deriving DecidableEq

/-- The local variables of a thread while it handles one payload, and what it has
done so far.  `calls` are the lengths `msglen` that `encryptmsg` was called with;
`rnd` numbers the calls for the randomness of the seals. -/
structure Pass where
  cmsg : Buffer (bufSize + cryptoBoxSealBytes)
  rnd : ℕ
  calls : List ℕ
  sends : List Sent
  sendtoserver : Bool
  peersTotal : ℕ
  peersEncrypted : ℕ

namespace Pass

/-- Choose `send_msg` and `send_len`: the packed message, or its sealed form in
`cmsg`.  The bytes to send and the state behind. -/
def choose (L : Sodium) (p : Pass) (encrypt : Bool) (msg : Buffer bufSize) (msglen : ℕ)
    (pubkey : PublicKey) : List UInt8 × Pass :=
  if encrypt then
    let r := encryptmsg L p.rnd p.cmsg bufSize msg msglen pubkey
    (r.1.read 0 r.2, { p with cmsg := r.1, rnd := p.rnd + 1, calls := p.calls ++ [msglen] })
  else (msg.read 0 msglen, p)

/-- `++peers_total`. -/
def countPeer (p : Pass) : Pass := { p with peersTotal := p.peersTotal + 1 }

/-- `++peers_encrypted` where the message was sealed. -/
def countEncrypted (p : Pass) (encrypt : Bool) : Pass :=
  { p with peersEncrypted := p.peersEncrypted + encrypt.toNat }

/-- `sendtoserver = true`. -/
def askServer (p : Pass) : Pass := { p with sendtoserver := true }

/-- `remote_server.send(send_msg, send_len, ep)`. -/
def sendPeer (p : Pass) (ocid : ℕ) (data : List UInt8) (ep : Endpoint) : Pass :=
  { p with sends := p.sends ++ [⟨.peer ocid, sendEp data ep⟩] }

/-- `remote_server.send(send_msg, send_len, toport)`. -/
def sendServer (p : Pass) (c : OvboxClient) (data : List UInt8) : Pass :=
  { p with
    sends := p.sends ++
      ((sendPort c.remoteServer.servAddr data c.toport).map (⟨.server, ·⟩)).toList }

end Pass

/-- `for(auto& ep : endpoints) { ..; ++ocid; }`. -/
def peerLoop (body : ℕ → EpDesc → Pass → Pass) : ℕ → List EpDesc → Pass → Pass
  | _, [], p => p
  | ocid, ep :: eps, p => peerLoop body (ocid + 1) eps (body ocid ep p)

/-- Loop body of `recsrv`. -/
def recsrvPeer (L : Sodium) (c : OvboxClient) (msg : Buffer bufSize) (msglen : ℕ) (ocid : ℕ)
    (ep : EpDesc) (p : Pass) : Pass :=
  if ep.timeout ≠ 0 then
    if ocid ≠ c.callerid.toNat then
      if ep.mode.has bPeer2peer then
        let (data, p) := p.countPeer.choose L (c.encryptsTo ep) msg msglen ep.pubkey
        let p := p.countEncrypted (c.encryptsTo ep)
        if c.sendingPermitted ep then
          -- a downmix goes to its receivers only, and nothing else to them
          if ep.mode.has bReceivedownmix = c.mode.has bSenddownmix then
            p.sendPeer ocid data (c.peerAddress ep)
          else p
        else p
      else p.askServer
    else p
  else p

/-- Loop body of `xrecsrv`. -/
def xrecsrvPeer (L : Sodium) (c : OvboxClient) (msg : Buffer bufSize) (msglen : ℕ) (ocid : ℕ)
    (ep : EpDesc) (p : Pass) : Pass :=
  if ep.timeout ≠ 0 then
    if ocid ≠ c.callerid.toNat then
      if ep.mode.has bPeer2peer then
        -- sealed before it is known whether it is sent
        let (data, p) := p.choose L (c.encryptsTo ep) msg msglen ep.pubkey
        if c.sendingPermitted ep then p.sendPeer ocid data (c.peerAddress ep)
        else p.askServer
      else p
    else p
  else p

/-- The state of a thread between two payloads: its local buffers, the number of
seals made so far and the two flags that `recsrv` leaves for `get_encrypt_state`. -/
structure ThreadState where
  msg : Buffer bufSize
  cmsg : Buffer (bufSize + cryptoBoxSealBytes)
  rnd : ℕ
  sendEncryptAny : Bool
  sendEncryptAll : Bool

/-- Buffers filled with zero bytes. -/
def ThreadState.start : ThreadState := ⟨Buffer.zero _, Buffer.zero _, 0, false, false⟩

/-- A pass at its start. -/
def ThreadState.pass (t : ThreadState) (c : OvboxClient) : Pass :=
  { cmsg := t.cmsg
    rnd := t.rnd
    calls := []
    sends := []
    sendtoserver := !c.mode.has bPeer2peer
    peersTotal := 0
    peersEncrypted := 0 }

/-- `recsrv` on one payload: what it did, and the sending socket behind it. -/
def recsrv (L : Sodium) (c : OvboxClient) (t : ThreadState) (payload : List UInt8) :
    Pass × ThreadState × OvboxUdpSocket :=
  if 0 < payload.length then
    let ((msg, msglen), socket) :=
      c.remoteServer.packmsg t.msg bufSize (c.recport - c.portoffset) payload
    let p := t.pass c
    let p := if c.mode.has bPeer2peer then
        peerLoop (recsrvPeer L c msg msglen) 0 c.endpoints.1 p
      else p
    let p := if p.sendtoserver then
        let (data, p) := p.countPeer.choose L c.encryptsToServer msg msglen c.srvPubkey
        (p.countEncrypted c.encryptsToServer).sendServer c data
      else p
    let any : Bool := 0 < p.peersEncrypted
    (p, ⟨msg, p.cmsg, p.rnd, any, any && p.peersEncrypted == p.peersTotal⟩, socket)
  else (t.pass c, t, c.remoteServer)

/-- `xrecsrv` on one payload. -/
def xrecsrv (L : Sodium) (c : OvboxClient) (destport : Port) (t : ThreadState)
    (payload : List UInt8) : Pass × ThreadState × OvboxUdpSocket :=
  if 0 < payload.length then
    let ((msg, msglen), socket) := c.remoteServer.packmsg t.msg bufSize destport payload
    let p := t.pass c
    let p := if c.mode.has bPeer2peer then
        peerLoop (xrecsrvPeer L c msg msglen) 0 c.endpoints.1 p
      else p
    -- never sealed
    let p := if p.sendtoserver then p.sendServer c (msg.read 0 msglen) else p
    (p, { t with msg := msg, cmsg := p.cmsg, rnd := p.rnd }, socket)
  else (t.pass c, t, c.remoteServer)

end Libov
