/-
# Delivered messages (`ovboxclient_t::process_msg`)

A message that the sorter delivers is forwarded to the local receivers and to the
proxy clients, or handed to the function that its reserved port stands for.

* `Receiver`: what `process_msg` reads of the client besides `OvboxClient`;
* `Receiver.plaintext`: the payload, opened where both sides take part in encryption
  and it is a box for this client;
* `processMsg`: one call, with the datagrams it sends on either socket.

The functions behind the reserved ports are not followed here, only that they are
called (`ControlCall`).
-/
import Libov.Forwarding

namespace Libov

/-- The state of `ovboxclient_t` that `process_msg` reads.  `decryptedMsg` is the raw
buffer of `decrypted_msg`, whose pointer `msg` is at its start. -/
structure Receiver where
  client : OvboxClient
  /-- `remote_server.recipient_public` -/
  recipientPublic : PublicKey
  /-- `remote_server.recipient_secret` -/
  recipientSecret : SecretKey
  /-- destination of `local_server` -/
  localServer : Endpoint
  localep : Endpoint
  xdest : List Port
  proxyclients : List (StageDeviceId × Endpoint)
  decryptedMsg : Buffer bufSize

/-- A call of the function that a reserved port stands for, with its arguments. -/
inductive ControlCall where
  | processPingMsg
  | processPongMsg
  | cidSetlocalip (cid : StageDeviceId) (msg : List UInt8)
  | cidRegister (cid : StageDeviceId) (msg : List UInt8) (mode : Epmode)
  | cidSetPubkey (cid : StageDeviceId) (msg : List UInt8)
  deriving DecidableEq

/-- What a call of `process_msg` does: the message and the client behind it, the
datagrams sent by `local_server` and by `remote_server`, and the function called. -/
structure Processed where
  msg : MsgBuf
  receiver : Receiver
  localSends : List Datagram
  remoteSends : List Datagram
  call : Option ControlCall

/-- `sizeof(endpoint_t)`. -/
def sizeofEndpoint : ℕ := 16

namespace Receiver

variable (B : Receiver)

/-- `endpoints[cid]`. -/
def entry (cid : StageDeviceId) : EpDesc := B.client.endpoints.1.getD cid.toNat B.client.outside

/-- The sender and this client both take part in encryption. -/
def TriesToOpen (m : MsgBuf) : Prop :=
  m.cid.toNat < maxStageId ∧ (B.entry m.cid).mode.has bEncryption = true ∧
    B.client.mode.has bEncryption = true

instance (m : MsgBuf) : Decidable (B.TriesToOpen m) := inferInstanceAs (Decidable (_ ∧ _))

/-- `send_msg` and `send_len`: the opened payload in `decrypted_msg`, or the payload as
it is; and `decrypted_msg` behind. -/
def plaintext (L : Sodium) (m : MsgBuf) : List UInt8 × Buffer bufSize :=
  if B.TriesToOpen m then
    match L.boxSealOpen m.payload B.recipientPublic B.recipientSecret with
    | some opened =>
      let decryptedMsg := B.decryptedMsg.write 0 opened
      (decryptedMsg.read 0 (sizeSub m.size cryptoBoxSealBytes), decryptedMsg)
    -- not sealed, or not for this key
    | none => (m.payload, B.decryptedMsg)
  else (m.payload, B.decryptedMsg)

/-- Forward to a local receiver, unless the port is the one this client receives on.
The sum is compared as an `int` and sent to as a `uint16_t`. -/
def sendLocal (data : List UInt8) (destport offset : Port) : List Datagram :=
  if destport.toNat + offset.toNat ≠ B.client.recport.toNat then
    (sendPort B.localServer data (destport + offset)).toList
  else []

/-- `client.second.sin_port = htons(msg.destport)` for the proxy clients that the
message does not come from. -/
def proxiesFor (m : MsgBuf) : List (StageDeviceId × Endpoint) :=
  B.proxyclients.map fun client =>
    if m.cid ≠ client.1 then (client.1, { client.2 with sinPort := htons m.destport }) else client

/-- The datagrams to these proxy clients. -/
def sendProxies (m : MsgBuf) (data : List UInt8) : List Datagram :=
  ((B.proxiesFor m).filter fun client => m.cid ≠ client.1).map fun client => sendEp data client.2

/-- `process_msg` behind the test for special ports. -/
def processData (L : Sodium) (m : MsgBuf) : Processed :=
  let (data, decryptedMsg) := B.plaintext L m
  let localSends := B.sendLocal data m.destport B.client.portoffset ++
    B.xdest.flatMap fun xd => B.sendLocal data m.destport xd
  if isSameNetwork m.sender B.localep then
    -- messages from the local network are not for the proxy clients
    ⟨m, { B with decryptedMsg := decryptedMsg }, localSends, [], none⟩
  else
    ⟨m, { B with decryptedMsg := decryptedMsg, proxyclients := B.proxiesFor m }, localSends,
      B.sendProxies m data, none⟩

end Receiver

/-- `switch(msg.destport)`. -/
def controlCall (m : MsgBuf) : Option ControlCall :=
  if m.destport = portPing ∨ m.destport = portPingSrv ∨ m.destport = portPingLocal then
    some .processPingMsg
  else if m.destport = portPong ∨ m.destport = portPongSrv ∨ m.destport = portPongLocal then
    some .processPongMsg
  else if m.destport = portSetlocalip then
    if m.size = sizeofEndpoint then some (.cidSetlocalip m.cid m.payload) else none
  else if m.destport = portListcid then
    if m.size = sizeofEndpoint ∧ 0 ≤ m.seq ∧ m.seq < 256 then
      some (.cidRegister m.cid m.payload m.seq.toUInt16.toUInt8)
    else none
  else if m.destport = portPubkey then some (.cidSetPubkey m.cid m.payload)
  else none

/-- `ovboxclient_t::process_msg`. -/
def processMsg (L : Sodium) (B : Receiver) (m : MsgBuf) : Processed :=
  let m := m.invalidate
  -- avoid handling of loopback messages
  if m.cid = B.client.callerid ∧ m.destport ≠ portListcid ∧ m.destport ≠ portPubkey then
    ⟨m, B, [], [], none⟩
  else if maxSpecialPort < m.destport then B.processData L m
  else ⟨m, B, [], [], controlCall m⟩

/-- The function that is called for a delivered message. -/
def calledFor (callerid : StageDeviceId) (m : MsgBuf) : Option ControlCall :=
  if m.cid = callerid ∧ m.destport ≠ portListcid ∧ m.destport ≠ portPubkey then none
  else if maxSpecialPort < m.destport then none
  else controlCall m

theorem calledFor_of_data (callerid : StageDeviceId) {m : MsgBuf}
    (h : maxSpecialPort < m.destport) : calledFor callerid m.invalidate = none := by
  unfold calledFor
  rw [if_pos (show maxSpecialPort < m.invalidate.destport from h), ite_self]

theorem call_processMsg (L : Sodium) (B : Receiver) (m : MsgBuf) :
    (processMsg L B m).call = calledFor B.client.callerid m.invalidate := by
  unfold processMsg calledFor
  by_cases hown : m.invalidate.cid = B.client.callerid ∧ m.invalidate.destport ≠ portListcid ∧
      m.invalidate.destport ≠ portPubkey
  · simp only [if_pos hown]
  · by_cases hdata : maxSpecialPort < m.invalidate.destport
    · simp only [if_neg hown, if_pos hdata]
      unfold Receiver.processData
      by_cases hnet : isSameNetwork m.invalidate.sender B.localep = true
      · simp only [if_pos hnet]
      · simp only [if_neg hnet]
    · simp only [if_neg hown, if_neg hdata]

/-- A message for a reserved port makes its function be called, and does nothing else. -/
theorem processMsg_of_call {L : Sodium} {B : Receiver} {m : MsgBuf} {call : ControlCall}
    (h : calledFor B.client.callerid m.invalidate = some call) :
    processMsg L B m = ⟨m.invalidate, B, [], [], some call⟩ := by
  unfold processMsg
  unfold calledFor at h
  by_cases hown : m.invalidate.cid = B.client.callerid ∧ m.invalidate.destport ≠ portListcid ∧
      m.invalidate.destport ≠ portPubkey
  · rw [if_pos hown] at h
    exact absurd h.symm (Option.some_ne_none call)
  · rw [if_neg hown] at h ⊢
    by_cases hdata : maxSpecialPort < m.invalidate.destport
    · rw [if_pos hdata] at h
      exact absurd h.symm (Option.some_ne_none call)
    · rw [if_neg hdata] at h ⊢
      rw [h]

/-! ## What is sent -/

variable {L : Sodium} {B : Receiver} {m : MsgBuf}

/-- A data message of another device is forwarded. -/
theorem processMsg_of_data (hother : m.cid ≠ B.client.callerid)
    (hport : maxSpecialPort < m.destport) : processMsg L B m = B.processData L m.invalidate := by
  have hcid : ¬ (m.invalidate.cid = B.client.callerid ∧ m.invalidate.destport ≠ portListcid ∧
      m.invalidate.destport ≠ portPubkey) := fun h => hother h.1
  have hdata : maxSpecialPort < m.invalidate.destport := hport
  unfold processMsg
  simp only [if_neg hcid, if_pos hdata]

/-- A data message of another device goes to the local receivers. -/
theorem localSends_processMsg (hother : m.cid ≠ B.client.callerid)
    (hport : maxSpecialPort < m.destport) :
    (processMsg L B m).localSends =
      (B.client.portoffset :: B.xdest).flatMap (B.sendLocal (B.plaintext L m).1 m.destport) := by
  rw [processMsg_of_data hother hport]
  unfold Receiver.processData
  by_cases hnet : isSameNetwork m.invalidate.sender B.localep = true
  · simp only [if_pos hnet, List.flatMap_cons]
    rfl
  · simp only [if_neg hnet, List.flatMap_cons]
    rfl

/-- Messages that are looped back or to a reserved port send nothing. -/
theorem sends_processMsg_of_not_data
    (h : m.cid = B.client.callerid ∧ m.destport ≠ portListcid ∧ m.destport ≠ portPubkey ∨
      m.destport ≤ maxSpecialPort) :
    (processMsg L B m).localSends = [] ∧ (processMsg L B m).remoteSends = [] := by
  unfold processMsg
  by_cases hown : m.invalidate.cid = B.client.callerid ∧ m.invalidate.destport ≠ portListcid ∧
      m.invalidate.destport ≠ portPubkey
  · simp only [if_pos hown, and_self]
  · have hspecial : ¬ maxSpecialPort < m.invalidate.destport :=
      UInt16.not_lt.mpr (h.resolve_left hown)
    simp only [if_neg hown, if_neg hspecial, and_self]

/-- The datagram for a local receiver. -/
theorem sendLocal_eq (data : List UInt8) (destport offset : Port) :
    B.sendLocal data destport offset =
      if destport.toNat + offset.toNat = B.client.recport.toNat ∨ destport + offset = 0 then []
      else [⟨{ B.localServer with sinPort := htons (destport + offset) }, data⟩] := by
  unfold Receiver.sendLocal sendPort
  by_cases hown : destport.toNat + offset.toNat = B.client.recport.toNat
  · simp [hown]
  · by_cases hzero : destport + offset = 0
    · simp [hzero]
    · simp [hown, hzero]

/-- A payload is forwarded as it is where it is not opened. -/
theorem plaintext_of_not_opened
    (h : B.TriesToOpen m → L.boxSealOpen m.payload B.recipientPublic B.recipientSecret = none) :
    (B.plaintext L m).1 = m.payload := by
  unfold Receiver.plaintext
  by_cases htries : B.TriesToOpen m
  · rw [if_pos htries, h htries]
  · rw [if_neg htries]

/-- A payload that is opened is forwarded in plain text. -/
theorem plaintext_of_opened {opened : List UInt8} (htries : B.TriesToOpen m)
    (hopen : L.boxSealOpen m.payload B.recipientPublic B.recipientSecret = some opened)
    (hsize : m.size = opened.length + cryptoBoxSealBytes) (hfit : m.size ≤ bufSize) :
    (B.plaintext L m).1 = opened := by
  have hbuf : bufSize = 8192 := rfl
  unfold Receiver.plaintext
  rw [if_pos htries, hopen]
  dsimp only
  rw [sizeSub_of_le (by omega) (by omega)]
  apply Buffer.read_write_zero
  · omega
  · omega

end Libov
