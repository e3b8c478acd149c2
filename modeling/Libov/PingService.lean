/-
# The ping service (`ovboxclient_t::pingservice`)

Once per period the client registers with the relay server and sends pings to the other
devices: to their address, through the relay server, and to their local address if they
are in the same network.  Every ping is counted in the collector of its way and device.

* `OvboxUdpSocket.sendPing`, `sendRegistration` : the messages;
* `ClientState.pingservice` : one turn of the thread;
* `data_sendPing` : the bytes of a ping;
* `pingservice_spec` : which pings a turn sends and counts.

The time stamps are arguments: the bytes of what `time_since_start` returns.
-/
import Libov.ClientNode

namespace Libov

/-! ## Messages of the socket -/

/-- The bytes of a `double`. -/
abbrev TimeStamp := Buffer 8

/-- The bytes of an `endpoint_t`. -/
def Endpoint.toBytes (ep : Endpoint) : List UInt8 :=
  leBytes 2 ep.sinFamily.toNat ++ leBytes 2 ep.sinPort.toNat ++ leBytes 4 ep.sAddr.toNat
    ++ leBytes 8 ep.sinZero.toNat

@[simp] theorem Endpoint.length_toBytes (ep : Endpoint) : ep.toBytes.length = sizeofEndpoint := by
  simp [Endpoint.toBytes, sizeofEndpoint]

/-- `pingbufsize`. -/
def pingbufsize : ℕ := headerLen + 8 + 1 + sizeofEndpoint + 100

/-- `addmsg`: append to a packed message; `0` when it does not fit. -/
def addmsg {n : ℕ} (destbuf : Buffer n) (maxlen currentlen : ℕ) (msg : List UInt8) :
    Buffer n × ℕ :=
  if maxlen < currentlen + msg.length then (destbuf, 0)
  else (destbuf.write currentlen msg, currentlen + msg.length)

namespace OvboxUdpSocket

/-- `send_ping`.  The local buffer is not initialised; what is sent has been written. -/
def sendPing (s : OvboxUdpSocket) (buffer : Buffer pingbufsize) (ep : Endpoint)
    (destid : StageDeviceId) (proto : Port) (t1 : TimeStamp) : Datagram × OvboxUdpSocket :=
  let (r, s) := s.packmsg buffer pingbufsize proto []
  let r := if proto = portPingSrv then addmsg r.1 pingbufsize r.2 [destid] else r
  let r := addmsg r.1 pingbufsize r.2 t1.1
  let r := addmsg r.1 pingbufsize r.2 ep.toBytes
  (sendEp (r.1.read 0 r.2) ep, s)

/-- `udpsocket_t::send` to a port; the preset destination keeps the port. -/
def sendTo (s : OvboxUdpSocket) (data : List UInt8) (portno : Port) :
    List Datagram × OvboxUdpSocket :=
  ((sendPort s.servAddr data portno).toList,
    if portno = 0 then s
    else { s with servAddr := { s.servAddr with sinPort := htons portno } })

/-- Pack a message into a buffer of just its size and send it. -/
def packAndSendTo (s : OvboxUdpSocket) (destport : Port) (msg : List UInt8) (portno : Port) :
    List Datagram × OvboxUdpSocket :=
  let (r, s) := s.packmsg (Buffer.zero (headerLen + msg.length)) (headerLen + msg.length)
    destport msg
  s.sendTo (r.1.read 0 r.2) portno

/-- `send_registration`; `rver` are the bytes of the version, and the mode stands in the
place of the sequence number. -/
def sendRegistration (s : OvboxUdpSocket) (recipientPublic : PublicKey) (rver : List UInt8)
    (mode : Epmode) (port : Port) (localep : Endpoint) : List Datagram × OvboxUdpSocket :=
  let msg := rver ++ [0]
  let register := Libov.packmsg (Buffer.zero (headerLen + msg.length)) (headerLen + msg.length)
    s.secret s.callerid portRegister mode.toUInt16.toInt16 msg
  let (ds, s) := s.sendTo (register.1.read 0 register.2) port
  let (ds', s) := s.packAndSendTo portSetlocalip localep.toBytes port
  -- `send_pubkey`
  let (ds'', s) := s.packAndSendTo portPubkey recipientPublic.1 port
  (ds ++ ds' ++ ds'', s)

end OvboxUdpSocket

/-! ## The service -/

namespace PingClass

/-- The port of a ping. -/
def pingPort : PingClass → Port
  | .p2p => portPing
  | .srv => portPingSrv
  | .loc => portPingLocal

/-- The port of its pong. -/
def pongPort : PingClass → Port
  | .p2p => portPong
  | .srv => portPongSrv
  | .loc => portPongLocal

end PingClass

/-- The id of an entry of the endpoint table. -/
def deviceId (ocid : Fin maxStageId) : StageDeviceId := UInt8.ofNat ocid

namespace ClientState

/-- Send a ping and count it. -/
def sendPing (c : ClientState) (buffer : Buffer pingbufsize) (ep : Endpoint)
    (ocid : StageDeviceId) (cls : PingClass) (t1 : TimeStamp) : ClientState :=
  let r := c.remoteServer.sendPing buffer ep ocid cls.pingPort t1
  { c with remoteServer := r.2, remoteSends := c.remoteSends ++ [r.1] }.onCollector cls ocid
    fun p => { p with sent := p.sent + 1 }

/-- Loop body of `pingservice`, with a time stamp for each `send_ping`. -/
def pingPeer (buffer : Buffer pingbufsize) (stamps : Fin maxStageId → PingClass → TimeStamp)
    (c : ClientState) (i : Fin maxStageId) : ClientState :=
  let ep := c.endpointList.endpoints i
  let ocid := deviceId i
  if ep.timeout ≠ 0 ∧ ocid ≠ c.callerid then
    let c := c.sendPing buffer ep.ep ocid .p2p (stamps i .p2p)
    let c := c.sendPing buffer c.remoteServer.servAddr ocid .srv (stamps i .srv)
    if c.client.targetInSameNetwork ep.toEpDesc then
      c.sendPing buffer ep.localep ocid .loc (stamps i .loc)
    else c
  else c

/-- `remote_server.send_registration(mode, toport, localep)`. -/
def register (c : ClientState) (rver : List UInt8) : ClientState :=
  let r := c.remoteServer.sendRegistration c.recipientPublic rver c.mode c.toport c.localep
  { c with remoteServer := r.2, remoteSends := c.remoteSends ++ r.1 }

/-- One turn of `pingservice`. -/
def pingservice (c : ClientState) (rver : List UInt8) (buffer : Buffer pingbufsize)
    (stamps : Fin maxStageId → PingClass → TimeStamp) : ClientState :=
  (List.finRange maxStageId).foldl (pingPeer buffer stamps) (c.register rver)

end ClientState

/-! ## The bytes of a ping -/

/-- A packed message of these bytes at the start of a buffer. -/
def Packs {n : ℕ} (r : Buffer n × ℕ) (bytes : List UInt8) : Prop :=
  r.2 = bytes.length ∧ r.1.read 0 r.2 = bytes

/-- Appending to a packed message. -/
theorem Packs.addmsg {n : ℕ} {r : Buffer n × ℕ} {bytes : List UInt8} (h : Packs r bytes)
    (msg : List UInt8) (hfit : bytes.length + msg.length ≤ n) :
    Packs (addmsg r.1 n r.2 msg) (bytes ++ msg) := by
  obtain ⟨hlen, hread⟩ := h
  have hbytes : (bytes ++ msg).length = r.2 + msg.length := by rw [List.length_append, hlen]
  unfold Libov.addmsg
  rw [if_neg (by omega)]
  refine ⟨hbytes.symm, ?_⟩
  show (r.1.write r.2 msg).read 0 (r.2 + msg.length) = bytes ++ msg
  have hfront : (r.1.read 0 (r.2 + msg.length)).take r.2 = bytes := by
    rw [Buffer.take_read _ _ _ _ (Nat.le_add_right ..), hread]
  have hbehind : (r.1.read 0 (r.2 + msg.length)).drop (r.2 + msg.length) = [] := by
    apply List.drop_of_length_le
    rw [Buffer.length_read _ _ _ (by omega)]
  rw [Buffer.read_zero_write _ _ _ _ (by omega), hfront, hbehind, Nat.add_sub_cancel_left,
    List.take_length, List.append_nil]

variable (s : OvboxUdpSocket)

/-- What packing changes of a socket. -/
theorem OvboxUdpSocket.packmsg_socket {n : ℕ} (destbuf : Buffer n) (maxlen : ℕ) (destport : Port)
    (msg : List UInt8) :
    ∃ seqmap, (s.packmsg destbuf maxlen destport msg).2 = { s with seqmap := seqmap } := by
  unfold OvboxUdpSocket.packmsg
  dsimp only
  split_ifs
  · exact ⟨_, rfl⟩
  · exact ⟨_, rfl⟩

/-- A control message carries the number `0`. -/
theorem OvboxUdpSocket.packs_control {n : ℕ} (destbuf : Buffer n) {destport : Port}
    (msg : List UInt8) (hport : ¬ maxSpecialPort ≤ destport) (hfit : headerLen + msg.length ≤ n) :
    Packs (s.packmsg destbuf n destport msg).1 (header s.secret s.callerid destport 0 ++ msg) := by
  have hread := s.read_packmsg destbuf destport msg hfit
  unfold OvboxUdpSocket.packed OvboxUdpSocket.nextSeq at hread
  rw [if_neg hport] at hread
  have hlen := s.packmsg_length destbuf n destport msg
  rw [if_neg (by omega)] at hlen
  refine ⟨?_, ?_⟩
  · rw [hlen, List.length_append, length_header]
  · rw [hlen, hread]

/-- What is in front of the time stamp: an id where a message goes through the relay server. -/
def addressee (cls : PingClass) (id : StageDeviceId) : List UInt8 :=
  if cls = .srv then [id] else []

/-- Only a ping through the relay server names its addressee. -/
theorem length_addressee (cls : PingClass) (id : StageDeviceId) :
    (addressee cls id).length = if cls = .srv then 1 else 0 := by
  unfold addressee
  split_ifs <;> rfl

/-- The payload of a ping. -/
def pingPayload (cls : PingClass) (destid : StageDeviceId) (t1 : TimeStamp) (ep : Endpoint) :
    List UInt8 :=
  addressee cls destid ++ t1.1 ++ ep.toBytes

/-- The payload of a ping always fits into its buffer. -/
theorem length_pingPayload_le (cls : PingClass) (destid : StageDeviceId) (t1 : TimeStamp)
    (ep : Endpoint) : (pingPayload cls destid t1 ep).length ≤ 25 := by
  have ht : t1.1.length = 8 := t1.2
  have hep := ep.length_toBytes
  have h16 : sizeofEndpoint = 16 := rfl
  unfold pingPayload
  rw [List.length_append, List.length_append, length_addressee, ht, hep]
  split_ifs <;> omega

/-- The datagram of a ping. -/
def pingDatagram (s : OvboxUdpSocket) (cls : PingClass) (destid : StageDeviceId)
    (t1 : TimeStamp) (ep : Endpoint) : Datagram :=
  ⟨ep, header s.secret s.callerid cls.pingPort 0 ++ pingPayload cls destid t1 ep⟩

/-- A ping is sent as its datagram, and nothing of the socket changes but its numbers. -/
theorem sendPing_eq (buffer : Buffer pingbufsize) (ep : Endpoint) (destid : StageDeviceId)
    (cls : PingClass) (t1 : TimeStamp) :
    (s.sendPing buffer ep destid cls.pingPort t1).1 = pingDatagram s cls destid t1 ep
      ∧ ∃ seqmap,
        (s.sendPing buffer ep destid cls.pingPort t1).2 = { s with seqmap := seqmap } := by
  have hsize : pingbufsize = 134 := rfl
  have h9 : headerLen = 9 := rfl
  have h16 : sizeofEndpoint = 16 := rfl
  have ht : t1.1.length = 8 := t1.2
  refine ⟨?_, s.packmsg_socket buffer pingbufsize cls.pingPort []⟩
  have hcontrol : ¬ maxSpecialPort ≤ cls.pingPort := by cases cls <;> decide
  have hheader := s.packs_control buffer [] hcontrol (by rw [List.length_nil]; omega)
  rw [List.append_nil] at hheader
  have hlen := length_header s.secret s.callerid cls.pingPort 0
  -- the id of the device, if it is sent
  have hid : Packs
      (if cls.pingPort = portPingSrv then
        addmsg (s.packmsg buffer pingbufsize cls.pingPort []).1.1 pingbufsize
          (s.packmsg buffer pingbufsize cls.pingPort []).1.2 [destid]
      else (s.packmsg buffer pingbufsize cls.pingPort []).1)
      (header s.secret s.callerid cls.pingPort 0 ++ addressee cls destid) := by
    unfold addressee
    cases cls with
    | p2p => rw [if_neg (by decide), if_neg (by decide), List.append_nil]; exact hheader
    | srv =>
        have hroom : headerLen + 1 ≤ pingbufsize := by omega
        rw [if_pos (by decide), if_pos rfl]
        exact hheader.addmsg [destid] (hlen ▸ hroom)
    | loc => rw [if_neg (by decide), if_neg (by decide), List.append_nil]; exact hheader
  have hidlen : (addressee cls destid).length ≤ 1 := by
    rw [length_addressee]
    split_ifs <;> omega
  have hstamp := hid.addmsg t1.1 (by rw [List.length_append, hlen, ht]; omega)
  have hall := hstamp.addmsg ep.toBytes (by
    rw [List.length_append, List.length_append, hlen, ht, ep.length_toBytes]; omega)
  have hbytes := hall.2
  rw [List.append_assoc, List.append_assoc, ← List.append_assoc (addressee cls destid)] at hbytes
  exact congrArg (Datagram.mk ep) hbytes

/-! ## One turn -/

/-- What the service reads of a client, and what stays the same while it runs. -/
structure SamePeers (c c' : ClientState) : Prop where
  callerid : c'.callerid = c.callerid
  endpointList : c'.endpointList = c.endpointList
  outside : c'.outside = c.outside
  secret : c'.remoteServer.secret = c.remoteServer.secret
  sender : c'.remoteServer.callerid = c.remoteServer.callerid
  servAddr : c'.remoteServer.servAddr = c.remoteServer.servAddr

/-- A client has its own peers. -/
theorem SamePeers.refl (c : ClientState) : SamePeers c c := ⟨rfl, rfl, rfl, rfl, rfl, rfl⟩

/-- The same peers are kept through calls that each keep them. -/
theorem SamePeers.trans {c c' c'' : ClientState} (h : SamePeers c c') (h' : SamePeers c' c'') :
    SamePeers c c'' where
  callerid := h'.callerid.trans h.callerid
  endpointList := h'.endpointList.trans h.endpointList
  outside := h'.outside.trans h.outside
  secret := h'.secret.trans h.secret
  sender := h'.sender.trans h.sender
  servAddr := h'.servAddr.trans h.servAddr

namespace ClientState

/-- The ways of the pings to a device, in the order of sending. -/
def pingWays (c : ClientState) (i : Fin maxStageId) : List PingClass :=
  if (c.endpointList.endpoints i).timeout ≠ 0 ∧ deviceId i ≠ c.callerid then
    if c.client.targetInSameNetwork (c.endpointList.endpoints i).toEpDesc then [.p2p, .srv, .loc]
    else [.p2p, .srv]
  else []

/-- Where a ping is sent to. -/
def pingAddress (c : ClientState) (i : Fin maxStageId) : PingClass → Endpoint
  | .p2p => (c.endpointList.endpoints i).ep
  | .srv => c.remoteServer.servAddr
  | .loc => (c.endpointList.endpoints i).localep

/-- A ping of the service. -/
def pingTo (c : ClientState) (stamps : Fin maxStageId → PingClass → TimeStamp)
    (i : Fin maxStageId) (cls : PingClass) : Datagram :=
  pingDatagram c.remoteServer cls (deviceId i) (stamps i cls) (c.pingAddress i cls)

end ClientState

section Turn

variable {c c' : ClientState} (buffer : Buffer pingbufsize)
  (stamps : Fin maxStageId → PingClass → TimeStamp)

/-- The ways to a peer are those of the table. -/
theorem SamePeers.pingWays (h : SamePeers c c') (i : Fin maxStageId) :
    c'.pingWays i = c.pingWays i := by
  have hself : c'.client.self = c.client.self := by
    unfold OvboxClient.self ClientState.client
    simp only [h.callerid, h.endpointList, h.outside]
  unfold ClientState.pingWays OvboxClient.targetInSameNetwork
  rw [h.callerid, h.endpointList, hself]

/-- The address of a ping is read from the table. -/
theorem SamePeers.pingTo (h : SamePeers c c') (i : Fin maxStageId) (cls : PingClass) :
    c'.pingTo stamps i cls = c.pingTo stamps i cls := by
  have haddress : c'.pingAddress i cls = c.pingAddress i cls := by
    cases cls with
    | p2p => exact congrArg (fun l : EndpointList => (l.endpoints i).ep) h.endpointList
    | srv => exact h.servAddr
    | loc => exact congrArg (fun l : EndpointList => (l.endpoints i).localep) h.endpointList
  unfold ClientState.pingTo pingDatagram
  rw [haddress, h.secret, h.sender]

/-- One ping: what it sends, what it counts, and what it leaves alone. -/
theorem sendPing_spec (c : ClientState) (ep : Endpoint) (ocid : StageDeviceId) (cls : PingClass)
    (t1 : TimeStamp) :
    SamePeers c (c.sendPing buffer ep ocid cls t1)
      ∧ (c.sendPing buffer ep ocid cls t1).remoteSends
        = c.remoteSends ++ [pingDatagram c.remoteServer cls ocid t1 ep]
      ∧ (c.sendPing buffer ep ocid cls t1).pingReports = c.pingReports
      ∧ ∀ cls' dev, (c.sendPing buffer ep ocid cls t1).collectors cls' dev
        = if dev = ocid ∧ cls' = cls then
            { c.collectors cls' dev with sent := (c.collectors cls' dev).sent + 1 }
          else c.collectors cls' dev := by
  obtain ⟨hdatagram, seqmap, hsocket⟩ := sendPing_eq c.remoteServer buffer ep ocid cls t1
  unfold ClientState.sendPing ClientState.onCollector
  dsimp only
  rw [hdatagram, hsocket]
  refine ⟨⟨rfl, rfl, rfl, rfl, rfl, rfl⟩, rfl, rfl, ?_⟩
  intro cls' dev
  by_cases hcls : cls' = cls
  · subst hcls
    rw [Function.update_self]
    by_cases hdev : dev = ocid
    · rw [hdev, Function.update_self, if_pos ⟨rfl, rfl⟩]
    · rw [Function.update_of_ne hdev, if_neg fun h => hdev h.1]
  · rw [Function.update_of_ne hcls, if_neg fun h => hcls h.2]

/-- A ping of the service, sent and counted. -/
def sendOne (c : ClientState) (p : Fin maxStageId × PingClass) : ClientState :=
  c.sendPing buffer (c.pingAddress p.1 p.2) (deviceId p.1) p.2 (stamps p.1 p.2)

/-- Different entries belong to different ids. -/
theorem deviceId_inj {i j : Fin maxStageId} (h : deviceId i = deviceId j) : i = j := by
  have hnat := congrArg UInt8.toNat h
  have hlt : ∀ i : Fin maxStageId, (i : ℕ) < UInt8.size := fun i => i.2.trans (by decide)
  unfold deviceId at hnat
  rw [UInt8.toNat_ofNat_of_lt' (hlt i), UInt8.toNat_ofNat_of_lt' (hlt j)] at hnat
  exact Fin.ext hnat

/-- A number of pings one after the other. -/
theorem foldl_sendOne (ps : List (Fin maxStageId × PingClass)) (hps : ps.Nodup) (c : ClientState) :
    SamePeers c (ps.foldl (sendOne buffer stamps) c)
      ∧ (ps.foldl (sendOne buffer stamps) c).remoteSends
        = c.remoteSends ++ (ps.map fun p => c.pingTo stamps p.1 p.2)
      ∧ ∀ i cls, (ps.foldl (sendOne buffer stamps) c).collectors cls (deviceId i)
        = if (i, cls) ∈ ps then
            { c.collectors cls (deviceId i) with
              sent := (c.collectors cls (deviceId i)).sent + 1 }
          else c.collectors cls (deviceId i) := by
  induction ps generalizing c with
  | nil =>
      refine ⟨SamePeers.refl c, (List.append_nil _).symm, fun i cls => ?_⟩
      rw [if_neg List.not_mem_nil]
      rfl
  | cons p ps ih =>
      obtain ⟨hp, hrest⟩ := List.nodup_cons.mp hps
      obtain ⟨hsame, hsends, -, hcount⟩ := sendPing_spec buffer c (c.pingAddress p.1 p.2)
        (deviceId p.1) p.2 (stamps p.1 p.2)
      obtain ⟨hsame', hsends', hcount'⟩ := ih hrest (sendOne buffer stamps c p)
      refine ⟨hsame.trans hsame', ?_, fun i cls => ?_⟩
      · have hlater : (ps.map fun q => (sendOne buffer stamps c p).pingTo stamps q.1 q.2)
            = ps.map fun q => c.pingTo stamps q.1 q.2 :=
          List.map_congr_left fun q _ => hsame.pingTo stamps q.1 q.2
        rw [List.foldl_cons, hsends', hlater, List.map_cons]
        exact (congrArg (· ++ _) hsends).trans (List.append_assoc ..)
      · have hfirst : (sendOne buffer stamps c p).collectors cls (deviceId i) = _ :=
          hcount cls (deviceId i)
        rw [List.foldl_cons, hcount' i cls, hfirst]
        by_cases hnow : (i, cls) = p
        · -- this ping; it is not sent again
          subst hnow
          rw [if_neg hp, if_pos ⟨rfl, rfl⟩, if_pos List.mem_cons_self]
        · have hother : ¬ (deviceId i = deviceId p.1 ∧ cls = p.2) := by
            rintro ⟨hdev, hcls⟩
            exact hnow (Prod.ext (deviceId_inj hdev) hcls)
          rw [if_neg hother]
          by_cases hlater : (i, cls) ∈ ps
          · rw [if_pos hlater, if_pos (List.mem_cons_of_mem p hlater)]
          · rw [if_neg hlater, if_neg fun h => (List.mem_cons.mp h).elim hnow hlater]

/-- A peer is pinged on each way once. -/
theorem nodup_pingWays (c : ClientState) (i : Fin maxStageId) :
    ((c.pingWays i).map (Prod.mk i)).Nodup := by
  refine List.Nodup.map (fun _ _ h => (Prod.ext_iff.mp h).2) ?_
  unfold ClientState.pingWays
  split_ifs
  · decide
  · decide
  · decide

/-- The pings to one device. -/
theorem pingPeer_eq (c : ClientState) (i : Fin maxStageId) :
    c.pingPeer buffer stamps i
      = ((c.pingWays i).map (Prod.mk i)).foldl (sendOne buffer stamps) c := by
  unfold ClientState.pingPeer ClientState.pingWays
  by_cases hping : (c.endpointList.endpoints i).timeout ≠ 0 ∧ deviceId i ≠ c.callerid
  · rw [if_pos hping, if_pos hping]
    -- the pings in between leave the addresses as they are
    show (if c.client.targetInSameNetwork (c.endpointList.endpoints i).toEpDesc then _ else _) = _
    by_cases hnet : c.client.targetInSameNetwork (c.endpointList.endpoints i).toEpDesc = true
    · rw [if_pos hnet, if_pos hnet]
      rfl
    · rw [if_neg hnet, if_neg hnet]
      rfl
  · rw [if_neg hping, if_neg hping]
    rfl

/-- The pings of a turn, in the order of sending. -/
def turnPings (c : ClientState) (is : List (Fin maxStageId)) : List (Fin maxStageId × PingClass) :=
  is.flatMap fun i => (c.pingWays i).map (Prod.mk i)

/-- In a turn no ping is sent twice. -/
theorem nodup_turnPings (c : ClientState) {is : List (Fin maxStageId)} (his : is.Nodup) :
    (turnPings c is).Nodup := by
  refine List.nodup_flatMap.mpr ⟨fun i _ => nodup_pingWays c i, ?_⟩
  refine his.imp ?_
  intro i j hne p hp hp'
  obtain ⟨_, _, hi⟩ := List.mem_map.mp hp
  obtain ⟨_, _, hj⟩ := List.mem_map.mp hp'
  exact hne ((congrArg Prod.fst hi).trans (congrArg Prod.fst hj).symm)

/-- The loop over the peers sends the pings of the turn, one by one. -/
theorem foldl_pingPeer (is : List (Fin maxStageId)) (c : ClientState) :
    is.foldl (ClientState.pingPeer buffer stamps) c
      = (turnPings c is).foldl (sendOne buffer stamps) c := by
  induction is generalizing c with
  | nil => rfl
  | cons i is ih =>
      have hsame : SamePeers c (c.pingPeer buffer stamps i) := by
        rw [pingPeer_eq]
        exact (foldl_sendOne buffer stamps _ (nodup_pingWays c i) c).1
      have hlater : turnPings (c.pingPeer buffer stamps i) is = turnPings c is := by
        unfold turnPings
        exact List.flatMap_congr fun j _ => congrArg _ (hsame.pingWays j)
      rw [List.foldl_cons, ih, hlater, pingPeer_eq]
      unfold turnPings
      rw [List.flatMap_cons, List.foldl_append]

/-- Registering changes neither the secret of the socket nor the id it sends with. -/
theorem remoteServer_register (c : ClientState) (rver : List UInt8) :
    (c.register rver).remoteServer.secret = c.remoteServer.secret
      ∧ (c.register rver).remoteServer.callerid = c.remoteServer.callerid := by
  have hsend : ∀ (s : OvboxUdpSocket) data port, (s.sendTo data port).2.secret = s.secret ∧
      (s.sendTo data port).2.callerid = s.callerid := by
    intro s data port
    unfold OvboxUdpSocket.sendTo
    dsimp only
    split_ifs <;> exact ⟨rfl, rfl⟩
  have hpack : ∀ (s : OvboxUdpSocket) destport msg port,
      (s.packAndSendTo destport msg port).2.secret = s.secret ∧
      (s.packAndSendTo destport msg port).2.callerid = s.callerid := by
    intro s destport msg port
    obtain ⟨seqmap, hsocket⟩ := s.packmsg_socket (Buffer.zero (headerLen + msg.length))
      (headerLen + msg.length) destport msg
    unfold OvboxUdpSocket.packAndSendTo
    dsimp only
    rw [hsocket]
    exact hsend _ _ _
  unfold ClientState.register OvboxUdpSocket.sendRegistration
  dsimp only
  rw [(hpack _ _ _ _).1, (hpack _ _ _ _).1, (hpack _ _ _ _).2, (hpack _ _ _ _).2]
  exact hsend _ _ _

/-- The service pings every registered device on each of its ways once, behind the
registration. -/
theorem pingservice_spec (c : ClientState) (rver : List UInt8) :
    let c₁ := c.register rver
    (c.pingservice rver buffer stamps).remoteSends
        = c₁.remoteSends ++ ((List.finRange maxStageId).flatMap fun i =>
          (c.pingWays i).map (c₁.pingTo stamps i))
      ∧ ∀ i cls, (c.pingservice rver buffer stamps).collectors cls (deviceId i)
        = if cls ∈ c.pingWays i then
            { c.collectors cls (deviceId i) with
              sent := (c.collectors cls (deviceId i)).sent + 1 }
          else c.collectors cls (deviceId i) := by
  intro c₁
  have hways : ∀ i, c₁.pingWays i = c.pingWays i := fun i => rfl
  obtain ⟨-, hsends, hcount⟩ := foldl_sendOne buffer stamps _
    (nodup_turnPings c₁ (List.nodup_finRange maxStageId)) c₁
  unfold ClientState.pingservice
  rw [foldl_pingPeer]
  refine ⟨?_, ?_⟩
  · rw [hsends]
    unfold turnPings
    rw [List.map_flatMap]
    simp only [List.map_map, hways]
    rfl
  · intro i cls
    rw [hcount i cls]
    have hmem : (i, cls) ∈ turnPings c₁ (List.finRange maxStageId) ↔ cls ∈ c.pingWays i := by
      unfold turnPings
      rw [List.mem_flatMap]
      constructor
      · rintro ⟨j, -, hj⟩
        obtain ⟨cls', hcls, hpair⟩ := List.mem_map.mp hj
        obtain ⟨rfl, rfl⟩ := Prod.ext_iff.mp hpair
        exact hcls
      · intro hcls
        exact ⟨i, List.mem_finRange i, List.mem_map_of_mem hcls⟩
    simp only [hmem]
    rfl

end Turn

end Libov
