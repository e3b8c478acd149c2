/-
# Pings and their answers

A peer answers a ping in place: it writes its own id and the port of the pong into the
header, and the id of the sender in front of the payload where the ping came through the
relay server.

* `read_pongBuffer` : the bytes of the answer;
* `answer_sent`, `pong_counted` : what a ping makes of the peer, and its pong of the sender;
* `ping_round_trip` : a ping that the service sends comes back as a sample of its own
  collector, with the time that has passed since.

The relay server forwards a message to the device that its first payload byte names.
-/
import Libov.PingService
import Libov.PongTimeStamps

namespace Libov

/-! ## The answer -/

/-- The device that the relay server forwards a packed ping or pong to. -/
def relayTarget (data : List UInt8) : Option StageDeviceId := data[headerLen]?

section Buffer

variable {b : Buffer bufSize} {secret : Secret} {cid : StageDeviceId} {port : Port}
  {seq : Sequence} {payload : List UInt8}

/-- Another id in the header of a packed message. -/
theorem read_write_callerid (hfit : headerLen + payload.length ≤ bufSize)
    (h : b.read 0 (headerLen + payload.length) = header secret cid port seq ++ payload)
    (cid' : StageDeviceId) :
    (b.write 4 [cid']).read 0 (headerLen + payload.length)
      = header secret cid' port seq ++ payload := by
  have h9 : headerLen = 9 := rfl
  rw [Buffer.read_zero_write _ _ _ _ (by rw [List.length_singleton]; omega), h,
    List.take_of_length_le (l := [cid']) (by rw [List.length_singleton]; omega)]
  rfl

/-- Another port in the header. -/
theorem read_write_port (hfit : headerLen + payload.length ≤ bufSize)
    (h : b.read 0 (headerLen + payload.length) = header secret cid port seq ++ payload)
    (port' : Port) :
    (b.write 5 (leBytes 2 port'.toNat)).read 0 (headerLen + payload.length)
      = header secret cid port' seq ++ payload := by
  have h9 : headerLen = 9 := rfl
  rw [Buffer.read_zero_write _ _ _ _ (by rw [length_leBytes]; omega), h,
    List.take_of_length_le (l := leBytes 2 port'.toNat) (by rw [length_leBytes]; omega)]
  rfl

/-- Another byte in front of the payload. -/
theorem read_write_first {id id' : UInt8} (hfit : headerLen + (id :: payload).length ≤ bufSize)
    (h : b.read 0 (headerLen + (id :: payload).length)
      = header secret cid port seq ++ id :: payload) :
    (b.write headerLen [id']).read 0 (headerLen + (id :: payload).length)
      = header secret cid port seq ++ id' :: payload := by
  have h9 : headerLen = 9 := rfl
  rw [List.length_cons] at hfit h ⊢
  rw [Buffer.read_zero_write _ _ _ _ (by rw [List.length_singleton]; omega), h,
    List.take_of_length_le (l := [id']) (by rw [List.length_singleton]; omega)]
  rfl

end Buffer

/-- The answer to a ping: the header names the peer and the port of the pong, and the id
in front of the payload is that of the sender. -/
theorem read_pongBuffer {m : MsgBuf} {secret : Secret} {cls : PingClass}
    {a b : StageDeviceId} {t1 : TimeStamp} {ep : Endpoint} (hmsg : m.msg = headerLen)
    (hcid : m.cid = a) (hport : m.destport = cls.pingPort)
    (hread : m.rawbuffer.read 0 (headerLen + (pingPayload cls b t1 ep).length)
      = header secret a cls.pingPort 0 ++ pingPayload cls b t1 ep) :
    (pongBuffer b m).read 0 (headerLen + (pingPayload cls b t1 ep).length)
      = header secret b cls.pongPort 0 ++ pingPayload cls a t1 ep := by
  have hfit : headerLen + (pingPayload cls b t1 ep).length ≤ bufSize := by
    have hle := length_pingPayload_le cls b t1 ep
    have h9 : headerLen = 9 := rfl
    have hbuf : bufSize = 8192 := rfl
    omega
  have hid := read_write_callerid hfit hread b
  have hpong := read_write_port hfit hid cls.pongPort
  unfold pongBuffer
  dsimp only
  rw [hport, hmsg, hcid]
  cases cls with
  | p2p =>
      rw [if_pos (by decide)]
      exact hpong
  | srv =>
      rw [if_neg (by decide), if_pos (by decide)]
      exact read_write_first hfit hpong
  | loc =>
      rw [if_neg (by decide), if_neg (by decide), if_pos (by decide)]
      exact hpong

/-! ## Receiving control messages -/

section Receive

variable {L : Sodium} {secret : Secret} {callerid : StageDeviceId} {n : ClientNode}

/-- A packed message that fits is received with its bytes. -/
theorem incoming_packed (secret : Secret) (x : SendsrvLoop) (cid : StageDeviceId) (port : Port)
    (seq : Sequence) {payload : List UInt8} (hfit : headerLen + payload.length ≤ bufSize)
    (addr : Endpoint) :
    let rx : Received := some (header secret cid port seq ++ payload, addr)
    ∃ raw : Buffer bufSize, Accepted secret x rx
      ∧ incoming secret x rx = ⟨true, cid, port, seq, payload.length, raw, headerLen, addr⟩
      ∧ raw.read 0 (headerLen + payload.length) = header secret cid port seq ++ payload := by
  intro rx
  have hlen : (header secret cid port seq ++ payload).length = headerLen + payload.length := by
    rw [List.length_append, length_header]
  obtain ⟨raw, hreceived, -⟩ := recvSecMsg_packed secret cid port seq payload hfit x.msg addr
  have hincoming : incoming secret x rx
      = ⟨true, cid, port, seq, payload.length, raw, headerLen, addr⟩ := congrArg Prod.snd hreceived
  have hacc : Accepted secret x rx := by
    unfold Accepted
    rw [hreceived]
  refine ⟨raw, hacc, hincoming, ?_⟩
  have hraw := rawbuffer_received secret x.msg (header secret cid port seq ++ payload) addr
  rw [hreceived, List.take_of_length_le (by rw [hlen]; exact hfit)] at hraw
  rw [show raw = _ from hraw]
  exact Buffer.read_write_zero _ _ _ hlen.symm (by rw [hlen]; exact hfit)

/-- Data messages are forwarded, and change neither the collectors nor the reports. -/
theorem foldl_handle_data {clock : List UInt8 → ℚ} {locked : Bool} {ms : List MsgBuf}
    (hdata : ∀ m ∈ ms, maxSpecialPort < m.destport) (c : ClientState) :
    (ms.foldl (handle L clock locked) c).collectors = c.collectors
      ∧ (ms.foldl (handle L clock locked) c).pingReports = c.pingReports
      ∧ ∃ rest, (ms.foldl (handle L clock locked) c).remoteSends = c.remoteSends ++ rest := by
  induction ms generalizing c with
  | nil => exact ⟨rfl, rfl, [], (List.append_nil _).symm⟩
  | cons m ms ih =>
      obtain ⟨hport, hrest⟩ := List.forall_mem_cons.mp hdata
      obtain ⟨hcollectors, hreports, rest, hsends⟩ := ih hrest (handle L clock locked c m)
      rw [List.foldl_cons]
      rw [handle_of_not_called (calledFor_of_data _ hport)] at hcollectors hreports hsends ⊢
      refine ⟨hcollectors, hreports, (processMsg L c.receiver m).remoteSends ++ rest, ?_⟩
      rw [hsends, ← List.append_assoc]
      rfl

/-- The time stamp of a pong is read back as it was written. -/
theorem pongTime_of_read {clock : List UInt8 → ℚ} {raw : Buffer bufSize} {a b : StageDeviceId}
    {seq : Sequence} {cls : PingClass} {t1 : TimeStamp} {ep addr : Endpoint}
    (hfit : headerLen + (pingPayload cls a t1 ep).length ≤ bufSize)
    (hread : raw.read 0 (headerLen + (pingPayload cls a t1 ep).length)
      = header secret b cls.pongPort 0 ++ pingPayload cls a t1 ep) :
    pongTime clock (MsgBuf.invalidate ⟨true, b, cls.pongPort, seq, (pingPayload cls a t1 ep).length,
      raw, headerLen, addr⟩) = clock t1.1 := by
  have hstamp : t1.1.length = 8 := t1.2
  have hep := ep.length_toBytes
  have h16 : sizeofEndpoint = 16 := rfl
  have h8 : sizeofDouble = 8 := rfl
  have hbuf : bufSize = 8192 := rfl
  have hoffset : stampOffset cls.pongPort = (addressee cls a).length := by
    rw [length_addressee]
    cases cls <;> rfl
  have hlen : (pingPayload cls a t1 ep).length = stampOffset cls.pongPort + 8 + 16 := by
    rw [pingPayload, List.length_append, List.length_append, hoffset, hstamp, hep, h16]
  -- the bytes behind the header and the id
  have hbytes : raw.read (headerLen + stampOffset cls.pongPort) sizeofDouble = t1.1 := by
    have hslice := raw.drop_read 0 (headerLen + stampOffset cls.pongPort)
      (headerLen + (pingPayload cls a t1 ep).length)
    rw [Nat.zero_add] at hslice
    rw [← raw.take_read _ sizeofDouble (headerLen + (pingPayload cls a t1 ep).length
      - (headerLen + stampOffset cls.pongPort)) (by omega), ← hslice, hread, ← List.drop_drop,
      List.drop_left' (length_header ..), pingPayload, List.append_assoc,
      List.drop_left' hoffset.symm, List.take_left' (hstamp.trans h8.symm)]
  have hread' := stampRead_of_hasTimeStamp
    (m := MsgBuf.invalidate ⟨true, b, cls.pongPort, seq, (pingPayload cls a t1 ep).length, raw,
      headerLen, addr⟩) (show (pingPayload cls a t1 ep).length < 2 ^ 64 by omega)
    (show stampOffset cls.pongPort + sizeofDouble ≤ (pingPayload cls a t1 ep).length by omega)
  rw [pongTime_eq, hread']
  exact congrArg clock hbytes

/-- What a running client makes of a control message: its function is called, and data
messages that were held back are forwarded behind it. -/
theorem client_received_control (L : Sodium) (clock : List UInt8 → ℚ) (locked : Bool)
    {rx : Received} (h : n.Running secret callerid) (hacc : Accepted secret n.loop rx)
    {call : ControlCall}
    (hport : (incoming secret n.loop rx).destport ≤ maxSpecialPort)
    (hcall : calledFor callerid (incoming secret n.loop rx).invalidate = some call) :
    let c := n.client.perform clock locked (incoming secret n.loop rx).invalidate call
    (nodeStep L n (.received rx clock locked)).client.collectors = c.collectors
      ∧ (nodeStep L n (.received rx clock locked)).client.pingReports = c.pingReports
      ∧ ∃ rest, (nodeStep L n (.received rx clock locked)).client.remoteSends
        = c.remoteSends ++ rest := by
  intro c
  have hreleased : ∀ m ∈ n.loop.sorter.released, maxSpecialPort < m.destport := by
    intro m hm
    unfold MessageSorter.released at hm
    split_ifs at hm with hvalid
    · rw [List.mem_singleton.mp hm]
      exact h.held hvalid
    · exact absurd hm List.not_mem_nil
  have hcall' : calledFor n.client.callerid (incoming secret n.loop rx).invalidate.invalidate
      = some call := by
    rw [h.callerid]
    exact hcall
  rw [client_received, h.secret, turn_special hacc hport h.buf2, List.foldl_cons,
    handle_of_call hcall']
  exact foldl_handle_data hreleased _

variable {a b : StageDeviceId} (cls : PingClass) (t1 : TimeStamp) (ep addr : Endpoint)
  (clock : List UInt8 → ℚ) (locked : Bool)

theorem fits_pingPayload (id : StageDeviceId) :
    headerLen + (pingPayload cls id t1 ep).length ≤ bufSize := by
  have hle := length_pingPayload_le cls id t1 ep
  have h9 : headerLen = 9 := rfl
  have hbuf : bufSize = 8192 := rfl
  omega

/-- A peer answers a ping to the address it comes from. -/
theorem answer_sent (h : n.Running secret b) (hne : a ≠ b) :
    ∃ rest, (nodeStep L n (.received (some (header secret a cls.pingPort 0
        ++ pingPayload cls b t1 ep, addr)) clock locked)).client.remoteSends
      = n.client.remoteSends
        ++ ⟨addr, header secret b cls.pongPort 0 ++ pingPayload cls a t1 ep⟩ :: rest := by
  obtain ⟨raw, hacc, hincoming, hread⟩ := incoming_packed secret n.loop a cls.pingPort 0
    (fits_pingPayload cls t1 ep b) addr
  generalize some (header secret a cls.pingPort 0 ++ pingPayload cls b t1 ep, addr) = rx
    at hacc hincoming ⊢
  have hspecial : cls.pingPort ≤ maxSpecialPort := by cases cls <;> decide
  have hport : (incoming secret n.loop rx).destport ≤ maxSpecialPort := by
    rw [hincoming]
    exact hspecial
  have hcall : calledFor b (incoming secret n.loop rx).invalidate = some .processPingMsg := by
    rw [hincoming]
    unfold calledFor
    rw [if_neg fun hown => hne hown.1]
    cases cls <;> rfl
  obtain ⟨-, -, rest, hsends⟩ := client_received_control L clock locked h hacc hport hcall
  refine ⟨rest, hsends.trans ?_⟩
  have hanswer : (pongBuffer b (incoming secret n.loop rx).invalidate).read 0
      (headerLen + (pingPayload cls b t1 ep).length)
        = header secret b cls.pongPort 0 ++ pingPayload cls a t1 ep := by
    rw [hincoming]
    exact read_pongBuffer rfl rfl rfl hread
  have hpong : (processPingMsg n.client.callerid (incoming secret n.loop rx).invalidate).2
      = ⟨addr, header secret b cls.pongPort 0 ++ pingPayload cls a t1 ep⟩ := by
    rw [h.callerid, ← hanswer, Nat.add_comm headerLen]
    unfold processPingMsg
    rw [hincoming]
    rfl
  show n.client.remoteSends ++ [_] ++ rest = _
  rw [hpong, List.append_assoc]
  rfl

/-- The sender takes its time stamp out of the pong, and counts the time that has passed for
the peer. -/
theorem pong_counted (h : n.Running secret a) (hne : b ≠ a) :
    let n' := nodeStep L n (.received (some (header secret b cls.pongPort 0
      ++ pingPayload cls a t1 ep, addr)) clock locked)
    (∀ cls' dev, n'.client.collectors cls' dev
      = if cls' = cls ∧ dev = b ∧ 0 < clock t1.1 then
          (n.client.collectors cls' dev).addValue (clock t1.1)
        else n.client.collectors cls' dev)
    ∧ n'.client.pingReports = n.client.pingReports
      ++ if n.client.cbPing ∧ 0 < clock t1.1 then [⟨b, cls.pongPort, clock t1.1, addr⟩] else [] := by
  obtain ⟨raw, hacc, hincoming, hread⟩ := incoming_packed secret n.loop b cls.pongPort 0
    (fits_pingPayload cls t1 ep a) addr
  generalize some (header secret b cls.pongPort 0 ++ pingPayload cls a t1 ep, addr) = rx
    at hacc hincoming ⊢
  have hspecial : cls.pongPort ≤ maxSpecialPort := by cases cls <;> decide
  have hport : (incoming secret n.loop rx).destport ≤ maxSpecialPort := by
    rw [hincoming]
    exact hspecial
  have hcall : calledFor a (incoming secret n.loop rx).invalidate = some .processPongMsg := by
    rw [hincoming]
    unfold calledFor
    rw [if_neg fun hown => hne hown.1]
    cases cls <;> rfl
  obtain ⟨hcollectors, hreports, -⟩ :=
    client_received_control L clock locked h hacc hport hcall
  intro n'
  have htime : pongTime clock (incoming secret n.loop rx).invalidate = clock t1.1 := by
    rw [hincoming]
    exact pongTime_of_read (fits_pingPayload cls t1 ep a) hread
  have hclass : OvboxCounters.pongClass (incoming secret n.loop rx).invalidate.destport
      = some cls := by
    rw [hincoming]
    cases cls <;> rfl
  have hcid : (incoming secret n.loop rx).invalidate.cid = b := by rw [hincoming]; rfl
  have hperform : n.client.perform clock locked (incoming secret n.loop rx).invalidate
      .processPongMsg = if 0 < clock t1.1 then
        n.client.reportPing (incoming secret n.loop rx).invalidate (clock t1.1) else n.client := by
    show n.client.processPongMsg clock _ = _
    unfold ClientState.processPongMsg
    rw [htime]
  rw [hperform] at hcollectors hreports
  refine ⟨fun cls' dev => ?_, ?_⟩
  · rw [congrFun (congrFun hcollectors cls') dev]
    by_cases hpos : 0 < clock t1.1
    · rw [if_pos hpos, collectors_reportPing_class hclass, hcid]
      by_cases hcls : cls' = cls
      · subst hcls
        rw [Function.update_self]
        by_cases hdev : dev = b
        · rw [hdev, Function.update_self, if_pos ⟨rfl, rfl, hpos⟩]
        · rw [Function.update_of_ne hdev, if_neg fun h => hdev h.2.1]
      · rw [Function.update_of_ne hcls, if_neg fun h => hcls h.1]
    · rw [if_neg hpos, if_neg fun h => hpos h.2.2]
  · rw [hreports]
    by_cases hpos : 0 < clock t1.1
    · rw [if_pos hpos, pingReports_reportPing, hincoming]
      by_cases hcb : n.client.cbPing = true
      · rw [if_pos hcb, if_pos ⟨hcb, hpos⟩]
        rfl
      · rw [if_neg hcb, if_neg fun h => hcb h.1]
    · rw [if_neg hpos, if_neg fun h => hpos h.2, List.append_nil]

end Receive

/-! ## The round trip -/

/-- `1000.0 * (time_since_start() - t_send)`, for the numbers that the bytes of a time stamp
stand for. -/
def elapsedTime (value : List UInt8 → ℚ) (now : ℚ) (stamp : List UInt8) : ℚ :=
  1000 * (now - value stamp)

/-- What becomes of a ping of `a` to `b`, at any later time and whatever addresses the
messages seem to come from: `b` answers it, the pong finds its way to `a`, and there the
time that has passed since the stamp, if it is positive, is added to the collector of the
ping's way and of `b`, and reported for `b`. -/
def ComesBack (L : Sodium) (secret : Secret) (a b : StageDeviceId) (cls : PingClass)
    (t1 : TimeStamp) (ping : Datagram) : Prop :=
  (cls = .srv → relayTarget ping.data = some b) ∧
  ∀ B : ClientNode, B.Running secret b → ∀ addr clock locked, ∃ pong rest,
    (nodeStep L B (.received (some (ping.data, addr)) clock locked)).client.remoteSends
      = B.client.remoteSends ++ pong :: rest ∧
    pong.dest = addr ∧ (cls = .srv → relayTarget pong.data = some a) ∧
    ∀ A : ClientNode, A.Running secret a → ∀ addr' value now locked',
      let tms := elapsedTime value now t1.1
      let A' := nodeStep L A (.received (some (pong.data, addr')) (elapsedTime value now) locked')
      (∀ cls' dev, A'.client.collectors cls' dev
        = if cls' = cls ∧ dev = b ∧ 0 < tms then (A.client.collectors cls' dev).addValue tms
          else A.client.collectors cls' dev) ∧
      A'.client.pingReports = A.client.pingReports
        ++ if A.client.cbPing ∧ 0 < tms then [⟨b, cls.pongPort, tms, addr'⟩] else []

theorem relayTarget_ping (secret : Secret) (a b : StageDeviceId) (port : Port) (seq : Sequence)
    (t1 : TimeStamp) (ep : Endpoint) :
    relayTarget (header secret a port seq ++ pingPayload .srv b t1 ep) = some b := by
  unfold relayTarget
  rw [List.getElem?_append_right (length_header ..).le, length_header, Nat.sub_self]
  rfl

/-- A ping that `send_ping` builds comes back. -/
theorem comesBack_sendPing (L : Sodium) (s : OvboxUdpSocket) (buffer : Buffer pingbufsize)
    (ep : Endpoint) {b : StageDeviceId} (hb : b ≠ s.callerid) (cls : PingClass) (t1 : TimeStamp) :
    ComesBack L s.secret s.callerid b cls t1 (s.sendPing buffer ep b cls.pingPort t1).1 := by
  rw [(sendPing_eq s buffer ep b cls t1).1]
  refine ⟨?_, ?_⟩
  · rintro rfl
    exact relayTarget_ping ..
  · intro B hB addr clock locked
    obtain ⟨rest, hsends⟩ := answer_sent (L := L) cls t1 ep addr clock locked hB hb.symm
    generalize hpong : (⟨addr, header s.secret b cls.pongPort 0
      ++ pingPayload cls s.callerid t1 ep⟩ : Datagram) = pong at hsends
    have hdata : pong.data
        = header s.secret b cls.pongPort 0 ++ pingPayload cls s.callerid t1 ep := by rw [← hpong]
    refine ⟨pong, rest, hsends, by rw [← hpong], ?_, ?_⟩
    · rintro rfl
      rw [hdata]
      exact relayTarget_ping ..
    · intro A hA addr' value now locked'
      have hcounted := pong_counted (L := L) cls t1 ep addr' (elapsedTime value now) locked' hA hb
      rw [← hdata] at hcounted
      exact hcounted

theorem other_of_mem_pingWays {c : ClientState} {i : Fin maxStageId} {cls : PingClass}
    (h : cls ∈ c.pingWays i) : deviceId i ≠ c.callerid := by
  intro hown
  unfold ClientState.pingWays at h
  rw [if_neg fun hping => hping.2 hown] at h
  exact absurd h List.not_mem_nil

/-- Every ping that `send_ping` builds for another device comes back as a sample; and each
ping of the service is one of these, counted in the collector that its sample is added to. -/
theorem ping_round_trip (L : Sodium) :
    (∀ (s : OvboxUdpSocket) (buffer : Buffer pingbufsize) (ep : Endpoint) (b : StageDeviceId)
        (cls : PingClass) (t1 : TimeStamp), b ≠ s.callerid →
      ComesBack L s.secret s.callerid b cls t1 (s.sendPing buffer ep b cls.pingPort t1).1) ∧
    ∀ (c : ClientState) (rver : List UInt8) (buffer : Buffer pingbufsize)
        (stamps : Fin maxStageId → PingClass → TimeStamp) (i : Fin maxStageId) (cls : PingClass),
      c.remoteServer.callerid = c.callerid → cls ∈ c.pingWays i →
      let c' := c.pingservice rver buffer stamps
      (∃ new, c'.remoteSends = c.remoteSends ++ new ∧
        ∃ ping ∈ new, ComesBack L c.remoteServer.secret c.callerid (deviceId i) cls
          (stamps i cls) ping) ∧
      (c'.collectors cls (deviceId i)).sent = (c.collectors cls (deviceId i)).sent + 1 := by
  refine ⟨fun s buffer ep b cls t1 hb => comesBack_sendPing L s buffer ep hb cls t1, ?_⟩
  intro c rver buffer stamps i cls hid hway c'
  obtain ⟨hsends, hcount⟩ := pingservice_spec buffer stamps c rver
  obtain ⟨hsecret, hsender⟩ := remoteServer_register c rver
  have hother : deviceId i ≠ (c.register rver).remoteServer.callerid := by
    rw [hsender, hid]
    exact other_of_mem_pingWays hway
  refine ⟨⟨_, hsends.trans (List.append_assoc ..), (c.register rver).pingTo stamps i cls, ?_, ?_⟩,
    ?_⟩
  · refine List.mem_append_right _ (List.mem_flatMap.mpr ⟨i, List.mem_finRange i, ?_⟩)
    exact List.mem_map_of_mem hway
  · have hback := comesBack_sendPing L (c.register rver).remoteServer buffer
      ((c.register rver).pingAddress i cls) hother cls (stamps i cls)
    rw [hsecret, hsender, hid, (sendPing_eq _ _ _ _ cls _).1] at hback
    exact hback
  · rw [hcount i cls, if_pos hway]

/-- A ping of the device `1` through the relay server, answered by the device `2` and
counted a second later. -/
theorem ping_round_trip_second :
    let idle2 : ClientState := { ClientState.idle with callerid := 2 }
    let fresh := SendsrvLoop.fresh Endpoint.cleared Endpoint.cleared Endpoint.cleared
    let ping := (ClientState.idle.remoteServer.sendPing (Buffer.zero _) Endpoint.cleared 2
      PingClass.srv.pingPort (Buffer.zero _)).1
    ∃ pong rest,
      (nodeStep Sodium.padding ⟨idle2, fresh⟩ (.received (some (ping.data, Endpoint.cleared))
        (fun _ => 0) true)).client.remoteSends = pong :: rest ∧
      (nodeStep Sodium.padding ⟨ClientState.idle, fresh⟩ (.received
        (some (pong.data, Endpoint.cleared)) (elapsedTime (fun _ => 0) 1) true)).client.collectors
          .srv 2 = (PingStatCollector.init 2048).addValue 1000 := by
  intro idle2 fresh ping
  obtain ⟨-, hback⟩ := (ping_round_trip Sodium.padding).1 ClientState.idle.remoteServer
    (Buffer.zero _) Endpoint.cleared 2 .srv (Buffer.zero _) (by decide)
  obtain ⟨pong, rest, hsends, -, -, hcount⟩ := hback ⟨idle2, fresh⟩
    (running_fresh idle2 Endpoint.cleared Endpoint.cleared Endpoint.cleared) Endpoint.cleared
    (fun _ => 0) true
  have hsample := (hcount ⟨ClientState.idle, fresh⟩ (running_fresh ClientState.idle
    Endpoint.cleared Endpoint.cleared Endpoint.cleared) Endpoint.cleared (fun _ => 0) 1 true).1
      .srv 2
  have htms : elapsedTime (fun _ => 0) 1 (Buffer.zero 8).1 = 1000 := by norm_num [elapsedTime]
  refine ⟨pong, rest, hsends, ?_⟩
  rw [hsample, htms, if_pos ⟨rfl, rfl, by norm_num⟩]
  rfl

end Libov
