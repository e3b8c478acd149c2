/-
# A client between its threads (`ovboxclient_t`)

The thread `sendsrv` receives and handles messages, the forwarding threads send local
payloads, and `checkstatus` watches the endpoints.  They share the client.

* `ClientState`: what the threads share, with what has been sent and reported so far;
* `processPingMsg`, `processPongMsg`, `getPingtime`: the functions behind the reserved
  ports of pings;
* `handle`: a delivered message with everything it does;
* `ClientNode`, `nodeStep`: the client with the sorter and the receive buffer of `sendsrv`,
  and the steps of its threads.

The clock is an argument of a step: what `1000.0 * (time_since_start() - t_send)` is at the
time of the step, for the eight bytes of `t_send`.
-/
import Libov.CallerList
import Libov.ClientStats
import Libov.ForwardingSpec
import Libov.PackedMessages

open Runs

namespace Libov

/-! ## The client -/

/-- The arguments of the ping callback `cb_ping`. -/
structure PingReport where
  cid : StageDeviceId
  destport : Port
  tms : ℚ
  sender : Endpoint
  deriving DecidableEq

/-- The members of `ovboxclient_t` and of its base class that its threads share.
`endpointList` is the base class `endpoint_list_t`; `outside` is what an index behind its
table gives.  The last three members collect what has gone out. -/
structure ClientState where
  remoteServer : OvboxUdpSocket
  /-- `remote_server.recipient_public` -/
  recipientPublic : PublicKey
  /-- `remote_server.recipient_secret` -/
  recipientSecret : SecretKey
  /-- destination of `local_server` -/
  localServer : Endpoint
  localep : Endpoint
  toport : Port
  recport : Port
  portoffset : Port
  callerid : StageDeviceId
  mode : Epmode
  sendlocal : Bool
  xdest : List Port
  proxyclients : List (StageDeviceId × Endpoint)
  decryptedMsg : Buffer bufSize
  endpointList : EndpointList
  outside : EpDesc
  collectors : PingClass → StageDeviceId → PingStatCollector
  /-- a function is set as `cb_ping` -/
  cbPing : Bool
  /-- the local variables of the forwarding threads -/
  threads : ℕ → ThreadState
  /-- datagrams of `local_server` -/
  localSends : List Datagram
  /-- datagrams of `remote_server` -/
  remoteSends : List Datagram
  /-- calls of `cb_ping` -/
  pingReports : List PingReport

/-- The endpoint table as the forwarding threads read it. -/
def EndpointList.table (l : EndpointList) : EndpointTable :=
  ⟨List.ofFn fun i => (l.endpoints i).toEpDesc, List.length_ofFn⟩

namespace ClientState

/-- What the forwarding threads read of the client. -/
def client (c : ClientState) : OvboxClient where
  remoteServer := c.remoteServer
  toport := c.toport
  recport := c.recport
  portoffset := c.portoffset
  callerid := c.callerid
  mode := c.mode
  sendlocal := c.sendlocal
  endpoints := c.endpointList.table
  outside := c.outside
  srvHasPubkey := c.endpointList.srvHasPubkey
  srvPubkey := c.endpointList.srvPubkey

/-- What `process_msg` reads of the client. -/
def receiver (c : ClientState) : Receiver where
  client := c.client
  recipientPublic := c.recipientPublic
  recipientSecret := c.recipientSecret
  localServer := c.localServer
  localep := c.localep
  xdest := c.xdest
  proxyclients := c.proxyclients
  decryptedMsg := c.decryptedMsg

/-- The client behind what `process_msg` does itself. -/
def behind (c : ClientState) (p : Processed) : ClientState :=
  { c with
    decryptedMsg := p.receiver.decryptedMsg
    proxyclients := p.receiver.proxyclients
    localSends := c.localSends ++ p.localSends
    remoteSends := c.remoteSends ++ p.remoteSends }

end ClientState

/-! ## Pings -/

/-- The raw buffer of a ping message, made into the pong message. -/
def pongBuffer (callerid : StageDeviceId) (m : MsgBuf) : Buffer bufSize :=
  let b := m.rawbuffer.write 4 [callerid]
  if m.destport = portPing then b.write 5 (leBytes 2 portPong.toNat)
  else if m.destport = portPingSrv then
    -- the id of the sender goes in front of the payload
    (b.write 5 (leBytes 2 portPongSrv.toNat)).write m.msg [m.cid]
  else if m.destport = portPingLocal then b.write 5 (leBytes 2 portPongLocal.toNat)
  else b

/-- `process_ping_msg`: the message behind, and the datagram to its sender. -/
def processPingMsg (callerid : StageDeviceId) (m : MsgBuf) : MsgBuf × Datagram :=
  let b := pongBuffer callerid m
  ({ m with rawbuffer := b }, sendEp (b.read 0 (m.size + headerLen)) m.sender)

/-- `ovbox_udpsocket_t::get_pingtime` on the bytes from `tbuf` on. -/
def getPingtime (clock : List UInt8 → ℚ) (rawbuffer : Buffer bufSize) (tbuf tsize : ℕ) : ℚ :=
  if 8 ≤ tsize then clock (rawbuffer.read tbuf 8) else -1

/-- The ping time of a pong message.  `tsize` is a `size_t`. -/
def pongTime (clock : List UInt8 → ℚ) (m : MsgBuf) : ℚ :=
  if m.destport = portPongSrv then
    getPingtime clock m.rawbuffer (m.msg + 1) (sizeSub m.size 1)
  else getPingtime clock m.rawbuffer m.msg m.size

namespace ClientState

/-- Change one collector. -/
def onCollector (c : ClientState) (cls : PingClass) (cid : StageDeviceId)
    (f : PingStatCollector → PingStatCollector) : ClientState :=
  { c with
    collectors := Function.update c.collectors cls
      (Function.update (c.collectors cls) cid (f (c.collectors cls cid))) }

/-- What `process_pong_msg` does with the ping time. -/
def reportPing (c : ClientState) (m : MsgBuf) (tms : ℚ) : ClientState :=
  let c := if c.cbPing then
      { c with pingReports := c.pingReports ++ [⟨m.cid, m.destport, tms, m.sender⟩] }
    else c
  match OvboxCounters.pongClass m.destport with
  | some cls => c.onCollector cls m.cid fun p => p.addValue tms
  | none => c

/-- `process_pong_msg`. -/
def processPongMsg (c : ClientState) (clock : List UInt8 → ℚ) (m : MsgBuf) : ClientState :=
  if 0 < pongTime clock m then c.reportPing m (pongTime clock m) else c

/-- The function that a reserved port stands for. -/
def perform (c : ClientState) (clock : List UInt8 → ℚ) (locked : Bool) (m : MsgBuf) :
    ControlCall → ClientState
  | .processPingMsg =>
      { c with remoteSends := c.remoteSends ++ [(Libov.processPingMsg c.callerid m).2] }
  | .processPongMsg => c.processPongMsg clock m
  | .cidSetlocalip cid msg => { c with endpointList := c.endpointList.cidSetlocalip cid msg }
  | .cidRegister cid msg mode =>
      { c with endpointList := c.endpointList.cidRegister cid msg mode "" locked }
  | .cidSetPubkey cid msg => { c with endpointList := c.endpointList.cidSetPubkey cid msg }

end ClientState

/-- `process_msg` with everything it does. -/
def handle (L : Sodium) (clock : List UInt8 → ℚ) (locked : Bool) (c : ClientState)
    (m : MsgBuf) : ClientState :=
  let p := processMsg L c.receiver m
  match p.call with
  | some call => (c.behind p).perform clock locked p.msg call
  | none => c.behind p

section Handle

variable {L : Sodium} {clock : List UInt8 → ℚ} {locked : Bool} {c : ClientState} {m : MsgBuf}

/-- A message for a reserved port is handed to its function, and that is all. -/
theorem handle_of_call {call : ControlCall} (h : calledFor c.callerid m.invalidate = some call) :
    handle L clock locked c m = c.perform clock locked m.invalidate call := by
  have hprocessed : processMsg L c.receiver m = ⟨m.invalidate, c.receiver, [], [], some call⟩ :=
    processMsg_of_call (B := c.receiver) h
  have hbehind : c.behind ⟨m.invalidate, c.receiver, [], [], some call⟩ = c := by
    unfold ClientState.behind
    simp only [List.append_nil]
    rfl
  unfold handle
  simp only [hprocessed, hbehind]

/-- Other messages are forwarded or dropped. -/
theorem handle_of_not_called (h : calledFor c.callerid m.invalidate = none) :
    handle L clock locked c m = c.behind (processMsg L c.receiver m) := by
  have hcall : (processMsg L c.receiver m).call = none :=
    (call_processMsg L c.receiver m).trans h
  unfold handle
  simp only [hcall]

variable (clock c m) in
/-- A pong adds to the collectors and to the reports, and that is all. -/
theorem processPongMsg_eq : ∃ collectors reports, c.processPongMsg clock m
    = { c with collectors := collectors, pingReports := reports } := by
  unfold ClientState.processPongMsg ClientState.reportPing
  dsimp only
  split_ifs
  · cases OvboxCounters.pongClass m.destport <;> exact ⟨_, _, rfl⟩
  · cases OvboxCounters.pongClass m.destport <;> exact ⟨_, _, rfl⟩
  · exact ⟨_, _, rfl⟩

/-- What no message changes. -/
theorem handle_fixed : (handle L clock locked c m).remoteServer = c.remoteServer ∧
    (handle L clock locked c m).callerid = c.callerid := by
  cases hcall : calledFor c.callerid m.invalidate with
  | none =>
      rw [handle_of_not_called hcall]
      exact ⟨rfl, rfl⟩
  | some call =>
      rw [handle_of_call hcall]
      cases call with
      | processPongMsg =>
          obtain ⟨collectors, reports, hpong⟩ := processPongMsg_eq clock c m.invalidate
          unfold ClientState.perform
          rw [hpong]
          exact ⟨rfl, rfl⟩
      | _ => exact ⟨rfl, rfl⟩

variable (L clock locked) in
theorem foldl_handle_fixed (ms : List MsgBuf) (c : ClientState) :
    (ms.foldl (handle L clock locked) c).remoteServer = c.remoteServer ∧
      (ms.foldl (handle L clock locked) c).callerid = c.callerid := by
  induction ms generalizing c with
  | nil => exact ⟨rfl, rfl⟩
  | cons m ms ih =>
      obtain ⟨hserver, hid⟩ := ih (handle L clock locked c m)
      exact ⟨hserver.trans handle_fixed.1, hid.trans handle_fixed.2⟩

end Handle

/-! ## Steps -/

/-- The client, and the sorter and the receive buffer of `sendsrv`. -/
structure ClientNode where
  client : ClientState
  loop : SendsrvLoop

/-- A step of one of the threads.  `locked` is the outcome of `mstat.try_lock()`, `keys` is
what the memory of the keys holds when entries are reset. -/
inductive NodeEvent where
  | received (rx : Received) (clock : List UInt8 → ℚ) (locked : Bool)
  | checkstatus (keys : Fin maxStageId → PublicKey)
  /-- a payload at the local socket of a forwarding thread -/
  | payload (thread : ℕ) (th : Thread) (payload : List UInt8)

/-- The receive buffer behind `process_msg`: a ping is answered from within it. -/
def msgBehind (callerid : StageDeviceId) (m : MsgBuf) : MsgBuf :=
  if calledFor callerid m = some .processPingMsg then (processPingMsg callerid m).1 else m

/-- A turn of `sendsrv`. -/
def ClientNode.receive (L : Sodium) (n : ClientNode) (rx : Received) (clock : List UInt8 → ℚ)
    (locked : Bool) : ClientNode :=
  let secret := n.client.remoteServer.secret
  let r := turn secret n.loop rx
  { client := r.1.foldl (handle L clock locked) n.client
    loop := { r.2 with
      msg := if Accepted secret n.loop rx then msgBehind n.client.callerid r.2.msg
        else r.2.msg } }

/-- A payload in a forwarding thread. -/
def ClientState.forwardPayload (L : Sodium) (c : ClientState) (thread : ℕ) (th : Thread)
    (payload : List UInt8) : ClientState :=
  let r := forward L c.client (c.threads thread) payload th
  { c with
    remoteServer := r.2.2
    threads := Function.update c.threads thread r.2.1
    remoteSends := c.remoteSends ++ r.1.sends.map Sent.datagram }

/-- One step. -/
def nodeStep (L : Sodium) (n : ClientNode) : NodeEvent → ClientNode
  | .received rx clock locked => n.receive L rx clock locked
  | .checkstatus keys =>
      { n with client := { n.client with
          endpointList := n.client.endpointList.checkstatus keys } }
  | .payload thread th payload =>
      { n with client := n.client.forwardPayload L thread th payload }

section Receive

variable (L : Sodium) (n : ClientNode) (rx : Received) (clock : List UInt8 → ℚ) (locked : Bool)

theorem client_received : (nodeStep L n (.received rx clock locked)).client =
    (turn n.client.remoteServer.secret n.loop rx).1.foldl (handle L clock locked) n.client := rfl

theorem sorter_received : (nodeStep L n (.received rx clock locked)).loop.sorter =
    (loopStep n.client.remoteServer.secret n.loop rx).sorter := rfl

end Receive

/-! ## What is kept between the steps -/

/-- Forwarding a payload changes nothing of the socket but its numbers. -/
theorem secret_forward (L : Sodium) (c : OvboxClient) (t : ThreadState) (payload : List UInt8)
    (th : Thread) : (forward L c t payload th).2.2.secret = c.remoteServer.secret := by
  have hpack : ∀ (b : Buffer bufSize) (port : Port),
      (c.remoteServer.packmsg b bufSize port payload).2.secret = c.remoteServer.secret := by
    intro b port
    unfold OvboxUdpSocket.packmsg
    dsimp only
    split_ifs
    · rfl
    · rfl
  cases th with
  | recsrv =>
      show (recsrv L c t payload).2.2.secret = _
      unfold recsrv
      by_cases hlen : 0 < payload.length
      · rw [if_pos hlen]
        exact hpack t.msg _
      · rw [if_neg hlen]
  | xrecsrv destport =>
      show (xrecsrv L c destport t payload).2.2.secret = _
      unfold xrecsrv
      by_cases hlen : 0 < payload.length
      · rw [if_pos hlen]
        exact hpack t.msg _
      · rw [if_neg hlen]

/-- What holds between the steps: the session is the same, nothing waits in the second
buffer of the sorter, and only data messages are held back. -/
structure ClientNode.Running (secret : Secret) (callerid : StageDeviceId) (n : ClientNode) :
    Prop where
  secret : n.client.remoteServer.secret = secret
  callerid : n.client.callerid = callerid
  buf2 : n.loop.sorter.buf2.valid = false
  held : n.loop.sorter.buf1.valid = true → maxSpecialPort < n.loop.sorter.buf1.destport

theorem running_step {secret : Secret} {callerid : StageDeviceId} (L : Sodium) (n : ClientNode)
    (e : NodeEvent) (h : n.Running secret callerid) : (nodeStep L n e).Running secret callerid := by
  obtain ⟨hsecret, hid, hbuf2, hheld⟩ := h
  cases e with
  | received rx clock locked =>
      obtain ⟨hserver, hid'⟩ := foldl_handle_fixed L clock locked
        (turn n.client.remoteServer.secret n.loop rx).1 n.client
      refine ⟨(congrArg OvboxUdpSocket.secret hserver).trans hsecret, hid'.trans hid,
        buf2_invalid_loopStep hbuf2, ?_⟩
      rw [sorter_received]
      rcases turn_cases n.client.remoteServer.secret rx hbuf2 with ⟨-, -, hs⟩ | ⟨-, -, -, hs⟩ |
        ⟨hback, -, hs⟩ | ⟨-, -, -, -, hs⟩ | ⟨-, -, -, -, hs⟩
      · rw [hs]
        exact hheld
      · rw [hs, MessageSorter.buf1_invalid_flush]
        exact fun h => absurd h Bool.false_ne_true
      · rw [hs]
        exact fun _ => hback.2.1
      · rw [hs]
        exact fun h => absurd h Bool.false_ne_true
      · rw [hs, MessageSorter.buf1_invalid_pass]
        exact fun h => absurd h Bool.false_ne_true
  | checkstatus keys => exact ⟨hsecret, hid, hbuf2, hheld⟩
  | payload thread th payload => exact ⟨(secret_forward ..).trans hsecret, hid, hbuf2, hheld⟩

/-- A control message is delivered at once. -/
theorem turn_special {secret : Secret} {x : SendsrvLoop} {rx : Received}
    (hacc : Accepted secret x rx) (hport : (incoming secret x rx).destport ≤ maxSpecialPort)
    (hbuf2 : x.sorter.buf2.valid = false) :
    (turn secret x rx).1 = (incoming secret x rx).invalidate :: x.sorter.released := by
  rw [(turn_accepted hacc).1, feed_eq_special (incoming_accepted hacc).1 hport hbuf2]

/-- The data messages among those delivered: all but a control message that has just been
received. -/
theorem data_of_delivered (secret : Secret) {x : SendsrvLoop} (rx : Received)
    (hbuf2 : x.sorter.buf2.valid = false)
    (hheld : x.sorter.buf1.valid = true → maxSpecialPort < x.sorter.buf1.destport) :
    (∀ m ∈ (turn secret x rx).1, maxSpecialPort < m.destport) ∨
      (Accepted secret x rx ∧ (incoming secret x rx).destport ≤ maxSpecialPort ∧
        (turn secret x rx).1 = (incoming secret x rx).invalidate :: x.sorter.released ∧
        ∀ m ∈ x.sorter.released, maxSpecialPort < m.destport) := by
  have hreleased : ∀ m ∈ x.sorter.released, maxSpecialPort < m.destport := by
    intro m hm
    unfold MessageSorter.released at hm
    split_ifs at hm with hvalid
    · rw [List.mem_singleton.mp hm]
      exact hheld hvalid
    · exact absurd hm List.not_mem_nil
  rcases turn_cases secret rx hbuf2 with ⟨-, hlist, -⟩ | ⟨hacc, hport, hlist, -⟩ |
    ⟨-, hlist, -⟩ | ⟨-, ⟨hport, -⟩, hswap, hlist, -⟩ | ⟨-, ⟨hport, -⟩, -, hlist, -⟩
  · rw [hlist]
    exact Or.inl fun m hm => absurd hm List.not_mem_nil
  · exact Or.inr ⟨hacc, hport, hlist, hreleased⟩
  · rw [hlist]
    exact Or.inl fun m hm => absurd hm List.not_mem_nil
  · rw [hlist]
    refine Or.inl (List.forall_mem_cons.mpr ⟨hheld hswap.2.1, ?_⟩)
    exact List.forall_mem_cons.mpr ⟨hport, fun m hm => absurd hm List.not_mem_nil⟩
  · rw [hlist]
    exact Or.inl (List.forall_mem_cons.mpr ⟨hport, hreleased⟩)

end Libov
