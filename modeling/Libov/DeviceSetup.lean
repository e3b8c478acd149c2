/-
# What the steps of a device keep

No step of a device changes who it is, which ports it serves and which keys it has; and the
numbers of its messages to a port change with the payloads for that port only.

* `SameFor` : a socket that sends to a port as before;
* `SameIdentity`, `SameDevice` : a client that is the same, and sends to a port as before;
* `sameDevice_step` : all steps but the payloads for the port;
* `sameIdentity_forwardPayload` : a payload for the port takes the next number;
* `exists_sent_to_peer` : who gets a datagram for a payload.
-/
import Libov.SessionDevices

open Runs

namespace Libov

/-! ## Sockets -/

/-- The socket sends to the port as before. -/
structure SameFor (p : Port) (s s' : OvboxUdpSocket) : Prop where
  secret : s'.secret = s.secret
  callerid : s'.callerid = s.callerid
  last : s'.seqmap.at p = s.seqmap.at p

section Sockets

variable {p : Port} {s s' s'' : OvboxUdpSocket}

/-- A socket is in the same place for a port as itself. -/
theorem SameFor.refl (p : Port) (s : OvboxUdpSocket) : SameFor p s s := ⟨rfl, rfl, rfl⟩

/-- Calls one after the other do not touch the numbers of a port if none of them does. -/
theorem SameFor.trans (h : SameFor p s s') (h' : SameFor p s' s'') : SameFor p s s'' :=
  ⟨h'.secret.trans h.secret, h'.callerid.trans h.callerid, h'.last.trans h.last⟩

/-- A number that is set is the one of its port only. -/
theorem SequenceMap.at_set (seqmap : SequenceMap) (port p : Port) (seq : Sequence) :
    (seqmap.set port seq).at p = if p = port then seq else seqmap.at p := by
  unfold SequenceMap.at SequenceMap.set
  by_cases hp : p = port
  · subst hp
    rw [Function.update_self, if_pos rfl, Option.getD_some]
  · rw [Function.update_of_ne hp, if_neg hp]

/-- Packing a message for another port. -/
theorem sameFor_packmsg {n : ℕ} (s : OvboxUdpSocket) (destbuf : Buffer n) (maxlen : ℕ)
    {destport : Port} (msg : List UInt8) (hport : p ≠ destport) :
    SameFor p s (s.packmsg destbuf maxlen destport msg).2 := by
  unfold OvboxUdpSocket.packmsg
  dsimp only
  split_ifs
  · exact ⟨rfl, rfl, by rw [SequenceMap.at_set, if_neg hport]⟩
  · exact ⟨rfl, rfl, by rw [SequenceMap.at_set, if_neg hport]⟩

/-- Packing a message for a data port takes the next number, whether the message fits or not. -/
theorem at_packmsg {n : ℕ} (s : OvboxUdpSocket) (destbuf : Buffer n) (maxlen : ℕ)
    (msg : List UInt8) (hport : maxSpecialPort ≤ p) :
    (s.packmsg destbuf maxlen p msg).2.seqmap.at p = s.seqmap.at p + 1 := by
  unfold OvboxUdpSocket.packmsg
  dsimp only
  rw [if_pos hport, SequenceMap.at_set, if_pos rfl]

/-- Sending does not count. -/
theorem sameFor_sendTo (p : Port) (s : OvboxUdpSocket) (data : List UInt8) (portno : Port) :
    SameFor p s (s.sendTo data portno).2 := by
  unfold OvboxUdpSocket.sendTo
  dsimp only
  split_ifs
  · exact SameFor.refl p s
  · exact ⟨rfl, rfl, rfl⟩

/-- A message for another port leaves the numbers of this one. -/
theorem sameFor_packAndSendTo (s : OvboxUdpSocket) {destport : Port} (msg : List UInt8)
    (portno : Port) (hport : p ≠ destport) :
    SameFor p s (s.packAndSendTo destport msg portno).2 :=
  (sameFor_packmsg s _ _ msg hport).trans (sameFor_sendTo p _ _ portno)

/-- So does a message that is sent only where it fits. -/
theorem sameFor_packAndSend (s : OvboxUdpSocket) {destport : Port} (msg : List UInt8)
    (portno : Port) (hport : p ≠ destport) :
    SameFor p s (s.packAndSend destport msg portno).2 := by
  have hpack := sameFor_packmsg s (Buffer.zero bufSize) bufSize msg hport
  unfold OvboxUdpSocket.packAndSend
  dsimp only
  split_ifs
  · exact hpack
  · exact hpack.trans (sameFor_sendTo p _ _ portno)

/-- A data port is none of the reserved ones. -/
theorem ne_of_special (hp : maxSpecialPort < p) {port : Port} (hport : port ≤ maxSpecialPort) :
    p ≠ port := by
  rintro rfl
  exact absurd hp (UInt16.not_lt.mpr hport)

/-- A registration uses reserved ports only, and so leaves the numbers of the other ones. -/
theorem sameFor_sendRegistration (hp : maxSpecialPort < p) (s : OvboxUdpSocket)
    (key : PublicKey) (rver : List UInt8) (mode : Epmode) (port : Port) (localep : Endpoint) :
    SameFor p s (s.sendRegistration key rver mode port localep).2 := by
  have hlocalip : p ≠ portSetlocalip := ne_of_special hp (by decide)
  have hpubkey : p ≠ portPubkey := ne_of_special hp (by decide)
  unfold OvboxUdpSocket.sendRegistration
  dsimp only
  generalize (Libov.packmsg _ _ _ _ _ _ _).1.read 0 _ = register
  have hsent := sameFor_sendTo p s register port
  have hlocal := sameFor_packAndSendTo (s.sendTo register port).2 localep.toBytes port hlocalip
  exact (hsent.trans hlocal).trans (sameFor_packAndSendTo _ key.1 port hpubkey)

/-- So does a ping. -/
theorem sameFor_sendPing (hp : maxSpecialPort < p) (s : OvboxUdpSocket)
    (buffer : Buffer pingbufsize) (ep : Endpoint) (destid : StageDeviceId) (cls : PingClass)
    (t1 : TimeStamp) : SameFor p s (s.sendPing buffer ep destid cls.pingPort t1).2 := by
  refine sameFor_packmsg s buffer pingbufsize [] (ne_of_special hp ?_)
  cases cls <;> decide

/-- What is left of the socket behind a payload. -/
theorem socket_forward (L : Sodium) (c : OvboxClient) (t : ThreadState) (payload : List UInt8)
    (th : Thread) : (forward L c t payload th).2.2
      = if 0 < payload.length then
          (c.remoteServer.packmsg t.msg bufSize (th.packPort c) payload).2
        else c.remoteServer := by
  cases th with
  | recsrv =>
      show (recsrv L c t payload).2.2 = _
      unfold recsrv
      by_cases hlen : 0 < payload.length
      · rw [if_pos hlen, if_pos hlen]
        rfl
      · rw [if_neg hlen, if_neg hlen]
  | xrecsrv destport =>
      show (xrecsrv L c destport t payload).2.2 = _
      unfold xrecsrv
      by_cases hlen : 0 < payload.length
      · rw [if_pos hlen, if_pos hlen]
        rfl
      · rw [if_neg hlen, if_neg hlen]

end Sockets

/-! ## Clients -/

/-- The client is the same: its session, its id, its keys, its ports and its mode. -/
structure SameIdentity (c c' : ClientState) : Prop where
  secret : c'.remoteServer.secret = c.remoteServer.secret
  sender : c'.remoteServer.callerid = c.remoteServer.callerid
  member : c'.member = c.member
  mode : c'.mode = c.mode
  recport : c'.recport = c.recport

/-- The client is the same, and sends to the port as before. -/
structure SameDevice (p : Port) (c c' : ClientState) : Prop extends SameIdentity c c' where
  last : c'.remoteServer.seqmap.at p = c.remoteServer.seqmap.at p

section Clients

variable {L : Sodium} {p : Port} {c c' c'' : ClientState}

/-- A client is the same device as itself. -/
theorem SameIdentity.refl (c : ClientState) : SameIdentity c c := ⟨rfl, rfl, rfl, rfl, rfl⟩

/-- It stays the same device through calls that each keep it. -/
theorem SameIdentity.trans (h : SameIdentity c c') (h' : SameIdentity c' c'') :
    SameIdentity c c'' :=
  ⟨h'.secret.trans h.secret, h'.sender.trans h.sender, h'.member.trans h.member,
    h'.mode.trans h.mode, h'.recport.trans h.recport⟩

/-- Device and numbers are those of the client itself. -/
theorem SameDevice.refl (p : Port) (c : ClientState) : SameDevice p c c :=
  ⟨SameIdentity.refl c, rfl⟩

/-- They stay through calls that each keep them. -/
theorem SameDevice.trans (h : SameDevice p c c') (h' : SameDevice p c' c'') :
    SameDevice p c c'' :=
  ⟨h.toSameIdentity.trans h'.toSameIdentity, h'.last.trans h.last⟩

/-- A step that changes nothing of this but the socket. -/
theorem SameFor.device (h : SameFor p c.remoteServer c'.remoteServer)
    (hmember : c'.member = c.member) (hmode : c'.mode = c.mode)
    (hrecport : c'.recport = c.recport) : SameDevice p c c' :=
  ⟨⟨h.secret, h.callerid, hmember, hmode, hrecport⟩, h.last⟩

/-- Nothing that a client receives changes which device it is, or the numbers that it sends with. -/
theorem sameDevice_handle (p : Port) (clock : List UInt8 → ℚ) (locked : Bool) (c : ClientState)
    (m : MsgBuf) : SameDevice p c (handle L clock locked c m) := by
  cases hcall : calledFor c.callerid m.invalidate with
  | none =>
      rw [handle_of_not_called hcall]
      exact ⟨⟨rfl, rfl, rfl, rfl, rfl⟩, rfl⟩
  | some call =>
      rw [handle_of_call hcall]
      cases call with
      | processPongMsg =>
          obtain ⟨collectors, reports, hpong⟩ := processPongMsg_eq clock c m.invalidate
          unfold ClientState.perform
          rw [hpong]
          exact ⟨⟨rfl, rfl, rfl, rfl, rfl⟩, rfl⟩
      | _ => exact ⟨⟨rfl, rfl, rfl, rfl, rfl⟩, rfl⟩

/-- The same holds of several messages. -/
theorem sameDevice_foldl_handle (p : Port) (clock : List UInt8 → ℚ) (locked : Bool)
    (ms : List MsgBuf) (c : ClientState) :
    SameDevice p c (ms.foldl (handle L clock locked) c) := by
  induction ms generalizing c with
  | nil => exact SameDevice.refl p c
  | cons m ms ih => exact (sameDevice_handle p clock locked c m).trans (ih _)

/-- A turn of `pingservice` counts reserved ports only. -/
theorem sameDevice_pingservice (hp : maxSpecialPort < p) (c : ClientState) (rver : List UInt8)
    (buffer : Buffer pingbufsize) (stamps : Fin maxStageId → PingClass → TimeStamp) :
    SameDevice p c (c.pingservice rver buffer stamps) := by
  have hping : ∀ (c : ClientState) ep ocid cls t1,
      SameDevice p c (c.sendPing buffer ep ocid cls t1) := fun c ep ocid cls t1 =>
    (sameFor_sendPing hp c.remoteServer buffer ep ocid cls t1).device rfl rfl rfl
  have hpeer : ∀ (c : ClientState) k, SameDevice p c (c.pingPeer buffer stamps k) := by
    intro c k
    unfold ClientState.pingPeer
    dsimp only
    split_ifs
    · exact ((hping ..).trans (hping ..)).trans (hping ..)
    · exact (hping ..).trans (hping ..)
    · exact SameDevice.refl p c
  have hpeers : ∀ (ks : List (Fin maxStageId)) (c : ClientState),
      SameDevice p c (ks.foldl (ClientState.pingPeer buffer stamps) c) := by
    intro ks
    induction ks with
    | nil => exact fun c => SameDevice.refl p c
    | cons k ks ih => exact fun c => (hpeer c k).trans (ih _)
  have hregister : SameDevice p c (c.register rver) :=
    (sameFor_sendRegistration hp c.remoteServer c.recipientPublic rver c.mode c.toport
      c.localep).device rfl rfl rfl
  exact hregister.trans (hpeers _ _)

/-- So does a report of latencies. -/
theorem sameDevice_announceLatency (hp : maxSpecialPort < p) (c : ClientState)
    (double : ℚ → TimeStamp) (cid : StageDeviceId) (p2p : PingStat) :
    SameDevice p c (c.announceLatency double cid p2p) := by
  unfold ClientState.announceLatency
  split_ifs
  · exact SameDevice.refl p c
  · exact (sameFor_packAndSend c.remoteServer _ _
      (ne_of_special hp (show portPeerlatrep ≤ maxSpecialPort by decide))).device rfl rfl rfl

/-- A payload for another port, or an empty one. -/
theorem sameDevice_forwardPayload (c : ClientState) (thread : ℕ) (th : Thread)
    (payload : List UInt8) (h : payload = [] ∨ p ≠ th.packPort c.client) :
    SameDevice p c (c.forwardPayload L thread th payload) := by
  refine SameFor.device ?_ rfl rfl rfl
  show SameFor p c.remoteServer (forward L c.client (c.threads thread) payload th).2.2
  rw [socket_forward]
  rcases h with rfl | hport
  · rw [if_neg (by decide)]
    exact SameFor.refl p _
  · split_ifs
    · exact sameFor_packmsg c.remoteServer _ _ payload hport
    · exact SameFor.refl p _

/-- The step does not read a payload for the port. -/
def DeviceEvent.NotFor (p : Port) (c : ClientState) : DeviceEvent → Prop
  | .node (.payload _ th payload) => payload = [] ∨ p ≠ th.packPort c.client
  | _ => True

/-- Such a step leaves the device as it is. -/
theorem sameDevice_step (hp : maxSpecialPort < p) (n : ClientNode) {e : DeviceEvent}
    (h : e.NotFor p n.client) : SameDevice p n.client (deviceStep L n e).client := by
  cases e with
  | node e =>
      cases e with
      | received rx clock locked => exact sameDevice_foldl_handle p clock locked _ n.client
      | checkstatus keys => exact ⟨⟨rfl, rfl, rfl, rfl, rfl⟩, rfl⟩
      | payload thread th payload => exact sameDevice_forwardPayload n.client thread th payload h
  | pingservice rver buffer stamps =>
      dsimp only [deviceStep]
      exact sameDevice_pingservice hp n.client rver buffer stamps
  | announceLatency double cid p2p =>
      dsimp only [deviceStep]
      exact sameDevice_announceLatency hp n.client double cid p2p

/-- A device stays the same in all its steps. -/
theorem sameIdentity_step (n : ClientNode) (e : DeviceEvent) :
    SameIdentity n.client (deviceStep L n e).client := by
  -- there is a data port that the step has nothing to do with
  obtain ⟨p, hp, hport⟩ : ∃ p, maxSpecialPort < p ∧ e.NotFor p n.client := by
    cases e with
    | node e =>
        cases e with
        | payload thread th payload =>
            by_cases h : th.packPort n.client.client = 65535
            · refine ⟨65534, by decide, Or.inr ?_⟩
              rw [h]
              decide
            · exact ⟨65535, by decide, Or.inr (Ne.symm h)⟩
        | received rx clock locked => exact ⟨65535, by decide, trivial⟩
        | checkstatus keys => exact ⟨65535, by decide, trivial⟩
    | pingservice rver buffer stamps => exact ⟨65535, by decide, trivial⟩
    | announceLatency double cid p2p => exact ⟨65535, by decide, trivial⟩
  exact (sameDevice_step hp n hport).toSameIdentity

/-- A payload for the port takes its next number; otherwise the device is the same. -/
theorem sameIdentity_forwardPayload (hp : maxSpecialPort < p) (c : ClientState) (thread : ℕ)
    {th : Thread} {payload : List UInt8} (hport : th.packPort c.client = p)
    (hpos : 0 < payload.length) :
    SameIdentity c (c.forwardPayload L thread th payload) ∧
      (c.forwardPayload L thread th payload).remoteServer.seqmap.at p
        = c.remoteServer.seqmap.at p + 1 := by
  have hsocket : (c.forwardPayload L thread th payload).remoteServer
      = (c.remoteServer.packmsg (c.threads thread).msg bufSize p payload).2 := by
    show (forward L c.client (c.threads thread) payload th).2.2 = _
    rw [socket_forward, if_pos hpos, hport]
    rfl
  obtain ⟨seqmap, hpacked⟩ := c.remoteServer.packmsg_socket (c.threads thread).msg bufSize p payload
  refine ⟨⟨?_, ?_, rfl, rfl, rfl⟩, ?_⟩
  · rw [hsocket, hpacked]
  · rw [hsocket, hpacked]
  · rw [hsocket]
    exact at_packmsg c.remoteServer _ _ payload (UInt16.le_of_lt hp)

/-- In peer-to-peer mode the loop over the table comes by every entry. -/
theorem mem_table_client (c : ClientState) (hmode : c.client.mode.has bPeer2peer = true)
    (k : Fin maxStageId) :
    ((c.endpointList.endpoints k).toEpDesc, (k : ℕ)) ∈ Thread.table c.client := by
  unfold Thread.table
  rw [if_pos hmode]
  exact List.mem_zipIdx_iff_getElem?.mpr (getElem?_table c.endpointList k)

/-- A datagram goes to every active peer that lets others send to it, with a mix or without one as
it receives it. -/
theorem exists_sent_to_peer {c : ClientState} {t : ThreadState} {payload : List UInt8}
    {th : Thread} (hpos : 1 ≤ payload.length) (hmode : c.mode.has bPeer2peer = true)
    {k : Fin maxStageId} (hother : (k : ℕ) ≠ c.callerid.toNat)
    (htimeout : (c.endpointList.endpoints k).timeout ≠ 0)
    (hpeer : (c.endpointList.endpoints k).mode.has bPeer2peer = true)
    (hsend : (c.endpointList.endpoints k).mode.has bDonotsend = false)
    (hmix : (c.endpointList.endpoints k).mode.has bReceivedownmix = c.mode.has bSenddownmix) :
    ∃ x ∈ (forward L c.client t payload th).1.sends, x.recipient = .peer k := by
  have hspec := forward_spec L c.client t payload th hpos
  have hactive : c.client.activePeer k (c.endpointList.endpoints k).toEpDesc = true := by
    unfold OvboxClient.activePeer OvboxClient.activeOther
    rw [hpeer, Bool.and_true, Bool.and_eq_true_iff]
    exact ⟨bne_iff_ne.mpr htimeout, bne_iff_ne.mpr hother⟩
  have hpermitted : c.client.sendingPermitted (c.endpointList.endpoints k).toEpDesc = true := by
    unfold OvboxClient.sendingPermitted
    rw [hsend]
    rfl
  have hmatches : c.client.downmixMatches (c.endpointList.endpoints k).toEpDesc = true :=
    beq_iff_eq.mpr hmix
  have hmem := mem_table_client c hmode k
  cases th with
  | recsrv =>
      refine hspec.exists_direct hmem (if_pos ?_)
      rw [hactive, hpermitted, hmatches]
      rfl
  | xrecsrv destport =>
      refine hspec.exists_direct hmem (if_pos ?_)
      rw [hactive, hpermitted]
      rfl

end Clients

/-- A device that takes part in encryption, with a table of devices that do so too. -/
def ClientState.encrypting (cid : StageDeviceId) : ClientState :=
  { ClientState.idle with
    remoteServer := OvboxUdpSocket.fresh Endpoint.cleared 7 cid
    callerid := cid
    recipientPublic := ⟨List.replicate 32 cid, List.length_replicate⟩
    mode := bPeer2peer ||| bEncryption
    endpointList :=
      { EndpointList.init (fun _ => Buffer.zero _) (Buffer.zero _) with
        endpoints := fun _ =>
          { EpEntry.init (Buffer.zero _) with
            timeout := 120
            mode := bPeer2peer ||| bEncryption } } }

end Libov
