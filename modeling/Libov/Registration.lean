/-
# Registrations

With every turn of the ping service a client tells the relay server its mode, its local address
and its public key.  The relay server passes the last two on to the other devices, where they
fill the entry of the client.

* `register_sends` : the bytes of the three messages;
* `Endpoint.ofBytes_toBytes` : an address is read back as it was written;
* `endpointList_received_control` : what a control message does to the table of a client;
* `registration_round_trip` : however often and in whatever order the messages arrive, the
  entry of the sender holds what it has sent, and the other entries stay as they are.
-/
import Libov.PingRoundTrip

open Runs

namespace Libov

/-! ## The messages -/

/-- One of the messages of a registration. -/
inductive RegistrationMsg where
  | register
  | localip
  | pubkey
  deriving DecidableEq

namespace RegistrationMsg

/-- Its port. -/
def port : RegistrationMsg → Port
  | .register => portRegister
  | .localip => portSetlocalip
  | .pubkey => portPubkey

/-- The mode of the client stands in the place of the sequence number. -/
def seq (c : ClientState) : RegistrationMsg → Sequence
  | .register => c.mode.toUInt16.toInt16
  | _ => 0

/-- What stands behind the header. -/
def body (c : ClientState) (rver : List UInt8) : RegistrationMsg → List UInt8
  | .register => rver ++ [0]
  | .localip => c.localep.toBytes
  | .pubkey => c.recipientPublic.1

/-- The bytes of the message. -/
def bytes (c : ClientState) (rver : List UInt8) (msg : RegistrationMsg) : List UInt8 :=
  header c.remoteServer.secret c.remoteServer.callerid msg.port (msg.seq c) ++ msg.body c rver

/-- The function that the message stands for. -/
def call (c : ClientState) : RegistrationMsg → Option ControlCall
  | .register => none
  | .localip => some (.cidSetlocalip c.remoteServer.callerid c.localep.toBytes)
  | .pubkey => some (.cidSetPubkey c.remoteServer.callerid c.recipientPublic.1)

theorem port_le (msg : RegistrationMsg) : msg.port ≤ maxSpecialPort := by
  cases msg <;> decide

end RegistrationMsg

/-- A message in a buffer of just its size is packed. -/
theorem packAndSendTo_eq (s : OvboxUdpSocket) {destport : Port} (msg : List UInt8) {port : Port}
    (hcontrol : ¬ maxSpecialPort ≤ destport) (hport : port ≠ 0) :
    (s.packAndSendTo destport msg port).1
        = [⟨{ s.servAddr with sinPort := htons port },
          header s.secret s.callerid destport 0 ++ msg⟩] ∧
      ∃ seqmap, (s.packAndSendTo destport msg port).2
        = { s with servAddr := { s.servAddr with sinPort := htons port }, seqmap := seqmap } := by
  obtain ⟨seqmap, hsocket⟩ := s.packmsg_socket (Buffer.zero (headerLen + msg.length))
    (headerLen + msg.length) destport msg
  have hbytes := (s.packs_control (Buffer.zero (headerLen + msg.length)) msg hcontrol le_rfl).2
  unfold OvboxUdpSocket.packAndSendTo OvboxUdpSocket.sendTo sendPort
  dsimp only
  rw [hsocket, hbytes, if_neg hport, if_neg hport]
  exact ⟨rfl, seqmap, rfl⟩

/-- The three messages of a registration, all to the port of the relay server. -/
theorem register_sends (c : ClientState) (rver : List UInt8) (hport : c.toport ≠ 0) :
    (c.register rver).remoteSends = c.remoteSends
      ++ [RegistrationMsg.register, .localip, .pubkey].map fun msg =>
        ⟨{ c.remoteServer.servAddr with sinPort := htons c.toport }, msg.bytes c rver⟩ := by
  let s := c.remoteServer
  let s' : OvboxUdpSocket := { s with servAddr := { s.servAddr with sinPort := htons c.toport } }
  have hregister : (packmsg (Buffer.zero (headerLen + (rver ++ [0]).length))
      (headerLen + (rver ++ [0]).length) s.secret s.callerid portRegister
      c.mode.toUInt16.toInt16 (rver ++ [0])).1.read 0
      (packmsg (Buffer.zero (headerLen + (rver ++ [0]).length))
        (headerLen + (rver ++ [0]).length) s.secret s.callerid portRegister
        c.mode.toUInt16.toInt16 (rver ++ [0])).2 = RegistrationMsg.register.bytes c rver := by
    have hlen : (packmsg (Buffer.zero (headerLen + (rver ++ [0]).length))
        (headerLen + (rver ++ [0]).length) s.secret s.callerid portRegister
        c.mode.toUInt16.toInt16 (rver ++ [0])).2 = headerLen + (rver ++ [0]).length := by
      unfold packmsg
      rw [if_neg (lt_irrefl _)]
    rw [hlen]
    exact read_packmsg _ _ _ _ _ _ le_rfl
  have hfirst : s.sendTo (RegistrationMsg.register.bytes c rver) c.toport
      = ([⟨{ s.servAddr with sinPort := htons c.toport },
        RegistrationMsg.register.bytes c rver⟩], s') := by
    unfold OvboxUdpSocket.sendTo sendPort
    rw [if_neg hport, if_neg hport]
    rfl
  obtain ⟨hsecond, seqmap, hsocket⟩ := packAndSendTo_eq s' c.localep.toBytes
    (show ¬ maxSpecialPort ≤ portSetlocalip by decide) hport
  obtain ⟨hthird, -⟩ := packAndSendTo_eq
    { s' with servAddr := { s'.servAddr with sinPort := htons c.toport }, seqmap := seqmap }
    c.recipientPublic.1 (show ¬ maxSpecialPort ≤ portPubkey by decide) hport
  unfold ClientState.register OvboxUdpSocket.sendRegistration
  dsimp only
  rw [hregister, hfirst]
  dsimp only
  rw [hsocket, hsecond, hthird]
  rfl

/-- An address is read back as it was written. -/
theorem Endpoint.ofBytes_toBytes (ep : Endpoint) : Endpoint.ofBytes ep.toBytes = ep := by
  have h2 := ep.sinFamily.toNat_lt
  have h2' := ep.sinPort.toNat_lt
  have h4 := ep.sAddr.toNat_lt
  have h8 := ep.sinZero.toNat_lt
  have hfamily : UInt16.ofNat (leValue (ep.toBytes.take 2)) = ep.sinFamily := by
    show UInt16.ofNat (leValue (leBytes 2 ep.sinFamily.toNat)) = _
    rw [leValue_leBytes_of_lt (by omega), UInt16.ofNat_toNat]
  have hport : UInt16.ofNat (leValue ((ep.toBytes.drop 2).take 2)) = ep.sinPort := by
    show UInt16.ofNat (leValue (leBytes 2 ep.sinPort.toNat)) = _
    rw [leValue_leBytes_of_lt (by omega), UInt16.ofNat_toNat]
  have haddr : UInt32.ofNat (leValue ((ep.toBytes.drop 4).take 4)) = ep.sAddr := by
    show UInt32.ofNat (leValue (leBytes 4 ep.sAddr.toNat)) = _
    rw [leValue_leBytes_of_lt (by omega), UInt32.ofNat_toNat]
  have hzero : UInt64.ofNat (leValue ((ep.toBytes.drop 8).take 8)) = ep.sinZero := by
    show UInt64.ofNat (leValue (leBytes 8 ep.sinZero.toNat)) = _
    rw [leValue_leBytes_of_lt (by omega), UInt64.ofNat_toNat]
  unfold Endpoint.ofBytes
  rw [hfamily, hport, haddr, hzero]

/-! ## What a registration leaves in a table -/

section Receive

variable {L : Sodium} {secret : Secret} {callerid : StageDeviceId} {n : ClientNode}

/-- A packed message is accepted with its fields; a body that does not fit is cut. -/
theorem incoming_cut (secret : Secret) (x : SendsrvLoop) (cid : StageDeviceId) (port : Port)
    (seq : Sequence) (body : List UInt8) (addr : Endpoint) :
    let rx : Received := some (header secret cid port seq ++ body, addr)
    let m := incoming secret x rx
    Accepted secret x rx ∧ m.Unpacked ∧ m.packedBytes = header secret cid port seq ++ m.payload ∧
      m.cid = cid ∧ m.destport = port ∧ m.seq = seq ∧
      m.payload = body.take (bufSize - headerLen) := by
  intro rx m
  have hbuf : headerLen ≤ bufSize := by decide
  have hlen : headerLen + (body.take (bufSize - headerLen)).length ≤ bufSize := by
    rw [List.length_take]
    omega
  have hcut : (header secret cid port seq ++ body).take bufSize
      = header secret cid port seq ++ body.take (bufSize - headerLen) := by
    rw [List.take_append, length_header, List.take_of_length_le (by rw [length_header]; exact hbuf)]
  have hsame : recvSecMsg secret x.msg rx = recvSecMsg secret x.msg
      (some (header secret cid port seq ++ body.take (bufSize - headerLen), addr)) := by
    rw [← hcut]
    exact (recvSecMsg_cut x.msg addr secret _).symm
  obtain ⟨raw, hacc, hin, hraw⟩ := incoming_packed secret x cid port seq hlen addr
  have hm : m = ⟨true, cid, port, seq, (body.take (bufSize - headerLen)).length, raw, headerLen,
      addr⟩ := (congrArg Prod.snd hsame).trans hin
  have hpayload : m.payload = body.take (bufSize - headerLen) := by
    have hdrop := raw.drop_read 0 headerLen (headerLen + (body.take (bufSize - headerLen)).length)
    rw [hraw, List.drop_left' (length_header _ _ _ _), Nat.zero_add,
      Nat.add_sub_cancel_left] at hdrop
    rw [hm]
    exact hdrop.symm
  refine ⟨(congrArg Prod.fst hsame).trans hacc, ?_, ?_, ?_, ?_, ?_, hpayload⟩
  · rw [hm]
    exact ⟨rfl, hlen⟩
  · rw [hpayload, hm]
    exact hraw
  · rw [hm]
  · rw [hm]
  · rw [hm]

/-- Data messages leave the table alone. -/
theorem endpointList_foldl_data {clock : List UInt8 → ℚ} {locked : Bool} {ms : List MsgBuf}
    (hdata : ∀ m ∈ ms, maxSpecialPort < m.destport) (c : ClientState) :
    (ms.foldl (handle L clock locked) c).endpointList = c.endpointList := by
  induction ms generalizing c with
  | nil => rfl
  | cons m ms ih =>
      obtain ⟨hm, hrest⟩ := List.forall_mem_cons.mp hdata
      have hhandle : handle L clock locked c m = c.behind (processMsg L c.receiver m) :=
        handle_of_not_called (calledFor_of_data c.callerid hm)
      rw [List.foldl_cons, ih hrest, hhandle]
      rfl

/-- What a control message does to the table of a running client: its function is called, and
data messages that were held back are forwarded behind it. -/
theorem endpointList_received_control (h : n.Running secret callerid) {rx : Received}
    (clock : List UInt8 → ℚ) (locked : Bool) (hacc : Accepted secret n.loop rx)
    (hport : (incoming secret n.loop rx).destport ≤ maxSpecialPort) :
    (nodeStep L n (.received rx clock locked)).client.endpointList =
      match calledFor callerid (incoming secret n.loop rx).invalidate with
      | some call => (n.client.perform clock locked (incoming secret n.loop rx).invalidate
          call).endpointList
      | none => n.client.endpointList := by
  have hreleased : ∀ m ∈ n.loop.sorter.released, maxSpecialPort < m.destport := by
    intro m hm
    unfold MessageSorter.released at hm
    split_ifs at hm with hvalid
    · rw [List.mem_singleton.mp hm]
      exact h.held hvalid
    · exact absurd hm List.not_mem_nil
  have hcallerid : n.client.callerid = callerid := h.callerid
  rw [client_received, h.secret, turn_special hacc hport h.buf2, List.foldl_cons,
    endpointList_foldl_data hreleased]
  cases hcall : calledFor callerid (incoming secret n.loop rx).invalidate with
  | none =>
      rw [handle_of_not_called (by rw [hcallerid]; exact hcall)]
      rfl
  | some call =>
      rw [handle_of_call (by rw [hcallerid]; exact hcall)]
      rfl

/-- The entry of a client that has been told its local address, its key, or both. -/
def EpEntry.informed (e : EpEntry) (c : ClientState) (localip pubkey : Bool) : EpEntry :=
  { e with
    localep := if localip then { c.localep with sinFamily := afInet } else e.localep
    hasPubkey := pubkey || e.hasPubkey
    pubkey := if pubkey then c.recipientPublic else e.pubkey }

theorem informed_none (e : EpEntry) (c : ClientState) : e.informed c false false = e := rfl

/-- A registration message is taken for what it is. -/
theorem calledFor_registration (c : ClientState) (rver : List UInt8) {msg : RegistrationMsg}
    {m : MsgBuf} (hcid : m.cid = c.remoteServer.callerid)
    (hne : c.remoteServer.callerid ≠ callerid) (hport : m.destport = msg.port)
    (hpayload : msg ≠ .register → m.payload = msg.body c rver)
    (hsize : m.payload.length = m.size) : calledFor callerid m = msg.call c := by
  have hown : ¬ (m.cid = callerid ∧ m.destport ≠ portListcid ∧ m.destport ≠ portPubkey) :=
    fun h => hne (hcid.symm.trans h.1)
  have hdata : ¬ maxSpecialPort < m.destport := by
    rw [hport]
    exact UInt16.not_lt.mpr msg.port_le
  unfold calledFor
  rw [if_neg hown, if_neg hdata]
  cases msg with
  | register =>
      unfold controlCall
      rw [hport]
      rfl
  | localip =>
      have hbytes : m.payload = c.localep.toBytes := hpayload (by decide)
      have hsize' : m.size = sizeofEndpoint := by
        rw [← hsize, hbytes, Endpoint.length_toBytes]
      unfold controlCall
      rw [hport, hsize', hbytes, hcid]
      rfl
  | pubkey =>
      have hbytes : m.payload = c.recipientPublic.1 := hpayload (by decide)
      unfold controlCall
      rw [hport, hbytes, hcid]
      rfl

/-- And received as such. -/
theorem received_registration (c : ClientState) (rver : List UInt8) (x : SendsrvLoop)
    (hne : c.remoteServer.callerid ≠ callerid) (msg : RegistrationMsg) (addr : Endpoint) :
    Accepted c.remoteServer.secret x (some (msg.bytes c rver, addr)) ∧
      (incoming c.remoteServer.secret x (some (msg.bytes c rver, addr))).destport
        ≤ maxSpecialPort ∧
      calledFor callerid (incoming c.remoteServer.secret x
        (some (msg.bytes c rver, addr))).invalidate = msg.call c := by
  obtain ⟨hacc, hunpacked, -, hcid, hport, -, hpayload⟩ := incoming_cut c.remoteServer.secret x
    c.remoteServer.callerid msg.port (msg.seq c) (msg.body c rver) addr
  have hfits : msg ≠ .register →
      (msg.body c rver).take (bufSize - headerLen) = msg.body c rver := by
    intro hmsg
    refine List.take_of_length_le ?_
    cases msg with
    | register => exact absurd rfl hmsg
    | localip =>
        show c.localep.toBytes.length ≤ _
        rw [Endpoint.length_toBytes]
        decide
    | pubkey =>
        show c.recipientPublic.1.length ≤ _
        rw [Buffer.length_bytes]
        decide
  unfold RegistrationMsg.bytes
  generalize incoming c.remoteServer.secret x (some (header c.remoteServer.secret
    c.remoteServer.callerid msg.port (msg.seq c) ++ msg.body c rver, addr)) = m at *
  have hlen : m.payload.length = m.size :=
    m.rawbuffer.length_read _ _ (by rw [hunpacked.msg]; exact hunpacked.size)
  refine ⟨hacc, hport ▸ msg.port_le, ?_⟩
  exact calledFor_registration c rver hcid hne hport (fun hmsg => hpayload.trans (hfits hmsg)) hlen

/-- One of the messages changes the entry of its sender as it says, and no other. -/
theorem entry_received_registration (c : ClientState) (rver : List UInt8)
    (h : n.Running c.remoteServer.secret callerid) (hne : c.remoteServer.callerid ≠ callerid)
    (msg : RegistrationMsg) (addr : Endpoint) (clock : List UInt8 → ℚ) (locked : Bool)
    (i : Fin maxStageId) :
    (nodeStep L n (.received (some (msg.bytes c rver, addr)) clock
        locked)).client.endpointList.endpoints i
      = if c.remoteServer.callerid.toNat = i then
          (n.client.endpointList.endpoints i).informed c (msg == .localip) (msg == .pubkey)
        else n.client.endpointList.endpoints i := by
  obtain ⟨hacc, hport, hcall⟩ := received_registration c rver n.loop hne msg addr
  rw [endpointList_received_control h clock locked hacc hport, hcall]
  cases msg with
  | register =>
      show n.client.endpointList.endpoints i = _
      split_ifs
      · rfl
      · rfl
  | localip =>
      show (n.client.endpointList.cidSetlocalip c.remoteServer.callerid
        c.localep.toBytes).endpoints i = _
      unfold EndpointList.cidSetlocalip
      rw [n.client.endpointList.endpoints_modifyEntry]
      split_ifs
      · unfold EpEntry.setlocalip
        rw [Endpoint.ofBytes_toBytes]
        rfl
      · rfl
  | pubkey =>
      show (n.client.endpointList.cidSetPubkey c.remoteServer.callerid
        c.recipientPublic.1).endpoints i = _
      unfold EndpointList.cidSetPubkey
      rw [dif_pos c.recipientPublic.2]
      by_cases hid : c.remoteServer.callerid.toNat < maxStageId
      · rw [if_pos hid, n.client.endpointList.endpoints_modifyEntry]
        split_ifs
        · rfl
        · rfl
      · rw [if_neg hid, if_neg fun heq : c.remoteServer.callerid.toNat = i => hid (heq ▸ i.2)]
        split_ifs
        · rfl
        · rfl

/-- Being informed twice is being informed of both. -/
theorem informed_informed (e : EpEntry) (c : ClientState) (localip pubkey localip' pubkey' : Bool) :
    (e.informed c localip pubkey).informed c localip' pubkey'
      = e.informed c (localip || localip') (pubkey || pubkey') := by
  unfold EpEntry.informed
  cases localip <;> cases pubkey <;> cases localip' <;> cases pubkey' <;> rfl

end Receive

/-- The messages of a registration go to the relay server; and whoever receives them, any
number of times and in any order, has in the entry of their sender the local address and the
key, as far as they have been received, and the other entries as they were. -/
theorem registration_round_trip (L : Sodium) (c : ClientState) (rver : List UInt8)
    (hport : c.toport ≠ 0) :
    (c.register rver).remoteSends = c.remoteSends
        ++ [RegistrationMsg.register, .localip, .pubkey].map (fun msg =>
          ⟨{ c.remoteServer.servAddr with sinPort := htons c.toport }, msg.bytes c rver⟩) ∧
      ∀ (n : ClientNode) (callerid : StageDeviceId), n.Running c.remoteServer.secret callerid →
        c.remoteServer.callerid ≠ callerid →
        ∀ (msgs : List (RegistrationMsg × Endpoint)) (clock : List UInt8 → ℚ) (locked : Bool)
          (i : Fin maxStageId),
          (run (nodeStep L) n (msgs.map fun p => .received (some (p.1.bytes c rver, p.2)) clock
              locked)).client.endpointList.endpoints i
            = if c.remoteServer.callerid.toNat = i then
                (n.client.endpointList.endpoints i).informed c
                  (msgs.any fun p => p.1 == .localip) (msgs.any fun p => p.1 == .pubkey)
              else n.client.endpointList.endpoints i := by
  refine ⟨register_sends c rver hport, ?_⟩
  intro n callerid hrunning hne msgs clock locked i
  induction msgs generalizing n with
  | nil =>
      show n.client.endpointList.endpoints i = _
      rw [List.any_nil, List.any_nil, informed_none, ite_self]
  | cons p msgs ih =>
      rw [List.map_cons, run_cons, ih _ (running_step L n _ hrunning),
        entry_received_registration c rver hrunning hne p.1 p.2 clock locked i, List.any_cons,
        List.any_cons]
      split_ifs
      · exact informed_informed ..
      · rfl

/-- The device `2` gets the key of the device `1` twice, and in between its local address. -/
theorem registration_round_trip_second :
    (run (nodeStep Sodium.padding)
        ⟨{ ClientState.idle with callerid := 2 },
          SendsrvLoop.fresh Endpoint.cleared Endpoint.cleared Endpoint.cleared⟩
        ([(RegistrationMsg.pubkey, Endpoint.cleared), (.localip, Endpoint.cleared),
          (.pubkey, Endpoint.cleared)].map fun p =>
            .received (some (p.1.bytes ClientState.idle [48], p.2)) (fun _ => 0)
              true)).client.endpointList.endpoints ⟨1, by decide⟩
      = (ClientState.idle.endpointList.endpoints ⟨1, by decide⟩).informed ClientState.idle
          true true := by
  have hrunning := running_fresh { ClientState.idle with callerid := 2 } Endpoint.cleared
    Endpoint.cleared Endpoint.cleared
  have htold := (registration_round_trip Sodium.padding ClientState.idle [48] (by decide)).2
    _ 2 hrunning (by decide)
    [(RegistrationMsg.pubkey, Endpoint.cleared), (.localip, Endpoint.cleared),
      (.pubkey, Endpoint.cleared)] (fun _ => 0) true ⟨1, by decide⟩
  rw [if_pos (by decide)] at htold
  exact htold

end Libov
