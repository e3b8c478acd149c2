/-
# What the devices of a session can rely on

In every run of a session without proxies and with payloads for data ports that fit, whatever the
network does with the datagrams:

* `payloads_genuine` : what a device hands to its local receivers comes from a payload of another
  device, for that port;
* `known_keys_genuine` : the key in the entry of a device is the key of that device;
* `sealed_for_its_device` : a payload that is sealed for a peer is opened by that peer, to the
  payload, and by no other device.

The three rest on one invariant, `SoundNode`, which each device keeps as long as the datagrams
that it receives are such as the devices and others can send.
-/
import Libov.DeviceSetup

open Runs Networks

namespace Libov

/-! ## The invariant of a device -/

section Sound

variable {ι : Type*} (L : Sodium) (members : ι → Member) (secret : Secret)

/-- The key in an entry is that of a device with its id. -/
def KeyOf (k : Fin maxStageId) (key : PublicKey) : Prop :=
  ∃ j, (members j).callerid.toNat = k ∧ key = (members j).publicKey

/-- What holds of a device between its steps. -/
structure SoundNode (inputs : List (ι × AppPayload)) (i : ι) (n : ClientNode) : Prop where
  client : Honest L members secret inputs (members i) n.client
  buf2 : n.loop.sorter.buf2.valid = false
  held : n.loop.sorter.buf1.valid = true →
    Understood L members secret inputs n.loop.sorter.buf1
  heldData : n.loop.sorter.buf1.valid = true → maxSpecialPort < n.loop.sorter.buf1.destport
  keys : ∀ k key, (n.client.endpointList.endpoints k).sealKey = some key → KeyOf members k key

variable {L members secret} {inputs : List (ι × AppPayload)} {i : ι} {n : ClientNode}

theorem SoundNode.mono {inputs' : List (ι × AppPayload)} (h : inputs <+: inputs')
    (hn : SoundNode L members secret inputs i n) : SoundNode L members secret inputs' i n :=
  ⟨hn.client.mono h, hn.buf2, fun hv => (hn.held hv).mono h, hn.heldData, hn.keys⟩

theorem SoundNode.running (h : SoundNode L members secret inputs i n) :
    n.Running secret (members i).callerid :=
  ⟨h.client.inSession, congrArg Member.callerid h.client.member, h.buf2, h.heldData⟩

/-- Two packed messages with the same bytes are the same message. -/
theorem header_append_inj {cid cid' : StageDeviceId} {port port' : Port} {seq seq' : Sequence}
    {body body' : List UInt8}
    (h : header secret cid port seq ++ body = header secret cid' port' seq' ++ body') :
    cid = cid' ∧ port = port' ∧ body = body' := by
  let x := SendsrvLoop.fresh Endpoint.cleared Endpoint.cleared Endpoint.cleared
  obtain ⟨-, -, -, hcid, hport, -, -⟩ := incoming_cut secret x cid port seq body Endpoint.cleared
  obtain ⟨-, -, -, hcid', hport', -, -⟩ :=
    incoming_cut secret x cid' port' seq' body' Endpoint.cleared
  rw [h] at hcid hport
  refine ⟨hcid.symm.trans hcid', hport.symm.trans hport', ?_⟩
  exact (List.append_inj h (by rw [length_header, length_header])).2

/-- A key that a device can be told is that of the device it is told for. -/
theorem keyOf_of_tells {n : ClientNode} (hsecret : n.client.remoteServer.secret = secret)
    {e : NodeEvent} (hpossible : CanHappen n (Authored L members secret inputs) (.node e))
    {cid : StageDeviceId} {key : PublicKey} (htells : Tells secret cid key e)
    {k : Fin maxStageId} (hk : cid.toNat = k) : KeyOf members k key := by
  obtain ⟨seq, addr, clock, locked, rfl⟩ := htells
  obtain ⟨hacc, -⟩ := incoming_cut secret n.loop cid portPubkey seq key.1 addr
  generalize hbytes : header secret cid portPubkey seq ++ key.1 = bytes at hpossible hacc
  rcases hpossible with hauthored | houtside
  · cases hauthored with
    | short hshort => exact absurd hacc (not_accepted_of_rejected (Or.inl hshort))
    | control j seq' body hport hkey =>
        obtain ⟨hcid, hpubkey, hbody⟩ := header_append_inj hbytes
        exact ⟨j, by rw [← hcid]; exact hk, Subtype.ext (hbody.trans (hkey hpubkey.symm))⟩
    | @data j p body hread hport hbody hfit =>
        obtain ⟨-, hpubkey, -⟩ := header_append_inj hbytes
        rw [← hpubkey] at hport
        exact absurd hport (by decide)
  · rw [hsecret] at houtside
    cases houtside with
    | rejected h => exact absurd hacc (not_accepted_of_rejected h)
    | relay cid' seq' body hport hkey =>
        -- the relay server tells no key for an entry of the table
        obtain ⟨hcid, hpubkey, -⟩ := header_append_inj hbytes
        have hlarge := hkey hpubkey.symm
        rw [← hcid, hk] at hlarge
        exact absurd k.2 (not_lt.mpr hlarge)

/-- The keys behind a step of `sendsrv`, of `checkstatus` or of a forwarding thread. -/
theorem keys_nodeStep (h : SoundNode L members secret inputs i n) {e : NodeEvent}
    (hpossible : CanHappen n (Authored L members secret inputs) (.node e)) (k : Fin maxStageId)
    (key : PublicKey)
    (hkey : ((nodeStep L n e).client.endpointList.endpoints k).sealKey = some key) :
    KeyOf members k key := by
  have hcid : (UInt8.ofNat k).toNat = k := toNat_ofNat_id k
  rcases (sealKey_step_iff h.running k hcid key e).mp hkey with htells | ⟨-, hbefore⟩
  · exact keyOf_of_tells h.client.inSession hpossible htells hcid
  · exact h.keys k key hbefore

/-- A turn of `sendsrv`. -/
theorem soundNode_received (hkeys : KeyPairs L members) (h : SoundNode L members secret inputs i n)
    (rx : Received) (clock : List UInt8 → ℚ) (locked : Bool)
    (hpossible : CanHappen n (Authored L members secret inputs)
      (.node (.received rx clock locked))) :
    SoundNode L members secret inputs i (nodeStep L n (.received rx clock locked)) := by
  have hsecret : n.client.remoteServer.secret = secret := h.client.inSession
  have hrx : ∀ bytes addr, rx = some (bytes, addr) →
      Authored L members secret inputs bytes ∨ Outside secret bytes := by
    rintro bytes addr rfl
    have hcan : Authored L members secret inputs bytes ∨
        Outside n.client.remoteServer.secret bytes := hpossible
    rw [hsecret] at hcan
    exact hcan
  obtain ⟨hdelivered, hheld⟩ := turn_all (Q := Understood L members secret inputs)
    (fun m src hsrc => hsrc.copy m) (fun m hm => hm.invalidate) h.buf2
    (fun hacc => understood_incoming hacc hrx) h.held
  have hrunning := running_step L n (.received rx clock locked) h.running
  refine ⟨?_, hrunning.buf2, ?_, hrunning.held, keys_nodeStep h hpossible⟩
  · rw [client_received, hsecret]
    exact honest_foldl_handle hkeys clock locked hdelivered h.client
  · rw [sorter_received, hsecret]
    exact hheld

/-- A turn of the ping service leaves the table alone. -/
theorem endpointList_pingservice (c : ClientState) (rver : List UInt8)
    (buffer : Buffer pingbufsize) (stamps : Fin maxStageId → PingClass → TimeStamp) :
    (c.pingservice rver buffer stamps).endpointList = c.endpointList := by
  unfold ClientState.pingservice
  rw [foldl_pingPeer]
  exact (foldl_sendOne buffer stamps _
    (nodup_turnPings _ (List.nodup_finRange maxStageId)) _).1.endpointList

theorem endpointList_announceLatency (c : ClientState) (double : ℚ → TimeStamp)
    (cid : StageDeviceId) (p2p : PingStat) :
    (c.announceLatency double cid p2p).endpointList = c.endpointList := by
  unfold ClientState.announceLatency
  split_ifs
  · rfl
  · rfl

/-- A step of the client that leaves its table alone. -/
theorem SoundNode.withClient (h : SoundNode L members secret inputs i n) {c : ClientState}
    (hc : Honest L members secret inputs (members i) c)
    (hlist : c.endpointList = n.client.endpointList) :
    SoundNode L members secret inputs i { n with client := c } := by
  refine ⟨hc, h.buf2, h.held, h.heldData, fun k key hkey => h.keys k key ?_⟩
  rw [← hlist]
  exact hkey

/-- A step keeps a device sound that happens with what the devices send. -/
theorem soundNode_step (hkeys : KeyPairs L members) (h : SoundNode L members secret inputs i n)
    (e : DeviceEvent) (hpossible : CanHappen n (Authored L members secret inputs) e) :
    SoundNode L members secret (inputs ++ (readBy n e).map (Prod.mk i)) i (deviceStep L n e) := by
  cases e with
  | node e =>
      cases e with
      | received rx clock locked =>
          rw [show readBy n (.node (.received rx clock locked)) = [] from rfl, List.map_nil,
            List.append_nil]
          exact soundNode_received hkeys h rx clock locked hpossible
      | checkstatus keys =>
          rw [show readBy n (.node (.checkstatus keys)) = [] from rfl, List.map_nil,
            List.append_nil]
          exact ⟨h.client.quiet ⟨h.client.member, h.client.inSession, h.client.sender,
            h.client.noProxies⟩ rfl rfl, h.buf2, h.held, h.heldData, keys_nodeStep h hpossible⟩
      | payload thread th payload =>
          obtain ⟨hport, hfit⟩ := hpossible
          have hgrown := h.mono (List.prefix_append inputs
            ((readBy n (.node (.payload thread th payload))).map (Prod.mk i)))
          refine ⟨honest_forwardPayload hgrown.client thread th payload hport hfit ?_, hgrown.buf2,
            hgrown.held, hgrown.heldData, hgrown.keys⟩
          intro hpos
          refine List.mem_append_right _ (List.mem_map.mpr ⟨_, ?_, rfl⟩)
          unfold readBy
          dsimp only
          rw [if_pos hpos]
          exact List.mem_singleton_self _
  | pingservice rver buffer stamps =>
      rw [show readBy n (.pingservice rver buffer stamps) = [] from rfl, List.map_nil,
        List.append_nil]
      exact h.withClient (honest_pingservice h.client rver buffer stamps)
        (endpointList_pingservice n.client rver buffer stamps)
  | announceLatency double cid p2p =>
      rw [show readBy n (.announceLatency double cid p2p) = [] from rfl, List.map_nil,
        List.append_nil]
      exact h.withClient (honest_announceLatency h.client double cid p2p)
        (endpointList_announceLatency n.client double cid p2p)

end Sound

/-! ## Runs of a session -/

/-- The devices of a session, and what they have read so far. -/
abbrev Session (ι : Type*) := Network ι ClientNode AppPayload

/-- A session starts with devices that have sent nothing, hold nothing back and know no keys. -/
structure FreshSession {ι : Type*} (members : ι → Member) (secret : Secret) (n : Session ι) :
    Prop where
  inputs : n.inputs = []
  client : ∀ i, IsMember secret (members i) (n.party i).client
  sends : ∀ i, (n.party i).client.remoteSends = [] ∧ (n.party i).client.localSends = []
  sorter : ∀ i, (n.party i).loop.sorter.buf1.valid = false ∧
    (n.party i).loop.sorter.buf2.valid = false
  keys : ∀ i k, ((n.party i).client.endpointList.endpoints k).hasPubkey = false

/-- The ids of two devices. -/
def pairId : Bool → StageDeviceId
  | false => 1
  | true => 2

/-- A session of the devices `1` and `2`. -/
def Session.pair : Session Bool where
  party i := ⟨ClientState.encrypting (pairId i),
    SendsrvLoop.fresh Endpoint.cleared Endpoint.cleared Endpoint.cleared⟩
  inputs := []

/-- Its members. -/
def pairMember (i : Bool) : Member := (ClientState.encrypting (pairId i)).member

theorem freshSession_pair : FreshSession pairMember 7 Session.pair :=
  ⟨rfl, fun _ => ⟨rfl, rfl, rfl, rfl⟩, fun _ => ⟨rfl, rfl⟩, fun _ => ⟨rfl, rfl⟩, fun _ _ => rfl⟩

/-- The boxes that end with the key they are sealed for are opened with this key only. -/
theorem keyPairs_tagged {ι : Type*} (members : ι → Member) : KeyPairs Sodium.tagged members where
  boxes i := sealedBoxes_tagged _ _
  apart i rnd msg pubkey hne := by
    refine if_neg fun heq => hne (Subtype.ext ?_)
    have hlen := congrArg List.length heq
    have hend : Sodium.tagged.boxSeal rnd msg pubkey = msg ++ (pubkey.1 ++ List.replicate 16 0) :=
      rfl
    have htail := (List.append_inj_right' (hend.symm.trans heq) (by
      rw [List.length_append, List.length_append, Buffer.length_bytes, Buffer.length_bytes]))
    exact (List.append_inj' htail rfl).1

section Runs

variable {ι : Type*} [DecidableEq ι] {L : Sodium} {members : ι → Member} {secret : Secret}
  {n : Session ι} {es : List (ι × DeviceEvent)}

omit [DecidableEq ι] in
theorem FreshSession.sound (h : FreshSession members secret n) (i : ι) :
    SoundNode L members secret n.inputs i (n.party i) := by
  obtain ⟨hremote, hlocal⟩ := h.sends i
  obtain ⟨hbuf1, hbuf2⟩ := h.sorter i
  refine ⟨⟨h.client i, ?_, ?_⟩, hbuf2, ?_, ?_, ?_⟩
  · rw [hremote]
    exact fun d hd => absurd hd List.not_mem_nil
  · rw [hlocal]
    exact fun d hd => absurd hd List.not_mem_nil
  · exact fun hvalid => absurd (hbuf1.symm.trans hvalid) Bool.false_ne_true
  · exact fun hvalid => absurd (hbuf1.symm.trans hvalid) Bool.false_ne_true
  · intro k key hkey
    unfold EpDesc.sealKey at hkey
    rw [h.keys i k, if_neg Bool.false_ne_true] at hkey
    cases hkey

/-- Every device is sound in every run. -/
theorem soundNode_run (hkeys : KeyPairs L members) (hstart : FreshSession members secret n)
    (hes : AllSteps (netStep (device L)) (Possible (device L)) n es) (i : ι) :
    SoundNode L members secret (run (netStep (device L)) n es).inputs i
      ((run (netStep (device L)) n es).party i) := by
  refine guaranteed_run (P := device L) (I := fun i l => SoundNode L members secret l i)
    (G := Authored L members secret) ?_ ?_ ?_ hstart.sound hes i
  · exact fun i l l' s hl hs => hs.mono hl
  · rintro i l s m hs ⟨d, hd, rfl⟩
    exact hs.client.remote d hd
  · exact fun i l s e hs hpossible => soundNode_step hkeys hs e hpossible

/-- What a device hands to its local receivers, in any run and whatever the network does, is made
of a payload that another device has read for that port and sent: the payload, a box with it, or
the content of a box that it is.  No stranger to the session gets anything to them. -/
theorem payloads_genuine (hkeys : KeyPairs L members) (hstart : FreshSession members secret n)
    (hes : AllSteps (netStep (device L)) (Possible (device L)) n es) (i : ι) :
    ∀ d ∈ ((run (netStep (device L)) n es).party i).client.localSends,
      HandedOut L members (run (netStep (device L)) n es).inputs (members i) d :=
  (soundNode_run hkeys hstart hes i).client.handedOut

/-- Without a key for a peer the payload goes to it as it is. -/
theorem plain_of_peer {c : ClientState} {t : ThreadState} {th : Thread} {payload : List UInt8}
    (hfit : headerLen + payload.length ≤ bufSize) {x : Sent}
    (hx : x ∈ (forward L c.client t payload th).1.sends) {k : Fin maxStageId}
    (hpeer : x.recipient = .peer k)
    (hplain : c.client.encryptsTo (c.endpointList.endpoints k).toEpDesc = false) :
    x.datagram.data = th.packed c.client payload := by
  have hspec := forward_spec L c.client t payload th (length_pos_of_sends hx)
  have hout := hspec.data_peer hx hpeer (getElem?_table c.endpointList k)
  rw [hplain] at hout
  exact outgoing_plain hfit hout

/-- A payload that a device sends to a peer without a key, and its arrival at some device. -/
theorem allSteps_payload {n : Session ι} {i j : ι} {thread : ℕ} {th : Thread}
    {payload : List UInt8} {addr a : Endpoint} {clock : List UInt8 → ℚ} {locked : Bool}
    (hpos : 1 ≤ payload.length) (hfit : headerLen + payload.length ≤ bufSize)
    (hport : maxSpecialPort < th.packPort (n.party i).client.client)
    (hmode : (n.party i).client.client.mode.has bPeer2peer = true) (k : Fin maxStageId)
    (hdirect : (th.decision (n.party i).client.client k
      ((n.party i).client.endpointList.endpoints k).toEpDesc).direct = some a)
    (hplain : (n.party i).client.client.encryptsTo
      ((n.party i).client.endpointList.endpoints k).toEpDesc = false) :
    AllSteps (netStep (device L)) (Possible (device L)) n
      [(i, .node (.payload thread th payload)),
        (j, .node (.received (some (th.packed (n.party i).client.client payload, addr)) clock
          locked))] := by
  have hspec := forward_spec L (n.party i).client.client ((n.party i).client.threads thread)
    payload th hpos
  obtain ⟨x, hx, hpeer⟩ := hspec.exists_direct (mem_table_client _ hmode k) hdirect
  refine ⟨⟨hport, hfit⟩, Or.inl ⟨i, x.datagram, ?_, plain_of_peer hfit hx hpeer hplain⟩, trivial⟩
  rw [party_netStep_self]
  exact List.mem_append_right _ (List.mem_map.mpr ⟨x, hx, rfl⟩)

/-- The device `2` gets a payload of the device `1`. -/
theorem payloads_genuine_pair :
    let es : List (Bool × DeviceEvent) :=
      [(false, .node (.payload 0 .recsrv [1])),
        (true, .node (.received (some (Thread.recsrv.packed (ClientState.encrypting 1).client [1],
          Endpoint.cleared)) (fun _ => 0) true))]
    let n := run (netStep (device Sodium.tagged)) Session.pair es
    ∀ d ∈ (n.party true).client.localSends,
      HandedOut Sodium.tagged pairMember n.inputs (pairMember true) d := by
  intro es
  -- nothing is known yet of the key of the device `2`
  have hes : AllSteps (netStep (device Sodium.tagged)) (Possible (device Sodium.tagged))
      Session.pair es := by
    refine allSteps_payload ?_ ?_ ?_ ?_ ⟨2, by decide⟩ (if_pos ?_) ?_
    all_goals decide
  exact payloads_genuine (keyPairs_tagged pairMember) freshSession_pair hes true

/-- The key in an entry of the table of a device is the key of the device with this id. -/
theorem known_keys_genuine (hkeys : KeyPairs L members) (hstart : FreshSession members secret n)
    (hes : AllSteps (netStep (device L)) (Possible (device L)) n es) (i : ι)
    (k : Fin maxStageId)
    (hkey : (((run (netStep (device L)) n es).party i).client.endpointList.endpoints k).hasPubkey
      = true) :
    ∃ j, (members j).callerid.toNat = k ∧
      (((run (netStep (device L)) n es).party i).client.endpointList.endpoints k).pubkey
        = (members j).publicKey :=
  (soundNode_run hkeys hstart hes i).keys k _ (if_pos hkey)

/-- A device tells its key in a turn of its ping service; and whoever gets it knows it then. -/
theorem pubkey_exchange {n : Session ι} {i j : ι} (hij : j ≠ i) {callerid : StageDeviceId}
    (hport : (n.party i).client.toport ≠ 0)
    (hrunning : (n.party j).Running (n.party i).client.remoteServer.secret callerid)
    (hne : (n.party i).client.remoteServer.callerid ≠ callerid) (rver : List UInt8)
    (buffer : Buffer pingbufsize) (stamps : Fin maxStageId → PingClass → TimeStamp)
    (addr : Endpoint) (clock : List UInt8 → ℚ) (locked : Bool) :
    let e : NodeEvent := .received (some (RegistrationMsg.pubkey.bytes (n.party i).client rver,
      addr)) clock locked
    let es : List (ι × DeviceEvent) := [(i, .pingservice rver buffer stamps), (j, .node e)]
    AllSteps (netStep (device L)) (Possible (device L)) n es ∧
      (run (netStep (device L)) n es).party j = nodeStep L (n.party j) e ∧
      ∀ k : Fin maxStageId, (n.party i).client.remoteServer.callerid.toNat = k →
        (nodeStep L (n.party j) e).client.endpointList.endpoints k
          = ((n.party j).client.endpointList.endpoints k).informed (n.party i).client false
              true := by
  intro e es
  refine ⟨⟨trivial, Or.inl ⟨i, ⟨{ (n.party i).client.remoteServer.servAddr with
    sinPort := htons (n.party i).client.toport }, _⟩, ?_, rfl⟩, trivial⟩, ?_, ?_⟩
  · rw [party_netStep_self]
    show _ ∈ ((n.party i).client.pingservice rver buffer stamps).remoteSends
    rw [(pingservice_spec buffer stamps (n.party i).client rver).1, register_sends _ rver hport]
    refine List.mem_append_left _ (List.mem_append_right _ ?_)
    exact List.mem_map.mpr ⟨RegistrationMsg.pubkey, List.mem_of_getLast? rfl, rfl⟩
  · rw [run_cons, run_cons, run_nil, party_netStep_self, party_netStep_of_ne n _ hij]
    rfl
  · intro k hk
    rw [entry_received_registration _ rver hrunning hne, if_pos hk]
    rfl

/-- The device `2` learns the key of the device `1`. -/
theorem known_keys_genuine_pair :
    let es : List (Bool × DeviceEvent) :=
      [(false, .pingservice [48] (Buffer.zero _) fun _ _ => Buffer.zero _),
        (true, .node (.received (some (RegistrationMsg.pubkey.bytes (ClientState.encrypting 1) [48],
          Endpoint.cleared)) (fun _ => 0) true))]
    ∃ j, (pairMember j).callerid.toNat = 1 ∧
      (((run (netStep (device Sodium.tagged)) Session.pair es).party true
        ).client.endpointList.endpoints ⟨1, by decide⟩).pubkey = (pairMember j).publicKey := by
  intro es
  obtain ⟨hes, hparty, hentry⟩ := pubkey_exchange (L := Sodium.tagged) (n := Session.pair)
    (i := false) (j := true) (by decide) (by decide)
    (running_fresh (ClientState.encrypting 2) Endpoint.cleared Endpoint.cleared Endpoint.cleared)
    (by decide) [48] (Buffer.zero _) (fun _ _ => Buffer.zero _) Endpoint.cleared (fun _ => 0) true
  refine known_keys_genuine (keyPairs_tagged pairMember) freshSession_pair hes true
    ⟨1, by decide⟩ ?_
  rw [hparty, hentry _ (by decide)]
  rfl

/-- In encryption mode, what a device sends of a payload to a peer that takes part in encryption
and whose key it knows is a box that the device with the id of this peer opens, to the payload,
and that no device with another key opens. -/
theorem sealed_for_its_device (hkeys : KeyPairs L members)
    (hstart : FreshSession members secret n)
    (hes : AllSteps (netStep (device L)) (Possible (device L)) n es) (i : ι) (t : ThreadState)
    (payload : List UInt8) (th : Thread)
    (hfit : headerLen + payload.length + cryptoBoxSealBytes ≤ bufSize) :
    let c := ((run (netStep (device L)) n es).party i).client
    ∀ x ∈ (forward L c.client t payload th).1.sends, ∀ k, x.recipient = .peer k →
      ∀ hk : k < maxStageId, c.client.encryptsTo (c.endpointList.endpoints ⟨k, hk⟩).toEpDesc →
        ∃ j rnd, (members j).callerid.toNat = k ∧
          x.datagram.data = th.header c.client
            ++ L.boxSeal rnd payload (members j).publicKey ∧
          L.boxSealOpen (L.boxSeal rnd payload (members j).publicKey) (members j).publicKey
            (members j).secretKey = some payload ∧
          ∀ other, (members other).publicKey ≠ (members j).publicKey →
            L.boxSealOpen (L.boxSeal rnd payload (members j).publicKey)
              (members other).publicKey (members other).secretKey = none := by
  intro c x hx k hrec hk hencrypt
  have hspec := forward_spec L c.client t payload th (length_pos_of_sends hx)
  have hout := hspec.data_peer hx hrec (getElem?_table c.endpointList ⟨k, hk⟩)
  rw [hencrypt] at hout
  obtain ⟨rnd, hdata⟩ := outgoing_sealed hfit hout
  obtain ⟨j, hj, hkey⟩ := (soundNode_run hkeys hstart hes i).keys ⟨k, hk⟩ _
    (sealKey_of_encryptsTo hencrypt)
  rw [hkey] at hdata
  refine ⟨j, rnd, hj, hdata, (hkeys.boxes j).opens rnd payload, fun other hother => ?_⟩
  exact hkeys.apart other rnd payload _ (Ne.symm hother)

/-- The device `2` learns the key of the device `1`, and seals a payload for it. -/
theorem sealed_for_its_device_pair :
    let es : List (Bool × DeviceEvent) :=
      [(false, .pingservice [48] (Buffer.zero _) fun _ _ => Buffer.zero _),
        (true, .node (.received (some (RegistrationMsg.pubkey.bytes (ClientState.encrypting 1) [48],
          Endpoint.cleared)) (fun _ => 0) true))]
    let c := ((run (netStep (device Sodium.tagged)) Session.pair es).party true).client
    ∃ x ∈ (forward Sodium.tagged c.client ThreadState.start [1] (.xrecsrv 9000)).1.sends,
      ∃ j rnd, (pairMember j).callerid.toNat = 1 ∧
        x.datagram.data = (Thread.xrecsrv 9000).header c.client
          ++ Sodium.tagged.boxSeal rnd [1] (pairMember j).publicKey ∧
        Sodium.tagged.boxSealOpen (Sodium.tagged.boxSeal rnd [1] (pairMember j).publicKey)
          (pairMember j).publicKey (pairMember j).secretKey = some [1] ∧
        ∀ other, (pairMember other).publicKey ≠ (pairMember j).publicKey →
          Sodium.tagged.boxSealOpen (Sodium.tagged.boxSeal rnd [1] (pairMember j).publicKey)
            (pairMember other).publicKey (pairMember other).secretKey = none := by
  intro es c
  have hrunning := running_fresh (ClientState.encrypting 2) Endpoint.cleared Endpoint.cleared
    Endpoint.cleared
  obtain ⟨hes, hparty, hentry⟩ := pubkey_exchange (L := Sodium.tagged) (n := Session.pair)
    (i := false) (j := true) (by decide) (by decide) hrunning (by decide) [48] (Buffer.zero _)
    (fun _ _ => Buffer.zero _) Endpoint.cleared (fun _ => 0) true
  let k : Fin maxStageId := ⟨1, by decide⟩
  have hk : c.endpointList.endpoints k = ((ClientState.encrypting 2).endpointList.endpoints k
      ).informed (ClientState.encrypting 1) false true :=
    (congrArg (fun n : ClientNode => n.client.endpointList.endpoints k) hparty).trans
      (hentry k (by decide))
  have hmode : c.mode = bPeer2peer ||| bEncryption :=
    (congrArg (fun n : ClientNode => n.client.mode) hparty).trans
      (sameIdentity_step (L := Sodium.tagged) _ (.node _)).mode
  have hid : c.callerid = 2 :=
    (congrArg (fun n : ClientNode => n.client.callerid) hparty).trans
      (running_step Sodium.tagged _ _ hrunning).callerid
  have hsent : ∃ x ∈ (forward Sodium.tagged c.client ThreadState.start [1] (.xrecsrv 9000)).1.sends,
      x.recipient = .peer k := by
    refine exists_sent_to_peer (by decide) ?_ ?_ ?_ ?_ ?_ ?_
    · rw [hmode]
      decide
    · rw [hid]
      decide
    · rw [hk]
      decide
    · rw [hk]
      decide
    · rw [hk]
      decide
    · rw [hk, hmode]
      decide
  obtain ⟨x, hx, hpeer⟩ := hsent
  have hencrypt : c.client.encryptsTo (c.endpointList.endpoints k).toEpDesc = true := by
    unfold OvboxClient.encryptsTo
    rw [hk, show c.client.mode = _ from hmode]
    decide
  exact ⟨x, hx, sealed_for_its_device (keyPairs_tagged pairMember) freshSession_pair hes true
    ThreadState.start [1] (.xrecsrv 9000) (by decide) x hx k hpeer k.2 hencrypt⟩

end Runs

end Libov
