/-
# The indices of the endpoint table

The vector `endpoints` has `MAX_STAGE_ID` entries, and `operator[]` does not check its index.
Here the functions of the client are written down once more, with a note of each index that
they use on the vector.

* `ClientState.callAt` : the functions that use the vector, with their notes;
* `value_callAt` : apart from the notes, this is the client of the other modules;
* `within_processMsgAt`, `within_checked` : the id of a message is checked before it is used;
* `within_payload`, `within_pingservice` : the own id is not;
* `table_access_iff` : the calls that stay within the vector.
-/
import Libov.Accesses
import Libov.PingService
import Libov.RejectedDatagrams

open Accesses

namespace Libov

/-- A program that notes the indices it uses on `endpoints`. -/
abbrev OnTable := Noting ℕ

/-! ## The forwarding threads -/

namespace OvboxClient

/-- `endpoints[callerid]`. -/
def selfAt (c : OvboxClient) : OnTable EpDesc := do
  access c.callerid.toNat
  return c.endpoints.1.getD c.callerid.toNat c.outside

/-- `target_in_same_network`. -/
def targetInSameNetworkAt (c : OvboxClient) (ep : EpDesc) : OnTable Bool := do
  let self ← c.selfAt
  return self.ep.sAddr == ep.ep.sAddr && ep.localep.sAddr != 0

end OvboxClient

/-- Loop body of `recsrv`. -/
def recsrvPeerAt (L : Sodium) (c : OvboxClient) (msg : Buffer bufSize) (msglen : ℕ) (ocid : ℕ)
    (ep : EpDesc) (p : Pass) : OnTable Pass :=
  if ep.timeout ≠ 0 then
    if ocid ≠ c.callerid.toNat then
      if ep.mode.has bPeer2peer then do
        let (data, p) := p.countPeer.choose L (c.encryptsTo ep) msg msglen ep.pubkey
        let p := p.countEncrypted (c.encryptsTo ep)
        let targetInSameNetwork ← c.targetInSameNetworkAt ep
        return if !ep.mode.has bDonotsend ||
            (ep.mode.has bUsingproxy && targetInSameNetwork) then
          if ep.mode.has bReceivedownmix = c.mode.has bSenddownmix then
            p.sendPeer ocid data
              (if c.sendlocal && targetInSameNetwork then ep.localep else ep.ep)
          else p
        else p
      else pure p.askServer
    else pure p
  else pure p

/-- Loop body of `xrecsrv`. -/
def xrecsrvPeerAt (L : Sodium) (c : OvboxClient) (msg : Buffer bufSize) (msglen : ℕ) (ocid : ℕ)
    (ep : EpDesc) (p : Pass) : OnTable Pass :=
  if ep.timeout ≠ 0 then
    if ocid ≠ c.callerid.toNat then
      if ep.mode.has bPeer2peer then do
        let (data, p) := p.choose L (c.encryptsTo ep) msg msglen ep.pubkey
        let targetInSameNetwork ← c.targetInSameNetworkAt ep
        return if !ep.mode.has bDonotsend ||
            (ep.mode.has bUsingproxy && targetInSameNetwork) then
          p.sendPeer ocid data
            (if c.sendlocal && targetInSameNetwork then ep.localep else ep.ep)
        else p.askServer
      else pure p
    else pure p
  else pure p

/-- `for(auto& ep : endpoints) { ..; ++ocid; }`, which counts the entries on the way. -/
def peerLoopAt (body : ℕ → EpDesc → Pass → OnTable Pass) (ocid : ℕ) (eps : List EpDesc)
    (p : Pass) : OnTable Pass :=
  (eps.zipIdx ocid).foldlM (fun p ep => body ep.2 ep.1 p) p

/-- The loop, which both threads run in peer-to-peer mode only. -/
def peersAt (body : ℕ → EpDesc → Pass → OnTable Pass) (c : OvboxClient) (p : Pass) :
    OnTable Pass :=
  if c.mode.has bPeer2peer then peerLoopAt body 0 c.endpoints.1 p else pure p

/-- `recsrv` on one payload. -/
def recsrvAt (L : Sodium) (c : OvboxClient) (t : ThreadState) (payload : List UInt8) :
    OnTable (Pass × ThreadState × OvboxUdpSocket) :=
  if 0 < payload.length then do
    let ((msg, msglen), socket) :=
      c.remoteServer.packmsg t.msg bufSize (c.recport - c.portoffset) payload
    let p ← peersAt (recsrvPeerAt L c msg msglen) c (t.pass c)
    let p := if p.sendtoserver then
        let (data, p) := p.countPeer.choose L c.encryptsToServer msg msglen c.srvPubkey
        (p.countEncrypted c.encryptsToServer).sendServer c data
      else p
    let any : Bool := 0 < p.peersEncrypted
    return (p, ⟨msg, p.cmsg, p.rnd, any, any && p.peersEncrypted == p.peersTotal⟩, socket)
  else pure (t.pass c, t, c.remoteServer)

/-- `xrecsrv` on one payload. -/
def xrecsrvAt (L : Sodium) (c : OvboxClient) (destport : Port) (t : ThreadState)
    (payload : List UInt8) : OnTable (Pass × ThreadState × OvboxUdpSocket) :=
  if 0 < payload.length then do
    let ((msg, msglen), socket) := c.remoteServer.packmsg t.msg bufSize destport payload
    let p ← peersAt (xrecsrvPeerAt L c msg msglen) c (t.pass c)
    let p := if p.sendtoserver then p.sendServer c (msg.read 0 msglen) else p
    return (p, { t with msg := msg, cmsg := p.cmsg, rnd := p.rnd }, socket)
  else pure (t.pass c, t, c.remoteServer)

section Forwarding

variable (L : Sodium) (c : OvboxClient)

theorem value_targetInSameNetworkAt (ep : EpDesc) :
    value (c.targetInSameNetworkAt ep) = c.targetInSameNetwork ep := rfl

/-- The noted pass over a peer in `recsrv` computes what the loop computes there. -/
theorem value_recsrvPeerAt (msg : Buffer bufSize) (msglen ocid : ℕ) (ep : EpDesc) (p : Pass) :
    value (recsrvPeerAt L c msg msglen ocid ep p) = recsrvPeer L c msg msglen ocid ep p := by
  unfold recsrvPeerAt recsrvPeer
  simp only [value_ite, value_pure, value_bind, value_targetInSameNetworkAt]
  rfl

/-- The same for the pass in `xrecsrv`. -/
theorem value_xrecsrvPeerAt (msg : Buffer bufSize) (msglen ocid : ℕ) (ep : EpDesc) (p : Pass) :
    value (xrecsrvPeerAt L c msg msglen ocid ep p) = xrecsrvPeer L c msg msglen ocid ep p := by
  unfold xrecsrvPeerAt xrecsrvPeer
  simp only [value_ite, value_pure, value_bind, value_targetInSameNetworkAt]
  rfl

/-- A loop over the table computes the same if its body does. -/
theorem value_peerLoopAt {body : ℕ → EpDesc → Pass → Pass}
    {bodyAt : ℕ → EpDesc → Pass → OnTable Pass}
    (hbody : ∀ ocid ep p, value (bodyAt ocid ep p) = body ocid ep p) (ocid : ℕ)
    (eps : List EpDesc) (p : Pass) :
    value (peerLoopAt bodyAt ocid eps p) = peerLoop body ocid eps p := by
  unfold peerLoopAt
  induction eps generalizing ocid p with
  | nil => rfl
  | cons ep eps ih =>
      rw [List.zipIdx_cons, List.foldlM_cons, value_bind, ih, hbody]
      rfl

/-- The loop over the peers is run in peer-to-peer mode only. -/
theorem value_peersAt {body : ℕ → EpDesc → Pass → Pass}
    {bodyAt : ℕ → EpDesc → Pass → OnTable Pass}
    (hbody : ∀ ocid ep p, value (bodyAt ocid ep p) = body ocid ep p) (p : Pass) :
    value (peersAt bodyAt c p) =
      if c.mode.has bPeer2peer then peerLoop body 0 c.endpoints.1 p else p := by
  unfold peersAt
  rw [value_ite, value_peerLoopAt hbody, value_pure]

/-- `recsrv` with the indices it uses is `recsrv`. -/
theorem value_recsrvAt (t : ThreadState) (payload : List UInt8) :
    value (recsrvAt L c t payload) = recsrv L c t payload := by
  unfold recsrvAt recsrv
  simp only [value_ite, value_pure, value_bind, value_peersAt c (value_recsrvPeerAt L c _ _)]

/-- `xrecsrv` with the indices it uses is `xrecsrv`. -/
theorem value_xrecsrvAt (destport : Port) (t : ThreadState) (payload : List UInt8) :
    value (xrecsrvAt L c destport t payload) = xrecsrv L c destport t payload := by
  unfold xrecsrvAt xrecsrv
  simp only [value_ite, value_pure, value_bind, value_peersAt c (value_xrecsrvPeerAt L c _ _)]

end Forwarding

/-! ## The ping service -/

namespace ClientState

/-- Loop body of `pingservice`. -/
def pingPeerAt (buffer : Buffer pingbufsize) (stamps : Fin maxStageId → PingClass → TimeStamp)
    (c : ClientState) (i : Fin maxStageId) : OnTable ClientState :=
  let ep := c.endpointList.endpoints i
  let ocid := deviceId i
  if ep.timeout ≠ 0 ∧ ocid ≠ c.callerid then do
    let c := c.sendPing buffer ep.ep ocid .p2p (stamps i .p2p)
    let c := c.sendPing buffer c.remoteServer.servAddr ocid .srv (stamps i .srv)
    let targetInSameNetwork ← c.client.targetInSameNetworkAt ep.toEpDesc
    return if targetInSameNetwork then c.sendPing buffer ep.localep ocid .loc (stamps i .loc)
      else c
  else pure c

/-- One turn of `pingservice`. -/
def pingserviceAt (c : ClientState) (rver : List UInt8) (buffer : Buffer pingbufsize)
    (stamps : Fin maxStageId → PingClass → TimeStamp) : OnTable ClientState :=
  (List.finRange maxStageId).foldlM (pingPeerAt buffer stamps) (c.register rver)

/-- The pings of an entry are those of the model. -/
theorem value_pingPeerAt (buffer : Buffer pingbufsize)
    (stamps : Fin maxStageId → PingClass → TimeStamp) (c : ClientState) (i : Fin maxStageId) :
    value (c.pingPeerAt buffer stamps i) = c.pingPeer buffer stamps i := by
  unfold pingPeerAt pingPeer
  simp only [value_ite, value_pure, value_bind, value_targetInSameNetworkAt]
  rfl

/-- A turn of `pingservice` with its indices is a turn of `pingservice`. -/
theorem value_pingserviceAt (c : ClientState) (rver : List UInt8) (buffer : Buffer pingbufsize)
    (stamps : Fin maxStageId → PingClass → TimeStamp) :
    value (c.pingserviceAt rver buffer stamps) = c.pingservice rver buffer stamps := by
  unfold pingserviceAt pingservice
  rw [value_foldlM]
  simp only [value_pingPeerAt]

end ClientState

/-! ## The functions of the endpoint list -/

namespace EndpointList

/-- `endpoints[cid]`, changed behind a check of the index. -/
def modifyEntryAt (l : EndpointList) (cid : StageDeviceId) (f : EpEntry → EpEntry) :
    OnTable EndpointList := do
  access cid.toNat
  return l.modifyEntry cid f

/-- `cid_register`. -/
def cidRegisterAt (l : EndpointList) (cid : StageDeviceId) (data : List UInt8) (mode : Epmode)
    (rver : String) (locked : Bool) : OnTable EndpointList :=
  if cid.toNat < maxStageId then
    if locked then l.modifyEntryAt cid fun e => e.register data mode rver else pure l
  else pure l

/-- `cid_setlocalip`. -/
def cidSetlocalipAt (l : EndpointList) (cid : StageDeviceId) (data : List UInt8) :
    OnTable EndpointList :=
  if cid.toNat < maxStageId then l.modifyEntryAt cid fun e => e.setlocalip data else pure l

/-- `cid_setpingtime`. -/
def cidSetpingtimeAt (l : EndpointList) (cid : StageDeviceId) (pingtime : ℚ) (locked : Bool) :
    OnTable EndpointList :=
  if cid.toNat < maxStageId then l.modifyEntryAt cid fun e => e.setpingtime pingtime locked
  else pure l

/-- `cid_set_pubkey`. -/
def cidSetPubkeyAt (l : EndpointList) (cid : StageDeviceId) (data : List UInt8) :
    OnTable EndpointList :=
  if h : data.length = cryptoBoxPublicKeyBytes then
    if cid.toNat < maxStageId then l.modifyEntryAt cid fun e => e.setPubkey ⟨data, h⟩
    else if cid = stageIdServer then pure { l with srvPubkey := ⟨data, h⟩, srvHasPubkey := true }
    else pure l
  else pure l

section

variable (l : EndpointList) (cid : StageDeviceId)

/-- Behind the table nothing is changed. -/
theorem modifyEntry_of_le (f : EpEntry → EpEntry) (h : ¬ cid.toNat < maxStageId) :
    l.modifyEntry cid f = l :=
  dif_neg h

theorem value_modifyEntryAt (f : EpEntry → EpEntry) :
    value (l.modifyEntryAt cid f) = l.modifyEntry cid f := rfl

/-- A method that checks the id does nothing to the table for an id beyond it, as in the model. -/
theorem value_checked (f : EpEntry → EpEntry) :
    value (if cid.toNat < maxStageId then l.modifyEntryAt cid f else pure l) =
      l.modifyEntry cid f := by
  by_cases h : cid.toNat < maxStageId
  · rw [if_pos h, value_modifyEntryAt]
  · rw [if_neg h, value_pure, modifyEntry_of_le l cid f h]

/-- Behind the check every index is one of the table. -/
theorem within_checked (f : EpEntry → EpEntry) :
    Within (· < maxStageId)
      (if cid.toNat < maxStageId then l.modifyEntryAt cid f else pure l) := by
  by_cases h : cid.toNat < maxStageId
  · rw [if_pos h]
    unfold modifyEntryAt
    rw [within_bind_pure, within_access]
    exact h
  · rw [if_neg h]
    exact within_pure l

/-- The registration computes what the model computes. -/
theorem value_cidRegisterAt (data : List UInt8) (mode : Epmode) (rver : String) (locked : Bool) :
    value (l.cidRegisterAt cid data mode rver locked) =
      l.cidRegister cid data mode rver locked := by
  unfold cidRegisterAt cidRegister
  cases locked with
  | false =>
      simp only [Bool.false_eq_true, if_false, ite_self]
      rfl
  | true => exact value_checked l cid _

/-- It uses the entry of the id after the check only. -/
theorem within_cidRegisterAt (data : List UInt8) (mode : Epmode) (rver : String)
    (locked : Bool) :
    Within (· < maxStageId) (l.cidRegisterAt cid data mode rver locked) := by
  unfold cidRegisterAt
  cases locked with
  | false =>
      simp only [Bool.false_eq_true, if_false, ite_self]
      exact within_pure l
  | true => exact within_checked l cid _

/-- The same holds of the key of a device. -/
theorem value_cidSetPubkeyAt (data : List UInt8) :
    value (l.cidSetPubkeyAt cid data) = l.cidSetPubkey cid data := by
  unfold cidSetPubkeyAt cidSetPubkey
  by_cases h : data.length = cryptoBoxPublicKeyBytes
  · rw [dif_pos h, dif_pos h]
    simp only [value_ite, value_modifyEntryAt, value_pure]
  · rw [dif_neg h, dif_neg h, value_pure]

/-- This method checks the id as well. -/
theorem within_cidSetPubkeyAt (data : List UInt8) :
    Within (· < maxStageId) (l.cidSetPubkeyAt cid data) := by
  unfold cidSetPubkeyAt
  by_cases h : data.length = cryptoBoxPublicKeyBytes
  · rw [dif_pos h]
    by_cases hcid : cid.toNat < maxStageId
    · have hchecked := within_checked l cid fun e => e.setPubkey ⟨data, h⟩
      rw [if_pos hcid] at hchecked ⊢
      exact hchecked
    · rw [if_neg hcid, within_ite]
      exact ⟨fun _ => within_pure _, fun _ => within_pure l⟩
  · rw [dif_neg h]
    exact within_pure l

end

end EndpointList

/-! ## Delivered messages -/

namespace Receiver

variable (B : Receiver)

/-- `endpoints[msg.cid]`. -/
def entryAt (cid : StageDeviceId) : OnTable EpDesc := do
  access cid.toNat
  return B.entry cid

/-- The condition under which the payload is taken for a box, in the order of its tests. -/
def triesToOpenAt (m : MsgBuf) : OnTable Bool :=
  if m.cid.toNat < maxStageId then do
    let ep ← B.entryAt m.cid
    return ep.mode.has bEncryption && B.client.mode.has bEncryption
  else pure false

/-- `send_msg` and `send_len`, and `decrypted_msg` behind. -/
def plaintextAt (L : Sodium) (m : MsgBuf) : OnTable (List UInt8 × Buffer bufSize) := do
  let tries ← B.triesToOpenAt m
  return if tries then
    (L.boxSealOpen m.payload B.recipientPublic B.recipientSecret).elim
      (m.payload, B.decryptedMsg) fun opened =>
        let decryptedMsg := B.decryptedMsg.write 0 opened
        (decryptedMsg.read 0 (sizeSub m.size cryptoBoxSealBytes), decryptedMsg)
  else (m.payload, B.decryptedMsg)

/-- `process_msg` behind the test for special ports. -/
def processDataAt (L : Sodium) (m : MsgBuf) : OnTable Processed := do
  let (data, decryptedMsg) ← B.plaintextAt L m
  let localSends := B.sendLocal data m.destport B.client.portoffset ++
    B.xdest.flatMap fun xd => B.sendLocal data m.destport xd
  return if isSameNetwork m.sender B.localep then
    ⟨m, { B with decryptedMsg := decryptedMsg }, localSends, [], none⟩
  else
    ⟨m, { B with decryptedMsg := decryptedMsg, proxyclients := B.proxiesFor m }, localSends,
      B.sendProxies m data, none⟩

end Receiver

/-- `ovboxclient_t::process_msg`. -/
def processMsgAt (L : Sodium) (B : Receiver) (m : MsgBuf) : OnTable Processed :=
  let m := m.invalidate
  if m.cid = B.client.callerid ∧ m.destport ≠ portListcid ∧ m.destport ≠ portPubkey then
    pure ⟨m, B, [], [], none⟩
  else if maxSpecialPort < m.destport then B.processDataAt L m
  else pure ⟨m, B, [], [], controlCall m⟩

namespace ClientState

/-- The function that a reserved port stands for; the functions of pings and pongs do not use
the table. -/
def performAt (c : ClientState) (clock : List UInt8 → ℚ) (locked : Bool) (m : MsgBuf) :
    ControlCall → OnTable ClientState
  | .processPingMsg =>
      pure { c with remoteSends := c.remoteSends ++ [(Libov.processPingMsg c.callerid m).2] }
  | .processPongMsg => pure (c.processPongMsg clock m)
  | .cidSetlocalip cid msg => do
      return { c with endpointList := ← c.endpointList.cidSetlocalipAt cid msg }
  | .cidRegister cid msg mode => do
      return { c with endpointList := ← c.endpointList.cidRegisterAt cid msg mode "" locked }
  | .cidSetPubkey cid msg => do
      return { c with endpointList := ← c.endpointList.cidSetPubkeyAt cid msg }

/-- `process_msg` with everything it does. -/
def handleAt (L : Sodium) (clock : List UInt8 → ℚ) (locked : Bool) (c : ClientState)
    (m : MsgBuf) : OnTable ClientState := do
  let p ← processMsgAt L c.receiver m
  p.call.elim (pure (c.behind p)) ((c.behind p).performAt clock locked p.msg)

end ClientState

section Messages

variable (L : Sodium) (B : Receiver) (c : ClientState) (clock : List UInt8 → ℚ) (locked : Bool)
  (m : MsgBuf)

/-- The noted decryption of a message is that of the model. -/
theorem value_plaintextAt : value (B.plaintextAt L m) = B.plaintext L m := by
  have htries : value (B.triesToOpenAt m) = true ↔ B.TriesToOpen m := by
    unfold Receiver.triesToOpenAt Receiver.TriesToOpen
    by_cases hcid : m.cid.toNat < maxStageId
    · rw [if_pos hcid]
      simp only [hcid, true_and, ← Bool.and_eq_true]
      rfl
    · rw [if_neg hcid]
      simp [hcid]
  unfold Receiver.plaintextAt Receiver.plaintext
  simp only [value_bind, value_pure]
  by_cases hopen : B.TriesToOpen m
  · rw [if_pos hopen, if_pos (htries.mpr hopen)]
    cases L.boxSealOpen m.payload B.recipientPublic B.recipientSecret with
    | none => rfl
    | some opened => rfl
  · rw [if_neg hopen, if_neg (mt htries.mp hopen)]

/-- `process_msg` with its indices is `process_msg`. -/
theorem value_processMsgAt : value (processMsgAt L B m) = processMsg L B m := by
  unfold processMsgAt processMsg Receiver.processDataAt Receiver.processData
  simp only [value_ite, value_pure, value_bind, value_plaintextAt]

/-- A client with a new table is noted by what is noted for the table. -/
theorem value_withList {x : OnTable EndpointList} {l : EndpointList} (h : value x = l) :
    value (do return { c with endpointList := ← x }) = { c with endpointList := l } := by
  rw [value_bind, h, value_pure]

/-- What is called for a control message computes the same. -/
theorem value_performAt (call : ControlCall) :
    value (c.performAt clock locked m call) = c.perform clock locked m call := by
  cases call with
  | processPingMsg => rfl
  | processPongMsg => rfl
  | cidSetlocalip cid msg => exact value_withList c (EndpointList.value_checked _ cid _)
  | cidRegister cid msg mode =>
      exact value_withList c (EndpointList.value_cidRegisterAt _ cid msg mode "" locked)
  | cidSetPubkey cid msg => exact value_withList c (EndpointList.value_cidSetPubkeyAt _ cid msg)

/-- So does the whole handling of a received message. -/
theorem value_handleAt : value (c.handleAt L clock locked m) = handle L clock locked c m := by
  unfold ClientState.handleAt handle
  simp only [value_bind, value_processMsgAt]
  cases (processMsg L c.receiver m).call with
  | none => rfl
  | some call => exact value_performAt _ clock locked _ call

/-- The index of a delivered message has been checked. -/
theorem within_processMsgAt : Within (· < maxStageId) (processMsgAt L B m) := by
  have hopen (m : MsgBuf) : Within (· < maxStageId) (B.triesToOpenAt m) := by
    unfold Receiver.triesToOpenAt
    rw [within_ite]
    constructor
    · intro hcid
      unfold Receiver.entryAt
      rw [within_bind_pure, within_bind_pure, within_access]
      exact hcid
    · intro _
      exact within_pure false
  have hdata (m : MsgBuf) : Within (· < maxStageId) (B.processDataAt L m) := by
    unfold Receiver.processDataAt Receiver.plaintextAt
    rw [within_bind_pure, within_bind_pure]
    exact hopen m
  unfold processMsgAt
  rw [within_ite, within_ite]
  exact ⟨fun _ => within_pure _, fun _ => ⟨fun _ => hdata _, fun _ => within_pure _⟩⟩

/-- What is called for a control message uses entries of the table only, because the methods check
the id. -/
theorem within_performAt (call : ControlCall) :
    Within (· < maxStageId) (c.performAt clock locked m call) := by
  cases call with
  | processPingMsg => exact within_pure _
  | processPongMsg => exact within_pure _
  | cidSetlocalip cid msg =>
      exact (within_bind_pure _ _).mpr (EndpointList.within_checked _ cid _)
  | cidRegister cid msg mode =>
      exact (within_bind_pure _ _).mpr
        (EndpointList.within_cidRegisterAt _ cid msg mode "" locked)
  | cidSetPubkey cid msg =>
      exact (within_bind_pure _ _).mpr (EndpointList.within_cidSetPubkeyAt _ cid msg)

/-- So does the handling of a message: its id is checked before the table is read. -/
theorem within_handleAt : Within (· < maxStageId) (c.handleAt L clock locked m) := by
  unfold ClientState.handleAt
  rw [within_bind]
  refine ⟨within_processMsgAt L c.receiver m, ?_⟩
  cases (value (processMsgAt L c.receiver m)).call with
  | none => exact within_pure _
  | some call => exact within_performAt _ clock locked _ call

end Messages

/-! ## The own entry -/

/-- The peers for which a forwarding thread looks at its own entry. -/
def OvboxClient.ComparesWith (c : OvboxClient) (ocid : ℕ) (ep : EpDesc) : Prop :=
  ep.timeout ≠ 0 ∧ ocid ≠ c.callerid.toNat ∧ ep.mode.has bPeer2peer = true

section OwnEntry

variable (L : Sodium) (c : OvboxClient)

/-- The comparison with the own network reads the own entry, which is one of the table exactly for
an own id that is in range. -/
theorem within_targetInSameNetworkAt (ep : EpDesc) :
    Within (· < maxStageId) (c.targetInSameNetworkAt ep) ↔ c.callerid.toNat < maxStageId := by
  unfold OvboxClient.targetInSameNetworkAt OvboxClient.selfAt
  rw [within_bind, within_bind, within_access]
  simp

/-- A pass of `recsrv` reads the own entry only where it compares a peer with it. -/
theorem within_recsrvPeerAt (msg : Buffer bufSize) (msglen ocid : ℕ) (ep : EpDesc) (p : Pass) :
    Within (· < maxStageId) (recsrvPeerAt L c msg msglen ocid ep p) ↔
      (c.ComparesWith ocid ep → c.callerid.toNat < maxStageId) := by
  unfold recsrvPeerAt OvboxClient.ComparesWith
  simp only [within_ite, within_bind, within_pure, within_targetInSameNetworkAt]
  tauto

/-- The same holds of a pass of `xrecsrv`. -/
theorem within_xrecsrvPeerAt (msg : Buffer bufSize) (msglen ocid : ℕ) (ep : EpDesc) (p : Pass) :
    Within (· < maxStageId) (xrecsrvPeerAt L c msg msglen ocid ep p) ↔
      (c.ComparesWith ocid ep → c.callerid.toNat < maxStageId) := by
  unfold xrecsrvPeerAt OvboxClient.ComparesWith
  simp only [within_ite, within_bind, within_pure, within_targetInSameNetworkAt]
  tauto

/-- The loop of either thread. -/
theorem within_peersAt {body : ℕ → EpDesc → Pass → OnTable Pass}
    (hbody : ∀ ocid ep p, Within (· < maxStageId) (body ocid ep p) ↔
      (c.ComparesWith ocid ep → c.callerid.toNat < maxStageId)) (p : Pass) :
    Within (· < maxStageId) (peersAt body c p) ↔
      (c.mode.has bPeer2peer = true ∧ (∃ ep ∈ c.endpoints.1.zipIdx, c.ComparesWith ep.2 ep.1) →
        c.callerid.toNat < maxStageId) := by
  have hloop := within_foldlM (fun _ : Pass => True)
    (fun ep : EpDesc × ℕ => c.ComparesWith ep.2 ep.1) (f := fun p ep => body ep.2 ep.1 p)
    (fun _ _ _ => trivial) (fun p ep _ => hbody ep.2 ep.1 p) (c.endpoints.1.zipIdx 0) p trivial
  unfold peersAt peerLoopAt
  rw [within_ite, hloop]
  simp

/-- The thread on one payload. -/
def forwardAt (t : ThreadState) (payload : List UInt8) :
    Thread → OnTable (Pass × ThreadState × OvboxUdpSocket)
  | .recsrv => recsrvAt L c t payload
  | .xrecsrv destport => xrecsrvAt L c destport t payload

/-- A forwarding thread with its indices is the thread. -/
theorem value_forwardAt (t : ThreadState) (payload : List UInt8) (th : Thread) :
    value (forwardAt L c t payload th) = forward L c t payload th := by
  cases th with
  | recsrv => exact value_recsrvAt L c t payload
  | xrecsrv destport => exact value_xrecsrvAt L c destport t payload

/-- It uses indices of the table exactly if the own id is in range or no peer is compared
with it. -/
theorem within_forwardAt (t : ThreadState) (payload : List UInt8) (th : Thread) :
    Within (· < maxStageId) (forwardAt L c t payload th) ↔
      (0 < payload.length ∧ c.mode.has bPeer2peer = true ∧
          (∃ ep ∈ c.endpoints.1.zipIdx, c.ComparesWith ep.2 ep.1) →
        c.callerid.toNat < maxStageId) := by
  cases th with
  | recsrv =>
      unfold forwardAt recsrvAt
      simp only [within_ite, within_bind, within_pure, and_true, implies_true, and_imp,
        within_peersAt c (within_recsrvPeerAt L c _ _)]
  | xrecsrv destport =>
      unfold forwardAt xrecsrvAt
      simp only [within_ite, within_bind, within_pure, and_true, implies_true, and_imp,
        within_peersAt c (within_xrecsrvPeerAt L c _ _)]

end OwnEntry

/-! ## Calls -/

/-- A call of one of the functions that use the table. -/
inductive TableCall where
  | processMsg (clock : List UInt8 → ℚ) (locked : Bool) (m : MsgBuf)
  | cidRegister (cid : StageDeviceId) (data : List UInt8) (mode : Epmode) (rver : String)
      (locked : Bool)
  | cidSetlocalip (cid : StageDeviceId) (data : List UInt8)
  | cidSetpingtime (cid : StageDeviceId) (pingtime : ℚ) (locked : Bool)
  | cidSetPubkey (cid : StageDeviceId) (data : List UInt8)
  /-- a payload at the local socket of `recsrv` or of `xrecsrv` -/
  | payload (thread : ℕ) (th : Thread) (payload : List UInt8)
  | pingservice (rver : List UInt8) (buffer : Buffer pingbufsize)
      (stamps : Fin maxStageId → PingClass → TimeStamp)

namespace ClientState

/-- The client behind a call. -/
def call (L : Sodium) (c : ClientState) : TableCall → ClientState
  | .processMsg clock locked m => handle L clock locked c m
  | .cidRegister cid data mode rver locked =>
      { c with endpointList := c.endpointList.cidRegister cid data mode rver locked }
  | .cidSetlocalip cid data =>
      { c with endpointList := c.endpointList.cidSetlocalip cid data }
  | .cidSetpingtime cid pingtime locked =>
      { c with endpointList := c.endpointList.cidSetpingtime cid pingtime locked }
  | .cidSetPubkey cid data =>
      { c with endpointList := c.endpointList.cidSetPubkey cid data }
  | .payload thread th payload => c.forwardPayload L thread th payload
  | .pingservice rver buffer stamps => c.pingservice rver buffer stamps

/-- The call with the indices that it uses. -/
def callAt (L : Sodium) (c : ClientState) : TableCall → OnTable ClientState
  | .processMsg clock locked m => c.handleAt L clock locked m
  | .cidRegister cid data mode rver locked => do
      return { c with
        endpointList := ← c.endpointList.cidRegisterAt cid data mode rver locked }
  | .cidSetlocalip cid data => do
      return { c with endpointList := ← c.endpointList.cidSetlocalipAt cid data }
  | .cidSetpingtime cid pingtime locked => do
      return { c with endpointList := ← c.endpointList.cidSetpingtimeAt cid pingtime locked }
  | .cidSetPubkey cid data => do
      return { c with endpointList := ← c.endpointList.cidSetPubkeyAt cid data }
  | .payload thread th payload => do
      let r ← forwardAt L c.client (c.threads thread) payload th
      return { c with
        remoteServer := r.2.2
        threads := Function.update c.threads thread r.2.1
        remoteSends := c.remoteSends ++ r.1.sends.map Sent.datagram }
  | .pingservice rver buffer stamps => c.pingserviceAt rver buffer stamps

/-- The calls that look at the own entry: a ping service that knows an active peer, and a
thread that has a payload for a peer in peer-to-peer mode. -/
def UsesOwnEntry (c : ClientState) : TableCall → Prop
  | .payload _ _ payload => payload ≠ [] ∧ c.mode.has bPeer2peer = true ∧
      ∃ i, (c.endpointList.endpoints i).timeout ≠ 0 ∧ (i : ℕ) ≠ c.callerid.toNat ∧
        (c.endpointList.endpoints i).mode.has bPeer2peer = true
  | .pingservice _ _ _ =>
      ∃ i, (c.endpointList.endpoints i).timeout ≠ 0 ∧ (i : ℕ) ≠ c.callerid.toNat
  | _ => False

end ClientState

section Calls

variable (L : Sodium) (c : ClientState)

/-- Apart from the notes, a call does what it does in the other modules. -/
theorem value_callAt (call : TableCall) : value (c.callAt L call) = c.call L call := by
  cases call with
  | processMsg clock locked m => exact value_handleAt L c clock locked m
  | cidRegister cid data mode rver locked =>
      exact value_withList c (EndpointList.value_cidRegisterAt _ cid data mode rver locked)
  | cidSetlocalip cid data => exact value_withList c (EndpointList.value_checked _ cid _)
  | cidSetpingtime cid pingtime locked =>
      exact value_withList c (EndpointList.value_checked _ cid _)
  | cidSetPubkey cid data =>
      exact value_withList c (EndpointList.value_cidSetPubkeyAt _ cid data)
  | payload thread th payload =>
      unfold ClientState.callAt ClientState.call ClientState.forwardPayload
      simp only [value_bind, value_pure, value_forwardAt]
  | pingservice rver buffer stamps => exact c.value_pingserviceAt rver buffer stamps

/-- An entry belongs to another id if its index is another one. -/
theorem deviceId_ne_iff {i : Fin maxStageId} {cid : StageDeviceId} :
    deviceId i ≠ cid ↔ (i : ℕ) ≠ cid.toNat := by
  have hsmall : maxStageId < 256 := by decide
  have hid : (deviceId i).toNat = i := Nat.mod_eq_of_lt (i.2.trans hsmall)
  rw [ne_eq, ← UInt8.toNat_inj, hid]

/-- The entries of the table with their indices. -/
theorem exists_mem_table {R : ℕ → EpDesc → Prop} :
    (∃ ep ∈ c.client.endpoints.1.zipIdx, R ep.2 ep.1) ↔
      ∃ i : Fin maxStageId, R i (c.endpointList.endpoints i).toEpDesc := by
  have htable : c.client.endpoints.1 =
      List.ofFn fun i => (c.endpointList.endpoints i).toEpDesc := rfl
  constructor
  · rintro ⟨⟨ep, i⟩, hmem, hR⟩
    rw [List.mk_mem_zipIdx_iff_getElem?, htable] at hmem
    obtain ⟨hi, hep⟩ := List.getElem?_eq_some_iff.mp hmem
    rw [List.length_ofFn] at hi
    rw [List.getElem_ofFn] at hep
    exact ⟨⟨i, hi⟩, hep ▸ hR⟩
  · rintro ⟨i, hR⟩
    refine ⟨((c.endpointList.endpoints i).toEpDesc, i), ?_, hR⟩
    rw [List.mk_mem_zipIdx_iff_getElem?, htable]
    simp

/-- A payload uses the own entry in a comparison only. -/
theorem within_payload (thread : ℕ) (th : Thread) (payload : List UInt8) :
    Within (· < maxStageId) (c.callAt L (.payload thread th payload)) ↔
      (c.UsesOwnEntry (.payload thread th payload) → c.callerid.toNat < maxStageId) := by
  unfold ClientState.callAt ClientState.UsesOwnEntry
  rw [within_bind_pure, within_forwardAt, exists_mem_table c (R := c.client.ComparesWith),
    List.length_pos_iff]
  exact Iff.rfl

/-- A turn of `pingservice` uses the own entry for the pings of another one. -/
theorem within_pingservice (rver : List UInt8) (buffer : Buffer pingbufsize)
    (stamps : Fin maxStageId → PingClass → TimeStamp) :
    Within (· < maxStageId) (c.callAt L (.pingservice rver buffer stamps)) ↔
      (c.UsesOwnEntry (.pingservice rver buffer stamps) → c.callerid.toNat < maxStageId) := by
  -- neither the table nor the own id changes during a turn
  have hkeep : ∀ (s : ClientState) (i : Fin maxStageId),
      s.endpointList = c.endpointList ∧ s.callerid = c.callerid →
      (value (s.pingPeerAt buffer stamps i)).endpointList = c.endpointList ∧
        (value (s.pingPeerAt buffer stamps i)).callerid = c.callerid := by
    intro s i hs
    rw [ClientState.value_pingPeerAt]
    unfold ClientState.pingPeer
    dsimp only
    split_ifs
    · exact hs
    · exact hs
    · exact hs
  have hstep : ∀ (s : ClientState) (i : Fin maxStageId),
      s.endpointList = c.endpointList ∧ s.callerid = c.callerid →
      (Within (· < maxStageId) (s.pingPeerAt buffer stamps i) ↔
        ((c.endpointList.endpoints i).timeout ≠ 0 ∧ (i : ℕ) ≠ c.callerid.toNat →
          c.callerid.toNat < maxStageId)) := by
    rintro s i ⟨hlist, hid⟩
    unfold ClientState.pingPeerAt
    simp only [within_ite, within_bind, within_pure, within_targetInSameNetworkAt, and_true,
      implies_true, hlist, deviceId_ne_iff, ← hid]
    exact Iff.rfl
  have hloop := within_foldlM _ _ hkeep hstep (List.finRange maxStageId) (c.register rver)
    ⟨rfl, rfl⟩
  unfold ClientState.callAt ClientState.pingserviceAt ClientState.UsesOwnEntry
  simp only [List.mem_finRange, true_and] at hloop
  exact hloop

/-- A call uses indices of the table alone exactly if the own id is one, or the call does not
look at the own entry. -/
theorem table_access_iff (call : TableCall) :
    (∀ i ∈ noted (c.callAt L call), i < maxStageId) ↔
      c.callerid.toNat < maxStageId ∨ ¬ c.UsesOwnEntry call := by
  rw [or_comm, ← imp_iff_not_or]
  -- the functions that are not concerned with the own entry check their index
  cases call with
  | processMsg clock locked m =>
      exact iff_of_true (within_handleAt L c clock locked m) False.elim
  | cidRegister cid data mode rver locked =>
      exact iff_of_true ((within_bind_pure _ _).mpr
        (EndpointList.within_cidRegisterAt _ cid data mode rver locked)) False.elim
  | cidSetlocalip cid data =>
      exact iff_of_true ((within_bind_pure _ _).mpr
        (EndpointList.within_checked _ cid _)) False.elim
  | cidSetpingtime cid pingtime locked =>
      exact iff_of_true ((within_bind_pure _ _).mpr
        (EndpointList.within_checked _ cid _)) False.elim
  | cidSetPubkey cid data =>
      exact iff_of_true ((within_bind_pure _ _).mpr
        (EndpointList.within_cidSetPubkeyAt _ cid data)) False.elim
  | payload thread th payload => exact within_payload L c thread th payload
  | pingservice rver buffer stamps => exact within_pingservice L c rver buffer stamps

end Calls

/-- A client with the id `40`, which the constructor takes as it is, after a peer has
registered. -/
def ClientState.behindTable : ClientState :=
  { ClientState.idle with
    callerid := 40
    endpointList := ClientState.idle.endpointList.cidRegister 3
      (List.replicate sizeofEndpoint 0) bPeer2peer "" true }

/-- Its ping service and its forwarding thread both use the own id for an index. -/
theorem table_access_outside :
    (¬ ∀ i ∈ noted (ClientState.behindTable.callAt Sodium.padding
        (.pingservice [] (Buffer.zero _) fun _ _ => Buffer.zero _)), i < maxStageId) ∧
      ¬ ∀ i ∈ noted (ClientState.behindTable.callAt Sodium.padding (.payload 0 .recsrv [1])),
        i < maxStageId := by
  have hid : ¬ ClientState.behindTable.callerid.toNat < maxStageId := by decide
  let peer : Fin maxStageId := ⟨3, by decide⟩
  have hactive : (ClientState.behindTable.endpointList.endpoints peer).timeout ≠ 0 := by decide
  have hmode : (ClientState.behindTable.endpointList.endpoints peer).mode.has bPeer2peer = true :=
    by decide
  have hother : (peer : ℕ) ≠ ClientState.behindTable.callerid.toNat := by decide
  constructor
  · intro h
    exact hid ((within_pingservice Sodium.padding _ _ _ _).mp h ⟨peer, hactive, hother⟩)
  · intro h
    exact hid ((within_payload Sodium.padding _ 0 .recsrv [1]).mp h
      ⟨List.cons_ne_nil _ _, rfl, peer, hactive, hother, hmode⟩)

end Libov
