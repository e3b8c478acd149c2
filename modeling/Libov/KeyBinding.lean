/-
# The keys that payloads are sealed with

A payload is sealed for a peer with the key in its entry of the endpoint table, if the entry
has one.  That key is the payload of the last `PORT_PUBKEY` message with the id of the entry
since the entry was reset, and nothing else that is received changes it.

* `Tells`, `Resets` : the steps that count;
* `sealKey_step_iff`, `srvSealKey_step_iff` : what a step does to the keys;
* `KeySince` : the last key that has been told;
* `forward_withKeys` : the forwarding threads read no other keys;
* `peer_key_binding` : both together, over the runs of a client.
-/
import Libov.ClientNode
import Libov.ForwardingSealing

open Runs

namespace Libov

/-! ## The keys of the endpoint list -/

/-- The key that a payload can be sealed with for the entry. -/
def EpDesc.sealKey (e : EpDesc) : Option PublicKey := if e.hasPubkey then some e.pubkey else none

/-- The key that a payload can be sealed with for the relay server. -/
def EndpointList.srvSealKey (l : EndpointList) : Option PublicKey :=
  if l.srvHasPubkey then some l.srvPubkey else none

/-- Two endpoint lists with the same keys. -/
structure SameKeys (l l' : EndpointList) : Prop where
  peer : ∀ i, (l'.endpoints i).sealKey = (l.endpoints i).sealKey
  srv : l'.srvSealKey = l.srvSealKey

/-- A list has the keys that it has. -/
theorem SameKeys.refl (l : EndpointList) : SameKeys l l := ⟨fun _ => rfl, rfl⟩

/-- Having the same keys can be followed from list to list. -/
theorem SameKeys.trans {l l' l'' : EndpointList} (h : SameKeys l l') (h' : SameKeys l' l'') :
    SameKeys l l'' :=
  ⟨fun i => (h'.peer i).trans (h.peer i), h'.srv.trans h.srv⟩

/-- A change to other members of an entry. -/
theorem sameKeys_modifyEntry (l : EndpointList) (cid : StageDeviceId) {f : EpEntry → EpEntry}
    (hf : ∀ e, (f e).sealKey = e.sealKey) : SameKeys l (l.modifyEntry cid f) := by
  refine ⟨fun i => ?_, ?_⟩
  · rw [l.endpoints_modifyEntry]
    split_ifs
    · exact hf _
    · rfl
  · unfold EndpointList.modifyEntry
    split_ifs
    · rfl
    · rfl

section CidSetPubkey

variable (l : EndpointList) (cid : StageDeviceId) (key : PublicKey)

/-- `cid_set_pubkey` with a string of another length does nothing. -/
theorem cidSetPubkey_of_length_ne {data : List UInt8} (h : data.length ≠ cryptoBoxPublicKeyBytes) :
    l.cidSetPubkey cid data = l := by
  unfold EndpointList.cidSetPubkey
  rw [dif_neg h]

/-- `cid_set_pubkey` with a key sets the key of one entry. -/
theorem sealKey_cidSetPubkey (i : Fin maxStageId) :
    ((l.cidSetPubkey cid key.1).endpoints i).sealKey
      = if cid.toNat = i then some key else (l.endpoints i).sealKey := by
  unfold EndpointList.cidSetPubkey
  rw [dif_pos key.2]
  by_cases hcid : cid.toNat < maxStageId
  · rw [if_pos hcid, l.endpoints_modifyEntry]
    split_ifs
    · rfl
    · rfl
  · have hne : cid.toNat ≠ i := fun h => hcid (h ▸ i.2)
    rw [if_neg hcid, if_neg hne]
    split_ifs
    · rfl
    · rfl

/-- Or that of the relay server. -/
theorem srvSealKey_cidSetPubkey :
    (l.cidSetPubkey cid key.1).srvSealKey
      = if cid = stageIdServer then some key else l.srvSealKey := by
  unfold EndpointList.cidSetPubkey
  rw [dif_pos key.2]
  by_cases hcid : cid.toNat < maxStageId
  · have hne : cid ≠ stageIdServer := by
      rintro rfl
      exact absurd hcid (by decide)
    rw [if_pos hcid, if_neg hne]
    unfold EndpointList.modifyEntry
    rw [dif_pos hcid]
    rfl
  · rw [if_neg hcid]
    split_ifs
    · rfl
    · rfl

/-- A check of the table resets entries and leaves the key of the server. -/
theorem srvSealKey_checkstatus (keys : Fin maxStageId → PublicKey) :
    (l.checkstatus keys).srvSealKey = l.srvSealKey := by
  unfold EndpointList.checkstatus EndpointList.logStats
  split_ifs
  · rfl
  · rfl

end CidSetPubkey

/-! ## Delivered messages -/

section Handle

variable {L : Sodium} {clock : List UInt8 → ℚ} {locked : Bool} {c : ClientState} {m : MsgBuf}

/-- A pong writes collectors and reports, and nothing into the table. -/
theorem endpointList_processPongMsg :
    (c.processPongMsg clock m).endpointList = c.endpointList := by
  obtain ⟨collectors, reports, hpong⟩ := processPongMsg_eq clock c m
  rw [hpong]

variable (L clock locked c m) in
/-- A `PORT_PUBKEY` message is handed to `cid_set_pubkey`, whatever its id. -/
theorem endpointList_handle_pubkey (h : m.destport = portPubkey) :
    (handle L clock locked c m).endpointList = c.endpointList.cidSetPubkey m.cid m.payload := by
  have hcall : calledFor c.callerid m.invalidate = some (.cidSetPubkey m.cid m.payload) := by
    have hport : m.invalidate.destport = portPubkey := h
    unfold calledFor controlCall
    rw [hport, if_neg fun hown => hown.2.2 rfl]
    rfl
  rw [handle_of_call hcall]
  rfl

/-- No other message changes a key. -/
theorem sameKeys_handle (h : m.destport ≠ portPubkey) :
    SameKeys c.endpointList (handle L clock locked c m).endpointList := by
  cases hcall : calledFor c.callerid m.invalidate with
  | none =>
      rw [handle_of_not_called hcall]
      exact SameKeys.refl _
  | some call =>
      rw [handle_of_call hcall]
      cases call with
      | processPingMsg => exact SameKeys.refl _
      | processPongMsg =>
          show SameKeys _ (c.processPongMsg clock m.invalidate).endpointList
          rw [endpointList_processPongMsg]
          exact SameKeys.refl _
      | cidSetlocalip cid msg =>
          exact sameKeys_modifyEntry (f := fun e => e.setlocalip msg) _ cid fun e => rfl
      | cidRegister cid msg mode =>
          cases locked with
          | false => exact SameKeys.refl _
          | true =>
              exact sameKeys_modifyEntry (f := fun e => e.register msg mode "") _ cid fun e => rfl
      | cidSetPubkey cid msg =>
          have hport : m.invalidate.destport ≠ portPubkey := h
          unfold calledFor controlCall at hcall
          split_ifs at hcall
          all_goals cases hcall

variable (L clock locked) in
/-- Messages that are data leave all keys as they are. -/
theorem sameKeys_foldl_handle {ms : List MsgBuf} (h : ∀ m ∈ ms, maxSpecialPort < m.destport)
    (c : ClientState) :
    SameKeys c.endpointList (ms.foldl (handle L clock locked) c).endpointList := by
  induction ms generalizing c with
  | nil => exact SameKeys.refl _
  | cons m ms ih =>
      obtain ⟨hport, hrest⟩ := List.forall_mem_cons.mp h
      have hdata : m.destport ≠ portPubkey := by
        intro hpubkey
        rw [hpubkey] at hport
        exact absurd hport (by decide)
      exact (sameKeys_handle hdata).trans (ih hrest _)

end Handle

/-! ## The steps that count -/

/-- The step receives a `PORT_PUBKEY` message with this id and a key as its payload. -/
def Tells (secret : Secret) (cid : StageDeviceId) (key : PublicKey) (e : NodeEvent) : Prop :=
  ∃ seq addr clock locked,
    e = .received (some (header secret cid portPubkey seq ++ key.1, addr)) clock locked

/-- The step is a pass of `checkstatus` that resets the entry. -/
def Resets (i : Fin maxStageId) (n : ClientNode) (e : NodeEvent) : Prop :=
  ∃ keys, e = .checkstatus keys ∧ (n.client.endpointList.endpoints i).timeout = 0 ∧
    (n.client.endpointList.endpoints i).announced = true

section Received

variable {secret : Secret} {cid : StageDeviceId} {key : PublicKey} {x : SendsrvLoop}
  {rx : Received} {clock : List UInt8 → ℚ} {locked : Bool}

/-- A message that tells a key is accepted, with its sender, its port and the key as its payload. -/
theorem incoming_tells (h : Tells secret cid key (.received rx clock locked)) :
    Accepted secret x rx ∧ (incoming secret x rx).destport = portPubkey ∧
      (incoming secret x rx).cid = cid ∧ (incoming secret x rx).payload = key.1 := by
  obtain ⟨seq, addr, _, _, hevent⟩ := h
  obtain ⟨rfl, -, -⟩ := NodeEvent.received.inj hevent
  have hfit : headerLen + key.1.length ≤ bufSize := by
    rw [key.2]
    decide
  obtain ⟨haccepted, hcarries⟩ :=
    carries_received secret cid portPubkey seq key.1 x.msg addr hfit
  unfold Accepted incoming
  exact ⟨haccepted, hcarries.destport, hcarries.cid, hcarries.payload⟩

/-- Nothing else is received as a key. -/
theorem tells_of_incoming (hacc : Accepted secret x rx)
    (hport : (incoming secret x rx).destport = portPubkey)
    (hlen : (incoming secret x rx).payload.length = cryptoBoxPublicKeyBytes) :
    Tells secret (incoming secret x rx).cid ⟨(incoming secret x rx).payload, hlen⟩
      (.received rx clock locked) := by
  have hunpacked := unpacked_received x.msg hacc
  have hsize : (recvSecMsg secret x.msg rx).2.size = cryptoBoxPublicKeyBytes := by
    rw [← hlen]
    unfold MsgBuf.payload
    rw [Buffer.length_read _ _ _ (by rw [incoming, hunpacked.msg]; exact hunpacked.size)]
    rfl
  have hfit : headerLen + cryptoBoxPublicKeyBytes < bufSize := by decide
  obtain ⟨addr, hrx⟩ := bytes_received x.msg hacc (by rw [hsize]; exact hfit)
  have hport' : (recvSecMsg secret x.msg rx).2.destport = portPubkey := hport
  rw [hport'] at hrx
  exact ⟨_, addr, clock, locked, congrArg (fun rx => NodeEvent.received rx clock locked) hrx⟩

/-- A message tells one key to one id. -/
theorem tells_unique {e : NodeEvent} {cid' : StageDeviceId} {key' : PublicKey}
    (h : Tells secret cid key e) (h' : Tells secret cid' key' e) : cid = cid' ∧ key = key' := by
  cases e with
  | received rx clock locked =>
      let x := SendsrvLoop.fresh Endpoint.cleared Endpoint.cleared Endpoint.cleared
      obtain ⟨-, -, hcid, hkey⟩ := incoming_tells (x := x) h
      obtain ⟨-, -, hcid', hkey'⟩ := incoming_tells (x := x) h'
      exact ⟨hcid.symm.trans hcid', Subtype.ext (hkey.symm.trans hkey')⟩
  | checkstatus keys =>
      obtain ⟨_, _, _, _, hevent⟩ := h
      cases hevent
  | payload thread th payload =>
      obtain ⟨_, _, _, _, hevent⟩ := h
      cases hevent

end Received

section Step

variable {L : Sodium} {secret : Secret} {callerid : StageDeviceId} {n : ClientNode}

/-- What a receive does to the keys: it sets the one that it tells, and no other. -/
theorem keys_received (h : n.Running secret callerid) (rx : Received) (clock : List UInt8 → ℚ)
    (locked : Bool) :
    (∃ cid key, Tells secret cid key (.received rx clock locked) ∧
      SameKeys (n.client.endpointList.cidSetPubkey cid key.1)
        (nodeStep L n (.received rx clock locked)).client.endpointList) ∨
    ((∀ cid key, ¬ Tells secret cid key (.received rx clock locked)) ∧
      SameKeys n.client.endpointList
        (nodeStep L n (.received rx clock locked)).client.endpointList) := by
  have hspecial : portPubkey ≤ maxSpecialPort := by decide
  have hsecret : n.client.remoteServer.secret = secret := h.secret
  rw [client_received, hsecret]
  rcases data_of_delivered secret rx h.buf2 h.held with
    hdata | ⟨hacc, -, hlist, hreleased⟩
  · refine Or.inr ⟨fun cid key htells => ?_, sameKeys_foldl_handle L clock locked hdata _⟩
    obtain ⟨hacc, hport, -, -⟩ := incoming_tells (x := n.loop) htells
    rw [turn_special hacc (hport ▸ hspecial) h.buf2] at hdata
    have hfirst := (List.forall_mem_cons.mp hdata).1
    rw [MsgBuf.destport_invalidate, hport] at hfirst
    exact absurd hspecial (UInt16.not_le.mpr hfirst)
  · rw [hlist, List.foldl_cons]
    have hrest := sameKeys_foldl_handle L clock locked hreleased
      (handle L clock locked n.client (incoming secret n.loop rx).invalidate)
    by_cases hport : (incoming secret n.loop rx).destport = portPubkey
    · have hset := endpointList_handle_pubkey L clock locked n.client
        (incoming secret n.loop rx).invalidate ((MsgBuf.destport_invalidate _).trans hport)
      have hpayload : (incoming secret n.loop rx).invalidate.payload
          = (incoming secret n.loop rx).payload := rfl
      rw [MsgBuf.cid_invalidate, hpayload] at hset
      rw [hset] at hrest
      by_cases hlen : (incoming secret n.loop rx).payload.length = cryptoBoxPublicKeyBytes
      · exact Or.inl ⟨_, _, tells_of_incoming hacc hport hlen, hrest⟩
      · rw [cidSetPubkey_of_length_ne _ _ hlen] at hrest
        refine Or.inr ⟨fun cid key htells => ?_, hrest⟩
        obtain ⟨-, -, -, hkey⟩ := incoming_tells (x := n.loop) htells
        exact hlen (hkey ▸ key.2)
    · refine Or.inr ⟨fun cid key htells => ?_, (sameKeys_handle ?_).trans hrest⟩
      · exact hport (incoming_tells (x := n.loop) htells).2.1
      · rw [MsgBuf.destport_invalidate]
        exact hport

/-- What a step does to the key of an entry. -/
theorem sealKey_step_iff (h : n.Running secret callerid) (i : Fin maxStageId) {cid : StageDeviceId}
    (hcid : cid.toNat = i) (key : PublicKey) (e : NodeEvent) :
    ((nodeStep L n e).client.endpointList.endpoints i).sealKey = some key ↔
      Tells secret cid key e ∨ (((∀ key', ¬ Tells secret cid key' e) ∧ ¬ Resets i n e) ∧
        (n.client.endpointList.endpoints i).sealKey = some key) := by
  cases e with
  | received rx clock locked =>
      have hreset : ¬ Resets i n (.received rx clock locked) := by
        rintro ⟨keys, hevent, -⟩
        cases hevent
      rcases keys_received (L := L) h rx clock locked with ⟨cid', key', htells, hkeys⟩ |
        ⟨hnone, hkeys⟩
      · rw [hkeys.peer, sealKey_cidSetPubkey]
        by_cases hown : cid'.toNat = i
        · have hsame : cid' = cid := UInt8.toNat_inj.mp (hown.trans hcid.symm)
          subst hsame
          rw [if_pos hown, Option.some.injEq, or_iff_left fun h => h.1.1 _ htells]
          constructor
          · rintro rfl
            exact htells
          · intro h
            exact (tells_unique htells h).2
        · have hother : ∀ key, ¬ Tells secret cid key (.received rx clock locked) := by
            intro key h
            rw [(tells_unique htells h).1] at hown
            exact hown hcid
          rw [if_neg hown, or_iff_right (hother key), and_iff_right ⟨hother, hreset⟩]
      · rw [hkeys.peer, or_iff_right (hnone cid key), and_iff_right ⟨hnone cid, hreset⟩]
  | checkstatus keys =>
      have hnone : ∀ key', ¬ Tells secret cid key' (.checkstatus keys) := by
        rintro key' ⟨_, _, _, _, hevent⟩
        cases hevent
      rw [or_iff_right (hnone key)]
      obtain ⟨hdesc, -⟩ := toEpDesc_checkstatus n.client.endpointList keys i
      show ((n.client.endpointList.checkstatus keys).endpoints i).sealKey = some key ↔ _
      rw [hdesc]
      rcases check_cases i (keys i) (n.client.endpointList.endpoints i) with ⟨htimeout, he, -⟩ |
        ⟨htimeout, hannounced, he, -⟩ | ⟨htimeout, hannounced, he, -⟩
      · -- counted down
        have hkept : ¬ Resets i n (.checkstatus keys) := by
          rintro ⟨_, -, hzero, -⟩
          exact htimeout hzero
        rw [he, and_iff_right ⟨hnone, hkept⟩]
        rfl
      · -- run out: the fresh entry has no key
        have hreset : Resets i n (.checkstatus keys) := ⟨keys, rfl, htimeout, hannounced⟩
        rw [he]
        exact iff_of_false (fun h => Option.some_ne_none key h.symm) fun h => h.1.2 hreset
      · have hkept : ¬ Resets i n (.checkstatus keys) := by
          rintro ⟨_, -, -, htrue⟩
          exact Bool.false_ne_true (hannounced.symm.trans htrue)
        rw [he, and_iff_right ⟨hnone, hkept⟩]
  | payload thread th payload =>
      have hnone : ∀ key', ¬ Tells secret cid key' (.payload thread th payload) := by
        rintro key' ⟨_, _, _, _, hevent⟩
        cases hevent
      have hkept : ¬ Resets i n (.payload thread th payload) := by
        rintro ⟨keys, hevent, -⟩
        cases hevent
      rw [or_iff_right (hnone key), and_iff_right ⟨hnone, hkept⟩]
      rfl

/-- What a step does to the key of the relay server, which is never reset. -/
theorem srvSealKey_step_iff (h : n.Running secret callerid) (key : PublicKey) (e : NodeEvent) :
    (nodeStep L n e).client.endpointList.srvSealKey = some key ↔
      Tells secret stageIdServer key e ∨ ((∀ key', ¬ Tells secret stageIdServer key' e) ∧
        n.client.endpointList.srvSealKey = some key) := by
  cases e with
  | received rx clock locked =>
      rcases keys_received (L := L) h rx clock locked with ⟨cid', key', htells, hkeys⟩ |
        ⟨hnone, hkeys⟩
      · rw [hkeys.srv, srvSealKey_cidSetPubkey]
        by_cases hown : cid' = stageIdServer
        · subst hown
          rw [if_pos rfl, Option.some.injEq, or_iff_left fun h => h.1 _ htells]
          constructor
          · rintro rfl
            exact htells
          · intro h
            exact (tells_unique htells h).2
        · have hother : ∀ key, ¬ Tells secret stageIdServer key (.received rx clock locked) :=
            fun key h => hown (tells_unique htells h).1
          rw [if_neg hown, or_iff_right (hother key), and_iff_right hother]
      · rw [hkeys.srv, or_iff_right (hnone _ key), and_iff_right (hnone _)]
  | checkstatus keys =>
      have hnone : ∀ key', ¬ Tells secret stageIdServer key' (.checkstatus keys) := by
        rintro key' ⟨_, _, _, _, hevent⟩
        cases hevent
      rw [or_iff_right (hnone key), and_iff_right hnone]
      show (n.client.endpointList.checkstatus keys).srvSealKey = some key ↔ _
      rw [srvSealKey_checkstatus]
  | payload thread th payload =>
      have hnone : ∀ key', ¬ Tells secret stageIdServer key' (.payload thread th payload) := by
        rintro key' ⟨_, _, _, _, hevent⟩
        cases hevent
      rw [or_iff_right (hnone key), and_iff_right hnone]
      rfl

end Step

/-! ## The last key -/

section Run

variable (L : Sodium) (secret : Secret) (n : ClientNode)

/-- The last `PORT_PUBKEY` message with the id of the entry has told this key, and the entry
has not been reset since. -/
def KeySince (i : Fin maxStageId) (key : PublicKey) (es : List NodeEvent) : Prop :=
  Latest (nodeStep L) (fun _ e => Tells secret (UInt8.ofNat i) key e)
    (fun n e => (∀ key', ¬ Tells secret (UInt8.ofNat i) key' e) ∧ ¬ Resets i n e) n es

/-- The last `PORT_PUBKEY` message with the id of the relay server has told this key. -/
def SrvKeySince (key : PublicKey) (es : List NodeEvent) : Prop :=
  Latest (nodeStep L) (fun _ e => Tells secret stageIdServer key e)
    (fun _ e => ∀ key', ¬ Tells secret stageIdServer key' e) n es

variable {L secret n} {callerid : StageDeviceId}

/-- The index of an entry is the id of its device. -/
theorem toNat_ofNat_id (i : Fin maxStageId) : (UInt8.ofNat i).toNat = i :=
  UInt8.toNat_ofNat_of_lt' (i.2.trans (by decide))

/-- The key in an entry is the last one that has been told since its reset. -/
theorem sealKey_run_iff (h : n.Running secret callerid) {i : Fin maxStageId}
    (hstart : (n.client.endpointList.endpoints i).sealKey = none) (key : PublicKey)
    (es : List NodeEvent) :
    ((run (nodeStep L) n es).client.endpointList.endpoints i).sealKey = some key ↔
      KeySince L secret n i key es := by
  have hnone : (n.client.endpointList.endpoints i).sealKey ≠ some key := by
    rw [hstart]
    exact (Option.some_ne_none key).symm
  unfold KeySince
  exact run_iff_latest (I := ClientNode.Running secret callerid)
    (P := fun n => (n.client.endpointList.endpoints i).sealKey = some key)
    (fun n e hn => running_step L n e hn)
    (fun n e hn => sealKey_step_iff hn i (toNat_ofNat_id i) key e) h hnone es

/-- The key of the relay server is the last one that has been told for its id. -/
theorem srvSealKey_run_iff (h : n.Running secret callerid)
    (hstart : n.client.endpointList.srvSealKey = none) (key : PublicKey) (es : List NodeEvent) :
    (run (nodeStep L) n es).client.endpointList.srvSealKey = some key ↔
      SrvKeySince L secret n key es := by
  have hnone : n.client.endpointList.srvSealKey ≠ some key := by
    rw [hstart]
    exact (Option.some_ne_none key).symm
  unfold SrvKeySince
  exact run_iff_latest (I := ClientNode.Running secret callerid)
    (P := fun n => n.client.endpointList.srvSealKey = some key)
    (fun n e hn => running_step L n e hn) (fun n e hn => srvSealKey_step_iff hn key e) h hnone es

end Run

/-! ## What the forwarding threads read -/

/-- The endpoint list with these keys; where there is none, the memory of the key holds
whatever it holds. -/
def EndpointList.withKeys (l : EndpointList) (told : Fin maxStageId → Option PublicKey)
    (srv : Option PublicKey) (unused : PublicKey) : EndpointList :=
  { l with
    endpoints := fun i =>
      { l.endpoints i with hasPubkey := (told i).isSome, pubkey := (told i).getD unused }
    srvHasPubkey := srv.isSome
    srvPubkey := srv.getD unused }

/-- The client with these keys. -/
def ClientState.withKeys (c : ClientState) (told : Fin maxStageId → Option PublicKey)
    (srv : Option PublicKey) (unused : PublicKey) : ClientState :=
  { c with endpointList := c.endpointList.withKeys told srv unused }

section Forward

variable {L : Sodium}

/-- A key that is not used does not matter. -/
theorem choose_congr (p : Pass) {encrypt : Bool} (msg : Buffer bufSize) (msglen : ℕ)
    {key key' : PublicKey} (h : encrypt = true → key' = key) :
    p.choose L encrypt msg msglen key' = p.choose L encrypt msg msglen key := by
  cases encrypt with
  | false => rfl
  | true => rw [h rfl]

/-- A loop over entries does the same for other entries if its body does. -/
theorem peerLoop_congr {α : Type*} {body body' : ℕ → EpDesc → Pass → Pass} {f f' : α → EpDesc}
    (h : ∀ a ocid p, body' ocid (f' a) p = body ocid (f a) p) (as : List α) (ocid : ℕ) (p : Pass) :
    peerLoop body' ocid (as.map f') p = peerLoop body ocid (as.map f) p := by
  induction as generalizing ocid p with
  | nil => rfl
  | cons a as ih => rw [List.map_cons, List.map_cons, peerLoop, peerLoop, h, ih]

/-- Two clients that differ in the keys of the table at most, and two entries of theirs. -/
structure SameButKeys (c c' : OvboxClient) (e e' : EpDesc) : Prop where
  client : c' = { c with endpoints := c'.endpoints, srvPubkey := c'.srvPubkey }
  self : c'.self.ep = c.self.ep
  entry : e' = { e with pubkey := e'.pubkey }
  pubkey : e.hasPubkey = true → e'.pubkey = e.pubkey

section Peer

variable {c c' : OvboxClient} {e e' : EpDesc} (h : SameButKeys c c' e e')

include h

/-- The keys themselves do not decide whether a payload is sealed for an entry. -/
theorem SameButKeys.encryptsTo : c'.encryptsTo e' = c.encryptsTo e := by
  rw [h.client, h.entry]
  rfl

/-- Where it is, both entries have the same key. -/
theorem SameButKeys.chooses (p : Pass) (msg : Buffer bufSize) (msglen : ℕ) :
    p.choose L (c.encryptsTo e) msg msglen e'.pubkey
      = p.choose L (c.encryptsTo e) msg msglen e.pubkey := by
  refine choose_congr p msg msglen fun hencrypt => h.pubkey ?_
  unfold OvboxClient.encryptsTo at hencrypt
  exact (Bool.and_eq_true_iff.mp hencrypt).2

/-- Whether an entry is in the own network does not depend on keys. -/
theorem SameButKeys.targetInSameNetwork : c'.targetInSameNetwork e' = c.targetInSameNetwork e := by
  unfold OvboxClient.targetInSameNetwork
  rw [h.self, h.entry]

/-- Nor does it depend on them whether something may be sent to it. -/
theorem SameButKeys.sendingPermitted : c'.sendingPermitted e' = c.sendingPermitted e := by
  unfold OvboxClient.sendingPermitted
  rw [h.targetInSameNetwork, h.entry]

/-- The address of a peer does not depend on them either. -/
theorem SameButKeys.peerAddress : c'.peerAddress e' = c.peerAddress e := by
  unfold OvboxClient.peerAddress
  rw [h.targetInSameNetwork, h.client, h.entry]

/-- A pass of `recsrv` over a peer does the same for two clients that differ in unused keys. -/
theorem recsrvPeer_congr (msg : Buffer bufSize) (msglen ocid : ℕ) (p : Pass) :
    recsrvPeer L c' msg msglen ocid e' p = recsrvPeer L c msg msglen ocid e p := by
  unfold recsrvPeer
  rw [h.encryptsTo, h.chooses, h.sendingPermitted, h.peerAddress, h.client, h.entry]

/-- So does a pass of `xrecsrv`. -/
theorem xrecsrvPeer_congr (msg : Buffer bufSize) (msglen ocid : ℕ) (p : Pass) :
    xrecsrvPeer L c' msg msglen ocid e' p = xrecsrvPeer L c msg msglen ocid e p := by
  unfold xrecsrvPeer
  rw [h.encryptsTo, h.chooses, h.sendingPermitted, h.peerAddress, h.client, h.entry]

end Peer

/-- The entry that an index stands for. -/
theorem getD_table (l : EndpointList) (k : ℕ) (outside : EpDesc) :
    l.table.1.getD k outside
      = if h : k < maxStageId then (l.endpoints ⟨k, h⟩).toEpDesc else outside := by
  unfold EndpointList.table
  rw [List.getD_eq_getElem?_getD, List.getElem?_ofFn]
  split_ifs
  · rfl
  · rfl

section Client

variable (c : ClientState) {told : Fin maxStageId → Option PublicKey} {srv : Option PublicKey}
  (htold : ∀ i, told i = (c.endpointList.endpoints i).sealKey)
  (hsrv : srv = c.endpointList.srvSealKey) (unused : PublicKey)

include htold hsrv

/-- The keys of a list may be replaced by those that can be used. -/
theorem sameButKeys_withKeys (i : Fin maxStageId) :
    SameButKeys c.client (c.withKeys told srv unused).client
      (c.endpointList.endpoints i).toEpDesc
      ((c.withKeys told srv unused).endpointList.endpoints i).toEpDesc where
  client := by
    have hflag : srv.isSome = c.endpointList.srvHasPubkey := by
      rw [hsrv, EndpointList.srvSealKey]
      cases c.endpointList.srvHasPubkey <;> rfl
    unfold ClientState.client
    simp only [ClientState.withKeys, EndpointList.withKeys, hflag]
  self := by
    unfold OvboxClient.self
    show ((c.endpointList.withKeys told srv unused).table.1.getD c.callerid.toNat c.outside).ep
      = (c.endpointList.table.1.getD c.callerid.toNat c.outside).ep
    rw [getD_table, getD_table]
    split_ifs
    · rfl
    · rfl
  entry := by
    have hflag : (told i).isSome = (c.endpointList.endpoints i).hasPubkey := by
      rw [htold, EpDesc.sealKey]
      cases (c.endpointList.endpoints i).hasPubkey <;> rfl
    simp only [ClientState.withKeys, EndpointList.withKeys, hflag]
  pubkey := by
    intro hkey
    simp only [ClientState.withKeys, EndpointList.withKeys]
    rw [htold, EpDesc.sealKey, hkey]
    rfl

/-- The forwarding threads read no other keys. -/
theorem forward_withKeys (t : ThreadState) (payload : List UInt8) (th : Thread) :
    forward L (c.withKeys told srv unused).client t payload th
      = forward L c.client t payload th := by
  have hsame := sameButKeys_withKeys c htold hsrv unused
  have hencrypts : (c.withKeys told srv unused).client.encryptsToServer
      = c.client.encryptsToServer := by
    rw [(hsame ⟨0, by decide⟩).client]
    rfl
  have hserver : ∀ (p : Pass) (msg : Buffer bufSize) (msglen : ℕ),
      p.choose L c.client.encryptsToServer msg msglen (c.withKeys told srv unused).client.srvPubkey
        = p.choose L c.client.encryptsToServer msg msglen c.client.srvPubkey := by
    intro p msg msglen
    refine choose_congr p msg msglen fun hencrypt => ?_
    have hkey : c.endpointList.srvHasPubkey = true := (Bool.and_eq_true_iff.mp hencrypt).2
    show srv.getD unused = c.endpointList.srvPubkey
    rw [hsrv, EndpointList.srvSealKey, hkey]
    rfl
  have htable : ∀ l : EndpointList,
      l.table.1 = (List.finRange maxStageId).map fun i => (l.endpoints i).toEpDesc :=
    fun l => List.ofFn_eq_map
  cases th with
  | recsrv =>
      have hloop : ∀ (msg : Buffer bufSize) (msglen : ℕ) (p : Pass),
          peerLoop (recsrvPeer L (c.withKeys told srv unused).client msg msglen) 0
              (c.withKeys told srv unused).client.endpoints.1 p
            = peerLoop (recsrvPeer L c.client msg msglen) 0 c.client.endpoints.1 p := by
        intro msg msglen p
        show peerLoop _ 0 (c.endpointList.withKeys told srv unused).table.1 p
          = peerLoop _ 0 c.endpointList.table.1 p
        rw [htable, htable]
        exact peerLoop_congr (fun i ocid p => recsrvPeer_congr (hsame i) msg msglen ocid p) _ _ p
      show recsrv L _ t payload = recsrv L _ t payload
      unfold recsrv
      simp only [hloop, hencrypts, hserver]
      rfl
  | xrecsrv destport =>
      have hloop : ∀ (msg : Buffer bufSize) (msglen : ℕ) (p : Pass),
          peerLoop (xrecsrvPeer L (c.withKeys told srv unused).client msg msglen) 0
              (c.withKeys told srv unused).client.endpoints.1 p
            = peerLoop (xrecsrvPeer L c.client msg msglen) 0 c.client.endpoints.1 p := by
        intro msg msglen p
        show peerLoop _ 0 (c.endpointList.withKeys told srv unused).table.1 p
          = peerLoop _ 0 c.endpointList.table.1 p
        rw [htable, htable]
        exact peerLoop_congr (fun i ocid p => xrecsrvPeer_congr (hsame i) msg msglen ocid p) _ _ p
      show xrecsrv L _ destport t payload = xrecsrv L _ destport t payload
      unfold xrecsrv
      simp only [hloop]
      rfl

end Client

end Forward

/-! ## Over the runs of a client -/

open Classical in
/-- The key that a condition determines, if there is one. -/
noncomputable def theKey (P : PublicKey → Prop) : Option PublicKey :=
  if h : ∃ key, P key then some h.choose else none

/-- The condition determines the key that it is shown to describe. -/
theorem theKey_eq {P : PublicKey → Prop} {o : Option PublicKey} (h : ∀ key, o = some key ↔ P key) :
    theKey P = o := by
  unfold theKey
  split_ifs with hkey
  · exact ((h _).mpr hkey.choose_spec).symm
  · cases o with
    | none => rfl
    | some key => exact absurd ⟨key, (h key).mp rfl⟩ hkey

section Binding

variable {L : Sodium} {c : ClientState} {t : ThreadState} {th : Thread} {payload : List UInt8}

/-- Nothing is sent for an empty payload. -/
theorem length_pos_of_sends {x : Sent} (hx : x ∈ (forward L c.client t payload th).1.sends) :
    0 < payload.length := by
  by_contra hempty
  have hnil : (forward L c.client t payload th).1.sends = [] := by
    cases th with
    | recsrv =>
        show (recsrv L c.client t payload).1.sends = []
        rw [recsrv, if_neg hempty]
        rfl
    | xrecsrv destport =>
        show (xrecsrv L c.client destport t payload).1.sends = []
        rw [xrecsrv, if_neg hempty]
        rfl
  rw [hnil] at hx
  exact List.not_mem_nil hx

/-- A datagram is the packed message, or sealed with this key. -/
def PlainOrSealed (L : Sodium) (c : ClientState) (t : ThreadState) (th : Thread)
    (payload : List UInt8) (P : PublicKey → Prop) (data : List UInt8) : Prop :=
  data = (th.pack c.client t payload).1.read 0 (th.pack c.client t payload).2 ∨
    ∃ key, P key ∧
      Outgoing L (th.pack c.client t payload).1 (th.pack c.client t payload).2 key true data

/-- What is sent out under a key that meets the condition is the packed message or sealed with such
a key. -/
theorem plainOrSealed_of_outgoing {P : PublicKey → Prop} {key : PublicKey} {encrypt : Bool}
    {data : List UInt8} (h : encrypt = true → P key)
    (hout : Outgoing L (th.pack c.client t payload).1 (th.pack c.client t payload).2 key encrypt
      data) : PlainOrSealed L c t th payload P data := by
  cases encrypt with
  | false =>
      cases hout
      exact Or.inl rfl
  | true => exact Or.inr ⟨key, h rfl, hout⟩

/-- An entry that a payload is sealed for has its key. -/
theorem sealKey_of_encryptsTo {e : EpDesc} (h : c.client.encryptsTo e = true) :
    e.sealKey = some e.pubkey := by
  rw [EpDesc.sealKey, if_pos (Bool.and_eq_true_iff.mp h).2]

/-- A payload is sealed for the server only where its key is known. -/
theorem srvSealKey_of_encryptsToServer (h : c.client.encryptsToServer = true) :
    c.endpointList.srvSealKey = some c.endpointList.srvPubkey := by
  rw [EndpointList.srvSealKey]
  exact if_pos (Bool.and_eq_true_iff.mp h).2

/-- The table that the threads read has the entries in their order. -/
theorem getElem?_table (l : EndpointList) (i : Fin maxStageId) :
    l.table.1[(i : ℕ)]? = some (l.endpoints i).toEpDesc := by
  unfold EndpointList.table
  rw [List.getElem?_ofFn, dif_pos i.2]

/-- A datagram to a peer is the packed message, or sealed with the key of its entry. -/
theorem data_of_peer {x : Sent} (hx : x ∈ (forward L c.client t payload th).1.sends)
    {i : Fin maxStageId} (hrec : x.recipient = .peer i) :
    PlainOrSealed L c t th payload
      (fun key => (c.endpointList.endpoints i).sealKey = some key) x.datagram.data := by
  have hspec := forward_spec L c.client t payload th (length_pos_of_sends hx)
  exact plainOrSealed_of_outgoing sealKey_of_encryptsTo
    (hspec.data_peer hx hrec (getElem?_table c.endpointList i))

/-- A datagram to the relay server is the packed message, or sealed with the key of the server. -/
theorem data_of_server {x : Sent} (hx : x ∈ (forward L c.client t payload th).1.sends)
    (hrec : x.recipient = .server) :
    PlainOrSealed L c t th payload (fun key => c.endpointList.srvSealKey = some key)
      x.datagram.data := by
  have hspec := forward_spec L c.client t payload th (length_pos_of_sends hx)
  refine plainOrSealed_of_outgoing (fun hencrypt => ?_) (hspec.data_server hx hrec)
  cases th with
  | recsrv => exact srvSealKey_of_encryptsToServer hencrypt
  | xrecsrv destport => exact absurd hencrypt Bool.false_ne_true

end Binding

/-- Whatever a client has received before, and whenever entries have been reset: a payload is
sealed for a peer with the key that the last `PORT_PUBKEY` message with the id of the peer
has told since the entry was reset, and for the relay server with the last one with its id.
The forwarding threads do the same with these keys alone, whatever the memory holds where
there is none, and their datagrams are the packed message or sealed with these keys. -/
theorem peer_key_binding (L : Sodium) (c : ClientState) (keys : Fin maxStageId → PublicKey)
    (srvPubkey : PublicKey) (sender1 sender2 sender : Endpoint) (es : List NodeEvent)
    (t : ThreadState) (th : Thread) (payload : List UInt8) :
    let start : ClientNode :=
      ⟨{ c with endpointList := EndpointList.init keys srvPubkey },
        SendsrvLoop.fresh sender1 sender2 sender⟩
    let peerKey := fun i key => KeySince L c.remoteServer.secret start i key es
    let srvKey := fun key => SrvKeySince L c.remoteServer.secret start key es
    let c' := (run (nodeStep L) start es).client
    let p := (forward L c'.client t payload th).1
    (∀ i, c'.client.encryptsTo (c'.endpointList.endpoints i).toEpDesc = true →
      peerKey i (c'.endpointList.endpoints i).pubkey) ∧
    (c'.client.encryptsToServer = true → srvKey c'.endpointList.srvPubkey) ∧
    (∀ unused,
      forward L (c'.withKeys (fun i => theKey (peerKey i)) (theKey srvKey) unused).client t payload
        th = forward L c'.client t payload th) ∧
    (∀ x ∈ p.sends, ∀ i : Fin maxStageId, x.recipient = .peer i →
      PlainOrSealed L c' t th payload (peerKey i) x.datagram.data) ∧
    ∀ x ∈ p.sends, x.recipient = .server →
      PlainOrSealed L c' t th payload srvKey x.datagram.data := by
  intro start peerKey srvKey c' p
  have hrunning : start.Running c.remoteServer.secret c.callerid :=
    ⟨rfl, rfl, rfl, fun h => absurd h Bool.false_ne_true⟩
  have hpeer : ∀ i key, (c'.endpointList.endpoints i).sealKey = some key ↔ peerKey i key :=
    fun i key => sealKey_run_iff hrunning rfl key es
  have hsrv : ∀ key, c'.endpointList.srvSealKey = some key ↔ srvKey key :=
    fun key => srvSealKey_run_iff hrunning rfl key es
  refine ⟨?_, ?_, ?_, ?_, ?_⟩
  · intro i hencrypt
    exact (hpeer i _).mp (sealKey_of_encryptsTo hencrypt)
  · intro hencrypt
    exact (hsrv _).mp (srvSealKey_of_encryptsToServer hencrypt)
  · intro unused
    exact forward_withKeys c' (fun i => theKey_eq (hpeer i)) (theKey_eq hsrv) unused t payload th
  · intro x hx i hrec
    have hdata := data_of_peer hx hrec
    rwa [funext fun key => propext (hpeer i key)] at hdata
  · intro x hx hrec
    have hdata := data_of_server hx hrec
    rwa [funext fun key => propext (hsrv key)] at hdata

end Libov
