/-
# The encryption indicator (`ovboxclient_t::get_encrypt_state`)

`recsrv` counts the destinations it chooses a message for, and those of them that it seals the
message for.  The datagrams are sent at other places, under further conditions.

* `recsrv_peersTotal`, `recsrv_peersEncrypted` : what the two counters count;
* `encrypt_state_truthful_iff` : when the indicator is about the datagrams that are sent.
-/
import Libov.ForwardingSealing

namespace Libov

/-- `get_encrypt_state`. -/
def ThreadState.getEncryptState (t : ThreadState) : UInt8 :=
  t.sendEncryptAny.toUInt8 + t.sendEncryptAll.toUInt8

/-! ## What the indicator promises -/

/-- The datagram carries the payload sealed with the key of its recipient. -/
def OvboxClient.SealedSend (c : OvboxClient) (L : Sodium) (payload : List UInt8) (x : Sent) :
    Prop :=
  (∃ ocid ep, x.recipient = .peer ocid ∧ c.endpoints.1[ocid]? = some ep ∧
    Thread.recsrv.SealedFor c L payload ep.pubkey x.datagram.data) ∨
  (x.recipient = .server ∧ Thread.recsrv.SealedFor c L payload c.srvPubkey x.datagram.data)

/-- The state behind a payload tells what has been done with it. -/
structure TruthfulState (L : Sodium) (c : OvboxClient) (payload : List UInt8)
    (r : Pass × ThreadState × OvboxUdpSocket) : Prop where
  all : r.2.1.getEncryptState = 2 → ∀ x ∈ r.1.sends, c.SealedSend L payload x
  any : 1 ≤ r.2.1.getEncryptState → ∃ x ∈ r.1.sends, c.SealedSend L payload x

namespace OvboxClient

variable (c : OvboxClient)

/-- The table has an active peer that agrees on encryption, or a copy for the relay server is
sealed. -/
def SealCounted : Prop :=
  (c.mode.has bPeer2peer = true ∧ ∃ ocid ep, c.endpoints.1[ocid]? = some ep ∧
    c.activePeer ocid ep = true ∧ c.encryptsTo ep = true) ∨
  ((c.mode.has bPeer2peer = false ∨ c.SomeNotPeer) ∧ c.encryptsToServer = true)

/-- One of these peers gets a datagram, or the relay server has a port. -/
def SealSent : Prop :=
  (c.mode.has bPeer2peer = true ∧ ∃ ocid ep, c.endpoints.1[ocid]? = some ep ∧
    c.Eligible ocid ep ∧ c.encryptsTo ep = true) ∨
  ((c.mode.has bPeer2peer = false ∨ c.SomeNotPeer) ∧ c.encryptsToServer = true ∧ c.toport ≠ 0)

end OvboxClient

/-! ## The counters -/

/-- The counters behind a loop body. -/
theorem recsrvPeer_counters (L : Sodium) (c : OvboxClient) (msg : Buffer bufSize) (msglen ocid : ℕ)
    (ep : EpDesc) (p : Pass) :
    (recsrvPeer L c msg msglen ocid ep p).peersTotal
        = p.peersTotal + (c.activePeer ocid ep).toNat ∧
      (recsrvPeer L c msg msglen ocid ep p).peersEncrypted
        = p.peersEncrypted + (c.activePeer ocid ep && c.encryptsTo ep).toNat := by
  unfold recsrvPeer OvboxClient.activePeer OvboxClient.activeOther
  by_cases htime : ep.timeout = 0
  · simp [htime]
  by_cases hself : ocid = c.callerid.toNat
  · simp [hself]
  rw [if_pos htime, if_pos hself, bne_iff_ne.mpr htime, bne_iff_ne.mpr hself]
  by_cases hpeer : ep.mode.has bPeer2peer = true
  swap
  · rw [if_neg hpeer, Bool.eq_false_iff.mpr hpeer]
    exact ⟨rfl, rfl⟩
  rw [if_pos hpeer, hpeer]
  have hchoose : (p.countPeer.choose L (c.encryptsTo ep) msg msglen ep.pubkey).2.peersTotal
        = p.peersTotal + 1 ∧
      (p.countPeer.choose L (c.encryptsTo ep) msg msglen ep.pubkey).2.peersEncrypted
        = p.peersEncrypted := by
    cases c.encryptsTo ep with
    | false => exact ⟨rfl, rfl⟩
    | true => exact ⟨rfl, rfl⟩
  generalize p.countPeer.choose L (c.encryptsTo ep) msg msglen ep.pubkey = r at hchoose
  obtain ⟨data, q⟩ := r
  have hsent : ∀ q' : Pass, q'.peersTotal = q.peersTotal →
      q'.peersEncrypted = q.peersEncrypted + (c.encryptsTo ep).toNat →
      q'.peersTotal = p.peersTotal + 1 ∧
        q'.peersEncrypted = p.peersEncrypted + (c.encryptsTo ep).toNat := by
    intro q' htotal hencrypted
    exact ⟨htotal.trans hchoose.1, hencrypted.trans (by rw [hchoose.2])⟩
  dsimp only
  split_ifs
  · exact hsent _ rfl rfl
  · exact hsent _ rfl rfl
  · exact hsent _ rfl rfl

/-- The counters behind the loop. -/
theorem peerLoop_counters (L : Sodium) (c : OvboxClient) (msg : Buffer bufSize) (msglen : ℕ)
    (eps : List EpDesc) (ocid : ℕ) (p : Pass) :
    (peerLoop (recsrvPeer L c msg msglen) ocid eps p).peersTotal
        = p.peersTotal + (eps.zipIdx ocid).countP (fun e => c.activePeer e.2 e.1) ∧
      (peerLoop (recsrvPeer L c msg msglen) ocid eps p).peersEncrypted
        = p.peersEncrypted
          + (eps.zipIdx ocid).countP (fun e => c.activePeer e.2 e.1 && c.encryptsTo e.1) := by
  induction eps generalizing ocid p with
  | nil => exact ⟨rfl, rfl⟩
  | cons ep eps ih =>
      obtain ⟨htotal, hencrypted⟩ := recsrvPeer_counters L c msg msglen ocid ep p
      obtain ⟨ihtotal, ihencrypted⟩ := ih (ocid + 1) (recsrvPeer L c msg msglen ocid ep p)
      have hcount : ∀ b : Bool, (if b = true then 1 else 0) = b.toNat := by decide
      rw [List.zipIdx_cons, List.countP_cons, List.countP_cons, hcount, hcount]
      dsimp only
      constructor
      · rw [peerLoop, ihtotal, htotal]
        omega
      · rw [peerLoop, ihencrypted, hencrypted]
        omega

section Recsrv

variable {L : Sodium} {c : OvboxClient} {t : ThreadState} {payload : List UInt8}

/-- What the two counters count. -/
theorem recsrv_counters (hpos : 0 < payload.length) :
    (recsrv L c t payload).1.peersTotal
        = (Thread.table c).countP (fun e => c.activePeer e.2 e.1)
          + (Thread.recsrv.serverCopy c).toNat ∧
      (recsrv L c t payload).1.peersEncrypted
        = (Thread.table c).countP (fun e => c.activePeer e.2 e.1 && c.encryptsTo e.1)
          + (Thread.recsrv.serverCopy c && c.encryptsToServer).toNat := by
  have hloop := loopSpec_of_step .recsrv t
    (recsrvPeer_step L c (Thread.recsrv.pack c t payload).1 (Thread.recsrv.pack c t payload).2)
  have hpass := recsrv_pass L c t payload hpos _ rfl
  rw [hloop.server] at hpass
  have htable : ∀ q, q = (if c.mode.has bPeer2peer then
        peerLoop (recsrvPeer L c (Thread.recsrv.pack c t payload).1
          (Thread.recsrv.pack c t payload).2) 0 c.endpoints.1 (t.pass c)
      else t.pass c) →
      q.peersTotal = (Thread.table c).countP (fun e => c.activePeer e.2 e.1) ∧
      q.peersEncrypted
        = (Thread.table c).countP (fun e => c.activePeer e.2 e.1 && c.encryptsTo e.1) := by
    rintro q rfl
    unfold Thread.table
    split_ifs
    · have hcounters := peerLoop_counters L c (Thread.recsrv.pack c t payload).1
        (Thread.recsrv.pack c t payload).2 c.endpoints.1 0 (t.pass c)
      exact ⟨hcounters.1.trans (Nat.zero_add _), hcounters.2.trans (Nat.zero_add _)⟩
    · exact ⟨rfl, rfl⟩
  have hq := htable _ rfl
  generalize (if c.mode.has bPeer2peer then
      peerLoop (recsrvPeer L c (Thread.recsrv.pack c t payload).1
        (Thread.recsrv.pack c t payload).2) 0 c.endpoints.1 (t.pass c)
    else t.pass c) = q at hpass hq
  rw [hpass]
  cases hcopy : Thread.recsrv.serverCopy c with
  | false => exact hq
  | true =>
      rw [if_pos rfl]
      show (q.countPeer.choose L c.encryptsToServer _ _ _).2.peersTotal = _ ∧
        (q.countPeer.choose L c.encryptsToServer _ _ _).2.peersEncrypted
          + c.encryptsToServer.toNat = _
      rw [← hq.1, ← hq.2]
      cases c.encryptsToServer with
      | false => exact ⟨rfl, rfl⟩
      | true => exact ⟨rfl, rfl⟩

/-- Some are counted as encrypted exactly if there is one to count. -/
theorem peersEncrypted_pos_iff (hpos : 0 < payload.length) :
    0 < (recsrv L c t payload).1.peersEncrypted ↔ c.SealCounted := by
  have htable : (0 < (Thread.table c).countP fun e => c.activePeer e.2 e.1 && c.encryptsTo e.1) ↔
      c.mode.has bPeer2peer = true ∧ ∃ ocid ep, c.endpoints.1[ocid]? = some ep ∧
        c.activePeer ocid ep = true ∧ c.encryptsTo ep = true := by
    rw [List.countP_pos_iff]
    unfold Thread.table
    constructor
    · rintro ⟨e, he, hseals⟩
      split_ifs at he with hmode
      · exact ⟨hmode, e.2, e.1, List.mem_zipIdx_iff_getElem?.mp he, Bool.and_eq_true_iff.mp hseals⟩
      · exact absurd he List.not_mem_nil
    · rintro ⟨hmode, ocid, ep, hep, hseals⟩
      rw [if_pos hmode]
      exact ⟨(ep, ocid), List.mem_zipIdx_iff_getElem?.mpr hep, Bool.and_eq_true_iff.mpr hseals⟩
  have hserver : 0 < (Thread.recsrv.serverCopy c && c.encryptsToServer).toNat ↔
      (c.mode.has bPeer2peer = false ∨ c.SomeNotPeer) ∧ c.encryptsToServer = true := by
    have hnat : ∀ b : Bool, 0 < b.toNat ↔ b = true := by decide
    rw [hnat, Bool.and_eq_true, serverCopy_recsrv]
  rw [(recsrv_counters hpos).2, Nat.add_pos_iff_pos_or_pos, htable, hserver]
  rfl

/-- If all are counted as encrypted, all counted are sealed for. -/
theorem sealed_of_counters_eq (hpos : 0 < payload.length)
    (h : (recsrv L c t payload).1.peersEncrypted = (recsrv L c t payload).1.peersTotal) :
    (∀ e ∈ Thread.table c, c.activePeer e.2 e.1 = true → c.encryptsTo e.1 = true) ∧
      (Thread.recsrv.serverCopy c = true → c.encryptsToServer = true) := by
  rw [(recsrv_counters hpos).1, (recsrv_counters hpos).2] at h
  have hpeers := List.countP_mono_left (l := Thread.table c)
    (p := fun e => c.activePeer e.2 e.1 && c.encryptsTo e.1) (q := fun e => c.activePeer e.2 e.1)
    fun e _ he => (Bool.and_eq_true_iff.mp he).1
  have hserver : ∀ a b : Bool, (a && b).toNat ≤ a.toNat ∧
      ((a && b).toNat = a.toNat → a = true → b = true) := by decide
  have hserver := hserver (Thread.recsrv.serverCopy c) c.encryptsToServer
  refine ⟨?_, hserver.2 (by omega)⟩
  intro e he hactive
  have hfilter : ((Thread.table c).filter fun e => c.activePeer e.2 e.1).countP
      (fun e => c.encryptsTo e.1)
        = ((Thread.table c).filter fun e => c.activePeer e.2 e.1).length := by
    rw [List.countP_filter, ← List.countP_eq_length_filter]
    simp only [Bool.and_comm (c.encryptsTo _)]
    omega
  exact List.countP_eq_length.mp hfilter e (List.mem_filter.mpr ⟨he, hactive⟩)

/-- The indicator from the counters. -/
theorem getEncryptState_recsrv (hpos : 0 < payload.length) :
    (1 ≤ (recsrv L c t payload).2.1.getEncryptState ↔
        0 < (recsrv L c t payload).1.peersEncrypted) ∧
      ((recsrv L c t payload).2.1.getEncryptState = 2 →
        (recsrv L c t payload).1.peersEncrypted = (recsrv L c t payload).1.peersTotal) := by
  have hany : (recsrv L c t payload).2.1.sendEncryptAny
      = decide (0 < (recsrv L c t payload).1.peersEncrypted) := by
    unfold recsrv
    rw [if_pos hpos]
  have hall : (recsrv L c t payload).2.1.sendEncryptAll
      = (decide (0 < (recsrv L c t payload).1.peersEncrypted) &&
        (recsrv L c t payload).1.peersEncrypted == (recsrv L c t payload).1.peersTotal) := by
    unfold recsrv
    rw [if_pos hpos]
  have hstate : ∀ a b : Bool, (1 ≤ a.toUInt8 + (a && b).toUInt8 ↔ a = true) ∧
      (a.toUInt8 + (a && b).toUInt8 = 2 → b = true) := by decide
  unfold ThreadState.getEncryptState
  rw [hany, hall]
  exact ⟨(hstate _ _).1.trans decide_eq_true_iff, fun h => eq_of_beq ((hstate _ _).2 h)⟩

end Recsrv

/-! ## The datagrams -/

section Sends

variable {L : Sodium} {c : OvboxClient} {t : ThreadState} {payload : List UInt8}

/-- A datagram to an entry is made for an active peer. -/
theorem activePeer_of_direct {ocid : ℕ} {ep : EpDesc} {a : Endpoint}
    (h : (recsrvDecision c ocid ep).direct = some a) : c.activePeer ocid ep = true := by
  unfold recsrvDecision at h
  dsimp only at h
  split_ifs at h with hcond
  exact (Bool.and_eq_true_iff.mp (Bool.and_eq_true_iff.mp hcond).1).1

/-- A datagram is sealed exactly if the message is sealed for its recipient. -/
theorem sealedSend_iff (hpos : 0 < payload.length)
    (hfit : headerLen + payload.length + cryptoBoxSealBytes ≤ bufSize) {x : Sent}
    (hx : x ∈ (recsrv L c t payload).1.sends) :
    c.SealedSend L payload x ↔
      (∃ e ∈ Thread.table c, x.recipient = .peer e.2 ∧
        (recsrvDecision c e.2 e.1).direct = some x.datagram.dest ∧ c.encryptsTo e.1 = true) ∨
      (x.recipient = .server ∧ c.encryptsToServer = true) := by
  have hspec := forward_spec L c t payload .recsrv hpos
  have hpeer : ∀ {ocid ep}, x.recipient = .peer ocid → c.endpoints.1[ocid]? = some ep →
      (Thread.recsrv.SealedFor c L payload ep.pubkey x.datagram.data ↔
        c.encryptsTo ep = true) := by
    intro ocid ep hrec hep
    exact sealedFor_iff_of_outgoing hfit (hspec.data_peer hx hrec hep)
  have hserver : x.recipient = .server →
      (Thread.recsrv.SealedFor c L payload c.srvPubkey x.datagram.data ↔
        c.encryptsToServer = true) := by
    intro hrec
    exact sealedFor_iff_of_outgoing hfit (hspec.data_server hx hrec)
  constructor
  · rintro (⟨ocid, ep, hrec, hep, hsealed⟩ | ⟨hrec, hsealed⟩)
    · obtain ⟨e, he, rfl, hdirect⟩ := hspec.direct_of_mem hx hrec
      obtain rfl : e.1 = ep := Option.some.inj ((Thread.getElem?_of_mem_table he).symm.trans hep)
      exact Or.inl ⟨e, he, hrec, hdirect, (hpeer hrec hep).mp hsealed⟩
    · exact Or.inr ⟨hrec, (hserver hrec).mp hsealed⟩
  · rintro (⟨e, he, hrec, -, hseals⟩ | ⟨hrec, hseals⟩)
    · have hep := Thread.getElem?_of_mem_table he
      exact Or.inl ⟨e.2, e.1, hrec, hep, (hpeer hrec hep).mpr hseals⟩
    · exact Or.inr ⟨hrec, (hserver hrec).mpr hseals⟩

/-- A sealed datagram is sent exactly if there is a recipient for it. -/
theorem exists_sealedSend_iff (hpos : 0 < payload.length)
    (hfit : headerLen + payload.length + cryptoBoxSealBytes ≤ bufSize) :
    (∃ x ∈ (recsrv L c t payload).1.sends, c.SealedSend L payload x) ↔ c.SealSent := by
  have hspec := forward_spec L c t payload .recsrv hpos
  constructor
  · rintro ⟨x, hx, hsealed⟩
    rcases (sealedSend_iff hpos hfit hx).mp hsealed with
      ⟨e, he, -, hdirect, hseals⟩ | ⟨hrec, hseals⟩
    · left
      have hep := Thread.getElem?_of_mem_table he
      have heligible := (direct_isSome_iff c e.2 e.1).mp (Option.isSome_of_eq_some hdirect)
      refine ⟨?_, e.2, e.1, hep, heligible, hseals⟩
      unfold Thread.table at he
      split_ifs at he with hmode
      · exact hmode
      · exact absurd he List.not_mem_nil
    · right
      obtain ⟨hcopy, hport⟩ := hspec.exists_server_iff.mp ⟨x, hx, hrec⟩
      exact ⟨(serverCopy_recsrv c).mp hcopy, hseals, hport⟩
  · rintro (⟨hmode, ocid, ep, hep, heligible, hseals⟩ | ⟨hcopy, hseals, hport⟩)
    · obtain ⟨a, ha⟩ := Option.isSome_iff_exists.mp ((direct_isSome_iff c ocid ep).mpr heligible)
      have he : (ep, ocid) ∈ Thread.table c := by
        unfold Thread.table
        rw [if_pos hmode]
        exact List.mem_zipIdx_iff_getElem?.mpr hep
      obtain ⟨x, hx, hrec⟩ := hspec.exists_direct he ha
      obtain ⟨e, he', hocid, hdirect⟩ := hspec.direct_of_mem hx hrec
      have hep' := Thread.getElem?_of_mem_table he'
      rw [hocid] at hep'
      obtain rfl : ep = e.1 := Option.some.inj (hep.symm.trans hep')
      exact ⟨x, hx, (sealedSend_iff hpos hfit hx).mpr
        (Or.inl ⟨e, he', hocid ▸ hrec, hdirect, hseals⟩)⟩
    · obtain ⟨x, hx, hrec⟩ := hspec.exists_server_iff.mpr ⟨(serverCopy_recsrv c).mpr hcopy, hport⟩
      exact ⟨x, hx, (sealedSend_iff hpos hfit hx).mpr (Or.inr ⟨hrec, hseals⟩)⟩

/-- The indicator is truthful exactly if, where a destination is counted as encrypted, one of
them is sent to. -/
theorem encrypt_state_truthful_iff (L : Sodium) (c : OvboxClient) (t : ThreadState)
    (payload : List UInt8) (hpos : 1 ≤ payload.length)
    (hfit : payload.length ≤ bufSize - headerLen - cryptoBoxSealBytes) :
    TruthfulState L c payload (recsrv L c t payload) ↔ (c.SealCounted → c.SealSent) := by
  have hle : headerLen + payload.length + cryptoBoxSealBytes ≤ bufSize := by
    unfold bufSize headerLen cryptoBoxSealBytes at *
    omega
  obtain ⟨hany, hall⟩ := getEncryptState_recsrv (L := L) (c := c) (t := t) hpos
  rw [peersEncrypted_pos_iff hpos] at hany
  constructor
  · intro h hcounted
    exact (exists_sealedSend_iff hpos hle).mp (h.any (hany.mpr hcounted))
  · intro h
    refine ⟨?_, fun hstate => (exists_sealedSend_iff hpos hle).mpr (h (hany.mp hstate))⟩
    intro hstate x hx
    obtain ⟨hpeers, hserver⟩ := sealed_of_counters_eq hpos (hall hstate)
    have hspec := forward_spec L c t payload .recsrv hpos
    rw [sealedSend_iff hpos hle hx]
    cases hrec : x.recipient with
    | peer ocid =>
        obtain ⟨e, he, rfl, hdirect⟩ := hspec.direct_of_mem hx hrec
        exact Or.inl ⟨e, he, rfl, hdirect, hpeers e he (activePeer_of_direct hdirect)⟩
    | server =>
        obtain ⟨hcopy, -⟩ := hspec.exists_server_iff.mp ⟨x, hx, hrec⟩
        exact Or.inr ⟨rfl, hserver hcopy⟩

end Sends

/-- An active peer with a known key that agrees on encryption. -/
def EpDesc.encryptingPeer (flags : Epmode) : EpDesc :=
  { EpDesc.peerMode (bEncryption ||| flags) with hasPubkey := true }

theorem encrypt_state_truthful_one_peer :
    TruthfulState Sodium.padding
      (clientWithPeer (bPeer2peer ||| bEncryption) 4464 (EpDesc.encryptingPeer 0) false) [1]
      (recsrv Sodium.padding
        (clientWithPeer (bPeer2peer ||| bEncryption) 4464 (EpDesc.encryptingPeer 0) false)
        ThreadState.start [1]) :=
  (encrypt_state_truthful_iff Sodium.padding _ ThreadState.start [1] (by decide)
    (by decide)).mpr fun _ =>
      Or.inl ⟨by decide, 1, EpDesc.encryptingPeer 0, rfl,
        ⟨by decide, by decide, by decide, by decide, Or.inl (by decide)⟩, by decide⟩

/-- With a peer that does not want to receive, the state is `2` though nothing is sent. -/
theorem sealed_for_nobody :
    ¬ TruthfulState Sodium.padding
      (clientWithPeer (bPeer2peer ||| bEncryption) 4464 (EpDesc.encryptingPeer bDonotsend) false) [1]
      (recsrv Sodium.padding
        (clientWithPeer (bPeer2peer ||| bEncryption) 4464 (EpDesc.encryptingPeer bDonotsend) false)
        ThreadState.start [1]) := by
  intro h
  have hpos : 0 < [(1 : UInt8)].length := by decide
  have hany := (getEncryptState_recsrv (L := Sodium.padding)
    (c := clientWithPeer (bPeer2peer ||| bEncryption) 4464 (EpDesc.encryptingPeer bDonotsend) false)
    (t := ThreadState.start) hpos).1
  rw [peersEncrypted_pos_iff (by decide)] at hany
  obtain ⟨x, hx, -⟩ := h.any (hany.mpr
    (Or.inl ⟨by decide, 1, EpDesc.encryptingPeer bDonotsend, rfl, by decide, by decide⟩))
  have hspec := forward_spec Sodium.padding
    (clientWithPeer (bPeer2peer ||| bEncryption) 4464 (EpDesc.encryptingPeer bDonotsend) false)
    ThreadState.start [1] .recsrv (by decide)
  have hnone := hspec.sends_eq_nil_iff.mpr ⟨by decide, by decide⟩
  rw [show (recsrv Sodium.padding _ ThreadState.start [1]).1.sends = [] from hnone] at hx
  exact absurd hx List.not_mem_nil

end Libov
