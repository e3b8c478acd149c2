/-
# What the forwarding threads put into their datagrams

* `no_plaintext_leak_iff` : of the two threads only `recsrv` seals the copy to
  the relay server; for the peers both do;
* `oversized_harmless_iff` : the lengths `0` that `packmsg` and `encryptmsg`
  report are used like any other length, so a payload that does not fit is
  harmless only where no datagram and no seal would be made of it.
-/
import Libov.ForwardingRoutes

namespace Libov

/-! ## Sealing -/

/-- A datagram to a destination with a known key that takes part in encryption
carries the payload sealed with that key and is not the packed message. -/
structure NoPlaintextLeak (L : Sodium) (c : OvboxClient) (th : Thread) (payload : List UInt8)
    (p : Pass) : Prop where
  peers : ∀ x ∈ p.sends, ∀ ocid ep, x.recipient = .peer ocid → c.endpoints.1[ocid]? = some ep →
    ep.timeout ≠ 0 → ep.mode.has bEncryption = true → ep.hasPubkey = true →
    th.SealedFor c L payload ep.pubkey x.datagram.data ∧ x.datagram.data ≠ th.packed c payload
  server : ∀ x ∈ p.sends, x.recipient = .server → c.srvHasPubkey = true →
    th.SealedFor c L payload c.srvPubkey x.datagram.data ∧ x.datagram.data ≠ th.packed c payload

/-- The entry that a loop visits under an index. -/
theorem Thread.getElem?_of_mem_table {c : OvboxClient} {e : EpDesc × ℕ}
    (he : e ∈ Thread.table c) : c.endpoints.1[e.2]? = some e.1 := by
  unfold Thread.table at he
  split_ifs at he with hmode
  · exact List.mem_zipIdx_iff_getElem?.mp he
  · cases he

/-- The bytes of a datagram to a peer. -/
theorem PassSpec.data_peer {L : Sodium} {c : OvboxClient} {th : Thread} {msg : Buffer bufSize}
    {msglen : ℕ} {p : Pass} (h : PassSpec L c th msg msglen p) {x : Sent} (hx : x ∈ p.sends)
    {ocid : ℕ} {ep : EpDesc} (hrec : x.recipient = .peer ocid)
    (hep : c.endpoints.1[ocid]? = some ep) :
    Outgoing L msg msglen ep.pubkey (c.encryptsTo ep) x.datagram.data := by
  rcases h.data x hx with ⟨e, he, hrec', hout⟩ | ⟨hrec', -⟩
  · rw [hrec] at hrec'
    cases hrec'
    have hentry := Thread.getElem?_of_mem_table he
    rw [hep] at hentry
    cases hentry
    exact hout
  · rw [hrec] at hrec'
    cases hrec'

/-- The bytes of a datagram to the relay server. -/
theorem PassSpec.data_server {L : Sodium} {c : OvboxClient} {th : Thread} {msg : Buffer bufSize}
    {msglen : ℕ} {p : Pass} (h : PassSpec L c th msg msglen p) {x : Sent} (hx : x ∈ p.sends)
    (hrec : x.recipient = .server) :
    Outgoing L msg msglen c.srvPubkey (th.sealsToServer c) x.datagram.data := by
  rcases h.data x hx with ⟨e, -, hrec', -⟩ | ⟨-, hout⟩
  · rw [hrec] at hrec'
    cases hrec'
  · exact hout

/-- A datagram for the relay server exists exactly when a copy goes to it and it
has a port. -/
theorem PassSpec.exists_server_iff {L : Sodium} {c : OvboxClient} {th : Thread}
    {msg : Buffer bufSize} {msglen : ℕ} {p : Pass} (h : PassSpec L c th msg msglen p) :
    (∃ x ∈ p.sends, x.recipient = .server) ↔ th.serverCopy c = true ∧ c.toport ≠ 0 := by
  have hcount := h.countTo_server
  unfold Pass.countTo at hcount
  constructor
  · rintro ⟨x, hx, hrec⟩
    by_contra hnone
    rw [if_neg hnone, List.countP_eq_zero] at hcount
    exact hcount x hx (by rw [hrec]; rfl)
  · intro hcopy
    rw [if_pos hcopy] at hcount
    have hpos : 0 < p.sends.countP fun x => x.recipient == .server := by omega
    obtain ⟨x, hx, hrec⟩ := List.countP_pos_iff.mp hpos
    exact ⟨x, hx, eq_of_beq hrec⟩

/-- The thread sends the relay server nothing that should be sealed and is not:
`recsrv` never does, `xrecsrv` unless the server has a key and a port and one of
the reasons for a copy is there. -/
def ServerCopySealed (c : OvboxClient) : Thread → Prop
  | .recsrv => True
  | .xrecsrv _ => c.srvHasPubkey = false ∨ c.toport = 0 ∨
      ¬ (c.mode.has bPeer2peer = false ∨ c.SomePeerDenies)

/-- To the peers with a key both threads seal. -/
theorem PassSpec.peers_sealed {L : Sodium} {c : OvboxClient} {t : ThreadState}
    {payload : List UInt8} {th : Thread} {p : Pass}
    (h : PassSpec L c th (th.pack c t payload).1 (th.pack c t payload).2 p)
    (henc : c.mode.has bEncryption = true)
    (hle : headerLen + payload.length + cryptoBoxSealBytes ≤ bufSize) :
    ∀ x ∈ p.sends, ∀ ocid ep, x.recipient = .peer ocid → c.endpoints.1[ocid]? = some ep →
      ep.timeout ≠ 0 → ep.mode.has bEncryption = true → ep.hasPubkey = true →
      th.SealedFor c L payload ep.pubkey x.datagram.data ∧
        x.datagram.data ≠ th.packed c payload := by
  intro x hx ocid ep hrec hep _ hmode hkey
  have hout := h.data_peer hx hrec hep
  have hseals : c.encryptsTo ep = true := by
    rw [OvboxClient.encryptsTo, henc, hmode, hkey]
    rfl
  rw [hseals] at hout
  have hsealed := outgoing_sealed hle hout
  exact ⟨hsealed, hsealed.ne_packed⟩

/-- In encryption mode, and for a payload that fits with its seal, no plaintext
leaves exactly when the copy to the relay server is sealed if need be. -/
theorem no_plaintext_leak_iff (L : Sodium) (c : OvboxClient) (t : ThreadState)
    (payload : List UInt8) (th : Thread) (henc : c.mode.has bEncryption = true)
    (hpos : 1 ≤ payload.length)
    (hfit : payload.length ≤ bufSize - headerLen - cryptoBoxSealBytes) :
    NoPlaintextLeak L c th payload (forward L c t payload th).1 ↔ ServerCopySealed c th := by
  have hspec := forward_spec L c t payload th hpos
  have hle : headerLen + payload.length + cryptoBoxSealBytes ≤ bufSize := by
    unfold bufSize headerLen cryptoBoxSealBytes at *
    omega
  have hpeers := hspec.peers_sealed henc hle
  cases th with
  | recsrv =>
      refine iff_of_true ⟨hpeers, ?_⟩ trivial
      intro x hx hrec hkey
      have hout := hspec.data_server hx hrec
      rw [Thread.sealsToServer, OvboxClient.encryptsToServer, henc, hkey] at hout
      have hsealed := outgoing_sealed hle hout
      exact ⟨hsealed, hsealed.ne_packed⟩
  | xrecsrv destport =>
      have hplain : ∀ x ∈ (forward L c t payload (.xrecsrv destport)).1.sends,
          x.recipient = .server → x.datagram.data = (Thread.xrecsrv destport).packed c payload :=
        fun x hx hrec => outgoing_plain (by omega) (hspec.data_server hx hrec)
      have hexists := hspec.exists_server_iff
      rw [serverCopy_xrecsrv] at hexists
      constructor
      · intro hleak
        by_cases hkey : c.srvHasPubkey = true
        · by_cases hport : c.toport = 0
          · exact Or.inr (Or.inl hport)
          · right
            right
            intro hreason
            obtain ⟨x, hx, hrec⟩ := hexists.mpr ⟨hreason, hport⟩
            exact (hleak.server x hx hrec hkey).2 (hplain x hx hrec)
        · exact Or.inl (Bool.eq_false_iff.mpr hkey)
      · intro hsealed
        refine ⟨hpeers, ?_⟩
        intro x hx hrec hkey
        obtain ⟨hreason, hport⟩ := hexists.mp ⟨x, hx, hrec⟩
        rcases hsealed with hnokey | hzero | hnone
        · exact absurd (hkey.symm.trans hnokey) (by decide)
        · exact absurd hzero hport
        · exact absurd hreason hnone

theorem no_plaintext_leak_recsrv :
    NoPlaintextLeak Sodium.padding
      (clientWithPeer (bPeer2peer ||| bEncryption) 4464 EpDesc.serverMode true) .recsrv [1]
      (forward Sodium.padding
        (clientWithPeer (bPeer2peer ||| bEncryption) 4464 EpDesc.serverMode true)
        ThreadState.start [1] .recsrv).1 :=
  (no_plaintext_leak_iff Sodium.padding _ ThreadState.start [1] .recsrv (by decide) (by decide)
    (by decide)).mpr trivial

/-- Outside of peer-to-peer mode `xrecsrv` sends the packed message to a relay
server whose key is known. -/
theorem xrecsrv_leaks_plaintext :
    ¬ NoPlaintextLeak Sodium.padding (clientWithPeer bEncryption 4464 EpDesc.unused true)
      (.xrecsrv 9000) [1]
      (forward Sodium.padding (clientWithPeer bEncryption 4464 EpDesc.unused true)
        ThreadState.start [1] (.xrecsrv 9000)).1 := by
  intro hleak
  have hspec := forward_spec Sodium.padding (clientWithPeer bEncryption 4464 EpDesc.unused true)
    ThreadState.start [1] (.xrecsrv 9000) (by decide)
  obtain ⟨x, hx, hrec⟩ := hspec.exists_server_iff.mpr ⟨by decide, by decide⟩
  exact (hleak.server x hx hrec rfl).2 (outgoing_plain (by decide) (hspec.data_server hx hrec))

/-! ## Lengths -/

/-- What the thread does with a payload is harmless: `encryptmsg` gets a length
that covers the header, every datagram is a complete message with the payload,
and nothing is sent where `packmsg` or `encryptmsg` reports that the message does
not fit. -/
structure Harmless (L : Sodium) (c : OvboxClient) (th : Thread) (payload : List UInt8)
    (p : Pass) : Prop where
  calls : ∀ msglen ∈ p.calls, headerLen ≤ msglen
  complete : ∀ x ∈ p.sends, th.Carries c L payload x.datagram.data
  unpacked : bufSize < headerLen + payload.length → p.sends = []
  unsealedPeer : bufSize < headerLen + payload.length + cryptoBoxSealBytes →
    ∀ x ∈ p.sends, ∀ ocid ep, x.recipient = .peer ocid → c.endpoints.1[ocid]? = some ep →
      c.encryptsTo ep = false
  unsealedServer : bufSize < headerLen + payload.length + cryptoBoxSealBytes →
    ∀ x ∈ p.sends, x.recipient = .server → th.sealsToServer c = false

/-- No table entry is an active peer that the message would be sealed for, and
`recsrv` would not seal a copy for the relay server. -/
def NothingSealed (c : OvboxClient) (th : Thread) : Prop :=
  (∀ e ∈ Thread.table c, c.activePeer e.2 e.1 = true → c.encryptsTo e.1 = false) ∧
    (th.serverCopy c = true → th.sealsToServer c = false)

/-- No datagram would be sent. -/
def NothingSent (c : OvboxClient) (th : Thread) : Prop :=
  (∀ e ∈ Thread.table c, (th.decision c e.2 e.1).direct = none) ∧
    (th.serverCopy c = true → c.toport = 0)

/-- No sealed datagram would be sent. -/
def NothingSentSealed (c : OvboxClient) (th : Thread) : Prop :=
  (∀ e ∈ Thread.table c, c.encryptsTo e.1 = true → (th.decision c e.2 e.1).direct = none) ∧
    (th.serverCopy c = true → th.sealsToServer c = true → c.toport = 0)

/-- Both threads choose a message for the active peers. -/
theorem decision_chooses (c : OvboxClient) (th : Thread) (ocid : ℕ) (ep : EpDesc) :
    (th.decision c ocid ep).chooses = c.activePeer ocid ep := by
  cases th with
  | recsrv => rfl
  | xrecsrv destport => rfl

/-- Calls of `encryptmsg` are absent exactly when nothing would be sealed. -/
theorem PassSpec.calls_eq_nil_iff {L : Sodium} {c : OvboxClient} {th : Thread}
    {msg : Buffer bufSize} {msglen : ℕ} {p : Pass} (h : PassSpec L c th msg msglen p) :
    (∀ len, len ∉ p.calls) ↔ NothingSealed c th := by
  have hcall : (∀ len, len ∉ p.calls) ↔
      ¬ ((∃ e ∈ Thread.table c, ((th.decision c e.2 e.1).chooses && c.encryptsTo e.1) = true) ∨
        (th.serverCopy c && th.sealsToServer c) = true) := by
    constructor
    · intro hnone hseals
      exact hnone msglen ((h.calls msglen).mpr ⟨rfl, hseals⟩)
    · intro hnone len hlen
      exact hnone ((h.calls len).mp hlen).2
  rw [hcall, not_or, NothingSealed]
  simp only [decision_chooses, Bool.and_eq_true, not_exists, not_and, Bool.not_eq_true]

/-- The datagram that a decision asks for is sent. -/
theorem PassSpec.exists_direct {L : Sodium} {c : OvboxClient} {th : Thread}
    {msg : Buffer bufSize} {msglen : ℕ} {p : Pass} (h : PassSpec L c th msg msglen p)
    {e : EpDesc × ℕ} (he : e ∈ Thread.table c) {a : Endpoint}
    (hdirect : (th.decision c e.2 e.1).direct = some a) :
    ∃ x ∈ p.sends, x.recipient = .peer e.2 := by
  have hmem : (Recipient.peer e.2, a) ∈ p.sends.map Sent.target := by
    rw [h.targets]
    exact List.mem_append_left _ (mem_directTargets.mpr ⟨e, he, rfl, hdirect⟩)
  obtain ⟨x, hx, htarget⟩ := List.mem_map.mp hmem
  exact ⟨x, hx, congrArg Prod.fst htarget⟩

/-- A datagram to a peer is one that a decision asked for. -/
theorem PassSpec.direct_of_mem {L : Sodium} {c : OvboxClient} {th : Thread}
    {msg : Buffer bufSize} {msglen : ℕ} {p : Pass} (h : PassSpec L c th msg msglen p)
    {x : Sent} (hx : x ∈ p.sends) {ocid : ℕ} (hrec : x.recipient = .peer ocid) :
    ∃ e ∈ Thread.table c, e.2 = ocid ∧
      (th.decision c e.2 e.1).direct = some x.datagram.dest := by
  have hmem : x.target ∈ p.sends.map Sent.target := List.mem_map_of_mem hx
  rw [h.targets] at hmem
  rcases List.mem_append.mp hmem with hmem | hmem
  · obtain ⟨e, he, hpeer, hdirect⟩ := mem_directTargets.mp hmem
    have hocid : Recipient.peer ocid = .peer e.2 := hrec.symm.trans hpeer
    cases hocid
    exact ⟨e, he, rfl, hdirect⟩
  · -- the remaining targets are for the relay server
    unfold Thread.serverTargets at hmem
    split_ifs at hmem with hcopy
    · have hserver := congrArg Prod.fst (List.mem_singleton.mp hmem)
      exact absurd (hrec.symm.trans hserver) (by simp)
    · cases hmem

/-- No datagram is sent exactly when none would be. -/
theorem PassSpec.sends_eq_nil_iff {L : Sodium} {c : OvboxClient} {th : Thread}
    {msg : Buffer bufSize} {msglen : ℕ} {p : Pass} (h : PassSpec L c th msg msglen p) :
    p.sends = [] ↔ NothingSent c th := by
  constructor
  · intro hnil
    constructor
    · intro e he
      by_contra hsome
      obtain ⟨a, ha⟩ := Option.ne_none_iff_exists'.mp hsome
      obtain ⟨x, hx, -⟩ := h.exists_direct he ha
      rw [hnil] at hx
      cases hx
    · intro hcopy
      by_contra hport
      obtain ⟨x, hx, -⟩ := h.exists_server_iff.mpr ⟨hcopy, hport⟩
      rw [hnil] at hx
      cases hx
  · rintro ⟨hdirect, hserver⟩
    rw [List.eq_nil_iff_forall_not_mem]
    intro x hx
    cases hrec : x.recipient with
    | peer ocid =>
        obtain ⟨e, he, -, hsome⟩ := h.direct_of_mem hx hrec
        rw [hdirect e he] at hsome
        cases hsome
    | server =>
        obtain ⟨hcopy, hport⟩ := h.exists_server_iff.mp ⟨x, hx, hrec⟩
        exact hport (hserver hcopy)

/-- No datagram of the pass goes to a destination that it would be sealed for. -/
def SendsUnsealed (c : OvboxClient) (th : Thread) (p : Pass) : Prop :=
  (∀ x ∈ p.sends, ∀ ocid ep, x.recipient = .peer ocid → c.endpoints.1[ocid]? = some ep →
    c.encryptsTo ep = false) ∧
  ∀ x ∈ p.sends, x.recipient = .server → th.sealsToServer c = false

/-- No sealed datagram is sent exactly when none would be. -/
theorem PassSpec.sendsUnsealed_iff {L : Sodium} {c : OvboxClient} {th : Thread}
    {msg : Buffer bufSize} {msglen : ℕ} {p : Pass} (h : PassSpec L c th msg msglen p) :
    SendsUnsealed c th p ↔ NothingSentSealed c th := by
  constructor
  · rintro ⟨hpeer, hserver⟩
    constructor
    · intro e he hseals
      by_contra hsome
      obtain ⟨a, ha⟩ := Option.ne_none_iff_exists'.mp hsome
      obtain ⟨x, hx, hrec⟩ := h.exists_direct he ha
      have hplain := hpeer x hx e.2 e.1 hrec (Thread.getElem?_of_mem_table he)
      exact absurd (hseals.symm.trans hplain) (by decide)
    · intro hcopy hseals
      by_contra hport
      obtain ⟨x, hx, hrec⟩ := h.exists_server_iff.mpr ⟨hcopy, hport⟩
      rw [hserver x hx hrec] at hseals
      cases hseals
  · rintro ⟨hdirect, hcopy⟩
    constructor
    · intro x hx ocid ep hrec hep
      obtain ⟨e, he, rfl, hsome⟩ := h.direct_of_mem hx hrec
      rw [Thread.getElem?_of_mem_table he] at hep
      cases hep
      by_contra hseals
      rw [hdirect e he (Bool.of_not_eq_false hseals)] at hsome
      cases hsome
    · intro x hx hrec
      obtain ⟨hserver, hport⟩ := h.exists_server_iff.mp ⟨x, hx, hrec⟩
      by_contra hseals
      exact hport (hcopy hserver (Bool.of_not_eq_false hseals))

section Fits

variable {L : Sodium} {c : OvboxClient} {t : ThreadState} {payload : List UInt8} {th : Thread}
  {p : Pass}

/-- The length of a packed message covers the header. -/
theorem PassSpec.headerLen_le_calls
    (h : PassSpec L c th (th.pack c t payload).1 (th.pack c t payload).2 p)
    (hfit : headerLen + payload.length ≤ bufSize) : ∀ len ∈ p.calls, headerLen ≤ len := by
  intro len hcall
  rw [((h.calls len).mp hcall).1, Thread.pack_length, if_neg (by omega)]
  omega

/-- An unsealed datagram is the packed message. -/
theorem PassSpec.carries_of_unsealed
    (h : PassSpec L c th (th.pack c t payload).1 (th.pack c t payload).2 p)
    (hfit : headerLen + payload.length ≤ bufSize) (hplain : SendsUnsealed c th p) {x : Sent}
    (hx : x ∈ p.sends) : th.Carries c L payload x.datagram.data := by
  left
  cases hrec : x.recipient with
  | peer ocid =>
      obtain ⟨e, he, rfl, -⟩ := h.direct_of_mem hx hrec
      have hep := Thread.getElem?_of_mem_table he
      have hout := h.data_peer hx hrec hep
      rw [hplain.1 x hx e.2 e.1 hrec hep] at hout
      exact outgoing_plain hfit hout
  | server =>
      have hout := h.data_server hx hrec
      rw [hplain.2 x hx hrec] at hout
      exact outgoing_plain hfit hout

end Fits

/-- A payload is harmless exactly when it fits or would neither be sealed nor
sent, and fits with its seal or would not be sent sealed. -/
theorem oversized_harmless_iff (L : Sodium) (c : OvboxClient) (t : ThreadState)
    (payload : List UInt8) (th : Thread) (hpos : 1 ≤ payload.length) :
    Harmless L c th payload (forward L c t payload th).1 ↔
      (headerLen + payload.length ≤ bufSize ∨ (NothingSealed c th ∧ NothingSent c th)) ∧
      (headerLen + payload.length + cryptoBoxSealBytes ≤ bufSize ∨ NothingSentSealed c th) := by
  have hspec := forward_spec L c t payload th hpos
  constructor
  · intro h
    constructor
    · rcases le_or_gt (headerLen + payload.length) bufSize with hfit | hlt
      · exact Or.inl hfit
      · right
        refine ⟨hspec.calls_eq_nil_iff.mp ?_, hspec.sends_eq_nil_iff.mp (h.unpacked hlt)⟩
        -- a call would be made with the length `0`
        intro len hcall
        have hheader := h.calls len hcall
        rw [((hspec.calls len).mp hcall).1, Thread.pack_length, if_pos hlt] at hheader
        exact absurd hheader (by decide)
    · rcases le_or_gt (headerLen + payload.length + cryptoBoxSealBytes) bufSize
        with hfit | hlt
      · exact Or.inl hfit
      · exact Or.inr (hspec.sendsUnsealed_iff.mp ⟨h.unsealedPeer hlt, h.unsealedServer hlt⟩)
  · rintro ⟨hpacked, hsealed⟩
    -- where a seal does not fit, no datagram has one
    have hplain : bufSize < headerLen + payload.length + cryptoBoxSealBytes →
        SendsUnsealed c th (forward L c t payload th).1 := by
      intro hlt
      rcases hsealed with hfit | hnone
      · omega
      · exact hspec.sendsUnsealed_iff.mpr hnone
    rcases hpacked with hfit | ⟨hunsealed, hunsent⟩
    · refine ⟨hspec.headerLen_le_calls hfit, ?_, fun hlt => by omega,
        fun hlt => (hplain hlt).1, fun hlt => (hplain hlt).2⟩
      intro x hx
      rcases le_or_gt (headerLen + payload.length + cryptoBoxSealBytes) bufSize with hfit' | hlt
      · exact forward_carries th hpos hfit' x hx
      · exact hspec.carries_of_unsealed hfit (hplain hlt) hx
    · -- the message is not packed: there is neither a call nor a datagram
      have hnil := hspec.sends_eq_nil_iff.mpr hunsent
      refine ⟨?_, ?_, fun _ => hnil, fun hlt => (hplain hlt).1, fun hlt => (hplain hlt).2⟩
      · intro len hcall
        exact absurd hcall (hspec.calls_eq_nil_iff.mpr hunsealed len)
      · intro x hx
        rw [hnil] at hx
        cases hx

theorem oversized_harmless_one_byte :
    Harmless Sodium.padding (clientWithPeer bPeer2peer 4464 (EpDesc.peerMode 0) false) .recsrv [1]
      (forward Sodium.padding (clientWithPeer bPeer2peer 4464 (EpDesc.peerMode 0) false)
        ThreadState.start [1] .recsrv).1 :=
  (oversized_harmless_iff Sodium.padding _ ThreadState.start [1] .recsrv (by decide)).mpr
    ⟨Or.inl (by decide), Or.inl (by decide)⟩

/-- A payload of the size of the receive buffer cannot be packed, and an empty
datagram goes to the relay server instead. -/
theorem oversized_payload_sent_empty :
    ¬ Harmless Sodium.padding (clientWithPeer 0 4464 EpDesc.unused false) .recsrv
      (List.replicate bufSize 1)
      (forward Sodium.padding (clientWithPeer 0 4464 EpDesc.unused false) ThreadState.start
        (List.replicate bufSize 1) .recsrv).1 := by
  intro h
  have hlen : (List.replicate bufSize (1 : UInt8)).length = bufSize := List.length_replicate
  have hspec := forward_spec Sodium.padding (clientWithPeer 0 4464 EpDesc.unused false)
    ThreadState.start (List.replicate bufSize 1) .recsrv (by rw [hlen]; decide)
  obtain ⟨x, hx, -⟩ := hspec.exists_server_iff.mpr ⟨by decide, by decide⟩
  rw [h.unpacked (by rw [hlen]; decide)] at hx
  cases hx

end Libov
