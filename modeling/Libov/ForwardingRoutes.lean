/-
# Where the forwarding threads send to

* `routes_alike_iff` : the direct destinations of the two threads are always the
  same, but they agree on the copy to the relay server only when both of their
  different reasons for it are present or absent;
* `recsrv_routes` : `recsrv` follows the table of operation modes of the README,
  as far as the relay server has a port.
-/
import Libov.ForwardingSpec

namespace Libov

/-! ## The reasons for a copy to the relay server -/

namespace OvboxClient

variable (c : OvboxClient)

/-- Some active other device is not in peer-to-peer mode. -/
def SomeNotPeer : Prop :=
  ∃ e ∈ c.endpoints.1.zipIdx, c.activeOther e.2 e.1 = true ∧ e.1.mode.has bPeer2peer = false

/-- Some active other device in peer-to-peer mode does not permit sending. -/
def SomePeerDenies : Prop :=
  ∃ e ∈ c.endpoints.1.zipIdx, c.activePeer e.2 e.1 = true ∧ c.sendingPermitted e.1 = false

/-- No entry of the table and not the client itself uses a downmix flag. -/
def NoDownmix : Prop :=
  c.mode.has bSenddownmix = false ∧ c.mode.has bReceivedownmix = false ∧
    ∀ ep ∈ c.endpoints.1, ep.mode.has bSenddownmix = false ∧ ep.mode.has bReceivedownmix = false

end OvboxClient

/-- The reason of `recsrv`. -/
theorem serverCopy_recsrv (c : OvboxClient) :
    Thread.recsrv.serverCopy c = true ↔ c.mode.has bPeer2peer = false ∨ c.SomeNotPeer := by
  unfold Thread.serverCopy Thread.table OvboxClient.SomeNotPeer
  rw [Bool.or_eq_true, Bool.not_eq_true', List.any_eq_true]
  cases hpeer : c.mode.has bPeer2peer with
  | false => simp
  | true => simp [Thread.decision, recsrvDecision]

/-- The reason of `xrecsrv`. -/
theorem serverCopy_xrecsrv (c : OvboxClient) (destport : Port) :
    (Thread.xrecsrv destport).serverCopy c = true
      ↔ c.mode.has bPeer2peer = false ∨ c.SomePeerDenies := by
  unfold Thread.serverCopy Thread.table OvboxClient.SomePeerDenies
  rw [Bool.or_eq_true, Bool.not_eq_true', List.any_eq_true]
  cases hpeer : c.mode.has bPeer2peer with
  | false => simp
  | true => simp [Thread.decision, xrecsrvDecision]

/-! ## Both threads on one payload -/

/-- The direct datagrams of a pass: entry and address of each. -/
def Pass.directs (p : Pass) : List (Recipient × Endpoint) :=
  (p.sends.map Sent.target).filter fun x => x.1 != .server

/-- Two passes choose the same destinations. -/
def RoutesAlike (p p' : Pass) : Prop :=
  p.directs = p'.directs ∧ p.sendtoserver = p'.sendtoserver

/-- A direct target belongs to a table entry. -/
theorem mem_directTargets {dec : ℕ → EpDesc → Decision} {table : List (EpDesc × ℕ)}
    {x : Recipient × Endpoint} :
    x ∈ directTargets dec table ↔
      ∃ e ∈ table, x.1 = .peer e.2 ∧ (dec e.2 e.1).direct = some x.2 := by
  unfold directTargets
  rw [List.mem_filterMap]
  constructor
  · rintro ⟨e, he, hx⟩
    rw [Option.map_eq_some_iff] at hx
    obtain ⟨a, ha, rfl⟩ := hx
    exact ⟨e, he, rfl, ha⟩
  · rintro ⟨e, he, hrec, hdirect⟩
    refine ⟨e, he, ?_⟩
    rw [hdirect, Option.map_some, ← hrec]

/-- The direct datagrams of a pass are those its decisions ask for. -/
theorem PassSpec.directs {L : Sodium} {c : OvboxClient} {th : Thread} {msg : Buffer bufSize}
    {msglen : ℕ} {p : Pass} (h : PassSpec L c th msg msglen p) :
    p.directs = directTargets (th.decision c) (Thread.table c) := by
  have hdirect : ∀ x ∈ directTargets (th.decision c) (Thread.table c), (x.1 != .server) = true := by
    intro x hx
    obtain ⟨e, -, hrec, -⟩ := mem_directTargets.mp hx
    rw [hrec]
    rfl
  have hserver : (th.serverTargets c).filter (fun x => x.1 != .server) = [] := by
    unfold Thread.serverTargets
    split_ifs with hcopy
    · rfl
    · rfl
  rw [Pass.directs, h.targets, List.filter_append, hserver, List.append_nil,
    List.filter_eq_self.mpr hdirect]

/-- Without downmix flags the two threads have the same direct targets. -/
theorem directTargets_alike (c : OvboxClient) (h : c.NoDownmix) :
    directTargets (recsrvDecision c) (Thread.table c)
      = directTargets (xrecsrvDecision c) (Thread.table c) := by
  unfold directTargets
  apply List.filterMap_congr
  intro e he
  have hmatch : c.downmixMatches e.1 = true := by
    have hmem : e.1 ∈ c.endpoints.1 := by
      unfold Thread.table at he
      split_ifs at he with hpeer
      · exact List.fst_mem_of_mem_zipIdx he
      · cases he
    rw [OvboxClient.downmixMatches, h.1, (h.2.2 e.1 hmem).2]
    rfl
  rw [recsrvDecision, xrecsrvDecision, hmatch, Bool.and_true]

/-- Without downmix flags the threads route alike exactly when they agree about
the relay server: the client is not in peer-to-peer mode, or some active other
device is not in peer-to-peer mode (the reason of `recsrv`) just if some active
peer does not permit sending (the reason of `xrecsrv`). -/
theorem routes_alike_iff (L : Sodium) (c : OvboxClient) (t t' : ThreadState) (destport : Port)
    (payload : List UInt8) (hpos : 0 < payload.length) (hmix : c.NoDownmix) :
    RoutesAlike (recsrv L c t payload).1 (xrecsrv L c destport t' payload).1
      ↔ c.mode.has bPeer2peer = false ∨ (c.SomeNotPeer ↔ c.SomePeerDenies) := by
  have hr := forward_spec L c t payload .recsrv hpos
  have hx := forward_spec L c t' payload (.xrecsrv destport) hpos
  have hdirects :
      (recsrv L c t payload).1.directs = (xrecsrv L c destport t' payload).1.directs := by
    rw [show (recsrv L c t payload).1.directs = _ from hr.directs,
      show (xrecsrv L c destport t' payload).1.directs = _ from hx.directs]
    exact directTargets_alike c hmix
  have hserver :
      ((recsrv L c t payload).1.sendtoserver = (xrecsrv L c destport t' payload).1.sendtoserver)
      ↔ (Thread.recsrv.serverCopy c = true ↔ (Thread.xrecsrv destport).serverCopy c = true) := by
    rw [show (recsrv L c t payload).1.sendtoserver = _ from hr.server,
      show (xrecsrv L c destport t' payload).1.sendtoserver = _ from hx.server, Bool.eq_iff_iff]
  unfold RoutesAlike
  rw [hserver, serverCopy_recsrv, serverCopy_xrecsrv]
  constructor
  · rintro ⟨-, halike⟩
    by_cases hpeer : c.mode.has bPeer2peer = false
    · exact Or.inl hpeer
    · right
      rwa [or_iff_right hpeer, or_iff_right hpeer] at halike
  · rintro (hpeer | halike)
    · exact ⟨hdirects, by simp [hpeer]⟩
    · exact ⟨hdirects, or_congr_right halike⟩

/-- A client with id `0` and one other entry in the table, at index `1`. -/
def clientWithPeer (mode : Epmode) (toport : Port) (peer : EpDesc) (srvHasPubkey : Bool) :
    OvboxClient :=
  { remoteServer := ⟨Endpoint.cleared, 0, 0, fun _ => none⟩
    toport := toport
    recport := 4464
    portoffset := 0
    callerid := 0
    mode := mode
    sendlocal := true
    endpoints := ⟨EpDesc.unused :: peer :: List.replicate 30 EpDesc.unused, rfl⟩
    outside := EpDesc.unused
    srvHasPubkey := srvHasPubkey
    srvPubkey := Buffer.zero _ }

/-- An active device that is not in peer-to-peer mode. -/
def EpDesc.serverMode : EpDesc := { EpDesc.unused with timeout := 120, mode := 0 }

/-- An active device in peer-to-peer mode. -/
def EpDesc.peerMode (flags : Epmode) : EpDesc :=
  { EpDesc.unused with timeout := 120, mode := bPeer2peer ||| flags }

theorem routes_alike_one_peer :
    RoutesAlike
      (recsrv Sodium.padding (clientWithPeer bPeer2peer 4464 (EpDesc.peerMode 0) false)
        ThreadState.start [1]).1
      (xrecsrv Sodium.padding (clientWithPeer bPeer2peer 4464 (EpDesc.peerMode 0) false) 9000
        ThreadState.start [1]).1 :=
  (routes_alike_iff Sodium.padding _ ThreadState.start ThreadState.start 9000 [1] (by decide)
    ⟨by decide, by decide, by decide⟩).mpr
    (Or.inr (iff_of_false (by unfold OvboxClient.SomeNotPeer; decide)
      (by unfold OvboxClient.SomePeerDenies; decide)))

/-- With an active device that is not in peer-to-peer mode, `recsrv` sends a copy
to the relay server and `xrecsrv` does not. -/
theorem xrecsrv_forgets_server :
    (clientWithPeer bPeer2peer 4464 EpDesc.serverMode false).NoDownmix ∧
    ¬ RoutesAlike
      (recsrv Sodium.padding (clientWithPeer bPeer2peer 4464 EpDesc.serverMode false)
        ThreadState.start [1]).1
      (xrecsrv Sodium.padding (clientWithPeer bPeer2peer 4464 EpDesc.serverMode false) 9000
        ThreadState.start [1]).1 := by
  refine ⟨⟨by decide, by decide, by decide⟩, ?_⟩
  rintro ⟨-, hserver⟩
  have hr := (forward_spec Sodium.padding (clientWithPeer bPeer2peer 4464 EpDesc.serverMode false)
    ThreadState.start [1] .recsrv (by decide)).server
  have hx := (forward_spec Sodium.padding (clientWithPeer bPeer2peer 4464 EpDesc.serverMode false)
    ThreadState.start [1] (.xrecsrv 9000) (by decide)).server
  have hagree := hr.symm.trans (hserver.trans hx)
  exact absurd hagree (by decide)

/-! ## The table of operation modes -/

/-- The addresses that the datagrams for a recipient are sent to. -/
def Pass.destinations (p : Pass) (r : Recipient) : List Endpoint :=
  (p.sends.filter fun x => x.recipient == r).map fun x => x.datagram.dest

/-- Number of datagrams for a recipient. -/
def Pass.countTo (p : Pass) (r : Recipient) : ℕ := p.sends.countP fun x => x.recipient == r

theorem length_destinations (p : Pass) (r : Recipient) :
    (p.destinations r).length = p.countTo r := by
  rw [Pass.destinations, List.length_map, Pass.countTo, List.countP_eq_length_filter]

/-- The addresses for a recipient among targets. -/
def addressesOf (targets : List (Recipient × Endpoint)) (r : Recipient) : List Endpoint :=
  (targets.filter fun x => x.1 == r).map Prod.snd

theorem addressesOf_append (targets targets' : List (Recipient × Endpoint)) (r : Recipient) :
    addressesOf (targets ++ targets') r = addressesOf targets r ++ addressesOf targets' r := by
  rw [addressesOf, List.filter_append, List.map_append]
  rfl

/-- The destinations of a pass are those of its targets. -/
theorem destinations_eq (p : Pass) (r : Recipient) :
    p.destinations r = addressesOf (p.sends.map Sent.target) r := by
  rw [Pass.destinations, addressesOf, List.filter_map, List.map_map]
  rfl

/-- The direct targets over a table, entry by entry. -/
theorem addressesOf_directTargets_cons (dec : ℕ → EpDesc → Decision) (ep : EpDesc)
    (table : List (EpDesc × ℕ)) (k ocid : ℕ) :
    addressesOf (directTargets dec ((ep, k) :: table)) (.peer ocid)
      = (if k = ocid then (dec k ep).direct.toList else []) ++
        addressesOf (directTargets dec table) (.peer ocid) := by
  rw [directTargets, List.filterMap_cons]
  cases (dec k ep).direct with
  | none =>
      show addressesOf (directTargets dec table) (.peer ocid) = _
      split_ifs
      · rfl
      · rfl
  | some a =>
      show addressesOf ([(Recipient.peer k, a)] ++ directTargets dec table) (.peer ocid) = _
      rw [addressesOf_append]
      by_cases hk : k = ocid
      · simp [hk, addressesOf]
      · simp [hk, addressesOf]

/-- Every table entry gets at most one direct datagram, at the address that the
decision for it says. -/
theorem addressesOf_directTargets (dec : ℕ → EpDesc → Decision) (eps : List EpDesc)
    (k ocid : ℕ) :
    addressesOf (directTargets dec (eps.zipIdx k)) (.peer ocid)
      = if k ≤ ocid then
          (eps[ocid - k]?).elim [] fun ep => (dec ocid ep).direct.toList
        else [] := by
  induction eps generalizing k with
  | nil => simp [directTargets, addressesOf]
  | cons ep eps ih =>
      rw [List.zipIdx_cons, addressesOf_directTargets_cons, ih]
      rcases Nat.lt_trichotomy k ocid with hlt | rfl | hgt
      · -- the entry is further behind
        rw [if_neg (by omega), if_pos (by omega), if_pos (by omega),
          show ocid - k = ocid - (k + 1) + 1 by omega, List.getElem?_cons_succ, List.nil_append]
      · rw [if_pos rfl, if_neg (by omega), if_pos le_rfl, Nat.sub_self, List.getElem?_cons_zero,
          List.append_nil]
        rfl
      · rw [if_neg (by omega), if_neg (by omega), if_neg (by omega)]
        rfl

/-- The peer at an index gets a direct datagram: active, not the client itself,
in peer-to-peer mode, with matching downmix flags, and either accepting data or
using a proxy in the same network. -/
structure OvboxClient.Eligible (c : OvboxClient) (ocid : ℕ) (ep : EpDesc) : Prop where
  active : ep.timeout ≠ 0
  other : ocid ≠ c.callerid.toNat
  peer : ep.mode.has bPeer2peer = true
  downmix : ep.mode.has bReceivedownmix = c.mode.has bSenddownmix
  permitted : ep.mode.has bDonotsend = false ∨
    (ep.mode.has bUsingproxy = true ∧ c.targetInSameNetwork ep = true)

/-- The address of the relay server, with the port `toport`. -/
def OvboxClient.relayAddress (c : OvboxClient) : Endpoint :=
  { c.remoteServer.servAddr with sinPort := htons c.toport }

/-- Part (a) of the table: exactly the eligible peers get a direct datagram, one
each and at their address, and nobody does outside of peer-to-peer mode. -/
structure DirectRoutes (c : OvboxClient) (p : Pass) : Prop where
  one : ∀ ocid ep, c.mode.has bPeer2peer = true → c.endpoints.1[ocid]? = some ep →
    c.Eligible ocid ep → p.destinations (.peer ocid) = [c.peerAddress ep]
  none : ∀ ocid, (¬ ∃ ep, c.mode.has bPeer2peer = true ∧ c.endpoints.1[ocid]? = some ep ∧
    c.Eligible ocid ep) → p.destinations (.peer ocid) = []

/-- Part (b) of the table: one copy for the relay server, at its address, if the client
or some active other device is not in peer-to-peer mode, none otherwise. -/
structure RelayRoute (c : OvboxClient) (p : Pass) : Prop where
  one : c.mode.has bPeer2peer = false ∨ c.SomeNotPeer → p.destinations .server = [c.relayAddress]
  none : ¬ (c.mode.has bPeer2peer = false ∨ c.SomeNotPeer) → p.destinations .server = []

/-- The decision of `recsrv` for an entry is a direct datagram exactly for the
eligible peers. -/
theorem direct_isSome_iff (c : OvboxClient) (ocid : ℕ) (ep : EpDesc) :
    (recsrvDecision c ocid ep).direct.isSome = true ↔ c.Eligible ocid ep := by
  have hcond : (recsrvDecision c ocid ep).direct.isSome
      = (c.activePeer ocid ep && c.sendingPermitted ep && c.downmixMatches ep) := by
    unfold recsrvDecision
    cases c.activePeer ocid ep && c.sendingPermitted ep && c.downmixMatches ep <;> rfl
  rw [hcond]
  simp only [OvboxClient.activePeer, OvboxClient.activeOther, OvboxClient.sendingPermitted,
    OvboxClient.downmixMatches, Bool.and_eq_true, Bool.or_eq_true, Bool.not_eq_true', bne_iff_ne,
    beq_iff_eq]
  constructor
  · rintro ⟨⟨⟨⟨hactive, hother⟩, hpeer⟩, hperm⟩, hmix⟩
    exact ⟨hactive, hother, hpeer, hmix, hperm⟩
  · rintro ⟨hactive, hother, hpeer, hmix, hperm⟩
    exact ⟨⟨⟨⟨hactive, hother⟩, hpeer⟩, hperm⟩, hmix⟩

/-- A direct datagram goes to the address of the peer. -/
theorem direct_eq (c : OvboxClient) (ocid : ℕ) (ep : EpDesc)
    (h : (recsrvDecision c ocid ep).direct.isSome = true) :
    (recsrvDecision c ocid ep).direct = some (c.peerAddress ep) := by
  unfold recsrvDecision at h ⊢
  cases hcond : c.activePeer ocid ep && c.sendingPermitted ep && c.downmixMatches ep with
  | true => rfl
  | false =>
      rw [hcond] at h
      exact absurd h Bool.false_ne_true

/-- Where the direct datagrams of a thread for one index go to. -/
theorem PassSpec.destinations_peer {L : Sodium} {c : OvboxClient} {th : Thread}
    {msg : Buffer bufSize} {msglen : ℕ} {p : Pass} (h : PassSpec L c th msg msglen p) (ocid : ℕ) :
    p.destinations (.peer ocid) = if c.mode.has bPeer2peer then
        (c.endpoints.1[ocid]?).elim [] fun ep => (th.decision c ocid ep).direct.toList
      else [] := by
  have hserver : addressesOf (th.serverTargets c) (.peer ocid) = [] := by
    unfold Thread.serverTargets
    split_ifs with hcopy
    · rfl
    · rfl
  rw [destinations_eq, h.targets, addressesOf_append, hserver, List.append_nil, Thread.table]
  by_cases hpeer : c.mode.has bPeer2peer = true
  · rw [if_pos hpeer, if_pos hpeer]
    exact addressesOf_directTargets (th.decision c) c.endpoints.1 0 ocid
  · rw [if_neg hpeer, if_neg hpeer]
    rfl

/-- Where the datagrams to the relay server go to. -/
theorem PassSpec.destinations_server {L : Sodium} {c : OvboxClient} {th : Thread}
    {msg : Buffer bufSize} {msglen : ℕ} {p : Pass} (h : PassSpec L c th msg msglen p) :
    p.destinations .server
      = if th.serverCopy c = true ∧ c.toport ≠ 0 then [c.relayAddress] else [] := by
  have hdirect : addressesOf (directTargets (th.decision c) (Thread.table c)) .server = [] := by
    rw [addressesOf, List.map_eq_nil_iff, List.filter_eq_nil_iff]
    intro x hx
    obtain ⟨e, -, hrec, -⟩ := mem_directTargets.mp hx
    rw [hrec]
    exact Bool.false_ne_true
  rw [destinations_eq, h.targets, addressesOf_append, hdirect, List.nil_append,
    Thread.serverTargets]
  split_ifs with hcopy
  · rfl
  · rfl

/-- Datagrams to the relay server. -/
theorem PassSpec.countTo_server {L : Sodium} {c : OvboxClient} {th : Thread}
    {msg : Buffer bufSize} {msglen : ℕ} {p : Pass} (h : PassSpec L c th msg msglen p) :
    p.countTo .server = if th.serverCopy c = true ∧ c.toport ≠ 0 then 1 else 0 := by
  rw [← length_destinations, h.destinations_server]
  split_ifs with hcopy
  · rfl
  · rfl

/-- `recsrv` follows the table of operation modes: one datagram to the address of
each eligible peer, and one to that of the relay server where a copy is asked for.
The relay server is reached through the port `toport`; with port `0` nothing is sent
to it.  The datagrams carry the payload when it fits together with a seal. -/
theorem recsrv_routes (L : Sodium) (c : OvboxClient) (t : ThreadState) (payload : List UInt8)
    (hpos : 0 < payload.length) :
    DirectRoutes c (recsrv L c t payload).1 ∧
      (c.toport ≠ 0 → RelayRoute c (recsrv L c t payload).1) ∧
      (c.toport = 0 → (recsrv L c t payload).1.destinations .server = []) ∧
      (headerLen + payload.length + cryptoBoxSealBytes ≤ bufSize →
        ∀ x ∈ (recsrv L c t payload).1.sends,
          Thread.recsrv.Carries c L payload x.datagram.data) := by
  have hspec := forward_spec L c t payload .recsrv hpos
  have hpeer := hspec.destinations_peer
  have hserver := hspec.destinations_server
  change ∀ ocid, (recsrv L c t payload).1.destinations (.peer ocid) = _ at hpeer
  change (recsrv L c t payload).1.destinations .server = _ at hserver
  refine ⟨⟨?_, ?_⟩, ?_, ?_, fun hfit => forward_carries .recsrv hpos hfit⟩
  · intro ocid ep hmode hep heligible
    have hdirect := direct_eq c ocid ep ((direct_isSome_iff c ocid ep).mpr heligible)
    rw [hpeer, if_pos hmode, hep, Option.elim_some]
    show (recsrvDecision c ocid ep).direct.toList = _
    rw [hdirect]
    rfl
  · intro ocid hnone
    rw [hpeer]
    split_ifs with hmode
    · cases hep : c.endpoints.1[ocid]? with
      | none => rfl
      | some ep =>
          have hnot : ¬ (recsrvDecision c ocid ep).direct.isSome = true :=
            fun hsome => hnone ⟨ep, hmode, hep, (direct_isSome_iff c ocid ep).mp hsome⟩
          show (recsrvDecision c ocid ep).direct.toList = []
          rw [Option.not_isSome_iff_eq_none.mp hnot]
          rfl
    · rfl
  · intro hport
    constructor
    · intro hreason
      rw [hserver, if_pos ⟨(serverCopy_recsrv c).mpr hreason, hport⟩]
    · intro hreason
      rw [hserver, if_neg fun h => hreason ((serverCopy_recsrv c).mp h.1)]
  · intro hport
    rw [hserver, if_neg fun h => h.2 hport]

theorem recsrv_routes_one_peer :
    (recsrv Sodium.padding (clientWithPeer bPeer2peer 4464 (EpDesc.peerMode 0) false)
      ThreadState.start [1]).1.destinations (.peer 1) = [(EpDesc.peerMode 0).ep] :=
  (recsrv_routes Sodium.padding (clientWithPeer bPeer2peer 4464 (EpDesc.peerMode 0) false)
    ThreadState.start [1] (by decide)).1.one 1 (EpDesc.peerMode 0) (by decide) rfl
    ⟨by decide, by decide, by decide, by decide, by decide⟩

/-- Outside of peer-to-peer mode but with port `0` there is no copy for the relay
server. -/
theorem recsrv_port_zero :
    ¬ RelayRoute (clientWithPeer 0 0 EpDesc.unused false)
      (recsrv Sodium.padding (clientWithPeer 0 0 EpDesc.unused false) ThreadState.start [1]).1 := by
  intro h
  have hone := h.one (Or.inl (by decide))
  have hzero := (forward_spec Sodium.padding (clientWithPeer 0 0 EpDesc.unused false)
    ThreadState.start [1] .recsrv (by decide)).destinations_server
  rw [if_neg (by decide)] at hzero
  exact List.cons_ne_nil _ _ (hone.symm.trans hzero)

end Libov
