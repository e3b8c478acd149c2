/-
# The forwarding threads, taken apart

What a thread does with a payload is settled by where its loop body wants to
send (`Decision`) and by what `encryptmsg` makes of the message (`Outgoing`).

* `recsrvPeer_step`, `xrecsrvPeer_step`: each loop body carries out its decision;
* `peerLoop_server`, `peerLoop_calls`, `peerLoop_sends`: the whole table, by
  induction over it;
* `forward_spec`: the two threads on a payload, with the copy to the relay
  server.  Nothing else about the loops is used afterwards.
-/
import Libov.Forwarding

namespace Libov

/-! ## The decisions of the loop bodies -/

/-- What a loop body decides for one table entry: whether it chooses between the
packed and the sealed message, the address of a direct datagram, and whether it
asks for a copy to the relay server. -/
structure Decision where
  chooses : Bool
  direct : Option Endpoint
  server : Bool
  deriving DecidableEq

/-- The entry is active and not the client itself. -/
def OvboxClient.activeOther (c : OvboxClient) (ocid : ℕ) (ep : EpDesc) : Bool :=
  ep.timeout != 0 && ocid != c.callerid.toNat

/-- The entry is an active other device in peer-to-peer mode. -/
def OvboxClient.activePeer (c : OvboxClient) (ocid : ℕ) (ep : EpDesc) : Bool :=
  c.activeOther ocid ep && ep.mode.has bPeer2peer

/-- The downmix flags of client and peer match. -/
def OvboxClient.downmixMatches (c : OvboxClient) (ep : EpDesc) : Bool :=
  ep.mode.has bReceivedownmix == c.mode.has bSenddownmix

/-- The decision of `recsrv`. -/
def recsrvDecision (c : OvboxClient) (ocid : ℕ) (ep : EpDesc) : Decision :=
  { chooses := c.activePeer ocid ep
    direct :=
      if c.activePeer ocid ep && c.sendingPermitted ep && c.downmixMatches ep then
        some (c.peerAddress ep)
      else none
    server := c.activeOther ocid ep && !ep.mode.has bPeer2peer }

/-- The decision of `xrecsrv`: no downmix test, and the relay server stands in
for the peers in peer-to-peer mode that do not permit sending. -/
def xrecsrvDecision (c : OvboxClient) (ocid : ℕ) (ep : EpDesc) : Decision :=
  { chooses := c.activePeer ocid ep
    direct :=
      if c.activePeer ocid ep && c.sendingPermitted ep then some (c.peerAddress ep) else none
    server := c.activePeer ocid ep && !c.sendingPermitted ep }

/-- The bytes sent to a destination: the packed message, or what `encryptmsg`
made of it in a call with some earlier content of `cmsg`. -/
inductive Outgoing (L : Sodium) (msg : Buffer bufSize) (msglen : ℕ) (pubkey : PublicKey) :
    Bool → List UInt8 → Prop
  | plain : Outgoing L msg msglen pubkey false (msg.read 0 msglen)
  | encrypted (rnd : ℕ) (cmsg : Buffer (bufSize + cryptoBoxSealBytes)) :
      Outgoing L msg msglen pubkey true
        ((encryptmsg L rnd cmsg bufSize msg msglen pubkey).1.read 0
          (encryptmsg L rnd cmsg bufSize msg msglen pubkey).2)

/-- Choosing the bytes calls `encryptmsg` at most once and touches nothing else. -/
theorem choose_spec (L : Sodium) (p : Pass) (encrypt : Bool) (msg : Buffer bufSize) (msglen : ℕ)
    (pubkey : PublicKey) :
    Outgoing L msg msglen pubkey encrypt (p.choose L encrypt msg msglen pubkey).1 ∧
      (p.choose L encrypt msg msglen pubkey).2.calls
        = p.calls ++ (if encrypt then [msglen] else []) ∧
      (p.choose L encrypt msg msglen pubkey).2.sends = p.sends ∧
      (p.choose L encrypt msg msglen pubkey).2.sendtoserver = p.sendtoserver := by
  cases encrypt with
  | false => exact ⟨.plain, (List.append_nil _).symm, rfl, rfl⟩
  | true => exact ⟨.encrypted p.rnd p.cmsg, rfl, rfl, rfl⟩

/-- A loop body carries out a decision: the datagrams, the calls of `encryptmsg`
and the flag `sendtoserver` behind it. -/
structure PeerStep (L : Sodium) (c : OvboxClient) (msg : Buffer bufSize) (msglen : ℕ)
    (d : Decision) (ocid : ℕ) (ep : EpDesc) (p p' : Pass) : Prop where
  server : p'.sendtoserver = (p.sendtoserver || d.server)
  calls : p'.calls = p.calls ++ (if d.chooses && c.encryptsTo ep then [msglen] else [])
  sends : ∃ data, Outgoing L msg msglen ep.pubkey (c.encryptsTo ep) data ∧
    p'.sends = p.sends ++ (d.direct.map fun a => ⟨.peer ocid, sendEp data a⟩).toList

/-- A body that does nothing carries out the empty decision. -/
theorem PeerStep.skip (L : Sodium) (c : OvboxClient) (msg : Buffer bufSize) (msglen ocid : ℕ)
    (ep : EpDesc) (p : Pass) :
    PeerStep L c msg msglen ⟨false, none, false⟩ ocid ep p p where
  server := (Bool.or_false _).symm
  calls := (List.append_nil _).symm
  sends := ⟨_, (choose_spec L p (c.encryptsTo ep) msg msglen ep.pubkey).1, (List.append_nil _).symm⟩

/-- A body that only asks for the relay server. -/
theorem PeerStep.askServer (L : Sodium) (c : OvboxClient) (msg : Buffer bufSize) (msglen ocid : ℕ)
    (ep : EpDesc) (p : Pass) :
    PeerStep L c msg msglen ⟨false, none, true⟩ ocid ep p p.askServer where
  server := (Bool.or_true _).symm
  calls := (List.append_nil _).symm
  sends := ⟨_, (choose_spec L p (c.encryptsTo ep) msg msglen ep.pubkey).1, (List.append_nil _).symm⟩

/-- A body that chooses the bytes and then sends or asks for the relay server.
`p₀` is the pass in which the choice is made. -/
theorem PeerStep.chosen {L : Sodium} {c : OvboxClient} {msg : Buffer bufSize} {msglen ocid : ℕ}
    {ep : EpDesc} {p p' : Pass} (p₀ : Pass) (direct : Option Endpoint) (server : Bool)
    (hsends₀ : p₀.sends = p.sends) (hcalls₀ : p₀.calls = p.calls)
    (hserver₀ : p₀.sendtoserver = p.sendtoserver)
    (hsends : p'.sends = (p₀.choose L (c.encryptsTo ep) msg msglen ep.pubkey).2.sends
      ++ (direct.map fun a => ⟨.peer ocid,
        sendEp (p₀.choose L (c.encryptsTo ep) msg msglen ep.pubkey).1 a⟩).toList)
    (hcalls : p'.calls = (p₀.choose L (c.encryptsTo ep) msg msglen ep.pubkey).2.calls)
    (hserver : p'.sendtoserver
      = ((p₀.choose L (c.encryptsTo ep) msg msglen ep.pubkey).2.sendtoserver || server)) :
    PeerStep L c msg msglen ⟨true, direct, server⟩ ocid ep p p' := by
  obtain ⟨hdata', hcalls', hsends', hserver'⟩ :=
    choose_spec L p₀ (c.encryptsTo ep) msg msglen ep.pubkey
  constructor
  · rw [hserver, hserver', hserver₀]
  · rw [hcalls, hcalls', hcalls₀, Bool.true_and]
  · exact ⟨_, hdata', by rw [hsends, hsends', hsends₀]⟩

/-- The body of `recsrv` carries out its decision. -/
theorem recsrvPeer_step (L : Sodium) (c : OvboxClient) (msg : Buffer bufSize) (msglen ocid : ℕ)
    (ep : EpDesc) (p : Pass) :
    PeerStep L c msg msglen (recsrvDecision c ocid ep) ocid ep p
      (recsrvPeer L c msg msglen ocid ep p) := by
  unfold recsrvPeer recsrvDecision OvboxClient.activePeer OvboxClient.activeOther
  by_cases htime : ep.timeout = 0
  · simpa [htime] using PeerStep.skip L c msg msglen ocid ep p
  by_cases hself : ocid = c.callerid.toNat
  · simpa [hself] using PeerStep.skip L c msg msglen c.callerid.toNat ep p
  rw [if_pos htime, if_pos hself, bne_iff_ne.mpr htime, bne_iff_ne.mpr hself]
  by_cases hpeer : ep.mode.has bPeer2peer = true
  swap
  · rw [if_neg hpeer, Bool.eq_false_iff.mpr hpeer]
    exact PeerStep.askServer L c msg msglen ocid ep p
  -- an active peer: the bytes are chosen, then sent or not
  rw [if_pos hpeer, hpeer]
  by_cases hperm : c.sendingPermitted ep = true
  · by_cases hmix : ep.mode.has bReceivedownmix = c.mode.has bSenddownmix
    · rw [hperm, show c.downmixMatches ep = true from beq_iff_eq.mpr hmix]
      simp only [if_true, if_pos hmix]
      exact PeerStep.chosen p.countPeer (some (c.peerAddress ep)) false rfl rfl rfl
        rfl rfl (Bool.or_false _).symm
    · rw [hperm, show c.downmixMatches ep = false from beq_eq_false_iff_ne.mpr hmix]
      simp only [if_true, if_neg hmix]
      exact PeerStep.chosen p.countPeer none false rfl rfl rfl
        (List.append_nil _).symm rfl (Bool.or_false _).symm
  · rw [Bool.eq_false_iff.mpr hperm]
    exact PeerStep.chosen p.countPeer none false rfl rfl rfl
      (List.append_nil _).symm rfl (Bool.or_false _).symm

/-- The body of `xrecsrv` carries out its decision. -/
theorem xrecsrvPeer_step (L : Sodium) (c : OvboxClient) (msg : Buffer bufSize) (msglen ocid : ℕ)
    (ep : EpDesc) (p : Pass) :
    PeerStep L c msg msglen (xrecsrvDecision c ocid ep) ocid ep p
      (xrecsrvPeer L c msg msglen ocid ep p) := by
  unfold xrecsrvPeer xrecsrvDecision OvboxClient.activePeer OvboxClient.activeOther
  by_cases htime : ep.timeout = 0
  · simpa [htime] using PeerStep.skip L c msg msglen ocid ep p
  by_cases hself : ocid = c.callerid.toNat
  · simpa [hself] using PeerStep.skip L c msg msglen c.callerid.toNat ep p
  rw [if_pos htime, if_pos hself, bne_iff_ne.mpr htime, bne_iff_ne.mpr hself]
  by_cases hpeer : ep.mode.has bPeer2peer = true
  swap
  · rw [if_neg hpeer, Bool.eq_false_iff.mpr hpeer]
    exact PeerStep.skip L c msg msglen ocid ep p
  rw [if_pos hpeer, hpeer]
  by_cases hperm : c.sendingPermitted ep = true
  · rw [hperm]
    exact PeerStep.chosen p (some (c.peerAddress ep)) false rfl rfl rfl
      rfl rfl (Bool.or_false _).symm
  · rw [Bool.eq_false_iff.mpr hperm]
    exact PeerStep.chosen p none true rfl rfl rfl
      (List.append_nil _).symm rfl (Bool.or_true _).symm

/-! ## The loop over the endpoint table -/

/-- Recipient and address of a datagram. -/
def Sent.target (x : Sent) : Recipient × Endpoint := (x.recipient, x.datagram.dest)

/-- The direct datagrams that a decision asks for, over a numbered table. -/
def directTargets (dec : ℕ → EpDesc → Decision) (table : List (EpDesc × ℕ)) :
    List (Recipient × Endpoint) :=
  table.filterMap fun e => (dec e.2 e.1).direct.map fun a => (.peer e.2, a)

section Loop

variable {L : Sodium} {c : OvboxClient} {msg : Buffer bufSize} {msglen : ℕ}
  {dec : ℕ → EpDesc → Decision} {body : ℕ → EpDesc → Pass → Pass}
  (hstep : ∀ ocid ep p, PeerStep L c msg msglen (dec ocid ep) ocid ep p (body ocid ep p))

include hstep

/-- The flag `sendtoserver` accumulates over the loop. -/
theorem peerLoop_server (eps : List EpDesc) (ocid : ℕ) (p : Pass) :
    (peerLoop body ocid eps p).sendtoserver
      = (p.sendtoserver || (eps.zipIdx ocid).any fun e => (dec e.2 e.1).server) := by
  induction eps generalizing ocid p with
  | nil => exact (Bool.or_false _).symm
  | cons ep eps ih =>
      rw [peerLoop, ih, (hstep ocid ep p).server, List.zipIdx_cons, List.any_cons, Bool.or_assoc]

/-- `encryptmsg` is called for the peers that a message is sealed for. -/
theorem peerLoop_calls (eps : List EpDesc) (ocid : ℕ) (p : Pass) :
    (peerLoop body ocid eps p).calls = p.calls ++ (eps.zipIdx ocid).flatMap fun e =>
      if (dec e.2 e.1).chooses && c.encryptsTo e.1 then [msglen] else [] := by
  induction eps generalizing ocid p with
  | nil => exact (List.append_nil _).symm
  | cons ep eps ih =>
      rw [peerLoop, ih, (hstep ocid ep p).calls, List.zipIdx_cons, List.flatMap_cons,
        List.append_assoc]

/-- The datagrams of the loop: their targets, and for each of them the table
entry and the choice it comes from. -/
theorem peerLoop_sends (eps : List EpDesc) (ocid : ℕ) (p : Pass) :
    ∃ new : List Sent, (peerLoop body ocid eps p).sends = p.sends ++ new ∧
      new.map Sent.target = directTargets dec (eps.zipIdx ocid) ∧
      ∀ x ∈ new, ∃ e ∈ eps.zipIdx ocid, x.recipient = .peer e.2 ∧
        Outgoing L msg msglen e.1.pubkey (c.encryptsTo e.1) x.datagram.data := by
  induction eps generalizing ocid p with
  | nil => exact ⟨[], (List.append_nil _).symm, rfl, by simp⟩
  | cons ep eps ih =>
      obtain ⟨data, hdata, hsends⟩ := (hstep ocid ep p).sends
      obtain ⟨new, hnew, htargets, hfrom⟩ := ih (ocid + 1) (body ocid ep p)
      refine ⟨((dec ocid ep).direct.map fun a => ⟨.peer ocid, sendEp data a⟩).toList ++ new,
        ?_, ?_, ?_⟩
      · rw [peerLoop, hnew, hsends, List.append_assoc]
      · rw [List.map_append, htargets, List.zipIdx_cons, directTargets, directTargets,
          List.filterMap_cons]
        cases (dec ocid ep).direct with
        | none => rfl
        | some a => rfl
      · intro x hx
        rw [List.zipIdx_cons]
        rcases List.mem_append.mp hx with hx | hx
        · refine ⟨(ep, ocid), List.mem_cons_self, ?_⟩
          cases hdirect : (dec ocid ep).direct with
          | none => rw [hdirect] at hx; cases hx
          | some a =>
              rw [hdirect] at hx
              rw [List.mem_singleton.mp hx]
              exact ⟨rfl, hdata⟩
        · obtain ⟨e, he, hrest⟩ := hfrom x hx
          exact ⟨e, List.mem_cons_of_mem _ he, hrest⟩

end Loop

/-! ## What a thread does with a payload -/

/-- The two kinds of forwarding threads. -/
inductive Thread where
  | recsrv
  | xrecsrv (destport : Port)

/-- The thread on one payload. -/
def forward (L : Sodium) (c : OvboxClient) (t : ThreadState) (payload : List UInt8) :
    Thread → Pass × ThreadState × OvboxUdpSocket
  | .recsrv => recsrv L c t payload
  | .xrecsrv destport => xrecsrv L c destport t payload

namespace Thread

variable (th : Thread) (c : OvboxClient)

/-- The decision of the thread's loop body. -/
def decision : ℕ → EpDesc → Decision :=
  match th with
  | .recsrv => recsrvDecision c
  | .xrecsrv _ => xrecsrvDecision c

/-- The port that the message is packed with. -/
def packPort : Port :=
  match th with
  | .recsrv => c.recport - c.portoffset
  | .xrecsrv destport => destport

/-- The thread seals the copy for the relay server. -/
def sealsToServer : Bool :=
  match th with
  | .recsrv => c.encryptsToServer
  | .xrecsrv _ => false

/-- The table entries that the loop runs over; outside of peer-to-peer mode there
is no loop. -/
def table : List (EpDesc × ℕ) :=
  if c.mode.has bPeer2peer then c.endpoints.1.zipIdx else []

/-- A copy goes to the relay server. -/
def serverCopy : Bool :=
  !c.mode.has bPeer2peer || (table c).any fun e => (th.decision c e.2 e.1).server

/-- Targets of the datagrams to the relay server. -/
def serverTargets : List (Recipient × Endpoint) :=
  if th.serverCopy c = true ∧ c.toport ≠ 0 then
    [(.server, { c.remoteServer.servAddr with sinPort := htons c.toport })]
  else []

end Thread

/-- What a thread does for one payload, given the buffer with the packed message
and the length that packing reported. -/
structure PassSpec (L : Sodium) (c : OvboxClient) (th : Thread) (msg : Buffer bufSize)
    (msglen : ℕ) (p : Pass) : Prop where
  server : p.sendtoserver = th.serverCopy c
  calls : ∀ len, len ∈ p.calls ↔ len = msglen ∧
    ((∃ e ∈ Thread.table c, ((th.decision c e.2 e.1).chooses && c.encryptsTo e.1) = true) ∨
      (th.serverCopy c && th.sealsToServer c) = true)
  targets : p.sends.map Sent.target
    = directTargets (th.decision c) (Thread.table c) ++ th.serverTargets c
  data : ∀ x ∈ p.sends,
    (∃ e ∈ Thread.table c, x.recipient = .peer e.2 ∧
        Outgoing L msg msglen e.1.pubkey (c.encryptsTo e.1) x.datagram.data) ∨
      (x.recipient = .server ∧
        Outgoing L msg msglen c.srvPubkey (th.sealsToServer c) x.datagram.data)

/-- The same behind the loop, before the copy to the relay server. -/
structure LoopSpec (L : Sodium) (c : OvboxClient) (th : Thread) (msg : Buffer bufSize)
    (msglen : ℕ) (p : Pass) : Prop where
  server : p.sendtoserver = th.serverCopy c
  calls : ∀ len, len ∈ p.calls ↔ len = msglen ∧
    ∃ e ∈ Thread.table c, ((th.decision c e.2 e.1).chooses && c.encryptsTo e.1) = true
  targets : p.sends.map Sent.target = directTargets (th.decision c) (Thread.table c)
  data : ∀ x ∈ p.sends, ∃ e ∈ Thread.table c, x.recipient = .peer e.2 ∧
    Outgoing L msg msglen e.1.pubkey (c.encryptsTo e.1) x.datagram.data

/-- The loop of a thread, started with a new pass. -/
theorem loopSpec_of_step {L : Sodium} {c : OvboxClient} {msg : Buffer bufSize}
    {msglen : ℕ} {body : ℕ → EpDesc → Pass → Pass} (th : Thread) (t : ThreadState)
    (hstep : ∀ ocid ep p, PeerStep L c msg msglen (th.decision c ocid ep) ocid ep p
      (body ocid ep p)) :
    LoopSpec L c th msg msglen
      (if c.mode.has bPeer2peer then peerLoop body 0 c.endpoints.1 (t.pass c) else t.pass c) := by
  by_cases hpeer : c.mode.has bPeer2peer = true
  · have htable : Thread.table c = c.endpoints.1.zipIdx := if_pos hpeer
    obtain ⟨new, hnew, htargets, hfrom⟩ := peerLoop_sends hstep c.endpoints.1 0 (t.pass c)
    rw [if_pos hpeer]
    constructor
    · rw [peerLoop_server hstep, Thread.serverCopy, htable]
      rfl
    · intro len
      rw [peerLoop_calls hstep, htable]
      show len ∈ [] ++ _ ↔ _
      simp only [List.nil_append, List.mem_flatMap]
      constructor
      · rintro ⟨e, he, hlen⟩
        split_ifs at hlen with hseal
        · exact ⟨List.mem_singleton.mp hlen, e, he, hseal⟩
        · cases hlen
      · rintro ⟨rfl, e, he, hseal⟩
        exact ⟨e, he, by rw [if_pos hseal]; exact List.mem_singleton_self _⟩
    · rw [hnew, htable]
      exact htargets
    · intro x hx
      rw [hnew] at hx
      rw [htable]
      exact hfrom x hx
  · have htable : Thread.table c = [] := if_neg hpeer
    rw [if_neg hpeer]
    constructor
    · rw [Thread.serverCopy, htable]
      show (!c.mode.has bPeer2peer) = (!c.mode.has bPeer2peer || false)
      rw [Bool.or_false]
    · intro len
      rw [htable]
      show len ∈ [] ↔ _
      simp
    · rw [htable]
      rfl
    · intro x hx
      cases hx

/-- Without a copy to the relay server the pass ends with the loop. -/
theorem LoopSpec.noCopy {L : Sodium} {c : OvboxClient} {th : Thread} {msg : Buffer bufSize}
    {msglen : ℕ} {q : Pass} (h : LoopSpec L c th msg msglen q) (hcopy : th.serverCopy c = false) :
    PassSpec L c th msg msglen q where
  server := h.server
  calls := by
    intro len
    rw [h.calls, hcopy]
    simp
  targets := by
    rw [h.targets, Thread.serverTargets, if_neg (by rw [hcopy]; simp), List.append_nil]
  data := fun x hx => Or.inl (h.data x hx)

/-- The copy to the relay server: the bytes are chosen and sent to its port. -/
theorem LoopSpec.copy {L : Sodium} {c : OvboxClient} {th : Thread} {msg : Buffer bufSize}
    {msglen : ℕ} {q q' : Pass} {data : List UInt8} (h : LoopSpec L c th msg msglen q)
    (hcopy : th.serverCopy c = true)
    (hdata : Outgoing L msg msglen c.srvPubkey (th.sealsToServer c) data)
    (hcalls : q'.calls = q.calls ++ if th.sealsToServer c then [msglen] else [])
    (hsends : q'.sends = q.sends) (hserver : q'.sendtoserver = q.sendtoserver) :
    PassSpec L c th msg msglen (q'.sendServer c data) := by
  have hnew : (q'.sendServer c data).sends = q.sends
      ++ ((sendPort c.remoteServer.servAddr data c.toport).map (⟨.server, ·⟩)).toList := by
    rw [← hsends]
    rfl
  constructor
  · rw [← h.server, ← hserver]
    rfl
  · intro len
    show len ∈ q'.calls ↔ _
    rw [hcalls, List.mem_append, h.calls, hcopy, Bool.true_and, and_or_left]
    cases th.sealsToServer c with
    | false => simp
    | true => simp
  · rw [hnew, List.map_append, h.targets, Thread.serverTargets, sendPort]
    by_cases hport : c.toport = 0
    · rw [if_pos hport, if_neg (by simp [hport])]
      rfl
    · rw [if_neg hport, if_pos ⟨hcopy, hport⟩]
      rfl
  · intro x hx
    rw [hnew] at hx
    rcases List.mem_append.mp hx with hx | hx
    · exact Or.inl (h.data x hx)
    · right
      unfold sendPort at hx
      split_ifs at hx with hport
      · cases hx
      · rw [List.mem_singleton.mp hx]
        exact ⟨rfl, hdata⟩

/-- What the thread packs: the buffer and the length that packing reports. -/
def Thread.pack (th : Thread) (c : OvboxClient) (t : ThreadState) (payload : List UInt8) :
    Buffer bufSize × ℕ :=
  (c.remoteServer.packmsg t.msg bufSize (th.packPort c) payload).1

/-- The pass of `recsrv` behind the loop, `q`, and the copy to the relay server. -/
theorem recsrv_pass (L : Sodium) (c : OvboxClient) (t : ThreadState) (payload : List UInt8)
    (h : 0 < payload.length) (q : Pass)
    (hq : q = if c.mode.has bPeer2peer then
        peerLoop (recsrvPeer L c (Thread.recsrv.pack c t payload).1
          (Thread.recsrv.pack c t payload).2) 0 c.endpoints.1 (t.pass c)
      else t.pass c) :
    (recsrv L c t payload).1 =
      if q.sendtoserver then
        ((q.countPeer.choose L c.encryptsToServer (Thread.recsrv.pack c t payload).1
          (Thread.recsrv.pack c t payload).2 c.srvPubkey).2.countEncrypted
            c.encryptsToServer).sendServer c
          (q.countPeer.choose L c.encryptsToServer (Thread.recsrv.pack c t payload).1
            (Thread.recsrv.pack c t payload).2 c.srvPubkey).1
      else q := by
  subst hq
  rw [recsrv, if_pos h]
  rfl

/-- The pass of `xrecsrv` in the same form. -/
theorem xrecsrv_pass (L : Sodium) (c : OvboxClient) (destport : Port) (t : ThreadState)
    (payload : List UInt8) (h : 0 < payload.length) (q : Pass)
    (hq : q = if c.mode.has bPeer2peer then
        peerLoop (xrecsrvPeer L c ((Thread.xrecsrv destport).pack c t payload).1
          ((Thread.xrecsrv destport).pack c t payload).2) 0 c.endpoints.1 (t.pass c)
      else t.pass c) :
    (xrecsrv L c destport t payload).1 =
      if q.sendtoserver then
        q.sendServer c (((Thread.xrecsrv destport).pack c t payload).1.read 0
          ((Thread.xrecsrv destport).pack c t payload).2)
      else q := by
  subst hq
  rw [xrecsrv, if_pos h]
  rfl

/-- Both threads meet the specification. -/
theorem forward_spec (L : Sodium) (c : OvboxClient) (t : ThreadState) (payload : List UInt8)
    (th : Thread) (h : 0 < payload.length) :
    PassSpec L c th (th.pack c t payload).1 (th.pack c t payload).2
      (forward L c t payload th).1 := by
  cases th with
  | recsrv =>
      have hloop := loopSpec_of_step .recsrv t
        (recsrvPeer_step L c (Thread.recsrv.pack c t payload).1 (Thread.recsrv.pack c t payload).2)
      show PassSpec L c .recsrv _ _ (recsrv L c t payload).1
      rw [recsrv_pass L c t payload h _ rfl, hloop.server]
      cases hcopy : Thread.recsrv.serverCopy c with
      | false => exact hloop.noCopy hcopy
      | true =>
          rw [if_pos rfl]
          obtain ⟨hdata, hcalls, hsends, hserver⟩ := choose_spec L _ c.encryptsToServer
            (Thread.recsrv.pack c t payload).1 (Thread.recsrv.pack c t payload).2 c.srvPubkey
          exact hloop.copy hcopy hdata hcalls hsends hserver
  | xrecsrv destport =>
      have hloop := loopSpec_of_step (.xrecsrv destport) t
        (xrecsrvPeer_step L c ((Thread.xrecsrv destport).pack c t payload).1
          ((Thread.xrecsrv destport).pack c t payload).2)
      show PassSpec L c (.xrecsrv destport) _ _ (xrecsrv L c destport t payload).1
      rw [xrecsrv_pass L c destport t payload h _ rfl, hloop.server]
      cases hcopy : (Thread.xrecsrv destport).serverCopy c with
      | false => exact hloop.noCopy hcopy
      | true => exact hloop.copy hcopy .plain (List.append_nil _).symm rfl rfl

/-! ## The bytes sent -/

namespace Thread

variable (th : Thread) (c : OvboxClient)

/-- Header of the message that the thread packs. -/
def header : List UInt8 :=
  Libov.header c.remoteServer.secret c.remoteServer.callerid (th.packPort c)
    (c.remoteServer.nextSeq (th.packPort c))

/-- The packed message. -/
def packed (payload : List UInt8) : List UInt8 := th.header c ++ payload

/-- The message with its payload sealed for the owner of a key. -/
def SealedFor (L : Sodium) (payload : List UInt8) (pubkey : PublicKey) (data : List UInt8) :
    Prop :=
  ∃ rnd, data = th.header c ++ L.boxSeal rnd payload pubkey

/-- A complete message that carries the payload, packed or sealed. -/
def Carries (L : Sodium) (payload data : List UInt8) : Prop :=
  data = th.packed c payload ∨ ∃ pubkey, th.SealedFor c L payload pubkey data

end Thread

section Bytes

variable {L : Sodium} {c : OvboxClient} {t : ThreadState} {th : Thread} {payload : List UInt8}
  {pubkey : PublicKey} {data : List UInt8}

@[simp] theorem Thread.length_header : (th.header c).length = headerLen :=
  Libov.length_header _ _ _ _

@[simp] theorem Thread.length_packed :
    (th.packed c payload).length = headerLen + payload.length := by
  rw [Thread.packed, List.length_append, Thread.length_header]

theorem Thread.SealedFor.length (h : th.SealedFor c L payload pubkey data) :
    data.length = headerLen + payload.length + cryptoBoxSealBytes := by
  obtain ⟨rnd, rfl⟩ := h
  rw [List.length_append, Thread.length_header, L.length_boxSeal, Nat.add_assoc]

/-- The seal makes a difference. -/
theorem Thread.SealedFor.ne_packed (h : th.SealedFor c L payload pubkey data) :
    data ≠ th.packed c payload := by
  intro heq
  have hlen := h.length
  rw [heq, Thread.length_packed] at hlen
  unfold cryptoBoxSealBytes at hlen
  omega

/-- A complete message has at least a header. -/
theorem Thread.Carries.length (h : th.Carries c L payload data) :
    headerLen + payload.length ≤ data.length := by
  rcases h with rfl | ⟨pk, hsealed⟩
  · rw [Thread.length_packed]
  · rw [hsealed.length]
    omega

/-- The length that packing reports. -/
theorem Thread.pack_length (th : Thread) (c : OvboxClient) (t : ThreadState)
    (payload : List UInt8) :
    (th.pack c t payload).2
      = if bufSize < headerLen + payload.length then 0 else headerLen + payload.length :=
  OvboxUdpSocket.packmsg_length _ _ _ _ _

/-- A message that fits is in the buffer. -/
theorem Thread.read_pack (hfit : headerLen + payload.length ≤ bufSize) :
    (th.pack c t payload).1.read 0 (headerLen + payload.length) = th.packed c payload :=
  OvboxUdpSocket.read_packmsg _ _ _ _ hfit

theorem outgoing_plain (hfit : headerLen + payload.length ≤ bufSize)
    (h : Outgoing L (th.pack c t payload).1 (th.pack c t payload).2 pubkey false data) :
    data = th.packed c payload := by
  cases h
  rw [Thread.pack_length, if_neg (by omega), Thread.read_pack hfit]

/-- A message that fits with its seal goes out sealed. -/
theorem outgoing_sealed (hfit : headerLen + payload.length + cryptoBoxSealBytes ≤ bufSize)
    (h : Outgoing L (th.pack c t payload).1 (th.pack c t payload).2 pubkey true data) :
    th.SealedFor c L payload pubkey data := by
  cases h with | encrypted rnd cmsg =>
  have hread : (th.pack c t payload).1.read 0 (headerLen + payload.length)
      = th.packed c payload := Thread.read_pack (by omega)
  have hfront : (th.pack c t payload).1.read 0 headerLen = th.header c := by
    rw [← Buffer.take_read _ 0 headerLen (headerLen + payload.length) (by omega), hread,
      Thread.packed, List.take_left' Thread.length_header]
  have hrest : (th.pack c t payload).1.read headerLen payload.length = payload := by
    have hdrop := Buffer.drop_read (th.pack c t payload).1 0 headerLen
      (headerLen + payload.length)
    rw [hread, Thread.packed, List.drop_left' Thread.length_header, Nat.zero_add,
      Nat.add_sub_cancel_left] at hdrop
    exact hdrop.symm
  refine ⟨rnd, ?_⟩
  rw [Thread.pack_length, if_neg (by omega), read_encryptmsg L rnd cmsg _ pubkey (by omega)
    (by omega) (by decide) hfit (by omega), hfront, Nat.add_sub_cancel_left, hrest]

/-- A message that fits with its seal goes out sealed exactly if it is to be sealed. -/
theorem sealedFor_iff_of_outgoing {encrypt : Bool}
    (hfit : headerLen + payload.length + cryptoBoxSealBytes ≤ bufSize)
    (h : Outgoing L (th.pack c t payload).1 (th.pack c t payload).2 pubkey encrypt data) :
    th.SealedFor c L payload pubkey data ↔ encrypt = true := by
  cases encrypt with
  | true => exact iff_of_true (outgoing_sealed hfit h) rfl
  | false =>
      exact iff_of_false (fun hsealed => hsealed.ne_packed (outgoing_plain (by omega) h))
        Bool.false_ne_true

/-- A message that fits with its seal is complete either way. -/
theorem outgoing_carries {encrypt : Bool}
    (hfit : headerLen + payload.length + cryptoBoxSealBytes ≤ bufSize)
    (h : Outgoing L (th.pack c t payload).1 (th.pack c t payload).2 pubkey encrypt data) :
    th.Carries c L payload data := by
  cases encrypt with
  | false => exact Or.inl (outgoing_plain (by omega) h)
  | true => exact Or.inr ⟨pubkey, outgoing_sealed hfit h⟩

variable (th) in
/-- Every datagram sent for a payload that fits with its seal carries it. -/
theorem forward_carries (hpos : 0 < payload.length)
    (hfit : headerLen + payload.length + cryptoBoxSealBytes ≤ bufSize) :
    ∀ x ∈ (forward L c t payload th).1.sends, th.Carries c L payload x.datagram.data := by
  intro x hx
  rcases (forward_spec L c t payload th hpos).data x hx with ⟨e, -, -, hout⟩ | ⟨-, hout⟩
  · exact outgoing_carries hfit hout
  · exact outgoing_carries hfit hout

end Bytes

end Libov
