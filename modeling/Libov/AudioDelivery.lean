/-
# From a sender to the receivers

The sender of a session sends to the port of its client; the client numbers the audio by the port
without its offset; and the client of another device adds its own offsets again.  So the audio
comes out at the receivers for the device that it comes from, in one case at others.

* `toNat_getZitaport`, `packPort_sessionClient` : the ports of the processes and of the streams;
* `heardAt_copies` : what comes out at one port;
* `ZitaReceiver.Plays`, `count_offsets` : the receivers at whose ports a client sends the
  audio of a device;
* `audio_delivered` : they hear this audio, payload by payload, and the others nothing of it.
-/
import Libov.OrderedDelivery
import Libov.ZitaProcesses

open Runs

namespace Libov

open Renderer

/-! ## Ports -/

/-- The two bytes of a port are exchanged. -/
theorem toNat_htons (p : Port) : (htons p).toNat = 256 * (p.toNat % 256) + p.toNat / 256 := by
  have hlow : p.toNat / 256 < 2 ^ 8 := by
    have := p.toNat_lt
    omega
  have hhigh : p.toNat <<< 8 % 2 ^ 16 = 2 ^ 8 * (p.toNat % 256) := by
    rw [Nat.shiftLeft_eq]
    omega
  unfold htons
  rw [UInt16.toNat_or, UInt16.toNat_shiftLeft, UInt16.toNat_shiftRight]
  show p.toNat <<< 8 % 2 ^ 16 ||| p.toNat >>> 8 = _
  rw [hhigh, Nat.shiftRight_eq_div_pow]
  exact (Nat.two_pow_add_eq_or_of_lt hlow _).symm

/-- Different ports stay different in network order. -/
theorem htons_inj {p q : Port} : htons p = htons q ↔ p = q := by
  constructor
  · intro h
    have hnat := congrArg UInt16.toNat h
    rw [toNat_htons, toNat_htons] at hnat
    have hp := p.toNat_lt
    have hq := q.toNat_lt
    apply UInt16.toNat_inj.mp
    omega
  · rintro rfl
    rfl

/-- The ports of the audio streams are computed without overflow. -/
theorem toNat_getZitaport {id : StageDeviceId} {offset xoffset : Port}
    (h : 4464 + 2 * id.toNat + offset.toNat + xoffset.toNat < 65536) :
    (getZitaport id offset xoffset).toNat
      = 4464 + 2 * id.toNat + offset.toNat + xoffset.toNat :=
  UInt16.toNat_ofNat_of_lt' h

/-- The stream of the audio of a device. -/
def audioStream (st : Stage) : Stream :=
  (st.thisstagedeviceid, getZitaport st.thisstagedeviceid 0 0)

/-- The client sends what it reads from the sender under the port without its own offset. -/
theorem packPort_sessionClient (env : SessionEnv) (st : Stage) (x : ExtraVars)
    (s : ClientSurroundings) :
    Thread.recsrv.packPort (sessionClient env st x s).client = (audioStream st).2 := by
  show getZitaport st.thisstagedeviceid env.portoffset 0 - env.portoffset
    = getZitaport st.thisstagedeviceid 0 0
  rw [sub_eq_iff_eq_add, ← UInt16.toNat_inj]
  unfold getZitaport
  rw [UInt16.toNat_add, UInt16.toNat_ofNat', UInt16.toNat_ofNat']
  show (4464 + 2 * st.thisstagedeviceid.toNat + env.portoffset.toNat + 0) % 2 ^ 16
    = ((4464 + 2 * st.thisstagedeviceid.toNat + 0 + 0) % 2 ^ 16 + env.portoffset.toNat) % 2 ^ 16
  omega

/-! ## What comes out at a port -/

/-- What comes out at a local port. -/
def heardAt (p : Port) (ds : List Datagram) : List (List UInt8) :=
  (ds.filter fun d => d.dest.sinPort == htons p).map Datagram.data

/-- What is heard of two lists of datagrams, one after the other. -/
theorem heardAt_append (p : Port) (ds ds' : List Datagram) :
    heardAt p (ds ++ ds') = heardAt p ds ++ heardAt p ds' := by
  unfold heardAt
  rw [List.filter_append, List.map_append]

/-- A datagram is heard at its own port only. -/
theorem heardAt_singleton (p q : Port) (ep : Endpoint) (data : List UInt8) :
    heardAt q [⟨{ ep with sinPort := htons p }, data⟩] = if p = q then [data] else [] := by
  unfold heardAt
  rw [List.filter_singleton, cond_eq_ite]
  simp only [beq_iff_eq, htons_inj]
  split_ifs
  · rfl
  · rfl

/-- A payload comes out at a port once for each offset that leads there. -/
theorem heardAt_copies (c : ClientState) {p q : Port} (payload : List UInt8)
    (hown : q ≠ c.recport) (hzero : q ≠ 0) :
    heardAt q (c.copies p payload)
      = List.replicate ((c.portoffset :: c.xdest).count (q - p)) payload := by
  have hoffset (offset : Port) :
      heardAt q (c.receiver.sendLocal payload p offset)
        = if offset = q - p then [payload] else [] := by
    rw [sendLocal_eq]
    by_cases hleads : offset = q - p
    · have hsum : p + offset = q := by
        rw [hleads, add_comm, sub_add_cancel]
      have hnot : ¬ (p.toNat + offset.toNat = c.receiver.client.recport.toNat ∨
          p + offset = 0) := by
        rw [hsum]
        rintro (hself | hz)
        · apply hown
          rw [← hsum, ← UInt16.toNat_inj, UInt16.toNat_add, hself]
          exact Nat.mod_eq_of_lt c.recport.toNat_lt
        · exact hzero hz
      rw [if_neg hnot, if_pos hleads, heardAt_singleton, if_pos hsum]
    · have hsum : p + offset ≠ q := by
        rintro rfl
        exact hleads (by rw [add_comm, add_sub_cancel_right])
      rw [if_neg hleads]
      split_ifs
      · rfl
      · rw [heardAt_singleton, if_neg hsum]
  rw [copies_eq]
  induction c.portoffset :: c.xdest with
  | nil => rfl
  | cons offset offsets ih =>
      rw [List.flatMap_cons, heardAt_append, ih, hoffset, List.count_cons]
      by_cases hleads : offset = q - p
      · rw [if_pos hleads, if_pos (beq_iff_eq.mpr hleads), Nat.add_comm, List.replicate_add]
        rfl
      · rw [if_neg hleads, if_neg (by rwa [beq_iff_eq]), Nat.add_zero, List.nil_append]

/-! ## The receivers for a device -/

/-- Two sessions on one stage, with ids as they are given out there. -/
structure OnOneStage (env : SessionEnv) (stA stB : Stage) : Prop where
  pin : stA.pin = stB.pin
  distinct : stA.thisstagedeviceid ≠ stB.thisstagedeviceid
  inTable : stA.thisstagedeviceid.toNat < maxStageId
  peerInTable : stB.thisstagedeviceid.toNat < maxStageId
  members : ∀ dev ∈ stageMembers stB, dev.id.toNat < maxStageId
  /-- the constructor shifts the ports of a secondary client -/
  offset : env.portoffset = if env.secondary then 64 else 0

/-- The receiver gets the audio of the device.  A second receiver of a secondary client gets none;
what is meant for it goes to the first receiver of another device. -/
def ZitaReceiver.Plays (env : SessionEnv) (st : Stage) (r : ZitaReceiver) (id : StageDeviceId) :
    Prop :=
  if r.secondary then r.member.id = id ∧ env.secondary = false
  else r.member.id = id ∨
    env.secondary = true ∧ 0 < st.rendersettings.secrec ∧ r.member.id.toNat = id.toNat + 18

instance (env : SessionEnv) (st : Stage) (r : ZitaReceiver) (id : StageDeviceId) :
    Decidable (r.Plays env st id) := by
  unfold ZitaReceiver.Plays
  infer_instance

section Receivers

variable {env : SessionEnv} {stA stB : Stage} {r : ZitaReceiver}

/-- A receiver is for another device on stage, and the second ones are there for a second bus. -/
theorem of_mem_zitaReceivers (hr : r ∈ zitaReceivers stB) :
    r.member ∈ stageMembers stB ∧ stB.thisstagedeviceid ≠ r.member.id ∧
      (r.secondary = true → 0 < stB.rendersettings.secrec) := by
  obtain ⟨dev, hdev, hr⟩ := List.mem_flatMap.mp hr
  have hmember : dev ∈ stageMembers stB := by
    unfold receivedMembers at hdev
    split_ifs at hdev
    · exact absurd hdev List.not_mem_nil
    · exact hdev
    · exact List.mem_of_mem_filter hdev
  unfold receiversOf at hr
  cases hreceives : receivesFrom stB dev && !dev.nozita with
  | false =>
      rw [hreceives, if_neg Bool.false_ne_true] at hr
      exact absurd hr List.not_mem_nil
  | true =>
      rw [hreceives, if_pos rfl] at hr
      have hother : stB.thisstagedeviceid ≠ dev.id := by
        unfold receivesFrom at hreceives
        rw [Bool.and_eq_true, Bool.and_eq_true, Bool.and_eq_true, bne_iff_ne] at hreceives
        exact hreceives.1.1.2
      rcases List.mem_cons.mp hr with rfl | hr
      · exact ⟨hmember, hother, fun h => absurd h Bool.false_ne_true⟩
      · split_ifs at hr with hsecrec
        · rw [List.mem_singleton.mp hr]
          exact ⟨hmember, hother, fun _ => hsecrec⟩
        · exact absurd hr List.not_mem_nil

/-- An offset leads from one port to another one exactly if it is their difference. -/
theorem eq_sub_port_iff {offset p q : Port} (h : p.toNat + offset.toNat < 65536) :
    offset = q - p ↔ p.toNat + offset.toNat = q.toNat := by
  rw [eq_sub_iff_add_eq, add_comm, ← UInt16.toNat_inj, UInt16.toNat_add, Nat.mod_eq_of_lt h]

/-- Only a secondary client has an offset. -/
theorem toNat_portoffset (h : OnOneStage env stA stB) :
    env.portoffset.toNat = if env.secondary then 64 else 0 := by
  rw [h.offset]
  split_ifs <;> rfl

/-- The port of a receiver as a number. -/
theorem ZitaReceiver.toNat_port (h : OnOneStage env stA stB)
    (hmember : r.member ∈ stageMembers stB) :
    (r.port env).toNat = 4464 + 2 * r.member.id.toNat + (if env.secondary then 64 else 0) +
      if r.secondary then 100 else 0 := by
  have hC : r.member.id.toNat < 32 := h.members _ hmember
  have hxoffset : (if r.secondary then (100 : Port) else 0).toNat
      = if r.secondary then 100 else 0 := by
    split_ifs <;> rfl
  rw [← toNat_portoffset h, ← hxoffset]
  refine toNat_getZitaport ?_
  rw [toNat_portoffset h, hxoffset]
  split_ifs <;> omega

/-- The port of the stream that a device sends, as a number. -/
theorem toNat_audioStream (h : OnOneStage env stA stB) :
    (audioStream stA).2.toNat = 4464 + 2 * stA.thisstagedeviceid.toNat := by
  have hA : stA.thisstagedeviceid.toNat < 32 := h.inTable
  exact toNat_getZitaport (show 4464 + 2 * stA.thisstagedeviceid.toNat + 0 + 0 < 65536 by omega)

/-- The client sends the audio of a device to the port of a receiver once if the receiver plays it,
and not at all otherwise. -/
theorem count_offsets (h : OnOneStage env stA stB) (hr : r ∈ zitaReceivers stB) :
    (env.portoffset :: if 0 < stB.rendersettings.secrec then [100] else []).count
        (r.port env - (audioStream stA).2)
      = if r.Plays env stB stA.thisstagedeviceid then 1 else 0 := by
  obtain ⟨hmember, -, hsecond⟩ := of_mem_zitaReceivers hr
  have hA : stA.thisstagedeviceid.toNat < 32 := h.inTable
  have hC : r.member.id.toNat < 32 := h.members _ hmember
  have hown : env.portoffset = r.port env - (audioStream stA).2
      ↔ 4464 + 2 * stA.thisstagedeviceid.toNat + (if env.secondary then 64 else 0)
        = (r.port env).toNat := by
    rw [← toNat_portoffset h, ← toNat_audioStream h]
    refine eq_sub_port_iff ?_
    rw [toNat_portoffset h, toNat_audioStream h]
    split_ifs <;> omega
  have hextra : 100 = r.port env - (audioStream stA).2
      ↔ 4464 + 2 * stA.thisstagedeviceid.toNat + 100 = (r.port env).toNat := by
    rw [← toNat_audioStream h]
    refine eq_sub_port_iff ?_
    rw [toNat_audioStream h]
    show _ + 100 < 65536
    omega
  have hsame : r.member.id = stA.thisstagedeviceid
      ↔ r.member.id.toNat = stA.thisstagedeviceid.toNat := UInt8.toNat_inj.symm
  rw [r.toNat_port h hmember] at hown hextra
  by_cases hsecrec : 0 < stB.rendersettings.secrec
  · rw [if_pos hsecrec, List.count_cons, List.count_singleton]
    simp only [ZitaReceiver.Plays, beq_iff_eq, hown, hextra, hsame, hsecrec, true_and]
    clear hown hextra hsame
    cases r.secondary with
    | true =>
        cases env.secondary with
        | true =>
            -- the second receivers are 64 ports behind the offset of the second bus
            simp only [if_true, reduceCtorEq, and_false, if_false]
            split_ifs <;> omega
        | false =>
            simp only [if_true, Bool.false_eq_true, if_false, and_true]
            split_ifs <;> omega
    | false =>
        cases env.secondary with
        | true =>
            -- the offset of the second bus leads to the first receiver 36 ports further on
            simp only [if_true, Bool.false_eq_true, if_false, true_and]
            split_ifs <;> omega
        | false =>
            simp only [Bool.false_eq_true, if_false, false_and, or_false]
            split_ifs <;> omega
  · have hfirst : r.secondary = false := by
      rw [← Bool.not_eq_true]
      exact fun hsec => hsecrec (hsecond hsec)
    rw [if_neg hsecrec, List.count_singleton]
    rw [hfirst] at hown
    simp only [ZitaReceiver.Plays, hfirst, beq_iff_eq, hown, hsame, hsecrec, Bool.false_eq_true,
      if_false, false_and, and_false, or_false]
    split_ifs <;> omega

end Receivers

/-! ## Delivery -/

/-- If each payload is heard so many times, so is each of a list. -/
theorem heardAt_flatMap {q : Port} {f : List UInt8 → List Datagram} {k : ℕ}
    (h : ∀ payload, heardAt q (f payload) = List.replicate k payload)
    (payloads : List (List UInt8)) :
    heardAt q (payloads.flatMap f) = payloads.flatMap (List.replicate k) := by
  induction payloads with
  | nil => rfl
  | cons payload payloads ih =>
      rw [List.flatMap_cons, List.flatMap_cons, heardAt_append, ih, h]

section Delivery

variable {envA envB : SessionEnv} {stA stB : Stage} {xA xB : ExtraVars}
  {sA sB : ClientSurroundings} {a b : ClientState}

/-- The clients of two sessions on one stage are linked by the stream of the audio. -/
theorem linked_sessions (L : Sodium) (hstage : OnOneStage envB stA stB)
    (hboxes : SealedBoxes L sB.recipientPublic sB.recipientSecret)
    (ha : SameIdentity (sessionClient envA stA xA sA) a)
    (hb : SameIdentity (sessionClient envB stB xB sB) b) : Linked L a b (audioStream stA) := by
  have hidA : a.callerid = stA.thisstagedeviceid := congrArg Member.callerid ha.member
  have hidB : b.callerid = stB.thisstagedeviceid := congrArg Member.callerid hb.member
  have hpublic : b.recipientPublic = sB.recipientPublic := congrArg Member.publicKey hb.member
  have hsecret : b.recipientSecret = sB.recipientSecret := congrArg Member.secretKey hb.member
  have hA : stA.thisstagedeviceid.toNat < 32 := hstage.inTable
  constructor
  · rw [ha.secret, hb.secret]
    exact hstage.pin
  · rw [ha.sender, hidA]
    rfl
  · rw [hidA]
    rfl
  · show maxSpecialPort < getZitaport stA.thisstagedeviceid 0 0
    have hfit : 4464 + 2 * stA.thisstagedeviceid.toNat + 0 + 0 < 65536 := by omega
    rw [UInt16.lt_iff_toNat_lt, toNat_getZitaport hfit]
    show 12 < 4464 + 2 * stA.thisstagedeviceid.toNat + 0 + 0
    omega
  · rw [hidA, hidB]
    exact hstage.distinct
  · rw [hidA]
    exact hstage.inTable
  · rw [hidB]
    exact hstage.peerInTable
  · rw [hpublic, hsecret]
    exact hboxes

/-- The port of a receiver is not the one that the client reads from. -/
theorem port_ne_recport (hstage : OnOneStage envB stA stB)
    (hb : SameIdentity (sessionClient envB stB xB sB) b) {r : ZitaReceiver}
    (hr : r ∈ zitaReceivers stB) : r.port envB ≠ b.recport ∧ r.port envB ≠ 0 := by
  obtain ⟨hmember, hother, -⟩ := of_mem_zitaReceivers hr
  have hB : stB.thisstagedeviceid.toNat < 32 := hstage.peerInTable
  have hC : r.member.id.toNat < 32 := hstage.members _ hmember
  have hne : stB.thisstagedeviceid.toNat ≠ r.member.id.toNat := fun h =>
    hother (UInt8.toNat_inj.mp h)
  have hrecport : b.recport.toNat
      = 4464 + 2 * stB.thisstagedeviceid.toNat + envB.portoffset.toNat := by
    rw [hb.recport]
    refine toNat_getZitaport ?_
    rw [toNat_portoffset hstage]
    show _ + 0 < 65536
    split_ifs <;> omega
  rw [Ne, ← UInt16.toNat_inj, Ne, ← UInt16.toNat_inj, hrecport, r.toNat_port hstage hmember,
    toNat_portoffset hstage]
  constructor
  · split_ifs <;> omega
  · show _ ≠ 0
    omega

/-- What comes out at the port of a receiver of a payload. -/
theorem heardAt_copies_receiver (hstage : OnOneStage envB stA stB)
    (hb : SameIdentity (sessionClient envB stB xB sB) b) {r : ZitaReceiver}
    (hr : r ∈ zitaReceivers stB) (payload : List UInt8) :
    heardAt (r.port envB) (b.copies (audioStream stA).2 payload)
      = List.replicate (if r.Plays envB stB stA.thisstagedeviceid then 1 else 0) payload := by
  obtain ⟨hown, hzero⟩ := port_ne_recport hstage hb hr
  have hoffset : b.portoffset = envB.portoffset := congrArg Member.portoffset hb.member
  have hxdest : b.xdest = if 0 < stB.rendersettings.secrec then [100] else [] :=
    congrArg Member.xdest hb.member
  rw [heardAt_copies b payload hown hzero, hoffset, hxdest, count_offsets hstage hr]

end Delivery

/-- **From a sender to the receivers.**  Wherever the document of one session makes a process send,
its client reads, and sends on as the stream of its audio.  A process that the document of another
session makes listen hears this audio as it has been read, each payload once and in order, but for
what is under way, if it plays the device, and nothing of it otherwise. -/
theorem audio_delivered (L : Sodium) {envA envB : SessionEnv} {stA stB : Stage}
    {xA xB : ExtraVars} {sA sB : ClientSurroundings} (hstage : OnOneStage envB stA stB)
    (hboxes : SealedBoxes L sB.recipientPublic sB.recipientSecret) {a b : ClientNode}
    (ha : SameIdentity (sessionClient envA stA xA sA) a.client)
    (hb : SameIdentity (sessionClient envB stB xB sB) b.client)
    (hsync : Synced (audioStream stA) (a.client.remoteServer.seqmap.at (audioStream stA).2)
      b.loop.sorter)
    {m n : TscNode} {q p : Port} (hm : m ∈ (sessionDescription envA stA xA).stageModules)
    (hq : SendsTo m q) (hn : n ∈ (sessionDescription envB stB xB).stageModules)
    (hp : ListensOn n p) (es : List WayEvent)
    (hes : AllSteps (wayStep L (audioStream stA)) (OnWay L (audioStream stA)) ⟨a, b, [], [], []⟩
      es) :
    ((q, Thread.recsrv) ∈ servedPorts envA stA ∧
        Thread.recsrv.packPort a.client.client = (audioStream stA).2) ∧
      ∃ r ∈ zitaReceivers stB, n = r.process envB stB ∧
        let w := run (wayStep L (audioStream stA)) ⟨a, b, [], [], []⟩ es
        heardAt p w.heard = if r.Plays envB stB stA.thisstagedeviceid then
          w.read.take (w.read.length - w.underWay.length) else [] := by
  obtain ⟨channels, -, -, rfl⟩ := (sendsTo_iff envA stA xA).mp ⟨hm, hq⟩
  obtain ⟨r, hr, hprocess, rfl⟩ := (listensOn_iff envB stB xB).mp ⟨hn, hp⟩
  have hpack : Thread.recsrv.packPort a.client.client = (audioStream stA).2 := by
    rw [← packPort_sessionClient envA stA xA sA]
    show a.client.recport - a.client.portoffset = getZitaport _ _ _ - _
    rw [ha.recport, show a.client.portoffset = envA.portoffset from
      congrArg Member.portoffset ha.member]
    rfl
  refine ⟨⟨List.mem_cons_self, hpack⟩, r, hr, hprocess, ?_⟩
  intro w
  obtain ⟨-, hheard⟩ := stream_delivered L a b (audioStream stA)
    (linked_sessions L hstage hboxes ha hb) hsync es hes
  have hcopies := heardAt_flatMap (heardAt_copies_receiver hstage hb hr)
    (w.read.take (w.read.length - w.underWay.length))
  rw [hheard, hcopies]
  split_ifs
  · exact List.flatMap_singleton' _
  · exact List.flatMap_eq_nil_iff.mpr fun _ _ => rfl

/-! ## Two devices -/

/-- A device with one channel. -/
def duoDevice (id : StageDeviceId) : StageDevice :=
  { defaultDevice with
    id := id
    label := "box"
    channels := [⟨"c", "system:capture_1", 1, ⟨0, 0, 0⟩, "omni", [], ""⟩] }

/-- A stage with two of them, as one of them has it. -/
def duoStage (id : StageDeviceId) : Stage :=
  { Stage.default Numeric.exact "box" with
    host := "relay"
    pin := 7
    thisstagedeviceid := id
    thisdevice := duoDevice id
    stage := (OrderedMap.empty.insert 1 (duoDevice 1)).insert 2 (duoDevice 2)
    rendersettings := { RenderSettings.default Numeric.exact with encryption := true } }

/-- The surroundings of such a device, with its key. -/
def duoSurroundings (id : StageDeviceId) : ClientSurroundings :=
  ClientSurroundings.blank (ClientState.encrypting id).recipientPublic

/-- The client of such a device, with a table of devices that take part in encryption. -/
def duoNode (id : StageDeviceId) : ClientNode :=
  ⟨{ sessionClient plainEnv (duoStage id) (ExtraVars.default Numeric.exact)
      (duoSurroundings id) with
      endpointList := (ClientState.encrypting id).endpointList },
    SendsrvLoop.fresh Endpoint.cleared Endpoint.cleared Endpoint.cleared⟩

/-- What the sender of the device `1` sends comes out at the receiver of the device `2`. -/
theorem audio_delivered_duo :
    heardAt 4466 (run (wayStep Sodium.tagged (1, 4466)) ⟨duoNode 1, duoNode 2, [], [], []⟩
      [.read 0 .recsrv [1], .arrive Endpoint.cleared (fun _ => 0) true]).heard = [[1]] := by
  have hreceivers : zitaReceivers (duoStage 2) = [⟨duoDevice 1, false⟩] := rfl
  have hstage : OnOneStage plainEnv (duoStage 1) (duoStage 2) := by
    refine ⟨rfl, by decide, by decide, by decide, ?_, rfl⟩
    show ∀ dev ∈ [StageDevice.zero, duoDevice 1, duoDevice 2], dev.id.toNat < maxStageId
    decide
  have hm : senderModule plainEnv (duoStage 1) (ExtraVars.default Numeric.exact) 1
      ∈ (sessionDescription plainEnv (duoStage 1) (ExtraVars.default Numeric.exact)).stageModules ∧
        SendsTo (senderModule plainEnv (duoStage 1) (ExtraVars.default Numeric.exact) 1) 4466 :=
    (sendsTo_iff _ _ _).mpr ⟨1, List.mem_singleton_self _, rfl, rfl⟩
  have hn : (ZitaReceiver.mk (duoDevice 1) false).process plainEnv (duoStage 2)
      ∈ (sessionDescription plainEnv (duoStage 2) (ExtraVars.default Numeric.exact)).stageModules ∧
        ListensOn ((ZitaReceiver.mk (duoDevice 1) false).process plainEnv (duoStage 2)) 4466 :=
    (listensOn_iff _ _ _).mpr ⟨⟨duoDevice 1, false⟩, by
      rw [hreceivers]
      exact List.mem_singleton_self _, rfl, rfl⟩
  have hnobox : ∀ rnd msg,
      [1] ≠ Sodium.tagged.boxSeal rnd msg (duoNode 2).client.recipientPublic := by
    intro rnd msg heq
    have hlen := Sodium.tagged.length_boxSeal rnd msg (duoNode 2).client.recipientPublic
    rw [← heq] at hlen
    simp [cryptoBoxSealBytes] at hlen
  have hsent : ∃ x ∈ (forward Sodium.tagged (duoNode 1).client.client ((duoNode 1).client.threads 0)
      [1] .recsrv).1.sends, x.recipient = .peer 2 :=
    exists_sent_to_peer (k := ⟨2, by decide⟩) (by decide) (by decide) (by decide) (by decide)
      (by decide) (by decide) (by decide)
  have hknows : ∀ c other : ClientState, c.endpointList = (duoNode 1).client.endpointList →
      other.mode = (duoNode 1).client.mode → c.Knows other := by
    rintro c other hlist hother i -
    rw [hlist, hother]
    exact ⟨rfl, fun hkey => absurd hkey Bool.false_ne_true⟩
  have ha : SameIdentity (sessionClient plainEnv (duoStage 1) (ExtraVars.default Numeric.exact)
      (duoSurroundings 1)) (duoNode 1).client := ⟨rfl, rfl, rfl, rfl, rfl⟩
  have hb : SameIdentity (sessionClient plainEnv (duoStage 2) (ExtraVars.default Numeric.exact)
      (duoSurroundings 2)) (duoNode 2).client := ⟨rfl, rfl, rfl, rfl, rfl⟩
  have hsync : Synced (audioStream (duoStage 1)) ((duoNode 1).client.remoteServer.seqmap.at
      (audioStream (duoStage 1)).2) (duoNode 2).loop.sorter :=
    ⟨rfl, not_holds_of_invalid rfl, rfl⟩
  obtain ⟨x, -, -, hdatagrams⟩ := sentTo_eq hsent
  -- the payload is under way, and then it is not
  let w : OrderedWay := wayStep Sodium.tagged (1, 4466) ⟨duoNode 1, duoNode 2, [], [], []⟩
    (.read 0 .recsrv [1])
  have hway : w.underWay = [x.datagram.data] := hdatagrams
  obtain ⟨hempty, hread⟩ := arrive_last Sodium.tagged (1, 4466) hway Endpoint.cleared (fun _ => 0)
    true
  obtain ⟨-, r, hr, -, hheard⟩ := audio_delivered Sodium.tagged hstage (sealedBoxes_tagged _ _)
    ha hb hsync hm.1 hm.2 hn.1 hn.2
    [.read 0 .recsrv [1], .arrive Endpoint.cleared (fun _ => 0) true]
    ⟨⟨rfl, by decide, by decide, hnobox, hknows _ _ rfl rfl, hsent⟩, hknows _ _ rfl rfl,
      trivial⟩
  rw [hreceivers, List.mem_singleton] at hr
  subst hr
  rw [run_cons, run_cons, run_nil] at hheard ⊢
  have hplays : ZitaReceiver.Plays plainEnv (duoStage 2) ⟨duoDevice 1, false⟩
      (duoStage 1).thisstagedeviceid := by decide
  refine hheard.trans ?_
  rw [if_pos hplays, show audioStream (duoStage 1) = (1, 4466) from rfl, hempty, hread]
  rfl

end Libov
