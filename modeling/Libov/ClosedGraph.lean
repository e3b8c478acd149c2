/-
# Sessions without loose ends

A connection of a session is made when both of its ports are there, and the session waits for its
ports.  Here it is told for which stages all of the ports that the elements `connect` of a document
name, and those that its stage waits for, belong to the clients that the document declares.

* `HasPort`, `SessionGraph.Within`, `SessionGraph.Closed` : the ports of a graph are there;
* `Proper` : the numbers of channels that clients are declared with;
* `within_networkGraphs` : the ports of the receivers;
* `session_graph_closed_iff` : the ports of a session.
-/
import Libov.SessionGraph
import Libov.MidiControllers

namespace Libov

open Renderer

/-! ## Ports of clients -/

/-- A receiver has outputs only and a sender has inputs only. -/
def AudioClient.Offers : AudioClient → PortDirection → Prop
  | receiver _, .input => False
  | sender, .output => False
  | _, _ => True

/-- The port is one of the clients'. -/
def HasPort (clients : List (AudioClient × ℕ)) (p : AudioPort) : Prop :=
  p.client.Offers p.direction ∧ ∃ channels, (p.client, channels) ∈ clients ∧ p.index < channels

/-- The end of a connection is outside, or it is a port of the clients. -/
def LinkEnd.Fits (clients : List (AudioClient × ℕ)) : LinkEnd → Prop
  | own p => HasPort clients p
  | outside _ => True

namespace SessionGraph

/-- What the graph connects and waits for belongs to the clients. -/
def Within (g : SessionGraph) (clients : List (AudioClient × ℕ)) : Prop :=
  (∀ l ∈ g.links, l.1.Fits clients ∧ l.2.Fits clients) ∧ ∀ p ∈ g.waits, HasPort clients p

/-- What the graph connects and waits for belongs to its own clients. -/
def Closed (g : SessionGraph) : Prop := g.Within g.clients

variable {clients : List (AudioClient × ℕ)}

/-- Clients without connections have no loose ends. -/
theorem within_unlinked (own : List (AudioClient × ℕ)) :
    SessionGraph.Within ⟨own, [], []⟩ clients := ⟨List.forall_mem_nil _, List.forall_mem_nil _⟩

theorem within_empty : empty.Within clients := within_unlinked []

/-- A graph has no loose ends exactly if its parts have none. -/
theorem within_append {a b : SessionGraph} :
    (a ++ b).Within clients ↔ a.Within clients ∧ b.Within clients := by
  show ((∀ l ∈ a.links ++ b.links, _) ∧ ∀ p ∈ a.waits ++ b.waits, _) ↔ _
  rw [List.forall_mem_append, List.forall_mem_append]
  exact and_and_and_comm

/-- A part that is added under a condition matters under this condition only. -/
theorem within_ite {c : Prop} [Decidable c] {g : SessionGraph} :
    (if c then g else empty).Within clients ↔ (c → g.Within clients) := by
  by_cases hc : c
  · rw [if_pos hc, forall_prop_of_true hc]
  · rw [if_neg hc]
    exact iff_of_true within_empty fun h => absurd h hc

end SessionGraph

/-! ## Numbers of channels -/

/-- A receiver is declared with its number of channels, and a bus for a channel of the device. -/
def Proper (st : Stage) : AudioClient × ℕ → Prop
  | (.receiver r, channels) => channels = receiverChannels r.member
  | (.bus channel, _) => channel ∈ st.thisdevice.channels.map DeviceChannel.id
  | _ => True

/-- The receiver has a channel for each channel of its device. -/
def Covers (dev : StageDevice) : Prop := dev.senddownmix = true → dev.channels.length ≤ 2

/-- A receiver with a downmix has two channels, and any other one has those of its device. -/
theorem covers_iff (dev : StageDevice) :
    Covers dev ↔ dev.channels.length ≤ receiverChannels dev := by
  unfold Covers receiverChannels
  cases dev.senddownmix with
  | true => exact forall_prop_of_true rfl
  | false => exact iff_of_true (fun h => absurd h Bool.false_ne_true) le_rfl

section Parts

variable {env : SessionEnv} {st : Stage} {x : ExtraVars} {clients : List (AudioClient × ℕ)}

/-- A port of a receiver is there exactly if the receiver has the channel. -/
theorem hasPort_receiver_iff (hproper : ∀ c ∈ clients, Proper st c) {r : ZitaReceiver}
    (hmem : (.receiver r, receiverChannels r.member) ∈ clients) {i : ℕ} :
    HasPort clients ⟨.receiver r, .output, i⟩ ↔ i < receiverChannels r.member := by
  constructor
  · rintro ⟨-, channels, hchannels, hi⟩
    have hsame : channels = receiverChannels r.member := hproper _ hchannels
    exact hsame ▸ hi
  · exact fun hi => ⟨trivial, _, hmem, hi⟩

/-- All ports of a list of channels are there exactly if the receiver has as many channels. -/
theorem forall_receiver_iff (hproper : ∀ c ∈ clients, Proper st c) {r : ZitaReceiver}
    (hmem : (.receiver r, receiverChannels r.member) ∈ clients) {n : ℕ} :
    (∀ i < n, HasPort clients ⟨.receiver r, .output, i⟩) ↔ n ≤ receiverChannels r.member := by
  constructor
  · intro h
    by_contra hlt
    have hlast := (hasPort_receiver_iff hproper hmem).mp (h (receiverChannels r.member) (by omega))
    omega
  · exact fun hle i hi => (hasPort_receiver_iff hproper hmem).mpr (by omega)

/-- The second bus of another device is fed exactly by the channels that its second receiver has. -/
theorem within_secondaryGraph (hproper : ∀ c ∈ clients, Proper st c) {dev : StageDevice}
    (hsub : (secondaryGraph st dev).clients ⊆ clients) (hother : st.thisstagedeviceid ≠ dev.id) :
    (secondaryGraph st dev).Within clients ↔ (dev.nozita = false → Covers dev) := by
  have hsecond : (AudioClient.second dev, dev.channels.length) ∈ clients :=
    hsub (List.mem_append_right _ List.mem_cons_self)
  have hsame : (st.thisstagedeviceid == dev.id) = false := beq_false_of_ne hother
  unfold secondaryGraph at hsub ⊢
  cases hzita : dev.nozita with
  | true =>
      rw [hzita] at hsub
      exact iff_of_true (SessionGraph.within_unlinked _) fun h =>
        absurd h.symm Bool.false_ne_true
  | false =>
      have hreceiver : (AudioClient.receiver ⟨dev, true⟩, receiverChannels dev) ∈ clients := by
        refine hsub (List.mem_append_left _ ?_)
        rw [hzita]
        exact List.mem_cons_self
      rw [forall_prop_of_true rfl, covers_iff, hsame,
        ← forall_receiver_iff (r := ⟨dev, true⟩) hproper hreceiver]
      constructor
      · rintro ⟨-, hwaits⟩ i hi
        exact hwaits _ (List.mem_map_of_mem (List.mem_range.mpr hi))
      · intro hports
        constructor
        · intro l hl
          obtain ⟨c, hc, rfl⟩ := List.mem_map.mp hl
          exact ⟨hports c (List.mem_range.mp hc), trivial, _, hsecond, List.mem_range.mp hc⟩
        · intro p hp
          obtain ⟨c, hc, rfl⟩ := List.mem_map.mp hp
          exact hports c (List.mem_range.mp hc)

/-- In raw mode the ports of a device fit. -/
theorem within_rawGraph {dev : StageDevice} {chcnt : ℕ}
    (hmember : (.member dev, receiverChannels dev) ∈ clients) (hmain : (.main, 2) ∈ clients)
    (hreceiver : dev.nozita = false →
      (.receiver ⟨dev, false⟩, receiverChannels dev) ∈ clients) :
    (rawGraph dev chcnt).Within clients := by
  constructor
  · intro l hl
    obtain ⟨c, hc, rfl⟩ := List.mem_map.mp hl
    refine ⟨⟨trivial, _, hmember, List.mem_range.mp hc⟩, trivial, _, hmain, ?_⟩
    show (if _ then 0 else 1) < 2
    split_ifs
    · exact Nat.zero_lt_two
    · exact Nat.one_lt_two
  · intro p hp
    obtain ⟨c, hc, hp⟩ := List.mem_flatMap.mp hp
    rcases List.mem_cons.mp hp with rfl | hp
    · exact ⟨trivial, _, hmember, List.mem_range.mp hc⟩
    · cases hzita : dev.nozita with
      | true =>
          rw [hzita] at hp
          exact absurd hp List.not_mem_nil
      | false =>
          rw [hzita] at hp
          rw [List.mem_singleton.mp hp]
          exact ⟨trivial, _, hreceiver hzita, List.mem_range.mp hc⟩

/-- What is connected to the scene fits if the receiver has as many channels as the device. -/
theorem within_sceneGraph (hproper : ∀ c ∈ clients, Proper st c) {dev : StageDevice}
    (hreceiver : dev.nozita = false →
      (.receiver ⟨dev, false⟩, receiverChannels dev) ∈ clients) :
    (sceneGraph st dev).Within clients ↔ (dev.nozita = false → Covers dev) := by
  unfold sceneGraph
  cases hzita : dev.nozita with
  | true =>
      exact iff_of_true (SessionGraph.within_unlinked _) fun h =>
        absurd h.symm Bool.false_ne_true
  | false =>
      have hlen : (channelNames 0 dev.channels).length = dev.channels.length :=
        length_channelNames 0 dev.channels
      rw [forall_prop_of_true rfl, covers_iff,
        ← forall_receiver_iff (r := ⟨dev, false⟩) hproper (hreceiver hzita), ← hlen]
      constructor
      · rintro ⟨-, hwaits⟩ i hi
        exact hwaits _ (List.mem_map_of_mem
          (List.mk_mem_zipIdx_iff_getElem?.mpr (List.getElem?_eq_getElem hi)))
      · intro hports
        constructor
        · intro l hl
          obtain ⟨c, hc, rfl⟩ := List.mem_map.mp hl
          exact ⟨hports c.2 (List.snd_lt_of_mem_zipIdx hc), trivial⟩
        · intro p hp
          obtain ⟨c, hc, rfl⟩ := List.mem_map.mp hp
          exact hports c.2 (List.snd_lt_of_mem_zipIdx hc)

/-- The ports of the receivers for a device fit exactly if it has as many channels as they have,
where all of its channels are connected: to the scene or on the second bus. -/
theorem within_networkGraph (hproper : ∀ c ∈ clients, Proper st c) {dev : StageDevice} {chcnt : ℕ}
    (hsub : (networkGraph st dev chcnt).clients ⊆ clients)
    (hmain : rawRouting st = true → st.rendersettings.receive = true → (.main, 2) ∈ clients) :
    (networkGraph st dev chcnt).Within clients ↔
      (receivesFrom st dev = true → rawRouting st = false ∨ 0 < st.rendersettings.secrec →
        dev.nozita = false → Covers dev) := by
  unfold networkGraph at hsub ⊢
  rw [SessionGraph.within_ite]
  refine forall_congr' fun hreceives => ?_
  rw [if_pos hreceives] at hsub
  obtain ⟨⟨hreceive, hother⟩, -⟩ : (st.rendersettings.receive = true ∧
      (st.thisstagedeviceid != dev.id) = true) ∧ _ := by
    rw [receivesFrom, Bool.and_eq_true, Bool.and_eq_true] at hreceives
    exact hreceives
  have hfirst := List.append_subset.mp hsub
  have hroutes := List.append_subset.mp hfirst.1
  have hreceiver (hzita : dev.nozita = false) :
      (AudioClient.receiver ⟨dev, false⟩, receiverChannels dev) ∈ clients := by
    refine hroutes.1 ?_
    rw [hzita]
    exact List.mem_cons_self
  rw [SessionGraph.within_append, SessionGraph.within_append, SessionGraph.within_ite]
  have hclients : SessionGraph.Within
      ⟨if dev.nozita then [] else [(.receiver ⟨dev, false⟩, receiverChannels dev)], [], []⟩
      clients := SessionGraph.within_unlinked _
  have hsecond (hsecrec : 0 < st.rendersettings.secrec) :
      (secondaryGraph st dev).Within clients ↔ (dev.nozita = false → Covers dev) := by
    refine within_secondaryGraph hproper ?_ (bne_iff_ne.mp hother)
    have hpart := hfirst.2
    rw [if_pos hsecrec] at hpart
    exact hpart
  cases hraw : rawRouting st with
  | true =>
      have hpart := hroutes.2
      rw [hraw] at hpart
      have hwithin : (rawGraph dev chcnt).Within clients :=
        within_rawGraph (hpart List.mem_cons_self) (hmain hraw hreceive) hreceiver
      constructor
      · rintro ⟨-, hbus⟩ (hscene | hsecrec)
        · exact absurd hscene.symm Bool.false_ne_true
        · exact (hsecond hsecrec).mp (hbus hsecrec)
      · exact fun h => ⟨⟨hclients, hwithin⟩, fun hsecrec =>
          (hsecond hsecrec).mpr (h (.inr hsecrec))⟩
  | false =>
      have hscene : (sceneGraph st dev).Within clients ↔ (dev.nozita = false → Covers dev) :=
        within_sceneGraph hproper hreceiver
      constructor
      · rintro ⟨⟨-, hwithin⟩, -⟩ -
        exact hscene.mp hwithin
      · exact fun h => ⟨⟨hclients, hscene.mpr (h (.inl rfl))⟩, fun hsecrec =>
          (hsecond hsecrec).mpr (h (.inl rfl))⟩

/-- The loose ends of the devices that are received from are those of receivers with too few
channels. -/
theorem within_networkGraphs (hproper : ∀ c ∈ clients, Proper st c) {members : List StageDevice}
    {chcnt : ℕ} (hsub : (networkGraphs env st chcnt members).clients ⊆ clients)
    (hmain : rawRouting st = true → st.rendersettings.receive = true → (.main, 2) ∈ clients) :
    (networkGraphs env st chcnt members).Within clients ↔
      ∀ dev ∈ members, receivesFrom st dev = true →
        rawRouting st = false ∨ 0 < st.rendersettings.secrec → dev.nozita = false → Covers dev := by
  induction members generalizing chcnt with
  | nil => exact iff_of_true SessionGraph.within_empty (List.forall_mem_nil _)
  | cons dev members ih =>
      have hparts := List.append_subset.mp hsub
      unfold networkGraphs
      rw [SessionGraph.within_append, within_networkGraph hproper hparts.1 hmain, ih hparts.2,
        List.forall_mem_cons]

/-! ## The own channels -/

variable (st) in
/-- The channels that the device has on stage are channels that it has itself. -/
def OwnBuses : Prop :=
  ∀ ch ∈ (ownDevice st).channels, ch.id ∈ st.thisdevice.channels.map DeviceChannel.id

/-- The buses of the channels on stage are there exactly if the device has these channels. -/
theorem forall_bus_iff (hproper : ∀ c ∈ clients, Proper st c)
    (hbus : ∀ ch ∈ st.thisdevice.channels, (.bus ch.id, 1) ∈ clients) :
    (∀ p ∈ (ownDevice st).channels.zipIdx, HasPort clients ⟨.bus p.1.id, .output, 0⟩) ↔
      OwnBuses st := by
  constructor
  · intro h ch hch
    obtain ⟨i, hi⟩ := List.mem_iff_getElem?.mp hch
    obtain ⟨-, channels, hchannels, -⟩ := h (ch, i) (List.mk_mem_zipIdx_iff_getElem?.mpr hi)
    exact hproper _ hchannels
  · intro h p hp
    obtain ⟨ch, hch, hid⟩ := List.mem_map.mp (h p.1 (List.fst_mem_of_mem_zipIdx hp))
    exact ⟨trivial, 1, hid ▸ hbus ch hch, Nat.zero_lt_one⟩

/-- The buses connected to a client with an input for each of them. -/
theorem forall_busLink_iff (hproper : ∀ c ∈ clients, Proper st c)
    (hbus : ∀ ch ∈ st.thisdevice.channels, (.bus ch.id, 1) ∈ clients) {c : AudioClient}
    (hclient : (c, (ownDevice st).channels.length) ∈ clients) (hoffers : c.Offers .input) :
    (∀ l ∈ (ownDevice st).channels.zipIdx.map fun p =>
        (LinkEnd.own ⟨.bus p.1.id, .output, 0⟩, LinkEnd.own ⟨c, .input, p.2⟩),
      l.1.Fits clients ∧ l.2.Fits clients) ↔ OwnBuses st := by
  rw [List.forall_mem_map, ← forall_bus_iff hproper hbus]
  exact forall₂_congr fun p hp =>
    and_iff_left ⟨hoffers, _, hclient, List.snd_lt_of_mem_zipIdx hp⟩

/-- The second bus of the own device takes what the own buses give. -/
theorem within_selfmonitorGraph (hproper : ∀ c ∈ clients, Proper st c)
    (hbus : ∀ ch ∈ st.thisdevice.channels, (.bus ch.id, 1) ∈ clients)
    (hsub : (selfmonitorGraph st).clients ⊆ clients) :
    (selfmonitorGraph st).Within clients ↔ OwnBuses st :=
  (and_iff_left (List.forall_mem_nil _)).trans
    (forall_busLink_iff hproper hbus (hsub List.mem_cons_self) trivial)

/-- The sender has the inputs that are waited for. -/
theorem forall_senderWaits (hsender : (.sender, (ownDevice st).channels.length) ∈ clients) :
    ∀ p ∈ senderWaits st, HasPort clients p := by
  intro p hp
  obtain ⟨c, hc, rfl⟩ := List.mem_map.mp hp
  exact ⟨trivial, _, hsender, List.mem_range.mp hc⟩

/-- A device without channels has all of its buses. -/
theorem ownBuses_of_isEmpty (h : (ownDevice st).channels.isEmpty = true) : OwnBuses st := by
  intro ch hch
  rw [List.isEmpty_iff.mp h] at hch
  exact absurd hch List.not_mem_nil

/-- The sender of the raw mode takes what the own buses give. -/
theorem within_rawSenderGraph (hproper : ∀ c ∈ clients, Proper st c)
    (hbus : ∀ ch ∈ st.thisdevice.channels, (.bus ch.id, 1) ∈ clients)
    (hsub : (rawSenderGraph st).clients ⊆ clients) :
    (rawSenderGraph st).Within clients ↔ OwnBuses st := by
  unfold rawSenderGraph at hsub ⊢
  cases hempty : (ownDevice st).channels.isEmpty with
  | true => exact iff_of_true SessionGraph.within_empty (ownBuses_of_isEmpty hempty)
  | false =>
      rw [hempty] at hsub
      exact (and_iff_left (forall_senderWaits (hsub List.mem_cons_self))).trans
        (forall_busLink_iff hproper hbus (hsub List.mem_cons_self) trivial)

/-- What is connected for the own channels: their buses and the metronome to the sender, and the
metronome to the own sounds. -/
theorem of_mem_senderLinks {l : LinkEnd × LinkEnd} (hl : l ∈ senderLinks st) :
    (st.thisdevice.nozita = false ∧ ∃ p ∈ (ownDevice st).channels.zipIdx,
      l = (.own ⟨.bus p.1.id, .output, 0⟩, .own ⟨.sender, .input, p.2⟩) ∨
      l = (.own ⟨.metronome, .output, 0⟩, .own ⟨.sender, .input, p.2⟩)) ∨
      ∃ port, l = (.own ⟨.metronome, .output, 1⟩, .outside port) := by
  obtain ⟨p, hp, hl⟩ := List.mem_flatMap.mp hl
  rcases List.mem_append.mp hl with hl | hl
  · cases hzita : st.thisdevice.nozita with
    | true =>
        rw [hzita] at hl
        exact absurd hl List.not_mem_nil
    | false =>
        rw [hzita] at hl
        rcases List.mem_cons.mp hl with hbus | hl
        · exact .inl ⟨rfl, p, hp, .inl hbus⟩
        · exact .inl ⟨rfl, p, hp, .inr (List.mem_singleton.mp hl)⟩
  · cases hname : (if st.rendersettings.receive then (egoSourceNames st)[p.2]? else none) with
    | none =>
        rw [hname] at hl
        exact absurd hl List.not_mem_nil
    | some name =>
        rw [hname] at hl
        exact .inr ⟨_, List.mem_singleton.mp hl⟩

/-- Without a switched-off network each own channel is connected to the sender. -/
theorem mem_senderLinks (hzita : st.thisdevice.nozita = false) {p : DeviceChannel × ℕ}
    (hp : p ∈ (ownDevice st).channels.zipIdx) :
    (.own ⟨.bus p.1.id, .output, 0⟩, .own ⟨.sender, .input, p.2⟩) ∈ senderLinks st := by
  refine List.mem_flatMap.mpr ⟨p, hp, List.mem_append_left _ ?_⟩
  rw [hzita]
  exact List.mem_cons_self

/-- The sender of the channels takes what the own buses and the metronome give; the metronome is
always there. -/
theorem within_channelSenderGraph (hproper : ∀ c ∈ clients, Proper st c)
    (hbus : ∀ ch ∈ st.thisdevice.channels, (.bus ch.id, 1) ∈ clients)
    (hmetro : (metronomeGraph st).clients ⊆ clients)
    (hsub : (channelSenderGraph st).clients ⊆ clients) :
    (channelSenderGraph st).Within clients ↔
      (st.thisdevice.senddownmix = false → st.thisdevice.nozita = false → OwnBuses st) := by
  unfold metronomeGraph at hmetro
  unfold channelSenderGraph at hsub ⊢
  cases hsends : sendsChannels st with
  | false =>
      refine iff_of_true SessionGraph.within_empty fun hmix _ => ownBuses_of_isEmpty ?_
      rw [sendsChannels, hmix, Bool.not_false, Bool.and_true] at hsends
      exact (Bool.not_eq_false' _).mp hsends
  | true =>
      rw [hsends] at hsub hmetro
      rw [if_pos rfl] at hsub hmetro ⊢
      have hmix : st.thisdevice.senddownmix = false := by
        rw [sendsChannels, Bool.and_eq_true] at hsends
        exact (Bool.not_eq_true' _).mp hsends.2
      have hmetronome : (AudioClient.metronome, 2) ∈ clients := hmetro List.mem_cons_self
      rw [forall_prop_of_true hmix, ← forall_bus_iff hproper hbus]
      have hsender (hzita : st.thisdevice.nozita = false) :
          (AudioClient.sender, (ownDevice st).channels.length) ∈ clients := by
        refine hsub ?_
        rw [hzita]
        exact List.mem_cons_self
      constructor
      · exact fun hwithin hzita p hp => (hwithin.1 _ (mem_senderLinks hzita hp)).1
      · intro hbuses
        constructor
        · intro l hl
          rcases of_mem_senderLinks hl with ⟨hzita, p, hp, rfl | rfl⟩ | ⟨port, rfl⟩
          · exact ⟨hbuses hzita p hp, trivial, _, hsender hzita, List.snd_lt_of_mem_zipIdx hp⟩
          · exact ⟨⟨trivial, _, hmetronome, Nat.zero_lt_two⟩, trivial, _, hsender hzita,
              List.snd_lt_of_mem_zipIdx hp⟩
          · exact ⟨⟨trivial, _, hmetronome, Nat.one_lt_two⟩, trivial⟩
        · cases hzita : st.thisdevice.nozita with
          | true => exact List.forall_mem_nil _
          | false => exact forall_senderWaits (hsender hzita)

/-- The downmix leaves no loose end. -/
theorem within_downmixSenderGraph (hsub : (downmixSenderGraph st).clients ⊆ clients) :
    (downmixSenderGraph st).Within clients := by
  unfold downmixSenderGraph at hsub ⊢
  rw [SessionGraph.within_ite]
  intro hmix
  rw [if_pos hmix] at hsub
  have hsender : (AudioClient.sender, 2) ∈ clients := hsub List.mem_cons_self
  refine ⟨?_, List.forall_mem_nil _⟩
  rw [List.forall_mem_cons, List.forall_mem_singleton]
  exact ⟨⟨trivial, trivial, _, hsender, Nat.zero_lt_two⟩,
    ⟨trivial, trivial, _, hsender, Nat.one_lt_two⟩⟩

/-- Nor does the main route. -/
theorem within_rawMainGraph (hsub : (rawMainGraph st).clients ⊆ clients) :
    (rawMainGraph st).Within clients := by
  unfold rawMainGraph at hsub ⊢
  rw [SessionGraph.within_ite]
  intro hreceive
  rw [if_pos hreceive] at hsub
  have hmain : (AudioClient.main, 2) ∈ clients := hsub List.mem_cons_self
  have houtput (c : ℕ) (hc : c < 2) (dest : String) :
      ∀ l ∈ (if dest.isEmpty then [] else
          [(LinkEnd.own ⟨.main, .output, c⟩, LinkEnd.outside dest)]),
        l.1.Fits clients ∧ l.2.Fits clients := by
    split_ifs
    · exact List.forall_mem_nil _
    · rw [List.forall_mem_singleton]
      exact ⟨⟨trivial, _, hmain, hc⟩, trivial⟩
  refine ⟨?_, List.forall_mem_nil _⟩
  exact List.forall_mem_append.mpr ⟨houtput 0 Nat.zero_lt_two _, houtput 1 Nat.one_lt_two _⟩

/-- The outputs of the scene are not ports of the document. -/
theorem within_outputsGraph : (outputsGraph st).Within clients := by
  have houtput (srcport dest : String) :
      ∀ l ∈ (if dest.isEmpty then [] else
          [(LinkEnd.outside (st.thisdeviceid ++ ".main:" ++ srcport), LinkEnd.outside dest)]),
        l.1.Fits clients ∧ l.2.Fits clients := by
    split_ifs
    · exact List.forall_mem_nil _
    · rw [List.forall_mem_singleton]
      exact ⟨trivial, trivial⟩
  unfold outputsGraph
  dsimp only
  cases st.thisdevice.senddownmix with
  | true => exact SessionGraph.within_empty
  | false =>
      exact ⟨List.forall_mem_append.mpr ⟨houtput _ _, houtput _ _⟩,
        List.forall_mem_nil _⟩

/-- Nor do the inputs of the device. -/
theorem within_inputGraph (hsub : (inputGraph st x).clients ⊆ clients) :
    (inputGraph st x).Within clients := by
  have hparts := List.append_subset.mp hsub
  have hlevel : (levelmeterGraph st x).Within clients := by
    have hlevelsub := (List.append_subset.mp hparts.1).1
    unfold levelmeterGraph at hlevelsub ⊢
    rw [SessionGraph.within_ite]
    intro hlevels
    rw [if_pos hlevels] at hlevelsub
    refine ⟨?_, List.forall_mem_nil _⟩
    rw [List.forall_mem_map]
    exact fun p hp =>
      ⟨trivial, trivial, _, hlevelsub List.mem_cons_self, List.snd_lt_of_mem_zipIdx hp⟩
  have htuner : (tunerGraph st).Within clients := by
    refine ⟨?_, List.forall_mem_nil _⟩
    rw [tunerGraph, List.forall_mem_map]
    exact fun _ _ => ⟨trivial, trivial⟩
  have heffect : (effectGraph st x).Within clients := by
    have heffectsub := hparts.2
    unfold effectGraph at heffectsub ⊢
    rw [SessionGraph.within_ite]
    intro hbuses
    rw [if_pos hbuses] at heffectsub
    refine ⟨?_, List.forall_mem_nil _⟩
    rw [List.forall_mem_map]
    exact fun ch hch =>
      ⟨trivial, trivial, 1, heffectsub (List.mem_map_of_mem hch), Nat.zero_lt_one⟩
  exact SessionGraph.within_append.mpr ⟨SessionGraph.within_append.mpr ⟨hlevel, htuner⟩, heffect⟩

end Parts

/-! ## The clients of a session -/

section Session

variable {env : SessionEnv} {st : Stage} {x : ExtraVars}

variable (st) in
/-- The clients of the graph are declared with their numbers of channels. -/
def SessionGraph.AllProper (g : SessionGraph) : Prop := ∀ c ∈ g.clients, Proper st c

/-- A graph without clients declares none improperly. -/
theorem allProper_of_nil {g : SessionGraph} (h : g.clients = []) : g.AllProper st := by
  intro c hc
  rw [h] at hc
  exact absurd hc List.not_mem_nil

/-- A graph of one client is declared properly if this one is. -/
theorem allProper_of_singleton {g : SessionGraph} {c : AudioClient × ℕ} (h : g.clients = [c])
    (hc : Proper st c) : g.AllProper st := by
  intro c' hc'
  rw [h] at hc'
  rw [List.mem_singleton.mp hc']
  exact hc

/-- Graphs that are declared properly can be put side by side. -/
theorem SessionGraph.AllProper.append {a b : SessionGraph} (ha : a.AllProper st)
    (hb : b.AllProper st) : (a ++ b).AllProper st := fun c hc =>
  (List.mem_append.mp hc).elim (ha c) (hb c)

/-- They can also be drawn under a condition. -/
theorem SessionGraph.AllProper.ite {c : Prop} [Decidable c] {g : SessionGraph}
    (h : g.AllProper st) : (if c then g else SessionGraph.empty).AllProper st := by
  split_ifs
  · exact h
  · exact allProper_of_nil rfl

/-- Whatever is drawn for a device, its receivers have their number of channels. -/
theorem allProper_networkGraph (dev : StageDevice) (chcnt : ℕ) :
    (networkGraph st dev chcnt).AllProper st := by
  have hreceiver (r : ZitaReceiver) (hr : r.member = dev) :
      SessionGraph.AllProper st
        ⟨if dev.nozita then [] else [(.receiver r, receiverChannels dev)], [], []⟩ := by
    intro c hc
    cases hzita : dev.nozita with
    | true =>
        rw [hzita] at hc
        exact absurd hc List.not_mem_nil
    | false =>
        rw [hzita] at hc
        rw [List.mem_singleton.mp hc]
        exact congrArg receiverChannels hr.symm
  have hroutes :
      (if rawRouting st then rawGraph dev chcnt else sceneGraph st dev).AllProper st := by
    split_ifs
    · exact allProper_of_singleton rfl trivial
    · exact allProper_of_nil rfl
  have hsecondary : (secondaryGraph st dev).AllProper st := by
    intro c hc
    rcases List.mem_append.mp hc with hc | hc
    · exact hreceiver ⟨dev, true⟩ rfl c hc
    · rw [List.mem_singleton.mp hc]
      trivial
  exact (((hreceiver ⟨dev, false⟩ rfl).append hroutes).append hsecondary.ite).ite

/-- The devices of a stage are declared properly, one after the other. -/
theorem allProper_networkGraphs (chcnt : ℕ) (members : List StageDevice) :
    (networkGraphs env st chcnt members).AllProper st := by
  induction members generalizing chcnt with
  | nil => exact allProper_of_nil rfl
  | cons dev members ih => exact (allProper_networkGraph dev chcnt).append (ih _)

/-- What is routed through the network is declared properly. -/
theorem allProper_routedGraph : (routedGraph env st).AllProper st := by
  have hself : (selfmonitorGraph st).AllProper st := allProper_of_singleton rfl trivial
  have hraw : (rawDevGraph env st).AllProper st := by
    have hmain : (rawMainGraph st).AllProper st :=
      SessionGraph.AllProper.ite (allProper_of_singleton rfl trivial)
    have hsender : (rawSenderGraph st).AllProper st := by
      unfold rawSenderGraph
      split_ifs
      · exact allProper_of_nil rfl
      · exact allProper_of_singleton rfl trivial
    exact ((hmain.append (allProper_networkGraphs 0 _)).append hself.ite).append hsender
  have hstage : (stageGraph env st).AllProper st := by
    have hmetro : (metronomeGraph st).AllProper st :=
      SessionGraph.AllProper.ite (allProper_of_singleton rfl trivial)
    have hchannels : (channelSenderGraph st).AllProper st := by
      refine SessionGraph.AllProper.ite ?_
      cases hzita : st.thisdevice.nozita with
      | true => exact allProper_of_nil rfl
      | false => exact allProper_of_singleton rfl trivial
    have hmix : (downmixSenderGraph st).AllProper st :=
      SessionGraph.AllProper.ite (allProper_of_singleton rfl trivial)
    exact (((allProper_networkGraphs 0 _).append hself.ite).append hmetro).append
      (hchannels.append hmix)
  unfold routedGraph
  split_ifs
  · exact allProper_of_nil rfl
  · exact hraw
  · exact hstage

/-- All clients of a session are declared properly. -/
theorem allProper_sessionGraph : (sessionGraph env st x).AllProper st := by
  have hinput : (inputGraph st x).AllProper st := by
    have hlevel : (levelmeterGraph st x).AllProper st :=
      SessionGraph.AllProper.ite (allProper_of_singleton rfl trivial)
    have heffect : (effectGraph st x).AllProper st := by
      refine SessionGraph.AllProper.ite fun c hc => ?_
      obtain ⟨ch, hch, rfl⟩ := List.mem_map.mp hc
      exact List.mem_map_of_mem hch
    exact (hlevel.append (allProper_of_nil rfl)).append heffect
  have houtputs : (outputsGraph st).AllProper st := by
    unfold outputsGraph
    dsimp only
    cases st.thisdevice.senddownmix with
    | true => exact allProper_of_nil rfl
    | false => exact allProper_of_nil rfl
  exact ((hinput.append houtputs.ite).append allProper_routedGraph).append (allProper_of_nil rfl)

/-! ## Sessions -/

variable (st) in
/-- Every device that is received has at most the channels of its receiver, where all of its
channels are connected: to the scene, or on the second bus in raw mode, too. -/
def MixesFit : Prop :=
  ∀ dev ∈ receivedMembers st, receivesFrom st dev = true →
    rawRouting st = false ∨ 0 < st.rendersettings.secrec → dev.nozita = false → Covers dev

variable (st) in
/-- The channels that the device has on stage are connected by elements of their own; its sounds
name their channels in an attribute. -/
def ConnectsOwnChannels : Prop :=
  st.host.isEmpty = false ∧ (rawRouting st = true ∨ 0 < st.rendersettings.secrec ∨
    (st.thisdevice.senddownmix = false ∧ st.thisdevice.nozita = false))

section Routed

variable {clients : List (AudioClient × ℕ)}

/-- The raw mode has no loose ends exactly if the receivers have the channels that are connected and
the own buses are there. -/
theorem within_rawDevGraph (hproper : ∀ c ∈ clients, Proper st c)
    (hbus : ∀ ch ∈ st.thisdevice.channels, (.bus ch.id, 1) ∈ clients)
    (hsub : (rawDevGraph env st).clients ⊆ clients) :
    (rawDevGraph env st).Within clients ↔
      (∀ dev ∈ stageMembers st, receivesFrom st dev = true →
        rawRouting st = false ∨ 0 < st.rendersettings.secrec → dev.nozita = false → Covers dev) ∧
      OwnBuses st := by
  have hsender := List.append_subset.mp hsub
  have hself := List.append_subset.mp hsender.1
  have hnetwork := List.append_subset.mp hself.1
  have hmain (hreceive : st.rendersettings.receive = true) :
      (AudioClient.main, 2) ∈ clients := by
    refine hnetwork.1 ?_
    rw [rawMainGraph, if_pos hreceive]
    exact List.mem_cons_self
  have hmonitor (hsecrec : 0 < st.rendersettings.secrec) :
      (selfmonitorGraph st).Within clients ↔ OwnBuses st := by
    refine within_selfmonitorGraph hproper hbus ?_
    have hpart := hself.2
    rw [if_pos hsecrec] at hpart
    exact hpart
  unfold rawDevGraph
  rw [SessionGraph.within_append, SessionGraph.within_append, SessionGraph.within_append,
    SessionGraph.within_ite, within_networkGraphs hproper hnetwork.2 fun _ => hmain,
    within_rawSenderGraph hproper hbus hsender.2]
  constructor
  · exact fun h => ⟨h.1.1.2, h.2⟩
  · exact fun h => ⟨⟨⟨within_rawMainGraph hnetwork.1, h.1⟩, fun hsecrec =>
      (hmonitor hsecrec).mpr h.2⟩, h.2⟩

/-- The scene has none under the same condition, with devices that have channels, and with own buses
where they are sent. -/
theorem within_stageGraph (hraw : rawRouting st = false) (hproper : ∀ c ∈ clients, Proper st c)
    (hbus : ∀ ch ∈ st.thisdevice.channels, (.bus ch.id, 1) ∈ clients)
    (hsub : (stageGraph env st).clients ⊆ clients) :
    (stageGraph env st).Within clients ↔
      (∀ dev ∈ (stageMembers st).filter fun dev => !dev.channels.isEmpty,
        receivesFrom st dev = true → rawRouting st = false ∨ 0 < st.rendersettings.secrec →
          dev.nozita = false → Covers dev) ∧
      (0 < st.rendersettings.secrec ∨
        (st.thisdevice.senddownmix = false ∧ st.thisdevice.nozita = false) → OwnBuses st) := by
  have hsenders := List.append_subset.mp hsub
  have hmetro := List.append_subset.mp hsenders.1
  have hreceivers := List.append_subset.mp hmetro.1
  have hself := hreceivers.2
  have hsending := List.append_subset.mp hsenders.2
  have hmonitor : (if 0 < st.rendersettings.secrec && !(ownDevice st).channels.isEmpty then
        selfmonitorGraph st else SessionGraph.empty).Within clients ↔
      (0 < st.rendersettings.secrec → OwnBuses st) := by
    cases hempty : (ownDevice st).channels.isEmpty with
    | true =>
        rw [Bool.not_true, Bool.and_false, if_neg Bool.false_ne_true]
        exact iff_of_true SessionGraph.within_empty fun _ => ownBuses_of_isEmpty hempty
    | false =>
        rw [hempty, Bool.not_false, Bool.and_true] at hself
        rw [Bool.not_false, Bool.and_true, SessionGraph.within_ite, decide_eq_true_eq]
        refine forall_congr' fun hsecrec => within_selfmonitorGraph hproper hbus ?_
        rw [if_pos (decide_eq_true hsecrec)] at hself
        exact hself
  have hmetronome : (metronomeGraph st).Within clients :=
    SessionGraph.within_ite.mpr fun _ => SessionGraph.within_unlinked _
  unfold stageGraph stageReceiversGraph
  rw [SessionGraph.within_append, SessionGraph.within_append, SessionGraph.within_append,
    SessionGraph.within_append, hmonitor,
    within_networkGraphs hproper hreceivers.1 fun h =>
      absurd (hraw.symm.trans h) Bool.false_ne_true,
    within_channelSenderGraph hproper hbus hmetro.2 hsending.1]
  constructor
  · rintro ⟨⟨⟨hmembers, hsecond⟩, -⟩, hown, -⟩
    exact ⟨hmembers, fun h => h.elim hsecond fun hsends => hown hsends.1 hsends.2⟩
  · rintro ⟨hmembers, hown⟩
    exact ⟨⟨⟨hmembers, fun hsecrec => hown (.inl hsecrec)⟩, hmetronome⟩,
      fun hmix hzita => hown (.inr ⟨hmix, hzita⟩), within_downmixSenderGraph hsending.2⟩

/-- The network has none exactly if the mixes fit and the channels that are sent have buses. -/
theorem within_routedGraph (hproper : ∀ c ∈ clients, Proper st c)
    (hbus : st.host.isEmpty = false →
      ∀ ch ∈ st.thisdevice.channels, (.bus ch.id, 1) ∈ clients)
    (hsub : (routedGraph env st).clients ⊆ clients) :
    (routedGraph env st).Within clients ↔
      MixesFit st ∧ (ConnectsOwnChannels st → OwnBuses st) := by
  unfold routedGraph at hsub ⊢
  unfold MixesFit receivedMembers ConnectsOwnChannels
  cases hhost : st.host.isEmpty with
  | true =>
      exact iff_of_true SessionGraph.within_empty
        ⟨List.forall_mem_nil _, fun h => absurd h.1.symm Bool.false_ne_true⟩
  | false =>
      rw [hhost, if_neg Bool.false_ne_true] at hsub
      rw [if_neg Bool.false_ne_true, if_neg Bool.false_ne_true]
      by_cases hraw : rawRouting st = true
      · rw [if_pos hraw] at hsub
        rw [if_pos hraw, if_pos hraw, within_rawDevGraph hproper (hbus hhost) hsub,
          forall_prop_of_true ⟨rfl, .inl hraw⟩]
      · rw [if_neg hraw] at hsub
        rw [if_neg hraw, if_neg hraw, within_stageGraph (Bool.not_eq_true _ ▸ hraw) hproper
          (hbus hhost) hsub]
        exact and_congr_right' (imp_congr_left ⟨fun h => ⟨rfl, .inr h⟩, fun h =>
          h.2.resolve_left hraw⟩)

end Routed

/-- **The ports of a session.**  The document of a session describes its graph.  All ports that the
graph connects and waits for belong to clients that the document declares exactly if every device
that is received has at most the channels of its receiver, and if the channels that the device has
on stage are its own, where they are connected. -/
theorem session_graph_closed_iff (env : SessionEnv) (st : Stage) (x : ExtraVars) :
    Describes env st x (sessionDescription env st x) (sessionGraph env st x) ∧
      ((sessionGraph env st x).Closed ↔
        MixesFit st ∧ (ConnectsOwnChannels st → OwnBuses st)) := by
  refine ⟨describes_sessionDescription, ?_⟩
  have hproper : ∀ c ∈ (sessionGraph env st x).clients, Proper st c := allProper_sessionGraph
  have hrouted := List.append_subset.mp (List.append_subset.mp
    (List.Subset.refl (sessionGraph env st x).clients)).1
  have hinput := (List.append_subset.mp hrouted.1).1
  have hbus (hhost : st.host.isEmpty = false) :
      ∀ ch ∈ st.thisdevice.channels, (.bus ch.id, 1) ∈ (sessionGraph env st x).clients := by
    intro ch hch
    refine hinput (List.mem_append_right _ ?_)
    rw [effectGraph, hhost, Bool.not_false, Bool.true_or, if_pos rfl]
    exact List.mem_map_of_mem hch
  have houtputs : (if !rawRouting st && st.rendersettings.receive then outputsGraph st
      else SessionGraph.empty).Within (sessionGraph env st x).clients :=
    SessionGraph.within_ite.mpr fun _ => within_outputsGraph
  have hxports : SessionGraph.Within
      ⟨[], st.rendersettings.xports.entries.map fun xport => (.outside xport.1, .outside xport.2),
        []⟩ (sessionGraph env st x).clients := by
    refine ⟨?_, List.forall_mem_nil _⟩
    rw [List.forall_mem_map]
    exact fun _ _ => ⟨trivial, trivial⟩
  rw [← within_routedGraph hproper hbus hrouted.2]
  show SessionGraph.Within (_ ++ _ ++ _ ++ _) _ ↔ _
  rw [SessionGraph.within_append, SessionGraph.within_append, SessionGraph.within_append]
  exact ⟨fun h => h.1.2, fun h => ⟨⟨⟨within_inputGraph hinput, houtputs⟩, h⟩, hxports⟩⟩

end Session

end Libov
