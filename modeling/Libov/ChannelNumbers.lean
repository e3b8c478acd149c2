/-
# Names of channels without a name

Three loops give numbers to the channels without a name: the one over the own sounds in
`create_virtual_acoustics`, whose names the metronome is connected to, the one over the channels of
a device in `add_network_receiver`, and the one over the faders of the MIDI controller.  The first
one counts all channels, the others only those without a name.

* `channelNames_eq_indexNames_iff` : when the two ways of counting agree;
* `channel_numbers_agree_iff` : when the three loops name every channel in the same way.
-/
import Libov.SessionDescription

namespace Libov

open Renderer

variable (env : SessionEnv) (st : Stage) (x : ExtraVars)

/-! ## Two ways of counting -/

/-- The names of the own sounds: a channel without a name has its place in the list, from `i` on. -/
def indexNames (i : ℕ) (chs : List DeviceChannel) : List String :=
  (chs.zipIdx i).map fun p => if p.1.name.isEmpty then toString p.2 else p.1.name

/-- No channel with a name stands before one without. -/
def NamedLast (chs : List DeviceChannel) : Prop :=
  chs.Pairwise fun a b => b.name.isEmpty = true → a.name.isEmpty = true

theorem indexNames_cons (i : ℕ) (ch : DeviceChannel) (chs : List DeviceChannel) :
    indexNames i (ch :: chs)
      = (if ch.name.isEmpty then toString i else ch.name) :: indexNames (i + 1) chs := rfl

/-- The number of a channel without a name is its place if all channels before have none. -/
theorem channelNames_eq_indexNames_iff {k i : ℕ} (hle : k ≤ i) (chs : List DeviceChannel) :
    channelNames k chs = indexNames i chs ↔
      (k = i ∨ ∀ ch ∈ chs, ch.name.isEmpty = false) ∧ NamedLast chs := by
  induction chs generalizing k i with
  | nil => simp [channelNames, indexNames, NamedLast]
  | cons ch chs ih =>
      rw [channelNames, indexNames_cons, NamedLast, List.pairwise_cons, ← NamedLast]
      by_cases hname : ch.name.isEmpty = true
      · rw [if_pos hname, if_pos hname, List.cons.injEq, ih (by omega)]
        have hfirst : toString k = toString i ↔ k = i :=
          ⟨fun h => Nat.repr_injective h, fun h => h ▸ rfl⟩
        have hsome : ¬ ∀ ch' ∈ ch :: chs, ch'.name.isEmpty = false := by
          intro h
          rw [h ch List.mem_cons_self] at hname
          cases hname
        rw [hfirst]
        constructor
        · rintro ⟨rfl, -, hlast⟩
          exact ⟨Or.inl rfl, fun _ _ _ => hname, hlast⟩
        · rintro ⟨hk, -, hlast⟩
          have hk := hk.resolve_right hsome
          exact ⟨hk, Or.inl (by omega), hlast⟩
      · rw [if_neg hname, if_neg hname, List.cons.injEq, ih (by omega)]
        rw [Bool.not_eq_true] at hname
        constructor
        · rintro ⟨-, hk, hlast⟩
          have hall := hk.resolve_left (by omega)
          refine ⟨Or.inr ?_, ?_, hlast⟩
          · intro ch' hch'
            rcases List.mem_cons.mp hch' with rfl | hch'
            · exact hname
            · exact hall ch' hch'
          · intro ch' hch' hempty
            rw [hall ch' hch'] at hempty
            cases hempty
        · rintro ⟨-, hbehind, hlast⟩
          refine ⟨rfl, Or.inr ?_, hlast⟩
          intro ch' hch'
          rw [← Bool.not_eq_true]
          intro hempty
          rw [hbehind ch' hch' hempty] at hname
          cases hname

/-! ## The three loops -/

/-- The patterns of the MIDI controller: the own channels, and the master on each MIDI channel. -/
def midiPatterns : List String :=
  let used := midiControllers st.thisdevice.channels.length 0 0
  let masters := List.range ((used.getLast?.map Prod.fst).getD 0 + 1)
  ((channelNames 0 st.thisdevice.channels).map fun name => "/*/ego/" ++ name) ++
    masters.map fun _ => "/*/main"

/-- These are the patterns that the module of the controller has. -/
theorem midictl_eq : ∃ attributes, midictl env st x = if usebcf2000 x then
      [.leaf "midictl" (attributes ++ [("pattern", env.text.vecstr2str (midiPatterns st))])]
    else [] :=
  ⟨[_, _, _, _, _], rfl⟩

/-- One list of names serves the metronome, the network and the controller. -/
structure SameNames (remote : StageDevice) (clientname n2jclientname : String)
    (names : List String) : Prop where
  metronome : egoSourceNames st = names.map fun name => "ego." ++ name ++ ".0"
  network : (receiverConnects st remote clientname n2jclientname).connects
    = names.zipIdx.map fun p => sessionAddConnect (n2jclientname ++ ":out_" ++ toString (p.2 + 1))
        (st.thisdeviceid ++ ".main:" ++ clientname ++ "." ++ p.1 ++ ".0")
  controller : ∃ masters, midiPatterns st
    = (names.map fun name => "/*/ego/" ++ name) ++ List.replicate masters "/*/main"

theorem egoName_injective :
    Function.Injective fun name : String => "ego." ++ name ++ ".0" := by
  intro a b h
  exact (String.append_right_inj "ego.").mp ((String.append_left_inj ".0").mp h)

theorem networkConnect_injective (deviceid clientname n2jclientname : String) :
    Function.Injective fun p : String × ℕ =>
      sessionAddConnect (n2jclientname ++ ":out_" ++ toString (p.2 + 1))
        (deviceid ++ ".main:" ++ clientname ++ "." ++ p.1 ++ ".0") := by
  rintro ⟨a, i⟩ ⟨b, j⟩ h
  simp only [sessionAddConnect, TscNode.leaf, TscNode.element.injEq, List.cons.injEq,
    Prod.mk.injEq, true_and, and_true] at h
  obtain ⟨hsrc, hdest⟩ := h
  have hport : i + 1 = j + 1 := Nat.repr_injective ((String.append_right_inj _).mp hsrc)
  have hname : a = b := (String.append_right_inj _).mp ((String.append_left_inj ".0").mp hdest)
  rw [hname, Nat.succ_injective hport]

section Loops

variable {st} {own remote : StageDevice}

/-- The names of the own sounds are those by place. -/
theorem egoSourceNames_eq
    (hown : (sourceMembers st).filter (fun dev => dev.id == (ownDevice st).id) = [own]) :
    egoSourceNames st = (indexNames 0 own.channels).map fun name => "ego." ++ name ++ ".0" := by
  rw [egoSourceNames]
  rw [hown, List.flatMap_singleton, indexNames, List.map_map]
  apply List.map_congr_left
  intro p _
  show _ = "ego." ++ (if p.1.name.isEmpty then toString p.2 else p.1.name) ++ ".0"
  split_ifs
  · rfl
  · rfl

theorem receiverConnects_connects (hzita : remote.nozita = false)
    (clientname n2jclientname : String) :
    (receiverConnects st remote clientname n2jclientname).connects
      = (channelNames 0 remote.channels).zipIdx.map fun p =>
          sessionAddConnect (n2jclientname ++ ":out_" ++ toString (p.2 + 1))
            (st.thisdeviceid ++ ".main:" ++ clientname ++ "." ++ p.1 ++ ".0") := by
  rw [receiverConnects, hzita]
  rfl

/-- For a device that has its channels on stage, and another one with the same channels: every
channel has one name in the three loops exactly if those with a name stand behind the others. -/
theorem channel_numbers_agree_iff (clientname n2jclientname : String)
    (hown : (sourceMembers st).filter (fun dev => dev.id == (ownDevice st).id) = [own])
    (hlocal : st.thisdevice.channels = own.channels) (hremote : remote.channels = own.channels)
    (hzita : remote.nozita = false) :
    (∃ names, SameNames st remote clientname n2jclientname names) ↔ NamedLast own.channels := by
  have hcount := channelNames_eq_indexNames_iff (le_refl 0) own.channels
  rw [eq_self_iff_true, true_or, true_and] at hcount
  rw [← hcount]
  constructor
  · rintro ⟨names, hnames⟩
    have hmetronome := hnames.metronome
    have hnetwork := hnames.network
    rw [egoSourceNames_eq hown] at hmetronome
    rw [receiverConnects_connects hzita, hremote] at hnetwork
    have hindex := egoName_injective.list_map hmetronome
    have hzip := (networkConnect_injective _ _ _).list_map hnetwork
    have hcounted : channelNames 0 own.channels = names := by
      have hfst := congrArg (List.map Prod.fst) hzip
      rwa [List.zipIdx_map_fst, List.zipIdx_map_fst] at hfst
    rw [hcounted, hindex]
  · intro hsame
    refine ⟨channelNames 0 own.channels, ?_, ?_, ?_⟩
    · rw [egoSourceNames_eq hown, hsame]
    · rw [receiverConnects_connects hzita, hremote]
    · rw [midiPatterns, hlocal]
      exact ⟨_, congrArg _ List.map_const'⟩

end Loops

/-! ## Two channels -/

/-- A device with channels of the given names. -/
def bandDevice (id : StageDeviceId) (names : List String) : StageDevice :=
  { defaultDevice with
    id := id
    channels := names.map fun name => ⟨"0", "", 1, ⟨0, 0, 0⟩, "omni", [], name⟩ }

/-- A stage with the own device only. -/
def bandStage (names : List String) : Stage :=
  { Stage.default Numeric.exact "dev" with
    thisstagedeviceid := 1
    thisdevice := bandDevice 1 names
    stage := OrderedMap.empty.insert 1 (bandDevice 1 names) }

/-- The only name stands last. -/
theorem channel_numbers_agree_voice :
    ∃ names, SameNames (bandStage ["", "voice"]) (bandDevice 2 ["", "voice"]) "b_2" "b_2.dev"
      names := by
  have hown : (sourceMembers (bandStage ["", "voice"])).filter
      (fun dev => dev.id == (ownDevice (bandStage ["", "voice"])).id)
        = [bandDevice 1 ["", "voice"]] := rfl
  have hremote : (bandDevice 2 ["", "voice"]).channels = (bandDevice 1 ["", "voice"]).channels :=
    rfl
  have hzita : (bandDevice 2 ["", "voice"]).nozita = false := rfl
  apply (channel_numbers_agree_iff "b_2" "b_2.dev" hown rfl hremote hzita).mpr
  rw [NamedLast]
  decide

/-- Behind a channel with a name the metronome is connected to number 1, but the controller and
the network use number 0. -/
theorem channel_numbers_differ :
    egoSourceNames (bandStage ["voice", ""]) = ["ego.voice.0", "ego.1.0"] ∧
      midiPatterns (bandStage ["voice", ""]) = ["/*/ego/voice", "/*/ego/0", "/*/main"] ∧
      (receiverConnects (bandStage ["voice", ""]) (bandDevice 2 ["voice", ""]) "b_2"
          "b_2.dev").connects =
        [sessionAddConnect "b_2.dev:out_1" "dev.main:b_2.voice.0",
          sessionAddConnect "b_2.dev:out_2" "dev.main:b_2.0.0"] := by
  refine ⟨?_, ?_, ?_⟩
  · rfl
  · rfl
  · rfl

end Libov
