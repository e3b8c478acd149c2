/-
# The description of a session

The document that `start_session` writes: the scene, the modules, the connections and the
include file, and the files that go with it.  It is a function of the stage and of the
variables of the extra configuration.

* `sessionDescription_eq_iff` : configurations that agree on the variables of which every
  change asks for a new session are described in the same way exactly if the metronome, the
  head tracker and the own sounds are.
-/
import Libov.VirtualAcoustics

namespace Libov

open Renderer

/-- The session element with its children by their kinds, and the files read by the
modules. -/
structure SessionDescription where
  attributes : List (String × String)
  /-- The children of the scene. -/
  scene : List TscNode
  /-- The children of the modules section. -/
  modules : List TscNode
  /-- The children of the second modules section, on a stage. -/
  stageModules : List TscNode
  /-- The connections, in their order. -/
  connects : List TscNode
  /-- The include element. -/
  includes : List TscNode
  /-- The include file. -/
  itsc : Option String
  /-- The configuration of the hearing aid. -/
  mhacfg : Option String

variable (env : SessionEnv) (st : Stage) (x : ExtraVars)

/-! ## Analysis of the inputs -/

/-- The scanner of data streams is used. -/
def getoscvars : Bool := x .getoscvars

/-- The scanner of data streams. -/
def streamScanner : List TscNode :=
  if getoscvars x then [.leaf "osclist" [("timeout", "120")], .leaf "lsllist" []] else []

/-- The levels of the inputs are analysed. -/
def reclevelanalyser : Bool := x .reclevelanalyser

/-- `create_levelmeter_route`, where the levels are analysed. -/
def levelmeterRoute : SessionParts :=
  let thisdev := st.thisdevice
  let clientname := thisdev.uid ++ ".levelanalysis"
  if reclevelanalyser x then
    { mods := [.node "route" [("name", clientname), ("channels", toString thisdev.channels.length),
        ("caliblevel_in", "93.9794001")]
        [.node "plugins" [] [.leaf "reclevelanalyzer" [("triggered", "true"),
          ("tau_segment", "0.125"), ("tau_analysis", "25.0"), ("path", "/reclevelanalyzer")]]]]
      connects := thisdev.channels.zipIdx.map fun p =>
        sessionAddConnect p.1.sourceport (clientname ++ ":in." ++ toString p.2)
      waitports := [] }
  else SessionParts.empty

/-- The reference frequency of the tuner. -/
def tunerF0 : ℚ := x .tunerF0

/-- The temperament of the tuner. -/
def tunerTuning : String := x .tunerTuning

/-- The tuner is on. -/
def tunerActive : Bool := x .tunerActive

/-- The tuner. -/
def tuner : SessionParts where
  mods := [.leaf "tuner" [("url", "osc.udp://localhost:9000/"),
    ("f0", env.text.toStrF (tunerF0 x)), ("tuning", tunerTuning x), ("tau", "0.5"),
    ("strobebufferlen", "60"), ("isactive", env.text.toStringBool (tunerActive x))]]
  connects := st.thisdevice.channels.map fun ch => sessionAddConnect ch.sourceport "tuner:in"
  waitports := []

/-- The own sounds are played also where there is no stage. -/
def emptysessionismonitor : Bool := x .emptysessionismonitor

/-- The effect bus of a channel. -/
def effectBus (ch : DeviceChannel) : TscNode :=
  .node "route" [("name", "bus." ++ ch.id), ("channels", "1")]
    (if ch.plugins.isEmpty then []
    else [.node "plugins" [] (ch.plugins.map fun plug => .leaf plug.name plug.params.entries)])

/-- The effect buses, on a stage or for the own sounds. -/
def effectBuses : SessionParts :=
  if !st.host.isEmpty || emptysessionismonitor x then
    { mods := st.thisdevice.channels.map effectBus
      connects := st.thisdevice.channels.map fun ch =>
        sessionAddConnect ch.sourceport ("bus." ++ ch.id ++ ":in.0")
      waitports := [] }
  else SessionParts.empty

/-- What is analysed, and the effects. -/
def inputParts : SessionParts :=
  ⟨streamScanner x, [], []⟩ ++ levelmeterRoute st x ++ tuner env st x ++ effectBuses st x

/-- The variables of the inputs. -/
def inputVars : List ExtraVar :=
  [.getoscvars, .reclevelanalyser, .tunerF0, .tunerTuning, .tunerActive, .emptysessionismonitor]

theorem dependsOn_inputParts : DependsOn (fun x => inputParts env st x) {v | v ∈ inputVars} := by
  intro x y h
  have hosc : getoscvars x = getoscvars y := h .getoscvars (by decide)
  have hlevel : reclevelanalyser x = reclevelanalyser y := h .reclevelanalyser (by decide)
  have hf0 : tunerF0 x = tunerF0 y := h .tunerF0 (by decide)
  have htuning : tunerTuning x = tunerTuning y := h .tunerTuning (by decide)
  have hactive : tunerActive x = tunerActive y := h .tunerActive (by decide)
  have hempty : emptysessionismonitor x = emptysessionismonitor y :=
    h .emptysessionismonitor (by decide)
  simp only [inputParts, streamScanner, levelmeterRoute, tuner, effectBuses, hosc, hlevel, hf0,
    htuning, hactive, hempty]

/-! ## Receiver -/

/-- The receiver of the scene, with what stands in it. -/
def mainReceiver (place : List TscNode) : TscNode :=
  let rs := st.rendersettings
  let text := env.text
  .node "receiver" ([("type", rs.rectype), ("layers", "1")] ++
    (if rs.rectype = "ortf" then [("angle", "110"), ("broadband", "true")] else []) ++
    (if rs.rectype = "hrtf" then [("prewarpingmode", "2")] else []) ++
    (if 0 < rs.decorr then [("decorr", "true"),
      ("decorr_length", text.toStr (text.double (text.double (1 / 1000) * rs.decorr)))] else []) ++
    [("name", "main"), ("gain", text.decibel rs.outputgain),
      ("delaycomp", text.toStr (text.double (rs.delaycomp / 340)))])
    (spkcalibPlugins st x ++ place)

/-- The outputs of the receiver. -/
def receiverOutputs : List TscNode :=
  let rs := st.rendersettings
  let output (srcport dest : String) : List TscNode :=
    if dest.isEmpty then []
    else [sessionAddConnect (st.thisdeviceid ++ ".main:" ++ srcport) dest]
  let srcport (stereo itu51 : String) :=
    if rs.rectype = "omni" then "main.0" else if rs.rectype = "itu51" then itu51 else stereo
  if st.thisdevice.senddownmix then []
  else
    output (srcport "main_l" "main.0L") rs.outputport1 ++
      output (srcport "main_r" "main.1R") rs.outputport2

/-! ## Scene without a stage -/

/-- The own sound of a channel where there is no stage. -/
def monitorSound (ch : DeviceChannel) : TscNode :=
  let egogain := st.rendersettings.egogain
  soundNode env st ch true (egogain == 0) (selfmonitorOnlyreverb x)
    (if egogain = 0 then ch.gain else env.text.single (ch.gain * egogain)) []

/-- The announcement. -/
def announcement : TscNode :=
  .node "source" [("name", "announce")]
    [.node "sound" [("maxdist", "50"), ("gainmodel", "1"), ("x", "4")]
      [.node "plugins" [] [.leaf "sndfile" [("name", env.folder ++ "announce.flac"),
        ("level", "57"), ("transport", "false"), ("resample", "true"), ("loop", "0")]]]]

/-- The scene where there is no stage: the own sounds or an announcement. -/
def emptyScene : List TscNode :=
  if st.rendersettings.receive then
    if emptysessionismonitor x then
      .node "source" [("name", "ego")] (st.thisdevice.channels.map (monitorSound env st x)) ::
        if st.rendersettings.renderreverb then [configureSimplefdn env st x true] else []
    else [announcement env]
  else []

/-- The variables of a scene without a stage. -/
def emptySceneVars : List ExtraVar :=
  [.emptysessionismonitor, .selfmonitorOnlyreverb] ++ [.fdnforwardstages, .fdnorder]

theorem dependsOn_emptyScene :
    DependsOn (fun x => emptyScene env st x) {v | v ∈ emptySceneVars} := by
  intro x y h
  have hempty : emptysessionismonitor x = emptysessionismonitor y :=
    h .emptysessionismonitor (by decide)
  have honly : selfmonitorOnlyreverb x = selfmonitorOnlyreverb y :=
    h .selfmonitorOnlyreverb (by decide)
  have hfdn : configureSimplefdn env st x true = configureSimplefdn env st y true :=
    dependsOn_configureSimplefdn env st true fun v hv =>
      h v (List.mem_append_right _ hv)
  have hsound (ch : DeviceChannel) : monitorSound env st x ch = monitorSound env st y ch := by
    rw [monitorSound, monitorSound, honly]
  simp only [emptyScene, hempty, hfdn, funext hsound]

/-! ## Multichannel recording and further modules -/

/-- The channels of the multichannel receiver with the outputs they are played on. -/
def chmap (mczitachannels : List UInt32) : OrderedMap ℕ ℕ :=
  mczitachannels.zipIdx.foldl (fun m p => m.insert p.1.toNat (p.2 + 1)) OrderedMap.empty

/-- The settings of multichannel transmission. -/
structure MczitaSettings where
  mczita : Bool
  mczitasend : Bool
  mczitasendch : UInt32
  mczitaaddr : String
  mczitaport : UInt32
  mczitadevice : String
  mczitabuffer : UInt32
  mczitachannels : List UInt32
  autoconnectRec : Bool

/-- The settings of multichannel transmission in the extra configuration. -/
def mczitaSettings : MczitaSettings :=
  ⟨x .mczita, x .mczitasend, x .mczitasendch, x .mczitaaddr, x .mczitaport, x .mczitadevice,
    x .mczitabuffer, x .mczitachannels, x .mczitaAutoconnectRec⟩

/-- The multichannel receiver. -/
def mczitaReceiver (cfg : MczitaSettings) : List TscNode :=
  let channels := (chmap cfg.mczitachannels).entries
  let chlist := ",".intercalate (channels.map fun ch => toString ch.1)
  let conn := String.join (if cfg.autoconnectRec then channels.map fun ch =>
    "--conn system:playback_" ++ toString ch.2 ++ " " else [])
  let waitports := channels.map fun ch => "mc:out_" ++ toString ch.1
  if cfg.mczita then
    systemModule (env.zitapath ++ "ovzita-n2j --chan " ++ chlist ++ " --buff " ++
        toString cfg.mczitabuffer ++ " --jname mc " ++ conn ++ cfg.mczitaaddr ++ " " ++
        toString cfg.mczitaport ++ " " ++ cfg.mczitadevice) true ::
      sessionAddWaitforjackports (st.thisdeviceid ++ ".waitforportsmcrec") waitports false
  else []

/-- The multichannel sender. -/
def mczitaSender (cfg : MczitaSettings) : List TscNode :=
  let jname := "j2n_" ++ st.thisdeviceid ++ "_mc"
  let waitports := (List.range cfg.mczitasendch.toNat).map fun ch =>
    jname ++ ":in_" ++ toString (ch + 1)
  if cfg.mczitasend then
    systemModule (env.zitapath ++ "ovzita-j2n --chan " ++ toString cfg.mczitasendch ++
        " --jname " ++ jname ++ " " ++ cfg.mczitaaddr ++ " " ++ toString cfg.mczitaport ++ " " ++
        cfg.mczitadevice) true ::
      sessionAddWaitforjackports (st.thisdeviceid ++ ".waitforportsmcsend") waitports false
  else []

/-- The sample format of recordings. -/
def jackrecSampleformat : String := x .jackrecSampleformat

/-- The file format of recordings. -/
def jackrecFileformat : String := x .jackrecFileformat

/-- The recorder and the remote control, in the primary client. -/
def jackrec : List TscNode :=
  if env.secondary then []
  else
    [.leaf "jackrec" [("url", "osc.udp://localhost:9000/"),
        ("sampleformat", jackrecSampleformat x), ("fileformat", jackrecFileformat x),
        ("pattern", "rec*.*")],
      .leaf "touchosc" []]

/-- The configuration of the hearing aid. -/
def mhaconfig : String := x .mhaconfig

/-- The hearing aid. -/
def mhaModule : List TscNode :=
  if (mhaconfig x).isEmpty then []
  else [.leaf "system" [("command", "mha ?read:" ++ st.thisdeviceid ++ ".mhacfg")]]

/-- The content of the include file, as configured. -/
def tscincludeText : String := x .tscinclude

/-- A MIDI controller is used. -/
def usebcf2000 : Bool := x .usebcf2000

/-- The gain controllers of a number of channels from a MIDI channel and a controller on:
seven on each MIDI channel. -/
def midiControllers : ℕ → ℕ → ℕ → List (ℕ × ℕ)
  | 0, _, _ => []
  | n + 1, midiChannel, k =>
      if k = 7 then (midiChannel + 1, 0) :: midiControllers n (midiChannel + 1) 1
      else (midiChannel, k) :: midiControllers n midiChannel (k + 1)

/-- The MIDI controller: faders and buttons of the own channels, and the master fader on
each of the MIDI channels. -/
def midictl : List TscNode :=
  let channels := st.thisdevice.channels
  let used := midiControllers channels.length 0 0
  let masters := List.range ((used.getLast?.map Prod.fst).getD 0 + 1)
  let controller (midiChannel k : ℕ) := toString midiChannel ++ "/" ++ toString k
  let gaincontrollers := (used.map fun c => controller c.1 c.2) ++
    masters.map fun m => controller m 7
  let mutecontrollers := (used.map fun c => controller c.1 (c.2 + 8)) ++
    masters.map fun m => controller m 15
  let pattern := ((channelNames 0 channels).map fun name => "/*/ego/" ++ name) ++
    masters.map fun _ => "/*/main"
  if usebcf2000 x then
    [.leaf "midictl" [("connect", "BCF2000:0"), ("min", "-30"), ("max", "10"),
      ("nonlinscale", "true"),
      ("controllers", env.text.vecstr2str gaincontrollers ++ " " ++
        env.text.vecstr2str mutecontrollers),
      ("pattern", env.text.vecstr2str pattern)]]
  else []

/-- The modules that do not depend on the scene. -/
def furtherModules : List TscNode :=
  mczitaReceiver env st (mczitaSettings x) ++ mczitaSender env st (mczitaSettings x) ++
    jackrec env x ++ mhaModule st x ++ midictl env st x

/-- The variables of these modules. -/
def furtherVars : List ExtraVar :=
  [.mczita, .mczitasend, .mczitasendch, .mczitaaddr, .mczitaport, .mczitadevice, .mczitabuffer,
    .mczitachannels, .mczitaAutoconnectRec, .jackrecSampleformat, .jackrecFileformat,
    .mhaconfig, .usebcf2000]

theorem dependsOn_furtherModules :
    DependsOn (fun x => furtherModules env st x) {v | v ∈ furtherVars} := by
  intro x y h
  have hmczita : mczitaSettings x = mczitaSettings y := by
    simp only [mczitaSettings, h .mczita (by decide), h .mczitasend (by decide),
      h .mczitasendch (by decide), h .mczitaaddr (by decide), h .mczitaport (by decide),
      h .mczitadevice (by decide), h .mczitabuffer (by decide), h .mczitachannels (by decide),
      h .mczitaAutoconnectRec (by decide)]
  have hsample : jackrecSampleformat x = jackrecSampleformat y :=
    h .jackrecSampleformat (by decide)
  have hfile : jackrecFileformat x = jackrecFileformat y := h .jackrecFileformat (by decide)
  have hmha : mhaconfig x = mhaconfig y := h .mhaconfig (by decide)
  have hbcf : usebcf2000 x = usebcf2000 y := h .usebcf2000 (by decide)
  simp only [furtherModules, jackrec, mhaModule, midictl, hmczita, hsample, hfile, hmha, hbcf]

/-! ## The session -/

/-- The connections of the stage: virtual acoustics or raw mode. -/
def routedParts : SessionParts :=
  if st.host.isEmpty then SessionParts.empty
  else if rawRouting st then createRawDev env st x
  else ⟨stageModules env st x, stageConnects env st x, []⟩

/-- The children of the scene. -/
def sceneNodes : List TscNode :=
  if rawRouting st then []
  else
    (if st.rendersettings.receive then
      [mainReceiver env st x (if st.host.isEmpty then [] else receiverPlace env st)] else []) ++
    if st.host.isEmpty then emptyScene env st x else stageScene env st x

/-- The document that `start_session` writes, with its files. -/
def sessionDescription : SessionDescription where
  attributes := [("srv_port", toString env.myTascarport), ("duration", "36000"),
    ("name", st.thisdeviceid), ("license", "CC0"),
    ("levelmeter_tc", env.text.toStrF st.rendersettings.lmetertc),
    ("levelmeter_weight", st.rendersettings.lmeterfw)]
  scene := sceneNodes env st x
  modules := (inputParts env st x).mods ++ furtherModules env st x
  stageModules := (routedParts env st x).mods
  connects := (inputParts env st x).connects ++
    (if !rawRouting st && st.rendersettings.receive then receiverOutputs st else []) ++
    (routedParts env st x).connects ++
    st.rendersettings.xports.entries.map fun xport => sessionAddConnect xport.1 xport.2
  includes := if (tscincludeText x).isEmpty then []
    else [.leaf "include" [("name", st.thisdeviceid ++ ".itsc")]]
  itsc := if (tscincludeText x).isEmpty then none else some (env.itsc (tscincludeText x))
  mhacfg := if (mhaconfig x).isEmpty then none else some (mhaconfig x)

/-! ## What a description depends on -/

/-- The variables that are written into the description and of which every change asks for
a new session. -/
def sessionVars : List ExtraVar :=
  [inputVars, spkcalibVars, sceneVars, emptySceneVars, moduleVars, furtherVars,
    [.tscinclude]].flatten

/-- The session renders virtual acoustics on a stage. -/
def rendersStage : Bool := !st.host.isEmpty && !rawRouting st

section Description

variable {x} {y : ExtraVars} (h : ∀ v ∈ sessionVars, x v = y v)

include h

theorem agree_of_mem (vars : List ExtraVar) (hvars : vars ∈ [inputVars, spkcalibVars, sceneVars,
    emptySceneVars, moduleVars, furtherVars, [.tscinclude]]) : ∀ v ∈ vars, x v = y v :=
  fun v hv => h v (List.mem_flatten.2 ⟨vars, hvars, hv⟩)

theorem spkcalibPlugins_congr : spkcalibPlugins st x = spkcalibPlugins st y :=
  dependsOn_spkcalibPlugins st (agree_of_mem h spkcalibVars (by decide))

theorem inputParts_congr : inputParts env st x = inputParts env st y :=
  dependsOn_inputParts env st (agree_of_mem h inputVars (by decide))

theorem furtherModules_congr : furtherModules env st x = furtherModules env st y :=
  dependsOn_furtherModules env st (agree_of_mem h furtherVars (by decide))

theorem sceneNodes_eq_iff :
    sceneNodes env st x = sceneNodes env st y ↔
      (rendersStage st = true → stageScene env st x = stageScene env st y) := by
  have hempty : emptyScene env st x = emptyScene env st y :=
    dependsOn_emptyScene env st (agree_of_mem h emptySceneVars (by decide))
  have hreceiver (place : List TscNode) :
      mainReceiver env st x place = mainReceiver env st y place := by
    rw [mainReceiver, mainReceiver, spkcalibPlugins_congr st h]
  rw [sceneNodes, sceneNodes, hreceiver, hempty]
  cases hraw : rawRouting st with
  | true =>
      simp only [rendersStage, hraw, if_true, Bool.not_true, Bool.and_false,
        Bool.false_eq_true, IsEmpty.forall_iff]
  | false =>
      rw [if_neg Bool.false_ne_true, if_neg Bool.false_ne_true, List.append_right_inj]
      cases hhost : st.host.isEmpty with
      | true =>
          simp only [rendersStage, hhost, if_true, Bool.not_true, Bool.false_and,
            Bool.false_eq_true, IsEmpty.forall_iff]
      | false =>
          simp only [rendersStage, hraw, hhost, if_neg Bool.false_ne_true, Bool.not_false,
            Bool.and_self, forall_const]

theorem createRawDev_congr : createRawDev env st x = createRawDev env st y := by
  refine dependsOn_createRawDev env st fun v hv => ?_
  rcases List.mem_cons.1 hv with rfl | hv
  · exact agree_of_mem h moduleVars (by decide) _ List.mem_cons_self
  · exact agree_of_mem h spkcalibVars (by decide) v hv

theorem routedParts_eq :
    routedParts env st x = if rendersStage st then
      ⟨stageModules env st x, stageConnects env st y, []⟩ else routedParts env st y := by
  have hconnects : stageConnects env st x = stageConnects env st y :=
    stageConnects_congr env st (agree_of_mem h moduleVars (by decide))
  rw [routedParts, routedParts, createRawDev_congr env st h, hconnects, rendersStage]
  cases st.host.isEmpty with
  | true => rfl
  | false =>
      cases rawRouting st with
      | true => rfl
      | false => rfl

/-- Two configurations are described in the same way exactly if the own sounds, the
metronome and the head tracker are. -/
theorem sessionDescription_eq_iff :
    sessionDescription env st x = sessionDescription env st y ↔ (rendersStage st = true →
      stageScene env st x = stageScene env st y ∧
        metronomeRoute env st x = metronomeRoute env st y ∧
        headtracker env st x = headtracker env st y) := by
  have htsc : tscincludeText x = tscincludeText y := h .tscinclude (by decide)
  have hmha : mhaconfig x = mhaconfig y := h .mhaconfig (by decide)
  have hmodules := stageModules_eq_iff env st (agree_of_mem h moduleVars (by decide))
  simp only [sessionDescription, SessionDescription.mk.injEq, inputParts_congr env st h,
    furtherModules_congr env st h, htsc, hmha, true_and, and_true, sceneNodes_eq_iff env st h,
    routedParts_eq env st h]
  by_cases hstage : rendersStage st = true
  · have hy := routedParts_eq env st (x := y) (y := y) fun _ _ => rfl
    rw [if_pos hstage] at hy
    simp only [if_pos hstage, hy, hmodules, and_true, forall_prop_of_true hstage]
  · rw [if_neg hstage]
    exact iff_of_true ⟨fun hs => absurd hs hstage, rfl, rfl⟩ fun hs => absurd hs hstage

end Description

end Libov
