/-
# Stages, devices and render settings

The data types of `ov_types.h` with the comparisons `operator!=` and the
`update_plugin_cfg` of `ov_types.cc`.  Values of type `float` are rational numbers
here; the rounding takes place where they are read (`Json`, `Numeric`).
-/
import Libov.Common
import Libov.OvTools

namespace Libov

/-- Stage device ids are ordered as numbers. -/
instance : LinearOrder StageDeviceId where
  le_refl := UInt8.le_refl
  le_trans _ _ _ := UInt8.le_trans
  le_antisymm _ _ := UInt8.le_antisymm
  le_total := UInt8.le_total
  lt_iff_le_not_ge a b := by
    rw [UInt8.not_le]
    constructor
    · intro h
      exact ⟨UInt8.le_of_lt h, h⟩
    · intro h
      exact h.2
  toDecidableLE := inferInstance

/-! ## Geometry and audio devices -/

/-- Cartesian coordinates in meters. -/
structure Pos where
  x : ℚ
  y : ℚ
  z : ℚ
  deriving DecidableEq

/-- Euler angles. -/
structure ZyxEuler where
  z : ℚ
  y : ℚ
  x : ℚ
  deriving DecidableEq

/-- Description of an audio interface device. -/
structure AudioDevice where
  drivername : String
  devicename : String
  srate : ℚ
  periodsize : UInt32
  numperiods : UInt32
  priority : UInt32
  deriving DecidableEq

/-- Two audio devices differ. -/
def AudioDevice.ne (a b : AudioDevice) : Bool :=
  a.drivername != b.drivername || a.devicename != b.devicename || a.srate != b.srate ||
    a.periodsize != b.periodsize || a.numperiods != b.numperiods || a.priority != b.priority

theorem AudioDevice.ne_eq_false_iff {a b : AudioDevice} : a.ne b = false ↔ a = b := by
  cases a
  cases b
  simp only [AudioDevice.ne, Bool.or_eq_false_iff, bne_eq_false_iff_eq, AudioDevice.mk.injEq,
    and_assoc]

@[simp] theorem AudioDevice.ne_self (a : AudioDevice) : a.ne a = false :=
  AudioDevice.ne_eq_false_iff.2 rfl

/-! ## Devices of a stage -/

/-- An audio plugin of a channel with its parameters. -/
structure ChannelPlugin where
  name : String
  params : OrderedMap String String

/-- Two plugins have the same name and parameters. -/
def ChannelPlugin.eq (a b : ChannelPlugin) : Bool :=
  a.name == b.name && a.params == b.params

/-- A channel of a stage device. -/
structure DeviceChannel where
  id : String
  sourceport : String
  gain : ℚ
  position : Pos
  directivity : String
  plugins : List ChannelPlugin
  name : String

/-- The parameters of a plugin after those of a configuration; values that are no
texts, numbers or flags are left out. -/
def pluginParams (num : Numeric) (params : OrderedMap String String)
    (members : List (String × Json)) : OrderedMap String String :=
  members.foldl (fun ps m => match m.2 with
    | .str s => ps.insert m.1 s
    | .int i => ps.insert m.1 (num.toStr (num.double i))
    | .float q => ps.insert m.1 (num.toStr q)
    | .bool b => ps.insert m.1 (if b then "true" else "false")
    | _ => ps) params

/-- What ends an update of the plugins. -/
inductive PluginFault where
  /-- An exception of the JSON library. -/
  | json (e : JsonError)
  /-- A plugin behind the last one of a channel is read. -/
  | plugins
  /-- A channel behind the last one of a device is accessed. -/
  | channels

section Plugins

variable (num : Numeric)

/-- The members of a value in a program that passes the exception of the library on. -/
def itemsOf {σ : Type} (j : Json) : EStateM PluginFault σ (List (String × Json)) :=
  match j.items with
  | .ok es => pure es
  | .error e => throw (.json e)

/-- The parameters that the plugin `plug` starts from at position `pcnt`: a plugin that has the
same name there keeps its own; no plugin there counts as one without a name. -/
def keptParams (plugins : List ChannelPlugin) (pcnt : ℕ) (plug : String) :
    Except PluginFault (OrderedMap String String) :=
  if plug = (plugins[pcnt]?.map ChannelPlugin.name).getD "" then
    match plugins[pcnt]? with
    | some p => .ok p.params
    | none => .error .plugins
  else .ok OrderedMap.empty

/-- A plugin in place of the one at position `pcnt`, or behind the last one. -/
def putPlugin (pcnt : ℕ) (cplug : ChannelPlugin) (plugins : List ChannelPlugin) :
    List ChannelPlugin :=
  if pcnt < plugins.length then plugins.set pcnt cplug else plugins ++ [cplug]

/-- A turn of the loop of `update_plugin_cfg`: the plugin `plug` is put at position `pcnt`. -/
def updatePlugin (pcnt : ℕ) (plug : String) (cfg : Json) :
    EStateM PluginFault (List ChannelPlugin) Unit := do
  let plugins ← get
  let params ← ofExcept (keptParams plugins pcnt plug)
  let members ← itemsOf cfg
  set (putPlugin pcnt ⟨plug, pluginParams num params members⟩ plugins)

/-- The loop of `update_plugin_cfg` from position `pcnt` on. -/
def updatePlugins : ℕ → List (String × Json) → EStateM PluginFault (List ChannelPlugin) Unit
  | _, [] => pure ()
  | pcnt, (plug, cfg) :: rest => do
      updatePlugin num pcnt plug cfg
      updatePlugins (pcnt + 1) rest

/-- `update_plugin_cfg` of a channel, on its plugins; the configuration is what the library reads
from its text. -/
def DeviceChannel.updatePluginCfg (jscfg : Except JsonError Json) :
    EStateM PluginFault (List ChannelPlugin) Unit :=
  match jscfg with
  | .ok jsplugins => do updatePlugins num 0 (← itemsOf jsplugins)
  | .error e => throw (.json e)

end Plugins

/-- Two channels differ; their ids are not compared. -/
def DeviceChannel.ne (a b : DeviceChannel) : Bool :=
  a.sourceport != b.sourceport || a.gain != b.gain || a.position != b.position ||
    a.directivity != b.directivity || a.name != b.name ||
    !(a.plugins.length == b.plugins.length &&
      (a.plugins.zip b.plugins).all fun p => p.1.eq p.2)

@[simp] theorem DeviceChannel.ne_self (a : DeviceChannel) : a.ne a = false := by
  have hplug : ((a.plugins.zip a.plugins).all fun p => p.1.eq p.2) = true := by
    rw [List.all_eq_true]
    intro p hp
    rw [List.zip_eq_zipWith, List.zipWith_self, List.mem_map] at hp
    obtain ⟨e, -, rfl⟩ := hp
    simp only [ChannelPlugin.eq, beq_self_eq_true, Bool.and_self]
  simp only [DeviceChannel.ne, bne_self_eq_false, beq_self_eq_true, hplug, Bool.or_false,
    Bool.and_self, Bool.not_true]

/-- Two lists of channels differ. -/
def channelsNe (a b : List DeviceChannel) : Bool :=
  a.length != b.length || (a.zip b).any fun p => p.1.ne p.2

@[simp] theorem channelsNe_self (a : List DeviceChannel) : channelsNe a a = false := by
  rw [channelsNe, bne_self_eq_false, Bool.false_or, List.any_eq_false]
  intro p hp
  rw [List.zip_eq_zipWith, List.zipWith_self, List.mem_map] at hp
  obtain ⟨e, -, rfl⟩ := hp
  rw [DeviceChannel.ne_self]
  exact Bool.false_ne_true

/-- A device on a stage. -/
structure StageDevice where
  id : StageDeviceId
  uid : String
  label : String
  channels : List DeviceChannel
  position : Pos
  orientation : ZyxEuler
  gain : ℚ
  mute : Bool
  senderjitter : ℚ
  receiverjitter : ℚ
  sendlocal : Bool
  receivedownmix : Bool
  senddownmix : Bool
  nozita : Bool
  hiresping : Bool

/-- `default_device`. -/
def defaultDevice : StageDevice where
  id := 0
  uid := ""
  label := ""
  channels := []
  position := ⟨0, 0, 0⟩
  orientation := ⟨0, 0, 0⟩
  gain := 1
  mute := false
  senderjitter := 5
  receiverjitter := 5
  sendlocal := true
  receivedownmix := false
  senddownmix := false
  nozita := false
  hiresping := false

/-- The value-initialised device that `std::map::operator[]` adds under a missing key. -/
def StageDevice.zero : StageDevice :=
  { defaultDevice with gain := 0, senderjitter := 0, receiverjitter := 0, sendlocal := false }

/-- Two devices differ. -/
def StageDevice.ne (a b : StageDevice) : Bool :=
  a.id != b.id || a.uid != b.uid || a.label != b.label || channelsNe a.channels b.channels ||
    a.position != b.position || a.orientation != b.orientation || a.gain != b.gain ||
    a.mute != b.mute || a.senderjitter != b.senderjitter ||
    a.receiverjitter != b.receiverjitter || a.sendlocal != b.sendlocal ||
    a.receivedownmix != b.receivedownmix || a.senddownmix != b.senddownmix ||
    a.nozita != b.nozita || a.hiresping != b.hiresping

@[simp] theorem StageDevice.ne_self (a : StageDevice) : a.ne a = false := by
  simp only [StageDevice.ne, bne_self_eq_false, channelsNe_self, Bool.or_self]

/-- The devices of a stage by their ids. -/
abbrev StageMap := OrderedMap StageDeviceId StageDevice

/-- Two stages differ. -/
def stageMapNe (a b : StageMap) : Bool := OrderedMap.ne StageDevice.ne a b

@[simp] theorem stageMapNe_self (a : StageMap) : stageMapNe a a = false :=
  OrderedMap.ne_self StageDevice.ne_self a

theorem stageMapNe_of_size {a b : StageMap} (h : a.size ≠ b.size) : stageMapNe a b = true :=
  OrderedMap.ne_of_size h

/-! ## Render settings -/

/-- Settings of rendering and networking of the local device. -/
structure RenderSettings where
  id : StageDeviceId
  roomsize : Pos
  absorption : ℚ
  damping : ℚ
  reverbgain : ℚ
  reverbgainroom : ℚ
  reverbgaindev : ℚ
  renderreverb : Bool
  renderism : Bool
  distancelaw : Bool
  rawmode : Bool
  receive : Bool
  rectype : String
  egogain : ℚ
  outputgain : ℚ
  peer2peer : Bool
  outputport1 : String
  outputport2 : String
  xports : OrderedMap String String
  xrecport : List Port
  secrec : ℚ
  headtracking : Bool
  headtrackingserial : Bool
  headtrackingrotrec : Bool
  headtrackingrotsrc : Bool
  headtrackingport : Port
  ambientsound : String
  ambientlevel : ℚ
  lmetertc : ℚ
  lmeterfw : String
  delaycomp : ℚ
  decorr : ℚ
  usetcptunnel : Bool
  encryption : Bool

/-- `render_settings_t()`; a literal of type `float` is the one nearest to its text. -/
def RenderSettings.default (num : Numeric) : RenderSettings where
  id := 0
  roomsize := ⟨15 / 2, 13, 5⟩
  absorption := num.single (3 / 5)
  damping := num.single (7 / 10)
  reverbgain := 1
  reverbgainroom := 1
  reverbgaindev := 1
  renderreverb := true
  renderism := false
  distancelaw := false
  rawmode := false
  receive := true
  rectype := "hrtf"
  egogain := 1
  outputgain := 1
  peer2peer := true
  outputport1 := ""
  outputport2 := ""
  xports := OrderedMap.empty
  xrecport := []
  secrec := 0
  headtracking := false
  headtrackingserial := false
  headtrackingrotrec := true
  headtrackingrotsrc := true
  headtrackingport := 0
  ambientsound := ""
  ambientlevel := 50
  lmetertc := 1 / 2
  lmeterfw := "Z"
  delaycomp := num.single (12 / 5)
  decorr := 0
  usetcptunnel := false
  encryption := true

/-- Two render settings differ. -/
def RenderSettings.ne (a b : RenderSettings) : Bool :=
  a.id != b.id || a.roomsize != b.roomsize || a.absorption != b.absorption ||
    a.damping != b.damping || a.reverbgain != b.reverbgain ||
    a.reverbgainroom != b.reverbgainroom || a.reverbgaindev != b.reverbgaindev ||
    a.renderreverb != b.renderreverb || a.renderism != b.renderism ||
    a.distancelaw != b.distancelaw || a.rawmode != b.rawmode || a.receive != b.receive ||
    a.rectype != b.rectype || a.egogain != b.egogain || a.outputgain != b.outputgain ||
    a.peer2peer != b.peer2peer || a.outputport1 != b.outputport1 ||
    a.outputport2 != b.outputport2 || a.secrec != b.secrec ||
    a.xports != b.xports || a.xrecport != b.xrecport ||
    a.headtracking != b.headtracking || a.headtrackingserial != b.headtrackingserial ||
    a.headtrackingrotrec != b.headtrackingrotrec ||
    a.headtrackingrotsrc != b.headtrackingrotsrc ||
    a.headtrackingport != b.headtrackingport || a.ambientsound != b.ambientsound ||
    a.ambientlevel != b.ambientlevel || a.lmetertc != b.lmetertc || a.lmeterfw != b.lmeterfw ||
    a.delaycomp != b.delaycomp || a.decorr != b.decorr || a.usetcptunnel != b.usetcptunnel ||
    a.encryption != b.encryption

theorem RenderSettings.ne_eq_false_iff {a b : RenderSettings} : a.ne b = false ↔ a = b := by
  cases a
  cases b
  simp only [RenderSettings.ne, Bool.or_eq_false_iff, bne_eq_false_iff_eq,
    RenderSettings.mk.injEq, and_assoc]
  constructor
  · intro h
    simp only [h, and_self]
  · intro h
    simp only [h, and_self]

@[simp] theorem RenderSettings.ne_self (a : RenderSettings) : a.ne a = false :=
  RenderSettings.ne_eq_false_iff.2 rfl

/-! ## The stage -/

/-- Everything the renderer knows about a session. -/
structure Stage where
  host : String
  port : Port
  pin : Secret
  rendersettings : RenderSettings
  thisdeviceid : String
  thisstagedeviceid : StageDeviceId
  stage : StageMap
  thisdevice : StageDevice

/-- `default_stage` of a device. -/
def Stage.default (num : Numeric) (deviceid : String) : Stage where
  host := ""
  port := 0
  pin := 0
  rendersettings := RenderSettings.default num
  thisdeviceid := deviceid
  thisstagedeviceid := 0
  stage := OrderedMap.empty
  thisdevice := defaultDevice

end Libov
