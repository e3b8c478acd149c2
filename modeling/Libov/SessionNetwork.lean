/-
# The network modules of a session

The receivers, the sender module and the metronome that `create_virtual_acoustics` and
`create_raw_dev` add to the modules of a session, with their connections.  Each function
comes with the variables of the extra configuration that it reads (`DependsOn`): what it
returns is the same for two configurations that agree on these.
-/
import Libov.SessionNodes

namespace Libov

open Renderer

variable (env : SessionEnv) (st : Stage)

/-! ## Receivers -/

/-- The channel numbers of a receiver. -/
def chanlist (stagemember : StageDevice) : String :=
  if stagemember.senddownmix then "1,2"
  else ",".intercalate ((List.range stagemember.channels.length).map fun k => toString (k + 1))

/-- The jitter that a receiver has to absorb. -/
def jitterBuffer (stagemember : StageDevice) : ℚ :=
  env.text.single ((ownDevice st).receiverjitter + stagemember.senderjitter)

/-- `add_secondary_bus`. -/
def addSecondaryBus (stagemember : StageDevice) : SessionParts :=
  let clientname := getStagedevName st stagemember.id ++ "_sec"
  let netclientname := "n2j_" ++ toString stagemember.id ++ "_sec"
  let srcport (c : ℕ) := netclientname ++ "." ++ st.thisdeviceid ++ ":out_" ++ toString (c + 1)
  let receiver := systemModule (env.zitapath ++ "ovzita-n2j --chan " ++ chanlist stagemember ++
    " --jname " ++ netclientname ++ "." ++ st.thisdeviceid ++ " --buf " ++
    env.text.toStr (env.text.double (st.rendersettings.secrec + jitterBuffer env st stagemember))
    ++ " 0.0.0.0 " ++ toString (getZitaport stagemember.id env.portoffset 100)) false
  -- a route with the gain of the device
  let route := TscNode.leaf "route" [("name", clientname),
    ("channels", toString stagemember.channels.length),
    ("gain", env.text.decibel stagemember.gain)]
  let channels :=
    if stagemember.nozita || st.thisstagedeviceid == stagemember.id then []
    else List.range stagemember.channels.length
  { mods := (if stagemember.nozita then [] else [receiver]) ++ [route]
    connects := channels.map fun c => sessionAddConnect (srcport c) (clientname ++ ":in." ++
      toString c)
    waitports := channels.map srcport }

/-- The channels of the device are routed to the outputs without virtual acoustics. -/
def rawRouting : Bool := st.rendersettings.rawmode || st.thisdevice.receivedownmix

/-- The route for the gain of a device in raw mode; the channels of all devices are put
on the two inputs of the main route in turn. -/
def rawRoute (stagemember : StageDevice) (clientname n2jclientname : String) (chcnt : ℕ) :
    SessionParts :=
  let memchannels := if stagemember.senddownmix then 2 else stagemember.channels.length
  let name := clientname ++ "." ++ st.thisdeviceid
  let srcport (c : ℕ) := name ++ ":out." ++ toString c
  let destport (c : ℕ) := "main." ++ st.thisdeviceid ++
    if (chcnt + c + 1) % 2 = 1 then ":in.0" else ":in.1"
  { mods := [.leaf "route" ([("name", name), ("channels", toString memchannels),
      ("gain", env.text.decibel stagemember.gain)] ++
      if stagemember.nozita then [] else [("connect", n2jclientname ++ ":out_.*")])]
    connects := (List.range memchannels).map fun c => sessionAddConnect (srcport c) (destport c)
    waitports := (List.range memchannels).flatMap fun c => srcport c ::
      if stagemember.nozita then [] else [n2jclientname ++ ":out_" ++ toString (c + 1)] }

/-- The connections of a receiver to the sources of the scene. -/
def receiverConnects (stagemember : StageDevice) (clientname n2jclientname : String) :
    SessionParts :=
  let srcport (c : ℕ) := n2jclientname ++ ":out_" ++ toString (c + 1)
  let names := if stagemember.nozita then [] else channelNames 0 stagemember.channels
  { mods := []
    connects := names.zipIdx.map fun p => sessionAddConnect (srcport p.2)
      (st.thisdeviceid ++ ".main:" ++ clientname ++ "." ++ p.1 ++ ".0")
    waitports := names.zipIdx.map fun p => srcport p.2 }

/-- A receiver is created for the device: it is another device, and it sends a mix of the
stage exactly if the own device receives one. -/
def receivesFrom (stagemember : StageDevice) : Bool :=
  st.rendersettings.receive && st.thisstagedeviceid != stagemember.id &&
    stagemember.senddownmix == (ownDevice st).receivedownmix

/-- `add_network_receiver`, with the number of channels routed so far. -/
def addNetworkReceiver (stagemember : StageDevice) (chcnt : ℕ) : SessionParts × ℕ :=
  if receivesFrom st stagemember then
    let clientname := getStagedevName st stagemember.id
    let n2jclientname := (if rawRouting st then "n2j_" else "") ++ clientname ++ "." ++
      st.thisdeviceid
    let receiver := systemModule (env.zitapath ++ "ovzita-n2j --chan " ++
      chanlist stagemember ++ " --jname " ++ n2jclientname ++ " --buf " ++
      env.text.toStr (jitterBuffer env st stagemember) ++ " 0.0.0.0 " ++
      toString (getZitaport stagemember.id env.portoffset 0)) false
    let zita : SessionParts := ⟨if stagemember.nozita then [] else [receiver], [], []⟩
    let routes :=
      if rawRouting st then rawRoute env st stagemember clientname n2jclientname chcnt
      else receiverConnects st stagemember clientname n2jclientname
    let secondary :=
      if 0 < st.rendersettings.secrec then addSecondaryBus env st stagemember
      else SessionParts.empty
    (zita ++ routes ++ secondary,
      if rawRouting st then
        chcnt + if stagemember.senddownmix then 2 else stagemember.channels.length
      else chcnt)
  else (SessionParts.empty, chcnt)

/-- `add_network_receiver` for one device after the other. -/
def addNetworkReceivers : ℕ → List StageDevice → SessionParts
  | _, [] => SessionParts.empty
  | chcnt, stagemember :: members =>
      let added := addNetworkReceiver env st stagemember chcnt
      added.1 ++ addNetworkReceivers added.2 members

/-- The devices on stage while the session is set up. -/
def stageMembers : List StageDevice := (lookedUp st).entries.map Prod.snd

/-- The bus with a delayed version of the self monitor that goes with a second receiver. -/
def secondarySelfmonitor : SessionParts :=
  let thisdev := ownDevice st
  let clientname := getStagedevName st thisdev.id ++ "_sec"
  let jitter := env.text.single (env.text.single (st.rendersettings.secrec +
    thisdev.receiverjitter) + thisdev.senderjitter)
  { mods := [.node "route" [("name", clientname), ("channels", toString thisdev.channels.length),
      ("gain", env.text.decibel thisdev.gain)]
      [.node "plugins" [] [.leaf "delay" [("delay",
        env.text.toStr (env.text.double (env.text.double (1 / 1000) * jitter)))]]]]
    connects := thisdev.channels.zipIdx.map fun p =>
      sessionAddConnect (getChannelSource p.1) (clientname ++ ":in." ++ toString p.2)
    waitports := [] }

/-! ## Sender -/

variable (x : ExtraVars)

/-- The sample format of the sender. -/
def zitasampleformat : String := x .zitasampleformat

/-- The sender of a number of channels. -/
def senderModule (channels : ℕ) : TscNode :=
  systemModule (env.zitapath ++ "ovzita-j2n --chan " ++ toString channels ++ " --jname " ++
    st.thisdeviceid ++ "_sender --" ++ zitasampleformat x ++ " 127.0.0.1 " ++
    toString (getZitaport st.thisstagedeviceid env.portoffset 0)) false

theorem dependsOn_senderModule (channels : ℕ) :
    DependsOn (fun x => senderModule env st x channels) {v | v ∈ [ExtraVar.zitasampleformat]} := by
  intro x y h
  have hformat : zitasampleformat x = zitasampleformat y := h .zitasampleformat (by decide)
  simp only [senderModule, hformat]

/-- An input of the sender. -/
def senderPort (chn : ℕ) : String := st.thisdeviceid ++ "_sender:in_" ++ toString (chn + 1)

/-- The inputs of the sender for the own channels. -/
def senderPorts : List String := (List.range (ownDevice st).channels.length).map (senderPort st)

/-! ## Metronome -/

/-- `set_xmlattr` of the metronome: the metronome and its delay line.  Which of the two is
added first is left to the compiler. -/
def Metronome.setXmlattr (text : SessionText) (m : Metronome) : List TscNode :=
  [.leaf "metronome" [("bpm", text.stdToString m.bpm), ("bpb", toString m.bpb),
      ("bypass", boolText m.bypass), ("a1", text.stdToString m.level),
      ("ao", text.stdToString m.level)],
    .leaf "delay" [("delay", "0 " ++
      text.stdToString (text.double (text.double (1 / 1000) * m.delay)))]]

/-- The metronome of the session. -/
def sessionMetronome : Metronome := x .metronome

/-- The own channels are sent, with a metronome. -/
def sendsChannels : Bool := !(ownDevice st).channels.isEmpty && !st.thisdevice.senddownmix

/-- The route of the metronome. -/
def metronomeRoute : List TscNode :=
  if sendsChannels st then
    [.node "route" [("name", st.thisdeviceid ++ ".metronome"), ("channels", "2")]
      [.node "plugins" [] ((sessionMetronome x).setXmlattr env.text)]]
  else []

/-- Two metronomes are written in the same way exactly if the attributes are the same. -/
theorem metronomeRoute_eq_iff {x y : ExtraVars} :
    metronomeRoute env st x = metronomeRoute env st y ↔
      (sendsChannels st = true → (sessionMetronome x).setXmlattr env.text
        = (sessionMetronome y).setXmlattr env.text) := by
  rw [metronomeRoute, metronomeRoute, ite_eq_ite_iff]
  simp only [TscNode.node, List.cons.injEq, TscNode.element.injEq, and_true, true_and]

/-! ## Speaker calibration and raw devices -/

/-- A speaker with its equalizer. -/
def calibratedSpeaker (gains : String) : TscNode :=
  let firlen : Int32 := x .spkcalibFirlen
  let vfreq : String := x .spkcalibVfreq
  .leaf "speaker" [("eqfirlen", toString firlen), ("eqfreq", vfreq), ("eqgain", gains)]

/-- The speaker calibration is in use. -/
def spkcalibInUse : Bool :=
  let use : Bool := x .spkcalibUse
  let firlen : Int32 := x .spkcalibFirlen
  use && 0 < firlen

/-- `add_spkcalib`. -/
def addSpkcalib : List TscNode :=
  let rectype := st.rendersettings.rectype
  if rectype = "itu51" then []
  else if spkcalibInUse x then
    [.node "plugins" [] [.node "spkcalib" [] [.node "layout" []
      (calibratedSpeaker x (x .spkcalibVgainl) ::
        if rectype = "omni" then [] else [calibratedSpeaker x (x .spkcalibVgainr)])]]]
  else []

/-- The plugins of the place where the mix is put out. -/
def spkcalibPlugins : List TscNode := if spkcalibInUse x then addSpkcalib st x else []

/-- The variables of the speaker calibration. -/
def spkcalibVars : List ExtraVar :=
  [.spkcalibUse, .spkcalibFirlen, .spkcalibVfreq, .spkcalibVgainl, .spkcalibVgainr]

theorem dependsOn_spkcalibPlugins :
    DependsOn (fun x => spkcalibPlugins st x) {v | v ∈ spkcalibVars} := by
  intro x y h
  have hfirlen : x .spkcalibFirlen = y .spkcalibFirlen := h .spkcalibFirlen (by decide)
  have hvfreq : x .spkcalibVfreq = y .spkcalibVfreq := h .spkcalibVfreq (by decide)
  have hvgainl : x .spkcalibVgainl = y .spkcalibVgainl := h .spkcalibVgainl (by decide)
  have hvgainr : x .spkcalibVgainr = y .spkcalibVgainr := h .spkcalibVgainr (by decide)
  have huse : spkcalibInUse x = spkcalibInUse y :=
    congrArg₂ (fun (use : Bool) (firlen : Int32) => use && decide (0 < firlen))
      (h .spkcalibUse (by decide)) hfirlen
  simp only [spkcalibPlugins, addSpkcalib, calibratedSpeaker, huse, hfirlen, hvfreq, hvgainl,
    hvgainr]

/-- The main route of a device in raw mode. -/
def rawMain : SessionParts :=
  if st.rendersettings.receive then
    let clname := "main." ++ st.thisdeviceid
    let output (src dest : String) : List TscNode :=
      if dest.isEmpty then [] else [sessionAddConnect (clname ++ src) dest]
    { mods := [.node "route" [("name", clname), ("channels", "2"),
        ("gain", env.text.decibel st.rendersettings.outputgain)] (spkcalibPlugins st x)]
      connects := output ":out.0" st.rendersettings.outputport1 ++
        output ":out.1" st.rendersettings.outputport2
      waitports := [] }
  else SessionParts.empty

/-- The sender of a device in raw mode. -/
def rawSender : SessionParts :=
  let thisdev := ownDevice st
  if thisdev.channels.isEmpty then SessionParts.empty
  else
    { mods := [senderModule env st x thisdev.channels.length]
      connects := thisdev.channels.zipIdx.map fun p =>
        sessionAddConnect (getChannelSource p.1) (senderPort st p.2)
      waitports := senderPorts st }

/-- `create_raw_dev`. -/
def createRawDev : SessionParts :=
  let parts := rawMain env st x ++ addNetworkReceivers env st 0 (stageMembers st) ++
    (if 0 < st.rendersettings.secrec then secondarySelfmonitor env st else SessionParts.empty) ++
    rawSender env st x
  { parts with mods := parts.mods ++
      sessionAddWaitforjackports (st.thisdeviceid ++ ".waitforports") parts.waitports true }

theorem dependsOn_createRawDev :
    DependsOn (fun x => createRawDev env st x) {v | v ∈ .zitasampleformat :: spkcalibVars} := by
  intro x y h
  have hcalib : spkcalibPlugins st x = spkcalibPlugins st y :=
    dependsOn_spkcalibPlugins st fun v hv => h v (List.mem_cons_of_mem _ hv)
  have hsender (n : ℕ) : senderModule env st x n = senderModule env st y n :=
    dependsOn_senderModule env st n fun v hv => by
      rcases List.mem_singleton.1 hv with rfl
      exact h _ List.mem_cons_self
  simp only [createRawDev, rawMain, rawSender, hcalib, hsender]

end Libov
