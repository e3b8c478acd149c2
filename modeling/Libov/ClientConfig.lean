/-
# Applying a configuration

`parse_config` of `ov_client_orlandoviols.cc`: it reads the device configuration
and calls the setters of the renderer, then starts the audio backend and the
session if needed.

The subscripts of the source also write a null under a key that is missing.  No
access of these functions tells such a null from a missing key, and the null is
left out here.
-/
import Libov.RenderTascar

namespace Libov

open Programs

/-! ## State and surroundings -/

/-- The members of the client that `parse_config` works with. -/
structure Client where
  standaloneMixer : Bool
  owner : String
  quitrequest : Bool
  backend : Renderer

/-- A new client. -/
def Client.init (backend : Renderer) : Client := ⟨false, "", false, backend⟩

/-- Programs of the client. -/
abbrev ClientM := EStateM ErrMsg Client

/-- What the surroundings of the client do during a call of `parse_config`. -/
structure ConfigEnv where
  /-- The answer of JACK in `configure_audio_backend`. -/
  configureAudio : JackReply
  /-- The answer of JACK to a restart that the configuration asks for. -/
  restartAudio : JackReply
  /-- The answer of JACK where no backend has been active. -/
  startAudio : JackReply
  /-- The number of channels of the ambient sound file, if it can be opened. -/
  ambient : Option ℕ
  /-- Where the start of a session fails. -/
  fault : Option StartFault

section Reading

variable (num : Numeric)

/-! ## Devices -/

/-- The coordinates of an object. -/
def readPos (js : Json) : Except ErrMsg Pos := do
  let x ← myJsValue num js "x" (0 : ℚ)
  let y ← myJsValue num js "y" (0 : ℚ)
  let z ← myJsValue num js "z" (0 : ℚ)
  return ⟨x, y, z⟩

/-- The orientation of an object. -/
def readOrientation (js : Json) : Except ErrMsg ZyxEuler := do
  let z ← myJsValue num js "z" (0 : ℚ)
  let y ← myJsValue num js "y" (0 : ℚ)
  let x ← myJsValue num js "x" (0 : ℚ)
  return ⟨z, y, x⟩

/-- The plugins of a new channel, which has none before `update_plugin_cfg`. -/
def newPlugins (jsplugins : Json) : Except ErrMsg (List ChannelPlugin) :=
  match DeviceChannel.updatePluginCfg num (.ok jsplugins) [] with
  | .ok _ plugins => .ok plugins
  | .error (.json e) _ => .error (.json e)
  | .error _ _ => .error .undefined

/-- One turn of the loop over the channels of a device; channels without a name are
counted. -/
def readChannel (label : String) (id : StageDeviceId) (st : ℕ × List DeviceChannel) (ch : Json) :
    Except ErrMsg (ℕ × List DeviceChannel) := do
  let name ← myJsValue num ch "name" ""
  let stem := label ++ "_" ++ toString id.toNat
  let chid := if name = "" then stem ++ "_c" ++ toString st.1 else stem ++ "_" ++ name
  let sourceport ← myJsValue num ch "sourceport" ""
  let gain ← myJsValue num ch "gain" (1 : ℚ)
  let position ← readPos num (← subscript ch "position")
  let directivity ← myJsValue num ch "directivity" "omni"
  let plugins ← newPlugins num (← subscript ch "plugins")
  let chcnt := if name = "" then st.1 + 1 else st.1
  return (chcnt, st.2 ++ [⟨chid, sourceport, gain, position, directivity, plugins, name⟩])

/-- The members of a stage device in the order of `get_stage_dev`. -/
def readStageDev (dev : Json) : Except ErrMsg StageDevice := do
  let id : Int32 ← myJsValue num dev "id" (-1)
  let id := UInt8.ofInt id.toInt
  let uid ← myJsValue num dev "deviceid" ""
  let label ← myJsValue num dev "label" ""
  let receivedownmix ← myJsValue num dev "receivedownmix" false
  let senddownmix ← myJsValue num dev "senddownmix" false
  let nozita ← myJsValue num dev "nozita" false
  let hiresping ← myJsValue num dev "hiresping" false
  let channels ← subscript dev "channels"
  let (_, channels) ← (channels.array?.getD []).foldlM (readChannel num label id) (0, [])
  let position ← readPos num (← subscript dev "position")
  let orientation ← readOrientation num (← subscript dev "orientation")
  let gain ← myJsValue num dev "gain" (1 : ℚ)
  let mute ← myJsValue num dev "mute" false
  let jitter ← subscript dev "jitter"
  let receiverjitter ← myJsValue num jitter "receive" (5 : ℚ)
  let senderjitter ← myJsValue num jitter "send" (5 : ℚ)
  let sendlocal ← myJsValue num dev "sendlocal" true
  return ⟨id, uid, label, channels, position, orientation, gain, mute, senderjitter,
    receiverjitter, sendlocal, receivedownmix, senddownmix, nozita, hiresping⟩

/-- `get_stage_dev`. -/
def getStageDev (dev : Json) : Except ErrMsg StageDevice :=
  match readStageDev num dev with
  | .ok stagedev => .ok stagedev
  | .error e => .error (.getStageDev e)

/-- The devices of the member "roomdev". -/
def readStage (devs : List Json) : Except ErrMsg StageMap :=
  devs.foldlM (fun stage dev => do
    let sdev ← getStageDev num dev
    return stage.insert sdev.id sdev) OrderedMap.empty

/-- The audio device of the member "audiocfg". -/
def readAudioDevice (js : Json) : Except ErrMsg AudioDevice := do
  let drivername ← myJsValue num js "driver" "jack"
  let devicename ← myJsValue num js "device" "hw:1"
  let srate ← myJsValue num js "srate" (48000 : ℚ)
  let periodsize : Int32 ← myJsValue num js "periodsize" 96
  let numperiods : Int32 ← myJsValue num js "numperiods" 2
  let priority : Int32 ← myJsValue num js "priority" 40
  return ⟨drivername, devicename, srate, periodsize.toUInt32, numperiods.toUInt32,
    priority.toUInt32⟩

/-! ## Room and render settings -/

/-- Host, port and pin of the relay server. -/
def readRelay (js_stage : Json) : Except ErrMsg (String × Port × Secret) := do
  let host ← myJsValue num js_stage "host" ""
  let port : Int32 ← myJsValue num js_stage "port" 0
  let pin : UInt32 ← myJsValue num js_stage "pin" 0
  return (host, UInt16.ofInt port.toInt, pin)

/-- The render settings up to the ambient sound. -/
def readRoomSettings (js_stage js_rendersettings : Json) : Except ErrMsg RenderSettings := do
  let js_roomsize ← subscript js_stage "size"
  let js_reverb ← subscript js_stage "reverb"
  let d := RenderSettings.default num
  let id ← myJsValue num js_rendersettings "id" d.id
  let x ← myJsValue num js_roomsize "x" (25 : ℚ)
  let y ← myJsValue num js_roomsize "y" (13 : ℚ)
  let z ← myJsValue num js_roomsize "z" (15 / 2 : ℚ)
  let absorption ← myJsValue num js_reverb "absorption" (num.single (3 / 5))
  let damping ← myJsValue num js_reverb "damping" (num.single (7 / 10))
  let reverbgain ← myJsValue num js_reverb "gain" (num.single (2 / 5))
  let reverbgainroom ← myJsValue num js_reverb "roomgain" (num.single (2 / 5))
  let reverbgaindev ← myJsValue num js_reverb "devgain" (1 : ℚ)
  let renderreverb ← myJsValue num js_rendersettings "renderreverb" d.renderreverb
  let renderism ← myJsValue num js_rendersettings "renderism" d.renderism
  let distancelaw ← myJsValue num js_rendersettings "distancelaw" d.distancelaw
  let delaycomp ← myJsValue num js_rendersettings "delaycomp" d.delaycomp
  let decorr ← myJsValue num js_rendersettings "decorr" d.decorr
  let outputport1 ← myJsValue num js_rendersettings "outputport1" d.outputport1
  let outputport2 ← myJsValue num js_rendersettings "outputport2" d.outputport2
  let rawmode ← myJsValue num js_rendersettings "rawmode" d.rawmode
  let receive ← myJsValue num js_rendersettings "receive" d.receive
  let rectype ← myJsValue num js_rendersettings "rectype" d.rectype
  let secrec ← myJsValue num js_rendersettings "secrec" d.secrec
  let egogain ← myJsValue num js_rendersettings "egogain" d.egogain
  let outputgain ← myJsValue num js_rendersettings "outputgain" d.outputgain
  let peer2peer ← myJsValue num js_rendersettings "peer2peer" d.peer2peer
  let usetcptunnel ← myJsValue num js_rendersettings "usetcptunnel" d.usetcptunnel
  let encryption ← myJsValue num js_rendersettings "encryption" d.encryption
  let lmetertc ← myJsValue num js_rendersettings "lmetertc" d.lmetertc
  let lmeterfw ← myJsValue num js_rendersettings "lmeterfw" d.lmeterfw
  let ambientsound ← myJsValue num js_stage "ambientsound" ""
  let ambientlevel ← myJsValue num js_stage "ambientlevel" (0 : ℚ)
  let ambientsound := ovstrrep ambientsound "\\/" "/"
  return { d with
    id, roomsize := ⟨x, y, z⟩, absorption, damping, reverbgain, reverbgainroom, reverbgaindev,
    renderreverb, renderism, distancelaw, delaycomp, decorr, outputport1, outputport2, rawmode,
    receive, rectype, secrec, egogain, outputgain, peer2peer, usetcptunnel, encryption, lmetertc,
    lmeterfw, ambientsound, ambientlevel }

/-- An ambient sound file must be readable and have four channels. -/
def checkAmbient (ambient : Option ℕ) (url : String) : Except ErrMsg Unit :=
  if url ≠ "" ∧ ambient ≠ some 4 then .error (.ambientSound url ambient) else .ok ()

/-- One extra connection; entries that are no pairs of texts are left out. -/
def readXport (xports : OrderedMap String String) : Json → OrderedMap String String
  | .arr [.str key, .str dest] => if key = "" then xports else xports.insert key dest
  | _ => xports

/-- The digits at the start of a text. -/
def leadingNat (cs : List Char) : ℕ :=
  (cs.takeWhile Char.isDigit).foldl (fun n c => 10 * n + (c.toNat - '0'.toNat)) 0

/-- `atoi`. -/
def atoi (s : String) : ℤ :=
  match s.toList.dropWhile Char.isWhitespace with
  | '-' :: cs => -leadingNat cs
  | '+' :: cs => leadingNat cs
  | cs => leadingNat cs

/-- One extra receiver port; entries that are no port numbers are left out. -/
def readXrecport : Json → Option Port
  | .int i => portOf (Int32.ofInt i).toInt
  | .float q => portOf (Int32.ofInt (Json.truncate q)).toInt
  | .str s => portOf (atoi s)
  | _ => none
where
  /-- A positive number below `1 << 16`. -/
  portOf (p : ℤ) : Option Port := if 0 < p ∧ p < 2 ^ 16 then some (UInt16.ofInt p) else none

/-- The render settings behind the ambient sound. -/
def readPortSettings (js_rendersettings : Json) (rs : RenderSettings) :
    Except ErrMsg RenderSettings := do
  let js_xports ← subscript js_rendersettings "xport"
  let js_xrecports ← subscript js_rendersettings "xrecport"
  let headtracking ← myJsValue num js_rendersettings "headtracking" false
  let headtrackingserial ← myJsValue num js_rendersettings "headtrackingserial" false
  let headtrackingrotrec ← myJsValue num js_rendersettings "headtrackingrot" true
  let headtrackingrotsrc ← myJsValue num js_rendersettings "headtrackingrotsrc" true
  let headtrackingport : Int32 ← myJsValue num js_rendersettings "headtrackingport" 0
  return { rs with
    xports := (js_xports.array?.getD []).foldl readXport OrderedMap.empty
    xrecport := (js_xrecports.array?.getD []).filterMap readXrecport
    headtracking, headtrackingserial, headtrackingrotrec, headtrackingrotsrc
    headtrackingport := UInt16.ofInt headtrackingport.toInt }

/-- The render settings of a configuration. -/
def readRenderSettings (ambient : Option ℕ) (js_stage js_rendersettings : Json) :
    Except ErrMsg RenderSettings := do
  let rs ← readRoomSettings num js_stage js_rendersettings
  checkAmbient ambient rs.ambientsound
  readPortSettings num js_rendersettings rs

/-- The own id on stage. -/
def readStagedevid (js_rendersettings : Json) : Except ErrMsg StageDeviceId := do
  let id : Int32 ← myJsValue num js_rendersettings "stagedevid" 0
  return UInt8.ofInt id.toInt

/-! ## The sections of a configuration -/

/-- The restart of the audio backend that a configuration can ask for. -/
def restartAudio (reply : JackReply) : Render Unit := do
  let r ← get
  onlyIf r.sessionActive (modify Renderer.endSession)
  modify Renderer.stopAudiobackend
  Renderer.startAudiobackend num reply
  onlyIf r.sessionActive (modify Renderer.requireSessionRestart)

/-- The member "audiocfg". -/
def applyAudio (env : ConfigEnv) (js_audio : Json) : Render Unit := do
  let audio ← ofExcept (readAudioDevice num js_audio)
  Renderer.configureAudioBackend num env.configureAudio audio
  let restart ← ofExcept (myJsValue num js_audio "restart" false)
  onlyIf restart (restartAudio num env.restartAudio)

/-- The member "rendersettings" as a device. -/
def applyThisdev (js_rendersettings : Json) : Render Unit := do
  let stagedev ← ofExcept (getStageDev num js_rendersettings)
  modify (Renderer.setThisdev stagedev)

/-- The member "extracfg" of the render settings. -/
def applyExtracfg (js_rendersettings : Json) : Render Unit := do
  let js_extracfg ← ofExcept (subscript js_rendersettings "extracfg")
  onlyIf (!js_extracfg.isNull) (Renderer.setExtraConfig num js_extracfg)

/-- The member "roomdev". -/
def applyRoomdev (devcfg : Json) : Render Unit := do
  let js_stagedevs ← ofExcept (subscript devcfg "roomdev")
  match js_stagedevs.array? with
  | some devs =>
      let newstage ← ofExcept (readStage num devs)
      modify (Renderer.setStage newstage)
  | none => pure ()

/-- The member "room". -/
def applyRoom (env : ConfigEnv) (devcfg js_rendersettings js_stage : Json) : Render Unit := do
  let relay ← ofExcept (readRelay num js_stage)
  modify (Renderer.setRelayServer relay.1 relay.2.1 relay.2.2)
  let rendersettings ← ofExcept (readRenderSettings num env.ambient js_stage js_rendersettings)
  let stagedevid ← ofExcept (readStagedevid num js_rendersettings)
  modify (Renderer.setRenderSettings rendersettings stagedevid)
  applyExtracfg num js_rendersettings
  applyRoomdev num devcfg

/-- The audio backend is started where it is not active. -/
def startAudioIfNeeded (reply : JackReply) : Render Unit := do
  let r ← get
  onlyIf (!r.audioActive) (Renderer.startAudiobackend num reply)

/-- The settings of a configuration, up to the audio backend. -/
def applySettings (env : ConfigEnv) (devcfg : Json) : Render Unit := do
  let js_audio ← ofExcept (subscript devcfg "audiocfg")
  onlyIf (!js_audio.isNull) (applyAudio num env js_audio)
  let js_rendersettings ← ofExcept (subscript devcfg "rendersettings")
  onlyIf (!js_rendersettings.isNull) (applyThisdev num js_rendersettings)
  let js_stage ← ofExcept (subscript devcfg "room")
  onlyIf js_stage.isObject (applyRoom num env devcfg js_rendersettings js_stage)
  startAudioIfNeeded num env.startAudio

/-- The part of `parse_config` that works on the renderer. -/
def applyConfig (env : ConfigEnv) (devcfg : Json) : Render Unit := do
  applySettings num env devcfg
  Renderer.restartSessionIfNeeded env.fault

/-! ## Requests to quit -/

/-- A change of the operation mode makes the client quit. -/
def checkMixer (devcfg : Json) : ClientM Unit := do
  let newMixer ← ofExcept (myJsValue num devcfg "standalonemixer" false)
  let c ← get
  onlyIf (newMixer != c.standaloneMixer)
    (modify fun c => { c with standaloneMixer := newMixer, quitrequest := true })

/-- The owner of the device. -/
def checkOwner (devcfg : Json) : ClientM Unit := do
  let c ← get
  let newOwner ← ofExcept (myJsValue num devcfg "owner" c.owner)
  modify fun c => { c with owner := newOwner }

/-- The requests that make the client quit, in the order in which they are looked at. -/
def quitRequests (devcfg : Json) : List (Except ErrMsg Bool) :=
  [do return !(← subscript devcfg "frontendconfig").isNull,
    myJsValue num devcfg "firmwareupdate" false,
    myJsValue num devcfg "firmwareupdategit" false,
    myJsValue num devcfg "usedevversion" false,
    myJsValue num devcfg "installopenmha" false,
    do return (← myJsValue num devcfg "usehifiberry" "") != "",
    do
      let js_wifi ← subscript devcfg "wifisettings"
      if js_wifi.isObject then
        let _ssid ← myJsValue num js_wifi "ssid" ""
        let _passwd ← myJsValue num js_wifi "passwd" ""
        return true
      else return false]

/-- Quit where one of the requests is made. -/
def quitIfRequested : List (Except ErrMsg Bool) → ClientM Unit
  | [] => pure ()
  | request :: requests => do
      let quit ← ofExcept request
      onlyIf quit (modify fun c => { c with quitrequest := true })
      quitIfRequested requests

/-- `parse_config`. -/
def parseConfig (env : ConfigEnv) (devcfg : Json) : ClientM Unit := do
  checkMixer num devcfg
  checkOwner num devcfg
  quitIfRequested (quitRequests num devcfg)
  let c ← get
  onlyIf (!c.quitrequest)
    (onPart Client.backend (fun r c => { c with backend := r }) (applyConfig num env devcfg))

end Reading

end Libov
