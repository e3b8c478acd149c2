/-
# The renderer

The base class of the renderers (`ov_types.cc`) and the TASCAR renderer
(`ov_render_tascar.cc`): the session and the audio backend with the flags that
the client reads, the stage, and the setters that compare a new value with the
stored one.  A method that cannot throw is a function on renderers; one that can
is a program whose writes survive the exception.

The answers of the JACK server (`JackReply`) and the point at which a session
fails to start (`StartFault`) come from outside.
-/
import Libov.ExtraConfig

namespace Libov

open Programs

/-! ## State -/

/-- Lines of the console log. -/
inductive LogLine where
  | creatingSession
  | sessionStarted
  | endingSession
  | endedSession
  | startingAudio (drivername devicename : String)
  | startedAudio
  | stoppingAudio
  | stoppedAudio
  deriving DecidableEq

/-- The members of `ov_render_base_t` and `ov_render_tascar_t`. -/
structure Renderer where
  audiodevice : AudioDevice
  stage : Stage
  sessionActive : Bool
  audioActive : Bool
  restartNeeded : Bool
  /-- The JACK server has been started from here. -/
  hJack : Bool
  /-- There is a TASCAR session. -/
  tascar : Bool
  /-- There is a connection to the relay server. -/
  ovboxclient : Bool
  /-- The variables of the extra configuration. -/
  extra : ExtraVars
  localip : String
  sessionReady : Bool
  /-- What has been logged so far. -/
  log : List LogLine

/-- Programs on a renderer. -/
abbrev Render := EStateM ErrMsg Renderer

/-- What the JACK server answers. -/
structure JackReply where
  /-- A server is present within the timeout. -/
  server : Bool
  /-- The sample rate and the period size that a client reads, if one can be opened. -/
  client : Option (UInt32 × UInt32)

namespace Renderer

/-- A new renderer. -/
def init (num : Numeric) (deviceid localip : String) : Renderer where
  audiodevice := ⟨"jack", "hw:1", 48000, 96, 2, 40⟩
  stage := Stage.default num deviceid
  sessionActive := false
  audioActive := false
  restartNeeded := false
  hJack := false
  tascar := false
  ovboxclient := false
  extra := ExtraVars.default num
  localip := localip
  sessionReady := false
  log := []

/-- `console_log`. -/
def consoleLog (r : Renderer) (line : LogLine) : Renderer := { r with log := r.log ++ [line] }

/-- `require_session_restart`. -/
def requireSessionRestart (r : Renderer) : Renderer := { r with restartNeeded := true }

/-- `require_session_restart` under a condition. -/
def requireRestartIf (r : Renderer) (c : Bool) : Renderer :=
  { r with restartNeeded := r.restartNeeded || c }

/-! ## Audio backend and end of a session -/

/-- `end_session`. -/
def endSession (r : Renderer) : Renderer :=
  let r := r.consoleLog .endingSession
  let r := { r with
    sessionReady := false
    sessionActive := false
    tascar := false
    ovboxclient := false }
  r.consoleLog .endedSession

/-- `stop_audiobackend`. -/
def stopAudiobackend (r : Renderer) : Renderer :=
  let r := r.consoleLog .stoppingAudio
  let r := { r with audioActive := false, hJack := false }
  r.consoleLog .stoppedAudio

/-- The audio device with the sample rate and the period size that JACK reports. -/
def reported (num : Numeric) (reply : JackReply) (a : AudioDevice) : AudioDevice :=
  match reply.client with
  | some (rate, bufsize) => { a with srate := num.single rate.toNat, periodsize := bufsize }
  | none => a

/-- `start_audiobackend`. -/
def startAudiobackend (num : Numeric) (reply : JackReply) : Render Unit := do
  let a := (← get).audiodevice
  modify fun r => { r.consoleLog (.startingAudio a.drivername a.devicename) with
    audioActive := true }
  -- a manual backend is not started from here
  onlyIf (a.drivername == "jack" && a.devicename != "manual") do
    modify fun r => { r with hJack := true }
    throwIf (!reply.server) .audioBackend
  modify fun r => { r with audiodevice := reported num reply r.audiodevice }
  modify fun r => r.consoleLog .startedAudio

/-- What `configure_audio_backend` stops before it starts the backend again. -/
def stopForNewAudio (r : Renderer) : Renderer :=
  let r := if r.sessionActive then r.requireSessionRestart.endSession else r
  r.stopAudiobackend

/-- `configure_audio_backend`. -/
def configureAudioBackend (num : Numeric) (reply : JackReply) (audio : AudioDevice) :
    Render Unit := do
  let r ← get
  onlyIf (r.audiodevice.ne audio || !r.audioActive) do
    -- other parameters are ignored if set to "manual"
    let noRestart := r.audiodevice.devicename == "manual" && audio.devicename == "manual"
    modify fun r => { r with audiodevice := audio }
    onlyIf (!noRestart && r.audioActive) (modify stopForNewAudio)
    onlyIf (!noRestart) (startAudiobackend num reply)
    modify fun r => { r with audioActive := true }

/-! ## Start of a session -/

/-- The content of the include file. -/
def tscinclude (r : Renderer) : String := r.extra .tscinclude

/-- The proxy clients. -/
def proxyclients (r : Renderer) : OrderedMap StageDeviceId String := r.extra .proxyclients

/-- The device on stage under the own id, as `start_session` finds or adds it. -/
def ownDevice (st : Stage) : StageDevice :=
  (st.stage.find? st.thisstagedeviceid).getD StageDevice.zero

/-- The receiver is placed where the device with the id of the render settings
stands: virtual acoustics is rendered and the own device sends. -/
def placesReceiver (st : Stage) : Bool :=
  !(st.rendersettings.rawmode || st.thisdevice.receivedownmix) && st.rendersettings.receive &&
    !(ownDevice st).channels.isEmpty && !(ownDevice st).senddownmix

/-- The devices on stage after `start_session` has looked up the own device and,
where it places the receiver, the device of the render settings by `operator[]`. -/
def lookedUp (st : Stage) : StageMap :=
  let own := st.stage.touch st.thisstagedeviceid StageDevice.zero
  if placesReceiver st then own.touch st.rendersettings.id StageDevice.zero else own

/-- The calls of `add_proxy_client` from the client at position `k` on. -/
def addProxyClients (fault : Option StartFault) : ℕ → List (StageDeviceId × String) → Render Unit
  | _, [] => pure ()
  | k, _ :: clients => do
      throwIf (fault = some (.proxyClient k)) (.session (.proxyClient k))
      addProxyClients fault (k + 1) clients

/-- The connection to the relay server that `start_session` sets up. -/
def startOvboxclient (fault : Option StartFault) : Render Unit := do
  modify fun r => { r with stage := { r.stage with stage := lookedUp r.stage } }
  throwIf (fault = some .ovboxclient) (.session .ovboxclient)
  modify fun r => { r with ovboxclient := true }
  addProxyClients fault 0 (← get).proxyclients.entries

/-- `start_session` of the base class. -/
def baseStartSession (r : Renderer) : Renderer :=
  { r with sessionActive := true, restartNeeded := false }

/-- The exception handler deletes the TASCAR session and the connection and throws
again. -/
def startTascar (fault : Option StartFault) : Render Unit := do
  modify fun r => { r with tascar := true }
  onlyIf (fault = some .start) do
    modify fun r => { r with tascar := false, ovboxclient := false }
    throw (.session .start)

/-- `start_session`. -/
def startSession (fault : Option StartFault) : Render Unit := do
  modify fun r => r.consoleLog .creatingSession
  -- both flags are set before anything can fail
  modify baseStartSession
  let r ← get
  onlyIf (r.stage.host != "") (startOvboxclient fault)
  throwIf (fault = some .tscinclude && r.tscinclude != "") (.session .tscinclude)
  throwIf (fault = some .load) (.session .load)
  startTascar fault
  modify fun r => { r with sessionReady := true }
  modify fun r => r.consoleLog .sessionStarted

/-- `restart_session_if_needed`. -/
def restartSessionIfNeeded (fault : Option StartFault) : Render Unit := do
  let r ← get
  if r.restartNeeded then
    onlyIf r.sessionActive (modify endSession)
    startSession fault
  else
    onlyIf (!r.sessionActive) (startSession fault)

/-! ## Setters -/

/-- `set_relay_server`. -/
def setRelayServer (host : String) (port : Port) (pin : Secret) (r : Renderer) : Renderer :=
  let restart := r.sessionActive &&
    (r.stage.host != host || r.stage.port != port || r.stage.pin != pin)
  let r := { r with stage := { r.stage with host := host, port := port, pin := pin } }
  -- ended at once, not with the next start
  if restart then r.endSession.requireSessionRestart else r

/-- `set_thisdev`. -/
def setThisdev (stagedevice : StageDevice) (r : Renderer) : Renderer :=
  let r := r.requireRestartIf (stagedevice.ne r.stage.thisdevice)
  { r with stage := { r.stage with thisdevice := stagedevice } }

/-- A change of the devices on stage, which requires a new session where the stage
becomes a different one. -/
def changeStage (change : StageMap → StageMap) (r : Renderer) : Renderer :=
  let pStage := r.stage.stage
  let r := { r with stage := { r.stage with stage := change r.stage.stage } }
  r.requireRestartIf (stageMapNe pStage r.stage.stage && r.sessionActive)

/-- `add_stage_device`. -/
def addStageDevice (stagedevice : StageDevice) : Renderer → Renderer :=
  changeStage fun m => m.insert stagedevice.id stagedevice

/-- `rm_stage_device`. -/
def rmStageDevice (stagedeviceid : StageDeviceId) : Renderer → Renderer :=
  changeStage fun m => m.erase stagedeviceid

/-- `set_stage`. -/
def setStage (s : StageMap) : Renderer → Renderer := changeStage fun _ => s

/-- `clear_stage`. -/
def clearStage (r : Renderer) : Renderer :=
  let r := { r with stage := { r.stage with stage := OrderedMap.empty } }
  if r.sessionActive then r.endSession else r

/-- `set_stage_device_gain`; with a session at hand the gains of its ports are set,
and the device is looked up for that by `operator[]`. -/
def setStageDeviceGain (stagedeviceid : StageDeviceId) (gain : ℚ) (r : Renderer) : Renderer :=
  let m := match r.stage.stage.find? stagedeviceid with
    | some dev => r.stage.stage.insert stagedeviceid { dev with gain := gain }
    | none => r.stage.stage
  let m := if r.sessionActive && r.tascar then m.touch stagedeviceid StageDevice.zero else m
  { r with stage := { r.stage with stage := m } }

/-- `set_render_settings`. -/
def setRenderSettings (rendersettings : RenderSettings) (thisstagedeviceid : StageDeviceId)
    (r : Renderer) : Renderer :=
  if rendersettings.ne r.stage.rendersettings ||
      thisstagedeviceid != r.stage.thisstagedeviceid then
    { r with stage := { r.stage with
        rendersettings := rendersettings
        thisstagedeviceid := thisstagedeviceid } }.requireSessionRestart
  else r

/-- `set_extra_config`. -/
def setExtraConfig (num : Numeric) (xcfg : Json) : Render Unit :=
  wrapping .setExtraConfig do
    let localip := (← get).localip
    let restart ← onPart extra (fun vars r => { r with extra := vars })
      (applyUpdates (extraUpdates num localip xcfg) false)
    modify fun r => r.requireRestartIf (r.sessionActive && restart)

end Renderer

end Libov
