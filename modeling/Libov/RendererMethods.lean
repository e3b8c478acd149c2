/-
# What the methods of the renderer do

The outcome of `start_session` for every fault on its way, the properties that the
methods keep, what is stored after a configuration of the audio backend, and the
setters that find nothing to do.
-/
import Libov.RenderTascar

namespace Libov

open Programs

namespace Renderer

/-! ## The outcome of `start_session` -/

/-- The fault lies on the way to a connection with the relay server. -/
def connectionFails (r : Renderer) : Option StartFault → Bool
  | some .ovboxclient => r.stage.host != ""
  | some (.proxyClient k) => r.stage.host != "" && k < r.proxyclients.entries.length
  | _ => false

/-- The fault lies on the way that `start_session` takes. -/
def startFails (r : Renderer) (fault : Option StartFault) : Bool :=
  r.connectionFails fault || (fault = some .tscinclude && r.tscinclude != "") ||
    fault = some .load || fault = some .start

/-- The stage with the devices that a start looks up. -/
def stageAtStart (r : Renderer) : Stage :=
  if r.stage.host != "" then { r.stage with stage := lookedUp r.stage } else r.stage

/-- The renderer after a start without a fault. -/
def started (r : Renderer) : Renderer :=
  { r with
    stage := r.stageAtStart
    sessionActive := true
    restartNeeded := false
    tascar := true
    ovboxclient := r.stage.host != "" || r.ovboxclient
    sessionReady := true
    log := r.log ++ [.creatingSession] ++ [.sessionStarted] }

/-- Proxy clients are added without an exception if none of them is where the start fails. -/
theorem addProxyClients_ok {fault : Option StartFault} {k : ℕ}
    {clients : List (StageDeviceId × String)} (r : Renderer)
    (h : ∀ j, k ≤ j → j < k + clients.length → fault ≠ some (.proxyClient j)) :
    addProxyClients fault k clients r = .ok () r := by
  induction clients generalizing k with
  | nil => rfl
  | cons c clients ih =>
      have hk : fault ≠ some (.proxyClient k) := by
        apply h k (Nat.le_refl k)
        rw [List.length_cons]
        omega
      rw [addProxyClients, bind_of_ok (throwIf_of_false (decide_eq_false hk) _ _)]
      apply ih
      intro j hj hlt
      apply h j (by omega)
      rw [List.length_cons]
      omega

/-- The start fails at the client it is said to fail at. -/
theorem addProxyClients_throws {k j : ℕ} {clients : List (StageDeviceId × String)} (r : Renderer)
    (hj : k ≤ j) (hlt : j < k + clients.length) :
    Throws (addProxyClients (some (.proxyClient j)) k clients) r := by
  induction clients generalizing k with
  | nil =>
      rw [List.length_nil] at hlt
      omega
  | cons c clients ih =>
      rw [List.length_cons] at hlt
      rw [addProxyClients]
      by_cases hk : j = k
      · apply throws_bind_left
        apply throws_throwIf
        rw [hk, decide_eq_true_eq]
      · have hne : ¬ (some (StartFault.proxyClient j) = some (.proxyClient k)) := by
          simpa only [Option.some.injEq, StartFault.proxyClient.injEq] using hk
        apply throws_bind_right (throwIf_of_false (decide_eq_false hne) _ _)
        exact ih (by omega) (by omega)

/-- The connection is set up where neither its constructor nor a proxy client fails. -/
theorem startOvboxclient_ok {fault : Option StartFault} {r : Renderer} (hhost : r.stage.host ≠ "")
    (h : r.connectionFails fault = false) :
    startOvboxclient fault r
      = .ok () { r with
          stage := { r.stage with stage := lookedUp r.stage }
          ovboxclient := true } := by
  have hctor : fault ≠ some .ovboxclient := by
    rintro rfl
    rw [connectionFails, bne_eq_false_iff_eq] at h
    exact hhost h
  rw [startOvboxclient, modify_bind_apply,
    bind_of_ok (throwIf_of_false (decide_eq_false hctor) _ _), modify_bind_apply, get_bind_apply]
  apply addProxyClients_ok
  intro j _ hlt
  rintro rfl
  rw [connectionFails, bne_iff_ne.2 hhost, Bool.true_and, decide_eq_false_iff_not] at h
  rw [Nat.zero_add] at hlt
  exact h hlt

/-- The constructor throws, or one of the proxy clients does. -/
theorem startOvboxclient_throws {fault : Option StartFault} {r : Renderer}
    (h : r.connectionFails fault = true) : Throws (startOvboxclient fault) r := by
  rw [startOvboxclient]
  refine throws_bind_right (modify_apply _ _) ?_
  rcases fault with _ | _ | k | _ | _ | _
  · cases h
  · apply throws_bind_left
    exact throws_throwIf (by decide) _ _
  · rw [connectionFails, Bool.and_eq_true, decide_eq_true_eq] at h
    have hctor : ¬ (some (StartFault.proxyClient k) = some .ovboxclient) := by
      rw [Option.some.injEq]
      intro hk
      cases hk
    refine throws_bind_right (throwIf_of_false (decide_eq_false hctor) _ _) ?_
    refine throws_bind_right (modify_apply _ _) ?_
    refine throws_bind_right (get_apply _) ?_
    apply addProxyClients_throws _ (Nat.zero_le k)
    rw [Nat.zero_add]
    exact h.2
  · cases h
  · cases h
  · cases h

/-- The connection with the branch for a stage without a host. -/
theorem connection_ok {fault : Option StartFault} {r : Renderer}
    (h : r.connectionFails fault = false) :
    onlyIf (r.stage.host != "") (startOvboxclient fault) r
      = .ok () { r with
          stage := r.stageAtStart
          ovboxclient := r.stage.host != "" || r.ovboxclient } := by
  rw [stageAtStart]
  by_cases hhost : r.stage.host = ""
  · rw [bne_eq_false_iff_eq.2 hhost, onlyIf_of_false rfl, if_neg Bool.false_ne_true,
      Bool.false_or]
    rfl
  · rw [bne_iff_ne.2 hhost, onlyIf_of_true rfl, startOvboxclient_ok hhost h, if_pos rfl,
      Bool.true_or]

/-- The connection to the relay server is made for a stage with a host only. -/
theorem connection_throws {fault : Option StartFault} {r : Renderer}
    (h : r.connectionFails fault = true) :
    Throws (onlyIf (r.stage.host != "") (startOvboxclient fault)) r := by
  have hhost : (r.stage.host != "") = true := by
    rcases fault with _ | _ | k | _ | _ | _
    · cases h
    · exact h
    · rw [connectionFails, Bool.and_eq_true] at h
      exact h.1
    · cases h
    · cases h
    · cases h
  rw [onlyIf_of_true hhost]
  exact startOvboxclient_throws h

/-- A start returns with a session where no fault lies on its way. -/
theorem startSession_ok {fault : Option StartFault} {r : Renderer}
    (h : r.startFails fault = false) : startSession fault r = .ok () r.started := by
  simp only [startFails, Bool.or_eq_false_iff] at h
  obtain ⟨⟨⟨hconn, hinc⟩, hload⟩, hstart⟩ := h
  have hopen : (r.consoleLog .creatingSession).baseStartSession.connectionFails fault = false :=
    hconn
  have hopeninc : (fault = some .tscinclude &&
      (r.consoleLog .creatingSession).baseStartSession.tscinclude != "") = false := hinc
  rw [startSession, modify_bind_apply, modify_bind_apply, get_bind_apply,
    bind_of_ok (connection_ok hopen), bind_of_ok (throwIf_of_false hopeninc _ _),
    bind_of_ok (throwIf_of_false hload _ _), startTascar, onlyIf_of_false hstart]
  rfl

/-- A fault on the way makes the start throw. -/
theorem startSession_throws {fault : Option StartFault} {r : Renderer}
    (h : r.startFails fault = true) : Throws (startSession fault) r := by
  rw [startSession]
  refine throws_bind_right (modify_apply _ _) ?_
  refine throws_bind_right (modify_apply _ _) ?_
  refine throws_bind_right (get_apply _) ?_
  -- setting the flags does not change what can fail
  have hopen : (r.consoleLog .creatingSession).baseStartSession.startFails fault = true := h
  generalize (r.consoleLog .creatingSession).baseStartSession = r at hopen ⊢
  cases hconn : r.connectionFails fault with
  | true => exact throws_bind_left (connection_throws hconn) _
  | false =>
      refine throws_bind_right (connection_ok hconn) ?_
      cases hinc : (fault = some .tscinclude && r.tscinclude != "" : Bool) with
      | true => exact throws_bind_left (throws_throwIf rfl _ _) _
      | false =>
          refine throws_bind_right (throwIf_of_false rfl _ _) ?_
          rw [startFails, hconn, hinc, Bool.false_or, Bool.false_or, Bool.or_eq_true] at hopen
          by_cases hload : fault = some .load
          · exact throws_bind_left (throws_throwIf (decide_eq_true hload) _ _) _
          · have hstart : (decide (fault = some .start)) = true := by
              rcases hopen with h | h
              · exact absurd (of_decide_eq_true h) hload
              · exact h
            refine throws_bind_right (throwIf_of_false (decide_eq_false hload) _ _) ?_
            apply throws_bind_left
            rw [startTascar, onlyIf_of_true hstart]
            exact ⟨_, _, rfl⟩

/-- A start throws exactly where it is said to fail: what stands in front of that point does not
matter. -/
theorem throws_startSession_iff (fault : Option StartFault) (r : Renderer) :
    Throws (startSession fault) r ↔ r.startFails fault = true := by
  constructor
  · intro hthrows
    by_contra hfail
    rw [Bool.not_eq_true] at hfail
    exact not_throws_of_ok (startSession_ok hfail) hthrows
  · exact startSession_throws

/-- With a running session and no restart requested nothing happens. -/
theorem restartSessionIfNeeded_idle (fault : Option StartFault) {r : Renderer}
    (hactive : r.sessionActive = true) (hrestart : r.restartNeeded = false) :
    restartSessionIfNeeded fault r = .ok () r := by
  rw [restartSessionIfNeeded, get_bind_apply, hrestart, if_neg Bool.false_ne_true, hactive]
  rfl

/-- Where there is something to do, `restart_session_if_needed` starts a session, from a
renderer without one. -/
theorem restartSessionIfNeeded_starts (fault : Option StartFault) {r : Renderer}
    (h : (r.restartNeeded || !r.sessionActive) = true) :
    restartSessionIfNeeded fault r
      = startSession fault (if r.sessionActive then r.endSession else r) := by
  rw [restartSessionIfNeeded, get_bind_apply]
  cases hrestart : r.restartNeeded with
  | true =>
      rw [if_pos rfl]
      cases r.sessionActive with
      | true => rfl
      | false => rfl
  | false =>
      rw [hrestart, Bool.false_or, Bool.not_eq_true'] at h
      rw [if_neg Bool.false_ne_true, h]
      rfl

/-! ## What the methods keep -/

/-- A property of the renderer that no method except `start_session` breaks: it does
not depend on the stage, the extra configuration, the audio backend and lines of the
log other than that of a started session, and a required restart or the end of a
session leaves it true. -/
structure Stable (P : Renderer → Prop) : Prop where
  log : ∀ {r : Renderer} {line : LogLine}, line ≠ .sessionStarted → P r → P (r.consoleLog line)
  audio : ∀ {r : Renderer} (a : AudioDevice) (active jack : Bool), P r →
    P { r with audiodevice := a, audioActive := active, hJack := jack }
  stage : ∀ {r : Renderer} (st : Stage), P r → P { r with stage := st }
  extra : ∀ {r : Renderer} (vars : ExtraVars), P r → P { r with extra := vars }
  restart : ∀ {r : Renderer} (c : Bool), P r → P (r.requireRestartIf c)
  ended : ∀ {r : Renderer}, P r → P { r with
    sessionReady := false, sessionActive := false, tascar := false, ovboxclient := false }

namespace Stable

variable {P : Renderer → Prop} (h : Stable P) {r : Renderer}

include h

/-- A request for a restart keeps the property. -/
theorem requireSessionRestart (hr : P r) : P r.requireSessionRestart := by
  have hrequired := h.restart true hr
  rwa [requireRestartIf, Bool.or_true] at hrequired

/-- So does the end of a session. -/
theorem endSession (hr : P r) : P r.endSession := by
  apply h.log (by decide)
  apply h.ended
  exact h.log (by decide) hr

/-- The stop of the audio backend keeps it as well. -/
theorem stopAudiobackend (hr : P r) : P r.stopAudiobackend := by
  apply h.log (by decide)
  apply h.audio r.audiodevice false false
  exact h.log (by decide) hr

/-- What a new audio device needs to be stopped keeps the property, too. -/
theorem stopForNewAudio (hr : P r) : P r.stopForNewAudio := by
  rw [Renderer.stopForNewAudio]
  apply h.stopAudiobackend
  split
  · exact h.endSession (h.requireSessionRestart hr)
  · exact hr

/-- The audio backend starts, or JACK refuses, and the property stays. -/
theorem startAudiobackend (num : Numeric) (reply : JackReply) :
    Keeps P (startAudiobackend num reply) := by
  rw [Renderer.startAudiobackend]
  refine Keeps.bind Keeps.of_get ?_
  intro r
  refine Keeps.bind (Keeps.of_modify ?_) ?_
  · intro r' hr'
    exact h.audio _ true r'.hJack (h.log (by rintro ⟨⟩) hr')
  intro _
  refine Keeps.bind (Keeps.onlyIf (Keeps.bind (Keeps.of_modify ?_) fun _ => Keeps.throwIf _ _)) ?_
  · intro r' hr'
    exact h.audio r'.audiodevice r'.audioActive true hr'
  intro _
  refine Keeps.bind (Keeps.of_modify ?_) ?_
  · intro r' hr'
    exact h.audio _ r'.audioActive r'.hJack hr'
  intro _
  exact Keeps.of_modify fun r' hr' => h.log (by decide) hr'

/-- A new audio device keeps the property, whatever JACK answers. -/
theorem configureAudioBackend (num : Numeric) (reply : JackReply) (audio : AudioDevice) :
    Keeps P (configureAudioBackend num reply audio) := by
  rw [Renderer.configureAudioBackend]
  refine Keeps.bind Keeps.of_get ?_
  intro r
  refine Keeps.onlyIf ?_
  refine Keeps.bind (Keeps.of_modify ?_) ?_
  · intro r' hr'
    exact h.audio audio r'.audioActive r'.hJack hr'
  intro _
  refine Keeps.bind (Keeps.onlyIf (Keeps.of_modify fun r' hr' => h.stopForNewAudio hr')) ?_
  intro _
  refine Keeps.bind (Keeps.onlyIf (h.startAudiobackend num reply)) ?_
  intro _
  exact Keeps.of_modify fun r' hr' => h.audio r'.audiodevice true r'.hJack hr'

/-- A new relay server may end the session, and keeps the property. -/
theorem setRelayServer (host : String) (port : Port) (pin : Secret) (hr : P r) :
    P (setRelayServer host port pin r) := by
  rw [Renderer.setRelayServer]
  split
  · apply h.requireSessionRestart
    apply h.endSession
    exact h.stage _ hr
  · exact h.stage _ hr

/-- A new description of this device asks for a restart at most. -/
theorem setThisdev (stagedevice : StageDevice) (hr : P r) : P (setThisdev stagedevice r) :=
  h.stage _ (h.restart _ hr)

/-- So does any change of the devices on stage. -/
theorem changeStage (change : StageMap → StageMap) (hr : P r) : P (changeStage change r) :=
  h.restart _ (h.stage _ hr)

/-- The stage is cleared. -/
theorem clearStage (hr : P r) : P r.clearStage := by
  rw [Renderer.clearStage]
  split
  · exact h.endSession (h.stage _ hr)
  · exact h.stage _ hr

/-- New render settings ask for a restart at most. -/
theorem setRenderSettings (rendersettings : RenderSettings) (thisstagedeviceid : StageDeviceId)
    (hr : P r) : P (setRenderSettings rendersettings thisstagedeviceid r) := by
  rw [Renderer.setRenderSettings]
  split
  · exact h.requireSessionRestart (h.stage _ hr)
  · exact hr

/-- A rejected configuration has assigned some of its values; the property does not depend
on them. -/
theorem setExtraConfig (num : Numeric) (xcfg : Json) : Keeps P (setExtraConfig num xcfg) := by
  rw [Renderer.setExtraConfig]
  refine Keeps.wrapping _ ?_
  refine Keeps.bind Keeps.of_get ?_
  intro r
  refine Keeps.bind (Keeps.onPart ?_ _) ?_
  · intro vars r' hr'
    exact h.extra vars hr'
  intro restart
  exact Keeps.of_modify fun r' hr' => h.restart _ hr'

end Stable

/-- A property that does not depend on what `start_session` writes behind the flags. -/
structure StartStable (P : Renderer → Prop) : Prop where
  log : ∀ {r : Renderer} (line : LogLine), P r → P (r.consoleLog line)
  stage : ∀ {r : Renderer} (st : Stage), P r → P { r with stage := st }
  session : ∀ {r : Renderer} (tascar ovboxclient ready : Bool), P r →
    P { r with tascar := tascar, ovboxclient := ovboxclient, sessionReady := ready }

namespace StartStable

variable {P : Renderer → Prop} (h : StartStable P)

/-- Adding proxy clients writes no member of the renderer. -/
theorem addProxyClients (P : Renderer → Prop) (fault : Option StartFault) (k : ℕ)
    (clients : List (StageDeviceId × String)) : Keeps P (addProxyClients fault k clients) := by
  induction clients generalizing k with
  | nil => exact Keeps.of_pure _
  | cons c clients ih => exact Keeps.bind (Keeps.throwIf _ _) fun _ => ih (k + 1)

include h

/-- The constructor of the client writes the stage and a flag of its own, on which the property does
not depend. -/
theorem startOvboxclient (fault : Option StartFault) : Keeps P (startOvboxclient fault) := by
  rw [Renderer.startOvboxclient]
  refine Keeps.bind (Keeps.of_modify fun r hr => h.stage _ hr) ?_
  intro _
  refine Keeps.bind (Keeps.throwIf _ _) ?_
  intro _
  refine Keeps.bind (Keeps.of_modify fun r hr => h.session r.tascar true r.sessionReady hr) ?_
  intro _
  refine Keeps.bind Keeps.of_get ?_
  intro r
  exact addProxyClients P fault 0 _

/-- The session of TASCAR is loaded, or given up again; the property does not depend on it
either. -/
theorem startTascar (fault : Option StartFault) : Keeps P (startTascar fault) := by
  rw [Renderer.startTascar]
  refine Keeps.bind (Keeps.of_modify fun r hr => h.session true r.ovboxclient r.sessionReady hr) ?_
  intro _
  refine Keeps.onlyIf (Keeps.bind (Keeps.of_modify ?_) fun _ => Keeps.of_throw _)
  intro r hr
  exact h.session false false r.sessionReady hr

/-- Whether a start returns or throws, what holds once the flags are set holds behind it. -/
theorem startSession (fault : Option StartFault) {r : Renderer}
    (hopen : P (r.consoleLog .creatingSession).baseStartSession) :
    P (stateAfter (startSession fault) r) := by
  rw [Renderer.startSession, stateAfter, modify_bind_apply, modify_bind_apply]
  refine Keeps.bind Keeps.of_get ?_ _ hopen
  intro r'
  refine Keeps.bind (Keeps.onlyIf (h.startOvboxclient fault)) ?_
  intro _
  refine Keeps.bind (Keeps.throwIf _ _) ?_
  intro _
  refine Keeps.bind (Keeps.throwIf _ _) ?_
  intro _
  refine Keeps.bind (h.startTascar fault) ?_
  intro _
  refine Keeps.bind (Keeps.of_modify fun r hr => h.session r.tascar r.ovboxclient true hr) ?_
  intro _
  exact Keeps.of_modify fun r hr => h.log _ hr

end StartStable

/-! ## What the setters store -/

/-- Audio backend and extra configuration of two renderers are the same. -/
structure SameBackend (r r' : Renderer) : Prop where
  audiodevice : r'.audiodevice = r.audiodevice
  audioActive : r'.audioActive = r.audioActive
  extra : r'.extra = r.extra
  localip : r'.localip = r.localip

/-- The relay server is stored, whether it has changed or not. -/
theorem setRelayServer_stage (host : String) (port : Port) (pin : Secret) (r : Renderer) :
    (setRelayServer host port pin r).stage
      = { r.stage with host := host, port := port, pin := pin } := by
  rw [setRelayServer]
  split
  · rfl
  · rfl

/-- What is stored for the audio backend is not touched by it. -/
theorem sameBackend_setRelayServer (host : String) (port : Port) (pin : Secret) (r : Renderer) :
    SameBackend r (setRelayServer host port pin r) := by
  rw [setRelayServer]
  split
  · exact ⟨rfl, rfl, rfl, rfl⟩
  · exact ⟨rfl, rfl, rfl, rfl⟩

/-- The render settings are stored with the id of this device. -/
theorem setRenderSettings_stage (rs : RenderSettings) (id : StageDeviceId) (r : Renderer) :
    (setRenderSettings rs id r).stage
      = { r.stage with rendersettings := rs, thisstagedeviceid := id } := by
  rw [setRenderSettings]
  cases hne : (rs.ne r.stage.rendersettings || id != r.stage.thisstagedeviceid) with
  | true => rfl
  | false =>
      rw [Bool.or_eq_false_iff, RenderSettings.ne_eq_false_iff, bne_eq_false_iff_eq] at hne
      rw [if_neg Bool.false_ne_true, hne.1, hne.2]

/-- They have nothing to do with the audio backend either. -/
theorem sameBackend_setRenderSettings (rs : RenderSettings) (id : StageDeviceId) (r : Renderer) :
    SameBackend r (setRenderSettings rs id r) := by
  rw [setRenderSettings]
  split
  · exact ⟨rfl, rfl, rfl, rfl⟩
  · exact ⟨rfl, rfl, rfl, rfl⟩

/-! ## Setters that find nothing to do -/

/-- A restart that is not required is not asked for. -/
theorem requireRestartIf_false (r : Renderer) : r.requireRestartIf false = r := by
  rw [requireRestartIf, Bool.or_false]

/-- The description of this device that the renderer has already changes nothing. -/
theorem setThisdev_same (r : Renderer) : setThisdev r.stage.thisdevice r = r := by
  rw [setThisdev, StageDevice.ne_self]
  show { r.requireRestartIf false with
    stage := { (r.requireRestartIf false).stage with thisdevice := r.stage.thisdevice } } = r
  rw [requireRestartIf_false]

/-- Nor does its own relay server. -/
theorem setRelayServer_same (r : Renderer) :
    setRelayServer r.stage.host r.stage.port r.stage.pin r = r := by
  rw [setRelayServer]
  simp only [bne_self_eq_false, Bool.or_self, Bool.and_false, Bool.false_eq_true, if_false]

/-- Nor do its own render settings. -/
theorem setRenderSettings_same (r : Renderer) :
    setRenderSettings r.stage.rendersettings r.stage.thisstagedeviceid r = r := by
  rw [setRenderSettings, RenderSettings.ne_self, bne_self_eq_false, Bool.or_self,
    if_neg Bool.false_ne_true]

/-- Nor does its own stage. -/
theorem setStage_same (r : Renderer) : setStage r.stage.stage r = r := by
  rw [setStage, changeStage]
  show r.requireRestartIf (stageMapNe r.stage.stage r.stage.stage && r.sessionActive) = r
  rw [stageMapNe_self, Bool.false_and, requireRestartIf_false]

/-- A different stage requires a new session. -/
theorem setStage_differs {r : Renderer} {s : StageMap} (hactive : r.sessionActive = true)
    (h : stageMapNe r.stage.stage s = true) :
    (setStage s r).sessionActive = true ∧ (setStage s r).restartNeeded = true := by
  refine ⟨hactive, ?_⟩
  show (r.restartNeeded || (stageMapNe r.stage.stage s && r.sessionActive)) = true
  rw [h, hactive, Bool.and_self, Bool.or_true]

/-- A configuration whose values are all there already is taken and changes nothing. -/
theorem setExtraConfig_settled {num : Numeric} {xcfg : Json} {r : Renderer}
    (h : Settled (extraUpdates num r.localip xcfg) r.extra) :
    setExtraConfig num xcfg r = .ok () r := by
  rw [setExtraConfig, wrapping_eq_ok, get_bind_apply]
  have hpart : onPart extra (fun vars r => { r with extra := vars })
      (applyUpdates (extraUpdates num r.localip xcfg) false) r = .ok false r := by
    rw [onPart, applyUpdates_settled h]
  rw [bind_of_ok hpart, modify_apply, Bool.and_false, requireRestartIf_false]

/-- After the extra configuration every variable has the value read for it. -/
theorem setExtraConfig_settles {num : Numeric} {xcfg : Json} {r r' : Renderer}
    (h : setExtraConfig num xcfg r = .ok () r') :
    Settled (extraUpdates num r'.localip xcfg) r'.extra ∧ r'.localip = r.localip ∧
      r'.stage = r.stage ∧ r'.audiodevice = r.audiodevice ∧ r'.audioActive = r.audioActive := by
  rw [setExtraConfig, wrapping_eq_ok, get_bind_apply, bind_eq_ok] at h
  obtain ⟨restart, r₁, hpart, h⟩ := h
  obtain ⟨vars, happly, rfl⟩ := onPart_eq_ok.1 hpart
  cases h
  exact ⟨settled_applyUpdates (nodup_extraUpdates num r.localip xcfg) happly, rfl, rfl, rfl, rfl⟩

/-! ## The audio backend -/

/-- The audio device that is active already changes nothing, whatever JACK would answer. -/
theorem configureAudioBackend_same (num : Numeric) (reply : JackReply) {r : Renderer}
    (hactive : r.audioActive = true) :
    configureAudioBackend num reply r.audiodevice r = .ok () r := by
  rw [configureAudioBackend, get_bind_apply, AudioDevice.ne_self, hactive]
  rfl

/-- With a device that is "manual" before and after, only the description is stored. -/
theorem configureAudioBackend_manual (num : Numeric) (reply : JackReply) {r : Renderer}
    {audio : AudioDevice} (hactive : r.audioActive = true)
    (hold : r.audiodevice.devicename = "manual") (hnew : audio.devicename = "manual") :
    configureAudioBackend num reply audio r = .ok () { r with audiodevice := audio } := by
  rw [configureAudioBackend, get_bind_apply]
  cases hne : (r.audiodevice.ne audio || !r.audioActive) with
  | false =>
      rw [Bool.or_eq_false_iff, AudioDevice.ne_eq_false_iff] at hne
      rw [onlyIf_of_false rfl, ← hne.1]
      rfl
  | true =>
      rw [onlyIf_of_true rfl, hold, hnew, modify_bind_apply, beq_self_eq_true, Bool.and_self,
        Bool.not_true, Bool.false_and, onlyIf_of_false rfl, onlyIf_of_false rfl]
      show EStateM.Result.ok () _ = _
      rw [← hactive]

/-- Stage and extra configuration of two renderers are the same. -/
structure SameSettings (r r' : Renderer) : Prop where
  stage : r'.stage = r.stage
  extra : r'.extra = r.extra
  localip : r'.localip = r.localip

/-- Stopping leaves the device and the settings alone. -/
theorem stopForNewAudio_stores (r : Renderer) :
    r.stopForNewAudio.audiodevice = r.audiodevice ∧ SameSettings r r.stopForNewAudio := by
  rw [stopForNewAudio]
  cases r.sessionActive with
  | true => exact ⟨rfl, rfl, rfl, rfl⟩
  | false => exact ⟨rfl, rfl, rfl, rfl⟩

/-- The audio backend after a start: it is active, with the device that JACK reports. -/
theorem startAudiobackend_stores {num : Numeric} {reply : JackReply} {r r' : Renderer}
    (h : startAudiobackend num reply r = .ok () r') :
    r'.audioActive = true ∧ r'.audiodevice = reported num reply r.audiodevice ∧
      SameSettings r r' := by
  rw [startAudiobackend, get_bind_apply, modify_bind_apply] at h
  cases hspawn :
      (r.audiodevice.drivername == "jack" && r.audiodevice.devicename != "manual" : Bool) with
  | false =>
      rw [hspawn, onlyIf_of_false rfl] at h
      cases h
      exact ⟨rfl, rfl, rfl, rfl, rfl⟩
  | true =>
      rw [hspawn, onlyIf_of_true rfl, bind_eq_ok] at h
      obtain ⟨_, r₁, hserver, h⟩ := h
      cases hreply : reply.server with
      | false =>
          rw [modify_bind_apply, throwIf_of_true (by rw [hreply]; rfl)] at hserver
          cases hserver
      | true =>
          rw [modify_bind_apply, throwIf_of_false (by rw [hreply]; rfl)] at hserver
          cases hserver
          cases h
          exact ⟨rfl, rfl, rfl, rfl, rfl⟩

/-- The device that is stored after a configuration of the audio backend. -/
def storedAudio (num : Numeric) (reply : JackReply) (audio : AudioDevice) (r : Renderer) :
    AudioDevice :=
  if (r.audioActive = true ∧ r.audiodevice = audio) ∨
      (r.audiodevice.devicename = "manual" ∧ audio.devicename = "manual") then audio
  else reported num reply audio

/-- Behind a call that returns the audio backend is active, with the device of the call or what JACK
reports of it, and the settings are those from before. -/
theorem configureAudioBackend_stores {num : Numeric} {reply : JackReply} {audio : AudioDevice}
    {r r' : Renderer} (h : configureAudioBackend num reply audio r = .ok () r') :
    r'.audioActive = true ∧ r'.audiodevice = storedAudio num reply audio r ∧
      SameSettings r r' := by
  rw [storedAudio]
  by_cases hsame : r.audioActive = true ∧ r.audiodevice = audio
  · obtain ⟨hactive, rfl⟩ := hsame
    rw [configureAudioBackend_same num reply hactive] at h
    cases h
    refine ⟨hactive, ?_, rfl, rfl, rfl⟩
    rw [if_pos (Or.inl ⟨hactive, rfl⟩)]
  · have hne : (r.audiodevice.ne audio || !r.audioActive) = true := by
      rw [← Bool.not_eq_false, Bool.or_eq_false_iff, AudioDevice.ne_eq_false_iff,
        Bool.not_eq_false']
      intro hboth
      exact hsame ⟨hboth.2, hboth.1⟩
    rw [configureAudioBackend, get_bind_apply, hne, onlyIf_of_true rfl, modify_bind_apply] at h
    cases hman : (r.audiodevice.devicename == "manual" && audio.devicename == "manual" : Bool) with
    | true =>
        rw [hman, Bool.not_true, Bool.false_and, onlyIf_of_false rfl, onlyIf_of_false rfl] at h
        cases h
        rw [Bool.and_eq_true, beq_iff_eq, beq_iff_eq] at hman
        rw [if_pos (Or.inr hman)]
        exact ⟨rfl, rfl, rfl, rfl, rfl⟩
    | false =>
        rw [hman, Bool.not_false, Bool.true_and, onlyIf_of_true rfl, bind_eq_ok] at h
        obtain ⟨_, r₁, hstop, h⟩ := h
        -- stopping leaves the new device and the settings alone
        have hkept : r₁.audiodevice = audio ∧ SameSettings r r₁ := by
          cases hactive : r.audioActive with
          | false =>
              rw [hactive, onlyIf_of_false rfl] at hstop
              cases hstop
              exact ⟨rfl, rfl, rfl, rfl⟩
          | true =>
              rw [hactive, onlyIf_of_true rfl] at hstop
              cases hstop
              obtain ⟨hdevice, hstage, hextra, hlocalip⟩ :=
                stopForNewAudio_stores { r with audiodevice := audio, audioActive := true }
              exact ⟨hdevice, hstage, hextra, hlocalip⟩
        rw [bind_eq_ok] at h
        obtain ⟨_, r₂, hstart, h⟩ := h
        obtain ⟨-, hdevice, hsettings⟩ := startAudiobackend_stores hstart
        cases h
        rw [hkept.1] at hdevice
        rw [if_neg]
        · exact ⟨rfl, hdevice, hsettings.stage.trans hkept.2.stage,
            hsettings.extra.trans hkept.2.extra, hsettings.localip.trans hkept.2.localip⟩
        · rintro (hboth | ⟨hold, hnew⟩)
          · exact hsame hboth
          · rw [hold, hnew] at hman
            cases hman

end Renderer

end Libov
