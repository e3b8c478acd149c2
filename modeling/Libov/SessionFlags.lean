/-
# The session flags after a failed start

`start_session` sets the flags of the base class before it does anything that can
fail, and no exit by an exception takes them back: after every failed start the
renderer says that a session is active and that no restart is needed.  Between
calls the flags tell the truth exactly as long as no start fails.
-/
import Libov.RendererMethods
import Libov.Runs

namespace Libov

open Programs Runs

/-! ## Calls of the renderer -/

/-- The methods of a renderer that the clients call.  Left out are `update_plugincfg`, by which
the plugins of a running session are written back, and `set_zita_path`, `set_allow_systemmods` and
`set_runtime_folder`, which set what a start reads besides the settings. -/
inductive RenderCall where
  | setRelayServer (host : String) (port : Port) (pin : Secret)
  | startSession
  | endSession
  | restartSessionIfNeeded
  | requireSessionRestart
  | startAudiobackend
  | stopAudiobackend
  | configureAudioBackend (audio : AudioDevice)
  | setThisdev (stagedevice : StageDevice)
  | addStageDevice (stagedevice : StageDevice)
  | rmStageDevice (stagedeviceid : StageDeviceId)
  | clearStage
  | setStage (s : StageMap)
  | setStageDeviceGain (stagedeviceid : StageDeviceId) (gain : ℚ)
  | setRenderSettings (rendersettings : RenderSettings) (thisstagedeviceid : StageDeviceId)
  | setExtraConfig (xcfg : Json)

/-- What the surroundings of the renderer do during a call. -/
structure CallEnv where
  jack : JackReply
  fault : Option StartFault

namespace RenderCall

/-- The program of a call. -/
def exec (num : Numeric) (env : CallEnv) : RenderCall → Render Unit
  | setRelayServer host port pin => modify (Renderer.setRelayServer host port pin)
  | startSession => Renderer.startSession env.fault
  | endSession => modify Renderer.endSession
  | restartSessionIfNeeded => Renderer.restartSessionIfNeeded env.fault
  | requireSessionRestart => modify Renderer.requireSessionRestart
  | startAudiobackend => Renderer.startAudiobackend num env.jack
  | stopAudiobackend => modify Renderer.stopAudiobackend
  | configureAudioBackend audio => Renderer.configureAudioBackend num env.jack audio
  | setThisdev stagedevice => modify (Renderer.setThisdev stagedevice)
  | addStageDevice stagedevice => modify (Renderer.addStageDevice stagedevice)
  | rmStageDevice stagedeviceid => modify (Renderer.rmStageDevice stagedeviceid)
  | clearStage => modify Renderer.clearStage
  | setStage s => modify (Renderer.setStage s)
  | setStageDeviceGain stagedeviceid gain =>
      modify (Renderer.setStageDeviceGain stagedeviceid gain)
  | setRenderSettings rendersettings thisstagedeviceid =>
      modify (Renderer.setRenderSettings rendersettings thisstagedeviceid)
  | setExtraConfig xcfg => Renderer.setExtraConfig num xcfg

/-- The call gets to `start_session`. -/
def startsSession (r : Renderer) : RenderCall → Bool
  | startSession => true
  | restartSessionIfNeeded => r.restartNeeded || !r.sessionActive
  | _ => false

end RenderCall

/-- The renderer after a call. -/
def renderStep (num : Numeric) (r : Renderer) (c : RenderCall × CallEnv) : Renderer :=
  stateAfter (c.1.exec num c.2) r

/-- The call throws out of `start_session`. -/
def ThrowsAtStart (num : Numeric) (r : Renderer) (c : RenderCall × CallEnv) : Prop :=
  c.1.startsSession r = true ∧ Throws (c.1.exec num c.2) r

/-- The call gets to `start_session`, and the fault of its surroundings lies on the way. -/
def StartFails (r : Renderer) (c : RenderCall × CallEnv) : Prop :=
  c.1.startsSession r = true ∧ r.startFails c.2.fault = true

/-- A call that starts a session runs `start_session` with the same way ahead. -/
theorem exec_startsSession (num : Numeric) {r : Renderer} {c : RenderCall × CallEnv}
    (h : c.1.startsSession r = true) :
    ∃ r', c.1.exec num c.2 r = Renderer.startSession c.2.fault r' ∧
      r'.startFails c.2.fault = r.startFails c.2.fault := by
  obtain ⟨call, env⟩ := c
  cases call with
  | startSession => exact ⟨r, rfl, rfl⟩
  | restartSessionIfNeeded =>
      refine ⟨_, Renderer.restartSessionIfNeeded_starts env.fault h, ?_⟩
      cases r.sessionActive with
      | true => rfl
      | false => rfl
  | _ => cases h

theorem throwsAtStart_iff (num : Numeric) (r : Renderer) (c : RenderCall × CallEnv) :
    ThrowsAtStart num r c ↔ StartFails r c := by
  rw [ThrowsAtStart, StartFails]
  apply and_congr_right
  intro hstarts
  obtain ⟨r', hexec, hfails⟩ := exec_startsSession num hstarts
  rw [Throws, hexec, ← hfails, ← Renderer.throws_startSession_iff, Throws]

/-- The flags of an active session that needs no restart. -/
def Renderer.ActiveNoRestart (r : Renderer) : Prop :=
  r.sessionActive = true ∧ r.restartNeeded = false

theorem Renderer.startStable_activeNoRestart : StartStable ActiveNoRestart where
  log _ h := h
  stage _ h := h
  session _ _ _ h := h

/-- After a start that fails, a session is reported as active and no restart as needed. -/
theorem flags_of_startFails (num : Numeric) {r : Renderer} {c : RenderCall × CallEnv}
    (h : StartFails r c) : (renderStep num r c).ActiveNoRestart := by
  obtain ⟨r', hexec, -⟩ := exec_startsSession num h.1
  rw [renderStep, stateAfter, hexec]
  exact Renderer.startStable_activeNoRestart.startSession c.2.fault ⟨rfl, rfl⟩

/-! ## Flags and session between calls -/

/-- A session that is reported as active and needs no restart exists. -/
def Renderer.SessionExists (r : Renderer) : Prop := r.ActiveNoRestart → r.tascar = true

namespace Renderer

theorem sessionExists_of_inactive {r : Renderer} (h : r.sessionActive = false) :
    r.SessionExists := by
  rintro ⟨hactive, -⟩
  rw [h] at hactive
  cases hactive

theorem stable_sessionExists : Stable SessionExists where
  log _ h := h
  audio _ _ _ h := h
  stage _ h := h
  extra _ h := h
  restart c h := by
    rintro ⟨hactive, hrestart⟩
    exact h ⟨hactive, (Bool.or_eq_false_iff.1 hrestart).1⟩
  ended _ := sessionExists_of_inactive rfl

end Renderer

/-- A call that does not fail to start a session keeps the flags true. -/
theorem sessionExists_renderStep (num : Numeric) {r : Renderer} {c : RenderCall × CallEnv}
    (h : r.SessionExists) (hfails : ¬ StartFails r c) : (renderStep num r c).SessionExists := by
  by_cases hstarts : c.1.startsSession r = true
  · obtain ⟨r', hexec, hsame⟩ := exec_startsSession num hstarts
    have hno : r'.startFails c.2.fault = false := by
      rw [hsame, ← Bool.not_eq_true]
      intro hyes
      exact hfails ⟨hstarts, hyes⟩
    rw [renderStep, stateAfter_ok (hexec.trans (Renderer.startSession_ok hno))]
    intro _
    rfl
  · have hkeeps := Renderer.stable_sessionExists
    obtain ⟨call, env⟩ := c
    cases call with
    | startSession => exact absurd rfl hstarts
    | restartSessionIfNeeded =>
        rw [RenderCall.startsSession, Bool.or_eq_true, not_or, Bool.not_eq_true,
          Bool.not_eq_true, Bool.not_eq_false'] at hstarts
        rw [renderStep, RenderCall.exec,
          stateAfter_ok (Renderer.restartSessionIfNeeded_idle _ hstarts.2 hstarts.1)]
        exact h
    | setRelayServer host port pin => exact hkeeps.setRelayServer host port pin h
    | endSession => exact hkeeps.endSession h
    | requireSessionRestart => exact hkeeps.requireSessionRestart h
    | startAudiobackend => exact hkeeps.startAudiobackend num env.jack r h
    | stopAudiobackend => exact hkeeps.stopAudiobackend h
    | configureAudioBackend audio => exact hkeeps.configureAudioBackend num env.jack audio r h
    | setThisdev stagedevice => exact hkeeps.setThisdev stagedevice h
    | addStageDevice stagedevice =>
        exact hkeeps.changeStage (fun m => m.insert stagedevice.id stagedevice) h
    | rmStageDevice stagedeviceid => exact hkeeps.changeStage (fun m => m.erase stagedeviceid) h
    | clearStage => exact hkeeps.clearStage h
    | setStage s => exact hkeeps.changeStage (fun _ => s) h
    | setStageDeviceGain stagedeviceid gain => exact hkeeps.stage _ h
    | setRenderSettings rendersettings thisstagedeviceid =>
        exact hkeeps.setRenderSettings rendersettings thisstagedeviceid h
    | setExtraConfig xcfg => exact hkeeps.setExtraConfig num xcfg r h

/-- Every failed start of a run shows in the flags behind it, and between the calls an
active session that needs no restart exists. -/
structure FailuresShow (num : Numeric) (r : Renderer) (calls : List (RenderCall × CallEnv)) :
    Prop where
  /-- A session that could not be started is not active, or a restart is needed. -/
  behind : AllSteps (renderStep num) (fun r c => ThrowsAtStart num r c →
    (renderStep num r c).sessionActive = false ∨ (renderStep num r c).restartNeeded = true) r calls
  /-- Between the calls the flags tell the truth. -/
  between : ∀ n, (run (renderStep num) r (calls.take n)).SessionExists

/-- **Failed starts.**  The failures of a run show exactly when it has none. -/
theorem failures_show_iff (num : Numeric) (deviceid localip : String)
    (calls : List (RenderCall × CallEnv)) :
    FailuresShow num (Renderer.init num deviceid localip) calls ↔
      AllSteps (renderStep num) (fun r c => ¬ StartFails r c)
        (Renderer.init num deviceid localip) calls := by
  have hinit : (Renderer.init num deviceid localip).SessionExists :=
    Renderer.sessionExists_of_inactive rfl
  constructor
  · intro h
    refine h.behind.mono ?_
    intro r c hshow hfails
    obtain ⟨hactive, hrestart⟩ := flags_of_startFails num hfails
    rcases hshow ((throwsAtStart_iff num r c).2 hfails) with hflag | hflag
    · rw [hactive] at hflag
      cases hflag
    · rw [hrestart] at hflag
      cases hflag
  · intro h
    constructor
    · refine h.mono ?_
      intro r c hno hthrows
      exact absurd ((throwsAtStart_iff num r c).1 hthrows) hno
    · intro n
      refine invariant_run ?_ hinit (allSteps_take h n)
      intro r c hr hno
      exact sessionExists_renderStep num hr hno

/-- A TASCAR session that cannot be loaded is reported as active, and the next
`restart_session_if_needed` does not try again. -/
theorem failed_load_reported_active :
    ¬ FailuresShow Numeric.exact (Renderer.init Numeric.exact "box" "127.0.0.1")
        [(.restartSessionIfNeeded, ⟨⟨true, none⟩, some .load⟩)] ∧
      (let r := renderStep Numeric.exact (Renderer.init Numeric.exact "box" "127.0.0.1")
        (.restartSessionIfNeeded, ⟨⟨true, none⟩, some .load⟩)
       r.sessionActive = true ∧ r.restartNeeded = false ∧ r.tascar = false ∧
        renderStep Numeric.exact r (.restartSessionIfNeeded, ⟨⟨true, none⟩, none⟩) = r) := by
  refine ⟨?_, rfl, rfl, rfl, rfl⟩
  intro h
  have htascar := h.between 1 ⟨rfl, rfl⟩
  cases htascar

end Libov
