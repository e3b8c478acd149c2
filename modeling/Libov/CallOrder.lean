/-
# The order of session and audio backend

The session has to be ended before the audio backend is stopped, and the audio backend runs
before a session is started.

* `Invocation.InOrder` : the condition on a call;
* `Backend.keeps_applyConfig` : the calls of a configuration;
* `session_before_audio` : the calls of a run of the service.
-/
import Libov.ConfigEffects
import Libov.WatchedCalls

namespace Libov

open Programs Runs

/-! ## The order of the calls -/

/-- The session is not active where the audio backend is stopped, and the audio backend is active
where a session is started. -/
def Invocation.InOrder (call : Invocation) : Prop :=
  (call.method = .stopAudiobackend → call.sessionActive = false) ∧
    (call.method = .startSession → call.audioActive = true)

/-- All calls so far are in order. -/
def Watched.InOrder {σ : Type} (w : Watched σ) : Prop := ∀ call ∈ w.calls, call.InOrder

section Order

/-- Code without a watch adds no call. -/
theorem keeps_unwatched {σ α : Type} (x : EStateM ErrMsg σ α) :
    Keeps Watched.InOrder (unwatched x) := by
  intro w hw
  rw [unwatched, stateAfter_onPart]
  exact hw

/-- A program on a part keeps the calls in order if it does on its own. -/
theorem keeps_part {σ τ α : Type} (read : τ → σ) (write : σ → τ → τ)
    {x : EStateM ErrMsg (Watched σ) α} (h : Keeps Watched.InOrder x) :
    Keeps Watched.InOrder (Watched.part read write x) := by
  intro w hw
  rw [Watched.part, stateAfter_onPart]
  exact h ⟨read w.state, w.calls⟩ hw

/-- A call that is in order itself can be added. -/
theorem inOrder_note {m : Method} {w : Watched Renderer} (hw : w.InOrder)
    (hnew : Invocation.InOrder ⟨m, w.state.sessionActive, w.state.audioActive⟩) :
    (note m w).InOrder := by
  intro call hcall
  rcases List.mem_append.mp hcall with hold | hlast
  · exact hw call hold
  · rw [List.mem_singleton.mp hlast]
    exact hnew

namespace Backend

/-- Code of the renderer makes no call. -/
theorem keeps_rest {α : Type} (x : Render α) : Keeps Watched.InOrder (watched.rest x) :=
  keeps_unwatched x

/-- A call of `stop_audiobackend` without a session. -/
theorem inOrder_stopAudiobackend {w : Watched Renderer} (hw : w.InOrder)
    (hinactive : w.state.sessionActive = false) :
    (stateAfter watched.stopAudiobackend w).InOrder := by
  have hnote : (note .stopAudiobackend w).InOrder := by
    refine inOrder_note hw ⟨fun _ => hinactive, ?_⟩
    intro hmethod
    cases hmethod
  exact keeps_unwatched (modify Renderer.stopAudiobackend) _ hnote

/-- A call of `start_session` with the audio backend. -/
theorem inOrder_startSession (fault : Option StartFault) {w : Watched Renderer} (hw : w.InOrder)
    (hactive : w.state.audioActive = true) :
    (stateAfter (watched.startSession fault) w).InOrder := by
  have hnote : (note .startSession w).InOrder := by
    refine inOrder_note hw ⟨?_, fun _ => hactive⟩
    intro hmethod
    cases hmethod
  exact keeps_unwatched (Renderer.startSession fault) _ hnote

/-- The session is ended where there is one. -/
theorem rest_endSession (w : Watched Renderer) :
    ∃ r, watched.rest (onlyIf w.state.sessionActive (modify Renderer.endSession)) w
        = .ok ⟨⟩ ⟨r, w.calls⟩ ∧
      r.sessionActive = false ∧ r.audioActive = w.state.audioActive := by
  cases hactive : w.state.sessionActive with
  | true => exact ⟨w.state.endSession, rfl, rfl, rfl⟩
  | false => exact ⟨w.state, rfl, hactive, rfl⟩

/-- The end of the client stops the backend behind its session. -/
theorem keeps_shutDown : Keeps Watched.InOrder watched.shutDown := by
  intro w hw
  obtain ⟨r, hend, hinactive, -⟩ := rest_endSession w
  have hrest : watched.shutDown w = watched.stopAudiobackend ⟨r, w.calls⟩ := bind_of_ok hend
  rw [stateAfter, hrest]
  exact inOrder_stopAudiobackend hw hinactive

variable (num : Numeric)

/-- The restart of the audio backend ends the session first. -/
theorem keeps_restartAudio (reply : JackReply) :
    Keeps Watched.InOrder (watched.restartAudio num reply) := by
  intro w hw
  obtain ⟨r, hend, hinactive, -⟩ := rest_endSession w
  have hrest : watched.restartAudio num reply w
      = (do
          watched.stopAudiobackend
          watched.rest (Renderer.startAudiobackend num reply)
          watched.rest (onlyIf w.state.sessionActive (modify Renderer.requireSessionRestart)))
        ⟨r, w.calls⟩ := bind_of_ok hend
  rw [stateAfter, hrest]
  refine Keeps.behind (inOrder_stopAudiobackend hw hinactive) ?_
  intro _
  exact (keeps_rest _).bind fun _ => keeps_rest _

/-- The session is ended before the audio backend is stopped for a new device. -/
theorem keeps_stopForNewAudio : Keeps Watched.InOrder (do
    watched.rest (modify fun r => if r.sessionActive then r.requireSessionRestart.endSession else r)
    watched.stopAudiobackend) := by
  intro w hw
  refine inOrder_stopAudiobackend (w := ⟨if w.state.sessionActive then
    w.state.requireSessionRestart.endSession else w.state, w.calls⟩) hw ?_
  cases hactive : w.state.sessionActive with
  | true => rfl
  | false => exact hactive

/-- A new audio device ends the session before the backend is stopped. -/
theorem keeps_configureAudioBackend (reply : JackReply) (audio : AudioDevice) :
    Keeps Watched.InOrder (watched.configureAudioBackend num reply audio) := by
  apply (keeps_rest get).bind
  intro r
  apply Keeps.onlyIf
  apply (keeps_rest _).bind
  intro _
  apply (Keeps.onlyIf keeps_stopForNewAudio).bind
  intro _
  apply (Keeps.onlyIf (keeps_rest _)).bind
  intro _
  exact keeps_rest _

/-- The audio configuration is made of these two. -/
theorem keeps_applyAudio (env : ConfigEnv) (js_audio : Json) :
    Keeps Watched.InOrder (watched.applyAudio num env js_audio) := by
  apply (keeps_rest _).bind
  intro audio
  apply (keeps_configureAudioBackend num env.configureAudio audio).bind
  intro _
  apply (keeps_rest _).bind
  intro restart
  exact Keeps.onlyIf (keeps_restartAudio num env.restartAudio)

/-- The settings of a configuration start no session. -/
theorem keeps_applySettings (env : ConfigEnv) (devcfg : Json) :
    Keeps Watched.InOrder (watched.applySettings num env devcfg) := by
  apply (keeps_rest _).bind
  intro js_audio
  apply (Keeps.onlyIf (keeps_applyAudio num env js_audio)).bind
  intro _
  apply (keeps_rest _).bind
  intro js_rendersettings
  apply (keeps_rest _).bind
  intro _
  apply (keeps_rest _).bind
  intro js_stage
  exact (keeps_rest _).bind fun _ => keeps_rest _

/-- Behind the settings the audio backend is active. -/
theorem applySettings_active {env : ConfigEnv} {devcfg : Json} {w w' : Watched Renderer}
    (h : watched.applySettings num env devcfg w = .ok () w') : w'.state.audioActive = true := by
  have hplain := (related_follows.applySettings num env devcfg).ok h
  rw [applySettings] at hplain
  obtain ⟨_, _, -, hplain⟩ := bind_eq_ok.mp hplain
  obtain ⟨_, _, -, hplain⟩ := bind_eq_ok.mp hplain
  obtain ⟨_, _, -, hplain⟩ := bind_eq_ok.mp hplain
  obtain ⟨_, _, -, hplain⟩ := bind_eq_ok.mp hplain
  obtain ⟨_, _, -, hplain⟩ := bind_eq_ok.mp hplain
  obtain ⟨_, _, -, hplain⟩ := bind_eq_ok.mp hplain
  exact (startAudioIfNeeded_stores hplain).1

/-- A session is started with the audio backend. -/
theorem inOrder_restartSessionIfNeeded (fault : Option StartFault) {w : Watched Renderer}
    (hw : w.InOrder) (hactive : w.state.audioActive = true) :
    (stateAfter (watched.restartSessionIfNeeded fault) w).InOrder := by
  have hget : watched.restartSessionIfNeeded fault w
      = (if w.state.restartNeeded then do
          watched.rest (onlyIf w.state.sessionActive (modify Renderer.endSession))
          watched.startSession fault
        else onlyIf (!w.state.sessionActive) (watched.startSession fault)) w := rfl
  rw [stateAfter, hget]
  split_ifs
  · obtain ⟨r, hend, -, haudio⟩ := rest_endSession w
    rw [bind_of_ok hend]
    exact inOrder_startSession fault hw (haudio.trans hactive)
  · cases hsession : w.state.sessionActive with
    | true => exact hw
    | false => exact inOrder_startSession fault hw hactive

/-- A configuration starts its session when the audio backend is active, which its settings have
seen to. -/
theorem keeps_applyConfig (env : ConfigEnv) (devcfg : Json) :
    Keeps Watched.InOrder (watched.applyConfig num env devcfg) := by
  apply (keeps_applySettings num env devcfg).bind_ok
  intro w _ w' hsettings hw'
  exact inOrder_restartSessionIfNeeded env.fault hw' (applySettings_active num hsettings)

end Backend

variable (num : Numeric) (parse : String → Except JsonError Json)

/-- The checks in front of a configuration make no call. -/
theorem keeps_watchedConfig (env : ConfigEnv) (devcfg : Json) :
    Keeps Watched.InOrder (watchedConfig num env devcfg) := by
  apply (keeps_unwatched _).bind
  intro _
  apply (keeps_unwatched _).bind
  intro _
  apply (keeps_unwatched _).bind
  intro _
  apply (keeps_unwatched get).bind
  intro c
  exact Keeps.onlyIf (keeps_part _ _ (Backend.keeps_applyConfig num env devcfg))

/-- A turn of the loop keeps the order. -/
theorem inOrder_watchedStep (w : Watched Service) (turn : Turn) (hw : w.InOrder) :
    (watchedStep num parse w turn).InOrder := by
  have hturn : Keeps Watched.InOrder (watchedTurn num parse turn) := by
    apply (keeps_unwatched _).bind
    intro stagecfg
    refine Keeps.caught ((keeps_unwatched _).bind ?_)
    intro _
    apply (keeps_unwatched get).bind
    intro s
    exact keeps_part _ _ (keeps_watchedConfig num turn.env s.devcfg)
  exact hturn w hw

/-- **Session before audio.**  In a run of the service, whatever the configurations are and
whatever fails on the way, the audio backend is never stopped while a session is active, and no
session is started while the audio backend is not active; the shutdown is part of the run. -/
theorem session_before_audio (s₀ : Service) (turns : List Turn) :
    ∀ call ∈ (watchedService num parse s₀ turns).calls,
      (call.method = .stopAudiobackend → call.sessionActive = false) ∧
        (call.method = .startSession → call.audioActive = true) := by
  have hstart : Watched.InOrder (⟨s₀, []⟩ : Watched Service) := by
    intro call hcall
    cases hcall
  have hloop : (run (watchedStep num parse) ⟨s₀, []⟩ turns).InOrder :=
    invariant_run_of_step (inOrder_watchedStep num parse) hstart turns
  exact keeps_part _ _ (keeps_part _ _ Backend.keeps_shutDown) _ hloop

/-- The first turn of a service starts a session, and the shutdown stops the audio backend. -/
theorem session_before_audio_first_turn :
    (watchedService Numeric.exact parseEmptyObject enteredService [answered "h1\n{}"]).calls
        = [⟨.startSession, false, true⟩, ⟨.stopAudiobackend, false, true⟩] ∧
      (⟨.startSession, false, true⟩ : Invocation).audioActive = true ∧
      (⟨.stopAudiobackend, false, true⟩ : Invocation).sessionActive = false := by
  have hcalls : (watchedService Numeric.exact parseEmptyObject enteredService
      [answered "h1\n{}"]).calls
      = [⟨.startSession, false, true⟩, ⟨.stopAudiobackend, false, true⟩] := by
    decide +kernel
  refine ⟨hcalls, ?_, ?_⟩
  · exact (session_before_audio Numeric.exact parseEmptyObject enteredService
      [answered "h1\n{}"] _ (hcalls ▸ List.mem_cons_self)).2 rfl
  · exact (session_before_audio Numeric.exact parseEmptyObject enteredService
      [answered "h1\n{}"] _ (hcalls ▸ List.mem_cons_of_mem _ List.mem_cons_self)).1 rfl

end Order

end Libov
