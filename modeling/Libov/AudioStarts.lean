/-
# Starts of the audio backend that fail

The base class sets the flag `audio_active` before the derived class starts JACK, and an
exception on the way does not clear it.  A renderer whose last start has failed therefore
looks like one whose backend is running, and a configuration with the same device does
nothing.

* `audioStep` : one call of `configure_audio_backend`, `start_audiobackend` or
  `stop_audiobackend`, also when it throws;
* `audioStep_cases` : what a call can do;
* `startFailed_run_iff` : when the last start of a run has failed;
* `failed_start_retried_iff` : when a failed start is retried.
-/
import Libov.RendererMethods
import Libov.Runs

namespace Libov

open Programs Runs

/-! ## Calls and what they log -/

/-- JACK is started for the device, and not managed from outside. -/
structure AudioDevice.IsJack (a : AudioDevice) : Prop where
  drivername : a.drivername = "jack"
  notManual : a.devicename ≠ "manual"

/-- An audio device that JACK is started for. -/
structure JackDevice where
  device : AudioDevice
  isJack : device.IsJack

/-- A call, with the device and the answers of the JACK server. -/
inductive AudioCall where
  | configureAudioBackend (audio : JackDevice) (reply : JackReply)
  | startAudiobackend (reply : JackReply)
  | stopAudiobackend

/-- Lines about the audio backend. -/
def LogLine.isAudio : LogLine → Bool
  | startingAudio _ _ | startedAudio | stoppingAudio | stoppedAudio => true
  | _ => false

namespace Renderer

/-- The renderer behind a call, whether it returns or throws. -/
def audioStep (num : Numeric) (r : Renderer) : AudioCall → Renderer
  | .configureAudioBackend audio reply =>
      stateAfter (configureAudioBackend num reply audio.device) r
  | .startAudiobackend reply => stateAfter (startAudiobackend num reply) r
  | .stopAudiobackend => r.stopAudiobackend

/-- The last line of the log that is about the audio backend. -/
def lastAudioLine (r : Renderer) : Option LogLine := (r.log.filter LogLine.isAudio).getLast?

/-- The last start succeeded and was not followed by a stop. -/
def StartSucceeded (r : Renderer) : Prop := r.lastAudioLine = some .startedAudio

/-- The last start failed and was not followed by a stop. -/
def StartFailed (r : Renderer) : Prop :=
  ∃ drivername devicename, r.lastAudioLine = some (.startingAudio drivername devicename)

/-- The call attempts to start the backend: it logs that it does. -/
def Attempts (num : Numeric) (r : Renderer) (c : AudioCall) : Prop :=
  ∃ drivername devicename,
    LogLine.startingAudio drivername devicename ∈ (audioStep num r c).log.drop r.log.length

/-- No backend has been started, or it has been stopped since. -/
structure AudioOff (r : Renderer) : Prop where
  inactive : r.audioActive = false
  isJack : r.audiodevice.IsJack
  log : r.lastAudioLine = none ∨ r.lastAudioLine = some .stoppedAudio

/-- The present device is configured while the backend is active. -/
def IdleAudio (r : Renderer) : AudioCall → Prop
  | .configureAudioBackend audio _ =>
      (r.audiodevice.ne audio.device || !r.audioActive) = false
  | _ => False

/-- A start, or the configuration of another device or of an inactive backend, for which
no JACK server comes up. -/
def FailsToStart (r : Renderer) : AudioCall → Prop
  | .configureAudioBackend audio reply =>
      (r.audiodevice.ne audio.device || !r.audioActive) = true ∧ reply.server = false
  | .startAudiobackend reply => reply.server = false
  | .stopAudiobackend => False

/-! ## What a call does -/

section Calls

variable {num : Numeric} {reply : JackReply} {r : Renderer}

/-- The line that a log ends with. -/
theorem lastAudioLine_append {lines : List LogLine} {line : LogLine}
    (hline : line.isAudio = true) (h : r.log = lines ++ [line]) :
    r.lastAudioLine = some line := by
  rw [lastAudioLine, h, List.filter_append, List.filter_singleton, hline]
  exact List.getLast?_concat

theorem isJack_reported {a : AudioDevice} (h : a.IsJack) :
    (reported num reply a).IsJack := by
  unfold reported
  cases reply.client with
  | none => exact h
  | some format => exact ⟨h.drivername, h.notManual⟩

theorem spawns {a : AudioDevice} (h : a.IsJack) :
    (a.drivername == "jack" && a.devicename != "manual" : Bool) = true := by
  rw [h.drivername, beq_self_eq_true, Bool.true_and, bne_iff_ne]
  exact h.notManual

/-- A start with a JACK server. -/
theorem startAudiobackend_succeeds (hjack : r.audiodevice.IsJack) (hserver : reply.server = true) :
    startAudiobackend num reply r = .ok () { r with
      audiodevice := reported num reply r.audiodevice
      audioActive := true
      hJack := true
      log := r.log ++ [.startingAudio r.audiodevice.drivername r.audiodevice.devicename]
        ++ [.startedAudio] } := by
  rw [startAudiobackend, get_bind_apply, modify_bind_apply, spawns hjack, onlyIf_of_true rfl]
  rw [hserver]
  rfl

/-- A start without a JACK server: the flag is set and stays set. -/
theorem startAudiobackend_fails (hjack : r.audiodevice.IsJack) (hserver : reply.server = false) :
    startAudiobackend num reply r = .error .audioBackend { r with
      audioActive := true
      hJack := true
      log := r.log ++ [.startingAudio r.audiodevice.drivername r.audiodevice.devicename] } := by
  rw [startAudiobackend, get_bind_apply, modify_bind_apply, spawns hjack, onlyIf_of_true rfl]
  rw [hserver]
  rfl

/-- What a start leaves behind. -/
theorem stateAfter_startAudiobackend (num : Numeric) (reply : JackReply)
    (hjack : r.audiodevice.IsJack) :
    (stateAfter (startAudiobackend num reply) r).audioActive = true ∧
      (stateAfter (startAudiobackend num reply) r).audiodevice.IsJack ∧
      (reply.server = true → (stateAfter (startAudiobackend num reply) r).StartSucceeded) ∧
      (reply.server = false → (stateAfter (startAudiobackend num reply) r).StartFailed) := by
  cases hserver : reply.server with
  | true =>
      rw [stateAfter_ok (startAudiobackend_succeeds hjack hserver)]
      refine ⟨rfl, isJack_reported hjack, fun _ => ?_, fun h => absurd h.symm Bool.false_ne_true⟩
      exact lastAudioLine_append rfl rfl
  | false =>
      rw [stateAfter_error (startAudiobackend_fails hjack hserver)]
      refine ⟨rfl, hjack, fun h => absurd h Bool.false_ne_true, fun _ => ?_⟩
      exact ⟨_, _, lastAudioLine_append rfl rfl⟩

/-- The renderer in which a configuration starts the backend. -/
def readyToStart (r : Renderer) (audio : AudioDevice) : Renderer :=
  if r.audioActive then stopForNewAudio { r with audiodevice := audio }
  else { r with audiodevice := audio }

theorem audiodevice_readyToStart (audio : AudioDevice) :
    (r.readyToStart audio).audiodevice = audio := by
  unfold readyToStart
  split_ifs
  · exact (stopForNewAudio_stores _).1
  · rfl

/-- The present device is not configured again. -/
theorem configureAudioBackend_idle {audio : AudioDevice}
    (h : (r.audiodevice.ne audio || !r.audioActive) = false) :
    configureAudioBackend num reply audio r = .ok () r := by
  rw [configureAudioBackend, get_bind_apply, h]
  rfl

/-- A configuration of another device, or of an inactive backend, is a start. -/
theorem stateAfter_configureAudioBackend {audio : AudioDevice} (hjack : audio.IsJack)
    (h : (r.audiodevice.ne audio || !r.audioActive) = true) :
    stateAfter (configureAudioBackend num reply audio) r
      = stateAfter (startAudiobackend num reply) (r.readyToStart audio) := by
  have hmanual : (r.audiodevice.devicename == "manual" && audio.devicename == "manual" : Bool)
      = false := by
    rw [Bool.and_eq_false_iff]
    exact Or.inr (beq_eq_false_iff_ne.mpr hjack.notManual)
  have hready : (onlyIf r.audioActive (modify stopForNewAudio) : Render Unit)
      { r with audiodevice := audio } = .ok () (r.readyToStart audio) := by
    unfold readyToStart
    cases r.audioActive with
    | true => rfl
    | false => rfl
  have hstart : (r.readyToStart audio).audiodevice.IsJack :=
    (audiodevice_readyToStart audio).symm ▸ hjack
  rw [stateAfter, configureAudioBackend, get_bind_apply, h, onlyIf_of_true rfl, modify_bind_apply,
    hmanual, Bool.not_false, Bool.true_and, onlyIf_of_true rfl, bind_of_ok hready]
  -- the flag that is set behind the start is set there already
  cases hserver : reply.server with
  | true =>
      rw [bind_of_ok (startAudiobackend_succeeds hstart hserver),
        stateAfter_ok (startAudiobackend_succeeds hstart hserver)]
      rfl
  | false =>
      rw [bind_of_error (startAudiobackend_fails hstart hserver),
        stateAfter_error (startAudiobackend_fails hstart hserver)]

/-- What a call can do: nothing, stop the backend, start it, or fail to start it. -/
theorem audioStep_cases (num : Numeric) (hjack : r.audiodevice.IsJack) (c : AudioCall) :
    (r.IdleAudio c ∧ ¬ r.FailsToStart c ∧ audioStep num r c = r) ∨
    (¬ r.IdleAudio c ∧ ¬ r.FailsToStart c ∧ (audioStep num r c).AudioOff) ∨
    (¬ r.IdleAudio c ∧ (audioStep num r c).audioActive = true ∧
      (audioStep num r c).audiodevice.IsJack ∧
      ((¬ r.FailsToStart c ∧ (audioStep num r c).StartSucceeded) ∨
        (r.FailsToStart c ∧ (audioStep num r c).StartFailed))) := by
  cases c with
  | configureAudioBackend audio reply =>
      cases hne : (r.audiodevice.ne audio.device || !r.audioActive) with
      | false =>
          refine Or.inl ⟨hne, fun hfails => ?_,
            stateAfter_ok (configureAudioBackend_idle hne)⟩
          exact Bool.false_ne_true (hne.symm.trans hfails.1)
      | true =>
          have hready := audiodevice_readyToStart (r := r) audio.device
          obtain ⟨hactive, hdevice, hsucceeds, hfails⟩ := stateAfter_startAudiobackend num reply
            (r := r.readyToStart audio.device) (hready.symm ▸ audio.isJack)
          rw [← stateAfter_configureAudioBackend audio.isJack hne]
            at hactive hdevice hsucceeds hfails
          refine Or.inr (Or.inr ⟨fun hidle => ?_, hactive, hdevice, ?_⟩)
          · exact Bool.false_ne_true (hidle.symm.trans hne)
          · cases hserver : reply.server with
            | true => exact Or.inl ⟨fun h => Bool.false_ne_true (h.2.symm.trans hserver),
                hsucceeds hserver⟩
            | false => exact Or.inr ⟨⟨hne, hserver⟩, hfails hserver⟩
  | startAudiobackend reply =>
      obtain ⟨hactive, hdevice, hsucceeds, hfails⟩ := stateAfter_startAudiobackend num reply hjack
      refine Or.inr (Or.inr ⟨id, hactive, hdevice, ?_⟩)
      cases hserver : reply.server with
      | true => exact Or.inl ⟨fun h => Bool.false_ne_true (h.symm.trans hserver),
          hsucceeds hserver⟩
      | false => exact Or.inr ⟨hserver, hfails hserver⟩
  | stopAudiobackend =>
      exact Or.inr (Or.inl ⟨id, id, rfl, hjack, Or.inr (lastAudioLine_append rfl rfl)⟩)

end Calls

/-! ## Runs -/

/-- The device is one that JACK is started for, and the flag tells that the last start was
not followed by a stop. -/
structure AudioTracked (r : Renderer) : Prop where
  isJack : r.audiodevice.IsJack
  active : r.audioActive = true ↔ r.StartSucceeded ∨ r.StartFailed

theorem AudioOff.not_started {r : Renderer} (h : r.AudioOff) :
    ¬ r.StartSucceeded ∧ ¬ r.StartFailed := by
  unfold StartSucceeded StartFailed
  rcases h.log with hline | hline
  · rw [hline]
    simp
  · rw [hline]
    simp

theorem AudioOff.tracked {r : Renderer} (h : r.AudioOff) : r.AudioTracked := by
  refine ⟨h.isJack, iff_of_false ?_ (not_or.mpr h.not_started)⟩
  rw [h.inactive]
  exact Bool.false_ne_true

theorem audioTracked_audioStep (num : Numeric) {r : Renderer} (h : r.AudioTracked)
    (c : AudioCall) : (audioStep num r c).AudioTracked := by
  rcases audioStep_cases num h.isJack c with ⟨-, -, hsame⟩ | ⟨-, -, hoff⟩ |
    ⟨-, hactive, hdevice, houtcome⟩
  · rw [hsame]
    exact h
  · exact hoff.tracked
  · exact ⟨hdevice, iff_of_true hactive (houtcome.imp And.right And.right)⟩

theorem not_startFailed_of_succeeded {r : Renderer} (h : r.StartSucceeded) : ¬ r.StartFailed := by
  rintro ⟨drivername, devicename, hline⟩
  rw [StartSucceeded, hline] at h
  cases h

/-- A call fails to start, or it is idle behind a failed start. -/
theorem startFailed_step_iff (num : Numeric) {r : Renderer} (h : r.AudioTracked) (c : AudioCall) :
    (audioStep num r c).StartFailed ↔ FailsToStart r c ∨ (IdleAudio r c ∧ r.StartFailed) := by
  rcases audioStep_cases num h.isJack c with ⟨hidle, hfails, hsame⟩ |
    ⟨hidle, hfails, hoff'⟩ | ⟨hidle, -, -, ⟨hfails, hsucceeded⟩ | ⟨hfails, hfailed⟩⟩
  · rw [hsame, or_iff_right hfails, and_iff_right hidle]
  · exact iff_of_false hoff'.not_started.2 (not_or.mpr ⟨hfails, fun h => hidle h.1⟩)
  · exact iff_of_false (not_startFailed_of_succeeded hsucceeded)
      (not_or.mpr ⟨hfails, fun h => hidle h.1⟩)
  · exact iff_of_true hfailed (Or.inl hfails)

/-- The last start of a run has failed exactly when the last call that was not idle has
failed to start. -/
theorem startFailed_run_iff (num : Numeric) {r : Renderer} (hoff : r.AudioOff)
    (cs : List AudioCall) :
    (run (audioStep num) r cs).StartFailed
      ↔ Latest (audioStep num) FailsToStart IdleAudio r cs :=
  run_iff_latest (I := AudioTracked) (fun _ c h => audioTracked_audioStep num h c)
    (fun _ c h => startFailed_step_iff num h c) hoff.tracked hoff.not_started.2 cs

/-- The audio backend is active only where the last start succeeded and was not followed by
a stop, and the configuration of the device of a failed start attempts to start again:
exactly when the last call of the run that was not idle has not failed to start. -/
theorem failed_start_retried_iff (num : Numeric) (r : Renderer) (hoff : r.AudioOff)
    (cs : List AudioCall) :
    (((run (audioStep num) r cs).audioActive = true → (run (audioStep num) r cs).StartSucceeded) ∧
      ((run (audioStep num) r cs).StartFailed → ∀ (audio : JackDevice) (reply : JackReply),
        audio.device = (run (audioStep num) r cs).audiodevice →
        (run (audioStep num) r cs).Attempts num (.configureAudioBackend audio reply))) ↔
      ¬ Latest (audioStep num) FailsToStart IdleAudio r cs := by
  have htracked := invariant_run_of_step (I := AudioTracked)
    (fun r c h => audioTracked_audioStep num h c) hoff.tracked cs
  rw [← startFailed_run_iff num hoff cs]
  constructor
  · rintro ⟨hactive, -⟩ hfailed
    exact not_startFailed_of_succeeded (hactive (htracked.active.mpr (Or.inr hfailed))) hfailed
  · intro hnot
    exact ⟨fun hactive => (htracked.active.mp hactive).resolve_right hnot,
      fun hfailed => absurd hfailed hnot⟩

theorem isJack_hw1 : AudioDevice.IsJack ⟨"jack", "hw:1", 48000, 96, 2, 40⟩ :=
  ⟨rfl, by decide⟩

/-- The device of a new renderer. -/
def hw1 : JackDevice := ⟨⟨"jack", "hw:1", 48000, 96, 2, 40⟩, isJack_hw1⟩

/-- A new renderer has not started the backend. -/
theorem audioOff_init (num : Numeric) (deviceid localip : String) :
    (Renderer.init num deviceid localip).AudioOff :=
  ⟨rfl, isJack_hw1, Or.inl rfl⟩

/-- A start that a JACK server answers. -/
theorem failed_start_retried_server :
    let r := run (audioStep Numeric.exact) (Renderer.init Numeric.exact "box" "127.0.0.1")
      [.startAudiobackend ⟨true, none⟩]
    r.audioActive = true → r.StartSucceeded := by
  have hlatest : ¬ Latest (audioStep Numeric.exact) FailsToStart IdleAudio
      (Renderer.init Numeric.exact "box" "127.0.0.1")
      ([] ++ [.startAudiobackend ⟨true, none⟩]) := by
    rw [latest_append_one]
    rintro (hfails | ⟨hidle, -⟩)
    · exact Bool.false_ne_true hfails.symm
    · exact hidle
  exact ((failed_start_retried_iff Numeric.exact (Renderer.init Numeric.exact "box" "127.0.0.1")
    (audioOff_init _ _ _) _).mpr hlatest).1

/-- No JACK server comes up for the first configuration: the backend counts as active. -/
theorem failed_start_counts_as_active :
    ¬ ((run (audioStep Numeric.exact) (Renderer.init Numeric.exact "box" "127.0.0.1")
          [.configureAudioBackend hw1 ⟨false, none⟩]).audioActive = true →
        (run (audioStep Numeric.exact) (Renderer.init Numeric.exact "box" "127.0.0.1")
          [.configureAudioBackend hw1 ⟨false, none⟩]).StartSucceeded) := by
  intro h
  have hsucceeded := h rfl
  have hline : (run (audioStep Numeric.exact) (Renderer.init Numeric.exact "box" "127.0.0.1")
      [.configureAudioBackend hw1 ⟨false, none⟩]).lastAudioLine
        = some (.startingAudio "jack" "hw:1") := rfl
  exact not_startFailed_of_succeeded hsucceeded ⟨_, _, hline⟩

end Renderer

end Libov
