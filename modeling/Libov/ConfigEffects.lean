/-
# What a configuration leaves behind

What the sections of a configuration write to the log and which properties of the
renderer they keep; and after a configuration has been applied, what is stored for
each of its members.
-/
import Libov.ClientConfig
import Libov.RendererMethods

namespace Libov

open Programs

/-! ## The log -/

/-- The log goes on with lines of a kind. -/
def Grew (A : LogLine → Prop) (l : List LogLine) (r : Renderer) : Prop :=
  ∃ ls, r.log = l ++ ls ∧ ∀ x ∈ ls, A x

section Log

variable {A : LogLine → Prop} {l : List LogLine}

/-- With no line written the log has gone on with lines of any kind. -/
theorem grew_refl (r : Renderer) : Grew A r.log r := by
  refine ⟨[], (List.append_nil _).symm, ?_⟩
  intro x hx
  cases hx

/-- One line of the kind more. -/
theorem grew_consoleLog {r : Renderer} {line : LogLine} (hline : A line) (h : Grew A l r) :
    Grew A l (r.consoleLog line) := by
  obtain ⟨ls, hlog, hls⟩ := h
  refine ⟨ls ++ [line], ?_, ?_⟩
  · show r.log ++ [line] = _
    rw [hlog, List.append_assoc]
  · intro x hx
    rcases List.mem_append.1 hx with hx | hx
    · exact hls x hx
    · rw [List.mem_singleton.1 hx]
      exact hline

/-- Lines other than that of a started session are all that the methods besides `start_session`
write. -/
theorem stable_grew (hA : ∀ x, x ≠ .sessionStarted → A x) : Renderer.Stable (Grew A l) where
  log hline h := grew_consoleLog (hA _ hline) h
  audio _ _ _ h := h
  stage _ h := h
  extra _ h := h
  restart _ h := h
  ended h := h

/-- `start_session` writes lines as well. -/
theorem startStable_grew (hA : ∀ x, A x) : Renderer.StartStable (Grew A l) where
  log _ h := grew_consoleLog (hA _) h
  stage _ h := h
  session _ _ _ h := h

/-- Lines that are not of the kind are as many as before. -/
theorem count_of_grew {r : Renderer} (h : Grew A l r) {line : LogLine}
    (hline : ¬ A line) : r.log.count line = l.count line := by
  obtain ⟨ls, hlog, hls⟩ := h
  have hnone : ls.count line = 0 := by
    apply List.count_eq_zero_of_not_mem
    intro hmem
    exact hline (hls line hmem)
  rw [hlog, List.count_append, hnone, Nat.add_zero]

/-- A log that goes on does not lose a line. -/
theorem count_le_of_grew {r : Renderer} (h : Grew A l r) (line : LogLine) :
    l.count line ≤ r.log.count line := by
  obtain ⟨ls, hlog, -⟩ := h
  rw [hlog, List.count_append]
  exact Nat.le_add_right _ _

end Log

/-! ## What applying a configuration keeps -/

namespace Renderer.Stable

variable {P : Renderer → Prop} (h : Stable P) (num : Numeric)

include h

/-- The restart of the audio backend is made of methods that keep the property. -/
theorem restartAudio (reply : JackReply) : Keeps P (restartAudio num reply) := by
  rw [Libov.restartAudio]
  refine Keeps.bind Keeps.of_get ?_
  intro r
  refine Keeps.bind (Keeps.onlyIf (Keeps.of_modify fun _ hr => h.endSession hr)) ?_
  intro _
  refine Keeps.bind (Keeps.of_modify fun _ hr => h.stopAudiobackend hr) ?_
  intro _
  refine Keeps.bind (h.startAudiobackend num reply) ?_
  intro _
  exact Keeps.onlyIf (Keeps.of_modify fun _ hr => h.requireSessionRestart hr)

/-- So is the audio configuration. -/
theorem applyAudio (env : ConfigEnv) (js_audio : Json) :
    Keeps P (applyAudio num env js_audio) := by
  rw [Libov.applyAudio]
  refine Keeps.bind (Keeps.of_except _) ?_
  intro audio
  refine Keeps.bind (h.configureAudioBackend num env.configureAudio audio) ?_
  intro _
  refine Keeps.bind (Keeps.of_except _) ?_
  intro restart
  exact Keeps.onlyIf (h.restartAudio num env.restartAudio)

/-- The member for this device sets it, and keeps the property. -/
theorem applyThisdev (js_rendersettings : Json) : Keeps P (applyThisdev num js_rendersettings) := by
  rw [Libov.applyThisdev]
  refine Keeps.bind (Keeps.of_except _) ?_
  intro stagedev
  exact Keeps.of_modify fun _ hr => h.setThisdev stagedev hr

/-- The extra configuration keeps it, whether it is there or not. -/
theorem applyExtracfg (js_rendersettings : Json) :
    Keeps P (applyExtracfg num js_rendersettings) := by
  rw [Libov.applyExtracfg]
  refine Keeps.bind (Keeps.of_except _) ?_
  intro xcfg
  exact Keeps.onlyIf (h.setExtraConfig num xcfg)

/-- The devices of a room set the stage, and keep the property. -/
theorem applyRoomdev (devcfg : Json) : Keeps P (applyRoomdev num devcfg) := by
  rw [Libov.applyRoomdev]
  refine Keeps.bind (Keeps.of_except _) ?_
  intro js_stagedevs
  cases js_stagedevs.array? with
  | none => exact Keeps.of_pure _
  | some devs =>
      refine Keeps.bind (Keeps.of_except _) ?_
      intro newstage
      exact Keeps.of_modify fun _ hr => h.changeStage (fun _ => newstage) hr

/-- A room as a whole keeps the property. -/
theorem applyRoom (env : ConfigEnv) (devcfg js_rendersettings js_stage : Json) :
    Keeps P (applyRoom num env devcfg js_rendersettings js_stage) := by
  rw [Libov.applyRoom]
  refine Keeps.bind (Keeps.of_except _) ?_
  intro relay
  refine Keeps.bind (Keeps.of_modify fun _ hr => h.setRelayServer _ _ _ hr) ?_
  intro _
  refine Keeps.bind (Keeps.of_except _) ?_
  intro rendersettings
  refine Keeps.bind (Keeps.of_except _) ?_
  intro stagedevid
  refine Keeps.bind (Keeps.of_modify fun _ hr => h.setRenderSettings _ _ hr) ?_
  intro _
  refine Keeps.bind (h.applyExtracfg num js_rendersettings) ?_
  intro _
  exact h.applyRoomdev num devcfg

/-- The start of the backend keeps it. -/
theorem startAudioIfNeeded (reply : JackReply) : Keeps P (startAudioIfNeeded num reply) := by
  rw [Libov.startAudioIfNeeded]
  refine Keeps.bind Keeps.of_get ?_
  intro r
  exact Keeps.onlyIf (h.startAudiobackend num reply)

/-- Behind the audio section. -/
theorem applySettings_rest (env : ConfigEnv) (devcfg : Json) :
    Keeps P (do
      let js_rendersettings ← ofExcept (subscript devcfg "rendersettings")
      onlyIf (!js_rendersettings.isNull) (Libov.applyThisdev num js_rendersettings)
      let js_stage ← ofExcept (subscript devcfg "room")
      onlyIf js_stage.isObject (Libov.applyRoom num env devcfg js_rendersettings js_stage)
      Libov.startAudioIfNeeded num env.startAudio) := by
  refine Keeps.bind (Keeps.of_except _) ?_
  intro js_rendersettings
  refine Keeps.bind (Keeps.onlyIf (h.applyThisdev num js_rendersettings)) ?_
  intro _
  refine Keeps.bind (Keeps.of_except _) ?_
  intro js_stage
  refine Keeps.bind (Keeps.onlyIf (h.applyRoom num env devcfg js_rendersettings js_stage)) ?_
  intro _
  exact h.startAudioIfNeeded num env.startAudio

/-- All settings of a configuration keep the property. -/
theorem applySettings (env : ConfigEnv) (devcfg : Json) :
    Keeps P (applySettings num env devcfg) := by
  rw [Libov.applySettings]
  refine Keeps.bind (Keeps.of_except _) ?_
  intro js_audio
  refine Keeps.bind (Keeps.onlyIf (h.applyAudio num env js_audio)) ?_
  intro _
  exact h.applySettings_rest num env devcfg

end Renderer.Stable

/-! ## What is stored -/

section Stored

variable {num : Numeric} {env : ConfigEnv}

open Renderer

/-- The audio configuration of a call that returns has been read, and its device is stored. -/
theorem applyAudio_stores {js_audio : Json} {r r' : Renderer}
    (h : applyAudio num env js_audio r = .ok () r')
    (hrestart : myJsValue num js_audio "restart" false ≠ .ok true) :
    myJsValue num js_audio "restart" false = .ok false ∧
      ∃ audio, readAudioDevice num js_audio = .ok audio ∧ r'.audioActive = true ∧
        r'.audiodevice = storedAudio num env.configureAudio audio r ∧ SameSettings r r' := by
  rw [applyAudio, ofExcept_bind_eq_ok] at h
  obtain ⟨audio, hread, h⟩ := h
  obtain ⟨_, r₂, hconf, h⟩ := bind_eq_ok.1 h
  obtain ⟨restart, hasks, h⟩ := ofExcept_bind_eq_ok.1 h
  cases restart with
  | true => exact absurd hasks hrestart
  | false =>
      cases h
      obtain ⟨hactive, hdevice, hsame⟩ := configureAudioBackend_stores hconf
      exact ⟨hasks, audio, hread, hactive, hdevice, hsame⟩

/-- The member for this device has been read, and the device is set. -/
theorem applyThisdev_stores {js_rendersettings : Json} {r r' : Renderer}
    (h : applyThisdev num js_rendersettings r = .ok () r') :
    ∃ stagedev, getStageDev num js_rendersettings = .ok stagedev ∧ r' = setThisdev stagedev r := by
  rw [applyThisdev, ofExcept_bind_eq_ok] at h
  obtain ⟨stagedev, hread, h⟩ := h
  cases h
  exact ⟨stagedev, hread, rfl⟩

/-- Behind the settings the audio backend is active; one that was active is left alone. -/
theorem startAudioIfNeeded_stores {reply : JackReply} {r r' : Renderer}
    (h : startAudioIfNeeded num reply r = .ok () r') :
    r'.audioActive = true ∧ SameSettings r r' ∧ (r.audioActive = true → r' = r) := by
  rw [startAudioIfNeeded, get_bind_apply] at h
  cases hactive : r.audioActive with
  | true =>
      rw [hactive] at h
      cases h
      exact ⟨hactive, ⟨rfl, rfl, rfl⟩, fun _ => rfl⟩
  | false =>
      rw [hactive] at h
      obtain ⟨hstarted, -, hsame⟩ := startAudiobackend_stores h
      refine ⟨hstarted, hsame, ?_⟩
      intro hcontra
      cases hcontra

/-- The settings of a room are stored, and `stage` is what has been read for its devices. -/
structure RoomStored (num : Numeric) (ambient : Option ℕ)
    (devcfg js_rendersettings js_stage : Json) (stage : StageMap) (r : Renderer) : Prop where
  relay : readRelay num js_stage = .ok (r.stage.host, r.stage.port, r.stage.pin)
  rendersettings :
    readRenderSettings num ambient js_stage js_rendersettings = .ok r.stage.rendersettings
  stagedevid : readStagedevid num js_rendersettings = .ok r.stage.thisstagedeviceid
  extracfg : ∃ xcfg, subscript js_rendersettings "extracfg" = .ok xcfg ∧
    (xcfg.isNull = false → Settled (extraUpdates num r.localip xcfg) r.extra)
  roomdev : ∃ js_stagedevs, subscript devcfg "roomdev" = .ok js_stagedevs ∧
    ∀ devs, js_stagedevs.array? = some devs → readStage num devs = .ok stage

/-- What is stored of a room does not depend on the audio backend. -/
theorem RoomStored.of_sameSettings {ambient : Option ℕ}
    {devcfg js_rendersettings js_stage : Json} {stage : StageMap} {r r' : Renderer}
    (h : RoomStored num ambient devcfg js_rendersettings js_stage stage r)
    (hsame : SameSettings r r') :
    RoomStored num ambient devcfg js_rendersettings js_stage stage r' := by
  obtain ⟨hstage, hextra, hlocalip⟩ := hsame
  refine ⟨?_, ?_, ?_, ?_, h.roomdev⟩
  · rw [hstage]; exact h.relay
  · rw [hstage]; exact h.rendersettings
  · rw [hstage]; exact h.stagedevid
  · rw [hextra, hlocalip]; exact h.extracfg

/-- Every variable of the extra configuration has the value read for it, and nothing else has
changed. -/
theorem applyExtracfg_stores {js_rendersettings : Json} {r r' : Renderer}
    (h : applyExtracfg num js_rendersettings r = .ok () r') :
    ∃ xcfg, subscript js_rendersettings "extracfg" = .ok xcfg ∧
      (xcfg.isNull = false → Settled (extraUpdates num r'.localip xcfg) r'.extra) ∧
      r'.stage = r.stage ∧ r'.audiodevice = r.audiodevice ∧ r'.audioActive = r.audioActive := by
  rw [applyExtracfg, ofExcept_bind_eq_ok] at h
  obtain ⟨xcfg, hread, h⟩ := h
  refine ⟨xcfg, hread, ?_⟩
  cases hnull : xcfg.isNull with
  | true =>
      rw [hnull] at h
      cases h
      refine ⟨?_, rfl, rfl, rfl⟩
      intro hcontra
      cases hcontra
  | false =>
      rw [hnull] at h
      obtain ⟨hsettled, -, hstage, hdevice, hactive⟩ := setExtraConfig_settles h
      exact ⟨fun _ => hsettled, hstage, hdevice, hactive⟩

/-- The devices of the room become the stage where there is a list of them. -/
theorem applyRoomdev_stores {devcfg : Json} {r r' : Renderer}
    (h : applyRoomdev num devcfg r = .ok () r') :
    ∃ js_stagedevs, subscript devcfg "roomdev" = .ok js_stagedevs ∧
      (∀ devs, js_stagedevs.array? = some devs → readStage num devs = .ok r'.stage.stage) ∧
      r'.stage = { r.stage with stage := r'.stage.stage } ∧ SameBackend r r' := by
  rw [applyRoomdev, ofExcept_bind_eq_ok] at h
  obtain ⟨js_stagedevs, hread, h⟩ := h
  refine ⟨js_stagedevs, hread, ?_⟩
  cases harr : js_stagedevs.array? with
  | none =>
      simp only [harr] at h
      cases h
      refine ⟨?_, rfl, rfl, rfl, rfl, rfl⟩
      intro devs hdevs
      cases hdevs
  | some devs =>
      simp only [harr] at h
      obtain ⟨newstage, hstage, h⟩ := ofExcept_bind_eq_ok.1 h
      cases h
      refine ⟨?_, rfl, rfl, rfl, rfl, rfl⟩
      intro devs' hdevs
      cases hdevs
      exact hstage

/-- The relay server, the settings, the extra configuration and the devices of a room are all
stored. -/
theorem applyRoom_stores {devcfg js_rendersettings js_stage : Json} {r r' : Renderer}
    (h : applyRoom num env devcfg js_rendersettings js_stage r = .ok () r') :
    RoomStored num env.ambient devcfg js_rendersettings js_stage r'.stage.stage r' ∧
      r'.stage.thisdevice = r.stage.thisdevice ∧ r'.audiodevice = r.audiodevice ∧
      r'.audioActive = r.audioActive := by
  rw [applyRoom, ofExcept_bind_eq_ok] at h
  obtain ⟨⟨host, port, pin⟩, hrelay, h⟩ := h
  rw [modify_bind_apply, ofExcept_bind_eq_ok] at h
  obtain ⟨rs, hrs, h⟩ := h
  obtain ⟨id, hid, h⟩ := ofExcept_bind_eq_ok.1 h
  rw [modify_bind_apply, bind_eq_ok] at h
  obtain ⟨_, r₄, hextra, h⟩ := h
  obtain ⟨xcfg, hxcfg, hsettled, hstage₄, hdevice₄, hactive₄⟩ := applyExtracfg_stores hextra
  obtain ⟨js_stagedevs, hroomdev, hread, hstage', hsame'⟩ := applyRoomdev_stores h
  rw [setRenderSettings_stage, setRelayServer_stage] at hstage₄
  rw [hstage₄] at hstage'
  have hrelaysame := sameBackend_setRelayServer host port pin r
  have hrssame := sameBackend_setRenderSettings rs id (setRelayServer host port pin r)
  refine ⟨⟨?_, ?_, ?_, ⟨xcfg, hxcfg, ?_⟩, ⟨js_stagedevs, hroomdev, hread⟩⟩, ?_, ?_, ?_⟩
  · rw [hstage']; exact hrelay
  · rw [hstage']; exact hrs
  · rw [hstage']; exact hid
  · intro hnull
    rw [hsame'.localip, hsame'.extra]
    exact hsettled hnull
  · rw [hstage']
  · rw [hsame'.audiodevice, hdevice₄, hrssame.audiodevice, hrelaysame.audiodevice]
  · rw [hsame'.audioActive, hactive₄, hrssame.audioActive, hrelaysame.audioActive]

/-- The settings of a configuration are stored in `r'` after it has been applied to `r`. -/
structure Stored (num : Numeric) (env : ConfigEnv)
    (devcfg js_audio js_rendersettings js_stage : Json) (r r' : Renderer) : Prop where
  audiocfg : subscript devcfg "audiocfg" = .ok js_audio
  rendersettings : subscript devcfg "rendersettings" = .ok js_rendersettings
  room : subscript devcfg "room" = .ok js_stage
  audioActive : r'.audioActive = true
  audio : js_audio.isNull = false → myJsValue num js_audio "restart" false = .ok false ∧
    ∃ audio, readAudioDevice num js_audio = .ok audio ∧
      r'.audiodevice = storedAudio num env.configureAudio audio r
  thisdev : js_rendersettings.isNull = false →
    getStageDev num js_rendersettings = .ok r'.stage.thisdevice
  roomStored : js_stage.isObject = true →
    RoomStored num env.ambient devcfg js_rendersettings js_stage r'.stage.stage r'

/-- The section "rendersettings", if there is one. -/
theorem thisdev_stores {js_rendersettings : Json} {r r' : Renderer}
    (h : onlyIf (!js_rendersettings.isNull) (applyThisdev num js_rendersettings) r = .ok () r') :
    (js_rendersettings.isNull = false →
      getStageDev num js_rendersettings = .ok r'.stage.thisdevice) ∧
    r'.audiodevice = r.audiodevice ∧ r'.audioActive = r.audioActive := by
  cases hnull : js_rendersettings.isNull with
  | true =>
      rw [hnull] at h
      cases h
      refine ⟨?_, rfl, rfl⟩
      intro hcontra
      cases hcontra
  | false =>
      rw [hnull] at h
      obtain ⟨stagedev, hread, rfl⟩ := applyThisdev_stores h
      exact ⟨fun _ => hread, rfl, rfl⟩

/-- The section "room", if there is one. -/
theorem room_stores {devcfg js_rendersettings js_stage : Json} {r r' : Renderer}
    (h : onlyIf js_stage.isObject (applyRoom num env devcfg js_rendersettings js_stage) r
      = .ok () r') :
    (js_stage.isObject = true →
      RoomStored num env.ambient devcfg js_rendersettings js_stage r'.stage.stage r') ∧
    r'.stage.thisdevice = r.stage.thisdevice ∧ r'.audiodevice = r.audiodevice ∧
      r'.audioActive = r.audioActive := by
  cases hobj : js_stage.isObject with
  | true =>
      rw [hobj] at h
      obtain ⟨hstored, hthisdev, hdevice, hactive⟩ := applyRoom_stores h
      exact ⟨fun _ => hstored, hthisdev, hdevice, hactive⟩
  | false =>
      rw [hobj] at h
      cases h
      refine ⟨?_, rfl, rfl, rfl⟩
      intro hcontra
      cases hcontra

/-- The section "audiocfg", if there is one. -/
theorem audio_stores {js_audio : Json} {r r' : Renderer}
    (h : onlyIf (!js_audio.isNull) (applyAudio num env js_audio) r = .ok () r')
    (hrestart : myJsValue num js_audio "restart" false ≠ .ok true) :
    js_audio.isNull = false → r'.audioActive = true ∧
      myJsValue num js_audio "restart" false = .ok false ∧
      ∃ audio, readAudioDevice num js_audio = .ok audio ∧
        r'.audiodevice = storedAudio num env.configureAudio audio r := by
  intro hnull
  rw [hnull] at h
  obtain ⟨hasks, audio, hread, hactive, hdevice, -⟩ := applyAudio_stores h hrestart
  exact ⟨hactive, hasks, audio, hread, hdevice⟩

/-- After a configuration that does not ask for a restart has been applied, its settings
are stored. -/
theorem applySettings_stores {devcfg : Json} {r r' : Renderer}
    (h : applySettings num env devcfg r = .ok () r')
    (hrestart : ∀ js_audio, subscript devcfg "audiocfg" = .ok js_audio →
      myJsValue num js_audio "restart" false ≠ .ok true) :
    ∃ js_audio js_rendersettings js_stage,
      Stored num env devcfg js_audio js_rendersettings js_stage r r' := by
  rw [applySettings, ofExcept_bind_eq_ok] at h
  obtain ⟨js_audio, hjs_audio, h⟩ := h
  obtain ⟨_, r₁, haudio, h⟩ := bind_eq_ok.1 h
  obtain ⟨js_rendersettings, hjs_rendersettings, h⟩ := ofExcept_bind_eq_ok.1 h
  obtain ⟨_, r₂, hthisdev, h⟩ := bind_eq_ok.1 h
  obtain ⟨js_stage, hjs_stage, h⟩ := ofExcept_bind_eq_ok.1 h
  obtain ⟨_, r₃, hroom, h⟩ := bind_eq_ok.1 h
  have haudio' := audio_stores haudio (hrestart js_audio hjs_audio)
  obtain ⟨hdev, hdevice₂, hactive₂⟩ := thisdev_stores hthisdev
  obtain ⟨hstored, hdev₃, hdevice₃, hactive₃⟩ := room_stores hroom
  obtain ⟨hactive', hsame, hskip⟩ := startAudioIfNeeded_stores h
  refine ⟨js_audio, js_rendersettings, js_stage, hjs_audio, hjs_rendersettings, hjs_stage,
    hactive', ?_, ?_, ?_⟩
  · intro hnull
    obtain ⟨hactive₁, hasks, audio, hread, hdevice₁⟩ := haudio' hnull
    -- the backend is active already, so the last section does nothing
    have hsame' : r' = r₃ := hskip (by rw [hactive₃, hactive₂, hactive₁])
    exact ⟨hasks, audio, hread, by rw [hsame', hdevice₃, hdevice₂, hdevice₁]⟩
  · intro hnull
    rw [hsame.stage, hdev₃]
    exact hdev hnull
  · intro hobj
    have hroomstored := (hstored hobj).of_sameSettings hsame
    rwa [← hsame.stage] at hroomstored

end Stored

end Libov
