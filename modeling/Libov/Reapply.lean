/-
# Applying a configuration again

The service loop applies the device configuration in every cycle.  Each setter
compares the new value with the stored one, so a second application of the same
configuration finds nothing to do where the stored values are still those of the
configuration.  Two of them are not left alone: a start of the audio backend
stores the sample rate and the period size of the JACK server, and a start of a
session looks up devices of the stage by `operator[]`.
-/
import Libov.ConfigEffects

namespace Libov

open Programs Renderer

/-! ## Devices added by a start -/

/-- A start adds nothing to the stage: there is no host, or the own device is listed
and, where it places the receiver, the device of the render settings as well. -/
def OwnListed (st : Stage) : Prop :=
  st.host = "" ∨ (st.stage.contains st.thisstagedeviceid = true ∧
    (placesReceiver st = true → st.stage.contains st.rendersettings.id = true))

theorem stageAtStart_stage (r : Renderer) :
    r.stageAtStart = { r.stage with stage := r.stageAtStart.stage } := by
  rw [stageAtStart]
  split
  · rfl
  · rfl

theorem stageAtStart_of_ownListed {r : Renderer} (h : OwnListed r.stage) :
    r.stageAtStart = r.stage := by
  rw [stageAtStart]
  rcases h with hhost | ⟨hown, hreceiver⟩
  · rw [hhost, bne_self_eq_false, if_neg Bool.false_ne_true]
  · have hlookup : lookedUp r.stage = r.stage.stage := by
      rw [lookedUp, OrderedMap.touch_of_contains hown]
      cases hplaces : placesReceiver r.stage with
      | true => rw [if_pos rfl, OrderedMap.touch_of_contains (hreceiver hplaces)]
      | false => rw [if_neg Bool.false_ne_true]
    rw [hlookup]
    split
    · rfl
    · rfl

/-- A look-up that adds a device makes the stage a different one. -/
theorem stageMapNe_stageAtStart {r : Renderer} (h : ¬ OwnListed r.stage) :
    stageMapNe r.stageAtStart.stage r.stage.stage = true := by
  rw [OwnListed, not_or] at h
  obtain ⟨hhost, hlisted⟩ := h
  rw [stageAtStart, if_pos (bne_iff_ne.2 hhost)]
  apply stageMapNe_of_size
  show (lookedUp r.stage).size ≠ r.stage.stage.size
  rw [lookedUp]
  cases hown : r.stage.stage.contains r.stage.thisstagedeviceid with
  | false =>
      have hadded := OrderedMap.size_touch hown StageDevice.zero
      split
      · have hmore := OrderedMap.size_le_touch
          (r.stage.stage.touch r.stage.thisstagedeviceid StageDevice.zero)
          r.stage.rendersettings.id StageDevice.zero
        omega
      · omega
  | true =>
      have hreceiver : placesReceiver r.stage = true ∧
          r.stage.stage.contains r.stage.rendersettings.id = false := by
        by_contra hno
        apply hlisted
        refine ⟨hown, ?_⟩
        intro hplaces
        rw [← Bool.not_eq_false]
        intro hmissing
        exact hno ⟨hplaces, hmissing⟩
      rw [OrderedMap.touch_of_contains hown, if_pos hreceiver.1,
        OrderedMap.size_touch hreceiver.2]
      omega

/-! ## The audio backend -/

/-- A device other than the stored one ends the session, unless it is "manual". -/
theorem configureAudioBackend_ends (num : Numeric) (reply : JackReply) {r : Renderer}
    {audio : AudioDevice} (hsession : r.sessionActive = true) (haudio : r.audioActive = true)
    (hne : r.audiodevice ≠ audio) (hmanual : audio.devicename ≠ "manual") :
    Grew (fun _ => True) (r.log ++ [.endingSession])
      (stateAfter (configureAudioBackend num reply audio) r) := by
  have hstable : Stable (Grew (fun _ => True) (r.log ++ [.endingSession])) :=
    stable_grew fun _ _ => trivial
  have hdiffers : (r.audiodevice.ne audio || !r.audioActive) = true := by
    rw [← Bool.not_eq_false, Bool.or_eq_false_iff, AudioDevice.ne_eq_false_iff]
    intro hboth
    exact hne hboth.1
  have hrestart :
      (r.audiodevice.devicename == "manual" && audio.devicename == "manual") = false := by
    rw [beq_eq_false_iff_ne.2 hmanual, Bool.and_false]
  rw [configureAudioBackend, stateAfter, get_bind_apply, hdiffers, onlyIf_of_true rfl,
    modify_bind_apply, hrestart, haudio, Bool.not_false, Bool.true_and, onlyIf_of_true rfl,
    modify_bind_apply]
  refine Keeps.bind (hstable.startAudiobackend num reply) ?_ _ ?_
  · intro _
    exact Keeps.of_modify fun r' hr' => hstable.audio r'.audiodevice true r'.hJack hr'
  · rw [stopForNewAudio]
    simp only [hsession, if_true]
    -- the log goes on with the lines behind the first one
    refine ⟨[.endedSession, .stoppingAudio, .stoppedAudio], ?_, fun _ _ => trivial⟩
    simp only [stopAudiobackend, Renderer.endSession, requireSessionRestart, consoleLog,
      List.append_assoc, List.cons_append, List.nil_append]

/-! ## What a configuration asks for -/

section Asked

variable (num : Numeric) (env : ConfigEnv) (devcfg : Json)

/-- The audio device of a configuration. -/
def requestedAudio : Option AudioDevice :=
  match subscript devcfg "audiocfg" with
  | .ok js_audio => if js_audio.isNull then none else (readAudioDevice num js_audio).toOption
  | .error _ => none

/-- The configuration asks for a restart of the audio backend. -/
def asksRestart : Bool :=
  match subscript devcfg "audiocfg" with
  | .ok js_audio => (myJsValue num js_audio "restart" false).toOption.getD false
  | .error _ => false

/-- The devices that a configuration lists for the room. -/
def listedStage : Option StageMap :=
  match subscript devcfg "room", subscript devcfg "roomdev" with
  | .ok js_stage, .ok js_stagedevs =>
      if js_stage.isObject then
        js_stagedevs.array?.bind fun devs => (readStage num devs).toOption
      else none
  | _, _ => none

/-- The ambient sound of the room. -/
def ambientUrl : Option String :=
  match subscript devcfg "room", subscript devcfg "rendersettings" with
  | .ok js_stage, .ok js_rendersettings =>
      if js_stage.isObject then
        (readRoomSettings num js_stage js_rendersettings).toOption.map
          RenderSettings.ambientsound
      else none
  | _, _ => none

/-- The audio device that a configuration asks for stays stored when the configuration
is applied to `r` : it is "manual", or active already, or JACK reports the sample rate
and the period size asked for. -/
def AudioAsRequested (r : Renderer) : Prop :=
  ∀ audio, requestedAudio num devcfg = some audio → audio.devicename = "manual" ∨
    (r.audioActive = true ∧ r.audiodevice = audio) ∨
    reported num env.configureAudio audio = audio

/-- A start adds nothing to the devices that a configuration lists. -/
def StageAsListed (st : Stage) : Prop :=
  ∀ stage, listedStage num devcfg = some stage → OwnListed { st with stage := stage }

/-- The ambient sound file of the room cannot be used. -/
def AmbientUnreadable : Prop :=
  ∃ url, ambientUrl num devcfg = some url ∧ url ≠ "" ∧ env.ambient ≠ some 4

end Asked

section Again

variable {num : Numeric} {env env' : ConfigEnv} {devcfg js_audio js_rendersettings js_stage : Json}
  {r₀ rs r : Renderer}

/-- The renderer `r` runs a session that has been started from `rs`. -/
structure Running (rs r : Renderer) : Prop where
  sessionActive : r.sessionActive = true
  restartNeeded : r.restartNeeded = false
  audioActive : r.audioActive = true
  stage : r.stage = rs.stageAtStart
  extra : r.extra = rs.extra
  localip : r.localip = rs.localip

/-- Another description of the audio device. -/
theorem Running.audiodevice (h : Running rs r) (a : AudioDevice) :
    Running rs { r with audiodevice := a } :=
  ⟨h.sessionActive, h.restartNeeded, h.audioActive, h.stage, h.extra, h.localip⟩

theorem Running.stage_eq (h : Running rs r) :
    r.stage = { rs.stage with stage := r.stage.stage } := by
  rw [h.stage]
  exact stageAtStart_stage rs

/-! ## The audio section -/

theorem requestedAudio_eq (hs : Stored num env devcfg js_audio js_rendersettings js_stage r₀ rs) :
    requestedAudio num devcfg
      = if js_audio.isNull then none else (readAudioDevice num js_audio).toOption := by
  rw [requestedAudio, hs.audiocfg]

/-- An audio section that asks for what is stored changes the description at most. -/
theorem audio_again (env' : ConfigEnv)
    (hs : Stored num env devcfg js_audio js_rendersettings js_stage r₀ rs)
    (hr : Running rs r) (hdevice : r.audiodevice = rs.audiodevice)
    (hkept : AudioAsRequested num env devcfg r₀) :
    ∃ a, onlyIf (!js_audio.isNull) (applyAudio num env' js_audio) r
      = .ok () { r with audiodevice := a } := by
  cases hnull : js_audio.isNull with
  | true => exact ⟨r.audiodevice, rfl⟩
  | false =>
      obtain ⟨hasks, audio, hread, hstored⟩ := hs.audio hnull
      have hrequested : requestedAudio num devcfg = some audio := by
        rw [requestedAudio_eq hs, hnull, if_neg Bool.false_ne_true, hread]
        rfl
      have hconf : configureAudioBackend num env'.configureAudio audio r
          = .ok () { r with audiodevice := audio } := by
        rw [← hdevice] at hstored
        by_cases hsame : r.audiodevice = audio
        · rw [← hsame]
          exact configureAudioBackend_same num _ hr.audioActive
        · -- the stored device differs from the one asked for, so it is a "manual" one
          rw [storedAudio] at hstored
          split at hstored
          · exact absurd hstored hsame
          · rename_i hstart
            rw [not_or] at hstart
            have hmanual : audio.devicename = "manual" := by
              rcases hkept audio hrequested with hmanual | hactive | hreported
              · exact hmanual
              · exact absurd hactive hstart.1
              · exact absurd (hstored.trans hreported) hsame
            apply configureAudioBackend_manual num _ hr.audioActive _ hmanual
            rw [hstored, reported]
            split
            · exact hmanual
            · exact hmanual
      refine ⟨audio, ?_⟩
      rw [Bool.not_false, onlyIf_of_true rfl, applyAudio,
        bind_of_ok (ofExcept_eq_ok.2 ⟨hread, rfl⟩), bind_of_ok hconf,
        bind_of_ok (ofExcept_eq_ok.2 ⟨hasks, rfl⟩)]
      rfl

/-- An audio section that asks for something else ends the session. -/
theorem audio_again_ends (hs : Stored num env devcfg js_audio js_rendersettings js_stage r₀ rs)
    (hr : Running rs r) (hdevice : r.audiodevice = rs.audiodevice)
    (hkept : ¬ AudioAsRequested num env devcfg r₀) :
    Grew (fun _ => True) (r.log ++ [.endingSession])
      (stateAfter (onlyIf (!js_audio.isNull) (applyAudio num env' js_audio)) r) := by
  simp only [AudioAsRequested, not_forall, not_or] at hkept
  obtain ⟨audio, hrequested, hmanual, hactive, hreported⟩ := hkept
  rw [requestedAudio_eq hs] at hrequested
  cases hnull : js_audio.isNull with
  | true =>
      rw [hnull] at hrequested
      cases hrequested
  | false =>
      obtain ⟨-, audio', hread, hstored⟩ := hs.audio hnull
      rw [hnull, if_neg Bool.false_ne_true, hread] at hrequested
      cases hrequested
      have hne : r.audiodevice ≠ audio := by
        rw [hdevice, hstored, storedAudio, if_neg]
        · exact hreported
        · rintro (hboth | hboth)
          · exact hactive hboth
          · exact hmanual hboth.2
      have hstable : Stable (Grew (fun _ => True) (r.log ++ [.endingSession])) :=
        stable_grew fun _ _ => trivial
      rw [Bool.not_false, onlyIf_of_true rfl, applyAudio, stateAfter,
        bind_of_ok (ofExcept_eq_ok.2 ⟨hread, rfl⟩)]
      refine Keeps.behind (configureAudioBackend_ends num _ hr.sessionActive hr.audioActive hne
        hmanual) ?_
      intro _
      refine Keeps.bind (Keeps.of_except _) ?_
      intro restart
      exact Keeps.onlyIf (hstable.restartAudio num env'.restartAudio)

/-! ## The device and the room -/

theorem thisdev_again (hs : Stored num env devcfg js_audio js_rendersettings js_stage r₀ rs)
    (hr : Running rs r) :
    onlyIf (!js_rendersettings.isNull) (applyThisdev num js_rendersettings) r = .ok () r := by
  cases hnull : js_rendersettings.isNull with
  | true => rfl
  | false =>
      have hread := hs.thisdev hnull
      have hdev : rs.stage.thisdevice = r.stage.thisdevice := by
        rw [hr.stage_eq]
      rw [Bool.not_false, onlyIf_of_true rfl, applyThisdev,
        bind_of_ok (ofExcept_eq_ok.2 ⟨hread, rfl⟩), modify_apply, hdev, setThisdev_same]

/-- Render settings with an unreadable ambient sound are not read any further. -/
theorem readRenderSettings_of_unreadable {ambient : Option ℕ} {room : RenderSettings}
    (hroom : readRoomSettings num js_stage js_rendersettings = .ok room)
    (hbad : room.ambientsound ≠ "" ∧ ambient ≠ some 4) :
    readRenderSettings num ambient js_stage js_rendersettings
      = .error (.ambientSound room.ambientsound ambient) := by
  have hcheck : checkAmbient ambient room.ambientsound
      = .error (.ambientSound room.ambientsound ambient) := if_pos hbad
  simp only [readRenderSettings, hroom, bind, Except.bind, hcheck]

theorem readRenderSettings_of_readable {ambient : Option ℕ} {room : RenderSettings}
    (hroom : readRoomSettings num js_stage js_rendersettings = .ok room)
    (hgood : ¬ (room.ambientsound ≠ "" ∧ ambient ≠ some 4)) :
    readRenderSettings num ambient js_stage js_rendersettings
      = readPortSettings num js_rendersettings room := by
  have hcheck : checkAmbient ambient room.ambientsound = .ok () := if_neg hgood
  simp only [readRenderSettings, hroom, bind, Except.bind, hcheck]

/-- The render settings are read as before, or the ambient sound is found unreadable. -/
theorem readRenderSettings_again {ambient : Option ℕ} {rendersettings : RenderSettings}
    (h : readRenderSettings num ambient js_stage js_rendersettings = .ok rendersettings)
    (ambient' : Option ℕ) :
    ∃ room, readRoomSettings num js_stage js_rendersettings = .ok room ∧
      ((room.ambientsound ≠ "" ∧ ambient' ≠ some 4) ∧
          readRenderSettings num ambient' js_stage js_rendersettings
            = .error (.ambientSound room.ambientsound ambient') ∨
        ¬ (room.ambientsound ≠ "" ∧ ambient' ≠ some 4) ∧
          readRenderSettings num ambient' js_stage js_rendersettings = .ok rendersettings) := by
  cases hroom : readRoomSettings num js_stage js_rendersettings with
  | error e =>
      rw [readRenderSettings, hroom] at h
      cases h
  | ok room =>
      refine ⟨room, rfl, ?_⟩
      have hports : readPortSettings num js_rendersettings room = .ok rendersettings := by
        by_cases hbad : room.ambientsound ≠ "" ∧ ambient ≠ some 4
        · rw [readRenderSettings_of_unreadable hroom hbad] at h
          cases h
        · rwa [readRenderSettings_of_readable hroom hbad] at h
      by_cases hbad : room.ambientsound ≠ "" ∧ ambient' ≠ some 4
      · exact Or.inl ⟨hbad, readRenderSettings_of_unreadable hroom hbad⟩
      · exact Or.inr ⟨hbad, by rw [readRenderSettings_of_readable hroom hbad, hports]⟩

theorem extracfg_again {ambient : Option ℕ} {stage : StageMap}
    (hs : RoomStored num ambient devcfg js_rendersettings js_stage stage rs) (hr : Running rs r) :
    applyExtracfg num js_rendersettings r = .ok () r := by
  obtain ⟨xcfg, hread, hsettled⟩ := hs.extracfg
  rw [applyExtracfg, bind_of_ok (ofExcept_eq_ok.2 ⟨hread, rfl⟩)]
  cases hnull : xcfg.isNull with
  | true => rfl
  | false =>
      rw [Bool.not_false, onlyIf_of_true rfl]
      apply setExtraConfig_settled
      rw [hr.extra, hr.localip]
      exact hsettled hnull

/-- The devices listed are set again, if there is a list. -/
theorem roomdev_again {ambient : Option ℕ} (r : Renderer)
    (hs : RoomStored num ambient devcfg js_rendersettings js_stage rs.stage.stage rs)
    (hroom : subscript devcfg "room" = .ok js_stage) (hobj : js_stage.isObject = true) :
    (listedStage num devcfg = none ∧ applyRoomdev num devcfg r = .ok () r) ∨
      (listedStage num devcfg = some rs.stage.stage ∧
        applyRoomdev num devcfg r = .ok () (setStage rs.stage.stage r)) := by
  obtain ⟨js_stagedevs, hread, hlist⟩ := hs.roomdev
  have hlisted : listedStage num devcfg
      = js_stagedevs.array?.bind fun devs => (readStage num devs).toOption := by
    rw [listedStage, hroom, hread]
    exact if_pos hobj
  rw [hlisted, applyRoomdev, bind_of_ok (ofExcept_eq_ok.2 ⟨hread, rfl⟩)]
  cases harr : js_stagedevs.array? with
  | none => exact Or.inl ⟨rfl, rfl⟩
  | some devs =>
      have hdevs := hlist devs harr
      refine Or.inr ⟨?_, ?_⟩
      · rw [Option.bind_some, hdevs]
        rfl
      · show (ofExcept (readStage num devs) >>= fun newstage =>
          modify (setStage newstage) : Render Unit) r = _
        rw [bind_of_ok (ofExcept_eq_ok.2 ⟨hdevs, rfl⟩)]
        rfl

/-- Up to the render settings, the room finds nothing to do. -/
theorem relay_again (hs : Stored num env devcfg js_audio js_rendersettings js_stage r₀ rs)
    (hr : Running rs r) (hobj : js_stage.isObject = true) :
    applyRoom num env' devcfg js_rendersettings js_stage r
      = (do
          let rendersettings ← ofExcept
            (readRenderSettings num env'.ambient js_stage js_rendersettings)
          let stagedevid ← ofExcept (readStagedevid num js_rendersettings)
          modify (setRenderSettings rendersettings stagedevid)
          applyExtracfg num js_rendersettings
          applyRoomdev num devcfg : Render Unit) r := by
  have hrelay := (hs.roomStored hobj).relay
  have hsame : setRelayServer rs.stage.host rs.stage.port rs.stage.pin r = r := by
    have hstage := hr.stage_eq
    have hhost : rs.stage.host = r.stage.host := by rw [hstage]
    have hport : rs.stage.port = r.stage.port := by rw [hstage]
    have hpin : rs.stage.pin = r.stage.pin := by rw [hstage]
    rw [hhost, hport, hpin, setRelayServer_same]
  rw [applyRoom, bind_of_ok (ofExcept_eq_ok.2 ⟨hrelay, rfl⟩), modify_bind_apply, hsame]

/-- A room with an unreadable ambient sound is given up there, with nothing changed. -/
theorem room_again_unreadable
    (hs : Stored num env devcfg js_audio js_rendersettings js_stage r₀ rs) (hr : Running rs r)
    (hambient : AmbientUnreadable num env' devcfg) :
    js_stage.isObject = true ∧
      ∃ e, applyRoom num env' devcfg js_rendersettings js_stage r = .error e r := by
  obtain ⟨url, hurl, hbad⟩ := hambient
  rw [ambientUrl, hs.room, hs.rendersettings] at hurl
  cases hobj : js_stage.isObject with
  | false =>
      simp only [hobj, Bool.false_eq_true, if_false, reduceCtorEq] at hurl
  | true =>
      refine ⟨rfl, ?_⟩
      obtain ⟨room, hread, hagain⟩ :=
        readRenderSettings_again (hs.roomStored hobj).rendersettings env'.ambient
      have hsound : room.ambientsound = url := by
        simpa only [hobj, if_true, hread, Except.toOption, Option.map_some, Option.some.injEq]
          using hurl
      rw [relay_again hs hr hobj]
      rcases hagain with ⟨-, herror⟩ | ⟨hgood, -⟩
      · rw [herror]
        exact ⟨_, bind_of_error (ofExcept_error _ _)⟩
      · rw [hsound] at hgood
        exact absurd hbad hgood

/-- A room with a readable ambient sound gets to its devices. -/
theorem room_again (hs : Stored num env devcfg js_audio js_rendersettings js_stage r₀ rs)
    (hr : Running rs r) (hobj : js_stage.isObject = true)
    (hambient : ¬ AmbientUnreadable num env' devcfg) :
    applyRoom num env' devcfg js_rendersettings js_stage r = applyRoomdev num devcfg r := by
  have hroom := hs.roomStored hobj
  obtain ⟨room, hread, hagain⟩ := readRenderSettings_again hroom.rendersettings env'.ambient
  have hreadable : readRenderSettings num env'.ambient js_stage js_rendersettings
      = .ok rs.stage.rendersettings := by
    rcases hagain with ⟨hbad, -⟩ | ⟨-, hok⟩
    · refine absurd ⟨room.ambientsound, ?_, hbad⟩ hambient
      simp only [ambientUrl, hs.room, hs.rendersettings, hobj, if_true, hread, Except.toOption,
        Option.map_some]
    · exact hok
  have hsame : setRenderSettings rs.stage.rendersettings rs.stage.thisstagedeviceid r = r := by
    have hstage := hr.stage_eq
    have hrs : rs.stage.rendersettings = r.stage.rendersettings := by rw [hstage]
    have hid : rs.stage.thisstagedeviceid = r.stage.thisstagedeviceid := by rw [hstage]
    rw [hrs, hid, setRenderSettings_same]
  rw [relay_again hs hr hobj, bind_of_ok (ofExcept_eq_ok.2 ⟨hreadable, rfl⟩),
    bind_of_ok (ofExcept_eq_ok.2 ⟨hroom.stagedevid, rfl⟩), modify_bind_apply, hsame,
    bind_of_ok (extracfg_again hroom hr)]

/-! ## The configuration as a whole -/

theorem startAudioIfNeeded_active (reply : JackReply) (hactive : r.audioActive = true) :
    startAudioIfNeeded num reply r = .ok () r := by
  rw [startAudioIfNeeded, get_bind_apply, hactive]
  rfl

/-- A second application up to the session: the room is given up at its ambient sound,
or there is no list of devices, or the devices listed are set again. -/
theorem settings_again (env' : ConfigEnv)
    (hs : Stored num env devcfg js_audio js_rendersettings js_stage r₀ rs)
    (hr : Running rs r) (hdevice : r.audiodevice = rs.audiodevice)
    (hkept : AudioAsRequested num env devcfg r₀) :
    ∃ a, (AmbientUnreadable num env' devcfg ∧
        ∃ e, applySettings num env' devcfg r = .error e { r with audiodevice := a }) ∨
      (¬ AmbientUnreadable num env' devcfg ∧ listedStage num devcfg = none ∧
        applySettings num env' devcfg r = .ok () { r with audiodevice := a }) ∨
      (¬ AmbientUnreadable num env' devcfg ∧ listedStage num devcfg = some rs.stage.stage ∧
        applySettings num env' devcfg r
          = .ok () (setStage rs.stage.stage { r with audiodevice := a })) := by
  obtain ⟨a, haudio⟩ := audio_again env' hs hr hdevice hkept
  have hr' := hr.audiodevice a
  refine ⟨a, ?_⟩
  rw [applySettings, bind_of_ok (ofExcept_eq_ok.2 ⟨hs.audiocfg, rfl⟩), bind_of_ok haudio,
    bind_of_ok (ofExcept_eq_ok.2 ⟨hs.rendersettings, rfl⟩), bind_of_ok (thisdev_again hs hr'),
    bind_of_ok (ofExcept_eq_ok.2 ⟨hs.room, rfl⟩)]
  by_cases hambient : AmbientUnreadable num env' devcfg
  · obtain ⟨hobj, e, hroom⟩ := room_again_unreadable hs hr' hambient
    refine Or.inl ⟨hambient, e, ?_⟩
    rw [onlyIf_of_true hobj, bind_of_error hroom]
  · refine Or.inr ?_
    cases hobj : js_stage.isObject with
    | false =>
        refine Or.inl ⟨hambient, ?_, ?_⟩
        · rw [listedStage, hs.room]
          split
          · rename_i hsubscript _
            cases hsubscript
            rw [hobj, if_neg Bool.false_ne_true]
          · rfl
        · rw [onlyIf_of_false rfl]
          exact startAudioIfNeeded_active _ hr'.audioActive
    | true =>
        rw [onlyIf_of_true rfl]
        rcases roomdev_again { r with audiodevice := a } (hs.roomStored hobj) hs.room hobj
          with ⟨hlisted, hroomdev⟩ | ⟨hlisted, hroomdev⟩
        · refine Or.inl ⟨hambient, hlisted, ?_⟩
          rw [bind_of_ok ((room_again hs hr' hobj hambient).trans hroomdev)]
          exact startAudioIfNeeded_active _ hr'.audioActive
        · refine Or.inr ⟨hambient, hlisted, ?_⟩
          rw [bind_of_ok ((room_again hs hr' hobj hambient).trans hroomdev)]
          exact startAudioIfNeeded_active _ hr'.audioActive

/-- Session and audio backend are not ended on the way from `r` to `r'`, and no new
session is needed. -/
structure Undisturbed (r r' : Renderer) : Prop where
  session : r'.log.count .endingSession = r.log.count .endingSession
  audio : r'.log.count .stoppingAudio = r.log.count .stoppingAudio
  sessionActive : r'.sessionActive = true
  audioActive : r'.audioActive = true
  restartNeeded : r'.restartNeeded = false

instance (r r' : Renderer) : Decidable (Undisturbed r r') :=
  decidable_of_iff
    (r'.log.count .endingSession = r.log.count .endingSession ∧
      r'.log.count .stoppingAudio = r.log.count .stoppingAudio ∧
      r'.sessionActive = true ∧ r'.audioActive = true ∧ r'.restartNeeded = false)
    ⟨fun ⟨h₁, h₂, h₃, h₄, h₅⟩ => ⟨h₁, h₂, h₃, h₄, h₅⟩,
      fun ⟨h₁, h₂, h₃, h₄, h₅⟩ => ⟨h₁, h₂, h₃, h₄, h₅⟩⟩

theorem Running.undisturbed (hr : Running rs r) (a : AudioDevice) :
    Undisturbed r { r with audiodevice := a } :=
  ⟨rfl, rfl, hr.sessionActive, hr.audioActive, hr.restartNeeded⟩

/-- Once the end of the session is in the log, it stays there. -/
theorem not_undisturbed_of_grew {A : LogLine → Prop} {r' : Renderer}
    (h : Grew A (r.log ++ [.endingSession]) r') : ¬ Undisturbed r r' := by
  intro hundisturbed
  have hcount := count_le_of_grew h .endingSession
  rw [hundisturbed.session, List.count_append, List.count_singleton_self] at hcount
  omega

/-- A start of a session only adds to the log. -/
theorem grew_startSession (fault : Option StartFault) {l : List LogLine}
    (h : Grew (fun _ => True) l r) :
    Grew (fun _ => True) l (stateAfter (startSession fault) r) := by
  apply (startStable_grew fun _ => trivial).startSession
  exact grew_consoleLog trivial h

theorem keeps_grew_restartSessionIfNeeded (fault : Option StartFault) (l : List LogLine) :
    Keeps (Grew (fun _ => True) l) (restartSessionIfNeeded fault) := by
  have hstable : Stable (Grew (fun _ => True) l) := stable_grew fun _ _ => trivial
  have hstart : Keeps (Grew (fun _ => True) l) (startSession fault) :=
    fun r hr => grew_startSession fault hr
  rw [restartSessionIfNeeded]
  refine Keeps.bind Keeps.of_get ?_
  intro r
  apply Keeps.ite
  · refine Keeps.bind (Keeps.onlyIf (Keeps.of_modify fun _ hr => hstable.endSession hr)) ?_
    intro _
    exact hstart
  · exact Keeps.onlyIf hstart

/-- An audio device that does not stay stored ends the session in the second application. -/
theorem disturbed_of_audio (hs : Stored num env devcfg js_audio js_rendersettings js_stage r₀ rs)
    (hr : Running rs r) (hdevice : r.audiodevice = rs.audiodevice)
    (hkept : ¬ AudioAsRequested num env devcfg r₀) :
    ¬ Undisturbed r (stateAfter (applyConfig num env' devcfg) r) := by
  have hstable : Stable (Grew (fun _ => True) (r.log ++ [.endingSession])) :=
    stable_grew fun _ _ => trivial
  apply not_undisturbed_of_grew
  rw [applyConfig]
  refine Keeps.behind ?_ fun _ => keeps_grew_restartSessionIfNeeded env'.fault _
  rw [applySettings, stateAfter, bind_of_ok (ofExcept_eq_ok.2 ⟨hs.audiocfg, rfl⟩)]
  exact Keeps.behind (audio_again_ends hs hr hdevice hkept) fun _ =>
    hstable.applySettings_rest num env' devcfg

/-- Setting the devices listed again makes the stage another one where a start has added
devices to them. -/
theorem disturbed_of_stage (hr : Running rs r) (fault : Option StartFault) (a : AudioDevice)
    (hlisted : ¬ OwnListed rs.stage) :
    ¬ Undisturbed r (stateAfter (restartSessionIfNeeded fault)
      (setStage rs.stage.stage { r with audiodevice := a })) := by
  have hne : stageMapNe r.stage.stage rs.stage.stage = true := by
    rw [hr.stage]
    exact stageMapNe_stageAtStart hlisted
  obtain ⟨hactive, hrestart⟩ :=
    setStage_differs (hr.audiodevice a).sessionActive hne
  apply not_undisturbed_of_grew
  rw [stateAfter, restartSessionIfNeeded_starts fault (by rw [hrestart, Bool.true_or]), hactive,
    if_pos rfl]
  apply grew_startSession
  exact ⟨[.endedSession], rfl, fun _ _ => trivial⟩

/-- The second application leaves session and audio backend alone exactly if the device
asked for stays stored and a start adds nothing to the devices listed, or the room is
given up at its ambient sound. -/
theorem applyConfig_again_iff
    (hs : Stored num env devcfg js_audio js_rendersettings js_stage r₀ rs)
    (hr : Running rs r) (hdevice : r.audiodevice = rs.audiodevice) :
    Undisturbed r (stateAfter (applyConfig num env' devcfg) r) ↔
      AudioAsRequested num env devcfg r₀ ∧
        (StageAsListed num devcfg r.stage ∨ AmbientUnreadable num env' devcfg) := by
  by_cases hkept : AudioAsRequested num env devcfg r₀
  · obtain ⟨a, hagain⟩ := settings_again env' hs hr hdevice hkept
    rcases hagain with ⟨hambient, e, hsettings⟩ | ⟨hambient, hlist, hsettings⟩ |
      ⟨hambient, hlist, hsettings⟩
    · rw [applyConfig, stateAfter_error (bind_of_error hsettings)]
      exact iff_of_true (hr.undisturbed a) ⟨hkept, Or.inr hambient⟩
    · rw [applyConfig, stateAfter, bind_of_ok hsettings,
        restartSessionIfNeeded_idle env'.fault (hr.audiodevice a).sessionActive
          (hr.audiodevice a).restartNeeded]
      refine iff_of_true (hr.undisturbed a) ⟨hkept, Or.inl ?_⟩
      intro stage hstage
      rw [hlist] at hstage
      cases hstage
    · have hstage : StageAsListed num devcfg r.stage ↔ OwnListed rs.stage := by
        rw [StageAsListed, hlist, hr.stage_eq]
        simp only [Option.some.injEq, forall_eq']
      rw [applyConfig, stateAfter, bind_of_ok hsettings]
      by_cases hlisted : OwnListed rs.stage
      · have hsame : rs.stage.stage = r.stage.stage := by
          rw [hr.stage, stageAtStart_of_ownListed hlisted]
        have hset : setStage rs.stage.stage { r with audiodevice := a }
            = { r with audiodevice := a } := by
          rw [hsame]
          exact setStage_same _
        rw [hset, restartSessionIfNeeded_idle env'.fault (hr.audiodevice a).sessionActive
          (hr.audiodevice a).restartNeeded]
        exact iff_of_true (hr.undisturbed a) ⟨hkept, Or.inl (hstage.2 hlisted)⟩
      · apply iff_of_false (disturbed_of_stage hr env'.fault a hlisted)
        rintro ⟨-, hstay | hunreadable⟩
        · exact hlisted (hstage.1 hstay)
        · exact hambient hunreadable
  · exact iff_of_false (disturbed_of_audio hs hr hdevice hkept) fun h => hkept h.1

/-! ## The application that started the session -/

theorem running_of_started {fault : Option StartFault} (hactive : rs.audioActive = true)
    (h : startSession fault (if rs.sessionActive then rs.endSession else rs) = .ok () r) :
    Running rs r ∧ r.audiodevice = rs.audiodevice := by
  -- the end of a session leaves the settings alone
  have hsettings : ∀ r', r' = (if rs.sessionActive then rs.endSession else rs) →
      r'.audioActive = true ∧ r'.stage = rs.stage ∧ r'.extra = rs.extra ∧
        r'.localip = rs.localip ∧ r'.audiodevice = rs.audiodevice := by
    rintro r' rfl
    split
    · exact ⟨hactive, rfl, rfl, rfl, rfl⟩
    · exact ⟨hactive, rfl, rfl, rfl, rfl⟩
  generalize (if rs.sessionActive then rs.endSession else rs) = r₁ at h hsettings
  obtain ⟨hactive₁, hstage, hextra, hlocalip, hdevice⟩ := hsettings r₁ rfl
  cases hfails : r₁.startFails fault with
  | true => exact absurd (startSession_throws hfails) (not_throws_of_ok h)
  | false =>
      rw [startSession_ok hfails] at h
      cases h
      refine ⟨⟨rfl, rfl, hactive₁, ?_, hextra, hlocalip⟩, hdevice⟩
      show r₁.stageAtStart = rs.stageAtStart
      rw [stageAtStart, stageAtStart, hstage]

/-- An application that has started a session has stored the settings, and the session
runs with them. -/
theorem applyConfig_starts (h : applyConfig num env devcfg r₀ = .ok () r)
    (hrestart : asksRestart num devcfg = false)
    (hstarted : r₀.log.count .sessionStarted < r.log.count .sessionStarted) :
    ∃ js_audio js_rendersettings js_stage rs,
      Stored num env devcfg js_audio js_rendersettings js_stage r₀ rs ∧ Running rs r ∧
        r.audiodevice = rs.audiodevice := by
  rw [applyConfig, bind_eq_ok] at h
  obtain ⟨_, rs, hsettings, hstart⟩ := h
  have hnorestart : ∀ js_audio, subscript devcfg "audiocfg" = .ok js_audio →
      myJsValue num js_audio "restart" false ≠ .ok true := by
    intro js_audio haudio hasks
    rw [asksRestart, haudio] at hrestart
    simp only [hasks, Except.toOption, Option.getD_some, reduceCtorEq] at hrestart
  obtain ⟨js_audio, js_rendersettings, js_stage, hs⟩ := applySettings_stores hsettings hnorestart
  refine ⟨js_audio, js_rendersettings, js_stage, rs, hs, ?_⟩
  -- the settings start no session, so one is started behind them
  have hgrew : Grew (fun line => line ≠ .sessionStarted) r₀.log rs :=
    ((stable_grew fun _ hx => hx).applySettings num env devcfg).of_ok (grew_refl r₀) hsettings
  have hcount : rs.log.count .sessionStarted = r₀.log.count .sessionStarted :=
    count_of_grew hgrew (not_not_intro rfl)
  have hneeded : (rs.restartNeeded || !rs.sessionActive) = true := by
    by_contra hidle
    rw [Bool.not_eq_true, Bool.or_eq_false_iff, Bool.not_eq_false'] at hidle
    rw [restartSessionIfNeeded_idle env.fault hidle.2 hidle.1] at hstart
    cases hstart
    omega
  rw [restartSessionIfNeeded_starts env.fault hneeded] at hstart
  exact running_of_started hs.audioActive hstart

/-! ## The client -/

/-- A value that has been read with a default is read again with itself as the default. -/
theorem myJsValue_again {T : Type} [Json.FromJson T] {obj : Json} {key : String} {d v : T}
    (h : myJsValue num obj key d = .ok v) : myJsValue num obj key v = .ok v := by
  rw [myJsValue] at h ⊢
  cases hread : (jsValue? num obj key : Except ErrMsg (Option T)) with
  | error e =>
      rw [hread] at h
      cases h
  | ok w =>
      rw [hread] at h
      cases w with
      | none => rfl
      | some w => exact h

/-- Requests that have not made the client quit do not change it. -/
theorem quitIfRequested_none {requests : List (Except ErrMsg Bool)} {c c' : Client}
    (h : quitIfRequested requests c = .ok () c') (hquit : c'.quitrequest = false) :
    c' = c ∧ ∀ request ∈ requests, request = .ok false := by
  induction requests generalizing c with
  | nil =>
      cases h
      exact ⟨rfl, fun _ hmem => absurd hmem List.not_mem_nil⟩
  | cons request requests ih =>
      rw [quitIfRequested, ofExcept_bind_eq_ok] at h
      obtain ⟨quit, hrequest, h⟩ := h
      rw [bind_eq_ok] at h
      obtain ⟨_, c₁, hif, h⟩ := h
      obtain ⟨hc', hnone⟩ := ih h
      cases quit with
      | true =>
          -- a request stays
          cases hif
          rw [hc'] at hquit
          cases hquit
      | false =>
          cases hif
          refine ⟨hc', ?_⟩
          rw [List.forall_mem_cons]
          exact ⟨hrequest, hnone⟩

theorem quitIfRequested_idle {requests : List (Except ErrMsg Bool)} (c : Client)
    (h : ∀ request ∈ requests, request = .ok false) :
    quitIfRequested requests c = .ok () c := by
  induction requests with
  | nil => rfl
  | cons request requests ih =>
      rw [List.forall_mem_cons] at h
      rw [quitIfRequested, h.1]
      exact ih h.2

/-- A configuration asks for nothing that the client has not got, apart from the renderer. -/
structure ClientSettled (num : Numeric) (devcfg : Json) (c : Client) : Prop where
  mixer : myJsValue num devcfg "standalonemixer" false = .ok c.standaloneMixer
  owner : myJsValue num devcfg "owner" c.owner = .ok c.owner
  requests : ∀ request ∈ quitRequests num devcfg, request = .ok false
  running : c.quitrequest = false

theorem checkMixer_ok {c c' : Client} (h : checkMixer num devcfg c = .ok () c')
    (hquit : c'.quitrequest = false) :
    myJsValue num devcfg "standalonemixer" false = .ok c.standaloneMixer ∧ c' = c := by
  rw [checkMixer, ofExcept_bind_eq_ok] at h
  obtain ⟨mixer, hread, h⟩ := h
  rw [get_bind_apply] at h
  cases hnew : mixer != c.standaloneMixer with
  | true =>
      -- another mode makes the client quit
      rw [hnew] at h
      cases h
      cases hquit
  | false =>
      rw [hnew] at h
      cases h
      rw [bne_eq_false_iff_eq] at hnew
      rw [← hnew]
      exact ⟨hread, rfl⟩

/-- A call of `parse_config` that does not make the client quit leaves it settled, and has
applied the configuration to the renderer. -/
theorem parseConfig_settles {c c₁ : Client} (h : parseConfig num env devcfg c = .ok () c₁)
    (hquit : c₁.quitrequest = false) :
    applyConfig num env devcfg c.backend = .ok () c₁.backend ∧ ClientSettled num devcfg c₁ := by
  rw [parseConfig, bind_eq_ok] at h
  obtain ⟨_, c₂, hmixer, h⟩ := h
  obtain ⟨_, c₃, howner, h⟩ := bind_eq_ok.1 h
  obtain ⟨_, c₄, hrequests, h⟩ := bind_eq_ok.1 h
  rw [get_bind_apply] at h
  -- the part on the renderer leaves the request alone
  have hquit₄ : c₄.quitrequest = false := by
    cases hq : c₄.quitrequest with
    | false => rfl
    | true =>
        rw [hq] at h
        cases h
        rw [hq] at hquit
        exact hquit
  rw [hquit₄, Bool.not_false, onlyIf_of_true rfl] at h
  obtain ⟨r, happly, rfl⟩ := onPart_eq_ok.1 h
  obtain ⟨rfl, hnone⟩ := quitIfRequested_none hrequests hquit₄
  rw [checkOwner, get_bind_apply, ofExcept_bind_eq_ok] at howner
  obtain ⟨owner, hread, howner⟩ := howner
  cases howner
  obtain ⟨hmode, rfl⟩ := checkMixer_ok hmixer hquit₄
  exact ⟨happly, hmode, myJsValue_again hread, hnone, hquit₄⟩

/-- For a settled client only the renderer is left. -/
theorem parseConfig_of_settled {c : Client} (h : ClientSettled num devcfg c) :
    (stateAfter (parseConfig num env devcfg) c).backend
      = stateAfter (applyConfig num env devcfg) c.backend := by
  have hmixer : checkMixer num devcfg c = .ok () c := by
    rw [checkMixer, bind_of_ok (ofExcept_eq_ok.2 ⟨h.mixer, rfl⟩), get_bind_apply,
      bne_self_eq_false]
    rfl
  have howner : checkOwner num devcfg c = .ok () c := by
    rw [checkOwner, get_bind_apply, bind_of_ok (ofExcept_eq_ok.2 ⟨h.owner, rfl⟩)]
    rfl
  have hrest : parseConfig num env devcfg c
      = onPart Client.backend (fun r c => { c with backend := r })
          (applyConfig num env devcfg) c := by
    rw [parseConfig, bind_of_ok hmixer, bind_of_ok howner,
      bind_of_ok (quitIfRequested_idle c h.requests), get_bind_apply, h.running, Bool.not_false,
      onlyIf_of_true rfl]
  rw [stateAfter, hrest]
  exact congrArg Client.backend (stateAfter_onPart _ _ _ c)

/-- After a call of `parse_config` that has started a session, the next call with the same
configuration ends neither the session nor the audio backend and leaves no restart
pending, exactly if the audio device asked for stays stored and a start adds nothing to
the devices listed, or the room is given up at its ambient sound. -/
theorem reapply_undisturbed_iff (num : Numeric) (env env' : ConfigEnv) (devcfg : Json)
    (c c₁ : Client) (h : parseConfig num env devcfg c = .ok () c₁)
    (hquit : c₁.quitrequest = false) (hrestart : asksRestart num devcfg = false)
    (hstarted : c.backend.log.count .sessionStarted < c₁.backend.log.count .sessionStarted) :
    Undisturbed c₁.backend (stateAfter (parseConfig num env' devcfg) c₁).backend ↔
      AudioAsRequested num env devcfg c.backend ∧
        (StageAsListed num devcfg c₁.backend.stage ∨ AmbientUnreadable num env' devcfg) := by
  obtain ⟨happly, hsettled⟩ := parseConfig_settles h hquit
  obtain ⟨js_audio, js_rendersettings, js_stage, rs, hs, hr, hdevice⟩ :=
    applyConfig_starts happly hrestart hstarted
  rw [parseConfig_of_settled hsettled]
  exact applyConfig_again_iff hs hr hdevice

end Again

/-! ## Two clients -/

section Runs

/-- A JACK server with a sample rate and a period size, and no fault. -/
def runningJack (rate bufsize : UInt32) : ConfigEnv where
  configureAudio := ⟨true, some (rate, bufsize)⟩
  restartAudio := ⟨true, some (rate, bufsize)⟩
  startAudio := ⟨true, some (rate, bufsize)⟩
  ambient := none
  fault := none

/-- A client with a new renderer. -/
def newClient : Client := Client.init (Renderer.init Numeric.exact "box" "127.0.0.1")

/-- An audio device with the rate of the server, and a room without a host. -/
def localConfig : Json :=
  .obj [("audiocfg", .obj [("srate", .int 48000), ("periodsize", .int 96)]), ("room", .obj [])]

/-- A room whose list of devices does not have the own one. -/
def emptyRoomConfig : Json :=
  .obj [("room", .obj [("host", .str "relay")]), ("roomdev", .arr [])]

/-- Another sample rate than that of the server. -/
def otherRateConfig : Json := .obj [("audiocfg", .obj [("srate", .int 44100)])]

/-- The client after a call of `parse_config`. -/
def configured (env : ConfigEnv) (devcfg : Json) (c : Client) : Client :=
  stateAfter (parseConfig Numeric.exact env devcfg) c

/-- With the rate and the period size of the server, and no list of devices, nothing is
ended. -/
theorem reapply_undisturbed_local :
    ∃ c₁, parseConfig Numeric.exact (runningJack 48000 96) localConfig newClient = .ok () c₁ ∧
      Undisturbed c₁.backend
        (stateAfter (parseConfig Numeric.exact (runningJack 48000 96) localConfig) c₁).backend := by
  have hreturns :
      ¬ Throws (parseConfig Numeric.exact (runningJack 48000 96) localConfig) newClient := by
    decide +kernel
  obtain ⟨_, hcall⟩ := ok_of_not_throws hreturns
  refine ⟨_, hcall, (reapply_undisturbed_iff Numeric.exact _ _ _ _ _ hcall ?_ ?_ ?_).2
    ⟨?_, Or.inl ?_⟩⟩
  · decide +kernel
  · decide +kernel
  · decide +kernel
  · have hasked : requestedAudio Numeric.exact localConfig
        = some ⟨"jack", "hw:1", 48000, 96, 2, 40⟩ := by
      decide +kernel
    intro audio haudio
    rw [hasked] at haudio
    cases haudio
    exact Or.inr (Or.inr (by decide +kernel))
  · have hlist : (listedStage Numeric.exact localConfig).isNone = true := by
      decide +kernel
    intro stage hstage
    rw [hstage] at hlist
    cases hlist

/-- A start adds the own device to an empty room, so the next call with the same
configuration ends the session; so it does where JACK runs at another rate. -/
theorem reapply_ends_session :
    (¬ Throws (parseConfig Numeric.exact (runningJack 48000 96) emptyRoomConfig) newClient ∧
      (let c₁ := configured (runningJack 48000 96) emptyRoomConfig newClient
       c₁.quitrequest = false ∧ asksRestart Numeric.exact emptyRoomConfig = false ∧
        newClient.backend.log.count .sessionStarted < c₁.backend.log.count .sessionStarted ∧
        ¬ Undisturbed c₁.backend
          (configured (runningJack 48000 96) emptyRoomConfig c₁).backend)) ∧
    (¬ Throws (parseConfig Numeric.exact (runningJack 48000 96) otherRateConfig) newClient ∧
      (let c₁ := configured (runningJack 48000 96) otherRateConfig newClient
       c₁.quitrequest = false ∧ asksRestart Numeric.exact otherRateConfig = false ∧
        newClient.backend.log.count .sessionStarted < c₁.backend.log.count .sessionStarted ∧
        ¬ Undisturbed c₁.backend
          (configured (runningJack 48000 96) otherRateConfig c₁).backend)) := by
  decide +kernel

end Runs

end Libov
