/-
# The running session

The renderer does not start a session again with every change: the setters compare what they
get with what they have, and request a new session where it matters.  So the running session
may be described by other settings than the present ones.  It must not be, unless a new session
has been requested, or what has changed is written in the same way.  The calls are those of
`RenderCall`; plugins that are written back to the settings, and other paths or permissions than
those of the start, are not looked at.

* `Served` : a renderer with the settings by which its running session has been described;
* `Continues` : what every method but `start_session` does to a renderer with a running session;
* `UpToDate`, `upToDate_servedStep` : the invariant, and that the calls keep it;
* `running_session_current_iff` : the running session is described as a new one would be, exactly
  if the quietly changed variables are written alike.
-/
import Libov.NamedDevices
import Libov.SessionChanges
import Libov.SessionFlags

open Programs Runs

namespace Programs

variable {ε σ α β : Type}

/-- A sequence throws where one of its programs does. -/
theorem bind_eq_error {x : EStateM ε σ α} {f : α → EStateM ε σ β} {s s' : σ} {e : ε} :
    (x >>= f) s = .error e s' ↔ x s = .error e s' ∨ ∃ a t, x s = .ok a t ∧ f a t = .error e s' := by
  rcases hx : x s with ⟨a, t⟩ | ⟨e', t⟩
  · rw [bind_of_ok hx]
    constructor
    · exact fun hf => Or.inr ⟨a, t, rfl, hf⟩
    · rintro (hfails | ⟨b, u, hok, hf⟩)
      · cases hfails
      · cases hok
        exact hf
  · rw [bind_of_error hx]
    constructor
    · intro hfails
      cases hfails
      exact Or.inl rfl
    · rintro (hfails | ⟨b, u, hok, -⟩)
      · cases hfails
        rfl
      · cases hok

end Programs

namespace Libov

open Renderer

/-! ## What a start looks up -/

/-- The stage behind a start. -/
def Stage.atStart (st : Stage) : Stage :=
  if st.host != "" then { st with stage := lookedUp st } else st

/-- The look-up at a start leaves the device of this client on stage as it is read. -/
theorem ownDevice_lookedUp (st : Stage) :
    ownDevice { st with stage := lookedUp st } = ownDevice st := by
  show ((lookedUp st).find? st.thisstagedeviceid).getD StageDevice.zero = _
  unfold lookedUp
  dsimp only
  split_ifs
  · rw [OrderedMap.getD_find?_touch, OrderedMap.getD_find?_touch]
    rfl
  · rw [OrderedMap.getD_find?_touch]
    rfl

/-- A second look-up finds everything there. -/
theorem lookedUp_lookedUp (st : Stage) :
    lookedUp { st with stage := lookedUp st } = lookedUp st := by
  have hplaces : placesReceiver { st with stage := lookedUp st } = placesReceiver st := by
    unfold placesReceiver
    rw [ownDevice_lookedUp]
  have hown : (lookedUp st).contains st.thisstagedeviceid = true := by
    unfold lookedUp
    dsimp only
    split_ifs
    · exact OrderedMap.contains_touch (OrderedMap.contains_touch_self _ _ _) _ _
    · exact OrderedMap.contains_touch_self _ _ _
  rw [lookedUp, hplaces]
  dsimp only
  rw [OrderedMap.touch_of_contains hown]
  split_ifs with hreceiver
  · apply OrderedMap.touch_of_contains
    unfold lookedUp
    dsimp only
    rw [if_pos hreceiver]
    exact OrderedMap.contains_touch_self _ _ _
  · rfl

section LookedUp

variable (env : SessionEnv) (st : Stage) (x : ExtraVars)

/-- The names of the devices do not see the look-up. -/
theorem getStagedevName_lookedUp (id : StageDeviceId) :
    getStagedevName { st with stage := lookedUp st } id = getStagedevName st id := by
  unfold getStagedevName
  rw [lookedUp_lookedUp]

/-- Nor do the devices that are received from. -/
theorem stageMembers_lookedUp :
    stageMembers { st with stage := lookedUp st } = stageMembers st := by
  unfold stageMembers
  rw [lookedUp_lookedUp]

/-- What is added for a device is the same behind the look-up. -/
theorem addNetworkReceiver_lookedUp (stagemember : StageDevice) (chcnt : ℕ) :
    addNetworkReceiver env { st with stage := lookedUp st } stagemember chcnt
      = addNetworkReceiver env st stagemember chcnt := by
  simp only [addNetworkReceiver, receivesFrom, jitterBuffer, addSecondaryBus, rawRoute,
    receiverConnects, rawRouting, ownDevice_lookedUp, getStagedevName_lookedUp]
  rfl

/-- The devices of the stage are received alike behind the look-up. -/
theorem addNetworkReceivers_lookedUp (chcnt : ℕ) (members : List StageDevice) :
    addNetworkReceivers env { st with stage := lookedUp st } chcnt members
      = addNetworkReceivers env st chcnt members := by
  induction members generalizing chcnt with
  | nil => rfl
  | cons stagemember members ih =>
      unfold addNetworkReceivers
      rw [addNetworkReceiver_lookedUp]
      dsimp only
      rw [ih]

/-- The raw mode of a session is the same behind the look-up. -/
theorem createRawDev_lookedUp :
    createRawDev env { st with stage := lookedUp st } x = createRawDev env st x := by
  simp only [createRawDev, rawSender, senderPorts, secondarySelfmonitor, stageMembers_lookedUp,
    addNetworkReceivers_lookedUp, ownDevice_lookedUp, getStagedevName_lookedUp]
  rfl

/-- Whether this device sends does not depend on it. -/
theorem bSender_lookedUp : bSender { st with stage := lookedUp st } = bSender st := by
  unfold bSender
  rw [ownDevice_lookedUp]

/-- The sources of the scene are those from before the look-up. -/
theorem sourceMembers_lookedUp :
    sourceMembers { st with stage := lookedUp st } = sourceMembers st := by
  unfold sourceMembers
  rw [stageMembers_lookedUp, bSender_lookedUp, ownDevice_lookedUp]

/-- The scene is the same behind the look-up. -/
theorem stageScene_lookedUp :
    stageScene env { st with stage := lookedUp st } x = stageScene env st x := by
  have hsources : sources env { st with stage := lookedUp st } x = sources env st x := by
    unfold sources memberSource memberSound
    simp only [sourceMembers_lookedUp, bSender_lookedUp, ownDevice_lookedUp,
      getStagedevName_lookedUp, lookedUp_lookedUp]
    rfl
  unfold stageScene
  rw [hsources]
  rfl

/-- So is the receiver in the scene. -/
theorem receiverPlace_lookedUp :
    receiverPlace env { st with stage := lookedUp st } = receiverPlace env st := by
  unfold receiverPlace
  rw [bSender_lookedUp, lookedUp_lookedUp]

/-- So are the receivers from the network. -/
theorem stageReceivers_lookedUp :
    stageReceivers env { st with stage := lookedUp st } = stageReceivers env st := by
  simp only [stageReceivers, secondarySelfmonitor, stageMembers_lookedUp,
    addNetworkReceivers_lookedUp, ownDevice_lookedUp, getStagedevName_lookedUp]

/-- So are the senders. -/
theorem stageSenders_lookedUp :
    stageSenders env { st with stage := lookedUp st } x = stageSenders env st x := by
  have hsenders : channelSender env { st with stage := lookedUp st } x
      = channelSender env st x := by
    simp only [channelSender, sendsChannels, senderConnects, egoSourceNames, senderPorts,
      sourceMembers_lookedUp, ownDevice_lookedUp]
    rfl
  unfold stageSenders
  rw [hsenders, stageReceivers_lookedUp]
  rfl

/-- The modules of a stage are the same behind the look-up. -/
theorem stageModules_lookedUp :
    stageModules env { st with stage := lookedUp st } x = stageModules env st x := by
  have hmetro :
      metronomeRoute env { st with stage := lookedUp st } x = metronomeRoute env st x := by
    unfold metronomeRoute sendsChannels
    rw [ownDevice_lookedUp]
  have hhead : headtracker env { st with stage := lookedUp st } x = headtracker env st x := by
    simp only [headtracker, tracksHead, ownDevice_lookedUp, getStagedevName_lookedUp]
  have hecho : echoc env { st with stage := lookedUp st } x = echoc env st x := by
    unfold echoc
    rw [ownDevice_lookedUp]
  unfold stageModules
  rw [stageReceivers_lookedUp, stageSenders_lookedUp, hmetro, hhead, hecho]
  rfl

/-- The look-up changes nothing of what is routed through the network. -/
theorem routedParts_lookedUp :
    routedParts env { st with stage := lookedUp st } x = routedParts env st x := by
  unfold routedParts stageConnects
  rw [createRawDev_lookedUp, stageModules_lookedUp, stageReceivers_lookedUp,
    stageSenders_lookedUp]
  rfl

end LookedUp

/-- The look-ups of a start do not change its description. -/
theorem sessionDescription_atStart (env : SessionEnv) (st : Stage) (x : ExtraVars) :
    sessionDescription env st.atStart x = sessionDescription env st x := by
  unfold Stage.atStart
  split_ifs with hhost
  · have hscene : sceneNodes env { st with stage := lookedUp st } x = sceneNodes env st x := by
      unfold sceneNodes
      rw [stageScene_lookedUp, receiverPlace_lookedUp]
      rfl
    unfold sessionDescription
    rw [hscene, routedParts_lookedUp]
    rfl
  · rfl

/-! ## What the methods do to a running session -/

/-- The devices have generated channel ids. -/
def Stage.Named (st : Stage) : Prop := st.thisdevice.Named ∧ NamedStage st.stage

/-- A session that runs is reported as active, on a stage with generated ids. -/
structure Renderer.Sound (r : Renderer) : Prop where
  named : r.stage.Named
  active : r.tascar = true → r.sessionActive = true

/-- No variable has changed, except quiet ones, and a metronome that keeps its delay. -/
def QuietlyChanged (x y : ExtraVars) : Prop :=
  (∀ v, v ∉ quietVars → v ≠ .metronome → y v = x v) ∧
    (sessionMetronome y).delay = (sessionMetronome x).delay

/-- Where nothing has changed, nothing has changed noisily. -/
theorem QuietlyChanged.refl (x : ExtraVars) : QuietlyChanged x x := ⟨fun _ _ _ => rfl, rfl⟩

/-- Quiet changes one after the other are quiet. -/
theorem QuietlyChanged.trans {x y z : ExtraVars} (h : QuietlyChanged x y)
    (h' : QuietlyChanged y z) : QuietlyChanged x z :=
  ⟨fun v hv hm => (h'.1 v hv hm).trans (h.1 v hv hm), h'.2.trans h.2⟩

/-- From `r` to `r'` the session goes on with the same settings, except for quiet changes, or a
new one is requested, or it ends. -/
structure Continues (r r' : Renderer) : Prop where
  sound : r'.Sound
  localip : r'.localip = r.localip
  tascar : r'.tascar = true → r.tascar = true
  settled : r'.tascar = true → r'.restartNeeded = false →
    r.restartNeeded = false ∧ r'.stage = r.stage ∧ QuietlyChanged r.extra r'.extra

namespace Continues

variable {r r₁ r₂ : Renderer}

/-- A sound renderer on which nothing is called goes on. -/
theorem refl (h : r.Sound) : Continues r r := ⟨h, rfl, id, fun _ hn => ⟨hn, rfl, .refl _⟩⟩

/-- Calls one after the other let the session go on if each of them does. -/
theorem trans (h : Continues r r₁) (h' : Continues r₁ r₂) : Continues r r₂ where
  sound := h'.sound
  localip := h'.localip.trans h.localip
  tascar ht := h.tascar (h'.tascar ht)
  settled ht hn := by
    obtain ⟨hn₁, hstage', hquiet'⟩ := h'.settled ht hn
    obtain ⟨hn₀, hstage, hquiet⟩ := h.settled (h'.tascar ht) hn₁
    exact ⟨hn₀, hstage'.trans hstage, hquiet.trans hquiet'⟩

/-- What else changes does not matter. -/
theorem of_same (h : Continues r r₁)
    (hsame : (r₂.stage, r₂.extra, r₂.localip, r₂.tascar, r₂.sessionActive, r₂.restartNeeded)
      = (r₁.stage, r₁.extra, r₁.localip, r₁.tascar, r₁.sessionActive, r₁.restartNeeded)) :
    Continues r r₂ := by
  simp only [Prod.mk.injEq] at hsame
  obtain ⟨hstage, hextra, hlocalip, ht, hactive, hneeded⟩ := hsame
  constructor
  · constructor
    · rw [hstage]
      exact h.sound.named
    · rw [ht, hactive]
      exact h.sound.active
  · rw [hlocalip]
    exact h.localip
  · rw [ht]
    exact h.tascar
  · rw [ht, hneeded, hstage, hextra]
    exact h.settled

/-- Nothing is left of the session. -/
theorem ended (hnamed : r₁.stage.Named) (hlocalip : r₁.localip = r.localip)
    (ht : r₁.tascar = false) : Continues r r₁ where
  sound := ⟨hnamed, fun htrue => absurd (ht.symm.trans htrue) Bool.false_ne_true⟩
  localip := hlocalip
  tascar htrue := absurd (ht.symm.trans htrue) Bool.false_ne_true
  settled htrue := absurd (ht.symm.trans htrue) Bool.false_ne_true

/-- A new session is requested. -/
theorem asked (h : r₁.Sound) (hlocalip : r₁.localip = r.localip)
    (ht : r₁.tascar = true → r.tascar = true) (hn : r₁.restartNeeded = true) : Continues r r₁ where
  sound := h
  localip := hlocalip
  tascar := ht
  settled _ hfalse := absurd (hfalse.symm.trans hn) Bool.false_ne_true

end Continues

/-- The audio backend is started next to the session. -/
theorem keeps_startAudiobackend (r : Renderer) (num : Numeric) (reply : JackReply) :
    Keeps (Continues r) (startAudiobackend num reply) := by
  refine Keeps.bind Keeps.of_get ?_
  intro a
  refine Keeps.bind (Keeps.of_modify fun _ hr => hr.of_same rfl) ?_
  intro _
  refine Keeps.bind (Keeps.onlyIf (Keeps.bind (Keeps.of_modify ?_) fun _ => Keeps.throwIf _ _)) ?_
  · exact fun _ hr => hr.of_same rfl
  intro _
  refine Keeps.bind (Keeps.of_modify fun _ hr => hr.of_same rfl) ?_
  intro _
  exact Keeps.of_modify fun _ hr => hr.of_same rfl

/-- For a new audio device the session may have to end. -/
theorem keeps_configureAudioBackend (r : Renderer) (num : Numeric) (reply : JackReply)
    (audio : AudioDevice) : Keeps (Continues r) (configureAudioBackend num reply audio) := by
  refine Keeps.bind Keeps.of_get ?_
  intro a
  refine Keeps.onlyIf ?_
  refine Keeps.bind (Keeps.of_modify fun _ hr => hr.of_same rfl) ?_
  intro _
  refine Keeps.bind (Keeps.onlyIf (Keeps.of_modify fun r' hr => ?_)) ?_
  · unfold stopForNewAudio
    split_ifs
    · exact Continues.ended hr.sound.named hr.localip rfl
    · exact hr.of_same rfl
  intro _
  refine Keeps.bind (Keeps.onlyIf (keeps_startAudiobackend r num reply)) ?_
  intro _
  exact Keeps.of_modify fun _ hr => hr.of_same rfl

section Methods

variable {r : Renderer} (h : r.Sound)

include h

/-- A new relay server ends an active session; the same one changes nothing. -/
theorem continues_setRelayServer (host : String) (port : Port) (pin : Secret) :
    Continues r (setRelayServer host port pin r) := by
  unfold setRelayServer
  dsimp only
  split_ifs with hrestart
  · exact Continues.ended h.named rfl rfl
  · refine ⟨⟨h.named, h.active⟩, rfl, id, fun ht hn => ⟨hn, ?_, .refl _⟩⟩
    -- an active session has not been ended, so the server is the same
    rw [h.active ht, Bool.true_and, Bool.not_eq_true] at hrestart
    simp only [Bool.or_eq_false_iff, bne_eq_false_iff_eq] at hrestart
    obtain ⟨⟨hhost, hport⟩, hpin⟩ := hrestart
    dsimp only
    rw [← hhost, ← hport, ← hpin]

/-- A different device asks for a restart; one that does not differ is the same. -/
theorem continues_setThisdev {stagedevice : StageDevice} (hdev : stagedevice.Named) :
    Continues r (setThisdev stagedevice r) where
  sound := ⟨⟨hdev, h.named.2⟩, h.active⟩
  localip := rfl
  tascar := id
  settled _ hn := by
    obtain ⟨hbefore, hsame⟩ := Bool.or_eq_false_iff.mp hn
    rw [StageDevice.ne_eq_false_iff hdev h.named.1] at hsame
    refine ⟨hbefore, ?_, .refl _⟩
    unfold setThisdev
    dsimp only
    rw [hsame]
    rfl

/-- A different stage asks for a restart where a session is active. -/
theorem continues_changeStage (change : StageMap → StageMap)
    (hchange : NamedStage (change r.stage.stage)) : Continues r (changeStage change r) where
  sound := ⟨⟨h.named.1, hchange⟩, h.active⟩
  localip := rfl
  tascar := id
  settled ht hn := by
    obtain ⟨hbefore, hsame⟩ := Bool.or_eq_false_iff.mp hn
    rw [Bool.and_eq_false_iff] at hsame
    have hactive := h.active ht
    have hmap := hsame.resolve_right fun hfalse =>
      absurd (hfalse.symm.trans hactive) Bool.false_ne_true
    rw [stageMapNe_eq_false_iff h.named.2 hchange] at hmap
    refine ⟨hbefore, ?_, .refl _⟩
    show { r.stage with stage := change r.stage.stage } = r.stage
    rw [← hmap]

/-- A stage that is cleared ends an active session. -/
theorem continues_clearStage : Continues r r.clearStage := by
  unfold clearStage
  dsimp only
  have hnamed : Stage.Named { r.stage with stage := OrderedMap.empty } :=
    ⟨h.named.1, namedStage_empty⟩
  split_ifs with hactive
  · exact Continues.ended hnamed rfl rfl
  · refine Continues.ended hnamed rfl ?_
    rw [← Bool.not_eq_true]
    exact fun ht => hactive (h.active ht)

/-- Different render settings ask for a restart. -/
theorem continues_setRenderSettings (rendersettings : RenderSettings)
    (thisstagedeviceid : StageDeviceId) :
    Continues r (setRenderSettings rendersettings thisstagedeviceid r) := by
  unfold setRenderSettings
  split_ifs
  · exact Continues.asked ⟨h.named, h.active⟩ rfl id rfl
  · exact Continues.refl h

/-- Gains are set where no session runs. -/
theorem continues_setStageDeviceGain {stagedeviceid : StageDeviceId} {gain : ℚ}
    (ht : r.tascar = false) : Continues r (setStageDeviceGain stagedeviceid gain r) := by
  refine Continues.ended ⟨h.named.1, ?_⟩ rfl ht
  have hzero : StageDevice.zero.Named := named_of_no_channels rfl
  unfold setStageDeviceGain
  cases hfind : r.stage.stage.find? stagedeviceid with
  | none =>
      dsimp only
      split_ifs
      · exact OrderedMap.forall_mem_touch h.named.2 hzero
      · exact h.named.2
  | some dev =>
      have hdev : dev.Named :=
        h.named.2 (stagedeviceid, dev) (OrderedMap.mem_entries_of_find? hfind)
      have hset : NamedStage (r.stage.stage.insert stagedeviceid { dev with gain := gain }) :=
        OrderedMap.forall_mem_insert h.named.2 hdev
      dsimp only
      split_ifs
      · exact OrderedMap.forall_mem_touch hset hzero
      · exact hset

/-- An extra configuration that is applied as a whole. -/
theorem continues_setExtraConfig (num : Numeric) (xcfg : Json)
    (hok : r.tascar = true → ¬ Throws (setExtraConfig num xcfg) r) :
    Continues r (stateAfter (setExtraConfig num xcfg) r) := by
  have hkept : Keeps (fun r' => r'.stage = r.stage ∧ r'.localip = r.localip ∧
      r'.tascar = r.tascar ∧ r'.sessionActive = r.sessionActive) (setExtraConfig num xcfg) := by
    refine Keeps.wrapping _ (Keeps.bind Keeps.of_get ?_)
    intro _
    refine Keeps.bind (Keeps.onPart ?_ _) ?_
    · intro _ _ hs
      exact hs
    intro restart
    exact Keeps.of_modify fun _ hs => hs
  obtain ⟨hstage, hlocalip, htascar, hactive⟩ := hkept r ⟨rfl, rfl, rfl, rfl⟩
  by_cases ht : r.tascar = true
  · obtain ⟨_, hres⟩ := ok_of_not_throws (hok ht)
    obtain ⟨restart, happly, -, hneeded⟩ := setExtraConfig_returns hres
    refine ⟨⟨?_, ?_⟩, hlocalip, fun _ => ht, ?_⟩
    · rw [hstage]
      exact h.named
    · intro _
      rw [hactive]
      exact h.active ht
    · intro _ hn
      rw [hneeded, h.active ht, Bool.true_and, Bool.or_eq_false_iff] at hn
      have hnd := nodup_extraUpdates num r.localip xcfg
      have hflag := flag_applyUpdates hnd happly
      have hnone : ¬ ∃ u ∈ extraUpdates num r.localip xcfg, u.Asks r.extra := fun hasks =>
        absurd (hn.2.symm.trans (hflag.mpr (Or.inr hasks))) Bool.false_ne_true
      exact ⟨hn.1, hstage, kept_of_not_asked hnd (loud_extraUpdates num r.localip xcfg) happly
        hnone⟩
  · rw [Bool.not_eq_true] at ht
    exact Continues.ended (by rw [hstage]; exact h.named) hlocalip (htascar.trans ht)

end Methods

/-! ## Starts -/

/-- The devices that a start looks up have generated ids if those of the stage have. -/
theorem named_lookedUp {st : Stage} (h : st.Named) :
    Stage.Named { st with stage := lookedUp st } := by
  have hzero : StageDevice.zero.Named := named_of_no_channels rfl
  refine ⟨h.1, ?_⟩
  show NamedStage (lookedUp st)
  unfold lookedUp
  dsimp only
  split_ifs
  · exact OrderedMap.forall_mem_touch (OrderedMap.forall_mem_touch h.2 hzero) hzero
  · exact OrderedMap.forall_mem_touch h.2 hzero

/-- No session runs, and the channel ids are generated. -/
def Renderer.NoSession (r : Renderer) : Prop := r.tascar = false ∧ r.stage.Named

/-- A start that fails leaves no session where there was none. -/
theorem noSession_of_startSession_error {fault : Option StartFault} {r r' : Renderer} {e : ErrMsg}
    (h : r.NoSession) (hres : startSession fault r = .error e r') : r'.NoSession := by
  have hconnection : Keeps NoSession (startOvboxclient fault) := by
    refine Keeps.bind (Keeps.of_modify fun r' hr => ⟨hr.1, named_lookedUp hr.2⟩) ?_
    intro _
    refine Keeps.bind (Keeps.throwIf _ _) ?_
    intro _
    refine Keeps.bind (Keeps.of_modify fun r' hr => hr) ?_
    intro _
    exact Keeps.bind Keeps.of_get fun _ => StartStable.addProxyClients _ fault 0 _
  unfold startSession at hres
  rw [modify_bind_apply, modify_bind_apply, get_bind_apply] at hres
  -- up to TASCAR everything keeps the session away
  have hopen : (r.consoleLog .creatingSession).baseStartSession.NoSession := h
  generalize (r.consoleLog .creatingSession).baseStartSession = r₀ at hopen hres
  rcases bind_eq_error.mp hres with hfails | ⟨_, r₁, hconn, hres⟩
  · rw [← stateAfter_error hfails]
    exact Keeps.onlyIf hconnection _ hopen
  have hopen₁ := (Keeps.onlyIf hconnection).of_ok hopen hconn
  rcases bind_eq_error.mp hres with hfails | ⟨_, r₂, hinc, hres⟩
  · rw [← stateAfter_error hfails]
    exact Keeps.throwIf (P := NoSession) _ _ _ hopen₁
  have hopen₂ := (Keeps.throwIf (P := NoSession) _ _).of_ok hopen₁ hinc
  rcases bind_eq_error.mp hres with hfails | ⟨_, r₃, hload, hres⟩
  · rw [← stateAfter_error hfails]
    exact Keeps.throwIf (P := NoSession) _ _ _ hopen₂
  have hopen₃ := (Keeps.throwIf (P := NoSession) _ _).of_ok hopen₂ hload
  rcases bind_eq_error.mp hres with hfails | ⟨_, r₄, -, hres⟩
  · -- the handler deletes the session
    unfold startTascar at hfails
    rw [modify_bind_apply] at hfails
    cases hstart : decide (fault = some .start) with
    | false =>
        rw [onlyIf_of_false hstart] at hfails
        cases hfails
    | true =>
        rw [onlyIf_of_true hstart] at hfails
        cases hfails
        exact ⟨rfl, hopen₃.2⟩
  · cases hres

/-- A start from a renderer without a session. -/
theorem startSession_cases {r : Renderer} (fault : Option StartFault) (h : r.NoSession) :
    (r.startFails fault = true ∧ (stateAfter (startSession fault) r).NoSession) ∨
      (r.startFails fault = false ∧ stateAfter (startSession fault) r = r.started) := by
  cases hfails : r.startFails fault with
  | true =>
      obtain ⟨e, r', hres⟩ := startSession_throws hfails
      rw [stateAfter_error hres]
      exact Or.inl ⟨rfl, noSession_of_startSession_error h hres⟩
  | false => exact Or.inr ⟨rfl, stateAfter_ok (startSession_ok hfails)⟩

/-! ## Runs -/

/-- A renderer with the settings by which its running session has been described. -/
structure Served where
  backend : Renderer
  stage : Stage
  /-- The variables, with the metronome as the session has been told since. -/
  vars : ExtraVars

/-- A new renderer has no session. -/
def Served.init (num : Numeric) (deviceid localip : String) : Served :=
  ⟨Renderer.init num deviceid localip, Stage.default num deviceid, ExtraVars.default num⟩

/-- What a session hears of the change from `r` to `r'`: the metronome, where it has changed. -/
def told (r r' : Renderer) (x : ExtraVars) : ExtraVars :=
  if sessionMetronome r'.extra = sessionMetronome r.extra then x
  else runningVars r.tascar x r'.extra

/-- A call, with the settings of the session behind it. -/
def servedStep (num : Numeric) (s : Served) (c : RenderCall × CallEnv) : Served :=
  let r := renderStep num s.backend c
  if c.1.startsSession s.backend && !s.backend.startFails c.2.fault then
    ⟨r, s.backend.stage, s.backend.extra⟩
  else ⟨r, s.stage, told s.backend r s.vars⟩

/-- Devices come with generated channel ids, a session is ended before another one is started,
the gains of a running session are left alone, and its extra configuration can be applied as a
whole. -/
def RenderCall.Regular (num : Numeric) (r : Renderer) : RenderCall → Prop
  | setThisdev stagedevice | addStageDevice stagedevice => stagedevice.Named
  | setStage s => NamedStage s
  | startSession | setStageDeviceGain _ _ => r.tascar = false
  | setExtraConfig xcfg => r.tascar = true → ¬ Throws (Renderer.setExtraConfig num xcfg) r
  | _ => True

/-- Unless a new session has been requested, the session has the present settings, except for
quiet changes. -/
structure UpToDate (s : Served) : Prop where
  sound : s.backend.Sound
  settled : s.backend.tascar = true → s.backend.restartNeeded = false →
    s.backend.stage = s.stage.atStart ∧
      (∀ v, v ∉ quietVars → s.backend.extra v = s.vars v)

/-- Where no session runs there is nothing to be up to date. -/
theorem UpToDate.of_noSession {s : Served} (h : s.backend.NoSession) : UpToDate s where
  sound := ⟨h.2, fun ht => absurd (h.1.symm.trans ht) Bool.false_ne_true⟩
  settled ht := absurd (h.1.symm.trans ht) Bool.false_ne_true

/-- A session that goes on. -/
theorem UpToDate.of_continues {r r' : Renderer} {st : Stage} {x : ExtraVars}
    (h : UpToDate ⟨r, st, x⟩) (hcont : Continues r r') : UpToDate ⟨r', st, told r r' x⟩ where
  sound := hcont.sound
  settled ht hn := by
    obtain ⟨hn₀, hstage, hkept, hdelay⟩ := hcont.settled ht hn
    obtain ⟨hst, hvars⟩ := h.settled (hcont.tascar ht) hn₀
    refine ⟨hstage.trans hst, fun v hv => ?_⟩
    have hmetro : sessionMetronome x = sessionMetronome r.extra :=
      (hvars .metronome (by decide)).symm
    dsimp only
    unfold told
    split_ifs with hsame
    · by_cases hm : v = .metronome
      · subst hm
        exact hsame.trans (hvars _ hv)
      · exact (hkept v hv hm).trans (hvars v hv)
    · by_cases hm : v = .metronome
      · subst hm
        -- a delay that changes asks for a new session
        have htold : (sessionMetronome x).updateOsc (sessionMetronome r'.extra)
            = sessionMetronome r'.extra := by
          unfold Metronome.updateOsc
          rw [hmetro, ← hdelay]
        unfold runningVars
        rw [hcont.tascar ht, if_pos rfl]
        exact (htold.symm.trans (Function.update_self ExtraVar.metronome _ x).symm)
      · rw [runningVars_of_ne _ hm]
        exact (hkept v hv hm).trans (hvars v hv)

/-- A session that is started. -/
theorem upToDate_started {r : Renderer} (h : r.stage.Named) :
    UpToDate ⟨r.started, r.stage, r.extra⟩ where
  sound := by
    refine ⟨?_, fun _ => rfl⟩
    show r.stage.atStart.Named
    unfold Stage.atStart
    split_ifs
    · exact named_lookedUp h
    · exact h
  settled _ _ := ⟨rfl, fun _ _ => rfl⟩

/-- A call that starts no session lets the one that runs go on, ends it or asks for a new one. -/
theorem continues_renderStep (num : Numeric) {r : Renderer} {c : RenderCall × CallEnv}
    (h : r.Sound) (hstarts : c.1.startsSession r = false) (hc : c.1.Regular num r) :
    Continues r (renderStep num r c) := by
  obtain ⟨call, env⟩ := c
  have hrefl := Continues.refl h
  cases call with
  | setRelayServer host port pin => exact continues_setRelayServer h host port pin
  | startSession => cases hstarts
  | endSession => exact Continues.ended h.named rfl rfl
  | restartSessionIfNeeded =>
      obtain ⟨hneeded, hactive⟩ := Bool.or_eq_false_iff.mp hstarts
      rw [Bool.not_eq_false'] at hactive
      rw [renderStep, RenderCall.exec,
        stateAfter_ok (restartSessionIfNeeded_idle _ hactive hneeded)]
      exact hrefl
  | requireSessionRestart => exact Continues.asked ⟨h.named, h.active⟩ rfl id rfl
  | startAudiobackend => exact keeps_startAudiobackend r num env.jack r hrefl
  | stopAudiobackend => exact hrefl.of_same rfl
  | configureAudioBackend audio => exact keeps_configureAudioBackend r num env.jack audio r hrefl
  | setThisdev stagedevice => exact continues_setThisdev h hc
  | addStageDevice stagedevice =>
      exact continues_changeStage h (fun m => m.insert stagedevice.id stagedevice)
        (OrderedMap.forall_mem_insert h.named.2 hc)
  | rmStageDevice stagedeviceid =>
      exact continues_changeStage h (fun m => m.erase stagedeviceid)
        (OrderedMap.forall_mem_erase h.named.2)
  | clearStage => exact continues_clearStage h
  | setStage s => exact continues_changeStage h (fun _ => s) hc
  | setStageDeviceGain stagedeviceid gain => exact continues_setStageDeviceGain h hc
  | setRenderSettings rendersettings thisstagedeviceid =>
      exact continues_setRenderSettings h rendersettings thisstagedeviceid
  | setExtraConfig xcfg => exact continues_setExtraConfig h num xcfg hc

/-- The call starts a session from a renderer without one, which has the settings of `r`. -/
theorem renderStep_starts (num : Numeric) {r : Renderer} {c : RenderCall × CallEnv}
    (h : r.Sound) (hstarts : c.1.startsSession r = true) (hc : c.1.Regular num r) :
    ∃ r₀ : Renderer, r₀.NoSession ∧ r₀.stage = r.stage ∧ r₀.extra = r.extra ∧
      r₀.startFails c.2.fault = r.startFails c.2.fault ∧
      renderStep num r c = stateAfter (startSession c.2.fault) r₀ := by
  obtain ⟨call, env⟩ := c
  cases call with
  | startSession => exact ⟨r, ⟨hc, h.named⟩, rfl, rfl, rfl, rfl⟩
  | restartSessionIfNeeded =>
      have hexec := restartSessionIfNeeded_starts env.fault hstarts
      rw [renderStep, RenderCall.exec, stateAfter, hexec]
      cases hactive : r.sessionActive with
      | true => exact ⟨r.endSession, ⟨rfl, h.named⟩, rfl, rfl, rfl, rfl⟩
      | false =>
          refine ⟨r, ⟨?_, h.named⟩, rfl, rfl, rfl, rfl⟩
          rw [← Bool.not_eq_true]
          exact fun ht => Bool.false_ne_true (hactive.symm.trans (h.active ht))
  | _ => cases hstarts

/-- The calls keep it. -/
theorem upToDate_servedStep (num : Numeric) (s : Served) (c : RenderCall × CallEnv)
    (h : UpToDate s) (hc : c.1.Regular num s.backend) : UpToDate (servedStep num s c) := by
  unfold servedStep
  cases hstarts : c.1.startsSession s.backend with
  | false =>
      rw [Bool.false_and, if_neg Bool.false_ne_true]
      exact h.of_continues (continues_renderStep num h.sound hstarts hc)
  | true =>
      obtain ⟨r₀, hnone, hstage, hextra, hsame, hstep⟩ := renderStep_starts num h.sound hstarts hc
      rw [Bool.true_and, ← hsame]
      dsimp only
      rcases startSession_cases c.2.fault hnone with ⟨hfails, hafter⟩ | ⟨hstarted, hafter⟩
      · rw [hfails, Bool.not_true, if_neg Bool.false_ne_true]
        apply UpToDate.of_noSession
        rw [← hstep] at hafter
        exact hafter
      · rw [hstarted, Bool.not_false, if_pos rfl, hstep, hafter, ← hstage, ← hextra]
        exact upToDate_started hnone.2

/-- A new renderer runs no session. -/
theorem upToDate_init (num : Numeric) (deviceid localip : String) :
    UpToDate (Served.init num deviceid localip) :=
  UpToDate.of_noSession ⟨rfl, named_of_no_channels rfl, namedStage_empty⟩

/-- A session that is up to date is described as a new one would be, exactly if the quietly changed
variables are written alike. -/
theorem UpToDate.description_iff {s : Served} (h : UpToDate s) (env : SessionEnv)
    (ht : s.backend.tascar = true) (hn : s.backend.restartNeeded = false) :
    sessionDescription env s.stage s.vars = sessionDescription env s.backend.stage s.backend.extra
      ↔ (rendersStage s.backend.stage = true →
        ∀ v, WrittenAlike env s.backend.stage true s.vars v (s.backend.extra v)) := by
  obtain ⟨hstage, hvars⟩ := h.settled ht hn
  have hmetro : sessionMetronome s.backend.extra = sessionMetronome s.vars :=
    hvars .metronome (by decide)
  have hheard : runningVars true s.vars s.backend.extra = s.vars := by
    unfold runningVars Metronome.updateOsc
    rw [if_pos rfl, hmetro]
    exact Function.update_eq_self _ _
  rw [← sessionDescription_running_iff env s.backend.stage true (fun v hv _ => hvars v hv)
    (congrArg Metronome.delay hmetro), hheard, hstage, sessionDescription_atStart,
    sessionDescription_atStart]

/-- Where the quiet variables have not changed, everything is written alike. -/
theorem writtenAlike_of_kept (env : SessionEnv) (st : Stage) {x y : ExtraVars}
    (h : ∀ v ∈ quietVars, y v = x v) (v : ExtraVar) : WrittenAlike env st true x v (y v) := by
  by_cases hv : v ∈ quietVars
  · rw [h v hv]
    exact writtenAlike_self env st true v
  · cases v
    case metronome => exact fun ht => absurd ht (by decide)
    all_goals first
      | exact absurd (by decide) hv
      | trivial

/-- **The running session.**  Behind every run of `RenderCall`s, unless a new one is requested,
the running session is described as a new one would be, exactly if the quietly changed variables
are written alike. -/
theorem running_session_current_iff (num : Numeric) (env : SessionEnv) (deviceid localip : String)
    (calls : List (RenderCall × CallEnv))
    (h : AllSteps (servedStep num) (fun s c => c.1.Regular num s.backend)
      (Served.init num deviceid localip) calls) :
    let s := run (servedStep num) (Served.init num deviceid localip) calls
    s.backend.tascar = true → s.backend.restartNeeded = false →
      (sessionDescription env s.stage s.vars = sessionDescription env s.backend.stage s.backend.extra
        ↔ (rendersStage s.backend.stage = true →
          ∀ v, WrittenAlike env s.backend.stage true s.vars v (s.backend.extra v))) := by
  intro s
  have hs : UpToDate s :=
    invariant_run (fun s c => upToDate_servedStep num s c) (upToDate_init num deviceid localip) h
  exact hs.description_iff env

/-- A session on stage whose metronome gets another tempo. -/
def metronomeCalls : List (RenderCall × CallEnv) :=
  [(.setRelayServer "relay" 4464 1, ⟨⟨true, none⟩, none⟩),
    (.restartSessionIfNeeded, ⟨⟨true, none⟩, none⟩),
    (.setExtraConfig (.obj [("metronome", .obj [("bpm", .int 60)])]), ⟨⟨true, none⟩, none⟩)]

/-- The running session is told the tempo, and is the one that would be started now. -/
theorem running_session_current_metronome :
    let s := run (servedStep Numeric.exact) (Served.init Numeric.exact "box" "127.0.0.1")
      metronomeCalls
    (sessionMetronome s.backend.extra).bpm = 60 ∧ rendersStage s.backend.stage = true ∧
      sessionDescription plainEnv s.stage s.vars
        = sessionDescription plainEnv s.backend.stage s.backend.extra := by
  intro s
  refine ⟨by decide +kernel, by decide +kernel, ?_⟩
  have hregular : AllSteps (servedStep Numeric.exact)
      (fun s c => c.1.Regular Numeric.exact s.backend)
      (Served.init Numeric.exact "box" "127.0.0.1") metronomeCalls := by
    refine ⟨trivial, trivial, fun _ => ?_, trivial⟩
    exact not_throws_of_ok rfl
  refine (running_session_current_iff Numeric.exact plainEnv "box" "127.0.0.1" metronomeCalls
    hregular (by decide +kernel) (by decide +kernel)).mpr ?_
  exact fun _ => writtenAlike_of_kept _ _ (by decide +kernel)

end Libov
