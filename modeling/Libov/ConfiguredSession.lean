/-
# The session behind a configuration

Configurations are applied by calls of the renderer: whatever a configuration says, and wherever
it cannot be read, `parse_config` makes only such calls behind which the running session is up to
date.

* `Backend.served` : the renderer with the settings of its running session, as an object for the
  code that applies configurations; `configStep_backend` : which does what it does without;
* `ExtraReadable` : the extra configuration can be applied as a whole;
* `configured_session_current_iff`, `configured_client_current` : the running session behind a run
  of configurations, and its client.
-/
import Libov.SessionClient
import Libov.WatchedCalls

open Programs Runs

namespace Libov

open Renderer

/-! ## Configurations of a renderer with a session -/

/-- The settings behind the code of the renderer that starts no session. -/
def Served.rest {α : Type} (x : Render α) : EStateM ErrMsg Served α :=
  onPart Served.backend (fun r s => ⟨r, s.stage, told s.backend r s.vars⟩) x

/-- The settings behind `start_session`: where it returns they are the present ones. -/
def Served.startSession (fault : Option StartFault) : EStateM ErrMsg Served Unit := fun s =>
  match Renderer.startSession fault s.backend with
  | .ok a r => .ok a ⟨r, s.backend.stage, s.backend.extra⟩
  | .error e r => .error e ⟨r, s.stage, s.vars⟩

/-- The renderer with the settings of its session. -/
def Backend.served : Backend Served where
  rest := Served.rest
  startSession := Served.startSession
  stopAudiobackend := Served.rest (modify Renderer.stopAudiobackend)

/-- A configuration is applied. -/
def configStep (num : Numeric) (s : Served) (c : ConfigEnv × Json) : Served :=
  stateAfter (Backend.served.applyConfig num c.1 c.2) s

/-- Code of the renderer does to the renderer of a session what it does alone. -/
theorem follows_rest {α : Type} (x : Render α) : Follows Served.backend (Served.rest x) x :=
  Follows.of_onPart fun _ _ => rfl

/-- A start does to the renderer what it does alone, whatever it writes down about the session. -/
theorem follows_startSession (fault : Option StartFault) :
    Follows Served.backend (Served.startSession fault) (Renderer.startSession fault) := by
  intro s
  unfold Served.startSession
  rcases Renderer.startSession fault s.backend with ⟨a, r⟩ | ⟨e, r⟩
  · rfl
  · rfl

/-- The settings of the session are written down beside the code and do not change what it does. -/
theorem Backend.served_follows :
    Backend.served.Related Backend.plain fun x y => Follows Served.backend x y where
  bind hx hf := hx.bind hf
  onlyIf h := h.onlyIf
  rest _ := follows_rest _
  startSession := follows_startSession
  stopAudiobackend := follows_rest (modify Renderer.stopAudiobackend)

/-- Keeping the settings changes nothing of what a configuration does. -/
theorem configStep_backend (num : Numeric) (s : Served) (c : ConfigEnv × Json) :
    (configStep num s c).backend = stateAfter (applyConfig num c.1 c.2) s.backend :=
  (Backend.served_follows.applyConfig num c.1 c.2).stateAfter s

/-! ## What can be read of an extra configuration -/

/-- All values of an extra configuration can be read. -/
def Readable (num : Numeric) (localip : String) (xcfg : Json) : Prop :=
  ∀ u ∈ extraUpdates num localip xcfg, u.value.isOk = true

instance (num : Numeric) (localip : String) (xcfg : Json) : Decidable (Readable num localip xcfg) :=
  inferInstanceAs (Decidable (∀ u ∈ extraUpdates num localip xcfg, u.value.isOk = true))

/-- So can those of the extra configuration that is part of a configuration, if there is one. -/
def ExtraReadable (num : Numeric) (localip : String) (devcfg : Json) : Prop :=
  ∀ js_rendersettings xcfg, subscript devcfg "rendersettings" = .ok js_rendersettings →
    subscript js_rendersettings "extracfg" = .ok xcfg → xcfg.isNull = false →
    Readable num localip xcfg

/-- Where every value can be read, all updates are applied. -/
theorem applyUpdates_of_readable {us : List Update} (h : ∀ u ∈ us, u.value.isOk = true) :
    ∀ (restart : Bool) (vars : ExtraVars), ∃ restart' vars',
      applyUpdates us restart vars = .ok restart' vars' := by
  induction us with
  | nil => exact fun restart vars => ⟨restart, vars, rfl⟩
  | cons u us ih =>
      intro restart vars
      have hrest := ih fun w hw => h w (List.mem_cons_of_mem _ hw)
      have hread := h u List.mem_cons_self
      cases ho : u.value with
      | error e =>
          rw [ho] at hread
          cases hread
      | ok o =>
          cases o with
          | none =>
              rw [applyUpdates_none ho]
              exact hrest _ _
          | some new =>
              rw [applyUpdates_some ho]
              exact hrest _ _

/-- A readable extra configuration is applied as a whole. -/
theorem not_throws_setExtraConfig {num : Numeric} {xcfg : Json} {r : Renderer}
    (h : Readable num r.localip xcfg) : ¬ Throws (Renderer.setExtraConfig num xcfg) r := by
  obtain ⟨restart, vars, happly⟩ := applyUpdates_of_readable h false r.extra
  have hpart : onPart Renderer.extra (fun vars (r : Renderer) => { r with extra := vars })
      (applyUpdates (extraUpdates num r.localip xcfg) false) r
        = .ok restart { r with extra := vars } :=
    onPart_eq_ok.mpr ⟨vars, happly, rfl⟩
  have hok : Renderer.setExtraConfig num xcfg r
      = .ok () ({ r with extra := vars }.requireRestartIf (r.sessionActive && restart)) := by
    rw [Renderer.setExtraConfig, wrapping_eq_ok, get_bind_apply, bind_of_ok hpart]
    rfl
  exact not_throws_of_ok hok

/-! ## Code that starts no session -/

/-- What is thrown ends a sequence. -/
theorem keeps_ofExcept_bind {ε σ α β : Type} {P : σ → Prop} {y : Except ε α}
    {f : α → EStateM ε σ β} (h : ∀ a, y = .ok a → Keeps P (f a)) : Keeps P (ofExcept y >>= f) := by
  cases y with
  | error e => exact fun _ hs => hs
  | ok a => exact h a rfl

section Code

variable (num : Numeric) {r : Renderer}

/-- A step from wherever the session has gone on to. -/
theorem keeps_of_step {α : Type} {x : Render α}
    (h : ∀ r', r'.Sound → r'.localip = r.localip → Continues r' (stateAfter x r')) :
    Keeps (Continues r) x :=
  fun r' hr => hr.trans (h r' hr.sound hr.localip)

/-- The end of a session is one of the ways in which it can go on. -/
theorem keeps_endSession (c : Bool) :
    Keeps (Continues r) (onlyIf c (modify Renderer.endSession) : Render Unit) := by
  refine Keeps.onlyIf (keeps_of_step fun r' hr _ => ?_)
  exact Continues.ended hr.named rfl rfl

/-- So is the request for a new one. -/
theorem keeps_requireSessionRestart (c : Bool) :
    Keeps (Continues r) (onlyIf c (modify Renderer.requireSessionRestart) : Render Unit) := by
  refine Keeps.onlyIf (keeps_of_step fun r' hr _ => ?_)
  exact Continues.asked ⟨hr.named, hr.active⟩ rfl id rfl

/-- A device that is read from a configuration has generated ids, as the renderer needs it. -/
theorem keeps_applyThisdev (js_rendersettings : Json) :
    Keeps (Continues r) (applyThisdev num js_rendersettings) := by
  refine keeps_ofExcept_bind fun stagedev hdev => keeps_of_step fun r' hr _ => ?_
  exact continues_setThisdev hr (named_getStageDev hdev)

/-- So have the devices of a room. -/
theorem keeps_applyRoomdev (devcfg : Json) : Keeps (Continues r) (applyRoomdev num devcfg) := by
  refine keeps_ofExcept_bind fun js_stagedevs _ => ?_
  cases js_stagedevs.array? with
  | none => exact Keeps.of_pure _
  | some devs =>
      refine keeps_ofExcept_bind fun newstage hstage => keeps_of_step fun r' hr _ => ?_
      exact continues_changeStage hr (fun _ => newstage) (namedStage_readStage hstage)

/-- An extra configuration that can be read is applied as a whole, so that a session goes on with
it. -/
theorem keeps_applyExtracfg {js_rendersettings : Json}
    (hread : ∀ xcfg, subscript js_rendersettings "extracfg" = .ok xcfg → xcfg.isNull = false →
      Readable num r.localip xcfg) :
    Keeps (Continues r) (applyExtracfg num js_rendersettings) := by
  refine keeps_ofExcept_bind fun xcfg hxcfg => ?_
  cases hnull : xcfg.isNull with
  | true => exact Keeps.of_pure _
  | false =>
      refine keeps_of_step fun r' hr hlocalip => ?_
      refine continues_setExtraConfig hr num xcfg fun _ => not_throws_setExtraConfig ?_
      rw [hlocalip]
      exact hread xcfg hxcfg hnull

/-- A room is its server, its settings, the extra configuration and its devices, one after the
other. -/
theorem keeps_applyRoom (env : ConfigEnv) {devcfg js_rendersettings js_stage : Json}
    (hread : ∀ xcfg, subscript js_rendersettings "extracfg" = .ok xcfg → xcfg.isNull = false →
      Readable num r.localip xcfg) :
    Keeps (Continues r) (applyRoom num env devcfg js_rendersettings js_stage) := by
  refine keeps_ofExcept_bind fun relay _ => ?_
  refine Keeps.bind (keeps_of_step fun r' hr _ => continues_setRelayServer hr _ _ _) fun _ => ?_
  refine keeps_ofExcept_bind fun rendersettings _ => ?_
  refine keeps_ofExcept_bind fun stagedevid _ => ?_
  refine Keeps.bind (keeps_of_step fun r' hr _ => continues_setRenderSettings hr _ _) fun _ => ?_
  exact Keeps.bind (keeps_applyExtracfg num hread) fun _ => keeps_applyRoomdev num devcfg

/-- The audio backend of a configuration does not touch the session. -/
theorem keeps_startAudioIfNeeded (reply : JackReply) :
    Keeps (Continues r) (startAudioIfNeeded num reply) :=
  Keeps.bind Keeps.of_get fun _ => Keeps.onlyIf (keeps_startAudiobackend r num reply)

end Code

/-! ## Configurations keep the session up to date -/

/-- The session is up to date, with the address of the renderer. -/
def Served.Current (localip : String) (s : Served) : Prop :=
  UpToDate s ∧ s.backend.localip = localip

section Served

variable (num : Numeric) {localip : String}

/-- Code that starts no session. -/
theorem keeps_rest_of_continues {α : Type} {x : Render α}
    (hx : ∀ r, r.localip = localip → Keeps (Continues r) x) :
    Keeps (Served.Current localip) (Backend.served.rest x) := by
  intro s hs
  have hcont := hx s.backend hs.2 s.backend (Continues.refl hs.1.sound)
  show (stateAfter (Served.rest x) s).Current localip
  rw [Served.rest, stateAfter_onPart]
  exact ⟨hs.1.of_continues hcont, hcont.localip.trans hs.2⟩

/-- Looking at the renderer keeps the session up to date. -/
theorem keeps_rest_get : Keeps (Served.Current localip) (Backend.served.rest get) :=
  keeps_rest_of_continues fun _ _ => Keeps.of_get

/-- Reading a value keeps it up to date as well. -/
theorem keeps_rest_ofExcept {α : Type} (y : Except ErrMsg α) :
    Keeps (Served.Current localip) (Backend.served.rest (ofExcept y)) :=
  keeps_rest_of_continues fun _ _ => Keeps.of_except y

/-- The address of the renderer stays through a start. -/
theorem startStable_localip : StartStable fun r => r.localip = localip where
  log _ h := h
  stage _ h := h
  session _ _ _ h := h

/-- A start where no session runs. -/
theorem current_startSession (fault : Option StartFault) {s : Served} (hs : s.Current localip)
    (hnone : s.backend.NoSession) :
    (stateAfter (Served.startSession fault) s).Current localip := by
  have hlocalip : (stateAfter (Renderer.startSession fault) s.backend).localip = localip :=
    startStable_localip.startSession fault hs.2
  rcases startSession_cases fault hnone with ⟨hfails, hafter⟩ | ⟨hstarted, -⟩
  · obtain ⟨e, r', hres⟩ := startSession_throws hfails
    rw [stateAfter_error hres] at hlocalip hafter
    have hserved : Served.startSession fault s = .error e ⟨r', s.stage, s.vars⟩ := by
      unfold Served.startSession
      rw [hres]
    rw [stateAfter_error hserved]
    exact ⟨UpToDate.of_noSession hafter, hlocalip⟩
  · have hres := startSession_ok hstarted
    rw [stateAfter_ok hres] at hlocalip
    have hserved : Served.startSession fault s
        = .ok () ⟨s.backend.started, s.backend.stage, s.backend.extra⟩ := by
      unfold Served.startSession
      rw [hres]
    rw [stateAfter_ok hserved]
    exact ⟨upToDate_started hnone.2, hlocalip⟩

/-- The audio backend can be stopped under a session that is up to date. -/
theorem keeps_served_stopAudiobackend :
    Keeps (Served.Current localip) Backend.served.stopAudiobackend := by
  have hstop : ∀ r : Renderer, Keeps (Continues r) (modify stopAudiobackend : Render Unit) :=
    fun r => Keeps.of_modify fun _ hr => hr.of_same rfl
  exact keeps_rest_of_continues fun r _ => hstop r

/-- A new audio device ends the session and asks for a new one. -/
theorem keeps_served_configureAudioBackend (reply : JackReply) (audio : AudioDevice) :
    Keeps (Served.Current localip) (Backend.served.configureAudioBackend num reply audio) := by
  refine Keeps.bind keeps_rest_get fun r => Keeps.onlyIf ?_
  refine Keeps.bind ?_ fun _ => Keeps.bind (Keeps.onlyIf (Keeps.bind ?_ fun _ => ?_)) fun _ => ?_
  · refine keeps_rest_of_continues fun r _ => Keeps.of_modify ?_
    exact fun _ hr => hr.of_same rfl
  · refine keeps_rest_of_continues fun r _ => Keeps.of_modify fun r' hr => ?_
    split_ifs
    · exact Continues.ended hr.sound.named hr.localip rfl
    · exact hr
  · exact keeps_served_stopAudiobackend
  refine Keeps.bind (Keeps.onlyIf ?_) fun _ => ?_
  · exact keeps_rest_of_continues fun r _ => keeps_startAudiobackend r num reply
  · refine keeps_rest_of_continues fun r _ => Keeps.of_modify ?_
    exact fun _ hr => hr.of_same rfl

/-- The restart of the audio backend asks for a new session, too. -/
theorem keeps_served_restartAudio (reply : JackReply) :
    Keeps (Served.Current localip) (Backend.served.restartAudio num reply) := by
  refine Keeps.bind keeps_rest_get fun r => ?_
  refine Keeps.bind (keeps_rest_of_continues fun _ _ => keeps_endSession _) fun _ => ?_
  refine Keeps.bind keeps_served_stopAudiobackend fun _ => ?_
  refine Keeps.bind (keeps_rest_of_continues fun r _ => keeps_startAudiobackend r num reply) ?_
  exact fun _ => keeps_rest_of_continues fun _ _ => keeps_requireSessionRestart _

/-- The audio configuration is made of these two. -/
theorem keeps_served_applyAudio (env : ConfigEnv) (js_audio : Json) :
    Keeps (Served.Current localip) (Backend.served.applyAudio num env js_audio) := by
  refine Keeps.bind (keeps_rest_ofExcept _) fun audio => ?_
  refine Keeps.bind (keeps_served_configureAudioBackend num _ audio) fun _ => ?_
  refine Keeps.bind (keeps_rest_ofExcept _) fun restart => ?_
  exact Keeps.onlyIf (keeps_served_restartAudio num _)

/-- The settings of a configuration that can be read keep the session up to date. -/
theorem keeps_served_applySettings (env : ConfigEnv) {devcfg : Json}
    (hread : ExtraReadable num localip devcfg) :
    Keeps (Served.Current localip) (Backend.served.applySettings num env devcfg) := by
  refine Keeps.bind (keeps_rest_ofExcept _) fun js_audio => ?_
  refine Keeps.bind (Keeps.onlyIf (keeps_served_applyAudio num env js_audio)) fun _ => ?_
  refine Keeps.bind_ok (keeps_rest_ofExcept _) fun s js_rendersettings s' hrender hs => ?_
  have hread' : Served.rest (ofExcept (subscript devcfg "rendersettings")) s
      = .ok js_rendersettings s' := hrender
  obtain ⟨r, hvalue, -⟩ := onPart_eq_ok.mp hread'
  obtain ⟨hmember, -⟩ := ofExcept_eq_ok.mp hvalue
  refine Keeps.bind (keeps_rest_of_continues fun r _ => Keeps.onlyIf ?_) (fun _ => ?_) s' hs
  · exact keeps_applyThisdev num js_rendersettings
  refine Keeps.bind (keeps_rest_ofExcept _) fun js_stage => ?_
  refine Keeps.bind (keeps_rest_of_continues fun r hr => Keeps.onlyIf ?_) fun _ => ?_
  · refine keeps_applyRoom num env fun xcfg hxcfg hnull => ?_
    rw [hr]
    exact hread js_rendersettings xcfg hmember hxcfg hnull
  · exact keeps_rest_of_continues fun r _ => keeps_startAudioIfNeeded num env.startAudio

/-- The session is started again where a new one has been requested, or where none is active. -/
theorem keeps_served_restartSessionIfNeeded (fault : Option StartFault) :
    Keeps (Served.Current localip) (Backend.served.restartSessionIfNeeded fault) := by
  intro s hs
  have hidle : told s.backend s.backend s.vars = s.vars := if_pos rfl
  have hget : Backend.served.rest get s = .ok s.backend s := by
    show EStateM.Result.ok s.backend
      (⟨s.backend, s.stage, told s.backend s.backend s.vars⟩ : Served) = _
    rw [hidle]
  have hinactive (hactive : s.backend.sessionActive = false) : s.backend.NoSession := by
    refine ⟨?_, hs.1.sound.named⟩
    rw [← Bool.not_eq_true]
    exact fun ht => Bool.false_ne_true (hactive.symm.trans (hs.1.sound.active ht))
  rw [Backend.restartSessionIfNeeded, stateAfter, bind_of_ok hget]
  cases hneeded : s.backend.restartNeeded with
  | true =>
      rw [if_pos rfl]
      -- the session is ended before the next one is started
      obtain ⟨s', hend, hnone⟩ : ∃ s', Backend.served.rest
          (onlyIf s.backend.sessionActive (modify endSession)) s = .ok ⟨⟩ s' ∧
            s'.backend.NoSession := by
        cases hactive : s.backend.sessionActive with
        | true => exact ⟨_, rfl, rfl, hs.1.sound.named⟩
        | false => exact ⟨_, rfl, hinactive hactive⟩
      have hs' : s'.Current localip :=
        (keeps_rest_of_continues fun r _ => keeps_endSession s.backend.sessionActive).of_ok hs hend
      rw [bind_of_ok hend]
      exact current_startSession fault hs' hnone
  | false =>
      rw [if_neg Bool.false_ne_true]
      cases hactive : s.backend.sessionActive with
      | true => exact hs
      | false => exact current_startSession fault hs (hinactive hactive)

/-- A configuration that can be read keeps the session up to date: its settings do, and so does the
restart. -/
theorem keeps_configStep (env : ConfigEnv) {devcfg : Json}
    (hread : ExtraReadable num localip devcfg) :
    Keeps (Served.Current localip) (Backend.served.applyConfig num env devcfg) :=
  Keeps.bind (keeps_served_applySettings num env hread) fun _ =>
    keeps_served_restartSessionIfNeeded env.fault

/-- By induction over the configurations, the session is always up to date. -/
theorem current_run {configs : List (ConfigEnv × Json)}
    (hread : ∀ c ∈ configs, ExtraReadable num localip c.2) {s : Served}
    (hs : s.Current localip) : (run (configStep num) s configs).Current localip := by
  induction configs generalizing s with
  | nil => exact hs
  | cons c configs ih =>
      rw [List.forall_mem_cons] at hread
      exact ih hread.2 (keeps_configStep num c.1 hread.1 s hs)

end Served

/-- **The session behind a configuration.**  Whatever configurations are applied, and wherever
applying them is given up, unless a new session has been requested, the running session is
described as a new one would be, exactly if the quietly changed variables are written alike. -/
theorem configured_session_current_iff (num : Numeric) (env : SessionEnv)
    (deviceid localip : String) (configs : List (ConfigEnv × Json))
    (hread : ∀ c ∈ configs, ExtraReadable num localip c.2) :
    let s := run (configStep num) (Served.init num deviceid localip) configs
    s.backend.tascar = true → s.backend.restartNeeded = false →
      (sessionDescription env s.stage s.vars = sessionDescription env s.backend.stage s.backend.extra
        ↔ (rendersStage s.backend.stage = true →
          ∀ v, WrittenAlike env s.backend.stage true s.vars v (s.backend.extra v))) := by
  intro s
  have hs : s.Current localip := current_run num hread ⟨upToDate_init num deviceid localip, rfl⟩
  exact hs.1.description_iff env

/-- **The client behind a configuration.**  Whatever configurations are applied, and wherever
applying them is given up, unless a new session has been requested, the client of the running
session is the one that a new session would set up, and reads at the same ports. -/
theorem configured_client_current (num : Numeric) (env : SessionEnv) (sur : ClientSurroundings)
    (deviceid localip : String) (configs : List (ConfigEnv × Json))
    (hread : ∀ c ∈ configs, ExtraReadable num localip c.2) :
    let s := run (configStep num) (Served.init num deviceid localip) configs
    s.backend.tascar = true → s.backend.restartNeeded = false →
      sessionClient env s.stage s.vars sur
          = sessionClient env s.backend.stage s.backend.extra sur ∧
        servedPorts env s.stage = servedPorts env s.backend.stage := by
  intro s
  have hs : s.Current localip := current_run num hread ⟨upToDate_init num deviceid localip, rfl⟩
  exact hs.1.client_eq env sur

/-- A stage with a metronome, and the tempo changed. -/
def tempoConfig (bpm : ℤ) : Json :=
  .obj [("rendersettings", .obj [("id", .int 1), ("stagedevid", .int 1),
      ("extracfg", .obj [("metronome", .obj [("bpm", .int bpm)])])]),
    ("room", .obj [("host", .str "relay")])]

/-- A JACK server is there, and nothing fails. -/
def calmEnv : ConfigEnv := ⟨⟨true, none⟩, ⟨true, none⟩, ⟨true, none⟩, none, none⟩

/-- The session goes on with the new tempo. -/
theorem configured_session_current_tempo :
    let s := run (configStep Numeric.exact) (Served.init Numeric.exact "box" "127.0.0.1")
      [(calmEnv, tempoConfig 120), (calmEnv, tempoConfig 60)]
    s.backend.log.count .creatingSession = 1 ∧ (sessionMetronome s.backend.extra).bpm = 60 ∧
      sessionDescription plainEnv s.stage s.vars
        = sessionDescription plainEnv s.backend.stage s.backend.extra := by
  intro s
  have hread : ∀ c ∈ [(calmEnv, tempoConfig 120), (calmEnv, tempoConfig 60)],
      ExtraReadable Numeric.exact "127.0.0.1" c.2 := by
    rw [List.forall_mem_cons, List.forall_mem_singleton]
    constructor
    all_goals
      intro js_rendersettings xcfg hrender hxcfg _
      cases hrender
      cases hxcfg
      decide +kernel
  refine ⟨by decide +kernel, by decide +kernel, ?_⟩
  refine (configured_session_current_iff Numeric.exact plainEnv "box" "127.0.0.1" _ hread
    (by decide +kernel) (by decide +kernel)).mpr ?_
  exact fun _ => writtenAlike_of_kept _ _ (by decide +kernel)

/-- A stage with a pin. -/
def pinConfig (pin : ℤ) : Json :=
  .obj [("rendersettings", .obj [("id", .int 1), ("stagedevid", .int 1)]),
    ("room", .obj [("host", .str "relay"), ("pin", .int pin)])]

/-- The session is set up again with the new pin. -/
theorem configured_client_current_pin :
    let s := run (configStep Numeric.exact) (Served.init Numeric.exact "box" "127.0.0.1")
      [(calmEnv, pinConfig 5), (calmEnv, pinConfig 6)]
    s.backend.log.count .creatingSession = 2 ∧
      (sessionClient plainEnv s.stage s.vars
        (ClientSurroundings.blank (Buffer.zero _))).remoteServer.secret = 6 := by
  intro s
  have hread : ∀ c ∈ [(calmEnv, pinConfig 5), (calmEnv, pinConfig 6)],
      ExtraReadable Numeric.exact "127.0.0.1" c.2 := by
    rw [List.forall_mem_cons, List.forall_mem_singleton]
    constructor
    all_goals
      intro js_rendersettings xcfg hrender hxcfg _
      cases hrender
      cases hxcfg
      decide +kernel
  refine ⟨by decide +kernel, ?_⟩
  obtain ⟨hclient, -⟩ := configured_client_current Numeric.exact plainEnv
    (ClientSurroundings.blank (Buffer.zero _)) "box" "127.0.0.1" _ hread (by decide +kernel)
    (by decide +kernel)
  rw [hclient]
  show s.backend.stage.pin = 6
  decide +kernel

end Libov
