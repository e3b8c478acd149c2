/-
# The calls of session and audio backend

The calls of `start_session` and `stop_audiobackend` are spread over the base class of the
renderers and the client.  Here the code around them is written down for any object that has
these two methods.

* `Backend.plain` : the renderer itself, for which this is the code of the other modules;
* `Backend.watched` : the renderer with a list of the calls and of the flags at each of them;
* `Backend.Related` : what the code respects if the two methods do;
* `watchedService_state`, `watchedService_log` : watching changes nothing and misses no call.
-/
import Libov.ClientService
import Libov.RendererMethods

namespace Libov

open Programs Runs

/-! ## The calls and the code around them -/

/-- The methods whose calls are looked at. -/
inductive Method where
  | startSession
  | stopAudiobackend
  deriving DecidableEq

/-- A call, with `is_session_active` and `is_audio_active` at the time of the call. -/
structure Invocation where
  method : Method
  sessionActive : Bool
  audioActive : Bool
  deriving DecidableEq

/-- An object `σ` around a renderer, with its own way of calling the two methods. -/
structure Backend (σ : Type) where
  /-- Code of the renderer that calls neither of them. -/
  rest : {α : Type} → Render α → EStateM ErrMsg σ α
  startSession : Option StartFault → EStateM ErrMsg σ Unit
  stopAudiobackend : EStateM ErrMsg σ Unit

namespace Backend

section Code

variable {σ : Type} (b : Backend σ) (num : Numeric)

/-- `configure_audio_backend`. -/
def configureAudioBackend (reply : JackReply) (audio : AudioDevice) : EStateM ErrMsg σ Unit := do
  let r ← b.rest get
  onlyIf (r.audiodevice.ne audio || !r.audioActive) do
    let noRestart := r.audiodevice.devicename == "manual" && audio.devicename == "manual"
    b.rest (modify fun r => { r with audiodevice := audio })
    onlyIf (!noRestart && r.audioActive) do
      b.rest (modify fun r => if r.sessionActive then r.requireSessionRestart.endSession else r)
      b.stopAudiobackend
    onlyIf (!noRestart) (b.rest (Renderer.startAudiobackend num reply))
    b.rest (modify fun r => { r with audioActive := true })

/-- `restart_session_if_needed`. -/
def restartSessionIfNeeded (fault : Option StartFault) : EStateM ErrMsg σ Unit := do
  let r ← b.rest get
  if r.restartNeeded then
    b.rest (onlyIf r.sessionActive (modify Renderer.endSession))
    b.startSession fault
  else
    onlyIf (!r.sessionActive) (b.startSession fault)

/-- The restart of the audio backend that a configuration can ask for. -/
def restartAudio (reply : JackReply) : EStateM ErrMsg σ Unit := do
  let r ← b.rest get
  b.rest (onlyIf r.sessionActive (modify Renderer.endSession))
  b.stopAudiobackend
  b.rest (Renderer.startAudiobackend num reply)
  b.rest (onlyIf r.sessionActive (modify Renderer.requireSessionRestart))

/-- The member "audiocfg". -/
def applyAudio (env : ConfigEnv) (js_audio : Json) : EStateM ErrMsg σ Unit := do
  let audio ← b.rest (ofExcept (readAudioDevice num js_audio))
  b.configureAudioBackend num env.configureAudio audio
  let restart ← b.rest (ofExcept (myJsValue num js_audio "restart" false))
  onlyIf restart (b.restartAudio num env.restartAudio)

/-- The settings of a configuration, up to the audio backend. -/
def applySettings (env : ConfigEnv) (devcfg : Json) : EStateM ErrMsg σ Unit := do
  let js_audio ← b.rest (ofExcept (subscript devcfg "audiocfg"))
  onlyIf (!js_audio.isNull) (b.applyAudio num env js_audio)
  let js_rendersettings ← b.rest (ofExcept (subscript devcfg "rendersettings"))
  b.rest (onlyIf (!js_rendersettings.isNull) (applyThisdev num js_rendersettings))
  let js_stage ← b.rest (ofExcept (subscript devcfg "room"))
  b.rest (onlyIf js_stage.isObject (applyRoom num env devcfg js_rendersettings js_stage))
  b.rest (startAudioIfNeeded num env.startAudio)

/-- The part of `parse_config` that works on the renderer. -/
def applyConfig (env : ConfigEnv) (devcfg : Json) : EStateM ErrMsg σ Unit := do
  b.applySettings num env devcfg
  b.restartSessionIfNeeded env.fault

/-- The end of `service`. -/
def shutDown : EStateM ErrMsg σ Unit := do
  let r ← b.rest get
  b.rest (onlyIf r.sessionActive (modify Renderer.endSession))
  b.stopAudiobackend

end Code

/-- The renderer. -/
def plain : Backend Renderer where
  rest x := x
  startSession := Renderer.startSession
  stopAudiobackend := modify Renderer.stopAudiobackend

/-- For the renderer itself this is the code that configurations are applied with. -/
theorem plain_applyConfig (num : Numeric) (env : ConfigEnv) (devcfg : Json) :
    plain.applyConfig num env devcfg = Libov.applyConfig num env devcfg := rfl

end Backend

/-! ## Watching the calls -/

/-- A state with the calls that have led to it. -/
structure Watched (σ : Type) where
  state : σ
  calls : List Invocation

/-- A program that makes no call. -/
def unwatched {σ α : Type} (x : EStateM ErrMsg σ α) : EStateM ErrMsg (Watched σ) α :=
  onPart Watched.state (fun s w => { w with state := s }) x

/-- The call of a method is noted with the flags before it. -/
def note (m : Method) (w : Watched Renderer) : Watched Renderer :=
  { w with calls := w.calls ++ [⟨m, w.state.sessionActive, w.state.audioActive⟩] }

/-- A watched program on a part of the state. -/
def Watched.part {σ τ α : Type} (read : τ → σ) (write : σ → τ → τ)
    (x : EStateM ErrMsg (Watched σ) α) : EStateM ErrMsg (Watched τ) α :=
  onPart (fun w => ⟨read w.state, w.calls⟩) (fun v w => ⟨write v.state w.state, v.calls⟩) x

/-- The renderer with its calls. -/
def Backend.watched : Backend (Watched Renderer) where
  rest := unwatched
  startSession fault := do
    modify (note .startSession)
    unwatched (Renderer.startSession fault)
  stopAudiobackend := do
    modify (note .stopAudiobackend)
    unwatched (modify Renderer.stopAudiobackend)

section Service

variable (num : Numeric) (parse : String → Except JsonError Json)

/-- A program on the backend of the client. -/
def onBackend (x : EStateM ErrMsg (Watched Renderer) Unit) : EStateM ErrMsg (Watched Client) Unit :=
  Watched.part Client.backend (fun r c => { c with backend := r }) x

/-- A program on the client of the service. -/
def onClient (x : EStateM ErrMsg (Watched Client) Unit) : EStateM ErrMsg (Watched Service) Unit :=
  Watched.part Service.client (fun c s => { s with client := c }) x

/-- `parse_config`. -/
def watchedConfig (env : ConfigEnv) (devcfg : Json) : EStateM ErrMsg (Watched Client) Unit := do
  unwatched (checkMixer num devcfg)
  unwatched (checkOwner num devcfg)
  unwatched (quitIfRequested (quitRequests num devcfg))
  let c ← unwatched get
  onlyIf (!c.quitrequest) (onBackend (Backend.watched.applyConfig num env devcfg))

/-- A turn of the loop. -/
def watchedTurn (turn : Turn) : EStateM ErrMsg (Watched Service) Unit := do
  let stagecfg ← unwatched (deviceUpdate turn.response)
  caught do
    unwatched (updateConfig parse stagecfg)
    let s ← unwatched get
    onClient (watchedConfig num turn.env s.devcfg)

/-- The service with its calls after a turn of the loop. -/
def watchedStep (w : Watched Service) (turn : Turn) : Watched Service :=
  stateAfter (watchedTurn num parse turn) w

/-- The service with its calls after the turns of the loop and the shutdown behind them. -/
def watchedService (s₀ : Service) (turns : List Turn) : Watched Service :=
  stateAfter (onClient (onBackend Backend.watched.shutDown))
    (run (watchedStep num parse) ⟨s₀, []⟩ turns)

/-- The service after the turns of the loop and the shutdown behind them. -/
def serviceEnd (s₀ : Service) (turns : List Turn) : Service :=
  stateAfter (onPart Service.client (fun c s => { s with client := c })
    (onPart Client.backend (fun r c => { c with backend := r }) Backend.plain.shutDown))
    (run (serviceStep num parse) s₀ turns)

end Service

/-! ## The calls in the log -/

/-- The method that logs a line first. -/
def LogLine.method? : LogLine → Option Method
  | creatingSession => some .startSession
  | stoppingAudio => some .stopAudiobackend
  | _ => none

/-- The calls that the log tells of. -/
def Renderer.logged (r : Renderer) : List Method := r.log.filterMap LogLine.method?

/-- A program that logs no call. -/
def Quiet {α : Type} (x : Render α) : Prop := ∀ l, Keeps (fun r => r.logged = l) x

section Quiet

variable {α β : Type} {x : Render α} {r : Renderer}

/-- A sequence of programs without calls makes no call. -/
theorem Quiet.bind {f : α → Render β} (hx : Quiet x) (hf : ∀ a, Quiet (f a)) : Quiet (x >>= f) :=
  fun l => (hx l).bind fun a => hf a l

/-- Nor does such a program under a condition. -/
theorem Quiet.onlyIf {c : Bool} {x : Render Unit} (hx : Quiet x) : Quiet (onlyIf c x) :=
  fun l => (hx l).onlyIf

theorem quiet_get : Quiet (get : Render Renderer) := fun _ => Keeps.of_get

theorem quiet_ofExcept (y : Except ErrMsg α) : Quiet (ofExcept y) := fun _ => Keeps.of_except y

/-- An assignment that leaves the log alone makes no call. -/
theorem quiet_modify {f : Renderer → Renderer} (hf : ∀ r, (f r).logged = r.logged) :
    Quiet (modify f) :=
  fun _ => Keeps.of_modify fun r hr => (hf r).trans hr

/-- A line on the console is one more call if it belongs to one of the methods. -/
theorem logged_consoleLog (line : LogLine) :
    (r.consoleLog line).logged = r.logged ++ line.method?.toList := by
  show (r.log ++ [line]).filterMap LogLine.method? = _
  rw [List.filterMap_append]
  cases hline : line.method? with
  | none => rw [List.filterMap_cons_none hline]; rfl
  | some m => rw [List.filterMap_cons_some hline]; rfl

/-- The end of a session writes no line about either method. -/
theorem logged_endSession : r.endSession.logged = r.logged := by
  have hended : r.endSession.logged
      = ((r.consoleLog .endingSession).consoleLog .endedSession).logged := rfl
  rw [hended, logged_consoleLog, logged_consoleLog]
  exact (List.append_nil _).trans (List.append_nil _)

/-- The stop of the audio backend writes its own line. -/
theorem logged_stopAudiobackend :
    r.stopAudiobackend.logged = r.logged ++ [.stopAudiobackend] := by
  have hstopped : r.stopAudiobackend.logged
      = ((r.consoleLog .stoppingAudio).consoleLog .stoppedAudio).logged := rfl
  rw [hstopped, logged_consoleLog, logged_consoleLog]
  exact List.append_nil _

/-- A line that tells of no call. -/
theorem quiet_consoleLog {f : Renderer → Renderer} {line : LogLine} (hline : line.method? = none)
    (hf : ∀ r, (f r).log = (r.consoleLog line).log) : Quiet (modify f) := by
  refine quiet_modify fun r => ?_
  rw [Renderer.logged, hf r]
  apply (logged_consoleLog line).trans
  rw [hline]
  exact List.append_nil _

theorem quiet_throwIf (c : Bool) (e : ErrMsg) : Quiet (throwIf c e) := fun _ => Keeps.throwIf c e

/-- The start of the audio backend is none of the calls that are looked at. -/
theorem quiet_startAudiobackend (num : Numeric) (reply : JackReply) :
    Quiet (Renderer.startAudiobackend num reply) := by
  apply Quiet.bind quiet_get
  intro r
  refine Quiet.bind (quiet_consoleLog rfl fun _ => rfl) ?_
  intro _
  refine Quiet.bind (Quiet.onlyIf (Quiet.bind (quiet_modify ?_) fun _ => quiet_throwIf _ _)) ?_
  · intro _
    rfl
  intro _
  refine Quiet.bind (quiet_modify fun _ => rfl) ?_
  intro _
  exact quiet_consoleLog rfl fun _ => rfl

/-- A session that is ended makes no call either. -/
theorem quiet_endSession (c : Bool) : Quiet (onlyIf c (modify Renderer.endSession)) :=
  Quiet.onlyIf (quiet_modify fun _ => logged_endSession)

/-- The relay server is set without a call. -/
theorem logged_setRelayServer (host : String) (port : Port) (pin : Secret) :
    (Renderer.setRelayServer host port pin r).logged = r.logged := by
  rw [Renderer.setRelayServer]
  split
  · exact logged_endSession
  · rfl

/-- So are the render settings, also where the session has to be restarted. -/
theorem logged_setRenderSettings (rendersettings : RenderSettings) (id : StageDeviceId) :
    (Renderer.setRenderSettings rendersettings id r).logged = r.logged := by
  rw [Renderer.setRenderSettings]
  split
  · rfl
  · rfl

/-- The extra configuration makes no call, whether it is taken or rejected. -/
theorem quiet_setExtraConfig (num : Numeric) (xcfg : Json) :
    Quiet (Renderer.setExtraConfig num xcfg) := by
  intro l
  refine Keeps.wrapping _ ?_
  refine Keeps.bind Keeps.of_get ?_
  intro r
  refine Keeps.bind (Keeps.onPart ?_ _) ?_
  · intro _ _ h
    exact h
  intro restart
  exact Keeps.of_modify fun _ h => h

variable (num : Numeric)

/-- The device that is described as this one is read without a call. -/
theorem quiet_applyThisdev (js_rendersettings : Json) :
    Quiet (applyThisdev num js_rendersettings) := by
  apply Quiet.bind (quiet_ofExcept _)
  intro stagedev
  exact quiet_modify fun _ => rfl

/-- So are the devices of a room. -/
theorem quiet_applyRoomdev (devcfg : Json) : Quiet (applyRoomdev num devcfg) := by
  apply Quiet.bind (quiet_ofExcept _)
  intro js_stagedevs
  cases js_stagedevs.array? with
  | none => exact fun _ => Keeps.of_pure _
  | some devs =>
      apply Quiet.bind (quiet_ofExcept _)
      intro newstage
      exact quiet_modify fun _ => rfl

/-- A room makes no call, the extra configuration in it included. -/
theorem quiet_applyRoom (env : ConfigEnv) (devcfg js_rendersettings js_stage : Json) :
    Quiet (applyRoom num env devcfg js_rendersettings js_stage) := by
  apply Quiet.bind (quiet_ofExcept _)
  intro relay
  refine Quiet.bind (quiet_modify fun _ => logged_setRelayServer _ _ _) ?_
  intro _
  apply Quiet.bind (quiet_ofExcept _)
  intro rendersettings
  apply Quiet.bind (quiet_ofExcept _)
  intro stagedevid
  refine Quiet.bind (quiet_modify fun _ => logged_setRenderSettings _ _) ?_
  intro _
  refine Quiet.bind (Quiet.bind (quiet_ofExcept _) ?_) fun _ => quiet_applyRoomdev num devcfg
  intro js_extracfg
  exact Quiet.onlyIf (quiet_setExtraConfig num js_extracfg)

/-- The backend that is started at the end of a configuration makes no call. -/
theorem quiet_startAudioIfNeeded (reply : JackReply) : Quiet (startAudioIfNeeded num reply) := by
  apply Quiet.bind quiet_get
  intro r
  exact Quiet.onlyIf (quiet_startAudiobackend num reply)

/-- A start of a session logs the call and no other. -/
theorem logged_startSession (fault : Option StartFault) :
    (stateAfter (Renderer.startSession fault) r).logged = r.logged ++ [.startSession] := by
  have hopen : ((r.consoleLog .creatingSession).baseStartSession).logged
      = r.logged ++ [.startSession] := logged_consoleLog (r := r) .creatingSession
  have hrest : Quiet (do
      let r ← get
      onlyIf (r.stage.host != "") (Renderer.startOvboxclient fault)
      throwIf (fault = some .tscinclude && r.tscinclude != "") (.session .tscinclude)
      throwIf (fault = some .load) (.session .load)
      Renderer.startTascar fault
      modify fun r => { r with sessionReady := true }
      modify fun r => r.consoleLog .sessionStarted) := by
    apply Quiet.bind quiet_get
    intro r
    refine Quiet.bind (Quiet.onlyIf ?_) ?_
    · refine Quiet.bind (quiet_modify fun _ => rfl) ?_
      intro _
      apply Quiet.bind (quiet_throwIf _ _)
      intro _
      refine Quiet.bind (quiet_modify fun _ => rfl) ?_
      intro _
      exact Quiet.bind quiet_get fun _ l => Renderer.StartStable.addProxyClients _ fault 0 _
    intro _
    apply Quiet.bind (quiet_throwIf _ _)
    intro _
    apply Quiet.bind (quiet_throwIf _ _)
    intro _
    refine Quiet.bind ?_ ?_
    · refine Quiet.bind (quiet_modify fun _ => rfl) ?_
      intro _
      exact Quiet.onlyIf (Quiet.bind (quiet_modify fun _ => rfl) fun _ _ => Keeps.of_throw _)
    intro _
    exact Quiet.bind (quiet_modify fun _ => rfl) fun _ => quiet_consoleLog rfl fun _ => rfl
  exact hrest _ _ hopen

end Quiet

/-! ## What the code around the calls respects -/

/-- A relation between programs on two objects that holds of the two methods and of the code that
makes no call, and that programs made of related ones respect. -/
structure Backend.Related {σ τ : Type} (b : Backend σ) (b' : Backend τ)
    (R : {α : Type} → EStateM ErrMsg σ α → EStateM ErrMsg τ α → Prop) : Prop where
  bind : ∀ {α β : Type} {x : EStateM ErrMsg σ α} {y : EStateM ErrMsg τ α}
    {f : α → EStateM ErrMsg σ β} {g : α → EStateM ErrMsg τ β},
    R x y → (∀ a, R (f a) (g a)) → R (x >>= f) (y >>= g)
  onlyIf : ∀ {c : Bool} {x : EStateM ErrMsg σ Unit} {y : EStateM ErrMsg τ Unit},
    R x y → R (onlyIf c x) (onlyIf c y)
  rest : ∀ {α : Type} {x : Render α}, Quiet x → R (b.rest x) (b'.rest x)
  startSession : ∀ fault, R (b.startSession fault) (b'.startSession fault)
  stopAudiobackend : R b.stopAudiobackend b'.stopAudiobackend

namespace Backend.Related

variable {σ τ : Type} {b : Backend σ} {b' : Backend τ}
variable {R : {α : Type} → EStateM ErrMsg σ α → EStateM ErrMsg τ α → Prop}
variable (h : b.Related b' R) (num : Numeric)

include h

/-- Two objects that correspond are changed by `configure_audio_backend` in the same way. -/
theorem configureAudioBackend (reply : JackReply) (audio : AudioDevice) :
    R (b.configureAudioBackend num reply audio) (b'.configureAudioBackend num reply audio) := by
  apply h.bind (h.rest quiet_get)
  intro r
  apply h.onlyIf
  apply h.bind (h.rest (quiet_modify ?_))
  · intro _
    apply h.bind (h.onlyIf ?_)
    · intro _
      apply h.bind (h.onlyIf (h.rest (quiet_startAudiobackend num reply)))
      intro _
      exact h.rest (quiet_modify fun _ => rfl)
    · apply h.bind (h.rest (quiet_modify ?_)) fun _ => h.stopAudiobackend
      intro r'
      split
      · exact logged_endSession
      · rfl
  · intro _
    rfl

/-- `restart_session_if_needed` respects the relation. -/
theorem restartSessionIfNeeded (fault : Option StartFault) :
    R (b.restartSessionIfNeeded fault) (b'.restartSessionIfNeeded fault) := by
  apply h.bind (h.rest quiet_get)
  intro r
  split
  · exact h.bind (h.rest (quiet_endSession _)) fun _ => h.startSession fault
  · exact h.onlyIf (h.startSession fault)

/-- So does the restart of the audio backend. -/
theorem restartAudio (reply : JackReply) :
    R (b.restartAudio num reply) (b'.restartAudio num reply) := by
  apply h.bind (h.rest quiet_get)
  intro r
  apply h.bind (h.rest (quiet_endSession _))
  intro _
  apply h.bind h.stopAudiobackend
  intro _
  apply h.bind (h.rest (quiet_startAudiobackend num reply))
  intro _
  exact h.rest (Quiet.onlyIf (quiet_modify fun _ => rfl))

/-- The audio configuration respects it, being made of these two. -/
theorem applyAudio (env : ConfigEnv) (js_audio : Json) :
    R (b.applyAudio num env js_audio) (b'.applyAudio num env js_audio) := by
  apply h.bind (h.rest (quiet_ofExcept _))
  intro audio
  apply h.bind (h.configureAudioBackend num env.configureAudio audio)
  intro _
  apply h.bind (h.rest (quiet_ofExcept _))
  intro restart
  exact h.onlyIf (h.restartAudio num env.restartAudio)

/-- The settings in front of the session add code without a call. -/
theorem applySettings (env : ConfigEnv) (devcfg : Json) :
    R (b.applySettings num env devcfg) (b'.applySettings num env devcfg) := by
  apply h.bind (h.rest (quiet_ofExcept _))
  intro js_audio
  apply h.bind (h.onlyIf (h.applyAudio num env js_audio))
  intro _
  apply h.bind (h.rest (quiet_ofExcept _))
  intro js_rendersettings
  apply h.bind (h.rest (Quiet.onlyIf (quiet_applyThisdev num _)))
  intro _
  apply h.bind (h.rest (quiet_ofExcept _))
  intro js_stage
  apply h.bind (h.rest (Quiet.onlyIf (quiet_applyRoom num env _ _ _)))
  intro _
  exact h.rest (quiet_startAudioIfNeeded num env.startAudio)

/-- So the configuration as a whole does to both objects what corresponds. -/
theorem applyConfig (env : ConfigEnv) (devcfg : Json) :
    R (b.applyConfig num env devcfg) (b'.applyConfig num env devcfg) :=
  h.bind (h.applySettings num env devcfg) fun _ => h.restartSessionIfNeeded env.fault

/-- The end of the client respects the relation as well. -/
theorem shutDown : R b.shutDown b'.shutDown := by
  apply h.bind (h.rest quiet_get)
  intro r
  exact h.bind (h.rest (quiet_endSession _)) fun _ => h.stopAudiobackend

end Backend.Related

/-! ## Watching changes nothing -/

section Following

/-- A program that makes no call does to the state what it does without a watch. -/
theorem follows_unwatched {σ α : Type} (x : EStateM ErrMsg σ α) :
    Follows Watched.state (unwatched x) x :=
  Follows.of_onPart fun _ _ => rfl

/-- A watched program on a part follows the program on the part. -/
theorem follows_part {σ τ α : Type} (read : τ → σ) (write : σ → τ → τ)
    {x : EStateM ErrMsg (Watched σ) α} {y : EStateM ErrMsg σ α} (h : Follows Watched.state x y) :
    Follows Watched.state (Watched.part read write x) (onPart read write y) := by
  intro w
  have hpart := h ⟨read w.state, w.calls⟩
  rw [Watched.part, onPart, onPart, ← hpart]
  rcases x ⟨read w.state, w.calls⟩ with ⟨a, v⟩ | ⟨e, v⟩
  · rfl
  · rfl

/-- The code around the calls does to the renderer what it does without the list of calls. -/
theorem Backend.related_follows :
    Backend.watched.Related Backend.plain fun x y => Follows Watched.state x y where
  bind hx hf := hx.bind hf
  onlyIf h := h.onlyIf
  rest _ := follows_unwatched _
  startSession _ := (follows_unwatched _).behind_modify fun _ => rfl
  stopAudiobackend := (follows_unwatched _).behind_modify fun _ => rfl

variable (num : Numeric) (parse : String → Except JsonError Json)

/-- A watched configuration leaves the client that the code leaves. -/
theorem follows_watchedConfig (env : ConfigEnv) (devcfg : Json) :
    Follows Watched.state (watchedConfig num env devcfg) (parseConfig num env devcfg) := by
  apply (follows_unwatched _).bind
  intro _
  apply (follows_unwatched _).bind
  intro _
  apply (follows_unwatched _).bind
  intro _
  apply (follows_unwatched get).bind
  intro c
  exact Follows.onlyIf (follows_part _ _ (Backend.related_follows.applyConfig num env devcfg))

/-- So does a turn of `service`. -/
theorem follows_watchedTurn (turn : Turn) :
    Follows Watched.state (watchedTurn num parse turn) (serviceTurn num parse turn) := by
  apply (follows_unwatched _).bind
  intro stagecfg
  refine Follows.caught ((follows_unwatched _).bind ?_)
  intro _
  apply (follows_unwatched get).bind
  intro s
  exact follows_part _ _ (follows_watchedConfig num turn.env s.devcfg)

/-- So does a run of turns: watching changes nothing. -/
theorem watchedRun_state (w : Watched Service) (turns : List Turn) :
    (run (watchedStep num parse) w turns).state = run (serviceStep num parse) w.state turns := by
  induction turns generalizing w with
  | nil => rfl
  | cons turn turns ih =>
      have hstep : (watchedStep num parse w turn).state = serviceStep num parse w.state turn :=
        (follows_watchedTurn num parse turn).stateAfter w
      rw [run_cons, run_cons, ih, hstep]

/-- The service that is watched is the service. -/
theorem watchedService_state (s₀ : Service) (turns : List Turn) :
    (watchedService num parse s₀ turns).state = serviceEnd num parse s₀ turns := by
  have hdown := follows_part Service.client (fun c s => { s with client := c })
    (follows_part Client.backend (fun r c => { c with backend := r })
      Backend.related_follows.shutDown)
  unfold watchedService serviceEnd
  rw [← watchedRun_state num parse ⟨s₀, []⟩ turns]
  exact hdown.stateAfter _

end Following

/-! ## Watching misses no call -/

/-- The calls that have been noted are those in the log behind the lines `l`. -/
def Watched.Logged {σ : Type} (backend : σ → Renderer) (l : List Method) (w : Watched σ) : Prop :=
  (backend w.state).logged = l ++ w.calls.map Invocation.method

section Logged

variable {l : List Method}

/-- A watched program on a renderer misses no call. -/
def NotesAll {α : Type} (x : EStateM ErrMsg (Watched Renderer) α) : Prop :=
  ∀ l, Keeps (Watched.Logged (fun r => r) l) x

/-- A call that is noted and logged. -/
theorem notesAll_call {m : Method} {x : Render Unit}
    (hx : ∀ r, (stateAfter x r).logged = r.logged ++ [m]) :
    NotesAll (do modify (note m); unwatched x) := by
  intro l w hw
  show (stateAfter (unwatched x) (note m w)).Logged _ l
  rw [unwatched, stateAfter_onPart]
  show (stateAfter x w.state).logged = l ++ (w.calls ++ [_]).map Invocation.method
  rw [hx, List.map_append, ← List.append_assoc]
  exact congrArg (· ++ [m]) hw

/-- A program without calls misses none. -/
theorem notesAll_rest {α : Type} {x : Render α} (hx : Quiet x) : NotesAll (unwatched x) := by
  intro l w hw
  rw [unwatched, stateAfter_onPart]
  exact (hx _ w.state rfl).trans hw

/-- The code around the calls notes them all. -/
theorem Backend.related_notesAll :
    Backend.watched.Related Backend.watched fun x _ => NotesAll x where
  bind hx hf l := (hx l).bind fun a => hf a l
  onlyIf h l := (h l).onlyIf
  rest := notesAll_rest
  startSession fault := notesAll_call fun _ => logged_startSession fault
  stopAudiobackend := notesAll_call fun _ => logged_stopAudiobackend

/-- A program that leaves the backend alone. -/
theorem keeps_logged_unwatched {σ α : Type} {backend : σ → Renderer} {x : EStateM ErrMsg σ α}
    (hx : ∀ r, Keeps (fun s => backend s = r) x) :
    Keeps (Watched.Logged backend l) (unwatched x) := by
  intro w hw
  rw [unwatched, stateAfter_onPart]
  show (backend (stateAfter x w.state)).logged = _
  rw [hx _ w.state rfl]
  exact hw

/-- What a program notes on the renderer is in the log of the client. -/
theorem keeps_logged_onBackend {x : EStateM ErrMsg (Watched Renderer) Unit} (hx : NotesAll x) :
    Keeps (Watched.Logged Client.backend l) (onBackend x) := by
  intro w hw
  rw [onBackend, Watched.part, stateAfter_onPart]
  exact hx l ⟨w.state.backend, w.calls⟩ hw

/-- It is then in the log of the service as well. -/
theorem keeps_logged_onClient {x : EStateM ErrMsg (Watched Client) Unit}
    (hx : Keeps (Watched.Logged Client.backend l) x) :
    Keeps (Watched.Logged (fun s : Service => s.client.backend) l) (onClient x) := by
  intro w hw
  rw [onClient, Watched.part, stateAfter_onPart]
  exact hx ⟨w.state.client, w.calls⟩ hw

/-- Requests to quit do not touch the renderer. -/
theorem keeps_backend_quitIfRequested (requests : List (Except ErrMsg Bool)) (r : Renderer) :
    Keeps (fun c : Client => c.backend = r) (quitIfRequested requests) := by
  induction requests with
  | nil => exact Keeps.of_pure _
  | cons request requests ih =>
      refine Keeps.bind (Keeps.of_except request) ?_
      intro quit
      exact Keeps.bind (Keeps.onlyIf (Keeps.of_modify fun _ h => h)) fun _ => ih

variable (num : Numeric) (parse : String → Except JsonError Json)

/-- A configuration notes all of its calls. -/
theorem keeps_logged_watchedConfig (env : ConfigEnv) (devcfg : Json) :
    Keeps (Watched.Logged Client.backend l) (watchedConfig num env devcfg) := by
  refine Keeps.bind (keeps_logged_unwatched fun r => ?_) ?_
  · refine Keeps.bind (Keeps.of_except _) fun _ => Keeps.bind Keeps.of_get fun _ => ?_
    exact Keeps.onlyIf (Keeps.of_modify fun _ h => h)
  intro _
  refine Keeps.bind (keeps_logged_unwatched fun r => ?_) ?_
  · refine Keeps.bind Keeps.of_get fun _ => Keeps.bind (Keeps.of_except _) fun _ => ?_
    exact Keeps.of_modify fun _ h => h
  intro _
  refine Keeps.bind (keeps_logged_unwatched fun r => keeps_backend_quitIfRequested _ r) ?_
  intro _
  refine Keeps.bind (keeps_logged_unwatched fun _ => Keeps.of_get) ?_
  intro c
  exact Keeps.onlyIf (keeps_logged_onBackend (Backend.related_notesAll.applyConfig num env devcfg))

/-- The answer of the server is stored without the renderer. -/
theorem keeps_backend_deviceUpdate (response : Except ErrMsg String) (r : Renderer) :
    Keeps (fun s : Service => s.client.backend = r) (deviceUpdate response) := by
  refine Keeps.bind (Keeps.of_except response) ?_
  intro retv
  cases hashLine? retv with
  | none => exact Keeps.of_pure _
  | some line =>
      refine Keeps.bind (Keeps.throwIf _ _) ?_
      intro _
      exact Keeps.bind (Keeps.of_modify fun _ h => h) fun _ => Keeps.of_pure _

/-- The configuration that is merged from it is, too. -/
theorem keeps_backend_updateConfig (stagecfg : String) (r : Renderer) :
    Keeps (fun s : Service => s.client.backend = r) (updateConfig parse stagecfg) := by
  refine Keeps.onlyIf (Keeps.bind Keeps.of_get ?_)
  intro s
  refine Keeps.bind (Keeps.of_except _) ?_
  intro devcfg
  exact Keeps.of_modify fun _ h => h

/-- A turn of the service notes all of its calls. -/
theorem logged_watchedStep (w : Watched Service) (turn : Turn)
    (hw : w.Logged (fun s => s.client.backend) l) :
    (watchedStep num parse w turn).Logged (fun s => s.client.backend) l := by
  have hturn : Keeps (Watched.Logged (fun s : Service => s.client.backend) l)
      (watchedTurn num parse turn) := by
    refine Keeps.bind (keeps_logged_unwatched fun r => keeps_backend_deviceUpdate _ r) ?_
    intro stagecfg
    refine Keeps.caught (Keeps.bind
      (keeps_logged_unwatched fun r => keeps_backend_updateConfig parse stagecfg r) ?_)
    intro _
    refine Keeps.bind (keeps_logged_unwatched fun _ => Keeps.of_get) ?_
    intro s
    exact keeps_logged_onClient (keeps_logged_watchedConfig num turn.env s.devcfg)
  exact hturn w hw

/-- The calls of a run are those that the service logs in it. -/
theorem watchedService_log (s₀ : Service) (turns : List Turn) :
    (serviceEnd num parse s₀ turns).client.backend.logged
      = s₀.client.backend.logged
        ++ (watchedService num parse s₀ turns).calls.map Invocation.method := by
  have hstart : Watched.Logged (fun s : Service => s.client.backend) s₀.client.backend.logged
      ⟨s₀, []⟩ := (List.append_nil _).symm
  have hloop : (run (watchedStep num parse) ⟨s₀, []⟩ turns).Logged
      (fun s => s.client.backend) s₀.client.backend.logged :=
    invariant_run_of_step (logged_watchedStep num parse) hstart turns
  have hend := keeps_logged_onClient (keeps_logged_onBackend Backend.related_notesAll.shutDown) _ hloop
  rw [← watchedService_state]
  exact hend

end Logged

end Libov
