/-
# Changes that reach the session

When a configuration changes what is written into the session description, the running
session has to be told: either at once, as the metronome is, or by a request for a new
session.  For some variables `set_extra_config` does neither.

* `flag_applyUpdates` : the updates ask for a new session exactly when one of them does;
* `sessionDescription_running_iff` : where none asks, the running session is the one that
  would be started now exactly when the quietly changed variables are written alike;
* `change_reaches_session_iff` : when every change reaches the session.
-/
import Libov.SessionDescription
import Libov.ExtraConfigFaults

namespace Libov

open Programs Renderer

/-! ## What the updates ask for -/

/-- The update changes its variable, and the change asks for a new session. -/
def Update.Asks (u : Update) (vars : ExtraVars) : Prop :=
  ∃ new, u.value = .ok (some new) ∧ vars u.var ≠ new ∧ u.restarts (vars u.var) new = true

theorem asks_iff_of_value {u : Update} {new : u.var.kind.Value} (h : u.value = .ok (some new))
    (vars : ExtraVars) :
    u.Asks vars ↔ (vars u.var != new && u.restarts (vars u.var) new) = true := by
  rw [Bool.and_eq_true, bne_iff_ne]
  constructor
  · rintro ⟨new', hnew', hasks⟩
    rw [h] at hnew'
    cases hnew'
    exact hasks
  · intro hasks
    exact ⟨new, h, hasks⟩

theorem not_asks_of_none {u : Update} (h : u.value = .ok none) (vars : ExtraVars) :
    ¬ u.Asks vars := by
  rintro ⟨new, hnew, -⟩
  rw [h] at hnew
  cases hnew

/-- The flag is set exactly if it was before or an update asks for a new session. -/
theorem flag_applyUpdates {us : List Update} (hnd : (us.map Update.var).Nodup)
    {restart restart' : Bool} {vars vars' : ExtraVars}
    (h : applyUpdates us restart vars = .ok restart' vars') :
    restart' = true ↔ restart = true ∨ ∃ u ∈ us, u.Asks vars := by
  induction us generalizing restart vars with
  | nil =>
      cases h
      simp only [List.not_mem_nil, false_and, exists_false, or_false]
  | cons u us ih =>
      rw [List.map_cons, List.nodup_cons] at hnd
      rw [List.exists_mem_cons_iff]
      cases hval : u.value with
      | error e =>
          rw [applyUpdates_error hval] at h
          cases h
      | ok o =>
          cases o with
          | none =>
              rw [applyUpdates_none hval] at h
              rw [ih hnd.2 h, or_iff_right (not_asks_of_none hval vars)]
          | some new =>
              rw [applyUpdates_some hval] at h
              -- the later updates find their variables as they were
              have hlater : ∀ w ∈ us, (w.Asks (Function.update vars u.var new) ↔ w.Asks vars) := by
                intro w hw
                have hne : w.var ≠ u.var := fun heq => hnd.1 (heq ▸ List.mem_map_of_mem hw)
                rw [Update.Asks, Update.Asks, Function.update_of_ne hne]
              rw [ih hnd.2 h, Bool.or_eq_true, asks_iff_of_value hval, or_assoc]
              exact or_congr_right (or_congr_right (exists_congr fun w =>
                and_congr_right fun hw => hlater w hw))

/-- A variable whose updates all find their value there already is kept. -/
theorem applyUpdates_kept {us : List Update} {v : ExtraVar} {restart restart' : Bool}
    {vars vars' : ExtraVars}
    (hkept : ∀ u ∈ us, u.var = v → ∀ new, u.value = .ok (some new) → vars u.var = new)
    (h : applyUpdates us restart vars = .ok restart' vars') : vars' v = vars v := by
  induction us generalizing restart vars with
  | nil =>
      cases h
      rfl
  | cons u us ih =>
      rw [List.forall_mem_cons] at hkept
      cases hval : u.value with
      | error e =>
          rw [applyUpdates_error hval] at h
          cases h
      | ok o =>
          cases o with
          | none =>
              rw [applyUpdates_none hval] at h
              exact ih hkept.2 h
          | some new =>
              rw [applyUpdates_some hval] at h
              by_cases hv : u.var = v
              · have hnew := hkept.1 hv new hval
                rw [← hnew, Function.update_eq_self] at h
                exact ih hkept.2 h
              · rw [ih (fun w hw hwv => ?_) h, Function.update_of_ne (Ne.symm hv)]
                have hne : w.var ≠ u.var := fun heq => hv (heq.symm.trans hwv)
                rw [Function.update_of_ne hne]
                exact hkept.2 w hw hwv

/-- What holds of the variables holds behind the updates exactly if it holds of every value
read. -/
theorem forall_value_iff {us : List Update} (hnd : (us.map Update.var).Nodup)
    {restart restart' : Bool} {vars vars' : ExtraVars}
    (h : applyUpdates us restart vars = .ok restart' vars')
    {P : (v : ExtraVar) → v.kind.Value → Prop} (hvars : ∀ v, P v (vars v)) :
    (∀ u ∈ us, ∀ new, u.value = .ok (some new) → P u.var new) ↔ ∀ v, P v (vars' v) := by
  have hsettled := settled_applyUpdates hnd h
  have hvalue : ∀ u ∈ us, ∀ new, u.value = .ok (some new) → vars' u.var = new := by
    intro u hu new hnew
    obtain ⟨o, ho, hset⟩ := hsettled u hu
    exact hset new (Except.ok.inj (ho.symm.trans hnew))
  constructor
  · intro hnew v
    by_cases hread : ∃ u ∈ us, u.var = v ∧ ∃ new, u.value = .ok (some new)
    · obtain ⟨u, hu, rfl, new, hval⟩ := hread
      rw [hvalue u hu new hval]
      exact hnew u hu new hval
    · rw [applyUpdates_kept (fun u hu huv new hval => ?_) h]
      · exact hvars v
      · exact absurd ⟨u, hu, huv, new, hval⟩ hread
  · intro hnew u hu new hval
    rw [← hvalue u hu new hval]
    exact hnew u.var

/-! ## Quiet changes -/

/-- The variables that can be changed without a request for a new session. -/
def quietVars : List ExtraVar :=
  [.sorterDeadline, .expeditedForwardingPHB, .headtrackTauref, .headtrackEogpath,
    .headtrackAutorefzonly, .selfmonitorDelay]

/-- Every change by the update asks for a new session, unless its variable is a quiet one
or the metronome, which is told of the change. -/
def Update.Loud (u : Update) : Prop :=
  u.var ∈ quietVars ∨ (∀ old new, u.restarts old new = true) ∨
    ∃ value, u = ⟨.metronome, value, fun (old new : Metronome) => old.delay != new.delay⟩

section Loud

variable (num : Numeric)

theorem loud_cons {u : Update} {us : List Update} (hu : ∀ old new, u.restarts old new = true)
    (hus : ∀ w ∈ us, w.Loud) : ∀ w ∈ u :: us, w.Loud :=
  List.forall_mem_cons.2 ⟨Or.inr (Or.inl hu), hus⟩

theorem loud_cons_quiet {u : Update} {us : List Update} (hu : quietVars.elem u.var = true)
    (hus : ∀ w ∈ us, w.Loud) : ∀ w ∈ u :: us, w.Loud :=
  List.forall_mem_cons.2 ⟨Or.inl (List.mem_of_elem_eq_true hu), hus⟩

theorem loud_updateText (js : Json) (key : String) (v : ExtraVar) :
    ∀ u ∈ updateText num js key v, u.Loud := by
  rw [updateText]
  split
  · exact loud_cons (fun _ _ => rfl) (List.forall_mem_nil _)
  · exact List.forall_mem_nil _

theorem loud_spkcalibUpdates (js : Json) : ∀ u ∈ spkcalibUpdates num js, u.Loud := by
  have htext (key : String) (v : ExtraVar) := loud_updateText num js key v
  rw [spkcalibUpdates]
  simp only [List.flatten_cons, List.flatten_nil, List.append_nil, List.forall_mem_append]
  refine ⟨?_, htext _ _, htext _ _, htext _ _⟩
  exact loud_cons (fun _ _ => rfl) (loud_cons (fun _ _ => rfl) (List.forall_mem_nil _))

theorem loud_monitorUpdates (js : Json) : ∀ u ∈ monitorUpdates num js, u.Loud :=
  loud_cons_quiet rfl
    (loud_cons (fun _ _ => rfl) (loud_cons (fun _ _ => rfl) (List.forall_mem_nil _)))

theorem loud_inSection (xcfg : Json) (category : String) {updates : Json → List Update}
    (h : ∀ js, ∀ u ∈ updates js, u.Loud) : ∀ u ∈ inSection xcfg category updates, u.Loud := by
  rw [inSection]
  split
  · exact h _
  · exact List.forall_mem_nil _

/-- The quiet variables are the only ones. -/
theorem loud_extraUpdates (localip : String) (xcfg : Json) :
    ∀ u ∈ extraUpdates num localip xcfg, u.Loud := by
  rw [extraUpdates]
  simp only [List.flatten_cons, List.flatten_nil, List.append_nil, List.forall_mem_append]
  refine ⟨?_, loud_inSection _ _ fun js => ?_, loud_inSection _ _ fun js => ?_,
    loud_inSection _ _ (loud_spkcalibUpdates num), loud_inSection _ _ fun js => ?_,
    loud_inSection _ _ fun js => ?_, loud_inSection _ _ (loud_monitorUpdates num),
    loud_inSection _ _ fun js => ?_, loud_inSection _ _ fun js => ?_,
    loud_inSection _ _ fun js => ?_, loud_inSection _ _ fun js => ?_,
    loud_inSection _ _ fun js => ?_⟩
  all_goals
    repeat first
      | exact List.forall_mem_nil _
      | refine loud_cons (fun _ _ => rfl) ?_
      | refine loud_cons_quiet rfl ?_
  exact List.forall_mem_singleton.2 (Or.inr (Or.inr ⟨_, rfl⟩))

end Loud

/-- Where no update asks for a new session only the quiet variables and the metronome
change, and the metronome keeps its delay. -/
theorem kept_of_not_asked {us : List Update} (hnd : (us.map Update.var).Nodup)
    (hloud : ∀ u ∈ us, u.Loud) {restart restart' : Bool} {vars vars' : ExtraVars}
    (h : applyUpdates us restart vars = .ok restart' vars') (hnone : ¬ ∃ u ∈ us, u.Asks vars) :
    (∀ v, v ∉ quietVars → v ≠ .metronome → vars' v = vars v) ∧
      (sessionMetronome vars').delay = (sessionMetronome vars).delay := by
  have hquiet : ∀ u ∈ us, ∀ new, u.value = .ok (some new) →
      u.restarts (vars u.var) new = true → new = vars u.var := by
    intro u hu new hnew hrestarts
    by_contra hne
    exact hnone ⟨u, hu, new, hnew, Ne.symm hne, hrestarts⟩
  constructor
  · refine (forall_value_iff hnd h (P := fun v new => v ∉ quietVars → v ≠ .metronome →
      new = vars v) fun v _ _ => rfl).1 ?_
    intro u hu new hnew hv hmetro
    rcases hloud u hu with hq | halways | ⟨value, rfl⟩
    · exact absurd hq hv
    · exact hquiet u hu new hnew (halways _ _)
    · exact absurd rfl hmetro
  · have hdelay := (forall_value_iff hnd h (P := fun v new =>
      (sessionMetronome (Function.update vars v new)).delay = (sessionMetronome vars).delay)
      fun v => by rw [Function.update_eq_self]).1 ?_ .metronome
    · rwa [sessionMetronome, Function.update_self] at hdelay
    · intro u hu new hnew
      by_cases hv : u.var = .metronome
      · rcases hloud u hu with hq | halways | ⟨value, rfl⟩
        · rw [hv] at hq
          exact absurd hq (by decide)
        · rw [hquiet u hu new hnew (halways _ _), Function.update_eq_self]
        · by_contra hne
          rw [sessionMetronome, Function.update_self] at hne
          exact hne (congrArg Metronome.delay (hquiet _ hu new hnew (bne_iff_ne.2 (Ne.symm hne))))
      · rw [sessionMetronome, Function.update_of_ne (Ne.symm hv)]
        rfl

/-! ## The running session -/

/-- `update_osc`: the running metronome is told everything but its delay. -/
def Metronome.updateOsc (running new : Metronome) : Metronome := { new with delay := running.delay }

/-- The variables as the running session has them behind a change of an active session:
those from before, with the metronome as it has been told, if there is a TASCAR session to
tell. -/
def runningVars (tascar : Bool) (x new : ExtraVars) : ExtraVars :=
  if tascar then
    Function.update x .metronome ((sessionMetronome x).updateOsc (sessionMetronome new))
  else x

/-- A value of a quiet variable, or of a metronome that cannot be told, is written into the
description of a session on stage as the present value is. -/
def WrittenAlike (env : SessionEnv) (st : Stage) (tascar : Bool) (x : ExtraVars) :
    (v : ExtraVar) → v.kind.Value → Prop
  | .headtrackTauref, tauref => tracksHead st = true →
      autorefText env.text tauref = autorefText env.text (headtrackTauref x)
  | .headtrackAutorefzonly, zonly => tracksHead st = true → zonly = headtrackAutorefzonly x
  | .headtrackEogpath, eogpath => tracksHead st = true →
      st.rendersettings.headtrackingserial = false → eogpath = headtrackEogpath x
  | .selfmonitorDelay, delay => monitorsItself st = true →
      delayPlugins env.text delay = delayPlugins env.text (selfmonitorDelay x)
  | .metronome, m => tascar = false → sendsChannels st = true →
      Metronome.setXmlattr env.text m = (sessionMetronome x).setXmlattr env.text
  | _, _ => True

section Running

variable (env : SessionEnv) (st : Stage) (tascar : Bool) {x y : ExtraVars}

theorem writtenAlike_self (v : ExtraVar) : WrittenAlike env st tascar x v (x v) := by
  cases v
  case headtrackTauref => exact fun _ => rfl
  case headtrackAutorefzonly => exact fun _ => rfl
  case headtrackEogpath => exact fun _ _ => rfl
  case selfmonitorDelay => exact fun _ => rfl
  case metronome => exact fun _ _ => rfl
  all_goals trivial

theorem runningVars_of_ne {v : ExtraVar} (hv : v ≠ .metronome) :
    runningVars tascar x y v = x v := by
  rw [runningVars]
  split
  · exact Function.update_of_ne hv _ _
  · rfl

/-- Where no new session is asked for, the running session is described as a new one
exactly if the quiet variables are written alike. -/
theorem sessionDescription_running_iff
    (hkept : ∀ v, v ∉ quietVars → v ≠ .metronome → y v = x v)
    (hdelay : (sessionMetronome y).delay = (sessionMetronome x).delay) :
    sessionDescription env st (runningVars tascar x y) = sessionDescription env st y ↔
      (rendersStage st = true → ∀ v, WrittenAlike env st tascar x v (y v)) := by
  have hsession : ∀ v ∈ sessionVars, runningVars tascar x y v = y v := by
    have hloud : ∀ v ∈ sessionVars, v ∉ quietVars ∧ v ≠ .metronome := by decide
    intro v hv
    obtain ⟨hquiet, hmetro⟩ := hloud v hv
    rw [runningVars_of_ne tascar hmetro, hkept v hquiet hmetro]
  have htauref : headtrackTauref (runningVars tascar x y) = headtrackTauref x :=
    runningVars_of_ne tascar (by decide)
  have hzonly : headtrackAutorefzonly (runningVars tascar x y) = headtrackAutorefzonly x :=
    runningVars_of_ne tascar (by decide)
  have heogpath : headtrackEogpath (runningVars tascar x y) = headtrackEogpath x :=
    runningVars_of_ne tascar (by decide)
  have hself : selfmonitorDelay (runningVars tascar x y) = selfmonitorDelay x :=
    runningVars_of_ne tascar (by decide)
  have hmetro : metronomeRoute env st (runningVars tascar x y) = metronomeRoute env st y ↔
      WrittenAlike env st tascar x .metronome (y .metronome) := by
    rw [metronomeRoute_eq_iff]
    cases tascar with
    | true =>
        -- the metronome has been told everything but a delay that has not changed
        have hsame : sessionMetronome (runningVars true x y) = sessionMetronome y := by
          have htold : (sessionMetronome x).updateOsc (sessionMetronome y)
              = sessionMetronome y := by
            rw [Metronome.updateOsc, ← hdelay]
          rw [runningVars, if_pos rfl]
          exact (Function.update_self ExtraVar.metronome _ x).trans htold
        rw [hsame]
        exact iff_of_true (fun _ => rfl) fun hfalse => absurd hfalse (by decide)
    | false =>
        have hsame : runningVars false x y = x := if_neg Bool.false_ne_true
        rw [hsame]
        exact ⟨fun h _ hs => (h hs).symm, fun h hs => (h rfl hs).symm⟩
  rw [sessionDescription_eq_iff env st hsession, hmetro, headtracker_eq_iff,
    stageScene_eq_iff env st (agree_of_mem hsession sceneVars (by decide)), htauref, hzonly,
    heogpath, hself]
  refine forall_congr' fun hstage => ?_
  constructor
  · rintro ⟨hown, hmetro, hhead⟩ v
    cases v
    case headtrackTauref => exact fun ht => (hhead ht).1.symm
    case headtrackAutorefzonly => exact fun ht => (hhead ht).2.1.symm
    case headtrackEogpath => exact fun ht hs => ((hhead ht).2.2 hs).symm
    case selfmonitorDelay => exact fun hm => (hown hm).symm
    case metronome => exact hmetro
    all_goals trivial
  · intro halike
    refine ⟨fun hm => (halike .selfmonitorDelay hm).symm, halike .metronome, fun ht => ?_⟩
    exact ⟨(halike .headtrackTauref ht).symm, (halike .headtrackAutorefzonly ht).symm,
      fun hs => (halike .headtrackEogpath ht hs).symm⟩

end Running

/-! ## Configurations of an active session -/

/-- `set_extra_config` without an exception. -/
theorem setExtraConfig_returns {num : Numeric} {xcfg : Json} {r r' : Renderer}
    (h : setExtraConfig num xcfg r = .ok () r') :
    ∃ restart, applyUpdates (extraUpdates num r.localip xcfg) false r.extra
        = .ok restart r'.extra ∧ r'.stage = r.stage ∧
      r'.restartNeeded = (r.restartNeeded || (r.sessionActive && restart)) := by
  rw [setExtraConfig, wrapping_eq_ok, get_bind_apply, bind_eq_ok] at h
  obtain ⟨restart, r₁, hpart, h⟩ := h
  obtain ⟨vars, happly, rfl⟩ := onPart_eq_ok.1 hpart
  cases h
  exact ⟨restart, happly, rfl, rfl⟩

/-- A change of an active session that the session is not told of is requested as a new
session, exactly when a new session has been requested before, a change asks for one, or
everything that is changed quietly is written into the description as before. -/
theorem change_reaches_session_iff (num : Numeric) (env : SessionEnv) (xcfg : Json)
    (r r' : Renderer) (hactive : r.sessionActive = true)
    (hok : setExtraConfig num xcfg r = .ok () r') :
    (sessionDescription env r'.stage r'.extra
          ≠ sessionDescription env r.stage (runningVars r.tascar r.extra r'.extra) →
        r'.restartNeeded = true) ↔
      r.restartNeeded = true ∨ (∃ u ∈ extraUpdates num r.localip xcfg, u.Asks r.extra) ∨
        (rendersStage r.stage = true → ∀ u ∈ extraUpdates num r.localip xcfg, ∀ new,
          u.value = .ok (some new) → WrittenAlike env r.stage r.tascar r.extra u.var new) := by
  obtain ⟨restart, happly, hstage, hneeded⟩ := setExtraConfig_returns hok
  have hnd := nodup_extraUpdates num r.localip xcfg
  have hflag := flag_applyUpdates hnd happly
  rw [or_iff_right Bool.false_ne_true] at hflag
  rw [hneeded, hactive, Bool.true_and, Bool.or_eq_true, hflag, hstage]
  by_cases hneeded : r.restartNeeded = true
  · exact iff_of_true (fun _ => Or.inl hneeded) (Or.inl hneeded)
  by_cases hasks : ∃ u ∈ extraUpdates num r.localip xcfg, u.Asks r.extra
  · exact iff_of_true (fun _ => Or.inr hasks) (Or.inr (Or.inl hasks))
  -- no new session is requested, so the descriptions have to be the same
  obtain ⟨hkept, hdelay⟩ := kept_of_not_asked hnd (loud_extraUpdates num r.localip xcfg) happly
    hasks
  have hvalues := forall_value_iff hnd happly
    (writtenAlike_self env r.stage r.tascar (x := r.extra))
  rw [or_iff_right hneeded, or_iff_right hasks, or_iff_right hneeded, imp_iff_not hasks, not_not,
    hvalues, ← sessionDescription_running_iff env r.stage r.tascar hkept hdelay]
  exact eq_comm

/-! ## A session with a head tracker -/

/-- Texts of the numbers that the initial settings contain. -/
def plainText : SessionText where
  toNumeric := Numeric.exact
  toStrF := Numeric.exact.toStr
  stdToString q := toString ⌊q⌋ ++ ".000000"
  pos p := toString ⌊p.x⌋ ++ " " ++ toString ⌊p.y⌋ ++ " " ++ toString ⌊p.z⌋
  zyx o := toString ⌊o.z⌋ ++ " " ++ toString ⌊o.y⌋ ++ " " ++ toString ⌊o.x⌋
  decibel _ := "0"
  decibelF _ := "0"
  autoref _ := "0.001000"
  reflectivity _ := "0.632456"
  arc _ _ := ("1.2 0 0", "180 0 0")
  toStringBool b := if b then "true" else "false"
  vecstr2str := " ".intercalate

/-- A device without files. -/
def plainEnv : SessionEnv where
  text := plainText
  myTascarport := 9871
  distToOtherTascarport := 9870
  portoffset := 0
  folder := ""
  zitapath := ""
  secondary := false
  hash := String.length
  fileExists _ := false
  itsc := id

/-- A renderer with a running session on stage that tracks the head. -/
def trackingRenderer : Renderer :=
  let stage := activeRenderer.stage
  { activeRenderer with
    tascar := true
    stage := { stage with
      host := "relay"
      rendersettings := { stage.rendersettings with headtracking := true } } }

/-- The include file is written into the description, and a new session is requested. -/
theorem change_reaches_session_tscinclude :
    let xcfg := Json.obj [("tscinclude", .str "<session/>")]
    let r' := stateAfter (setExtraConfig Numeric.exact xcfg) trackingRenderer
    sessionDescription plainEnv r'.stage r'.extra ≠ sessionDescription plainEnv
        trackingRenderer.stage (runningVars trackingRenderer.tascar trackingRenderer.extra
          r'.extra) →
      r'.restartNeeded = true := by
  intro xcfg r'
  refine (change_reaches_session_iff Numeric.exact plainEnv xcfg trackingRenderer r' rfl rfl).mpr
    (Or.inr (Or.inl ?_))
  refine ⟨updatevarRestart Numeric.exact xcfg "tscinclude" .tscinclude, ?_, "<session/>", rfl,
    ?_, rfl⟩
  · exact List.mem_flatten.2 ⟨generalUpdates Numeric.exact xcfg, List.mem_cons_self,
      .tail _ (.tail _ (.head _))⟩
  · exact fun h => absurd (show ("" : String) = "<session/>" from h) (by decide)

/-- A configuration that only sets the reference of the head tracker. -/
def zonlyConfig : Json := .obj [("headtrack", .obj [("autorefzonly", .bool true)])]

/-- The head tracker is to be referenced around the vertical axis only, and the running
session never hears of it. -/
theorem change_misses_headtracker :
    let r' := stateAfter (setExtraConfig Numeric.exact zonlyConfig) trackingRenderer
    trackingRenderer.sessionActive = true ∧
      setExtraConfig Numeric.exact zonlyConfig trackingRenderer = .ok () r' ∧
      ¬ (sessionDescription plainEnv r'.stage r'.extra ≠ sessionDescription plainEnv
          trackingRenderer.stage (runningVars trackingRenderer.tascar trackingRenderer.extra
            r'.extra) →
        r'.restartNeeded = true) := by
  intro r'
  have hok : setExtraConfig Numeric.exact zonlyConfig trackingRenderer = .ok () r' := rfl
  have hneeded : r'.restartNeeded = false := by decide +kernel
  refine ⟨rfl, hok, fun hreaches => ?_⟩
  have hsame : sessionDescription plainEnv trackingRenderer.stage
      (runningVars trackingRenderer.tascar trackingRenderer.extra r'.extra)
        = sessionDescription plainEnv trackingRenderer.stage r'.extra := by
    by_contra hne
    rw [hreaches (Ne.symm hne)] at hneeded
    cases hneeded
  obtain ⟨restart, happly, -, hrestart⟩ := setExtraConfig_returns hok
  have hnd := nodup_extraUpdates Numeric.exact trackingRenderer.localip zonlyConfig
  have hnone : ¬ ∃ u ∈ extraUpdates Numeric.exact trackingRenderer.localip zonlyConfig,
      u.Asks trackingRenderer.extra := by
    intro hasks
    rw [(flag_applyUpdates hnd happly).2 (Or.inr hasks), hneeded] at hrestart
    exact Bool.false_ne_true hrestart
  obtain ⟨hkept, hdelay⟩ := kept_of_not_asked hnd (loud_extraUpdates _ _ _) happly hnone
  have halike := (sessionDescription_running_iff plainEnv trackingRenderer.stage
    trackingRenderer.tascar hkept hdelay).1 hsame rfl .headtrackAutorefzonly rfl
  exact Bool.false_ne_true halike.symm

end Libov
