/-
# A rejected extra configuration

`set_extra_config` assigns one variable after the other, and a value of the wrong type
ends it with an exception.  What was assigned in front of that value stays assigned, while
the flag that asks for a new session is a local variable and lost.

* `stateAfter_applyUpdates_eq_iff` : the updates leave the variables as they are exactly
  when those in front of the first exception find their values there already;
* `rejected_leaves_no_trace_iff` : when a rejected configuration leaves no trace.
-/
import Libov.RendererMethods

namespace Libov

open Programs

/-! ## Updates up to an exception -/

/-- The value of the update is read without an exception. -/
def Update.reads (u : Update) : Bool := u.value.isOk

/-- The updates in front of the first exception. -/
def beforeFault (us : List Update) : List Update := us.takeWhile Update.reads

theorem beforeFault_error {u : Update} {e : ErrMsg} (h : u.value = .error e) (us : List Update) :
    beforeFault (u :: us) = [] := by
  rw [beforeFault, List.takeWhile_cons, Update.reads, h]
  rfl

theorem beforeFault_ok {u : Update} {o : Option u.var.kind.Value} (h : u.value = .ok o)
    (us : List Update) : beforeFault (u :: us) = u :: beforeFault us := by
  rw [beforeFault, List.takeWhile_cons, Update.reads, h]
  rfl

theorem settled_cons {u : Update} {us : List Update} {vars : ExtraVars} :
    Settled (u :: us) vars ↔
      (∃ o, u.value = .ok o ∧ ∀ new, o = some new → vars u.var = new) ∧ Settled us vars :=
  List.forall_mem_cons

/-- A variable that no update assigns keeps its value, also when an update throws. -/
theorem stateAfter_applyUpdates_other {us : List Update} {v : ExtraVar}
    (hv : v ∉ us.map Update.var) (restart : Bool) (vars : ExtraVars) :
    stateAfter (applyUpdates us restart) vars v = vars v := by
  induction us generalizing restart vars with
  | nil => rfl
  | cons u us ih =>
      rw [List.map_cons, List.mem_cons, not_or] at hv
      rw [stateAfter]
      cases hval : u.value with
      | error e => rw [applyUpdates_error hval]
      | ok o =>
          cases o with
          | none =>
              rw [applyUpdates_none hval, ← stateAfter]
              exact ih hv.2 restart vars
          | some new =>
              rw [applyUpdates_some hval, ← stateAfter, ih hv.2, Function.update_of_ne hv.1]

/-- The variables are the same behind the updates exactly when every value that is read in
front of the first exception is the value of its variable. -/
theorem stateAfter_applyUpdates_eq_iff {us : List Update} (hnd : (us.map Update.var).Nodup)
    (restart : Bool) (vars : ExtraVars) :
    stateAfter (applyUpdates us restart) vars = vars ↔ Settled (beforeFault us) vars := by
  induction us generalizing restart vars with
  | nil => exact iff_of_true rfl fun u hu => absurd hu List.not_mem_nil
  | cons u us ih =>
      rw [List.map_cons, List.nodup_cons] at hnd
      cases hval : u.value with
      | error e =>
          rw [stateAfter_error (applyUpdates_error hval), beforeFault_error hval]
          exact iff_of_true rfl fun u hu => absurd hu List.not_mem_nil
      | ok o =>
          rw [beforeFault_ok hval, settled_cons]
          cases o with
          | none =>
              rw [stateAfter, applyUpdates_none hval, ← stateAfter, ih hnd.2]
              exact (and_iff_right ⟨none, hval, fun new hnew => by cases hnew⟩).symm
          | some new =>
              rw [stateAfter, applyUpdates_some hval, ← stateAfter]
              by_cases hnew : vars u.var = new
              · subst hnew
                rw [Function.update_eq_self, ih hnd.2]
                exact (and_iff_right ⟨_, hval, fun new hnew => Option.some.inj hnew⟩).symm
              · -- the later updates leave the variable alone
                refine iff_of_false (fun hsame => hnew ?_) ?_
                · have hvar := congrFun hsame u.var
                  rw [stateAfter_applyUpdates_other hnd.1, Function.update_self] at hvar
                  exact hvar.symm
                · rintro ⟨⟨o, ho, hset⟩, -⟩
                  rw [hval] at ho
                  exact hnew (hset new (Except.ok.inj ho).symm)

/-! ## The configuration as a text -/

namespace Renderer

variable (num : Numeric) (parse : String → Except JsonError Json)

/-- `set_extra_config` of a text, which is parsed first; an empty one is ignored. -/
def setExtraConfigText (js : String) : Render Unit :=
  onlyIf (js != "") do
    let xcfg ← wrapping .setExtraConfig (ofExcept ((parse js).mapError .json))
    setExtraConfig num xcfg

variable {num parse} {js : String} {r : Renderer}

variable (num r) in
theorem setExtraConfigText_parsed {xcfg : Json} (hjs : js ≠ "") (h : parse js = .ok xcfg) :
    setExtraConfigText num parse js r = setExtraConfig num xcfg r := by
  rw [setExtraConfigText, onlyIf_of_true (bne_iff_ne.mpr hjs), h]
  exact bind_of_ok rfl

variable (num r) in
theorem setExtraConfigText_malformed {e : JsonError} (hjs : js ≠ "") (h : parse js = .error e) :
    setExtraConfigText num parse js r = .error (.setExtraConfig (.json e)) r := by
  rw [setExtraConfigText, onlyIf_of_true (bne_iff_ne.mpr hjs), h]
  exact bind_of_error rfl

/-- A configuration that is rejected assigns what stands in front of the exception and
does not ask for a new session. -/
theorem setExtraConfig_rejected {xcfg : Json} (h : Throws (setExtraConfig num xcfg) r) :
    stateAfter (setExtraConfig num xcfg) r = { r with
      extra := stateAfter (applyUpdates (extraUpdates num r.localip xcfg) false) r.extra } := by
  obtain ⟨e, r', hthrows⟩ := h
  rw [setExtraConfig, stateAfter_wrapping] at *
  rw [stateAfter, get_bind_apply]
  cases hpart : onPart extra (fun vars r => { r with extra := vars })
      (applyUpdates (extraUpdates num r.localip xcfg) false) r with
  | ok restart r₁ =>
      -- behind the updates nothing can throw
      rw [wrapping, get_bind_apply, bind_of_ok hpart, modify_apply] at hthrows
      cases hthrows
  | error e r₁ =>
      rw [bind_of_error hpart]
      exact (stateAfter_error hpart).symm.trans (stateAfter_onPart ..)

end Renderer

open Renderer

/-- A configuration that is rejected, in an active session or without one, leaves the
renderer as it was or the request for a new session, exactly when a new session has been
requested before or every value in front of the first one of a wrong type is the value of
its variable. -/
theorem rejected_leaves_no_trace_iff (num : Numeric) (parse : String → Except JsonError Json)
    (r : Renderer) (js : String) (hthrows : Throws (setExtraConfigText num parse js) r) :
    stateAfter (setExtraConfigText num parse js) r = r ∨
        (stateAfter (setExtraConfigText num parse js) r).restartNeeded = true ↔
      r.restartNeeded = true ∨ ∀ xcfg, parse js = .ok xcfg →
        Settled (beforeFault (extraUpdates num r.localip xcfg)) r.extra := by
  have hjs : js ≠ "" := by
    rintro rfl
    obtain ⟨e, r', h⟩ := hthrows
    cases h
  cases hparse : parse js with
  | error e =>
      rw [stateAfter_error (setExtraConfigText_malformed num _ hjs hparse)]
      exact iff_of_true (Or.inl rfl) (Or.inr fun xcfg h => nomatch h)
  | ok xcfg =>
      have hsame : ∀ r', setExtraConfigText num parse js r' = setExtraConfig num xcfg r' :=
        fun r' => setExtraConfigText_parsed num _ hjs hparse
      have hrejected : Throws (setExtraConfig num xcfg) r := by
        rwa [Throws, hsame] at hthrows
      have hafter := setExtraConfig_rejected hrejected
      rw [stateAfter, hsame, ← stateAfter, hafter]
      have hextra := stateAfter_applyUpdates_eq_iff (nodup_extraUpdates num r.localip xcfg) false
        r.extra
      constructor
      · rintro (hkept | hrestart)
        · refine Or.inr fun xcfg' hxcfg' => ?_
          cases hxcfg'
          exact hextra.mp (congrArg Renderer.extra hkept)
        · exact Or.inl hrestart
      · rintro (hrestart | hsettled)
        · exact Or.inr hrestart
        · rw [hextra.mpr (hsettled xcfg rfl)]
          exact Or.inl rfl

/-- The web mixer is switched off, and then a number stands where a flag is asked for. -/
def wrongSoundscape : String :=
  "\x7b\"start_webmixer\": false, \"render\": \x7b\"soundscape\": 1\x7d\x7d"

/-- A parser that reads the text above, an empty object and nothing else. -/
def parseSoundscape (text : String) : Except JsonError Json :=
  if text = wrongSoundscape then
    .ok (.obj [("render", .obj [("soundscape", .int 1)]), ("start_webmixer", .bool false)])
  else if text = "\x7b\x7d" then .ok (.obj [])
  else .error .parse101

/-- The renderer with an active session. -/
def activeRenderer : Renderer :=
  { Renderer.init Numeric.exact "box" "127.0.0.1" with sessionActive := true }

/-- The renderer with an active session without the web mixer. -/
def mixerlessRenderer : Renderer :=
  { activeRenderer with extra := Function.update activeRenderer.extra .startWebmixer false }

/-- A text that is no JSON is rejected without a trace, and so is a number in place of a flag where
the web mixer is off already. -/
theorem rejected_leaves_no_trace_malformed :
    (stateAfter (setExtraConfigText Numeric.exact parseSoundscape "\x7b") activeRenderer
        = activeRenderer ∨
      (stateAfter (setExtraConfigText Numeric.exact parseSoundscape "\x7b")
        activeRenderer).restartNeeded = true) ∧
    (stateAfter (setExtraConfigText Numeric.exact parseSoundscape wrongSoundscape)
        mixerlessRenderer = mixerlessRenderer ∨
      (stateAfter (setExtraConfigText Numeric.exact parseSoundscape wrongSoundscape)
        mixerlessRenderer).restartNeeded = true) := by
  constructor
  · have hparse : parseSoundscape "\x7b" = .error .parse101 := rfl
    have hthrows := setExtraConfigText_malformed Numeric.exact activeRenderer (by decide) hparse
    refine (rejected_leaves_no_trace_iff Numeric.exact parseSoundscape activeRenderer "\x7b"
      ⟨_, _, hthrows⟩).mpr (Or.inr fun xcfg hxcfg => ?_)
    rw [hparse] at hxcfg
    cases hxcfg
  · have hparse : parseSoundscape wrongSoundscape = .ok (.obj [("render",
        .obj [("soundscape", .int 1)]), ("start_webmixer", .bool false)]) := if_pos rfl
    have hrun := setExtraConfigText_parsed Numeric.exact mixerlessRenderer (by decide) hparse
    have hthrows : Throws (setExtraConfigText Numeric.exact parseSoundscape wrongSoundscape)
        mixerlessRenderer := by
      rw [Throws, hrun]
      exact ⟨_, _, rfl⟩
    refine (rejected_leaves_no_trace_iff Numeric.exact parseSoundscape mixerlessRenderer
      wrongSoundscape hthrows).mpr (Or.inr fun xcfg hxcfg => ?_)
    rw [hparse] at hxcfg
    cases hxcfg
    -- in front of the number there are the web mixer and the default of a missing member
    have habsent : ∀ v : ExtraVar, ∃ o : Option v.kind.Value,
        (Except.ok none : Except ErrMsg (Option v.kind.Value)) = .ok o ∧
          ∀ new, o = some new → mixerlessRenderer.extra v = new :=
      fun v => ⟨none, rfl, fun new hnew => nomatch hnew⟩
    refine settled_cons.mpr ⟨habsent .reclevelanalyser, ?_⟩
    refine settled_cons.mpr ⟨⟨some false, rfl, fun new hnew => Option.some.inj hnew⟩, ?_⟩
    refine settled_cons.mpr ⟨habsent .tscinclude, ?_⟩
    refine settled_cons.mpr ⟨habsent .mhaconfig, ?_⟩
    refine settled_cons.mpr ⟨⟨some false, rfl, fun new hnew => Option.some.inj hnew⟩, ?_⟩
    exact fun u hu => absurd hu List.not_mem_nil

/-- The web mixer is off in the renderer and on in the session, and no new session is asked
for. -/
theorem rejected_leaves_webmixer_off :
    activeRenderer.sessionActive = true ∧
      Throws (setExtraConfigText Numeric.exact parseSoundscape wrongSoundscape) activeRenderer ∧
      ¬ (stateAfter (setExtraConfigText Numeric.exact parseSoundscape wrongSoundscape)
            activeRenderer = activeRenderer ∨
          (stateAfter (setExtraConfigText Numeric.exact parseSoundscape wrongSoundscape)
            activeRenderer).restartNeeded = true) := by
  have hparse : parseSoundscape wrongSoundscape = .ok (.obj [("render",
      .obj [("soundscape", .int 1)]), ("start_webmixer", .bool false)]) := if_pos rfl
  have hrun := setExtraConfigText_parsed Numeric.exact activeRenderer (by decide) hparse
  rw [Throws, stateAfter, hrun]
  refine ⟨rfl, ⟨_, _, rfl⟩, ?_⟩
  rintro (hkept | hrestart)
  · have hmixer := congrArg (fun r : Renderer => r.extra .startWebmixer) hkept
    exact absurd hmixer (by decide)
  · exact Bool.false_ne_true hrestart

end Libov
