/-
# The extra configuration

`set_extra_config` of `ov_render_tascar.cc` reads about fifty member variables
from the sections of a JSON object.  Each assignment is an `Update` : the variable,
the value read for it (or the exception met while reading), and whether a change
requires a new session.  Applying the updates a second time changes nothing,
because no variable is assigned twice and a value read does not depend on the
variables.
-/
import Libov.OvTypes
import Libov.Programs

namespace Libov

open Programs

/-! ## Variables -/

/-- Settings of the metronome. -/
structure Metronome where
  bpb : UInt32
  bpm : ℚ
  bypass : Bool
  delay : ℚ
  level : ℚ
  deriving DecidableEq

/-- The types of the variables. -/
inductive VarKind where
  | bool | string | float | int | uint | uints | metronome | clients
  deriving DecidableEq

/-- The values of a type. -/
def VarKind.Value : VarKind → Type
  | bool => Bool
  | string => String
  | float => ℚ
  | int => Int32
  | uint => UInt32
  | uints => List UInt32
  | metronome => Metronome
  | clients => OrderedMap StageDeviceId String

instance (k : VarKind) : DecidableEq k.Value :=
  match k with
  | .bool => inferInstanceAs (DecidableEq Bool)
  | .string => inferInstanceAs (DecidableEq String)
  | .float => inferInstanceAs (DecidableEq ℚ)
  | .int => inferInstanceAs (DecidableEq Int32)
  | .uint => inferInstanceAs (DecidableEq UInt32)
  | .uints => inferInstanceAs (DecidableEq (List UInt32))
  | .metronome => inferInstanceAs (DecidableEq Metronome)
  | .clients => inferInstanceAs (DecidableEq (OrderedMap StageDeviceId String))

/-- The member variables that the extra configuration assigns. -/
inductive ExtraVar where
  | reclevelanalyser | startWebmixer | tscinclude | mhaconfig | usebcf2000
  | getoscvars
  | tunerTuning | tunerF0 | tunerActive
  | spkcalibUse | spkcalibFirlen | spkcalibVfreq | spkcalibVgainl | spkcalibVgainr
  | sorterDeadline | expeditedForwardingPHB
  | headtrackTauref | headtrackEogpath | headtrackAutorefzonly
  | selfmonitorDelay | selfmonitorOnlyreverb | selfmonitorActive
  | renderSoundscape | zitasampleformat | useloudspeaker | fdnforwardstages | fdnorder
  | echocNrep | echocMaxdist | echocLevel | echocFilterlen | emptysessionismonitor
  | metronome
  | jackrecSampleformat | jackrecFileformat
  | isProxy | useProxy | proxyclients | proxyip
  | mczita | mczitasend | mczitasendch | mczitaaddr | mczitaport | mczitadevice
  | mczitabuffer | mczitachannels | mczitaAutoconnectRec
  deriving DecidableEq

/-- The type of a variable. -/
def ExtraVar.kind : ExtraVar → VarKind
  | tscinclude | mhaconfig | tunerTuning | spkcalibVfreq | spkcalibVgainl | spkcalibVgainr
  | headtrackEogpath | zitasampleformat | jackrecSampleformat | jackrecFileformat
  | proxyip | mczitaaddr | mczitadevice => .string
  | tunerF0 | sorterDeadline | headtrackTauref | selfmonitorDelay | echocMaxdist
  | echocLevel => .float
  | spkcalibFirlen => .int
  | fdnforwardstages | fdnorder | echocNrep | echocFilterlen | mczitasendch | mczitaport
  | mczitabuffer => .uint
  | mczitachannels => .uints
  | metronome => .metronome
  | proxyclients => .clients
  | _ => .bool

/-- A value for every variable. -/
abbrev ExtraVars := (v : ExtraVar) → v.kind.Value

/-- The initial values. -/
def ExtraVars.default (num : Numeric) : ExtraVars
  | .startWebmixer | .selfmonitorActive | .renderSoundscape => true
  | .reclevelanalyser | .usebcf2000 | .getoscvars | .tunerActive | .spkcalibUse
  | .expeditedForwardingPHB | .headtrackAutorefzonly | .selfmonitorOnlyreverb
  | .useloudspeaker | .emptysessionismonitor | .isProxy | .useProxy | .mczita | .mczitasend
  | .mczitaAutoconnectRec => false
  | .tscinclude | .mhaconfig | .spkcalibVfreq | .spkcalibVgainl | .spkcalibVgainr
  | .headtrackEogpath | .proxyip | .mczitaaddr | .mczitadevice => ""
  | .tunerTuning => "equal"
  | .zitasampleformat => "16bit"
  | .jackrecSampleformat => "PCM_16"
  | .jackrecFileformat => "WAV"
  | .tunerF0 => (440 : ℚ)
  | .sorterDeadline => (5 : ℚ)
  | .headtrackTauref => num.single (33315 / 1000)
  | .selfmonitorDelay => (0 : ℚ)
  | .echocMaxdist => (4 : ℚ)
  | .echocLevel => (60 : ℚ)
  | .spkcalibFirlen => (1025 : Int32)
  | .fdnforwardstages => (0 : UInt32)
  | .fdnorder => (5 : UInt32)
  | .echocNrep => (64 : UInt32)
  | .echocFilterlen => (65 : UInt32)
  | .mczitasendch => (1 : UInt32)
  | .mczitaport => (10007 : UInt32)
  | .mczitabuffer => (10 : UInt32)
  | .mczitachannels => ([1, 2] : List UInt32)
  | .metronome => Metronome.mk 4 120 true 40 65
  | .proxyclients => (OrderedMap.empty : OrderedMap StageDeviceId String)

/-! ## Updates -/

/-- The assignment of one variable. -/
structure Update where
  /-- The variable. -/
  var : ExtraVar
  /-- The value read, or nothing where the variable keeps its value. -/
  value : Except ErrMsg (Option var.kind.Value)
  /-- Whether a change of the value requires a new session. -/
  restarts : var.kind.Value → var.kind.Value → Bool

/-- Apply the updates in their order up to the first exception; the flag says
whether a new session is required. -/
def applyUpdates : List Update → Bool → EStateM ErrMsg ExtraVars Bool
  | [], restart => pure restart
  | u :: us, restart => do
      match ← ofExcept u.value with
      | none => applyUpdates us restart
      | some new =>
          let vars ← get
          modify fun vs => Function.update vs u.var new
          applyUpdates us (restart || (vars u.var != new && u.restarts (vars u.var) new))

/-- Every value read is the value of its variable. -/
def Settled (us : List Update) (vars : ExtraVars) : Prop :=
  ∀ u ∈ us, ∃ o, u.value = .ok o ∧ ∀ new, o = some new → vars u.var = new

theorem applyUpdates_none {u : Update} {us : List Update} {restart : Bool} {vars : ExtraVars}
    (h : u.value = .ok none) :
    applyUpdates (u :: us) restart vars = applyUpdates us restart vars := by
  rw [applyUpdates, h]
  rfl

theorem applyUpdates_some {u : Update} {us : List Update} {restart : Bool} {vars : ExtraVars}
    {new : u.var.kind.Value} (h : u.value = .ok (some new)) :
    applyUpdates (u :: us) restart vars
      = applyUpdates us
          (restart || (vars u.var != new && u.restarts (vars u.var) new))
          (Function.update vars u.var new) := by
  rw [applyUpdates, h]
  rfl

theorem applyUpdates_error {u : Update} {us : List Update} {restart : Bool} {vars : ExtraVars}
    {e : ErrMsg} (h : u.value = .error e) :
    applyUpdates (u :: us) restart vars = .error e vars := by
  rw [applyUpdates, h]
  rfl

/-- A variable that no update assigns keeps its value. -/
theorem applyUpdates_other {us : List Update} {restart restart' : Bool} {vars vars' : ExtraVars}
    {v : ExtraVar} (hv : v ∉ us.map Update.var)
    (h : applyUpdates us restart vars = .ok restart' vars') : vars' v = vars v := by
  induction us generalizing restart vars with
  | nil =>
      cases h
      rfl
  | cons u us ih =>
      rw [List.map_cons, List.mem_cons, not_or] at hv
      cases hval : u.value with
      | error e =>
          rw [applyUpdates_error hval] at h
          cases h
      | ok o =>
          cases o with
          | none =>
              rw [applyUpdates_none hval] at h
              exact ih hv.2 h
          | some new =>
              rw [applyUpdates_some hval] at h
              rw [ih hv.2 h, Function.update_of_ne hv.1]

/-- After the updates every variable has the value read for it. -/
theorem settled_applyUpdates {us : List Update} (hnd : (us.map Update.var).Nodup)
    {restart restart' : Bool} {vars vars' : ExtraVars}
    (h : applyUpdates us restart vars = .ok restart' vars') : Settled us vars' := by
  induction us generalizing restart vars with
  | nil =>
      intro u hu
      cases hu
  | cons u us ih =>
      rw [List.map_cons, List.nodup_cons] at hnd
      intro w hw
      cases hval : u.value with
      | error e =>
          rw [applyUpdates_error hval] at h
          cases h
      | ok o =>
          cases o with
          | none =>
              rw [applyUpdates_none hval] at h
              rcases List.mem_cons.1 hw with hw | hw
              · subst hw
                refine ⟨none, hval, ?_⟩
                intro new hnew
                cases hnew
              · exact ih hnd.2 h w hw
          | some new =>
              rw [applyUpdates_some hval] at h
              rcases List.mem_cons.1 hw with hw | hw
              · subst hw
                refine ⟨some new, hval, ?_⟩
                intro new' hnew
                cases hnew
                -- the later updates leave the variable alone
                rw [applyUpdates_other hnd.1 h, Function.update_self]
              · exact ih hnd.2 h w hw

/-- Settled updates change nothing and require no new session. -/
theorem applyUpdates_settled {us : List Update} {vars : ExtraVars} (h : Settled us vars)
    (restart : Bool) : applyUpdates us restart vars = .ok restart vars := by
  induction us with
  | nil => rfl
  | cons u us ih =>
      obtain ⟨o, hval, hset⟩ := h u List.mem_cons_self
      have htail := ih fun w hw => h w (List.mem_cons_of_mem _ hw)
      cases o with
      | none => rw [applyUpdates_none hval, htail]
      | some new =>
          have hnew : vars u.var = new := hset new rfl
          rw [applyUpdates_some hval, ← hnew, Function.update_eq_self, bne_self_eq_false,
            Bool.false_and, Bool.or_false, htail]

/-! ## Reading the configuration -/

/-- The conversions `get<T>()`.  The metronome and the proxy clients are read
member by member and never as one value. -/
instance (k : VarKind) : Json.FromJson k.Value :=
  match k with
  | .bool => inferInstanceAs (Json.FromJson Bool)
  | .string => inferInstanceAs (Json.FromJson String)
  | .float => inferInstanceAs (Json.FromJson ℚ)
  | .int => inferInstanceAs (Json.FromJson Int32)
  | .uint => inferInstanceAs (Json.FromJson UInt32)
  | .uints => inferInstanceAs (Json.FromJson (List UInt32))
  | .metronome => ⟨fun _ _ => .error .type302⟩
  | .clients => ⟨fun _ _ => .error .type302⟩

section Reading

variable (num : Numeric)

/-- `UPDATEVAR_RESTART`: the variable keeps its value where the member is missing. -/
def updatevarRestart (obj : Json) (key : String) (v : ExtraVar) : Update :=
  ⟨v, jsValue? num obj key, fun _ _ => true⟩

/-- The variable gets a default value where the member is missing. -/
def updateDefault (obj : Json) (key : String) (v : ExtraVar) (default : v.kind.Value) : Update :=
  ⟨v, (fun x => some x) <$> myJsValue num obj key default, fun _ _ => true⟩

/-- An update that never requires a new session. -/
def Update.quiet (u : Update) : Update := { u with restarts := fun _ _ => false }

/-- `metronome_t(js)`. -/
def Metronome.ofJson (js : Json) : Except ErrMsg Metronome := do
  let bpb : Int32 ← myJsValue num js "bpb" 4
  let bpm ← myJsValue num js "bpm" (120 : ℚ)
  let active ← myJsValue num js "active" false
  let delay ← myJsValue num js "delay" (40 : ℚ)
  let level ← myJsValue num js "level" (65 : ℚ)
  return ⟨bpb.toUInt32, bpm, !active, delay, level⟩

/-- The proxy settings of a configuration. -/
structure ProxyConfig where
  isProxy : Bool
  useProxy : Bool
  proxyip : String
  proxyclients : OrderedMap StageDeviceId String

/-- The proxy clients of a list; entries with an invalid id, without an address or
with the own address are left out. -/
def proxyClients (localip : String) (js : List Json) :
    Except ErrMsg (OrderedMap StageDeviceId String) :=
  js.foldlM (fun clients proxyclient => do
    let id : Int32 ← myJsValue num proxyclient "id" (-1)
    let ip ← myJsValue num proxyclient "ip" ""
    return if 0 ≤ id.toInt ∧ id.toInt < maxStageId ∧ ip ≠ "" ∧ ip ≠ localip then
      clients.insert (UInt8.ofInt id.toInt) ip else clients) OrderedMap.empty

/-- The proxy settings of the section "proxy". -/
def ProxyConfig.ofJson (localip : String) (js : Json) : Except ErrMsg ProxyConfig := do
  let isProxy ← myJsValue num js "isproxy" false
  let useProxy ← myJsValue num js "useproxy" false
  let proxyip ← if useProxy then myJsValue num js "proxyip" "" else pure ""
  let proxyclients ← match isProxy, (js.member "clients").array? with
    | true, some clients => proxyClients num localip clients
    | _, _ => pure OrderedMap.empty
  return ⟨isProxy, useProxy, proxyip, proxyclients⟩

/-- The updates of a section that is an object. -/
def inSection (xcfg : Json) (category : String) (updates : Json → List Update) : List Update :=
  if (xcfg.member category).isObject then updates (xcfg.member category) else []

/-- The update of a variable whose member is a text. -/
def updateText (js : Json) (key : String) (v : ExtraVar) : List Update :=
  if (js.member key).isString then [updatevarRestart num js key v] else []

/-- The variables read outside of the optional sections. -/
def generalUpdates (xcfg : Json) : List Update :=
  [⟨.reclevelanalyser, do
      jsValue? num (← subscript xcfg "reclevelanalyser") "reclevelanalyser", fun _ _ => true⟩,
    updatevarRestart num xcfg "start_webmixer" .startWebmixer,
    updatevarRestart num xcfg "tscinclude" .tscinclude,
    updatevarRestart num xcfg "mhaconfig" .mhaconfig,
    updateDefault num (xcfg.member "render") "usebcf2000" .usebcf2000 false]

/-- The updates of the section "scandatastreams". -/
def scandatastreamsUpdates (js : Json) : List Update :=
  [updatevarRestart num js "getoscvars" .getoscvars]

/-- The updates of the section "tuner". -/
def tunerUpdates (js : Json) : List Update :=
  [updatevarRestart num js "tuner_tuning" .tunerTuning,
    updatevarRestart num js "tuner_f0" .tunerF0,
    updatevarRestart num js "tuner_active" .tunerActive]

/-- The updates of the section "spkcalib". -/
def spkcalibUpdates (js : Json) : List Update :=
  [[updatevarRestart num js "spkcalib_use" .spkcalibUse,
      updatevarRestart num js "spkcalib_firlen" .spkcalibFirlen],
    updateText num js "spkcalib_vfreq" .spkcalibVfreq,
    updateText num js "spkcalib_vgainl" .spkcalibVgainl,
    updateText num js "spkcalib_vgainr" .spkcalibVgainr].flatten

/-- The updates of the section "network". -/
def networkUpdates (js : Json) : List Update :=
  [(updatevarRestart num js "deadline" .sorterDeadline).quiet,
    (updatevarRestart num js "expeditedforwarding" .expeditedForwardingPHB).quiet]

/-- The updates of the section "headtrack". -/
def headtrackUpdates (js : Json) : List Update :=
  [(updateDefault num js "tauref" .headtrackTauref (num.single (33315 / 1000))).quiet,
    (updateDefault num js "eogpath" .headtrackEogpath "").quiet,
    (updateDefault num js "autorefzonly" .headtrackAutorefzonly true).quiet]

/-- The updates of the section "monitor". -/
def monitorUpdates (js : Json) : List Update :=
  [(updateDefault num js "delay" .selfmonitorDelay (0 : ℚ)).quiet,
    updateDefault num js "onlyreverb" .selfmonitorOnlyreverb false,
    updateDefault num js "active" .selfmonitorActive true]

/-- The updates of the section "render". -/
def renderUpdates (js : Json) : List Update :=
  [updateDefault num js "soundscape" .renderSoundscape true,
    updatevarRestart num js "zitasampleformat" .zitasampleformat,
    updatevarRestart num js "useloudspeaker" .useloudspeaker,
    updatevarRestart num js "fdnforwardstages" .fdnforwardstages,
    updatevarRestart num js "fdnorder" .fdnorder,
    updatevarRestart num js "echoc_nrep" .echocNrep,
    updatevarRestart num js "echoc_maxdist" .echocMaxdist,
    updatevarRestart num js "echoc_level" .echocLevel,
    updatevarRestart num js "echoc_filterlen" .echocFilterlen,
    updatevarRestart num js "emptysessionismonitor" .emptysessionismonitor]

/-- The update of the section "metronome": the running metronome is told of a change,
and only a change of its delay line needs a new session. -/
def metronomeUpdates (js : Json) : List Update :=
  [⟨.metronome, (fun m => some m) <$> Metronome.ofJson num js,
    fun (old new : Metronome) => old.delay != new.delay⟩]

/-- The updates of the section "jackrec". -/
def jackrecUpdates (js : Json) : List Update :=
  [updateDefault num js "sampleformat" .jackrecSampleformat "PCM_16",
    updateDefault num js "fileformat" .jackrecFileformat "WAV"]

/-- The updates of the section "proxy"; all members are read before the first variable
is assigned. -/
def proxyUpdates (localip : String) (js : Json) : List Update :=
  let proxy := ProxyConfig.ofJson num localip js
  [⟨.isProxy, (fun p => some p.isProxy) <$> proxy, fun _ _ => true⟩,
    ⟨.useProxy, (fun p => some p.useProxy) <$> proxy, fun _ _ => true⟩,
    ⟨.proxyclients, (fun p => some p.proxyclients) <$> proxy, fun _ _ => true⟩,
    ⟨.proxyip, (fun p => some p.proxyip) <$> proxy, fun _ _ => true⟩]

/-- The updates of the section "mcrec". -/
def mcrecUpdates (js : Json) : List Update :=
  [updatevarRestart num js "use" .mczita,
    updatevarRestart num js "usesender" .mczitasend,
    updatevarRestart num js "sendchannels" .mczitasendch,
    updatevarRestart num js "addr" .mczitaaddr,
    updatevarRestart num js "port" .mczitaport,
    updatevarRestart num js "device" .mczitadevice,
    updatevarRestart num js "buffer" .mczitabuffer,
    updatevarRestart num js "channels" .mczitachannels,
    updatevarRestart num js "autoconnectrec" .mczitaAutoconnectRec]

/-- The updates in the order of `set_extra_config`. -/
def extraUpdates (localip : String) (xcfg : Json) : List Update :=
  [generalUpdates num xcfg,
    inSection xcfg "scandatastreams" (scandatastreamsUpdates num),
    inSection xcfg "tuner" (tunerUpdates num),
    inSection xcfg "spkcalib" (spkcalibUpdates num),
    inSection xcfg "network" (networkUpdates num),
    inSection xcfg "headtrack" (headtrackUpdates num),
    inSection xcfg "monitor" (monitorUpdates num),
    inSection xcfg "render" (renderUpdates num),
    inSection xcfg "metronome" (metronomeUpdates num),
    inSection xcfg "jackrec" (jackrecUpdates num),
    inSection xcfg "proxy" (proxyUpdates num localip),
    inSection xcfg "mcrec" (mcrecUpdates num)].flatten

/-! ## No variable twice -/

theorem map_var_inSection (xcfg : Json) (category : String) {updates : Json → List Update}
    {vars : List ExtraVar} (h : ∀ js, List.Sublist ((updates js).map Update.var) vars) :
    List.Sublist ((inSection xcfg category updates).map Update.var) vars := by
  rw [inSection]
  split
  · exact h _
  · exact List.nil_sublist _

theorem map_var_updateText (js : Json) (key : String) (v : ExtraVar) :
    List.Sublist ((updateText num js key v).map Update.var) [v] := by
  rw [updateText]
  split
  · exact List.Sublist.refl _
  · exact List.nil_sublist _

/-- The variables in the order in which they are assigned. -/
def extraVarOrder : List ExtraVar :=
  [[.reclevelanalyser, .startWebmixer, .tscinclude, .mhaconfig, .usebcf2000],
    [.getoscvars],
    [.tunerTuning, .tunerF0, .tunerActive],
    [.spkcalibUse, .spkcalibFirlen, .spkcalibVfreq, .spkcalibVgainl, .spkcalibVgainr],
    [.sorterDeadline, .expeditedForwardingPHB],
    [.headtrackTauref, .headtrackEogpath, .headtrackAutorefzonly],
    [.selfmonitorDelay, .selfmonitorOnlyreverb, .selfmonitorActive],
    [.renderSoundscape, .zitasampleformat, .useloudspeaker, .fdnforwardstages, .fdnorder,
      .echocNrep, .echocMaxdist, .echocLevel, .echocFilterlen, .emptysessionismonitor],
    [.metronome],
    [.jackrecSampleformat, .jackrecFileformat],
    [.isProxy, .useProxy, .proxyclients, .proxyip],
    [.mczita, .mczitasend, .mczitasendch, .mczitaaddr, .mczitaport, .mczitadevice,
      .mczitabuffer, .mczitachannels, .mczitaAutoconnectRec]].flatten

theorem map_var_spkcalibUpdates (js : Json) :
    List.Sublist ((spkcalibUpdates num js).map Update.var)
      [.spkcalibUse, .spkcalibFirlen, .spkcalibVfreq, .spkcalibVgainl, .spkcalibVgainr] := by
  have htext (key : String) (v : ExtraVar) := map_var_updateText num js key v
  rw [spkcalibUpdates]
  simp only [List.flatten_cons, List.flatten_nil, List.map_append]
  exact .append (.refl [ExtraVar.spkcalibUse, ExtraVar.spkcalibFirlen])
    (.append (htext _ _) (.append (htext _ _) (.append (htext _ _) (.refl []))))

theorem map_var_extraUpdates (localip : String) (xcfg : Json) :
    List.Sublist ((extraUpdates num localip xcfg).map Update.var) extraVarOrder := by
  rw [extraUpdates, extraVarOrder]
  simp only [List.flatten_cons, List.map_append]
  refine .append (.refl _) ?_
  refine .append (map_var_inSection _ _ fun js => .refl _) ?_
  refine .append (map_var_inSection _ _ fun js => .refl _) ?_
  -- only the section "spkcalib" leaves members out
  refine .append (map_var_inSection _ _ fun js => map_var_spkcalibUpdates num js) ?_
  refine .append (map_var_inSection _ _ fun js => .refl _) ?_
  refine .append (map_var_inSection _ _ fun js => .refl _) ?_
  refine .append (map_var_inSection _ _ fun js => .refl _) ?_
  refine .append (map_var_inSection _ _ fun js => .refl _) ?_
  refine .append (map_var_inSection _ _ fun js => .refl _) ?_
  refine .append (map_var_inSection _ _ fun js => .refl _) ?_
  refine .append (map_var_inSection _ _ fun js => .refl _) ?_
  refine .append (map_var_inSection _ _ fun js => .refl _) ?_
  exact .refl _

theorem nodup_extraUpdates (localip : String) (xcfg : Json) :
    ((extraUpdates num localip xcfg).map Update.var).Nodup := by
  apply List.Sublist.nodup (map_var_extraUpdates num localip xcfg)
  decide

end Reading

end Libov
