/-
# Virtual acoustics

`create_virtual_acoustics` and `configure_simplefdn`: the sources, the reverberation and
the ambient sound of the scene, and the modules of a device that renders virtual acoustics
on a stage.

Two members of the renderer stand out, because a change of them asks for no new session:
the delay of the self monitor, which is written into every own sound, and the settings of
the head tracker.  For these the theorems say exactly when two configurations are written
in the same way.
-/
import Libov.SessionNetwork

namespace Libov

open Renderer

variable (env : SessionEnv) (st : Stage) (x : ExtraVars)

/-! ## Sounds -/

/-- The linear gain of a channel: of the device, of the channel, and of the own sounds or
of those of the others. -/
def soundGain (own : Bool) (stagemember : StageDevice) (ch : DeviceChannel) : ℚ :=
  let single := env.text.single
  let gain := single (ch.gain * stagemember.gain)
  if own then
    if st.rendersettings.egogain = 0 then gain else single (gain * st.rendersettings.egogain)
  else if st.rendersettings.distancelaw then gain else single (gain * single (6 / 10))

/-- A sound of a channel. -/
def soundNode (ch : DeviceChannel) (connect mute onlyreverb : Bool) (gain : ℚ)
    (plugins : List TscNode) : TscNode :=
  .node "sound" ([("maxdist", "50")] ++
    (if st.rendersettings.distancelaw then [] else [("gainmodel", "1")]) ++
    [("id", ch.id)] ++
    (if connect then [("connect", "'" ++ getChannelSource ch ++ "'")] else []) ++
    (if mute then [("mute", "true")] else []) ++
    [("gain", env.text.decibelF gain), ("x", env.text.toStr ch.position.x),
      ("y", env.text.toStr ch.position.y), ("z", env.text.toStr ch.position.z)] ++
    (if ch.name.isEmpty then [] else [("name", ch.name)]) ++
    (if ch.directivity = "omni" then [("type", "omni")] else []) ++
    (if ch.directivity = "cardioid" then [("type", "cardioidmod")] else []) ++
    (if onlyreverb then [("layers", "2")] else [])) plugins

/-- Only the reverberation of the own sounds is played. -/
def selfmonitorOnlyreverb : Bool := x .selfmonitorOnlyreverb

/-- The mix is played by loudspeakers. -/
def useloudspeaker : Bool := x .useloudspeaker

/-- The own sounds are connected to their inputs. -/
def selfmonitorConnect : Bool :=
  let active : Bool := x .selfmonitorActive
  active && !useloudspeaker x

/-- The delay of the self monitor, in milliseconds. -/
def selfmonitorDelay : ℚ := x .selfmonitorDelay

/-- The plugins of an own sound. -/
def delayPlugins (text : SessionText) (delay : ℚ) : List TscNode :=
  if 0 < delay then
    [.node "plugins" [] [.leaf "delay" [("delay",
      text.toStrF (text.single (delay * text.single (1 / 1000))))]]]
  else []

/-! ## Sources -/

/-- `b_sender`: the device sends its own sounds. -/
def bSender : Bool := !(ownDevice st).channels.isEmpty && !(ownDevice st).senddownmix

/-- The devices with a source in the scene. -/
def sourceMembers : List StageDevice :=
  (stageMembers st).filter fun dev => !dev.channels.isEmpty &&
    (bSender st || dev.id != (ownDevice st).id) && (!dev.senddownmix || dev.id == (ownDevice st).id)

/-- The sound of a channel of a device on stage. -/
def memberSound (stagemember : StageDevice) (ch : DeviceChannel) : TscNode :=
  let own := stagemember.id == (ownDevice st).id
  soundNode env st ch (own && selfmonitorConnect x) (own && st.rendersettings.egogain == 0)
    (own && selfmonitorOnlyreverb x) (soundGain env st own stagemember ch)
    (if own then delayPlugins env.text (selfmonitorDelay x) else [])

/-- The source of a device; a device that does not send has the others on an arc in
front of it. -/
def memberSource (stagemember : StageDevice) (k : ℕ) : TscNode :=
  let name :=
    if stagemember.id == (ownDevice st).id then "ego" else getStagedevName st stagemember.id
  let place :=
    if bSender st then
      (env.text.pos stagemember.position, env.text.zyx stagemember.orientation)
    else env.text.arc (lookedUp st).size k
  .node "source" [("name", name), ("dlocation", place.1)]
    (.textNode "orientation" ("0 " ++ place.2) ::
      stagemember.channels.map (memberSound env st x stagemember))

/-- The sources of the scene. -/
def sources : List TscNode :=
  (sourceMembers st).zipIdx.map fun p => memberSource env st x p.1 p.2

/-- The variables of the own sounds whose change asks for a new session. -/
def selfmonitorVars : List ExtraVar := [.selfmonitorActive, .useloudspeaker, .selfmonitorOnlyreverb]

section SelfMonitor

variable {env st} {x y : ExtraVars} (h : ∀ v ∈ selfmonitorVars, x v = y v)

include h

theorem selfmonitorConnect_congr : selfmonitorConnect x = selfmonitorConnect y :=
  congrArg₂ (fun active useloudspeaker : Bool => active && !useloudspeaker)
    (h .selfmonitorActive (by decide)) (h .useloudspeaker (by decide))

theorem selfmonitorOnlyreverb_congr : selfmonitorOnlyreverb x = selfmonitorOnlyreverb y :=
  h .selfmonitorOnlyreverb (by decide)

/-- A sound is the same exactly if it is of another device or has the same delay. -/
theorem memberSound_eq_iff {stagemember : StageDevice} {ch : DeviceChannel} :
    memberSound env st x stagemember ch = memberSound env st y stagemember ch ↔
      (stagemember.id = (ownDevice st).id → delayPlugins env.text (selfmonitorDelay x)
        = delayPlugins env.text (selfmonitorDelay y)) := by
  rw [memberSound, memberSound, selfmonitorConnect_congr h, selfmonitorOnlyreverb_congr h]
  simp only [soundNode, TscNode.node, TscNode.element.injEq, true_and, beq_iff_eq,
    ite_eq_ite_iff]

/-- The source of a device depends on the delay of the self-monitor only, and only for the own
device. -/
theorem memberSource_eq_iff {stagemember : StageDevice} {k : ℕ} :
    memberSource env st x stagemember k = memberSource env st y stagemember k ↔
      ∀ ch ∈ stagemember.channels, stagemember.id = (ownDevice st).id →
        delayPlugins env.text (selfmonitorDelay x)
          = delayPlugins env.text (selfmonitorDelay y) := by
  rw [memberSource, memberSource]
  simp only [TscNode.node, TscNode.element.injEq, true_and, List.cons.injEq, List.map_inj_left,
    memberSound_eq_iff h]

end SelfMonitor

/-- A device on stage has a source if it has channels, sounds that are not its own are sent to it,
and it does not send a downmix. -/
theorem mem_sourceMembers_of_find? {st : Stage} {id : StageDeviceId} {dev : StageDevice}
    (hdev : st.stage.find? id = some dev) :
    dev ∈ sourceMembers st ↔ (!dev.channels.isEmpty &&
      (bSender st || dev.id != (ownDevice st).id) &&
      (!dev.senddownmix || dev.id == (ownDevice st).id)) = true := by
  rw [sourceMembers, List.mem_filter]
  apply and_iff_right
  have hmem := OrderedMap.mem_touch (OrderedMap.mem_entries_of_find? hdev)
    st.thisstagedeviceid StageDevice.zero
  rw [stageMembers, lookedUp]
  split
  · exact List.mem_map_of_mem (OrderedMap.mem_touch hmem _ _)
  · exact List.mem_map_of_mem hmem

/-- A device that sends is on stage and has a source. -/
theorem ownDevice_mem_sourceMembers (hsends : bSender st = true) :
    ownDevice st ∈ sourceMembers st := by
  have hchannels : (ownDevice st).channels.isEmpty = false := by
    rw [bSender, Bool.and_eq_true, Bool.not_eq_true'] at hsends
    exact hsends.1
  have hfind : st.stage.find? st.thisstagedeviceid = some (ownDevice st) := by
    rw [ownDevice] at hchannels ⊢
    cases hfind : st.stage.find? st.thisstagedeviceid with
    | none =>
        rw [hfind] at hchannels
        cases hchannels
    | some dev => rfl
  rw [mem_sourceMembers_of_find? hfind, hchannels, hsends, beq_self_eq_true, Bool.or_true]
  rfl

/-- The sources are the same exactly if the device has no own sounds or they have the same
delay. -/
theorem sources_eq_iff {x y : ExtraVars} (h : ∀ v ∈ selfmonitorVars, x v = y v) :
    sources env st x = sources env st y ↔ (bSender st = true →
      delayPlugins env.text (selfmonitorDelay x) = delayPlugins env.text (selfmonitorDelay y)) := by
  simp only [sources, List.map_inj_left, memberSource_eq_iff h]
  have hmem (dev : StageDevice) :
      dev ∈ sourceMembers st ↔ ∃ p ∈ (sourceMembers st).zipIdx, p.1 = dev := by
    rw [← List.mem_map, List.zipIdx_map_fst]
  constructor
  · intro hsame hsends
    obtain ⟨p, hp, hown⟩ := (hmem _).1 (ownDevice_mem_sourceMembers st hsends)
    -- the device sends, so it has a channel
    obtain ⟨ch, hch⟩ : ∃ ch, ch ∈ (ownDevice st).channels := by
      rw [bSender, Bool.and_eq_true, Bool.not_eq_true', List.isEmpty_eq_false_iff] at hsends
      exact List.exists_mem_of_ne_nil _ hsends.1
    rw [← hown] at hch
    exact hsame p hp ch hch (congrArg StageDevice.id hown)
  · intro hdelay p hp ch hch hown
    have hsource := (List.mem_filter.1 ((hmem p.1).2 ⟨p, hp, rfl⟩)).2
    rw [hown, bne_self_eq_false, Bool.or_false, Bool.and_eq_true, Bool.and_eq_true] at hsource
    exact hdelay hsource.1.2

/-! ## The scene -/

/-- The stages of the reverberation. -/
def fdnforwardstages : UInt32 := x .fdnforwardstages

/-- The order of the reverberation. -/
def fdnorder : UInt32 := x .fdnorder

/-- `configure_simplefdn`; where nobody sends from here its gain depends on the distance. -/
def configureSimplefdn (gainwithdistance : Bool) : TscNode :=
  let rs := st.rendersettings
  .leaf "reverb" ([("name", "reverb"), ("id", "reverb"), ("type", "simplefdn"),
    ("volumetric", env.text.pos rs.roomsize), ("forwardstages", toString (fdnforwardstages x)),
    ("gainmethod", "original"), ("image", "false"), ("fdnorder", toString (fdnorder x)),
    ("lowcut", "125"), ("truncate_forward", "true"), ("dw", "60"),
    ("absorption", env.text.toStrF rs.absorption), ("damping", env.text.toStrF rs.damping),
    ("gain", env.text.decibelF rs.reverbgain)] ++
    if gainwithdistance then [("volumetricgainwithdistance", "true")] else [])

/-- The reverb is made from the settings of the feedback delay network. -/
theorem dependsOn_configureSimplefdn (gainwithdistance : Bool) :
    DependsOn (fun x => configureSimplefdn env st x gainwithdistance)
      {v | v ∈ [ExtraVar.fdnforwardstages, .fdnorder]} := by
  intro x y h
  have hstages : fdnforwardstages x = fdnforwardstages y := h .fdnforwardstages (by decide)
  have horder : fdnorder x = fdnorder y := h .fdnorder (by decide)
  simp only [configureSimplefdn, hstages, horder]

/-- The shoebox room of the image source model. -/
def shoeboxRoom : List TscNode :=
  let rs := st.rendersettings
  if rs.renderism then
    [.leaf "facegroup" [("name", "room"), ("shoebox", env.text.pos rs.roomsize),
      ("reflectivity", env.text.reflectivity rs.absorption),
      ("damping", env.text.toStrF rs.damping)]]
  else []

/-- The ambient sound is played where there is one. -/
def renderSoundscape : Bool := x .renderSoundscape

/-- The ambient sound, from a file that has been downloaded before. -/
def ambientSound : List TscNode :=
  let rs := st.rendersettings
  let hashname := url2localfilename env.hash rs.ambientsound
  if !rs.ambientsound.isEmpty && renderSoundscape x && env.fileExists hashname then
    [.node "diffuse" [("name", "ambient"), ("size", env.text.pos rs.roomsize)]
      [.node "plugins" []
        [.leaf "sndfile" [("name", hashname), ("level", env.text.toStrF rs.ambientlevel),
            ("loop", "0"), ("transport", "false"), ("channelorder", "FuMa"),
            ("license", "CC0"), ("resample", "true")],
          .leaf "gain" []]]]
  else []

/-- What `create_virtual_acoustics` adds to the scene. -/
def stageScene : List TscNode :=
  if st.rendersettings.receive then
    sources env st x ++ shoeboxRoom env st ++
      (if st.rendersettings.renderreverb then
        [configureSimplefdn env st x st.thisdevice.channels.isEmpty] else []) ++
      ambientSound env st x
  else []

/-- What `create_virtual_acoustics` adds to the receiver: where it stands. -/
def receiverPlace : List TscNode :=
  let standing := ((lookedUp st).find? st.rendersettings.id).getD StageDevice.zero
  if st.rendersettings.receive && bSender st then
    [.textNode "position" ("0 " ++ env.text.pos standing.position),
      .textNode "orientation" ("0 " ++ env.text.zyx standing.orientation)]
  else []

/-- The variables of the scene whose change asks for a new session. -/
def sceneVars : List ExtraVar :=
  selfmonitorVars ++ ([.fdnforwardstages, .fdnorder] ++ [.renderSoundscape])

/-- The own sounds are part of the session. -/
def monitorsItself : Bool := st.rendersettings.receive && bSender st

/-- The scene depends on that delay only where the device monitors itself. -/
theorem stageScene_eq_iff {x y : ExtraVars} (h : ∀ v ∈ sceneVars, x v = y v) :
    stageScene env st x = stageScene env st y ↔ (monitorsItself st = true →
      delayPlugins env.text (selfmonitorDelay x) = delayPlugins env.text (selfmonitorDelay y)) := by
  have hself : ∀ v ∈ selfmonitorVars, x v = y v := fun v hv => h v (List.mem_append_left _ hv)
  have hfdn : configureSimplefdn env st x st.thisdevice.channels.isEmpty
      = configureSimplefdn env st y st.thisdevice.channels.isEmpty :=
    dependsOn_configureSimplefdn env st _ fun v hv =>
      h v (List.mem_append_right _ (List.mem_append_left _ hv))
  have hsoundscape : renderSoundscape x = renderSoundscape y := h .renderSoundscape (by decide)
  have hambient : ambientSound env st x = ambientSound env st y := by
    simp only [ambientSound, hsoundscape]
  rw [stageScene, stageScene, monitorsItself, Bool.and_eq_true, and_imp, ite_eq_ite_iff, hfdn,
    hambient, List.append_left_inj, List.append_left_inj, List.append_left_inj,
    sources_eq_iff env st hself]

/-! ## Head tracker -/

/-- The time constant of the reference of the head tracker. -/
def headtrackTauref : ℚ := x .headtrackTauref

/-- Only the rotation around the vertical axis is referenced. -/
def headtrackAutorefzonly : Bool := x .headtrackAutorefzonly

/-- The path of the eye movement data. -/
def headtrackEogpath : String := x .headtrackEogpath

/-- The attribute for the reference of the head tracker. -/
def autorefText (text : SessionText) (tauref : ℚ) : String :=
  if 0 < tauref then text.autoref tauref else "0"

/-- There is a head tracker in the session. -/
def tracksHead : Bool := st.rendersettings.headtracking && st.rendersettings.receive

/-- The head tracker. -/
def headtracker : List TscNode :=
  let rs := st.rendersettings
  let url (port : Port) := "osc.udp://localhost:" ++ toString port ++ "/"
  let actor := (if rs.headtrackingrotrec then ["/main/main"] else []) ++
    if rs.headtrackingrotsrc then ["/main/ego"] else []
  if tracksHead st then
    [.leaf (if rs.headtrackingserial then "serialheadtracker" else "oscheadtracker")
      ((if 0 < rs.headtrackingport then [("url", url rs.headtrackingport)] else []) ++
      (if rs.headtrackingrotsrc then
        [("roturl", url env.distToOtherTascarport),
          ("rotpath", "/*/" ++ getStagedevName st (ownDevice st).id ++ "/zyxeuler")] else []) ++
      [("actor", env.text.vecstr2str actor),
        ("autoref", autorefText env.text (headtrackTauref x)),
        ("autoref_zonly", boolText (headtrackAutorefzonly x)), ("smooth", "0.01")] ++
      (if rs.headtrackingserial then [] else [("eogpath", headtrackEogpath x)]) ++
      [("name", st.thisdeviceid),
        ("apply_rot", boolText (rs.headtrackingrotrec || rs.headtrackingrotsrc)),
        ("apply_loc", "false")])]
  else []

/-- Flags that are written alike are the same. -/
theorem boolText_inj {a b : Bool} : boolText a = boolText b ↔ a = b := by
  revert a b
  decide

/-- Two head trackers are written in the same way exactly if the attributes are the same. -/
theorem headtracker_eq_iff {x y : ExtraVars} :
    headtracker env st x = headtracker env st y ↔ (tracksHead st = true →
      autorefText env.text (headtrackTauref x) = autorefText env.text (headtrackTauref y) ∧
        headtrackAutorefzonly x = headtrackAutorefzonly y ∧
        (st.rendersettings.headtrackingserial = false →
          headtrackEogpath x = headtrackEogpath y)) := by
  rw [headtracker, headtracker, ite_eq_ite_iff]
  refine forall_congr' fun htracks => ?_
  -- only the other head tracker takes a path
  cases hserial : st.rendersettings.headtrackingserial with
  | true =>
      simp only [TscNode.leaf, List.cons.injEq, TscNode.element.injEq, and_true, true_and,
        if_true, List.append_nil, List.append_left_inj, List.append_right_inj, Prod.mk.injEq,
        boolText_inj, reduceCtorEq, IsEmpty.forall_iff]
  | false =>
      simp only [TscNode.leaf, List.cons.injEq, TscNode.element.injEq, and_true, true_and,
        if_neg Bool.false_ne_true, List.append_assoc, List.append_right_inj, List.cons_append,
        List.nil_append, Prod.mk.injEq, boolText_inj, forall_const]

/-! ## Modules -/

/-- The settings of the echo canceller. -/
structure EchocSettings where
  level : ℚ
  nrep : UInt32
  maxdist : ℚ
  filterlen : UInt32

/-- The settings of the echo canceller, where loudspeakers are used. -/
def echocSettings : Option EchocSettings :=
  if useloudspeaker x then
    some ⟨x .echocLevel, x .echocNrep, x .echocMaxdist, x .echocFilterlen⟩
  else none

/-- The variables of the echo canceller. -/
def echocVars : List ExtraVar :=
  [.useloudspeaker, .echocLevel, .echocNrep, .echocMaxdist, .echocFilterlen]

/-- The settings of the echo canceller are read from its own variables. -/
theorem dependsOn_echocSettings : DependsOn echocSettings {v | v ∈ echocVars} := by
  intro x y h
  have huse : useloudspeaker x = useloudspeaker y := h .useloudspeaker (by decide)
  have hlevel : x .echocLevel = y .echocLevel := h .echocLevel (by decide)
  have hnrep : x .echocNrep = y .echocNrep := h .echocNrep (by decide)
  have hmaxdist : x .echocMaxdist = y .echocMaxdist := h .echocMaxdist (by decide)
  have hfilterlen : x .echocFilterlen = y .echocFilterlen := h .echocFilterlen (by decide)
  simp only [echocSettings, huse, hlevel, hnrep, hmaxdist, hfilterlen]

/-- The echo canceller, where loudspeakers are used and there are microphones. -/
def echoc : List TscNode :=
  let micports := " ".intercalate ((ownDevice st).channels.map DeviceChannel.sourceport)
  let spkports := st.rendersettings.outputport1 ++ " " ++ st.rendersettings.outputport2
  match echocSettings x with
  | some cfg =>
      if micports.isEmpty then [] else
        [.leaf "echoc" [("autoreconnect", "true"), ("measureatstart", "true"),
          ("loudspeakerports", spkports), ("micports", micports), ("premax", "16"),
          ("level", env.text.toStrF cfg.level), ("nrep", toString cfg.nrep),
          ("maxdist", env.text.toStrF cfg.maxdist), ("filterlen", toString cfg.filterlen)]]
  | none => []

/-- The positions sent to the object based mixer. -/
def pos2osc : List TscNode :=
  if st.rendersettings.rawmode then []
  else
    [.leaf "pos2osc" [("url", "osc.udp://localhost:9000"), ("mode", "2"),
      ("addparentname", "true"), ("sendsounds", "true"), ("taumin", "0.1"),
      ("transport", "false")]]

/-- The receivers, and the delayed self monitor that goes with the second ones. -/
def stageReceivers : SessionParts :=
  addNetworkReceivers env st 0 ((stageMembers st).filter fun dev => !dev.channels.isEmpty) ++
    if 0 < st.rendersettings.secrec && !(ownDevice st).channels.isEmpty then
      secondarySelfmonitor env st
    else SessionParts.empty

/-- The names of the own sounds, as `create_virtual_acoustics` collects them. -/
def egoSourceNames : List String :=
  let own := (sourceMembers st).filter fun dev => dev.id == (ownDevice st).id
  own.flatMap fun dev => dev.channels.zipIdx.map fun p =>
    if p.1.name.isEmpty then "ego." ++ toString p.2 ++ ".0" else "ego." ++ p.1.name ++ ".0"

/-- The connections of the own channels to the sender, and of the metronome to the sender
and to the own sounds. -/
def senderConnects : List TscNode :=
  (ownDevice st).channels.zipIdx.flatMap fun p =>
    (if st.thisdevice.nozita then [] else
      [sessionAddConnect (getChannelSource p.1) (senderPort st p.2),
        sessionAddConnect (st.thisdeviceid ++ ".metronome:out.0") (senderPort st p.2)]) ++
    match (if st.rendersettings.receive then (egoSourceNames st)[p.2]? else none) with
    | some name => [sessionAddConnect (st.thisdeviceid ++ ".metronome:out.1")
        (st.thisdeviceid ++ ".main:" ++ name)]
    | none => []

/-- The sender of the own channels, behind the metronome. -/
def channelSender : SessionParts :=
  if sendsChannels st then
    let zita := !st.thisdevice.nozita
    { mods := if zita then [senderModule env st x (ownDevice st).channels.length] else []
      connects := senderConnects st
      waitports := if zita then senderPorts st else [] }
  else SessionParts.empty

/-- The sender of a mix of the session. -/
def downmixSender : SessionParts :=
  if st.thisdevice.senddownmix && st.rendersettings.receive && !st.thisdevice.nozita then
    { mods := [senderModule env st x 2]
      connects :=
        [sessionAddConnect (st.thisdeviceid ++ ".main:main_l") (senderPort st 0),
          sessionAddConnect (st.thisdeviceid ++ ".main:main_r") (senderPort st 1)]
      waitports := [] }
  else SessionParts.empty

/-- The modules behind the metronome. -/
def stageSenders : SessionParts :=
  let senders := channelSender env st x ++ downmixSender env st x
  { senders with
    mods := senders.mods ++ sessionAddWaitforjackports (st.thisdeviceid ++ ".waitforports")
      ((stageReceivers env st).waitports ++ senders.waitports) true }

/-- The senders depend on the sample format only. -/
theorem dependsOn_stageSenders :
    DependsOn (fun x => stageSenders env st x) {v | v ∈ [ExtraVar.zitasampleformat]} := by
  intro x y h
  have hsender (n : ℕ) : senderModule env st x n = senderModule env st y n :=
    dependsOn_senderModule env st n h
  simp only [stageSenders, channelSender, downmixSender, hsender]

/-- What `create_virtual_acoustics` adds to the modules. -/
def stageModules : List TscNode :=
  (stageReceivers env st).mods ++ metronomeRoute env st x ++ (stageSenders env st x).mods ++
    headtracker env st x ++ echoc env st x ++ pos2osc st

/-- What `create_virtual_acoustics` adds to the connections. -/
def stageConnects : List TscNode :=
  (stageReceivers env st).connects ++ (stageSenders env st x).connects

/-- The variables of the modules whose change asks for a new session. -/
def moduleVars : List ExtraVar := .zitasampleformat :: echocVars

section Modules

variable {x} {y : ExtraVars} (h : ∀ v ∈ moduleVars, x v = y v)

include h

theorem stageSenders_congr : stageSenders env st x = stageSenders env st y :=
  dependsOn_stageSenders env st fun v hv => by
    rcases List.mem_singleton.1 hv with rfl
    exact h _ List.mem_cons_self

theorem stageConnects_congr : stageConnects env st x = stageConnects env st y := by
  rw [stageConnects, stageConnects, stageSenders_congr env st h]

theorem echoc_congr : echoc env st x = echoc env st y := by
  have hsettings : echocSettings x = echocSettings y :=
    dependsOn_echocSettings fun v hv => h v (List.mem_cons_of_mem _ hv)
  rw [echoc, echoc, hsettings]

/-- The modules are the same exactly if the metronome and the head tracker are. -/
theorem stageModules_eq_iff :
    stageModules env st x = stageModules env st y ↔
      metronomeRoute env st x = metronomeRoute env st y ∧
        headtracker env st x = headtracker env st y := by
  rw [stageModules, stageModules, stageSenders_congr env st h, echoc_congr env st h,
    List.append_left_inj, List.append_left_inj, List.append_assoc, List.append_assoc,
    List.append_assoc, List.append_assoc, List.append_right_inj]
  constructor
  · intro hsame
    -- both metronomes are routes or there is none
    have hlength : (metronomeRoute env st x).length = (metronomeRoute env st y).length := by
      rw [metronomeRoute, metronomeRoute]
      split <;> rfl
    obtain ⟨hmetro, hrest⟩ := List.append_inj hsame hlength
    exact ⟨hmetro, List.append_cancel_left hrest⟩
  · rintro ⟨hmetro, hhead⟩
    rw [hmetro, hhead]

end Modules

end Libov
