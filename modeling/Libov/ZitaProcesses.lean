/-
# The processes of a session and their ports

The document of a session starts processes that send the own channels to the client and that
receive those of the other devices from it.  The address and the port are at the end of their
commands.

* `ZitaReceiver`, `zitaReceivers`, `senderChannels` : the processes of a session;
* `processes_stageModules` : they are what the document starts;
* `Addressed`, `addressed_unique` : the port of a process;
* `listensOn_iff`, `sendsTo_iff` : the ports that the document makes processes listen on and send
  to.
-/
import Libov.SessionClient

namespace Libov

open Renderer

theorem SessionParts.mods_append (a b : SessionParts) : (a ++ b).mods = a.mods ++ b.mods := rfl

/-! ## Processes -/

/-- A receiver: for which device, and whether it belongs to the second bus. -/
structure ZitaReceiver where
  member : StageDevice
  secondary : Bool

section Processes

variable (env : SessionEnv) (st : Stage) (x : ExtraVars)

namespace ZitaReceiver

variable (r : ZitaReceiver)

/-- The port that the process listens on. -/
def port : Port := getZitaport r.member.id env.portoffset (if r.secondary then 100 else 0)

/-- The name of the process among the audio clients. -/
def jname : String :=
  if r.secondary then "n2j_" ++ toString r.member.id ++ "_sec" ++ "." ++ st.thisdeviceid
  else (if rawRouting st then "n2j_" else "") ++ getStagedevName st r.member.id ++ "." ++
    st.thisdeviceid

/-- The length of the buffer. -/
def buffer : String :=
  if r.secondary then
    env.text.toStr (env.text.double (st.rendersettings.secrec + jitterBuffer env st r.member))
  else env.text.toStr (jitterBuffer env st r.member)

/-- The process. -/
def process : TscNode :=
  systemModule (env.zitapath ++ "ovzita-n2j --chan " ++ chanlist r.member ++ " --jname " ++
    r.jname st ++ " --buf " ++ r.buffer env st ++ " 0.0.0.0 " ++ toString (r.port env)) false

end ZitaReceiver

/-- The receivers for a device. -/
def receiversOf (dev : StageDevice) : List ZitaReceiver :=
  if receivesFrom st dev && !dev.nozita then
    ⟨dev, false⟩ :: if 0 < st.rendersettings.secrec then [⟨dev, true⟩] else []
  else []

/-- The devices that a session may receive from. -/
def receivedMembers : List StageDevice :=
  if st.host.isEmpty then []
  else if rawRouting st then stageMembers st
  else (stageMembers st).filter fun dev => !dev.channels.isEmpty

/-- The receivers of a session. -/
def zitaReceivers : List ZitaReceiver := (receivedMembers st).flatMap (receiversOf st)

/-- The numbers of channels of the senders of a session. -/
def senderChannels : List ℕ :=
  if st.host.isEmpty then []
  else if rawRouting st then
    if (ownDevice st).channels.isEmpty then [] else [(ownDevice st).channels.length]
  else if st.thisdevice.nozita then []
  else if sendsChannels st then [(ownDevice st).channels.length]
  else if st.thisdevice.senddownmix && st.rendersettings.receive then [2] else []

/-! ## The processes of a document -/

/-- The name of an element. -/
def TscNode.tag : TscNode → String
  | element name _ _ _ => name

/-- The processes among the elements. -/
def processes (mods : List TscNode) : List TscNode := mods.filter fun n => n.tag == "system"

/-- The processes of two lists of modules, one after the other. -/
theorem processes_append (mods mods' : List TscNode) :
    processes (mods ++ mods') = processes mods ++ processes mods' := List.filter_append _ _

/-- None of the elements has one of the names. -/
def Without (tags : List String) (mods : List TscNode) : Prop := ∀ n ∈ mods, n.tag ∉ tags

section Without

variable {tags : List String}

/-- Modules without the tag of processes start none. -/
theorem Without.processes {mods : List TscNode} (h : Without tags mods)
    (hsystem : "system" ∈ tags) : processes mods = [] := by
  refine List.filter_eq_nil_iff.mpr fun n hn htag => h n hn ?_
  rw [beq_iff_eq.mp htag]
  exact hsystem

theorem Without.nil : Without tags [] := fun _ hn => absurd hn List.not_mem_nil

theorem Without.singleton {n : TscNode} (tag : String) (hn : n.tag = tag) (htag : tag ∉ tags) :
    Without tags [n] := by
  intro m hm
  rw [List.mem_singleton.mp hm, hn]
  exact htag

/-- Elements that all have another tag do not have one of these. -/
theorem Without.map {α : Type*} {f : α → TscNode} (xs : List α) (tag : String)
    (hf : ∀ a, (f a).tag = tag) (htag : tag ∉ tags) : Without tags (xs.map f) := by
  intro m hm
  obtain ⟨a, -, rfl⟩ := List.mem_map.mp hm
  rw [hf a]
  exact htag

/-- Two lists of modules lack a tag if both do. -/
theorem Without.append {mods mods' : List TscNode} (h : Without tags mods)
    (h' : Without tags mods') : Without tags (mods ++ mods') := fun n hn =>
  (List.mem_append.mp hn).elim (h n) (h' n)

/-- A list under a condition lacks what both of its branches lack. -/
theorem Without.ite {c : Prop} [Decidable c] {mods mods' : List TscNode} (h : Without tags mods)
    (h' : Without tags mods') : Without tags (if c then mods else mods') := by
  split_ifs
  · exact h
  · exact h'

/-- Fewer tags are lacking as well. -/
theorem Without.mono {tags' : List String} {mods : List TscNode} (h : Without tags' mods)
    (hsub : tags ⊆ tags') : Without tags mods := fun n hn htag => h n hn (hsub htag)

end Without

/-- The element that waits for ports is neither a process nor a route. -/
theorem without_waitforjackports (id : String) (waitports : List String) (sleep : Bool) :
    Without ["system", "route"] (sessionAddWaitforjackports id waitports sleep) :=
  (Without.singleton "waitforjackport" rfl (by decide)).append
    (Without.ite (Without.singleton "sleep" rfl (by decide)) Without.nil)

/-- The names of what declares clients or waits for their ports. -/
def clientTags : List String := ["system", "route", "waitforjackport"]

/-- The head tracker declares no client of the session. -/
theorem without_headtracker : Without clientTags (headtracker env st x) := by
  unfold headtracker
  refine Without.ite ?_ Without.nil
  cases st.rendersettings.headtrackingserial with
  | true => exact Without.singleton "serialheadtracker" rfl (by decide)
  | false => exact Without.singleton "oscheadtracker" rfl (by decide)

/-- Nor does the echo canceller. -/
theorem without_echoc : Without clientTags (echoc env st x) := by
  unfold echoc
  cases echocSettings x with
  | none => exact Without.nil
  | some cfg => exact Without.ite Without.nil (Without.singleton "echoc" rfl (by decide))

/-- Nor does the module that tells positions. -/
theorem without_pos2osc : Without clientTags (pos2osc st) :=
  Without.ite Without.nil (Without.singleton "pos2osc" rfl (by decide))

/-- The second bus of a device is a receiver, unless it needs none, and a route. -/
theorem mods_addSecondaryBus (dev : StageDevice) :
    (addSecondaryBus env st dev).mods
      = (if dev.nozita then [] else [ZitaReceiver.process env st ⟨dev, true⟩]) ++
        [.leaf "route" [("name", getStagedevName st dev.id ++ "_sec"),
          ("channels", toString dev.channels.length), ("gain", env.text.decibel dev.gain)]] := by
  have hsame : ZitaReceiver.process env st ⟨dev, true⟩ = systemModule (env.zitapath ++
      "ovzita-n2j --chan " ++ chanlist dev ++ " --jname " ++ ("n2j_" ++ toString dev.id ++ "_sec")
      ++ "." ++ st.thisdeviceid ++ " --buf " ++ env.text.toStr (env.text.double
        (st.rendersettings.secrec + jitterBuffer env st dev)) ++ " 0.0.0.0 " ++
      toString (getZitaport dev.id env.portoffset 100)) false := by
    simp only [ZitaReceiver.process, ZitaReceiver.jname, ZitaReceiver.buffer, ZitaReceiver.port,
      if_true, String.append_assoc]
  rw [hsame]
  rfl

/-- The second bus of a device starts its second receiver, unless the device has no network
audio. -/
theorem processes_addSecondaryBus (dev : StageDevice) :
    processes (addSecondaryBus env st dev).mods
      = if dev.nozita then [] else [ZitaReceiver.process env st ⟨dev, true⟩] := by
  rw [mods_addSecondaryBus]
  split_ifs
  · rfl
  · rfl

/-- Neither routes nor connections start a process. -/
theorem processes_routes (dev : StageDevice) (clientname n2jclientname : String) (chcnt : ℕ) :
    processes (if rawRouting st then rawRoute env st dev clientname n2jclientname chcnt
      else receiverConnects st dev clientname n2jclientname).mods = [] := by
  split_ifs
  · rfl
  · rfl

/-- For a device its receivers are started, and nothing else. -/
theorem processes_addNetworkReceiver (dev : StageDevice) (chcnt : ℕ) :
    processes (addNetworkReceiver env st dev chcnt).1.mods
      = (receiversOf st dev).map (ZitaReceiver.process env st) := by
  unfold addNetworkReceiver receiversOf
  cases hreceives : receivesFrom st dev with
  | false => rfl
  | true =>
      rw [if_pos rfl, Bool.true_and]
      dsimp only
      rw [SessionParts.mods_append, SessionParts.mods_append, processes_append, processes_append,
        processes_routes, List.append_nil]
      have hsecond : processes (if 0 < st.rendersettings.secrec then addSecondaryBus env st dev
          else SessionParts.empty).mods
          = if dev.nozita then [] else
              (if 0 < st.rendersettings.secrec then [⟨dev, true⟩] else []).map
                (ZitaReceiver.process env st) := by
        split_ifs with hsecrec hzita hzita
        · rw [processes_addSecondaryBus, if_pos hzita]
        · rw [processes_addSecondaryBus, if_neg hzita]
          rfl
        · rfl
        · rfl
      rw [hsecond]
      cases hzita : dev.nozita with
      | true => rfl
      | false => rfl

/-- By induction over the members, the receivers of a stage are started in their order. -/
theorem processes_addNetworkReceivers (chcnt : ℕ) (members : List StageDevice) :
    processes (addNetworkReceivers env st chcnt members).mods
      = (members.flatMap (receiversOf st)).map (ZitaReceiver.process env st) := by
  induction members generalizing chcnt with
  | nil => rfl
  | cons dev members ih =>
      unfold addNetworkReceivers
      rw [SessionParts.mods_append, processes_append, processes_addNetworkReceiver, ih,
        List.flatMap_cons, List.map_append]

/-- The bus of the self monitor is a route. -/
theorem processes_secondarySelfmonitor {c : Prop} [Decidable c] :
    processes (if c then secondarySelfmonitor env st else SessionParts.empty).mods = [] := by
  split_ifs
  · rfl
  · rfl

/-- The processes of a session in raw mode. -/
theorem processes_createRawDev :
    processes (createRawDev env st x).mods
      = ((stageMembers st).flatMap (receiversOf st)).map (ZitaReceiver.process env st) ++
        if (ownDevice st).channels.isEmpty then []
        else [senderModule env st x (ownDevice st).channels.length] := by
  have hmain : processes (rawMain env st x).mods = [] := by
    unfold rawMain
    split_ifs
    · rfl
    · rfl
  have hsender : processes (rawSender env st x).mods
      = if (ownDevice st).channels.isEmpty then []
        else [senderModule env st x (ownDevice st).channels.length] := by
    unfold rawSender
    dsimp only
    split_ifs
    · rfl
    · rfl
  unfold createRawDev
  dsimp only
  rw [processes_append, (without_waitforjackports _ _ _).processes (by decide), List.append_nil]
  simp only [SessionParts.mods_append, processes_append]
  rw [hmain, hsender, processes_addNetworkReceivers, processes_secondarySelfmonitor,
    List.append_nil, List.nil_append]

/-- The processes of a session with virtual acoustics. -/
theorem processes_stageModules :
    processes (stageModules env st x)
      = (((stageMembers st).filter fun dev => !dev.channels.isEmpty).flatMap
          (receiversOf st)).map (ZitaReceiver.process env st) ++
        processes (channelSender env st x ++ downmixSender env st x).mods := by
  have hreceivers : processes (stageReceivers env st).mods
      = (((stageMembers st).filter fun dev => !dev.channels.isEmpty).flatMap
          (receiversOf st)).map (ZitaReceiver.process env st) := by
    unfold stageReceivers
    rw [SessionParts.mods_append, processes_append, processes_addNetworkReceivers,
      processes_secondarySelfmonitor, List.append_nil]
  have hsenders : processes (stageSenders env st x).mods
      = processes (channelSender env st x ++ downmixSender env st x).mods := by
    unfold stageSenders
    dsimp only
    rw [processes_append, (without_waitforjackports _ _ _).processes (by decide), List.append_nil]
  have hmetro : processes (metronomeRoute env st x) = [] := by
    unfold metronomeRoute
    split_ifs
    · rfl
    · rfl
  unfold stageModules
  simp only [processes_append]
  rw [hreceivers, hsenders, hmetro, (without_headtracker env st x).processes (by decide),
    (without_echoc env st x).processes (by decide), (without_pos2osc st).processes (by decide),
    List.append_nil, List.append_nil, List.append_nil, List.append_nil]

/-- The senders of a session with virtual acoustics: of the own channels or of a mix. -/
theorem processes_senders :
    processes (channelSender env st x ++ downmixSender env st x).mods
      = (if st.thisdevice.nozita then []
        else if sendsChannels st then [(ownDevice st).channels.length]
        else if st.thisdevice.senddownmix && st.rendersettings.receive then [2] else []).map
          (senderModule env st x) := by
  rw [SessionParts.mods_append, processes_append]
  unfold channelSender downmixSender
  cases hzita : st.thisdevice.nozita with
  | true =>
      rw [Bool.not_true, Bool.and_false, if_neg Bool.false_ne_true, if_pos rfl]
      cases hsends : sendsChannels st with
      | true => rfl
      | false => rfl
  | false =>
      rw [Bool.not_false, Bool.and_true, if_neg Bool.false_ne_true]
      cases hsends : sendsChannels st with
      | true =>
          -- who sends the own channels does not send a mix
          have hmix : st.thisdevice.senddownmix = false := by
            unfold sendsChannels at hsends
            rw [Bool.and_eq_true] at hsends
            exact (Bool.not_eq_true' _).mp hsends.2
          rw [hmix]
          rfl
      | false =>
          cases hmix : st.thisdevice.senddownmix && st.rendersettings.receive with
          | true => rfl
          | false => rfl

/-- What the document of a session starts behind the inputs: the receivers and a sender. -/
theorem processes_sessionDescription :
    processes (sessionDescription env st x).stageModules
      = (zitaReceivers st).map (ZitaReceiver.process env st) ++
        (senderChannels st).map (senderModule env st x) := by
  show processes (routedParts env st x).mods = _
  unfold routedParts zitaReceivers receivedMembers senderChannels
  cases hhost : st.host.isEmpty with
  | true => rfl
  | false =>
      rw [if_neg Bool.false_ne_true, if_neg Bool.false_ne_true, if_neg Bool.false_ne_true]
      cases hraw : rawRouting st with
      | true =>
          rw [if_pos rfl, if_pos rfl, if_pos rfl, processes_createRawDev]
          split_ifs
          · rfl
          · rfl
      | false =>
          rw [if_neg Bool.false_ne_true, if_neg Bool.false_ne_true, if_neg Bool.false_ne_true,
            processes_stageModules, processes_senders]

end Processes

/-! ## Addresses -/

/-- The command of the process ends with this address and this port. -/
def Addressed (host : String) (n : TscNode) (p : Port) : Prop :=
  ∃ options : String, n = systemModule (options ++ (" " ++ host ++ " ") ++ toString p) false

/-- The process receives from any address at this port. -/
def ListensOn : TscNode → Port → Prop := Addressed "0.0.0.0"

/-- The process sends to this port of the device. -/
def SendsTo : TscNode → Port → Prop := Addressed "127.0.0.1"

/-- Two texts that end with the same separator and words without it are the same in front of it,
and so are the words. -/
theorem lastWord_inj {α : Type*} {c : α} {xs ys us vs : List α} (hus : c ∉ us) (hvs : c ∉ vs)
    (h : xs ++ c :: us = ys ++ c :: vs) : xs = ys ∧ us = vs := by
  rcases List.append_eq_append_iff.mp h with ⟨between, hys, hu⟩ | ⟨between, hxs, hv⟩
  · cases between with
    | nil =>
        rw [List.append_nil] at hys
        exact ⟨hys.symm, (List.cons.inj hu).2⟩
    | cons b between =>
        refine absurd ?_ hus
        rw [(List.cons.inj hu).2]
        exact List.mem_append_right _ List.mem_cons_self
  · cases between with
    | nil =>
        rw [List.append_nil] at hxs
        exact ⟨hxs, (List.cons.inj hv).2.symm⟩
    | cons b between =>
        refine absurd ?_ hvs
        rw [(List.cons.inj hv).2]
        exact List.mem_append_right _ List.mem_cons_self

/-- A port number is written without a blank. -/
theorem blank_notMem_port (p : Port) : ' ' ∉ (toString p).toList := by
  show ' ' ∉ (toString p.toNat).toList
  intro h
  have hdigit := Nat.isDigit_of_mem_toDigits (by omega) (by omega) (Nat.toList_repr ▸ h)
  exact absurd hdigit (by decide)

/-- Port numbers that are written alike are the same. -/
theorem port_toString_injective {p q : Port} (h : (toString p).toList = (toString q).toList) :
    p = q :=
  UInt16.toNat_inj.mp (Nat.repr_injective (String.toList_inj.mp h))

/-- A process has one address and one port. -/
theorem addressed_unique {host host' : String} (hhost : ' ' ∉ host.toList)
    (hhost' : ' ' ∉ host'.toList) {n : TscNode} {p p' : Port} (h : Addressed host n p)
    (h' : Addressed host' n p') : host = host' ∧ p = p' := by
  obtain ⟨options, rfl⟩ := h
  obtain ⟨options', hsame⟩ := h'
  have hcommand : options ++ (" " ++ host ++ " ") ++ toString p
      = options' ++ (" " ++ host' ++ " ") ++ toString p' := by
    have hattributes := (TscNode.element.inj hsame).2.1
    simpa using hattributes
  have hlist : (options ++ " " ++ host).toList ++ ' ' :: (toString p).toList
      = (options' ++ " " ++ host').toList ++ ' ' :: (toString p').toList := by
    have := congrArg String.toList hcommand
    simpa using this
  obtain ⟨hfront, hport⟩ := lastWord_inj (blank_notMem_port p) (blank_notMem_port p') hlist
  have hfront' : options.toList ++ ' ' :: host.toList = options'.toList ++ ' ' :: host'.toList := by
    simpa using hfront
  exact ⟨String.toList_inj.mp (lastWord_inj hhost hhost' hfront').2, port_toString_injective hport⟩

section Ports

variable (env : SessionEnv) (st : Stage) (x : ExtraVars)

/-- The process of a receiver listens on the port of the receiver. -/
theorem ZitaReceiver.listensOn (r : ZitaReceiver) : ListensOn (r.process env st) (r.port env) := by
  refine ⟨env.zitapath ++ "ovzita-n2j --chan " ++ chanlist r.member ++ " --jname " ++ r.jname st ++
    " --buf " ++ r.buffer env st, ?_⟩
  rw [show " " ++ "0.0.0.0" ++ " " = " 0.0.0.0 " from rfl]
  rfl

/-- The process of the sender sends to the local port at which the client reads for this device. -/
theorem sendsTo_senderModule (channels : ℕ) :
    SendsTo (senderModule env st x channels)
      (getZitaport st.thisstagedeviceid env.portoffset 0) := by
  refine ⟨env.zitapath ++ "ovzita-j2n --chan " ++ toString channels ++ " --jname " ++
    st.thisdeviceid ++ "_sender --" ++ zitasampleformat x, ?_⟩
  rw [show " " ++ "127.0.0.1" ++ " " = " 127.0.0.1 " from rfl]
  rfl

/-- What has an address is a process. -/
theorem mem_processes_of_addressed {host : String} {n : TscNode} {p : Port}
    (h : Addressed host n p) {mods : List TscNode} : n ∈ processes mods ↔ n ∈ mods := by
  obtain ⟨options, rfl⟩ := h
  exact List.mem_filter.trans (and_iff_left rfl)

/-- The ports that the document makes processes listen on are those of the receivers. -/
theorem listensOn_iff {n : TscNode} {p : Port} :
    n ∈ (sessionDescription env st x).stageModules ∧ ListensOn n p ↔
      ∃ r ∈ zitaReceivers st, n = r.process env st ∧ p = r.port env := by
  constructor
  · rintro ⟨hn, hp⟩
    rw [← mem_processes_of_addressed hp, processes_sessionDescription, List.mem_append] at hn
    rcases hn with hreceiver | hsender
    · obtain ⟨r, hr, rfl⟩ := List.mem_map.mp hreceiver
      exact ⟨r, hr, rfl, (addressed_unique (by decide) (by decide) hp (r.listensOn env st)).2⟩
    · -- the address of a sender is another one
      obtain ⟨channels, -, rfl⟩ := List.mem_map.mp hsender
      have hhost := (addressed_unique (by decide) (by decide) hp
        (sendsTo_senderModule env st x channels)).1
      exact absurd hhost (by decide)
  · rintro ⟨r, hr, rfl, rfl⟩
    have hp := r.listensOn env st
    refine ⟨(mem_processes_of_addressed hp).mp ?_, hp⟩
    rw [processes_sessionDescription]
    exact List.mem_append_left _ (List.mem_map_of_mem hr)

/-- The ports that the document makes processes send to: that of the client, where there is a
sender. -/
theorem sendsTo_iff {n : TscNode} {p : Port} :
    n ∈ (sessionDescription env st x).stageModules ∧ SendsTo n p ↔
      ∃ channels ∈ senderChannels st, n = senderModule env st x channels ∧
        p = getZitaport st.thisstagedeviceid env.portoffset 0 := by
  constructor
  · rintro ⟨hn, hp⟩
    rw [← mem_processes_of_addressed hp, processes_sessionDescription, List.mem_append] at hn
    rcases hn with hreceiver | hsender
    · obtain ⟨r, -, rfl⟩ := List.mem_map.mp hreceiver
      have hhost := (addressed_unique (by decide) (by decide) hp (r.listensOn env st)).1
      exact absurd hhost (by decide)
    · obtain ⟨channels, hchannels, rfl⟩ := List.mem_map.mp hsender
      exact ⟨channels, hchannels, rfl, (addressed_unique (by decide) (by decide) hp
        (sendsTo_senderModule env st x channels)).2⟩
  · rintro ⟨channels, hchannels, rfl, rfl⟩
    have hp := sendsTo_senderModule env st x channels
    refine ⟨(mem_processes_of_addressed hp).mp ?_, hp⟩
    rw [processes_sessionDescription]
    exact List.mem_append_right _ (List.mem_map_of_mem hchannels)

end Ports

end Libov
