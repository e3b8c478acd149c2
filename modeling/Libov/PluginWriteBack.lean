/-
# Plugin configurations written back

The plugins of a running session are uploaded by the client, and written back into the channels of
the device: `update_plugincfg` of the renderer hands a configuration to `update_plugin_cfg` of a
channel of the local device, and to the one of the copy of this device on stage.  Like
`DeviceChannel.updatePluginCfg` the methods are programs on their members, which an index outside
of its vector ends.

* `updatePluginCfg_ends_iff` : which configurations are taken to their end;
* `plugin_write_back_in_bounds_iff` : when the copy on stage is updated, and nothing else.
-/
import Libov.RenderTascar

namespace Libov

open Programs

variable (num : Numeric)

/-! ## The methods -/

/-- A device with other plugins in its channel `ch` at the position `channel`. -/
def StageDevice.setPlugins (channel : ℕ) (ch : DeviceChannel) (ps : List ChannelPlugin)
    (dev : StageDevice) : StageDevice :=
  { dev with channels := dev.channels.set channel { ch with plugins := ps } }

/-- `channels[channel].update_plugin_cfg(cfg)` of a device. -/
def StageDevice.updatePluginCfg (cfg : Except JsonError Json) (channel : ℕ) :
    EStateM PluginFault StageDevice Unit := do
  match (← get).channels[channel]? with
  | some ch =>
      onPart (fun _ => ch.plugins) (StageDevice.setPlugins channel ch)
        (DeviceChannel.updatePluginCfg num cfg)
  | none => throw .channels

/-- A stage with another local device. -/
def Stage.setLocal (dev : StageDevice) (st : Stage) : Stage := { st with thisdevice := dev }

/-- A stage with another copy of the local device. -/
def Stage.setCopy (dev : StageDevice) (st : Stage) : Stage :=
  { st with stage := st.stage.insert st.thisstagedeviceid dev }

/-- The copy of the local device on stage, as `operator[]` reads it. -/
def Stage.copy (st : Stage) : StageDevice :=
  (st.stage.find? st.thisstagedeviceid).getD StageDevice.zero

/-- The stage behind `stage.stage[stage.thisstagedeviceid]`: a missing device is added. -/
def Stage.touchCopy (st : Stage) : Stage :=
  { st with stage := st.stage.touch st.thisstagedeviceid StageDevice.zero }

/-- `update_plugincfg` of the renderer: the local device, and its copy on stage. -/
def Stage.updatePlugincfg (cfg : Except JsonError Json) (channel : ℕ) :
    EStateM PluginFault Stage Unit := do
  if channel < (← get).thisdevice.channels.length then
    onPart Stage.thisdevice Stage.setLocal (StageDevice.updatePluginCfg num cfg channel)
    if (← get).thisstagedeviceid.toNat < (← get).stage.size then
      modify Stage.touchCopy
      onPart Stage.copy Stage.setCopy (StageDevice.updatePluginCfg num cfg channel)

example : (Stage.updatePlugincfg Numeric.exact (.ok (.obj [("gain", .obj [("lingain", .int 2)])])) 0
    { Stage.default Numeric.exact "dev" with
      thisdevice := { defaultDevice with channels := [⟨"0", "", 1, ⟨0, 0, 0⟩, "omni", [], ""⟩] } })
    = .ok () { Stage.default Numeric.exact "dev" with
      thisdevice := { defaultDevice with channels := [⟨"0", "", 1, ⟨0, 0, 0⟩, "omni",
        [⟨"gain", OrderedMap.empty.insert "lingain" "2"⟩], ""⟩] } } := by
  rfl

/-! ## Turns of the loop -/

section Turns

variable {num} {ps : List ChannelPlugin} {pcnt : ℕ} {plug : String}

/-- Only a plugin without a name behind the last one is looked for where there is none. -/
theorem keptParams_ok_iff :
    (∃ params, keptParams ps pcnt plug = .ok params) ↔ (plug = "" → pcnt < ps.length) := by
  rw [keptParams]
  cases hp : ps[pcnt]? with
  | none =>
      have hle : ps.length ≤ pcnt := List.getElem?_eq_none_iff.mp hp
      by_cases hplug : plug = ""
      · simp [hplug, hle]
      · simp [hplug]
  | some p =>
      have hlt := (List.getElem?_eq_some_iff.mp hp).1
      simp only [hlt, implies_true, iff_true]
      split_ifs
      · exact ⟨_, rfl⟩
      · exact ⟨_, rfl⟩

/-- A turn that finds its plugin and its parameters puts the plugin. -/
theorem updatePlugin_ok {cfg : Json} {params : OrderedMap String String}
    {members : List (String × Json)} (hkept : keptParams ps pcnt plug = .ok params)
    (hmembers : cfg.items = .ok members) : updatePlugin num pcnt plug cfg ps
      = .ok () (putPlugin pcnt ⟨plug, pluginParams num params members⟩ ps) := by
  rw [updatePlugin, get_bind_apply, hkept, itemsOf, hmembers]
  rfl

/-- Any other turn throws or reads beyond the plugins. -/
theorem updatePlugin_throws {cfg : Json}
    (h : ¬ ((plug = "" → pcnt < ps.length) ∧ ∃ members, cfg.items = .ok members)) :
    Throws (updatePlugin num pcnt plug cfg) ps := by
  rw [updatePlugin, Throws]
  simp only [get_bind_apply]
  cases hkept : keptParams ps pcnt plug with
  | error e => exact ⟨e, ps, rfl⟩
  | ok params =>
      cases hmembers : cfg.items with
      | error e =>
          refine ⟨.json e, ps, ?_⟩
          rw [itemsOf, hmembers]
          rfl
      | ok members => exact absurd ⟨keptParams_ok_iff.mp ⟨params, hkept⟩, members, hmembers⟩ h

/-- A plugin is put in place of another one, or makes the list longer by one. -/
theorem length_putPlugin (cplug : ChannelPlugin) (h : pcnt ≤ ps.length) :
    (putPlugin pcnt cplug ps).length = max ps.length (pcnt + 1) := by
  rw [putPlugin]
  split_ifs
  · rw [List.length_set]
    omega
  · rw [List.length_append, List.length_singleton]
    omega

/-- The loop comes to its end if every plugin has members and no plugin without a name is looked
for behind the last one. -/
theorem updatePlugins_ends_iff {members : List (String × Json)} (h : pcnt ≤ ps.length) :
    ¬ Throws (updatePlugins num pcnt members) ps ↔
      ∀ i plug cfg, members[i]? = some (plug, cfg) →
        (plug = "" → pcnt + i < ps.length) ∧ ∃ params, cfg.items = .ok params := by
  induction members generalizing pcnt ps with
  | nil =>
      apply iff_of_true (not_throws_of_ok rfl)
      intro i plug cfg hi
      cases hi
  | cons m members ih =>
      by_cases hm : (m.1 = "" → pcnt < ps.length) ∧ ∃ params, m.2.items = .ok params
      · obtain ⟨params, hkept⟩ := keptParams_ok_iff.mpr hm.1
        obtain ⟨es, hes⟩ := hm.2
        have hlength := length_putPlugin ⟨m.1, pluginParams num params es⟩ h
        have hrest : ¬ Throws (updatePlugins num pcnt (m :: members)) ps ↔
            ¬ Throws (updatePlugins num (pcnt + 1) members)
              (putPlugin pcnt ⟨m.1, pluginParams num params es⟩ ps) := by
          rw [updatePlugins, Throws, bind_of_ok (updatePlugin_ok hkept hes), Throws]
        rw [hrest, ih (by omega), hlength]
        constructor
        · intro hall i plug cfg hi
          cases i with
          | zero =>
              cases hi
              exact hm
          | succ i =>
              obtain ⟨hname, hparams⟩ := hall i plug cfg hi
              refine ⟨fun hplug => ?_, hparams⟩
              have hlt := hname hplug
              omega
        · intro hall i plug cfg hi
          obtain ⟨hname, hparams⟩ := hall (i + 1) plug cfg hi
          refine ⟨fun hplug => ?_, hparams⟩
          have hlt := hname hplug
          omega
      · apply iff_of_false
        · rw [not_not]
          exact throws_bind_left (updatePlugin_throws hm) _
        · intro hall
          exact hm (hall 0 m.1 m.2 rfl)

end Turns

/-- The configuration is taken to its end: it is one of plugins with parameters, and one without a
name does not stand behind the last plugin. -/
theorem updatePluginCfg_ends_iff {num : Numeric} (cfg : Except JsonError Json)
    (ps : List ChannelPlugin) : ¬ Throws (DeviceChannel.updatePluginCfg num cfg) ps ↔
      ∃ js members, cfg = .ok js ∧ js.items = .ok members ∧
        ∀ i plug v, members[i]? = some (plug, v) →
          (plug = "" → i < ps.length) ∧ ∃ params, v.items = .ok params := by
  cases cfg with
  | error e =>
      apply iff_of_false
      · exact fun h => h ⟨.json e, ps, rfl⟩
      · rintro ⟨js, members, hjs, -⟩
        cases hjs
  | ok js =>
      cases hmembers : js.items with
      | error e =>
          apply iff_of_false
          · intro h
            apply h
            refine ⟨.json e, ps, ?_⟩
            rw [DeviceChannel.updatePluginCfg, itemsOf, hmembers]
            rfl
          · rintro ⟨js', members, hjs, hitems, -⟩
            cases hjs
            rw [hmembers] at hitems
            cases hitems
      | ok members =>
          have hrun : ¬ Throws (DeviceChannel.updatePluginCfg num (.ok js)) ps ↔
              ¬ Throws (updatePlugins num 0 members) ps := by
            rw [DeviceChannel.updatePluginCfg, itemsOf, hmembers]
            rfl
          rw [hrun, updatePlugins_ends_iff (Nat.zero_le _)]
          simp only [Nat.zero_add]
          constructor
          · exact fun h => ⟨js, members, rfl, hmembers, h⟩
          · rintro ⟨js', members', hjs, hitems, h⟩
            cases hjs
            rw [hmembers] at hitems
            cases hitems
            exact h

/-! ## One channel -/

/-- A program that accesses no channel behind the last one. -/
def InChannels {σ α : Type} (x : EStateM PluginFault σ α) : Prop :=
  ∀ s s', x s ≠ .error .channels s'

/-- A sequence accesses channels that are there if both of its programs do. -/
theorem InChannels.bind {σ α β : Type} {x : EStateM PluginFault σ α}
    {f : α → EStateM PluginFault σ β} (hx : InChannels x) (hf : ∀ a, InChannels (f a)) :
    InChannels (x >>= f) := by
  intro s s'
  rcases hres : x s with ⟨a, t⟩ | ⟨e, t⟩
  · rw [bind_of_ok hres]
    exact hf a t s'
  · rw [bind_of_error hres]
    intro h
    cases h
    exact hx s _ hres

/-- Reading the members of a value accesses no channel. -/
theorem inChannels_itemsOf {σ : Type} (j : Json) : @InChannels σ _ (itemsOf j) := by
  intro s s'
  rw [itemsOf]
  cases j.items with
  | ok es => exact fun h => by cases h
  | error e => exact fun h => by cases h

/-- Nor does looking for the plugin of that name. -/
theorem inChannels_keptParams {σ : Type} (plugins : List ChannelPlugin) (pcnt : ℕ)
    (plug : String) : @InChannels σ _ (ofExcept (keptParams plugins pcnt plug)) := by
  intro s s'
  rw [keptParams]
  split_ifs
  · cases plugins[pcnt]? with
    | some p => exact fun h => by cases h
    | none => exact fun h => by cases h
  · exact fun h => by cases h

/-- A turn of the loop is made of these. -/
theorem inChannels_updatePlugin (pcnt : ℕ) (plug : String) (cfg : Json) :
    InChannels (updatePlugin num pcnt plug cfg) := by
  apply InChannels.bind
  · exact fun _ _ h => by cases h
  · intro plugins
    apply (inChannels_keptParams plugins pcnt plug).bind
    intro params
    apply (inChannels_itemsOf cfg).bind
    exact fun _ _ _ h => by cases h

/-- The loop accesses no channel, by induction over the members. -/
theorem inChannels_updatePlugins (pcnt : ℕ) (members : List (String × Json)) :
    InChannels (updatePlugins num pcnt members) := by
  induction members generalizing pcnt with
  | nil => exact fun _ _ h => by cases h
  | cons m members ih => exact (inChannels_updatePlugin num pcnt m.1 m.2).bind fun _ => ih _

/-- So the whole method does not; the channel has been chosen before. -/
theorem inChannels_updatePluginCfg (cfg : Except JsonError Json) :
    InChannels (DeviceChannel.updatePluginCfg num cfg) := by
  cases cfg with
  | ok js => exact (inChannels_itemsOf js).bind fun _ => inChannels_updatePlugins num 0 _
  | error e => exact fun _ _ h => by cases h

section Channel

variable {num} {cfg : Except JsonError Json} {channel : ℕ} {dev : StageDevice} {ch : DeviceChannel}

/-- In a channel that is there, its plugins are updated. -/
theorem StageDevice.updatePluginCfg_of_some (hch : dev.channels[channel]? = some ch) :
    StageDevice.updatePluginCfg num cfg channel dev = onPart (fun _ => ch.plugins)
      (StageDevice.setPlugins channel ch) (DeviceChannel.updatePluginCfg num cfg) dev := by
  rw [StageDevice.updatePluginCfg, get_bind_apply, hch]

/-- A channel that is not there is a fault. -/
theorem StageDevice.updatePluginCfg_of_none (hch : dev.channels[channel]? = none) :
    StageDevice.updatePluginCfg num cfg channel dev = .error .channels dev := by
  rw [StageDevice.updatePluginCfg, get_bind_apply, hch]
  rfl

/-- The plugins behind an update are those of the method on the channel, also where it throws. -/
theorem StageDevice.stateAfter_updatePluginCfg (hch : dev.channels[channel]? = some ch) :
    stateAfter (StageDevice.updatePluginCfg num cfg channel) dev = dev.setPlugins channel ch
      (stateAfter (DeviceChannel.updatePluginCfg num cfg) ch.plugins) := by
  rw [stateAfter, updatePluginCfg_of_some hch, ← stateAfter, stateAfter_onPart]

/-- A device is the same behind an update exactly if the plugins are. -/
theorem StageDevice.setPlugins_eq_iff {ps : List ChannelPlugin}
    (hch : dev.channels[channel]? = some ch) :
    dev.setPlugins channel ch ps = dev ↔ ps = ch.plugins := by
  constructor
  · intro h
    have hget : (dev.setPlugins channel ch ps).channels[channel]? = some ch := by
      rw [h]
      exact hch
    have hlt := (List.getElem?_eq_some_iff.mp hch).1
    rw [StageDevice.setPlugins, List.getElem?_set_self hlt, Option.some.injEq] at hget
    rw [← hget]
  · rintro rfl
    obtain ⟨hlt, hget⟩ := List.getElem?_eq_some_iff.mp hch
    have hset : dev.channels.set channel ch = dev.channels := by
      rw [← hget]
      exact List.set_getElem_self hlt
    show { dev with channels := dev.channels.set channel ch } = dev
    rw [hset]

end Channel

/-! ## The local device and its copy -/

/-- The other channels of a device, and whatever else it has, are the same. -/
def OnlyChannel (channel : ℕ) (dev dev' : StageDevice) : Prop :=
  ∃ channels, dev' = { dev with channels := channels } ∧
    ∀ k ≠ channel, channels[k]? = dev.channels[k]?

/-- An untouched device differs in no channel. -/
theorem OnlyChannel.refl (channel : ℕ) (dev : StageDevice) : OnlyChannel channel dev dev :=
  ⟨dev.channels, rfl, fun _ _ => rfl⟩

/-- A device with other plugins differs in one channel at most. -/
theorem OnlyChannel.setPlugins (channel : ℕ) (dev : StageDevice) (ch : DeviceChannel)
    (ps : List ChannelPlugin) : OnlyChannel channel dev (dev.setPlugins channel ch ps) :=
  ⟨_, rfl, fun _ hk => List.getElem?_set_ne hk.symm⟩

/-- The channel of the copy of the local device on stage. -/
def Stage.copyChannel (st : Stage) (channel : ℕ) : Option DeviceChannel :=
  (st.stage.find? st.thisstagedeviceid).bind fun dev => dev.channels[channel]?

/-- An update of the plugins of a channel accesses no channel that is not there, adds no device to
the stage, updates the copy of the local device if that is on stage with the channel, and changes
no other channel and no other device. -/
structure WriteBackInBounds (cfg : Except JsonError Json) (channel : ℕ) (st : Stage) : Prop where
  inChannels : ∀ st', Stage.updatePlugincfg num cfg channel st ≠ .error .channels st'
  devices : ∀ id, (stateAfter (Stage.updatePlugincfg num cfg channel) st).stage.contains id
    = st.stage.contains id
  copy : ∀ dev ch, st.stage.find? st.thisstagedeviceid = some dev →
    dev.channels[channel]? = some ch →
    (stateAfter (Stage.updatePlugincfg num cfg channel) st).stage.find? st.thisstagedeviceid
      = some (dev.setPlugins channel ch
          (stateAfter (DeviceChannel.updatePluginCfg num cfg) ch.plugins))
  copyChannels : ∀ dev, st.stage.find? st.thisstagedeviceid = some dev → ∃ dev',
    (stateAfter (Stage.updatePlugincfg num cfg channel) st).stage.find? st.thisstagedeviceid
      = some dev' ∧ OnlyChannel channel dev dev'
  others : ∀ id, id ≠ st.thisstagedeviceid →
    (stateAfter (Stage.updatePlugincfg num cfg channel) st).stage.find? id = st.stage.find? id
  localChannels : OnlyChannel channel st.thisdevice
    (stateAfter (Stage.updatePlugincfg num cfg channel) st).thisdevice

/-- The local device has the channel, the configuration is taken there to the end, and there are
more devices on stage than the number of this device: now the copy is accessed. -/
def AccessesCopy (cfg : Except JsonError Json) (channel : ℕ) (st : Stage) : Prop :=
  (∃ ch, st.thisdevice.channels[channel]? = some ch ∧
    ¬ Throws (DeviceChannel.updatePluginCfg num cfg) ch.plugins) ∧
  st.thisstagedeviceid.toNat < st.stage.size

section WriteBack

variable {num} {cfg : Except JsonError Json} {channel : ℕ} {st : Stage}

/-- The update of a channel that is there, on a device that is a part of something larger. -/
theorem onPart_updatePluginCfg {σ : Type} {read : σ → StageDevice} {write : StageDevice → σ → σ}
    {s : σ} {ch : DeviceChannel} (hch : (read s).channels[channel]? = some ch) :
    onPart read write (StageDevice.updatePluginCfg num cfg channel) s
      = onPart (fun _ => ch.plugins)
          (fun ps s => write ((read s).setPlugins channel ch ps) s)
          (DeviceChannel.updatePluginCfg num cfg) s := by
  rw [onPart, StageDevice.updatePluginCfg_of_some hch, onPart, onPart]
  rcases DeviceChannel.updatePluginCfg num cfg ch.plugins with ⟨a, ps⟩ | ⟨e, ps⟩
  · rfl
  · rfl

/-- An update of a channel that is there accesses no other one. -/
theorem onPart_updatePluginCfg_inChannels {σ : Type} {read : σ → StageDevice}
    {write : StageDevice → σ → σ} {s s' : σ} {ch : DeviceChannel}
    (hch : (read s).channels[channel]? = some ch) :
    onPart read write (StageDevice.updatePluginCfg num cfg channel) s ≠ .error .channels s' := by
  rw [onPart_updatePluginCfg hch, onPart]
  rcases hps : DeviceChannel.updatePluginCfg num cfg ch.plugins with ⟨a, ps⟩ | ⟨e, ps⟩
  · exact fun h => by cases h
  · intro h
    cases h
    exact inChannels_updatePluginCfg num cfg _ _ hps

/-- An update behind the one of the local device: the copy, where it is accessed. -/
theorem updatePlugincfg_of_local {ch : DeviceChannel} {ps : List ChannelPlugin}
    (hch : st.thisdevice.channels[channel]? = some ch)
    (hps : DeviceChannel.updatePluginCfg num cfg ch.plugins = .ok () ps) :
    Stage.updatePlugincfg num cfg channel st
      = let st := st.setLocal (st.thisdevice.setPlugins channel ch ps)
        if st.thisstagedeviceid.toNat < st.stage.size then
          onPart Stage.copy Stage.setCopy (StageDevice.updatePluginCfg num cfg channel)
            st.touchCopy
        else .ok () st := by
  have hlt := (List.getElem?_eq_some_iff.mp hch).1
  have hlocal : onPart Stage.thisdevice Stage.setLocal
      (StageDevice.updatePluginCfg num cfg channel) st
        = .ok () (st.setLocal (st.thisdevice.setPlugins channel ch ps)) := by
    rw [onPart_updatePluginCfg hch, onPart, hps]
  rw [Stage.updatePlugincfg, get_bind_apply, if_pos hlt, bind_of_ok hlocal, get_bind_apply,
    get_bind_apply]
  by_cases hsize : st.thisstagedeviceid.toNat < st.stage.size
  · exact (congrFun (if_pos hsize) _).trans (if_pos hsize).symm
  · exact (congrFun (if_neg hsize) _).trans (if_neg hsize).symm

/-- What an update does where the copy is not accessed. -/
theorem updatePlugincfg_of_not_accesses (h : ¬ AccessesCopy num cfg channel st) :
    (∀ st', Stage.updatePlugincfg num cfg channel st ≠ .error .channels st') ∧
    ∃ dev, OnlyChannel channel st.thisdevice dev ∧
      stateAfter (Stage.updatePlugincfg num cfg channel) st = st.setLocal dev := by
  cases hch : st.thisdevice.channels[channel]? with
  | none =>
      have hlt : ¬ channel < st.thisdevice.channels.length :=
        not_lt.mpr (List.getElem?_eq_none_iff.mp hch)
      have hrun : Stage.updatePlugincfg num cfg channel st = .ok () st := by
        rw [Stage.updatePlugincfg, get_bind_apply, if_neg hlt]
        rfl
      refine ⟨?_, _, OnlyChannel.refl channel st.thisdevice, stateAfter_ok hrun⟩
      intro st' hst'
      rw [hrun] at hst'
      cases hst'
  | some ch =>
      have hlt := (List.getElem?_eq_some_iff.mp hch).1
      rcases hps : DeviceChannel.updatePluginCfg num cfg ch.plugins with ⟨a, ps⟩ | ⟨e, ps⟩
      · -- there are too few devices on stage
        have hsize : ¬ st.thisstagedeviceid.toNat < st.stage.size := fun hsize =>
          h ⟨⟨ch, hch, not_throws_of_ok hps⟩, hsize⟩
        have hrun := (updatePlugincfg_of_local hch hps).trans (if_neg hsize)
        refine ⟨?_, _, OnlyChannel.setPlugins channel _ ch ps, stateAfter_ok hrun⟩
        intro st' hst'
        rw [hrun] at hst'
        cases hst'
      · -- the update of the local device ends here
        have hrun : Stage.updatePlugincfg num cfg channel st
            = .error e (st.setLocal (st.thisdevice.setPlugins channel ch ps)) := by
          rw [Stage.updatePlugincfg, get_bind_apply, if_pos hlt]
          apply bind_of_error
          rw [onPart_updatePluginCfg hch, onPart, hps]
        refine ⟨?_, _, OnlyChannel.setPlugins channel _ ch ps, stateAfter_error hrun⟩
        intro st' hst'
        rw [hrun] at hst'
        cases hst'
        exact inChannels_updatePluginCfg num cfg _ _ hps

/-- What an update does where the copy is accessed. -/
theorem updatePlugincfg_of_accesses (h : AccessesCopy num cfg channel st) :
    ∃ dev, OnlyChannel channel st.thisdevice dev ∧ Stage.updatePlugincfg num cfg channel st
      = onPart Stage.copy Stage.setCopy (StageDevice.updatePluginCfg num cfg channel)
          (st.setLocal dev).touchCopy := by
  obtain ⟨⟨ch, hch, hends⟩, hsize⟩ := h
  obtain ⟨_, hps⟩ := ok_of_not_throws hends
  exact ⟨_, OnlyChannel.setPlugins channel _ ch _,
    (updatePlugincfg_of_local hch hps).trans (if_pos hsize)⟩

/-- The device that is added has no channels. -/
theorem copy_touchCopy : st.touchCopy.copy = st.copy := by
  rw [Stage.copy, Stage.touchCopy, Stage.copy, OrderedMap.find?_touch]
  rfl

/-- The channel of the copy is the one that would be read there. -/
theorem copyChannel_eq : st.copyChannel channel = st.copy.channels[channel]? := by
  rw [Stage.copyChannel, Stage.copy]
  cases st.stage.find? st.thisstagedeviceid with
  | none => rfl
  | some dev => rfl

/-- A device that is not on stage, or has no such channel there, is accessed all the same. -/
theorem updatePlugincfg_of_no_copy (h : AccessesCopy num cfg channel st)
    (hcopy : st.copyChannel channel = none) :
    ∃ st', Stage.updatePlugincfg num cfg channel st = .error .channels st' := by
  obtain ⟨dev, -, hrun⟩ := updatePlugincfg_of_accesses h
  have hnone : (st.setLocal dev).touchCopy.copy.channels[channel]? = none := by
    rw [copy_touchCopy]
    exact copyChannel_eq.symm.trans hcopy
  rw [hrun, onPart, StageDevice.updatePluginCfg_of_none hnone]
  exact ⟨_, rfl⟩

/-- The copy of the local device gets the plugins. -/
theorem updatePlugincfg_of_copy (h : AccessesCopy num cfg channel st) {copy : StageDevice}
    {ch : DeviceChannel} (hcopy : st.stage.find? st.thisstagedeviceid = some copy)
    (hch : copy.channels[channel]? = some ch) :
    (∀ st', Stage.updatePlugincfg num cfg channel st ≠ .error .channels st') ∧
    ∃ dev, OnlyChannel channel st.thisdevice dev ∧
      stateAfter (Stage.updatePlugincfg num cfg channel) st
        = (st.setLocal dev).setCopy (copy.setPlugins channel ch
            (stateAfter (DeviceChannel.updatePluginCfg num cfg) ch.plugins)) := by
  obtain ⟨dev, hdev, hrun⟩ := updatePlugincfg_of_accesses h
  have hcontains : st.stage.contains st.thisstagedeviceid = true := by
    rw [OrderedMap.contains, hcopy]
    rfl
  have htouch : (st.setLocal dev).touchCopy = st.setLocal dev := by
    have hstage : (st.setLocal dev).stage.touch (st.setLocal dev).thisstagedeviceid
        StageDevice.zero = (st.setLocal dev).stage := OrderedMap.touch_of_contains hcontains _
    rw [Stage.touchCopy, hstage]
  have hread : (st.setLocal dev).copy = copy := by
    show (st.stage.find? st.thisstagedeviceid).getD StageDevice.zero = copy
    rw [hcopy]
    rfl
  have hsome : (st.setLocal dev).copy.channels[channel]? = some ch := by
    rw [hread]
    exact hch
  rw [htouch] at hrun
  refine ⟨?_, dev, hdev, ?_⟩
  · intro st'
    rw [hrun]
    exact onPart_updatePluginCfg_inChannels hsome
  · rw [stateAfter, hrun, ← stateAfter, stateAfter_onPart, hread,
      StageDevice.stateAfter_updatePluginCfg hch]

/-- An update that accesses a copy with the channel stays in bounds. -/
theorem writeBackInBounds_of_copy (haccess : AccessesCopy num cfg channel st)
    {ch : DeviceChannel} (hcopy : st.copyChannel channel = some ch) :
    WriteBackInBounds num cfg channel st := by
  obtain ⟨copy, hfind, hch⟩ := Option.bind_eq_some_iff.mp hcopy
  obtain ⟨hin, dev, hdev, hafter⟩ := updatePlugincfg_of_copy haccess hfind hch
  have hown : (stateAfter (Stage.updatePlugincfg num cfg channel) st).stage.find?
      st.thisstagedeviceid = some (copy.setPlugins channel ch
        (stateAfter (DeviceChannel.updatePluginCfg num cfg) ch.plugins)) := by
    rw [hafter]
    exact (OrderedMap.find?_insert st.stage _ _ _).trans (if_pos rfl)
  have hother : ∀ id, id ≠ st.thisstagedeviceid →
      (stateAfter (Stage.updatePlugincfg num cfg channel) st).stage.find? id
        = st.stage.find? id := by
    intro id hid
    rw [hafter]
    exact (OrderedMap.find?_insert st.stage _ _ _).trans (if_neg hid)
  constructor
  · exact hin
  · intro id
    rw [OrderedMap.contains, OrderedMap.contains]
    by_cases hid : id = st.thisstagedeviceid
    · rw [hid, hown, hfind]
      rfl
    · rw [hother id hid]
  · intro dev' ch' hdev' hch'
    rw [hfind, Option.some.injEq] at hdev'
    subst hdev'
    rw [hch, Option.some.injEq] at hch'
    rw [hown, hch']
  · intro dev' hdev'
    rw [hfind, Option.some.injEq] at hdev'
    rw [hown, ← hdev']
    exact ⟨_, rfl, OnlyChannel.setPlugins channel copy ch _⟩
  · exact hother
  · rw [hafter]
    exact hdev

/-- An update that does not access the copy leaves the stage, and so stays in bounds exactly if
there is nothing to change in the copy. -/
theorem writeBackInBounds_iff_of_not_accesses (haccess : ¬ AccessesCopy num cfg channel st) :
    WriteBackInBounds num cfg channel st ↔ ∀ ch, st.copyChannel channel = some ch →
      stateAfter (DeviceChannel.updatePluginCfg num cfg) ch.plugins = ch.plugins := by
  obtain ⟨hin, dev, hdev, hafter⟩ := updatePlugincfg_of_not_accesses haccess
  have hstage : (stateAfter (Stage.updatePlugincfg num cfg channel) st).stage = st.stage := by
    rw [hafter]
    rfl
  constructor
  · intro h ch hcopy
    obtain ⟨copy, hfind, hch⟩ := Option.bind_eq_some_iff.mp hcopy
    have hset := h.copy copy ch hfind hch
    rw [hstage, hfind, Option.some.injEq] at hset
    exact (StageDevice.setPlugins_eq_iff hch).mp hset.symm
  · intro hkept
    constructor
    · exact hin
    · intro id
      rw [hstage]
    · intro copy ch hfind hch
      have hcopy : st.copyChannel channel = some ch := by
        rw [Stage.copyChannel, hfind]
        exact hch
      rw [hstage, hfind, hkept ch hcopy, (StageDevice.setPlugins_eq_iff hch).mpr rfl]
    · intro copy hfind
      rw [hstage]
      exact ⟨copy, hfind, OnlyChannel.refl channel copy⟩
    · intro id _
      rw [hstage]
    · rw [hafter]
      exact hdev

end WriteBack

/-- An update stays in bounds exactly if the copy is accessed where it has the channel, and it is
left out only where the configuration changes nothing in it. -/
theorem plugin_write_back_in_bounds_iff (cfg : Except JsonError Json) (channel : ℕ) (st : Stage) :
    WriteBackInBounds num cfg channel st ↔
      (AccessesCopy num cfg channel st → (st.copyChannel channel).isSome = true) ∧
      (¬ AccessesCopy num cfg channel st → ∀ ch, st.copyChannel channel = some ch →
        stateAfter (DeviceChannel.updatePluginCfg num cfg) ch.plugins = ch.plugins) := by
  by_cases haccess : AccessesCopy num cfg channel st
  · constructor
    · intro h
      refine ⟨fun _ => ?_, fun hno => absurd haccess hno⟩
      cases hcopy : st.copyChannel channel with
      | none =>
          obtain ⟨st', hst'⟩ := updatePlugincfg_of_no_copy haccess hcopy
          exact absurd hst' (h.inChannels st')
      | some ch => rfl
    · rintro ⟨hsome, -⟩
      obtain ⟨ch, hcopy⟩ := Option.isSome_iff_exists.mp (hsome haccess)
      exact writeBackInBounds_of_copy haccess hcopy
  · rw [writeBackInBounds_iff_of_not_accesses haccess]
    constructor
    · intro h
      exact ⟨fun hyes => absurd hyes haccess, fun _ => h⟩
    · rintro ⟨-, h⟩
      exact h haccess

/-- Two devices are on stage, and none of them is this one: its number is smaller than theirs. -/
def awayStage : Stage :=
  { Stage.default Numeric.exact "dev" with
    thisstagedeviceid := 0
    thisdevice := { defaultDevice with channels := [⟨"0", "", 1, ⟨0, 0, 0⟩, "omni", [], ""⟩] }
    stage := (OrderedMap.empty.insert 5 defaultDevice).insert 7 defaultDevice }

/-- The first channel of the device that is added to the stage is accessed. -/
theorem plugin_write_back_outside :
    ¬ WriteBackInBounds Numeric.exact (.ok (.obj [])) 0 awayStage := by
  intro h
  exact h.inChannels _ rfl

end Libov
