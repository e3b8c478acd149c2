/-
# Chains of plugins

`update_plugin_cfg` finds the plugins of a channel by their places: the members of a configuration
come in the order of their keys.  A chain that has been set up from one configuration is matched by
every other one with the same keys.

* `find?_pluginParams` : the parameters of a plugin behind a configuration;
* `updatePlugins_new`, `updatePlugins_again` : a new chain, and one with the same names;
* `plugin_write_back_chain_iff` : when every configuration is written back.
-/
import Libov.PluginWriteBack

namespace Libov

open Programs

variable (num : Numeric)

/-! ## Parameters -/

/-- The text of a parameter, if it is a text, a number or a flag. -/
def paramText : Json → Option String
  | .str s => some s
  | .int i => some (num.toStr (num.double i))
  | .float q => some (num.toStr q)
  | .bool b => some (if b then "true" else "false")
  | _ => none

section Params

variable {num} {params : OrderedMap String String} {e : String × Json} {es : List (String × Json)}

theorem pluginParams_cons : pluginParams num params (e :: es)
    = pluginParams num ((paramText num e.2).elim params (params.insert e.1)) es := by
  obtain ⟨param, v⟩ := e
  cases v with
  | _ => rfl

/-- The parameters behind a configuration: those given, and the others as they were. -/
theorem find?_pluginParams (hkeys : (es.map Prod.fst).Nodup) (param : String) :
    (pluginParams num params es).find? param
      = ((es.lookup param).bind (paramText num)).or (params.find? param) := by
  induction es generalizing params with
  | nil => rfl
  | cons e es ih =>
      obtain ⟨he, hes⟩ := List.nodup_cons.mp hkeys
      rw [pluginParams_cons, ih hes, OrderedMap.lookup_cons]
      by_cases hparam : param = e.1
      · have hnone : es.lookup param = none := OrderedMap.lookup_eq_none (hparam ▸ he)
        rw [if_pos hparam, hnone, hparam]
        cases htext : paramText num e.2 with
        | none => simp [htext]
        | some t => simp [htext, OrderedMap.find?_insert]
      · rw [if_neg hparam]
        cases htext : paramText num e.2 with
        | none => rfl
        | some t => simp [OrderedMap.find?_insert, hparam]

/-- Parameters that have what a configuration gives stay as they are. -/
theorem pluginParams_of_given
    (h : ∀ e ∈ es, ∀ t, paramText num e.2 = some t → params.find? e.1 = some t) :
    pluginParams num params es = params := by
  induction es with
  | nil => rfl
  | cons e es ih =>
      have hes := ih fun e' he' => h e' (List.mem_cons_of_mem _ he')
      rw [pluginParams_cons]
      cases htext : paramText num e.2 with
      | none => exact hes
      | some t =>
          have hfind := h e List.mem_cons_self t htext
          have hinsert : params.insert e.1 t = params := by
            apply OrderedMap.ext
            rw [OrderedMap.find?_eq_lookup] at hfind
            exact OrderedMap.insertEntry_of_lookup params.sorted hfind
          show pluginParams num (params.insert e.1 t) es = params
          rw [hinsert, hes]

/-- The same configuration again changes no parameter. -/
theorem pluginParams_again (hkeys : (es.map Prod.fst).Nodup) :
    pluginParams num (pluginParams num params es) es = pluginParams num params es := by
  apply pluginParams_of_given
  intro e he t ht
  rw [find?_pluginParams hkeys, OrderedMap.lookup_of_mem hkeys he, Option.bind_some, ht]
  rfl

end Params

/-! ## Chains -/

/-- A configuration of plugins: the parameters by the name of the plugin. -/
abbrev PluginCfg := OrderedMap String (OrderedMap String Json)

namespace PluginCfg

/-- The configuration as the library iterates through it. -/
def toJson (cfg : PluginCfg) : Json := .obj (cfg.entries.map fun e => (e.1, .obj e.2.entries))

/-- The names of the plugins. -/
def names (cfg : PluginCfg) : List String := cfg.entries.map Prod.fst

end PluginCfg

/-- A parameter of the plugin of the given name. -/
def pluginParam (ps : List ChannelPlugin) (plug param : String) : Option String :=
  (ps.find? fun p => p.name = plug).bind fun p => p.params.find? param

/-- The plugin behind a configuration, by its parameters before. -/
def writtenPlugin (e : String × OrderedMap String Json) (params : OrderedMap String String) :
    ChannelPlugin :=
  ⟨e.1, pluginParams num params e.2.entries⟩

section Chain

variable {num} {es : List (String × OrderedMap String Json)} {ps : List ChannelPlugin}

theorem items_obj (es : List (String × Json)) : (Json.obj es).items = .ok es := rfl

/-- A chain of plugins that have names is set up behind the plugins that are there. -/
theorem updatePlugins_new (done : List ChannelPlugin) (hnames : "" ∉ es.map Prod.fst) :
    updatePlugins num done.length (es.map fun e => (e.1, .obj e.2.entries)) done
      = .ok () (done ++ es.map fun e => writtenPlugin num e OrderedMap.empty) := by
  induction es generalizing done with
  | nil => rw [List.map_nil, List.map_nil, List.append_nil]; rfl
  | cons e es ih =>
      rw [List.map_cons, List.mem_cons, not_or] at hnames
      have hkept : keptParams done done.length e.1 = .ok OrderedMap.empty := by
        rw [keptParams, List.getElem?_eq_none le_rfl]
        exact if_neg (Ne.symm hnames.1)
      have hput : putPlugin done.length (writtenPlugin num e OrderedMap.empty) done
          = done ++ [writtenPlugin num e OrderedMap.empty] := if_neg (lt_irrefl _)
      have hlength : (done ++ [writtenPlugin num e OrderedMap.empty]).length
          = done.length + 1 := by
        rw [List.length_append, List.length_singleton]
      rw [List.map_cons, List.map_cons, updatePlugins,
        bind_of_ok (updatePlugin_ok hkept (items_obj _))]
      show updatePlugins num (done.length + 1) _
        (putPlugin done.length (writtenPlugin num e OrderedMap.empty) done) = _
      rw [hput, ← hlength, ih _ hnames.2, List.append_assoc]
      rfl

/-- A chain with the names of the configuration is matched plugin by plugin. -/
theorem updatePlugins_again (done : List ChannelPlugin)
    (hnames : ps.map ChannelPlugin.name = es.map Prod.fst) :
    updatePlugins num done.length (es.map fun e => (e.1, .obj e.2.entries)) (done ++ ps)
      = .ok () (done ++ es.zipWith (fun e p => writtenPlugin num e p.params) ps) := by
  induction es generalizing done ps with
  | nil =>
      rw [List.map_nil, List.map_eq_nil_iff] at hnames
      rw [hnames]
      rfl
  | cons e es ih =>
      cases ps with
      | nil => cases hnames
      | cons p ps =>
          rw [List.map_cons, List.map_cons, List.cons.injEq] at hnames
          have hkept : keptParams (done ++ p :: ps) done.length e.1 = .ok p.params := by
            rw [keptParams, List.getElem?_append_right le_rfl, Nat.sub_self,
              List.getElem?_cons_zero, ← hnames.1]
            exact if_pos rfl
          have hput : putPlugin done.length (writtenPlugin num e p.params) (done ++ p :: ps)
              = done ++ [writtenPlugin num e p.params] ++ ps := by
            have hlt : done.length < (done ++ p :: ps).length := by
              rw [List.length_append, List.length_cons]
              omega
            rw [putPlugin, if_pos hlt, List.set_append_right _ _ le_rfl, Nat.sub_self,
              List.set_cons_zero, List.append_assoc]
            rfl
          have hlength : (done ++ [writtenPlugin num e p.params]).length = done.length + 1 := by
            rw [List.length_append, List.length_singleton]
          rw [List.map_cons, updatePlugins, bind_of_ok (updatePlugin_ok hkept (items_obj _))]
          show updatePlugins num (done.length + 1) _
            (putPlugin done.length (writtenPlugin num e p.params) (done ++ p :: ps)) = _
          rw [hput, ← hlength, ih _ hnames.2, List.append_assoc]
          rfl

@[simp] theorem writtenPlugin_name (e : String × OrderedMap String Json)
    (params : OrderedMap String String) : (writtenPlugin num e params).name = e.1 := rfl

/-- The same configuration again keeps the plugin. -/
theorem writtenPlugin_again (e : String × OrderedMap String Json)
    (params : OrderedMap String String) :
    writtenPlugin num e (writtenPlugin num e params).params = writtenPlugin num e params := by
  rw [writtenPlugin, writtenPlugin, pluginParams_again e.2.nodup_keys]

/-- A parameter of a plugin behind a configuration. -/
theorem find?_writtenPlugin (e : String × OrderedMap String Json)
    (params : OrderedMap String String) (param : String) :
    (writtenPlugin num e params).params.find? param
      = ((e.2.find? param).bind (paramText num)).or (params.find? param) := by
  rw [OrderedMap.find?_eq_lookup e.2]
  exact find?_pluginParams e.2.nodup_keys param

theorem pluginParam_cons (p : ChannelPlugin) (ps : List ChannelPlugin) (plug param : String) :
    pluginParam (p :: ps) plug param
      = if p.name = plug then p.params.find? param else pluginParam ps plug param := by
  rw [pluginParam, List.find?_cons]
  by_cases hplug : p.name = plug
  · rw [if_pos hplug, decide_eq_true hplug]
    rfl
  · rw [if_neg hplug, decide_eq_false hplug]
    rfl

theorem pluginParam_new {plug : String} {given : OrderedMap String Json}
    (hgiven : es.lookup plug = some given) (param : String) :
    pluginParam (es.map fun e => writtenPlugin num e OrderedMap.empty) plug param
      = (given.find? param).bind (paramText num) := by
  induction es with
  | nil => cases hgiven
  | cons e es ih =>
      rw [OrderedMap.lookup_cons] at hgiven
      rw [List.map_cons, pluginParam_cons, writtenPlugin_name]
      by_cases hplug : plug = e.1
      · rw [if_pos hplug, Option.some.injEq] at hgiven
        have hnone : (OrderedMap.empty : OrderedMap String String).find? param = none := rfl
        rw [if_pos hplug.symm, find?_writtenPlugin, hgiven, hnone, Option.or_none]
      · rw [if_neg hplug] at hgiven
        rw [if_neg (Ne.symm hplug)]
        exact ih hgiven

theorem pluginParam_again (hnames : ps.map ChannelPlugin.name = es.map Prod.fst) {plug : String}
    {given : OrderedMap String Json} (hgiven : es.lookup plug = some given) (param : String) :
    pluginParam (es.zipWith (fun e p => writtenPlugin num e p.params) ps) plug param
      = ((given.find? param).bind (paramText num)).or (pluginParam ps plug param) := by
  induction es generalizing ps with
  | nil => cases hgiven
  | cons e es ih =>
      cases ps with
      | nil => cases hnames
      | cons p ps =>
          rw [List.map_cons, List.map_cons, List.cons.injEq] at hnames
          rw [OrderedMap.lookup_cons] at hgiven
          rw [List.zipWith_cons_cons, pluginParam_cons, pluginParam_cons, writtenPlugin_name,
            hnames.1]
          by_cases hplug : plug = e.1
          · rw [if_pos hplug, Option.some.injEq] at hgiven
            rw [if_pos hplug.symm, if_pos hplug.symm, find?_writtenPlugin, hgiven]
          · rw [if_neg hplug] at hgiven
            rw [if_neg (Ne.symm hplug), if_neg (Ne.symm hplug)]
            exact ih hnames.2 hgiven

theorem map_name_zipWith (hnames : ps.map ChannelPlugin.name = es.map Prod.fst) :
    (es.zipWith (fun e p => writtenPlugin num e p.params) ps).map ChannelPlugin.name
      = es.map Prod.fst := by
  induction es generalizing ps with
  | nil => rfl
  | cons e es ih =>
      cases ps with
      | nil => cases hnames
      | cons p ps =>
          rw [List.map_cons, List.map_cons, List.cons.injEq] at hnames
          rw [List.zipWith_cons_cons, List.map_cons, ih hnames.2]
          rfl

theorem zipWith_again :
    es.zipWith (fun e p => writtenPlugin num e p.params)
        (es.zipWith (fun e p => writtenPlugin num e p.params) ps)
      = es.zipWith (fun e p => writtenPlugin num e p.params) ps := by
  induction es generalizing ps with
  | nil => rfl
  | cons e es ih =>
      cases ps with
      | nil => rfl
      | cons p ps =>
          rw [List.zipWith_cons_cons, List.zipWith_cons_cons, writtenPlugin_again, ih]

end Chain

/-! ## Writing back -/

/-- A configuration is applied: the plugins keep the names and the order of its keys, what it gives
for a parameter is there and the other parameters are as before, and applying it again changes
nothing. -/
structure WritesBack (cfg : PluginCfg) (ps ps' : List ChannelPlugin) : Prop where
  applied : DeviceChannel.updatePluginCfg num (.ok cfg.toJson) ps = .ok () ps'
  names : ps'.map ChannelPlugin.name = cfg.names
  params : ∀ plug given, cfg.find? plug = some given → ∀ param, pluginParam ps' plug param
    = ((given.find? param).bind (paramText num)).or (pluginParam ps plug param)
  again : DeviceChannel.updatePluginCfg num (.ok cfg.toJson) ps' = .ok () ps'

/-- Several configurations, one behind the other. -/
def updatePluginCfgs (cfgs : List PluginCfg) : EStateM PluginFault (List ChannelPlugin) Unit :=
  cfgs.forM fun cfg => DeviceChannel.updatePluginCfg num (.ok cfg.toJson)

section WritesBack

variable {num} {cfg : PluginCfg} {ps : List ChannelPlugin}

theorem updatePluginCfg_new (hnames : "" ∉ cfg.names) :
    DeviceChannel.updatePluginCfg num (.ok cfg.toJson) []
      = .ok () (cfg.entries.map fun e => writtenPlugin num e OrderedMap.empty) :=
  updatePlugins_new [] hnames

theorem updatePluginCfg_again (hnames : ps.map ChannelPlugin.name = cfg.names) :
    DeviceChannel.updatePluginCfg num (.ok cfg.toJson) ps
      = .ok () (cfg.entries.zipWith (fun e p => writtenPlugin num e p.params) ps) :=
  updatePlugins_again [] hnames

/-- A channel without plugins. -/
theorem writesBack_new (hnames : "" ∉ cfg.names) : ∃ ps, WritesBack num cfg [] ps := by
  have hsame : (cfg.entries.map fun e => writtenPlugin num e OrderedMap.empty).map
      ChannelPlugin.name = cfg.names := by
    rw [List.map_map]
    rfl
  refine ⟨_, updatePluginCfg_new hnames, hsame, ?_, ?_⟩
  · intro plug given hgiven param
    rw [OrderedMap.find?_eq_lookup] at hgiven
    rw [pluginParam_new hgiven, pluginParam, List.find?_nil, Option.bind_none, Option.or_none]
  · rw [updatePluginCfg_again hsame, List.zipWith_map_right, List.zipWith_self]
    simp only [writtenPlugin_again]

/-- A channel with the plugins of the configuration. -/
theorem writesBack_again (hnames : ps.map ChannelPlugin.name = cfg.names) :
    ∃ ps', WritesBack num cfg ps ps' := by
  have hsame : (cfg.entries.zipWith (fun e p => writtenPlugin num e p.params) ps).map
      ChannelPlugin.name = cfg.names := map_name_zipWith hnames
  refine ⟨_, updatePluginCfg_again hnames, hsame, ?_, ?_⟩
  · intro plug given hgiven param
    rw [OrderedMap.find?_eq_lookup] at hgiven
    exact pluginParam_again hnames hgiven param
  · rw [updatePluginCfg_again hsame, zipWith_again]

/-- Configurations with the names of the chain are all written. -/
theorem updatePluginCfgs_names (num : Numeric) {names : List String} {cfgs : List PluginCfg}
    (hcfgs : ∀ cfg ∈ cfgs, cfg.names = names) (hps : ps.map ChannelPlugin.name = names) :
    ∃ ps', updatePluginCfgs num cfgs ps = .ok () ps' ∧ ps'.map ChannelPlugin.name = names := by
  induction cfgs generalizing ps with
  | nil => exact ⟨ps, rfl, hps⟩
  | cons cfg cfgs ih =>
      have hcfg := hcfgs cfg List.mem_cons_self
      obtain ⟨ps', hps'⟩ := writesBack_again (hps.trans hcfg.symm)
      obtain ⟨ps'', hrun, hnames⟩ := ih (fun c hc => hcfgs c (List.mem_cons_of_mem _ hc))
        (hps'.names.trans hcfg)
      refine ⟨ps'', ?_, hnames⟩
      rw [← hrun]
      exact bind_of_ok hps'.applied

end WritesBack

/-- From a channel without plugins on, every configuration with the same keys as the first one is
written back exactly if no plugin is without a name. -/
theorem plugin_write_back_chain_iff (cfg1 : PluginCfg) (cfgs : List PluginCfg)
    (hnames : ∀ cfg ∈ cfgs, cfg.names = cfg1.names) :
    (∀ before cfg after, cfg1 :: cfgs = before ++ cfg :: after →
        ∃ ps ps', updatePluginCfgs num before [] = .ok () ps ∧ WritesBack num cfg ps ps')
      ↔ "" ∉ cfg1.names := by
  constructor
  · intro h hempty
    obtain ⟨ps, ps', hps, hwrites⟩ := h [] cfg1 cfgs rfl
    cases hps
    have hends := not_throws_of_ok hwrites.applied
    obtain ⟨js, members, hjs, hmembers, hall⟩ := (updatePluginCfg_ends_iff _ _).mp hends
    cases hjs
    cases hmembers
    obtain ⟨e, he, hname⟩ := List.mem_map.mp hempty
    obtain ⟨i, hi⟩ := List.mem_iff_getElem?.mp he
    -- the channel has no plugin that could be in its place
    have hlt := (hall i "" (.obj e.2.entries) (by rw [List.getElem?_map, hi, ← hname]; rfl)).1 rfl
    cases hlt
  · intro hempty before cfg after hsplit
    cases before with
    | nil =>
        cases hsplit
        obtain ⟨ps', hwrites⟩ := writesBack_new hempty
        exact ⟨[], ps', rfl, hwrites⟩
    | cons c before =>
        obtain ⟨rfl, rfl⟩ := List.cons.inj hsplit
        obtain ⟨ps, hfirst⟩ := writesBack_new hempty
        obtain ⟨ps', hrun, hps'⟩ := updatePluginCfgs_names num
          (fun c hc => hnames c (List.mem_append_left _ hc)) hfirst.names
        have hcfg := hnames cfg (List.mem_append_right _ List.mem_cons_self)
        obtain ⟨ps'', hwrites⟩ := writesBack_again (hps'.trans hcfg.symm)
        refine ⟨ps', ps'', ?_, hwrites⟩
        rw [← hrun]
        exact bind_of_ok hfirst.applied

/-- A gain that is written twice. -/
theorem plugin_write_back_chain_gain :
    let cfg (gain : ℤ) : PluginCfg :=
      OrderedMap.empty.insert "gain" (OrderedMap.empty.insert "lingain" (.int gain))
    ∀ before c after, [cfg 2, cfg 3] = before ++ c :: after → ∃ ps ps',
      updatePluginCfgs Numeric.exact before [] = .ok () ps
        ∧ WritesBack Numeric.exact c ps ps' := by
  intro cfg
  apply (plugin_write_back_chain_iff Numeric.exact (cfg 2) [cfg 3] _).mpr
  · decide
  · intro c hc
    rw [List.mem_singleton.mp hc]
    rfl

/-- A plugin without a name is looked for in a channel without plugins. -/
theorem plugin_write_back_chain_outside :
    DeviceChannel.updatePluginCfg Numeric.exact
      (.ok (PluginCfg.toJson (OrderedMap.empty.insert "" OrderedMap.empty))) []
        = .error .plugins [] := by
  rfl

end Libov
