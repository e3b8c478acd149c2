/-
# Devices with generated channel ids

The comparisons of `ov_types.cc` do not look at the ids of the channels.  They need not: the ids
that `get_stage_dev` generates are determined by the number and the label of the device and by
the names of its channels, which are compared.

* `Named` : the ids of a device are generated ones;
* `named_getStageDev`, `namedStage_readStage` : those of a configuration are;
* `StageDevice.ne_eq_false_iff`, `stageMapNe_eq_false_iff` : for such devices and stages the
  comparisons find every difference.
-/
import Libov.ChannelIds

open Programs

namespace OrderedMap

variable {κ ν : Type} [LinearOrder κ]

omit [LinearOrder κ] in
/-- What stands at the same place of two lists. -/
theorem mem_zip_getElem {as : List κ} {bs : List ν} {k : ℕ} (ha : k < as.length)
    (hb : k < bs.length) : (as[k], bs[k]) ∈ as.zip bs :=
  List.mem_iff_getElem.mpr ⟨k, by rw [List.length_zip]; exact lt_min ha hb, List.getElem_zip⟩

/-- Maps that do not differ are the same, if the comparison of the values is exact on them. -/
theorem eq_of_ne_eq_false {neq : ν → ν → Bool} {a b : OrderedMap κ ν}
    (h : ∀ e ∈ a.entries, ∀ f ∈ b.entries, neq e.2 f.2 = false → e.2 = f.2)
    (hne : ne neq a b = false) : a = b := by
  unfold ne size at hne
  rw [Bool.or_eq_false_iff, bne_eq_false_iff_eq, List.any_eq_false] at hne
  obtain ⟨hlen, hall⟩ := hne
  refine OrderedMap.ext (List.ext_getElem hlen ?_)
  intro k hka hkb
  have hsame := hall _ (mem_zip_getElem hka hkb)
  rw [Bool.not_eq_true, Bool.or_eq_false_iff, bne_eq_false_iff_eq] at hsame
  exact Prod.ext hsame.1 (h _ (List.getElem_mem _) _ (List.getElem_mem _) hsame.2)

/-- Accesses by key do not change what accesses by key read. -/
theorem getD_find?_touch [BEq κ] [LawfulBEq κ] (m : OrderedMap κ ν) (k k' : κ) (d : ν) :
    ((m.touch k d).find? k').getD d = (m.find? k').getD d := by
  by_cases hk : k' = k
  · rw [hk, find?_touch]
    rfl
  · unfold touch
    split_ifs
    · rfl
    · rw [find?_insert, if_neg hk]

theorem contains_touch_self [BEq κ] [LawfulBEq κ] (m : OrderedMap κ ν) (k : κ) (d : ν) :
    (m.touch k d).contains k = true := by
  unfold contains
  rw [find?_touch]
  rfl

/-- A key that has an entry keeps it. -/
theorem contains_touch [BEq κ] [LawfulBEq κ] {m : OrderedMap κ ν} {k' : κ}
    (h : m.contains k' = true) (k : κ) (d : ν) : (m.touch k d).contains k' = true := by
  by_cases hk : k' = k
  · rw [hk]
    exact contains_touch_self m k d
  · unfold touch
    split_ifs
    · exact h
    · unfold contains
      rw [find?_insert, if_neg hk]
      exact h

/-- What holds of all values holds of them behind an assignment. -/
theorem forall_mem_insert {m : OrderedMap κ ν} {P : ν → Prop} {k : κ} {v : ν}
    (h : ∀ e ∈ m.entries, P e.2) (hv : P v) : ∀ e ∈ (m.insert k v).entries, P e.2 := by
  intro e he
  rcases mem_insertEntry he with rfl | he
  · exact hv
  · exact h e he

/-- What holds of all values holds of them behind an access by key. -/
theorem forall_mem_touch {m : OrderedMap κ ν} {P : ν → Prop} {k : κ} {d : ν}
    (h : ∀ e ∈ m.entries, P e.2) (hd : P d) : ∀ e ∈ (m.touch k d).entries, P e.2 := by
  unfold touch
  split_ifs
  · exact h
  · exact forall_mem_insert h hd

/-- What holds of all values holds of those that are left. -/
theorem forall_mem_erase {m : OrderedMap κ ν} {P : ν → Prop} {k : κ}
    (h : ∀ e ∈ m.entries, P e.2) : ∀ e ∈ (m.erase k).entries, P e.2 :=
  fun e he => h e (List.mem_of_mem_filter he)

end OrderedMap

namespace Libov

/-! ## Generated ids -/

/-- The ids of the channels are the ones generated for this device. -/
def StageDevice.Named (d : StageDevice) : Prop :=
  d.channels.map DeviceChannel.id
    = GivenNames.channelIds ⟨d.id, d.label, d.channels.map DeviceChannel.name⟩

/-- All devices on a stage have generated ids. -/
def NamedStage (s : StageMap) : Prop := ∀ e ∈ s.entries, e.2.Named

instance (d : StageDevice) : Decidable d.Named := inferInstanceAs (Decidable (_ = _))

instance (s : StageMap) : Decidable (NamedStage s) :=
  inferInstanceAs (Decidable (∀ e ∈ s.entries, e.2.Named))

/-- A device without channels. -/
theorem named_of_no_channels {d : StageDevice} (h : d.channels = []) : d.Named := by
  unfold StageDevice.Named
  rw [h]
  rfl

theorem namedStage_empty : NamedStage OrderedMap.empty := fun _ he => absurd he List.not_mem_nil

section Reading

variable {num : Numeric}

/-- A device that has been read from a configuration. -/
theorem named_getStageDev {dev : Json} {d : StageDevice} (h : getStageDev num dev = .ok d) :
    d.Named := by
  have hread : readStageDev num dev = .ok d := by
    unfold getStageDev at h
    cases hdev : readStageDev num dev with
    | ok d' =>
        rw [hdev] at h
        exact h
    | error e =>
        rw [hdev] at h
        cases h
  unfold readStageDev at hread
  simp only [exceptBind_eq_ok] at hread
  obtain ⟨id, -, uid, -, label, -, receivedownmix, -, senddownmix, -, nozita, -, hread⟩ := hread
  obtain ⟨hiresping, -, channels, -, loop, hloop, hread⟩ := hread
  obtain ⟨jspos, -, position, -, jsorient, -, orientation, -, gain, -, mute, -, hread⟩ := hread
  obtain ⟨jitter, -, receiverjitter, -, senderjitter, -, sendlocal, -, hread⟩ := hread
  cases hread
  obtain ⟨new, hnew, -, hids⟩ := readChannels_spec hloop
  rw [List.nil_append] at hnew
  show loop.2.map DeviceChannel.id = GivenNames.channelIds ⟨_, _, loop.2.map DeviceChannel.name⟩
  rw [hnew]
  exact hids

/-- A stage that has been read from a configuration. -/
theorem namedStage_readStage {devs : List Json} {s : StageMap} (h : readStage num devs = .ok s) :
    NamedStage s := by
  have hloop : ∀ (devs : List Json) (s₀ s : StageMap), NamedStage s₀ →
      devs.foldlM (fun stage dev => do
        let sdev ← getStageDev num dev
        return stage.insert sdev.id sdev) s₀ = (.ok s : Except ErrMsg StageMap) →
      NamedStage s := by
    intro devs
    induction devs with
    | nil =>
        intro s₀ s hs h
        cases h
        exact hs
    | cons dev devs ih =>
        intro s₀ s hs h
        rw [List.foldlM_cons, exceptBind_eq_ok] at h
        obtain ⟨s₁, hone, hrest⟩ := h
        rw [exceptBind_eq_ok] at hone
        obtain ⟨sdev, hdev, hone⟩ := hone
        cases hone
        exact ih _ _ (OrderedMap.forall_mem_insert hs (named_getStageDev hdev)) hrest
  exact hloop devs _ s namedStage_empty h

end Reading

/-! ## Exact comparisons -/

theorem ChannelPlugin.eq_iff {a b : ChannelPlugin} : a.eq b = true ↔ a = b := by
  cases a
  cases b
  simp only [ChannelPlugin.eq, Bool.and_eq_true, beq_iff_eq, ChannelPlugin.mk.injEq]

/-- Two lists of plugins that do not differ. -/
theorem plugins_eq {as bs : List ChannelPlugin}
    (h : (as.length == bs.length && (as.zip bs).all fun p => p.1.eq p.2) = true) : as = bs := by
  rw [Bool.and_eq_true, beq_iff_eq, List.all_eq_true] at h
  obtain ⟨hlen, hall⟩ := h
  refine List.ext_getElem hlen ?_
  intro k hka hkb
  exact ChannelPlugin.eq_iff.mp (hall _ (OrderedMap.mem_zip_getElem hka hkb))

/-- Channels that do not differ are the same, except for their ids. -/
theorem DeviceChannel.eq_of_ne_eq_false {a b : DeviceChannel} (hid : a.id = b.id)
    (h : a.ne b = false) : a = b := by
  unfold DeviceChannel.ne at h
  simp only [Bool.or_eq_false_iff, bne_eq_false_iff_eq, Bool.not_eq_false'] at h
  obtain ⟨⟨⟨⟨⟨hport, hgain⟩, hpos⟩, hdir⟩, hname⟩, hplug⟩ := h
  have hplugins := plugins_eq hplug
  cases a
  cases b
  simp only at hid hport hgain hpos hdir hname hplugins
  rw [hid, hport, hgain, hpos, hdir, hname, hplugins]

/-- What the comparison of channels says of each of them. -/
theorem channelsNe_getElem {as bs : List DeviceChannel} (h : channelsNe as bs = false) :
    as.length = bs.length ∧ ∀ k (ha : k < as.length) (hb : k < bs.length),
      as[k].ne bs[k] = false := by
  unfold channelsNe at h
  rw [Bool.or_eq_false_iff, bne_eq_false_iff_eq, List.any_eq_false] at h
  refine ⟨h.1, fun k ha hb => ?_⟩
  exact Bool.not_eq_true _ ▸ h.2 _ (OrderedMap.mem_zip_getElem ha hb)

theorem DeviceChannel.name_eq_of_ne {a b : DeviceChannel} (h : a.ne b = false) :
    a.name = b.name := by
  unfold DeviceChannel.ne at h
  simp only [Bool.or_eq_false_iff, bne_eq_false_iff_eq] at h
  exact h.1.2

/-- The comparison of devices with generated ids is exact. -/
theorem StageDevice.ne_eq_false_iff {a b : StageDevice} (ha : a.Named) (hb : b.Named) :
    a.ne b = false ↔ a = b := by
  constructor
  · intro h
    unfold StageDevice.ne at h
    simp only [Bool.or_eq_false_iff, bne_eq_false_iff_eq, and_assoc] at h
    obtain ⟨hid, huid, hlabel, hchannels, hrest⟩ := h
    obtain ⟨hlen, hne⟩ := channelsNe_getElem hchannels
    -- the names are the same, and with them the ids
    have hnames : a.channels.map DeviceChannel.name = b.channels.map DeviceChannel.name := by
      refine List.ext_getElem (by rw [List.length_map, List.length_map, hlen]) ?_
      intro k hka hkb
      rw [List.getElem_map, List.getElem_map]
      exact DeviceChannel.name_eq_of_ne (hne k _ _)
    have hids : a.channels.map DeviceChannel.id = b.channels.map DeviceChannel.id := by
      unfold StageDevice.Named at ha hb
      rw [ha, hb, hid, hlabel, hnames]
    have hsame : a.channels = b.channels := by
      refine List.ext_getElem hlen ?_
      intro k hka hkb
      refine DeviceChannel.eq_of_ne_eq_false ?_ (hne k hka hkb)
      have hk : (a.channels.map DeviceChannel.id)[k]? = (b.channels.map DeviceChannel.id)[k]? := by
        rw [hids]
      rw [List.getElem?_map, List.getElem?_map, List.getElem?_eq_getElem hka,
        List.getElem?_eq_getElem hkb, Option.map_some, Option.map_some, Option.some.injEq] at hk
      exact hk
    cases a
    cases b
    simp only at hid huid hlabel hsame hrest
    simp only [hid, huid, hlabel, hsame, hrest]
  · rintro rfl
    exact StageDevice.ne_self a

/-- The comparison of stages whose devices have generated ids is exact. -/
theorem stageMapNe_eq_false_iff {a b : StageMap} (ha : NamedStage a) (hb : NamedStage b) :
    stageMapNe a b = false ↔ a = b := by
  constructor
  · exact OrderedMap.eq_of_ne_eq_false fun e he f hf hne =>
      (StageDevice.ne_eq_false_iff (ha e he) (hb f hf)).mp hne
  · rintro rfl
    exact stageMapNe_self a

end Libov
