/-
# The ids of channels

`get_stage_dev` makes the id of a channel of the label and the number of its device and of the
name of the channel, or of a counter where there is no name.  The ids are looked up all over the
session, so they have to be distinct in it.

* `getStageDev_ids` : the ids of a device, from what its description says;
* `channel_ids_distinct_iff` : when the ids of all devices are distinct.
-/
import Libov.ClientConfig
import Libov.SeparatedWords

open Programs SeparatedWords

namespace Libov

/-! ## The ids of a device -/

/-- The last parts of the ids: the name of a channel, or the next number of the counter. -/
def channelTags : ℕ → List String → List String
  | _, [] => []
  | chcnt, name :: names =>
      if name = "" then ("c" ++ toString chcnt) :: channelTags (chcnt + 1) names
      else name :: channelTags chcnt names

theorem channelTags_cons (chcnt : ℕ) (name : String) (names : List String) :
    channelTags chcnt (name :: names)
      = if name = "" then ("c" ++ toString chcnt) :: channelTags (chcnt + 1) names
        else name :: channelTags chcnt names := rfl

/-- What a description says about the ids of its channels. -/
structure GivenNames where
  /-- The number of the device. -/
  id : StageDeviceId
  /-- Its label. -/
  label : String
  /-- The names of its channels, empty where there is none. -/
  names : List String

/-- The number, the label and the names in a device description. -/
def givenNames (num : Numeric) (dev : Json) : Except ErrMsg GivenNames := do
  let id : Int32 ← myJsValue num dev "id" (-1)
  let label ← myJsValue num dev "label" ""
  let channels ← subscript dev "channels"
  let names ← (channels.array?.getD []).mapM fun ch => myJsValue num ch "name" ""
  return ⟨UInt8.ofInt id.toInt, label, names⟩

/-- The part that the ids of a device have in common. -/
def channelStem (label : String) (id : StageDeviceId) : String := label ++ "_" ++ toString id.toNat

/-- The last parts of the ids of a device. -/
def GivenNames.tags (g : GivenNames) : List String := channelTags 0 g.names

/-- The ids of the channels of a device. -/
def GivenNames.channelIds (g : GivenNames) : List String :=
  g.tags.map fun tag => channelStem g.label g.id ++ "_" ++ tag

section Reading

variable {num : Numeric} {label : String} {id : StageDeviceId}

/-- A turn of the loop over the channels: the channel behind it, and the counter. -/
theorem readChannel_spec {st st' : ℕ × List DeviceChannel} {ch : Json}
    (h : readChannel num label id st ch = .ok st') :
    ∃ c : DeviceChannel, st'.2 = st.2 ++ [c] ∧ myJsValue num ch "name" "" = .ok c.name ∧
      [c.id] = (channelTags st.1 [c.name]).map (fun tag => channelStem label id ++ "_" ++ tag) ∧
      st'.1 = if c.name = "" then st.1 + 1 else st.1 := by
  unfold readChannel at h
  simp only [exceptBind_eq_ok] at h
  obtain ⟨name, hname, sourceport, -, gain, -, jspos, -, position, -, h⟩ := h
  obtain ⟨directivity, -, jsplug, -, plugins, -, h⟩ := h
  cases h
  refine ⟨_, rfl, hname, ?_, rfl⟩
  unfold channelTags channelStem
  dsimp only
  split_ifs
  · have hc : "_c" = "_" ++ "c" := rfl
    show [label ++ "_" ++ toString id.toNat ++ "_c" ++ toString st.1]
      = [label ++ "_" ++ toString id.toNat ++ "_" ++ ("c" ++ toString st.1)]
    rw [hc, ← String.append_assoc, ← String.append_assoc]
  · rfl

/-- The whole loop. -/
theorem readChannels_spec {chs : List Json} {st st' : ℕ × List DeviceChannel}
    (h : chs.foldlM (readChannel num label id) st = .ok st') :
    ∃ new : List DeviceChannel, st'.2 = st.2 ++ new ∧
      chs.mapM (fun ch => myJsValue num ch "name" "") = .ok (new.map DeviceChannel.name) ∧
      new.map DeviceChannel.id = (channelTags st.1 (new.map DeviceChannel.name)).map fun tag =>
        channelStem label id ++ "_" ++ tag := by
  induction chs generalizing st with
  | nil =>
      cases h
      exact ⟨[], (List.append_nil _).symm, rfl, rfl⟩
  | cons ch chs ih =>
      rw [List.foldlM_cons, exceptBind_eq_ok] at h
      obtain ⟨st₁, hone, hrest⟩ := h
      obtain ⟨c, hc, hname, hid, hcnt⟩ := readChannel_spec hone
      obtain ⟨new, hnew, hnames, hids⟩ := ih hrest
      refine ⟨c :: new, ?_, ?_, ?_⟩
      · rw [hnew, hc, List.append_assoc]
        rfl
      · rw [List.mapM_cons, hname, hnames]
        rfl
      · rw [List.map_cons, List.map_cons, hids, hcnt]
        rw [channelTags_cons] at hid ⊢
        split_ifs at hid ⊢ with hempty
        · rw [List.map_cons, (List.cons.inj hid).1]
        · rw [List.map_cons, (List.cons.inj hid).1]

/-- The ids of a device are made of what its description says. -/
theorem getStageDev_ids {dev : Json} {d : StageDevice} (h : getStageDev num dev = .ok d) :
    ∃ g, givenNames num dev = .ok g ∧ g.id = d.id ∧
      d.channels.map DeviceChannel.id = g.channelIds := by
  have hread : readStageDev num dev = .ok d := by
    unfold getStageDev at h
    cases hdev : readStageDev num dev with
    | ok d' =>
        rw [hdev] at h
        exact h
    | error e =>
        rw [hdev] at h
        cases h
  unfold readStageDev at hread
  simp only [exceptBind_eq_ok] at hread
  obtain ⟨id, hid, uid, -, label, hlabel, hread⟩ := hread
  obtain ⟨receivedownmix, -, senddownmix, -, nozita, -, hiresping, -, hread⟩ := hread
  obtain ⟨channels, hchannels, loop, hloop, hread⟩ := hread
  obtain ⟨jspos, -, position, -, jsorient, -, orientation, -, gain, -, mute, -, hread⟩ := hread
  obtain ⟨jitter, -, receiverjitter, -, senderjitter, -, sendlocal, -, hread⟩ := hread
  cases hread
  obtain ⟨new, hnew, hnames, hids⟩ := readChannels_spec hloop
  rw [List.nil_append] at hnew
  refine ⟨⟨UInt8.ofInt id.toInt, label, new.map DeviceChannel.name⟩, ?_, rfl, ?_⟩
  · unfold givenNames
    rw [hid, hlabel, hchannels]
    show (do
      let names ← (channels.array?.getD []).mapM fun ch => myJsValue num ch "name" ""
      return (⟨UInt8.ofInt id.toInt, label, names⟩ : GivenNames)) = _
    rw [hnames]
    rfl
  · show loop.2.map DeviceChannel.id = _
    rw [hnew]
    exact hids

/-- The ids of all devices are made of what their descriptions say. -/
theorem getStageDevs_ids {devs : List Json} {sdevs : List StageDevice}
    (h : devs.mapM (getStageDev num) = .ok sdevs) :
    ∃ given, devs.mapM (givenNames num) = .ok given ∧
      given.map GivenNames.id = sdevs.map StageDevice.id ∧
      (sdevs.flatMap fun d => d.channels.map DeviceChannel.id)
        = given.flatMap GivenNames.channelIds := by
  induction devs generalizing sdevs with
  | nil =>
      cases h
      exact ⟨[], rfl, rfl, rfl⟩
  | cons dev devs ih =>
      rw [List.mapM_cons, exceptBind_eq_ok] at h
      obtain ⟨d, hd, h⟩ := h
      rw [exceptBind_eq_ok] at h
      obtain ⟨rest, hrest, h⟩ := h
      cases h
      obtain ⟨g, hg, hid, hids⟩ := getStageDev_ids hd
      obtain ⟨given, hgiven, hidsRest, hflat⟩ := ih hrest
      refine ⟨g :: given, ?_, ?_, ?_⟩
      · rw [List.mapM_cons, hg, hgiven]
        rfl
      · rw [List.map_cons, List.map_cons, hid, hidsRest]
      · rw [List.flatMap_cons, List.flatMap_cons, hids, hflat]

end Reading

/-! ## Distinct ids in a device -/

/-- A tag is a name or one of the numbers of the unnamed channels. -/
theorem mem_channelTags {chcnt : ℕ} {names : List String} {tag : String} :
    tag ∈ channelTags chcnt names ↔ (tag ∈ names ∧ tag ≠ "") ∨
      ∃ k, chcnt ≤ k ∧ k < chcnt + names.count "" ∧ tag = "c" ++ toString k := by
  induction names generalizing chcnt with
  | nil =>
      unfold channelTags
      simp only [List.not_mem_nil, false_and, false_or, List.count_nil, false_iff]
      rintro ⟨k, hle, hlt, -⟩
      omega
  | cons name names ih =>
      rw [channelTags_cons]
      by_cases hempty : name = ""
      · subst hempty
        rw [if_pos rfl, List.mem_cons, ih, List.count_cons_self]
        constructor
        · rintro (htag | ⟨htag, hne⟩ | ⟨k, hle, hlt, htag⟩)
          · exact Or.inr ⟨chcnt, le_rfl, by omega, htag⟩
          · exact Or.inl ⟨List.mem_cons_of_mem _ htag, hne⟩
          · exact Or.inr ⟨k, by omega, by omega, htag⟩
        · rintro (⟨htag, hne⟩ | ⟨k, hle, hlt, htag⟩)
          · exact Or.inr (Or.inl ⟨(List.mem_cons.mp htag).resolve_left hne, hne⟩)
          · rcases hle.eq_or_lt with rfl | hlt'
            · exact Or.inl htag
            · exact Or.inr (Or.inr ⟨k, hlt', by omega, htag⟩)
      · rw [if_neg hempty, List.mem_cons, ih, List.count_cons_of_ne hempty, List.mem_cons]
        constructor
        · rintro (rfl | ⟨htag, hne⟩ | hnumber)
          · exact Or.inl ⟨Or.inl rfl, hempty⟩
          · exact Or.inl ⟨Or.inr htag, hne⟩
          · exact Or.inr hnumber
        · rintro (⟨rfl | htag, hne⟩ | hnumber)
          · exact Or.inl rfl
          · exact Or.inr (Or.inl ⟨htag, hne⟩)
          · exact Or.inr (Or.inr hnumber)

theorem counterTag_injective {k k' : ℕ} (h : "c" ++ toString k = "c" ++ toString k') : k = k' :=
  Nat.repr_injective ((String.append_right_inj "c").mp h)

/-- The tags are distinct exactly if the given names are, and none of them is the tag of an
unnamed channel. -/
theorem nodup_channelTags_iff {chcnt : ℕ} {names : List String} :
    (channelTags chcnt names).Nodup ↔ (names.filter fun name => name ≠ "").Nodup ∧
      ∀ k, chcnt ≤ k → k < chcnt + names.count "" → "c" ++ toString k ∉ names := by
  induction names generalizing chcnt with
  | nil => exact iff_of_true List.nodup_nil ⟨List.nodup_nil, fun _ _ _ => List.not_mem_nil⟩
  | cons name names ih =>
      rw [channelTags_cons]
      by_cases hempty : name = ""
      · subst hempty
        have hne : ∀ k : ℕ, "c" ++ toString k ≠ "" := fun k h => by
          have hlen := congrArg String.length h
          rw [String.length_append] at hlen
          exact absurd (Nat.add_eq_zero_iff.mp hlen).1 (by decide)
        rw [if_pos rfl, List.nodup_cons, mem_channelTags, ih, List.count_cons_self,
          List.filter_cons_of_neg (by simp)]
        constructor
        · rintro ⟨hfirst, hnodup, hrest⟩
          refine ⟨hnodup, fun k hle hlt hmem => ?_⟩
          have htail := (List.mem_cons.mp hmem).resolve_left (hne k)
          rcases hle.eq_or_lt with rfl | hlt'
          · exact hfirst (Or.inl ⟨htail, hne _⟩)
          · exact hrest k hlt' (by omega) htail
        · rintro ⟨hnodup, hrest⟩
          refine ⟨?_, hnodup, fun k hle hlt hmem =>
            hrest k (by omega) (by omega) (List.mem_cons_of_mem _ hmem)⟩
          rintro (⟨hmem, -⟩ | ⟨k, hle, -, htag⟩)
          · exact hrest chcnt le_rfl (by omega) (List.mem_cons_of_mem _ hmem)
          · have := counterTag_injective htag
            omega
      · rw [if_neg hempty, List.nodup_cons, mem_channelTags, ih, List.count_cons_of_ne hempty,
          List.filter_cons_of_pos (by simpa using hempty), List.nodup_cons]
        constructor
        · rintro ⟨hfirst, hnodup, hrest⟩
          refine ⟨⟨fun hmem => hfirst (Or.inl ⟨List.mem_of_mem_filter hmem, hempty⟩), hnodup⟩,
            fun k hle hlt hmem => ?_⟩
          rcases List.mem_cons.mp hmem with hname | htail
          · exact hfirst (Or.inr ⟨k, hle, hlt, hname.symm⟩)
          · exact hrest k hle hlt htail
        · rintro ⟨⟨hfirst, hnodup⟩, hrest⟩
          refine ⟨?_, hnodup, fun k hle hlt hmem => hrest k hle hlt (List.mem_cons_of_mem _ hmem)⟩
          rintro (⟨hmem, -⟩ | ⟨k, hle, hlt, hname⟩)
          · exact hfirst (List.mem_filter.mpr ⟨hmem, by simpa using hempty⟩)
          · exact hrest k hle hlt (hname ▸ List.mem_cons_self)

/-! ## Distinct ids of several devices -/

/-- The given names of a device are distinct, and none of them is the tag of an unnamed channel. -/
def GivenNames.Apart (g : GivenNames) : Prop :=
  (g.names.filter fun name => name ≠ "").Nodup ∧
    ∀ k < g.names.count "", "c" ++ toString k ∉ g.names

/-- The label of the second device goes on where the ids of the first one do, and a name of the
first one is what is left of an id of the second one. -/
def GivenNames.Shadows (g g' : GivenNames) : Prop :=
  ∃ v, g'.label ++ "_" = channelStem g.label g.id ++ "_" ++ v ∧
    ∃ tag ∈ g'.tags, v ++ toString g'.id.toNat ++ "_" ++ tag ∈ g.names

/-- The names and labels in a list of device descriptions do not meet. -/
def NamesApart (num : Numeric) (devs : List Json) : Prop :=
  ∀ given, devs.mapM (givenNames num) = .ok given →
    (∀ g ∈ given, g.Apart) ∧ ∀ g ∈ given, ∀ g' ∈ given, ¬ g.Shadows g'

theorem toList_channelId (label : String) (id : StageDeviceId) (tag : String) :
    (channelStem label id ++ "_" ++ tag).toList
      = joined '_' label.toList (toString id.toNat).toList tag.toList := by
  simp [channelStem, joined]

theorem underscore_notMem_number (n : ℕ) : '_' ∉ (toString n).toList := by
  show '_' ∉ n.repr.toList
  rw [Nat.toList_repr]
  exact Nat.underscore_not_in_toDigits

theorem number_eq_iff {id id' : StageDeviceId} :
    toString id.toNat = toString id'.toNat ↔ id = id' := by
  constructor
  · intro h
    exact UInt8.toNat_inj.mp (Nat.repr_injective h)
  · rintro rfl
    rfl

/-- The way a label reaches over the stem of another device, on strings and on lists. -/
theorem reaches_toList_iff {label label' : String} {id id' : StageDeviceId} {tag tag' : String} :
    (∃ v, label'.toList ++ ['_'] = joined '_' label.toList (toString id.toNat).toList v ∧
      tag.toList = v ++ (toString id'.toNat).toList ++ '_' :: tag'.toList) ↔
    ∃ v, label' ++ "_" = channelStem label id ++ "_" ++ v ∧
      tag = v ++ toString id'.toNat ++ "_" ++ tag' := by
  constructor
  · rintro ⟨v, hlabel, htag⟩
    refine ⟨String.ofList v, String.toList_inj.mp ?_, String.toList_inj.mp ?_⟩
    · rw [toList_channelId, String.toList_append, String.toList_ofList (l := v)]
      exact hlabel
    · rw [htag]
      simp
  · rintro ⟨v, hlabel, htag⟩
    refine ⟨v.toList, ?_, ?_⟩
    · rw [← toList_channelId, ← hlabel, String.toList_append]
      rfl
    · rw [htag]
      simp

/-- Two ids are equal exactly if their parts are, or if the label of one of them reaches over the
stem of the other one. -/
theorem channelId_eq_iff {label label' : String} {id id' : StageDeviceId} {tag tag' : String} :
    channelStem label id ++ "_" ++ tag = channelStem label' id' ++ "_" ++ tag' ↔
      (label = label' ∧ id = id' ∧ tag = tag') ∨
      (∃ v, label' ++ "_" = channelStem label id ++ "_" ++ v ∧
        tag = v ++ toString id'.toNat ++ "_" ++ tag') ∨
      ∃ v, label ++ "_" = channelStem label' id' ++ "_" ++ v ∧
        tag' = v ++ toString id.toNat ++ "_" ++ tag := by
  rw [← String.toList_inj, toList_channelId, toList_channelId,
    joined_eq_iff (underscore_notMem_number _) (underscore_notMem_number _), String.toList_inj,
    String.toList_inj, String.toList_inj, number_eq_iff, reaches_toList_iff, reaches_toList_iff]

/-- A tag with a separator in it is one of the given names. -/
theorem mem_tags_of_underscore {g : GivenNames} {u w : String} :
    u ++ "_" ++ w ∈ g.tags ↔ u ++ "_" ++ w ∈ g.names := by
  have hmem : '_' ∈ (u ++ "_" ++ w).toList := by simp
  unfold GivenNames.tags
  rw [mem_channelTags]
  constructor
  · rintro (⟨hname, -⟩ | ⟨k, -, -, htag⟩)
    · exact hname
    · rw [htag, String.toList_append, List.mem_append] at hmem
      rcases hmem with hc | hk
      · exact absurd hc (by decide)
      · exact absurd hk (underscore_notMem_number k)
  · intro hname
    refine Or.inl ⟨hname, fun hempty => ?_⟩
    rw [hempty] at hmem
    exact absurd hmem (by decide)

/-- Devices with different numbers have an id in common exactly if one shadows the other. -/
theorem disjoint_channelIds_iff {g g' : GivenNames} (hid : g.id ≠ g'.id) :
    List.Disjoint g.channelIds g'.channelIds ↔ ¬ g.Shadows g' ∧ ¬ g'.Shadows g := by
  constructor
  · intro h
    constructor
    · rintro ⟨v, hlabel, tag', htag', hname⟩
      refine h (List.mem_map.mpr ⟨_, mem_tags_of_underscore.mpr hname, rfl⟩)
        (List.mem_map.mpr ⟨tag', htag', ?_⟩)
      exact (channelId_eq_iff.mpr (Or.inr (Or.inl ⟨v, hlabel, rfl⟩))).symm
    · rintro ⟨v, hlabel, tag, htag, hname⟩
      refine h (List.mem_map.mpr ⟨tag, htag, rfl⟩)
        (List.mem_map.mpr ⟨_, mem_tags_of_underscore.mpr hname, ?_⟩)
      exact channelId_eq_iff.mpr (Or.inr (Or.inl ⟨v, hlabel, rfl⟩))
  · rintro ⟨hno, hno'⟩ chid hmem hmem'
    obtain ⟨tag, htag, rfl⟩ := List.mem_map.mp hmem
    obtain ⟨tag', htag', heq⟩ := List.mem_map.mp hmem'
    rcases channelId_eq_iff.mp heq with ⟨-, heqid, -⟩ | ⟨v, hlabel, rfl⟩ | ⟨v, hlabel, rfl⟩
    · exact hid heqid.symm
    · exact hno' ⟨v, hlabel, tag, htag, mem_tags_of_underscore.mp htag'⟩
    · exact hno ⟨v, hlabel, tag', htag', mem_tags_of_underscore.mp htag⟩

/-- No label reaches over the stem of its own device. -/
theorem not_shadows_self (g : GivenNames) : ¬ g.Shadows g := by
  rintro ⟨v, hlabel, -⟩
  have hlen := congrArg String.length hlabel
  unfold channelStem at hlen
  simp only [String.length_append] at hlen
  have : "_".length = 1 := rfl
  omega

theorem nodup_channelIds_iff {g : GivenNames} : g.channelIds.Nodup ↔ g.Apart := by
  have hinj : Function.Injective fun tag => channelStem g.label g.id ++ "_" ++ tag :=
    fun _ _ h => (String.append_right_inj _).mp h
  unfold GivenNames.channelIds GivenNames.Apart GivenNames.tags
  rw [List.nodup_map_iff hinj, nodup_channelTags_iff, Nat.zero_add]
  refine and_congr_right fun _ => forall_congr' fun k => ?_
  exact ⟨fun h => h (Nat.zero_le k), fun h _ => h⟩

/-- The ids of devices with different numbers are distinct exactly if the names of each device are
apart and no device shadows another one. -/
theorem nodup_flatMap_channelIds_iff {given : List GivenNames}
    (hid : (given.map GivenNames.id).Nodup) :
    (given.flatMap GivenNames.channelIds).Nodup ↔
      (∀ g ∈ given, g.Apart) ∧ ∀ g ∈ given, ∀ g' ∈ given, ¬ g.Shadows g' := by
  have hdistinct : given.Pairwise fun g g' => g.id ≠ g'.id := List.pairwise_map.mp hid
  rw [List.nodup_flatMap]
  refine and_congr (forall₂_congr fun g _ => nodup_channelIds_iff) ?_
  have hpair : given.Pairwise (Function.onFun List.Disjoint GivenNames.channelIds) ↔
      given.Pairwise fun g g' => ¬ g.Shadows g' ∧ ¬ g'.Shadows g := by
    constructor
    · intro h
      exact (hdistinct.and h).imp fun ⟨hne, hdisj⟩ => (disjoint_channelIds_iff hne).mp hdisj
    · intro h
      exact (hdistinct.and h).imp fun ⟨hne, hno⟩ => (disjoint_channelIds_iff hne).mpr hno
  rw [hpair]
  constructor
  · intro h g hg g' hg'
    have : Std.Symm fun g g' : GivenNames => ¬ g.Shadows g' ∧ ¬ g'.Shadows g :=
      ⟨fun _ _ hno => ⟨hno.2, hno.1⟩⟩
    by_cases hsame : g = g'
    · rw [← hsame]
      exact not_shadows_self g
    · exact (h.forall hg hg' hsame).1
  · intro h
    exact List.pairwise_of_forall_mem_list fun g hg g' hg' => ⟨h g hg g' hg', h g' hg' g hg⟩

/-- The channel ids of parsed devices with different numbers are distinct exactly if the names and
labels in the descriptions do not meet. -/
theorem channel_ids_distinct_iff (num : Numeric) (devs : List Json) (sdevs : List StageDevice)
    (hread : devs.mapM (getStageDev num) = .ok sdevs) (hid : (sdevs.map StageDevice.id).Nodup) :
    (sdevs.flatMap fun d => d.channels.map DeviceChannel.id).Nodup ↔ NamesApart num devs := by
  obtain ⟨given, hgiven, hids, hflat⟩ := getStageDevs_ids hread
  rw [hflat, nodup_flatMap_channelIds_iff (hids ▸ hid)]
  unfold NamesApart
  rw [hgiven]
  constructor
  · rintro h _ ⟨⟩
    exact h
  · intro h
    exact h given rfl

/-- A device description with a number, a label and channels. -/
def deviceJson (id : ℤ) (label : String) (channels : List Json) : Json :=
  .obj [("channels", .arr channels), ("id", .int id), ("label", .str label)]

/-- The description of a channel with a name. -/
def channelJson (name : String) : Json := .obj [("name", .str name)]

/-- A violin with a second microphone that has no name, and a voice. -/
theorem channel_ids_distinct_duet :
    ∃ sdevs, [deviceJson 0 "violin" [channelJson "close", .obj []],
        deviceJson 1 "voice" [channelJson "close"]].mapM (getStageDev Numeric.exact) = .ok sdevs ∧
      (sdevs.map StageDevice.id).Nodup ∧
      ((sdevs.flatMap fun d => d.channels.map DeviceChannel.id).Nodup ↔
        NamesApart Numeric.exact [deviceJson 0 "violin" [channelJson "close", .obj []],
          deviceJson 1 "voice" [channelJson "close"]]) :=
  ⟨_, rfl, by decide, channel_ids_distinct_iff Numeric.exact
    [deviceJson 0 "violin" [channelJson "close", .obj []],
      deviceJson 1 "voice" [channelJson "close"]] _ rfl (by decide)⟩

/-- A channel named like the first unnamed one has the same id, and so has a channel of another
device whose label goes on like the stem of the first one. -/
theorem channel_ids_clash :
    (∃ sdevs, [deviceJson 0 "violin" [channelJson "c0", .obj []]].mapM
        (getStageDev Numeric.exact) = .ok sdevs ∧
      (sdevs.map StageDevice.id).Nodup ∧
      ¬ (sdevs.flatMap fun d => d.channels.map DeviceChannel.id).Nodup) ∧
    ∃ sdevs, [deviceJson 0 "violin" [channelJson "1_close"],
        deviceJson 1 "violin_0" [channelJson "close"]].mapM
          (getStageDev Numeric.exact) = .ok sdevs ∧
      (sdevs.map StageDevice.id).Nodup ∧
      ¬ (sdevs.flatMap fun d => d.channels.map DeviceChannel.id).Nodup :=
  ⟨⟨_, rfl, by decide, by decide⟩, _, rfl, by decide, by decide⟩

end Libov
