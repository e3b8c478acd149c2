/-
# The object mix of a session

`get_objmixcfg_as_json`: names, positions and gains of the own sounds, and the gains of the
reverberation and of the output, put together by hand as a JSON text.  The text is posted to the
server as it is.

* `mixText_toList` : the text, in the parts that the grammar knows;
* `object_mix_described_iff` : when it is a JSON text that describes the sounds.
-/
import Libov.JsonGrammar
import Libov.OvTypes

namespace Libov

open JsonGrammar

/-! ## Numbers -/

/-- A floating-point number. -/
inductive FloatValue where
  | finite (q : ℚ)
  | infinite (negative : Bool)
  | nan

/-- The number has a value. -/
def FloatValue.isFinite : FloatValue → Bool
  | finite _ => true
  | _ => false

/-- Arithmetic and texts of floating-point numbers: finite ones are written as JSON numbers, the
others as `printf` writes them. -/
structure FloatText where
  /-- `TASCAR::to_string` of a `double` that is finite. -/
  toStr : ℚ → String
  /-- `TASCAR::to_string` of a `float`. -/
  toStrF : FloatValue → String
  /-- The quotient of two numbers of type `float`. -/
  quotient : FloatValue → ℚ → FloatValue
  toStr_number (q : ℚ) : Number (toStr q).toList
  toStrF_number (q : ℚ) : Number (toStrF (.finite q)).toList
  toStrF_notFinite {x : FloatValue} (hx : x.isFinite = false) :
    toStrF x ∈ ["inf", "-inf", "nan", "-nan"]

/-! ## The text -/

/-- A sound of a session. -/
structure MixSound where
  /-- `local_position`. -/
  localPosition : Pos
  gain : ℚ

/-- What is looked up in a session. -/
structure MixSession where
  /-- `sound_by_id`, if it does not throw. -/
  soundById : String → Option MixSound
  /-- The gain of the first port that `find_audio_ports` finds, if there is one. -/
  audioPort : String → Option FloatValue

variable (ft : FloatText)

/-- The text of a channel whose sound has been found. -/
def mixChannel (st : Stage) (ch : DeviceChannel) (snd : MixSound) : String :=
  "\x7b" ++ "\"name\":\"" ++ ch.name ++ "\",\"x\":" ++ ft.toStr snd.localPosition.x ++ ",\"y\":" ++
    ft.toStr snd.localPosition.y ++ ",\"z\":" ++ ft.toStr snd.localPosition.z ++ ",\"gain\":" ++
    ft.toStrF (ft.quotient (.finite snd.gain) st.rendersettings.egogain) ++ "\x7d"

/-- The loop over the channels, with the text so far and the number of sounds found. -/
def mixChannels (tascar : MixSession) (st : Stage) :
    List DeviceChannel → String → ℕ → String
  | [], cfg, _ => cfg
  | ch :: chs, cfg, k =>
      match tascar.soundById ch.id with
      | some snd => mixChannels tascar st chs
          (cfg ++ (if k = 0 then "" else ",") ++ mixChannel ft st ch snd) (k + 1)
      | none => mixChannels tascar st chs cfg k

/-- The gain of a port, without the gain of the reverberation in the room. -/
def mixGain (st : Stage) (g : FloatValue) : FloatValue :=
  if st.host.isEmpty then g else ft.quotient g st.rendersettings.reverbgainroom

/-- The member for the gain of a port. -/
def mixPort (tascar : MixSession) (st : Stage) (key pattern : String) : String :=
  match tascar.audioPort pattern with
  | some g => ",\"" ++ key ++ "\":" ++ ft.toStrF (mixGain ft st g)
  | none => ""

/-- `get_objmixcfg_as_json`. -/
def getObjmixcfgAsJson (tascar : Option MixSession) (st : Stage) : String :=
  match tascar with
  | none => "{}"
  | some tascar =>
      mixChannels ft tascar st st.thisdevice.channels "\x7b\"channels\":[" 0 ++ "]" ++
        mixPort ft tascar st "reverbgain" "/main/reverb" ++
        mixPort ft tascar st "main" "/main/main" ++ "\x7d"

/-! ## What it describes -/

/-- The channels whose sounds are found, in their order. -/
def foundChannels (tascar : MixSession) (st : Stage) : List (DeviceChannel × MixSound) :=
  st.thisdevice.channels.filterMap fun ch => (tascar.soundById ch.id).map fun snd => (ch, snd)

/-- An entry of the channels: an object with the name of the channel and numbers. -/
def DescribesChannel (ch : DeviceChannel) (entry : Doc) : Prop :=
  ∃ ms, entry = .obj ms ∧ OnlyValue ms "name".toList (.str ch.name.toList) ∧
    ∀ key ∈ ["x", "y", "z", "gain"], ∃ n, OnlyValue ms key.toList (.num n)

/-- The text is a JSON object, and in a session it has an array of the channels found. -/
def DescribesMix (tascar : Option MixSession) (st : Stage) (text : String) : Prop :=
  ∃ ms, Denotes text.toList (.obj ms) ∧ ∀ s, tascar = some s → ∃ entries,
    OnlyValue ms "channels".toList (.arr entries) ∧
      List.Forall₂ DescribesChannel ((foundChannels s st).map Prod.fst) entries

/-- The names of the channels found have no quotes, backslashes and control characters, and all
numbers are finite. -/
def PlainMix (tascar : MixSession) (st : Stage) : Prop :=
  (∀ p ∈ foundChannels tascar st, (∀ c ∈ p.1.name.toList, isPlain c = true) ∧
    (ft.quotient (.finite p.2.gain) st.rendersettings.egogain).isFinite = true) ∧
  ∀ pattern ∈ ["/main/reverb", "/main/main"], ∀ g, tascar.audioPort pattern = some g →
    (mixGain ft st g).isFinite = true

/-! ## The text in parts -/

section Parts

variable (tascar : MixSession) (st : Stage)

/-- The numbers of a channel. -/
def channelNumbers (p : DeviceChannel × MixSound) : List (List Char × List Char) :=
  [("x".toList, (ft.toStr p.2.localPosition.x).toList),
    ("y".toList, (ft.toStr p.2.localPosition.y).toList),
    ("z".toList, (ft.toStr p.2.localPosition.z).toList),
    ("gain".toList,
      (ft.toStrF (ft.quotient (.finite p.2.gain) st.rendersettings.egogain)).toList)]

/-- The text of an entry. -/
def entryText (p : DeviceChannel × MixSound) : List Char :=
  '{' :: '"' :: ("name".toList ++ '"' :: ':' :: '"' :: (p.1.name.toList ++
    '"' :: numberMembers (channelNumbers ft st p)))

/-- The text of the entries behind the first one. -/
def laterEntries (ps : List (DeviceChannel × MixSound)) : List Char :=
  ps.flatMap fun p => ',' :: entryText ft st p

/-- The text of all entries. -/
def entriesText : List (DeviceChannel × MixSound) → List Char
  | [] => []
  | p :: ps => entryText ft st p ++ laterEntries ft st ps

/-- The number for a port. -/
def portNumber (key pattern : String) : List (List Char × List Char) :=
  ((tascar.audioPort pattern).map fun g =>
    (key.toList, (ft.toStrF (mixGain ft st g)).toList)).toList

/-- The numbers for the ports. -/
def portNumbers : List (List Char × List Char) :=
  portNumber ft tascar st "reverbgain" "/main/reverb" ++
    portNumber ft tascar st "main" "/main/main"

variable {ft tascar st}

theorem mixChannel_toList (ch : DeviceChannel) (snd : MixSound) :
    (mixChannel ft st ch snd).toList = entryText ft st (ch, snd) := by
  simp [mixChannel, entryText, channelNumbers, numberMembers]

/-- The loop puts a comma in front of every entry but the first one. -/
theorem mixChannels_toList (chs : List DeviceChannel) (cfg : String) (k : ℕ) :
    (mixChannels ft tascar st chs cfg k).toList = cfg.toList ++
      (if k = 0 then entriesText ft st else laterEntries ft st)
        (chs.filterMap fun ch => (tascar.soundById ch.id).map fun snd => (ch, snd)) := by
  induction chs generalizing cfg k with
  | nil =>
      rw [mixChannels, List.filterMap_nil]
      split_ifs
      · exact (List.append_nil _).symm
      · exact (List.append_nil _).symm
  | cons ch chs ih =>
      rw [mixChannels, List.filterMap_cons]
      cases hsnd : tascar.soundById ch.id with
      | none => exact ih cfg k
      | some snd =>
          show (mixChannels ft tascar st chs _ (k + 1)).toList = _
          rw [ih, if_neg (Nat.succ_ne_zero k)]
          by_cases hk : k = 0
          · simp [hk, entriesText, mixChannel_toList]
          · simp [hk, laterEntries, mixChannel_toList]

theorem mixPort_toList (key pattern : String) :
    (mixPort ft tascar st key pattern).toList = (portNumber ft tascar st key pattern).flatMap
      fun g => ',' :: '"' :: (g.1 ++ '"' :: ':' :: g.2) := by
  rw [mixPort, portNumber]
  cases tascar.audioPort pattern with
  | none => rfl
  | some g => simp

/-- The text of the object mix. -/
theorem mixText_toList : (getObjmixcfgAsJson ft (some tascar) st).toList =
    '{' :: '"' :: ("channels".toList ++ '"' :: ':' :: '[' ::
      (entriesText ft st (foundChannels tascar st)
        ++ ']' :: numberMembers (portNumbers ft tascar st))) := by
  have hports : numberMembers (portNumbers ft tascar st)
      = (mixPort ft tascar st "reverbgain" "/main/reverb").toList
        ++ (mixPort ft tascar st "main" "/main/main").toList ++ ['}'] := by
    have hmain := numberMembers_append (portNumber ft tascar st "main" "/main/main") []
    rw [List.append_nil] at hmain
    rw [portNumbers, numberMembers_append, hmain, mixPort_toList, mixPort_toList,
      List.append_assoc]
    rfl
  rw [getObjmixcfgAsJson, hports]
  simp [mixChannels_toList, foundChannels]

/-! ## Reading the text -/

/-- The document of an entry. -/
def entryDoc (ft : FloatText) (st : Stage) (p : DeviceChannel × MixSound) : Doc :=
  .obj (("name".toList, .str p.1.name.toList) ::
    (channelNumbers ft st p).map fun g => (g.1, .num g.2))

/-- The name of a channel is plain and its gain is finite. -/
def PlainChannel (ft : FloatText) (st : Stage) (p : DeviceChannel × MixSound) : Prop :=
  (∀ c ∈ p.1.name.toList, isPlain c = true) ∧
    (ft.quotient (.finite p.2.gain) st.rendersettings.egogain).isFinite = true

/-- The keys have no escapes. -/
theorem isPlain_key {key : String}
    (h : key ∈ ["channels", "name", "x", "y", "z", "gain", "reverbgain", "main"]) :
    ∀ c ∈ key.toList, isPlain c = true := by
  have hall : ∀ key ∈ ["channels", "name", "x", "y", "z", "gain", "reverbgain", "main"],
      ∀ c ∈ key.toList, isPlain c = true := by
    simp [isPlain]
  exact hall key h

theorem number_toStrF_iff (ft : FloatText) (x : FloatValue) :
    Number (ft.toStrF x).toList ↔ x.isFinite = true := by
  cases hx : x.isFinite with
  | true =>
      cases x with
      | finite q => exact iff_of_true (ft.toStrF_number q) rfl
      | _ => cases hx
  | false =>
      have hmem := List.mem_map_of_mem (f := String.toList) (ft.toStrF_notFinite hx)
      exact iff_of_false (unreadable_of_not_finite hmem).not_number Bool.false_ne_true

theorem number_or_unreadable (x : FloatValue) :
    Number (ft.toStrF x).toList ∨ Unreadable (ft.toStrF x).toList := by
  cases hx : x.isFinite with
  | true => exact Or.inl ((number_toStrF_iff ft x).mpr hx)
  | false =>
      have hmem := List.mem_map_of_mem (f := String.toList) (ft.toStrF_notFinite hx)
      exact Or.inr (unreadable_of_not_finite hmem)

/-- The numbers of a channel stand under plain keys. -/
theorem channelNumbers_readable (p : DeviceChannel × MixSound) :
    ∀ g ∈ channelNumbers ft st p,
      (∀ c ∈ g.1, isPlain c = true) ∧ (Number g.2 ∨ Unreadable g.2) := by
  intro g hg
  simp only [channelNumbers, List.mem_cons, List.not_mem_nil, or_false] at hg
  rcases hg with rfl | rfl | rfl | rfl
  · exact ⟨isPlain_key (by simp), Or.inl (ft.toStr_number _)⟩
  · exact ⟨isPlain_key (by simp), Or.inl (ft.toStr_number _)⟩
  · exact ⟨isPlain_key (by simp), Or.inl (ft.toStr_number _)⟩
  · exact ⟨isPlain_key (by simp), number_or_unreadable _⟩

theorem channelNumbers_number {p : DeviceChannel × MixSound} (hp : PlainChannel ft st p) :
    ∀ g ∈ channelNumbers ft st p, (∀ c ∈ g.1, isPlain c = true) ∧ Number g.2 := by
  intro g hg
  refine ⟨(channelNumbers_readable p g hg).1, ?_⟩
  simp only [channelNumbers, List.mem_cons, List.not_mem_nil, or_false] at hg
  rcases hg with rfl | rfl | rfl | rfl
  · exact ft.toStr_number _
  · exact ft.toStr_number _
  · exact ft.toStr_number _
  · exact (number_toStrF_iff ft _).mpr hp.2

/-- What is read of an entry up to its name. -/
theorem entryText_iff (p : DeviceChannel × MixSound) {text rest : List Char} {v : Doc} :
    Value (entryText ft st p ++ text) v rest ↔ ∃ s text' ms, v = .obj (("name".toList, .str s) :: ms)
      ∧ Body (p.1.name.toList ++ '"' :: (numberMembers (channelNumbers ft st p) ++ text)) s text'
      ∧ MembersTail text' ms rest := by
  have htext : entryText ft st p ++ text = '{' :: '"' :: ("name".toList ++ '"' :: ':' :: '"' ::
      (p.1.name.toList ++ '"' :: (numberMembers (channelNumbers ft st p) ++ text))) := by
    simp [entryText]
  have hkey : ∀ c ∈ "name".toList, isPlain c = true := isPlain_key (by simp)
  rw [htext, value_obj_iff]
  constructor
  · rintro ⟨ms, rfl, hms⟩
    obtain ⟨v, text', ms', hv, rfl, htail⟩ := (members_iff hkey).mp hms
    rw [skip_cons rfl] at hv
    obtain ⟨s, rfl, hbody⟩ := value_str_iff.mp hv
    exact ⟨s, text', ms', rfl, hbody, htail⟩
  · rintro ⟨s, text', ms, rfl, hbody, htail⟩
    refine ⟨_, rfl, (members_iff hkey).mpr ⟨.str s, text', ms, ?_, rfl, htail⟩⟩
    rw [skip_cons rfl]
    exact value_str_iff.mpr ⟨s, rfl, hbody⟩

/-- A plain entry is read as it is meant. -/
theorem entry_iff {p : DeviceChannel × MixSound} (hp : PlainChannel ft st p)
    {text rest : List Char} {v : Doc} :
    Value (entryText ft st p ++ text) v rest ↔ v = entryDoc ft st p ∧ rest = text := by
  rw [entryText_iff]
  constructor
  · rintro ⟨s, text', ms, rfl, hbody, htail⟩
    obtain ⟨rfl, rfl⟩ := (body_plain_iff hp.1).mp hbody
    obtain ⟨rfl, rfl⟩ := (membersTail_numbers_iff (channelNumbers_number hp)).mp htail
    exact ⟨rfl, rfl⟩
  · rintro ⟨rfl, rfl⟩
    exact ⟨_, _, _, rfl, (body_plain_iff hp.1).mpr ⟨rfl, rfl⟩,
      (membersTail_numbers_iff (channelNumbers_number hp)).mpr ⟨rfl, rfl⟩⟩

/-- An entry that is read with the name of its channel is plain. -/
theorem entry_plain {p : DeviceChannel × MixSound} {text rest : List Char} {v : Doc}
    (hv : Value (entryText ft st p ++ text) v rest) (hdesc : DescribesChannel p.1 v) :
    PlainChannel ft st p := by
  obtain ⟨s, text', ms, rfl, hbody, htail⟩ := (entryText_iff p).mp hv
  obtain ⟨ms', hms', hname, -⟩ := hdesc
  cases hms'
  have hs := (hname (.str s)).mp List.mem_cons_self
  cases hs
  have hplain : ∀ c ∈ p.1.name.toList, isPlain c = true := Body.plain_of_self hbody
  obtain ⟨-, rfl⟩ := (body_plain_iff hplain).mp hbody
  have hnumbers := MembersTail.number (channelNumbers_readable p) htail
  refine ⟨hplain, (number_toStrF_iff ft _).mp (hnumbers ("gain".toList, _) ?_)⟩
  exact List.mem_cons_of_mem _ (List.mem_cons_of_mem _ (List.mem_cons_of_mem _
    List.mem_cons_self))

theorem describesChannel_entryDoc (p : DeviceChannel × MixSound) :
    DescribesChannel p.1 (entryDoc ft st p) := by
  refine ⟨_, rfl, ?_, ?_⟩
  · intro w
    simp [channelNumbers]
  · intro key hkey
    simp only [List.mem_cons, List.not_mem_nil, or_false] at hkey
    rcases hkey with rfl | rfl | rfl | rfl
    · exact ⟨(ft.toStr p.2.localPosition.x).toList, fun w => by simp [channelNumbers]⟩
    · exact ⟨(ft.toStr p.2.localPosition.y).toList, fun w => by simp [channelNumbers]⟩
    · exact ⟨(ft.toStr p.2.localPosition.z).toList, fun w => by simp [channelNumbers]⟩
    · refine ⟨(ft.toStrF (ft.quotient (.finite p.2.gain) st.rendersettings.egogain)).toList, ?_⟩
      exact fun w => by simp [channelNumbers]

theorem skip_entryText (p : DeviceChannel × MixSound) (text : List Char) :
    skip (entryText ft st p ++ text) = entryText ft st p ++ text := skip_cons rfl _

/-- Plain entries are read as they are meant. -/
theorem laterEntries_iff {ps : List (DeviceChannel × MixSound)}
    (hps : ∀ p ∈ ps, PlainChannel ft st p) {text rest : List Char} {xs : List Doc} :
    ElementsTail (laterEntries ft st ps ++ ']' :: text) xs rest
      ↔ xs = ps.map (entryDoc ft st) ∧ rest = text := by
  induction ps generalizing xs with
  | nil => exact elementsTail_close_iff
  | cons p ps ih =>
      have hp := hps p List.mem_cons_self
      have hps' : ∀ p ∈ ps, PlainChannel ft st p := fun p hp => hps p (List.mem_cons_of_mem _ hp)
      have htext : laterEntries ft st (p :: ps) ++ ']' :: text
          = ',' :: (entryText ft st p ++ (laterEntries ft st ps ++ ']' :: text)) := by
        simp [laterEntries]
      rw [htext, elementsTail_comma_iff, elements_iff, skip_entryText]
      constructor
      · rintro ⟨x, text', xs', hx, rfl, htail⟩
        obtain ⟨rfl, rfl⟩ := (entry_iff hp).mp hx
        obtain ⟨rfl, rfl⟩ := (ih hps').mp htail
        exact ⟨rfl, rfl⟩
      · rintro ⟨rfl, rfl⟩
        exact ⟨_, _, _, (entry_iff hp).mpr ⟨rfl, rfl⟩, rfl, (ih hps').mpr ⟨rfl, rfl⟩⟩

/-- Behind a first entry that is read with the name of its channel the others are read. -/
theorem plain_cons {p : DeviceChannel × MixSound} {ps : List (DeviceChannel × MixSound)}
    {text rest : List Char} {v : Doc} (hv : Value (entryText ft st p ++ text) v rest)
    (hdesc : DescribesChannel p.1 v) (hps : rest = text → ∀ q ∈ ps, PlainChannel ft st q) :
    ∀ q ∈ p :: ps, PlainChannel ft st q := by
  have hp := entry_plain hv hdesc
  obtain ⟨-, hrest⟩ := (entry_iff hp).mp hv
  intro q hq
  rcases List.mem_cons.mp hq with rfl | hq
  · exact hp
  · exact hps hrest q hq

/-- Entries that are read with the names of their channels are plain. -/
theorem laterEntries_plain {ps : List (DeviceChannel × MixSound)} {text rest : List Char}
    {xs : List Doc} (h : ElementsTail (laterEntries ft st ps ++ ']' :: text) xs rest)
    (hdesc : List.Forall₂ DescribesChannel (ps.map Prod.fst) xs) :
    ∀ p ∈ ps, PlainChannel ft st p := by
  induction ps generalizing xs with
  | nil => intro p hp; cases hp
  | cons p ps ih =>
      have htext : laterEntries ft st (p :: ps) ++ ']' :: text
          = ',' :: (entryText ft st p ++ (laterEntries ft st ps ++ ']' :: text)) := by
        simp [laterEntries]
      rw [htext, elementsTail_comma_iff, elements_iff, skip_entryText] at h
      obtain ⟨x, text', xs', hx, rfl, htail⟩ := h
      obtain ⟨hfirst, hlater⟩ := List.forall₂_cons.mp hdesc
      apply plain_cons hx hfirst
      rintro rfl
      exact ih htail hlater

/-- What is read of an array up to its first entry. -/
theorem value_entriesText_iff {p : DeviceChannel × MixSound} {ps : List (DeviceChannel × MixSound)}
    {text rest : List Char} {v : Doc} :
    Value ('[' :: (entriesText ft st (p :: ps) ++ ']' :: text)) v rest ↔ ∃ x text' xs,
      Value (entryText ft st p ++ (laterEntries ft st ps ++ ']' :: text)) x text'
        ∧ v = .arr (x :: xs) ∧ ElementsTail text' xs rest := by
  have htext : entriesText ft st (p :: ps) ++ ']' :: text
      = entryText ft st p ++ (laterEntries ft st ps ++ ']' :: text) := by
    rw [entriesText, List.append_assoc]
  rw [htext]
  constructor
  · intro h
    obtain ⟨xs, rfl, hxs⟩ := value_arr_iff.mp h
    obtain ⟨x, text', xs', hx, rfl, htail⟩ := elements_iff.mp hxs
    exact ⟨x, text', xs', hx, rfl, htail⟩
  · rintro ⟨x, text', xs, hx, rfl, htail⟩
    exact value_arr_iff.mpr ⟨_, rfl, elements_iff.mpr ⟨x, text', xs, hx, rfl, htail⟩⟩

/-- The array of plain entries. -/
theorem entriesText_iff {ps : List (DeviceChannel × MixSound)}
    (hps : ∀ p ∈ ps, PlainChannel ft st p) {text rest : List Char} {v : Doc} :
    Value ('[' :: (entriesText ft st ps ++ ']' :: text)) v rest
      ↔ v = .arr (ps.map (entryDoc ft st)) ∧ rest = text := by
  cases ps with
  | nil => exact value_nilArr_iff
  | cons p ps =>
      have hp := hps p List.mem_cons_self
      have hps' : ∀ p ∈ ps, PlainChannel ft st p := fun p hp => hps p (List.mem_cons_of_mem _ hp)
      rw [value_entriesText_iff]
      constructor
      · rintro ⟨x, text', xs, hx, rfl, htail⟩
        obtain ⟨rfl, rfl⟩ := (entry_iff hp).mp hx
        obtain ⟨rfl, rfl⟩ := (laterEntries_iff hps').mp htail
        exact ⟨rfl, rfl⟩
      · rintro ⟨rfl, rfl⟩
        exact ⟨_, _, _, (entry_iff hp).mpr ⟨rfl, rfl⟩, rfl, (laterEntries_iff hps').mpr ⟨rfl, rfl⟩⟩

theorem entriesText_plain {ps : List (DeviceChannel × MixSound)} {text rest : List Char}
    {xs : List Doc} (h : Value ('[' :: (entriesText ft st ps ++ ']' :: text)) (.arr xs) rest)
    (hdesc : List.Forall₂ DescribesChannel (ps.map Prod.fst) xs) :
    ∀ p ∈ ps, PlainChannel ft st p := by
  cases ps with
  | nil => intro p hp; cases hp
  | cons p ps =>
      obtain ⟨x, text', xs', hx, hxs, htail⟩ := value_entriesText_iff.mp h
      cases hxs
      obtain ⟨hfirst, hlater⟩ := List.forall₂_cons.mp hdesc
      apply plain_cons hx hfirst
      rintro rfl
      exact laterEntries_plain htail hlater

/-! ## The whole text -/

theorem mem_portNumbers_iff {g : List Char × List Char} :
    g ∈ portNumbers ft tascar st ↔
      (∃ x, tascar.audioPort "/main/reverb" = some x ∧
        ("reverbgain".toList, (ft.toStrF (mixGain ft st x)).toList) = g) ∨
      ∃ x, tascar.audioPort "/main/main" = some x ∧
        ("main".toList, (ft.toStrF (mixGain ft st x)).toList) = g := by
  simp only [portNumbers, portNumber, List.mem_append, Option.mem_toList,
    Option.map_eq_some_iff]

theorem portNumbers_readable : ∀ g ∈ portNumbers ft tascar st,
    (∀ c ∈ g.1, isPlain c = true) ∧ (Number g.2 ∨ Unreadable g.2) := by
  intro g hg
  rcases mem_portNumbers_iff.mp hg with ⟨x, -, rfl⟩ | ⟨x, -, rfl⟩
  · exact ⟨isPlain_key (by simp), number_or_unreadable _⟩
  · exact ⟨isPlain_key (by simp), number_or_unreadable _⟩

theorem portNumbers_number_iff : (∀ g ∈ portNumbers ft tascar st, Number g.2) ↔
    ∀ pattern ∈ ["/main/reverb", "/main/main"], ∀ g, tascar.audioPort pattern = some g →
      (mixGain ft st g).isFinite = true := by
  constructor
  · intro h pattern hpattern x hx
    simp only [List.mem_cons, List.not_mem_nil, or_false] at hpattern
    rw [← number_toStrF_iff ft]
    rcases hpattern with rfl | rfl
    · exact h _ (mem_portNumbers_iff.mpr (Or.inl ⟨x, hx, rfl⟩))
    · exact h _ (mem_portNumbers_iff.mpr (Or.inr ⟨x, hx, rfl⟩))
  · intro h g hg
    rcases mem_portNumbers_iff.mp hg with ⟨x, hx, rfl⟩ | ⟨x, hx, rfl⟩
    · exact (number_toStrF_iff ft _).mpr (h _ (by simp) x hx)
    · exact (number_toStrF_iff ft _).mpr (h _ (by simp) x hx)

/-- What is read of the text up to the channels. -/
theorem denotes_mixText_iff {ms : List (List Char × Doc)} :
    Denotes (getObjmixcfgAsJson ft (some tascar) st).toList (.obj ms) ↔ ∃ v text' ms' rest,
      Value ('[' :: (entriesText ft st (foundChannels tascar st)
        ++ ']' :: numberMembers (portNumbers ft tascar st))) v text'
      ∧ ms = ("channels".toList, v) :: ms' ∧ MembersTail text' ms' rest ∧ skip rest = [] := by
  have hkey : ∀ c ∈ "channels".toList, isPlain c = true := isPlain_key (by simp)
  rw [Denotes, mixText_toList, skip_cons rfl]
  constructor
  · rintro ⟨rest, hdoc, hrest⟩
    obtain ⟨ms', hms', hmembers⟩ := value_obj_iff.mp hdoc
    cases hms'
    obtain ⟨v, text', ms', hv, rfl, htail⟩ := (members_iff hkey).mp hmembers
    rw [skip_cons rfl] at hv
    exact ⟨v, text', ms', rest, hv, rfl, htail, hrest⟩
  · rintro ⟨v, text', ms', rest, hv, rfl, htail, hrest⟩
    refine ⟨rest, value_obj_iff.mpr ⟨_, rfl, (members_iff hkey).mpr ?_⟩, hrest⟩
    exact ⟨v, text', ms', by rwa [skip_cons rfl], rfl, htail⟩

end Parts

/-- The object mix is a JSON text that describes the sounds exactly if the names are plain and the
numbers are finite. -/
theorem object_mix_described_iff (tascar : Option MixSession) (st : Stage) :
    DescribesMix tascar st (getObjmixcfgAsJson ft tascar st) ↔
      ∀ s, tascar = some s → PlainMix ft s st := by
  cases tascar with
  | none =>
      apply iff_of_true
      · have htext : (getObjmixcfgAsJson ft none st).toList = ['{', '}'] := by
          simp [getObjmixcfgAsJson]
        refine ⟨[], ⟨[], ?_, rfl⟩, fun s hs => by cases hs⟩
        rw [htext, skip_cons rfl]
        exact .nilObj (skip_cons rfl _)
      · exact fun s hs => by cases hs
  | some tascar =>
      simp only [Option.some.injEq, forall_eq']
      rw [DescribesMix]
      simp only [Option.some.injEq, forall_eq', denotes_mixText_iff]
      constructor
      · rintro ⟨ms, ⟨v, text', ms', rest, hv, rfl, htail, hrest⟩, entries, honly, hdesc⟩
        obtain rfl := (honly v).mp List.mem_cons_self
        have hplain := entriesText_plain hv hdesc
        obtain ⟨-, rfl⟩ := (entriesText_iff hplain).mp hv
        refine ⟨hplain, portNumbers_number_iff.mp ?_⟩
        apply MembersTail.number portNumbers_readable
        rw [List.append_nil]
        exact htail
      · rintro ⟨hplain, hports⟩
        have hnumbers : ∀ g ∈ portNumbers ft tascar st,
            (∀ c ∈ g.1, isPlain c = true) ∧ Number g.2 := fun g hg =>
          ⟨(portNumbers_readable g hg).1, portNumbers_number_iff.mpr hports g hg⟩
        have htail : MembersTail (numberMembers (portNumbers ft tascar st) ++ [])
            ((portNumbers ft tascar st).map fun g => (g.1, .num g.2)) [] :=
          (membersTail_numbers_iff hnumbers).mpr ⟨rfl, rfl⟩
        rw [List.append_nil] at htail
        refine ⟨_, ⟨_, _, _, [], (entriesText_iff hplain).mpr ⟨rfl, rfl⟩, rfl, htail, rfl⟩,
          (foundChannels tascar st).map (entryDoc ft st), ?_, ?_⟩
        · intro w
          constructor
          · intro hw
            rcases List.mem_cons.mp hw with hw | hw
            · exact (Prod.mk.inj hw).2
            · -- the numbers of the ports have other keys
              obtain ⟨g, hg, hgw⟩ := List.mem_map.mp hw
              rcases mem_portNumbers_iff.mp hg with ⟨x, -, rfl⟩ | ⟨x, -, rfl⟩
              · exact absurd (Prod.mk.inj hgw).1 (by simp)
              · exact absurd (Prod.mk.inj hgw).1 (by simp)
          · rintro rfl
            exact List.mem_cons_self
        · apply List.forall₂_map_left_iff.mpr
          apply List.forall₂_map_right_iff.mpr
          exact List.forall₂_same.mpr fun p _ => describesChannel_entryDoc p

/-! ## A muted self monitor -/

theorem number_digit {d : Char} (hd : d.isDigit = true) : Number [d] := by
  refine ⟨[], [d], [], [], rfl, Or.inl rfl, ⟨List.cons_ne_nil _ _, ?_⟩, ?_, Or.inl rfl, Or.inl rfl⟩
  · intro c hc
    rw [List.mem_singleton.mp hc]
    exact hd
  · rintro h
    cases h
    rfl

/-- Texts of the numbers zero and one. -/
def bitText (q : ℚ) : String := if q = 0 then "0" else "1"

theorem number_bitText (q : ℚ) : Number (bitText q).toList := by
  rw [bitText]
  split_ifs
  · exact number_digit rfl
  · exact number_digit rfl

/-- Division by zero gives no finite number. -/
def bitFloat : FloatText where
  toStr := bitText
  toStrF
    | .finite q => bitText q
    | .infinite negative => if negative then "-inf" else "inf"
    | .nan => "nan"
  quotient
    | .finite g, q => if q = 0 then (if g = 0 then .nan else .infinite (g < 0)) else .finite (g / q)
    | x, _ => x
  toStr_number := number_bitText
  toStrF_number := number_bitText
  toStrF_notFinite := by
    intro x hx
    cases x with
    | finite q => cases hx
    | infinite negative => cases negative <;> simp
    | nan => simp

/-- A stage with one channel and a gain of the self monitor. -/
def soloStage (egogain : ℚ) : Stage :=
  let st := Stage.default Numeric.exact "dev"
  { st with
    rendersettings := { st.rendersettings with egogain := egogain }
    thisdevice := { defaultDevice with
      channels := [⟨"0", "system:capture_1", 1, ⟨0, 0, 0⟩, "omni", [], "voice"⟩] } }

/-- A session with its sound. -/
def soloSession : MixSession where
  soundById _ := some ⟨⟨0, 0, 0⟩, 1⟩
  audioPort _ := none

example : getObjmixcfgAsJson bitFloat (some soloSession) (soloStage 1)
    = "\x7b\"channels\":[\x7b\"name\":\"voice\",\"x\":0,\"y\":0,\"z\":0,\"gain\":1\x7d]\x7d" := by
  decide +kernel

/-- A self monitor with the gain zero: the gain of its channel is infinite, and the text is no JSON
text. -/
theorem object_mix_muted : ¬ DescribesMix (some soloSession) (soloStage 0)
    (getObjmixcfgAsJson bitFloat (some soloSession) (soloStage 0)) := by
  rintro ⟨ms, hdoc, hchannels⟩
  obtain ⟨v, text', ms', rest, hv, rfl, -⟩ := denotes_mixText_iff.mp hdoc
  obtain ⟨entries, honly, hdesc⟩ := hchannels soloSession rfl
  obtain rfl := (honly v).mp List.mem_cons_self
  have hplain := entriesText_plain hv hdesc _ List.mem_cons_self
  exact absurd hplain.2 (by decide +kernel)

end Libov
