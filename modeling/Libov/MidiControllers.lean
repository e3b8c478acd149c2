/-
# The faders of the MIDI controller

`start_session` sets up a BCF2000 with a fader and a mute button for each of the own channels,
seven on each MIDI channel, and the master on the eighth ones.  Two loops append to the three
lists of patterns, gain controllers and mute controllers.

* `bcf2000` : the two loops;
* `gaincontrollers_bcf2000`, `mutecontrollers_bcf2000`, `pattern_bcf2000` : the lists that they
  make;
* `midictl_eq_bcf2000` : these are the lists of the session document;
* `midi_controllers_distinct` : no controller is used twice, and the lists fit together.
-/
import Libov.ChannelNumbers
import Libov.LocalFileNames

open SeparatedWords

namespace Libov

/-! ## The two loops -/

/-- The variables of the set-up.  The counters are `uint32_t`; `counters_le` bounds them by the
number of channels. -/
structure MidiSetup where
  midiChannel : ℕ
  k : ℕ
  kName : ℕ
  pattern : List String
  gaincontrollers : List String
  mutecontrollers : List String

namespace MidiSetup

def start : MidiSetup := ⟨0, 0, 0, [], [], []⟩

/-- The loop over the channels: after seven of them the next MIDI channel is used. -/
def addChannel (s : MidiSetup) (ch : DeviceChannel) : MidiSetup :=
  let s := if s.k = 7 then { s with midiChannel := s.midiChannel + 1, k := 0 } else s
  let name := if ch.name.isEmpty then toString s.kName else ch.name
  { midiChannel := s.midiChannel
    k := s.k + 1
    kName := if ch.name.isEmpty then s.kName + 1 else s.kName
    pattern := s.pattern ++ ["/*/ego/" ++ name]
    gaincontrollers := s.gaincontrollers ++ [toString s.midiChannel ++ "/" ++ toString s.k]
    mutecontrollers := s.mutecontrollers ++ [toString s.midiChannel ++ "/" ++ toString (s.k + 8)] }

/-- The loop over the MIDI channels. -/
def addMain (s : MidiSetup) (k : ℕ) : MidiSetup :=
  { s with
    k := k + 1
    pattern := s.pattern ++ ["/*/main"]
    gaincontrollers := s.gaincontrollers ++ [toString k ++ "/7"]
    mutecontrollers := s.mutecontrollers ++ [toString k ++ "/15"] }

end MidiSetup

/-- The set-up of the BCF2000 in `start_session`. -/
def bcf2000 (channels : List DeviceChannel) : MidiSetup :=
  let s := channels.foldl MidiSetup.addChannel MidiSetup.start
  (List.range (s.midiChannel + 1)).foldl MidiSetup.addMain s

example : (bcf2000 []).gaincontrollers = ["0/7"] := by decide

/-! ## The lists -/

/-- A controller, its MIDI channel and its number, as it is written. -/
def controllerText (c : ℕ × ℕ) : String := toString c.1 ++ "/" ++ toString c.2

/-- The controllers of a number of channels and of the masters, with their numbers from `d` on. -/
def faders (d n : ℕ) : List (ℕ × ℕ) :=
  ((List.range n).map fun i => (i / 7, i % 7 + d)) ++
    (List.range ((n - 1) / 7 + 1)).map fun m => (m, 7 + d)

section Loops

variable (s : MidiSetup) (ch : DeviceChannel) (chs : List DeviceChannel)

/-- The place that a MIDI channel and a number below eight stand for: the number `7` is the place
of the next MIDI channel. -/
def MidiSetup.place (s : MidiSetup) : ℕ := 7 * s.midiChannel + s.k

/-- Behind seven faders the count of the banks goes on. -/
theorem divMod_rollover {c k : ℕ} (h : k = 7) :
    (7 * c + k) / 7 = c + 1 ∧ (7 * c + k) % 7 = 0 := by
  omega

/-- In front of that the bank stays. -/
theorem divMod_same {c k : ℕ} (h : k < 7) : (7 * c + k) / 7 = c ∧ (7 * c + k) % 7 = k := by
  omega

/-- Each channel takes the next place, and the count within a bank is never beyond seven. -/
theorem place_addChannel (h : s.k ≤ 7) :
    (s.addChannel ch).place = s.place + 1 ∧ (s.addChannel ch).k ≤ 7 ∧ 0 < (s.addChannel ch).k := by
  unfold MidiSetup.addChannel MidiSetup.place
  by_cases hk : s.k = 7
  · simp only [if_pos hk]
    omega
  · simp only [if_neg hk]
    omega

/-- The controllers of a channel belong to its place. -/
theorem controllers_addChannel (h : s.k ≤ 7) :
    (s.addChannel ch).gaincontrollers
        = s.gaincontrollers ++ [controllerText (s.place / 7, s.place % 7)] ∧
      (s.addChannel ch).mutecontrollers
        = s.mutecontrollers ++ [controllerText (s.place / 7, s.place % 7 + 8)] := by
  unfold MidiSetup.addChannel MidiSetup.place controllerText
  by_cases hk : s.k = 7
  · obtain ⟨hdiv, hmod⟩ := divMod_rollover (c := s.midiChannel) hk
    simp only [if_pos hk, hdiv, hmod]
    exact ⟨trivial, trivial⟩
  · obtain ⟨hdiv, hmod⟩ := divMod_same (c := s.midiChannel) (by omega : s.k < 7)
    simp only [if_neg hk, hdiv, hmod]
    exact ⟨trivial, trivial⟩

/-- The pattern of a channel has its name, or the next number where there is none. -/
theorem pattern_addChannel :
    (s.addChannel ch).pattern = s.pattern ++
        ["/*/ego/" ++ if ch.name.isEmpty then toString s.kName else ch.name] ∧
      (s.addChannel ch).kName = if ch.name.isEmpty then s.kName + 1 else s.kName := by
  unfold MidiSetup.addChannel
  by_cases hk : s.k = 7
  · simp only [if_pos hk]
    exact ⟨trivial, trivial⟩
  · simp only [if_neg hk]
    exact ⟨trivial, trivial⟩

variable {s}

/-- What the loop over the channels appends. -/
theorem controllers_foldl_addChannel (h : s.k ≤ 7) :
    (chs.foldl MidiSetup.addChannel s).gaincontrollers = s.gaincontrollers ++
        (List.range' s.place chs.length).map (fun i => controllerText (i / 7, i % 7)) ∧
      (chs.foldl MidiSetup.addChannel s).mutecontrollers = s.mutecontrollers ++
        (List.range' s.place chs.length).map fun i => controllerText (i / 7, i % 7 + 8) := by
  induction chs generalizing s with
  | nil => simp
  | cons ch chs ih =>
      obtain ⟨hplace, hk, -⟩ := place_addChannel s ch h
      obtain ⟨hgain, hmute⟩ := controllers_addChannel s ch h
      obtain ⟨hgains, hmutes⟩ := ih hk
      rw [List.foldl_cons, hgains, hmutes, hgain, hmute, hplace]
      simp [List.range'_succ]

/-- Behind the loop the counters stand behind the last channel. -/
theorem place_foldl_addChannel (h : s.k ≤ 7) :
    (chs.foldl MidiSetup.addChannel s).place = s.place + chs.length ∧
      (chs.foldl MidiSetup.addChannel s).k ≤ 7 ∧
      (chs ≠ [] → 0 < (chs.foldl MidiSetup.addChannel s).k) := by
  induction chs generalizing s with
  | nil => exact ⟨rfl, h, fun h => absurd rfl h⟩
  | cons ch chs ih =>
      obtain ⟨hplace, hk, hpos⟩ := place_addChannel s ch h
      obtain ⟨hplaces, hks, hrest⟩ := ih hk
      rw [List.foldl_cons, hplaces, hplace, List.length_cons]
      refine ⟨by omega, hks, ?_⟩
      intro _
      cases chs with
      | nil => exact hpos
      | cons ch' chs => exact hrest (List.cons_ne_nil _ _)

/-- The patterns of all channels, with the names that they are given. -/
theorem pattern_foldl_addChannel :
    (chs.foldl MidiSetup.addChannel s).pattern
      = s.pattern ++ (channelNames s.kName chs).map fun name => "/*/ego/" ++ name := by
  induction chs generalizing s with
  | nil => simp [channelNames]
  | cons ch chs ih =>
      obtain ⟨hpattern, hname⟩ := pattern_addChannel s ch
      rw [List.foldl_cons, ih, hpattern, hname, channelNames]
      by_cases hempty : ch.name.isEmpty
      · simp [hempty]
      · simp [hempty]

/-- There are at most as many names given as there are channels. -/
theorem kName_foldl_addChannel :
    (chs.foldl MidiSetup.addChannel s).kName ≤ s.kName + chs.length := by
  induction chs generalizing s with
  | nil => exact le_rfl
  | cons ch chs ih =>
      have hname := (pattern_addChannel s ch).2
      have hle : (s.addChannel ch).kName ≤ s.kName + 1 := by
        rw [hname]
        split_ifs
        · exact le_rfl
        · exact Nat.le_succ _
      have hrest := ih (s := s.addChannel ch)
      rw [List.foldl_cons, List.length_cons]
      omega

/-- What the loop over the MIDI channels appends. -/
theorem foldl_addMain (ms : List ℕ) :
    (ms.foldl MidiSetup.addMain s).pattern = s.pattern ++ ms.map (fun _ => "/*/main") ∧
      (ms.foldl MidiSetup.addMain s).gaincontrollers
        = s.gaincontrollers ++ ms.map (fun m => controllerText (m, 7)) ∧
      (ms.foldl MidiSetup.addMain s).mutecontrollers
        = s.mutecontrollers ++ ms.map fun m => controllerText (m, 15) := by
  have htext : ∀ m k : ℕ, controllerText (m, k) = toString m ++ ("/" ++ toString k) :=
    fun m k => String.append_assoc
  induction ms generalizing s with
  | nil => simp
  | cons m ms ih =>
      obtain ⟨hpattern, hgain, hmute⟩ := ih (s := s.addMain m)
      have h7 : controllerText (m, 7) = toString m ++ "/7" := htext m 7
      have h15 : controllerText (m, 15) = toString m ++ "/15" := htext m 15
      rw [List.foldl_cons, hpattern, hgain, hmute]
      simp [MidiSetup.addMain, h7, h15]

end Loops

section Lists

variable (channels : List DeviceChannel)

/-- The number of the last MIDI channel. -/
theorem midiChannel_foldl_addChannel :
    (channels.foldl MidiSetup.addChannel MidiSetup.start).midiChannel
      = (channels.length - 1) / 7 := by
  obtain ⟨hplace, hk, hpos⟩ := place_foldl_addChannel channels (s := MidiSetup.start) (by decide)
  have hstart : MidiSetup.start.place = 0 := rfl
  rw [hstart, MidiSetup.place] at hplace
  cases channels with
  | nil => rfl
  | cons ch channels =>
      have hpos := hpos (List.cons_ne_nil _ _)
      omega

/-- Below `2^32` channels no counter wraps. -/
theorem counters_le :
    (channels.foldl MidiSetup.addChannel MidiSetup.start).midiChannel ≤ channels.length ∧
      (channels.foldl MidiSetup.addChannel MidiSetup.start).k ≤ 7 ∧
      (channels.foldl MidiSetup.addChannel MidiSetup.start).kName ≤ channels.length := by
  obtain ⟨-, hk, -⟩ := place_foldl_addChannel channels (s := MidiSetup.start) (by decide)
  have hname := kName_foldl_addChannel channels (s := MidiSetup.start)
  have hstart : MidiSetup.start.kName = 0 := rfl
  rw [midiChannel_foldl_addChannel]
  exact ⟨by omega, hk, by omega⟩

/-- The controllers of the gains are the faders, in their order. -/
theorem gaincontrollers_bcf2000 : (bcf2000 channels).gaincontrollers
    = (faders 0 channels.length).map controllerText := by
  obtain ⟨hgain, -⟩ := controllers_foldl_addChannel channels (s := MidiSetup.start) (by decide)
  rw [bcf2000, (foldl_addMain _).2.1, hgain, midiChannel_foldl_addChannel, faders,
    List.map_append, List.map_map, List.map_map]
  simp only [List.range_eq_range']
  rfl

/-- The controllers of the mutes are the buttons of the same faders. -/
theorem mutecontrollers_bcf2000 : (bcf2000 channels).mutecontrollers
    = (faders 8 channels.length).map controllerText := by
  obtain ⟨-, hmute⟩ := controllers_foldl_addChannel channels (s := MidiSetup.start) (by decide)
  rw [bcf2000, (foldl_addMain _).2.2, hmute, midiChannel_foldl_addChannel, faders,
    List.map_append, List.map_map, List.map_map]
  simp only [List.range_eq_range']
  rfl

/-- Behind the channels there is a main fader for each bank. -/
theorem pattern_bcf2000 : (bcf2000 channels).pattern
    = ((channelNames 0 channels).map fun name => "/*/ego/" ++ name) ++
      List.replicate ((channels.length - 1) / 7 + 1) "/*/main" := by
  rw [bcf2000, (foldl_addMain _).1, pattern_foldl_addChannel, midiChannel_foldl_addChannel,
    List.map_const', List.length_range]
  rfl

end Lists

/-! ## The session document -/

/-- The gain controllers of the model of the document, by the places of the channels. -/
theorem midiControllers_eq (n midiChannel k : ℕ) (h : k ≤ 7) :
    midiControllers n midiChannel k
      = (List.range' (7 * midiChannel + k) n).map fun i => (i / 7, i % 7) := by
  induction n generalizing midiChannel k with
  | zero => rfl
  | succ n ih =>
      rw [midiControllers, List.range'_succ, List.map_cons]
      by_cases hk : k = 7
      · obtain ⟨hdiv, hmod⟩ := divMod_rollover (c := midiChannel) hk
        have hnext : 7 * (midiChannel + 1) + 1 = 7 * midiChannel + k + 1 := by omega
        rw [if_pos hk, ih _ _ (by omega), hdiv, hmod, hnext]
      · obtain ⟨hdiv, hmod⟩ := divMod_same (c := midiChannel) (by omega : k < 7)
        rw [if_neg hk, ih _ _ (by omega), hdiv, hmod, Nat.add_assoc]

/-- The last MIDI channel of the model of the document. -/
theorem last_midiControllers (n : ℕ) :
    ((midiControllers n 0 0).getLast?.map Prod.fst).getD 0 = (n - 1) / 7 := by
  rw [midiControllers_eq n 0 0 (by omega)]
  cases n with
  | zero => rfl
  | succ n => simp [List.range'_concat]

/-- The document has the lists that the two loops make. -/
theorem midictl_eq_bcf2000 (env : SessionEnv) (st : Stage) (x : ExtraVars) :
    midictl env st x = if usebcf2000 x then
      [.leaf "midictl" [("connect", "BCF2000:0"), ("min", "-30"), ("max", "10"),
        ("nonlinscale", "true"),
        ("controllers", env.text.vecstr2str (bcf2000 st.thisdevice.channels).gaincontrollers ++
          " " ++ env.text.vecstr2str (bcf2000 st.thisdevice.channels).mutecontrollers),
        ("pattern", env.text.vecstr2str (bcf2000 st.thisdevice.channels).pattern)]]
    else [] := by
  rw [gaincontrollers_bcf2000, mutecontrollers_bcf2000, pattern_bcf2000]
  unfold midictl faders
  simp only [last_midiControllers]
  rw [midiControllers_eq _ 0 0 (by omega)]
  simp only [List.range_eq_range', List.map_append, List.map_map, List.map_const',
    List.length_range']
  rfl

/-! ## Distinct controllers -/

/-- The text of a controller tells its MIDI channel and its number. -/
theorem controllerText_injective : Function.Injective controllerText := by
  rintro ⟨a, b⟩ ⟨c, d⟩ h
  have hlist := congrArg String.toList h
  simp only [controllerText, String.toList_append] at hlist
  have hslash : "/".toList = ['/'] := rfl
  rw [hslash, List.append_assoc, List.append_assoc, List.singleton_append,
    List.singleton_append] at hlist
  obtain ⟨hchannel, hnumber⟩ :=
    eq_of_append_sep (slash_notMem_toString b) (slash_notMem_toString d) hlist
  have hac : a = c := Nat.repr_injective (String.toList_inj.mp hchannel)
  have hbd : b = d := Nat.repr_injective (String.toList_inj.mp hnumber)
  rw [hac, hbd]

/-- There is one fader for each channel and for each bank. -/
theorem length_faders (d n : ℕ) : (faders d n).length = n + ((n - 1) / 7 + 1) := by
  simp [faders]

/-- The numbers of one list are eight in a row. -/
theorem number_of_mem_faders {d n : ℕ} {c : ℕ × ℕ} (h : c ∈ faders d n) :
    d ≤ c.2 ∧ c.2 < d + 8 := by
  rcases List.mem_append.mp h with h | h
  · obtain ⟨i, -, rfl⟩ := List.mem_map.mp h
    dsimp only
    omega
  · obtain ⟨m, -, rfl⟩ := List.mem_map.mp h
    dsimp only
    omega

/-- No controller stands twice in a list. -/
theorem nodup_faders (d n : ℕ) : (faders d n).Nodup := by
  refine List.nodup_append.mpr ⟨?_, ?_, ?_⟩
  · refine List.nodup_range.map ?_
    intro i j h
    obtain ⟨hdiv, hmod⟩ := Prod.mk.inj h
    omega
  · refine List.nodup_range.map ?_
    intro i j h
    exact (Prod.mk.inj h).1
  · intro c hc c' hc' heq
    obtain ⟨i, -, rfl⟩ := List.mem_map.mp hc
    obtain ⟨m, -, rfl⟩ := List.mem_map.mp hc'
    -- the eighth number is left for the master
    have hnumber : i % 7 + d = 7 + d := (Prod.mk.inj heq).2
    omega

/-- No controller stands in both lists. -/
theorem nodup_faders_append (n : ℕ) : (faders 0 n ++ faders 8 n).Nodup := by
  refine List.nodup_append.mpr ⟨nodup_faders 0 n, nodup_faders 8 n, ?_⟩
  intro c hc c' hc' heq
  have hgain := number_of_mem_faders hc
  have hmute := number_of_mem_faders hc'
  rw [heq] at hgain
  omega

/-- The controllers of the channels stand at the places of the channels. -/
theorem getElem?_faders_channel {d n i : ℕ} (h : i < n) :
    (faders d n)[i]? = some (i / 7, i % 7 + d) := by
  rw [faders, List.getElem?_append_left (by simpa using h), List.getElem?_map,
    List.getElem?_range h, Option.map_some]

/-- The masters stand behind the channels. -/
theorem getElem?_faders_main {d n i : ℕ} (h : n ≤ i) (hi : i < n + ((n - 1) / 7 + 1)) :
    (faders d n)[i]? = some (i - n, 7 + d) := by
  rw [faders, List.getElem?_append_right (by simpa using h), List.getElem?_map, List.length_map,
    List.length_range, List.getElem?_range (by omega), Option.map_some]

/-- The MIDI channels in use are those that have a master. -/
theorem channel_of_mem_faders {d n : ℕ} {c : ℕ × ℕ} (h : c ∈ faders d n) :
    c.1 < (n - 1) / 7 + 1 := by
  rcases List.mem_append.mp h with h | h
  · obtain ⟨i, hi, rfl⟩ := List.mem_map.mp h
    rw [List.mem_range] at hi
    dsimp only
    omega
  · obtain ⟨m, hm, rfl⟩ := List.mem_map.mp h
    exact List.mem_range.mp hm

/-- Each channel has one name. -/
theorem length_channelNames (k : ℕ) (channels : List DeviceChannel) :
    (channelNames k channels).length = channels.length := by
  induction channels generalizing k with
  | nil => rfl
  | cons ch channels ih =>
      rw [channelNames]
      by_cases hempty : ch.name.isEmpty
      · rw [if_pos hempty, List.length_cons, ih, List.length_cons]
      · rw [if_neg hempty, List.length_cons, ih, List.length_cons]

/-- The pattern of a channel is not that of the main fader. -/
theorem egoPattern_ne_main (name : String) : "/*/ego/" ++ name ≠ "/*/main" := by
  intro h
  have hlist := congrArg String.toList h
  rw [String.toList_append] at hlist
  simp at hlist

section Pattern

variable (channels : List DeviceChannel)

/-- There are as many patterns as faders. -/
theorem length_pattern_bcf2000 : (bcf2000 channels).pattern.length
    = channels.length + ((channels.length - 1) / 7 + 1) := by
  rw [pattern_bcf2000, List.length_append, List.length_map, length_channelNames,
    List.length_replicate]

/-- The patterns of the channels stand at the places of the channels. -/
theorem getElem?_pattern_channel {i : ℕ} (h : i < channels.length) :
    (bcf2000 channels).pattern[i]?
      = (channelNames 0 channels)[i]?.map fun name => "/*/ego/" ++ name := by
  have hlen : i < ((channelNames 0 channels).map fun name => "/*/ego/" ++ name).length := by
    rw [List.length_map, length_channelNames]
    exact h
  rw [pattern_bcf2000, List.getElem?_append_left hlen, List.getElem?_map]

/-- The pattern of the master stands behind them, and nowhere else. -/
theorem getElem?_pattern_main (i : ℕ) :
    (bcf2000 channels).pattern[i]? = some "/*/main" ↔
      channels.length ≤ i ∧ i < channels.length + ((channels.length - 1) / 7 + 1) := by
  by_cases h : i < channels.length
  · rw [getElem?_pattern_channel channels h]
    refine iff_of_false ?_ (by omega)
    intro hmain
    obtain ⟨name, -, hname⟩ := Option.map_eq_some_iff.mp hmain
    exact egoPattern_ne_main name hname
  · have hlen : ((channelNames 0 channels).map fun name => "/*/ego/" ++ name).length
        = channels.length := by
      rw [List.length_map, length_channelNames]
    rw [pattern_bcf2000, List.getElem?_append_right (by omega), hlen, List.getElem?_replicate]
    by_cases hi : i - channels.length < (channels.length - 1) / 7 + 1
    · rw [if_pos hi]
      exact iff_of_true rfl (by omega)
    · rw [if_neg hi]
      exact iff_of_false (by simp) (by omega)

end Pattern

/-- The entry of the master is the one of its MIDI channel. -/
theorem channel_eq_of_main {d n j : ℕ} {c : ℕ × ℕ} (h : n ≤ j)
    (hj : j < n + ((n - 1) / 7 + 1)) (hc : (faders d n)[j]?.map Prod.fst = some c.1) :
    j = n + c.1 := by
  rw [getElem?_faders_main h hj, Option.map_some, Option.some.injEq] at hc
  omega

/-- The three lists are of one length, no controller is used twice, the entries of a channel stand
at its place in each of them, and there is one entry of the master for each MIDI channel that is
used. -/
theorem midi_controllers_distinct (channels : List DeviceChannel) :
    ∃ gain mute : List (ℕ × ℕ),
      (bcf2000 channels).gaincontrollers = gain.map controllerText ∧
      (bcf2000 channels).mutecontrollers = mute.map controllerText ∧
      (bcf2000 channels).pattern.length = gain.length ∧ mute.length = gain.length ∧
      (gain ++ mute).Nodup ∧
      ((bcf2000 channels).gaincontrollers ++ (bcf2000 channels).mutecontrollers).Nodup ∧
      (∀ i < channels.length,
        (bcf2000 channels).pattern[i]?
            = (channelNames 0 channels)[i]?.map (fun name => "/*/ego/" ++ name) ∧
          gain[i]? = some (i / 7, i % 7) ∧ mute[i]? = some (i / 7, i % 7 + 8)) ∧
      ∀ c ∈ gain ++ mute, ∃ i : ℕ,
        (bcf2000 channels).pattern[i]? = some "/*/main" ∧
          gain[i]? = some (c.1, 7) ∧ mute[i]? = some (c.1, 15) ∧
        ∀ j : ℕ, (bcf2000 channels).pattern[j]? = some "/*/main" →
          gain[j]?.map Prod.fst = some c.1 ∨ mute[j]?.map Prod.fst = some c.1 → j = i := by
  set n := channels.length
  refine ⟨faders 0 n, faders 8 n, gaincontrollers_bcf2000 channels,
    mutecontrollers_bcf2000 channels, ?_, ?_, nodup_faders_append n, ?_, ?_, ?_⟩
  · rw [length_pattern_bcf2000, length_faders]
  · rw [length_faders, length_faders]
  · rw [gaincontrollers_bcf2000, mutecontrollers_bcf2000, ← List.map_append]
    exact (nodup_faders_append n).map controllerText_injective
  · intro i hi
    exact ⟨getElem?_pattern_channel channels hi, getElem?_faders_channel hi,
      getElem?_faders_channel hi⟩
  · intro c hc
    have hchannel : c.1 < (n - 1) / 7 + 1 := by
      rcases List.mem_append.mp hc with hc | hc
      · exact channel_of_mem_faders hc
      · exact channel_of_mem_faders hc
    -- the master of the MIDI channel stands that many places behind the channels
    have hle : n ≤ n + c.1 := Nat.le_add_right n c.1
    have hlt : n + c.1 < n + ((n - 1) / 7 + 1) := by omega
    have hsub : n + c.1 - n = c.1 := Nat.add_sub_cancel_left n c.1
    refine ⟨n + c.1, (getElem?_pattern_main channels _).mpr ⟨hle, hlt⟩, ?_, ?_, ?_⟩
    · rw [getElem?_faders_main hle hlt, hsub]
    · rw [getElem?_faders_main hle hlt, hsub]
    · intro j hmain hj
      obtain ⟨hge, hbound⟩ := (getElem?_pattern_main channels j).mp hmain
      rcases hj with hj | hj
      · exact channel_eq_of_main hge hbound hj
      · exact channel_eq_of_main hge hbound hj

end Libov
