/-
# Gains of a running session

`set_stage_device_gain` sets the gains of the channels of a device in the running session, and
`create_virtual_acoustics` gives each channel a gain when a session starts, which it writes in
decibels.

* `rebuiltGain_decibels` : the gain of the decibels that a new session gets;
* `mem_sourceMembers_setStageDeviceGain` : the change does not touch who has a source;
* `live_gain_iff` : when the two gains are the same.
-/
import Libov.Decibels
import Libov.SessionChanges

namespace Libov

open Renderer

variable (env : SessionEnv) (stagedeviceid : StageDeviceId) (gain : ℚ)

/-! ## The two gains -/

/-- The gain that `set_stage_device_gain` computes for a channel of a device. -/
def liveGain (st : Stage) (dev : StageDevice) (ch : DeviceChannel) : ℚ :=
  let single := env.text.single
  let gain := single (ch.gain * dev.gain)
  if stagedeviceid = st.thisstagedeviceid then single (gain * st.rendersettings.egogain)
  else single (gain * single (6 / 10))

/-- The gains that `set_stage_device_gain` computes, one for each channel of the device. -/
def liveGains (r : Renderer) : List ℚ :=
  let st := (setStageDeviceGain stagedeviceid gain r).stage
  if r.sessionActive && r.tascar then
    let dev := (st.stage.find? stagedeviceid).getD StageDevice.zero
    dev.channels.map (liveGain env stagedeviceid st dev)
  else []

/-- The effective gain of a channel in a new session: zero for a muted sound, otherwise the one
of the decibels that are written, which are no number for a negative gain. -/
def rebuiltGain (st : Stage) (dev : StageDevice) (ch : DeviceChannel) : Option ℚ :=
  let own := dev.id == (ownDevice st).id
  if own && st.rendersettings.egogain == 0 then some 0
  else
    let gain := soundGain env st own dev ch
    -- `20.0f * log10f(gain)`
    if gain < 0 then none else some gain

/-- It is the gain of `20.0f * log10f(gain)`. -/
theorem rebuiltGain_decibels (st : Stage) (dev : StageDevice) (ch : DeviceChannel)
    (hmute : ¬ (dev.id = (ownDevice st).id ∧ st.rendersettings.egogain = 0)) :
    (rebuiltGain env st dev ch).map (fun gain : ℚ => (gain : ℝ))
      = (Decibels.level (soundGain env st (dev.id == (ownDevice st).id) dev ch)).map
          Decibels.linear := by
  have hsound : (dev.id == (ownDevice st).id && st.rendersettings.egogain == 0) = false := by
    rw [Bool.eq_false_iff, ne_eq, Bool.and_eq_true, beq_iff_eq, beq_iff_eq]
    exact hmute
  rw [Decibels.map_linear_level, rebuiltGain]
  simp only [hsound, Bool.false_eq_true, if_false, Rat.cast_lt_zero]
  split_ifs
  · rfl
  · rfl

/-- After a change of the gain of a device the running session has the gains that a new session
would have, wherever it has a source for the device; and a device that is not on stage stays
away. -/
structure GainAgrees (r : Renderer) : Prop where
  channels : let st := (setStageDeviceGain stagedeviceid gain r).stage
    ∀ dev, st.stage.find? stagedeviceid = some dev → st.rendersettings.receive = true →
      dev ∈ sourceMembers st → (liveGains env stagedeviceid gain r).map some = dev.channels.map
        (rebuiltGain env st dev)
  missing : r.stage.stage.find? stagedeviceid = none →
    (setStageDeviceGain stagedeviceid gain r).stage.stage = r.stage.stage

/-- A new session can write the gain of the channel in decibels. -/
def InDecibels (st : Stage) (dev : StageDevice) (gain : ℚ) (ch : DeviceChannel) : Prop :=
  0 ≤ ch.gain * gain * if dev.id = (ownDevice st).id then st.rendersettings.egogain else 1

/-- The device is on stage, and if it has a source, then all of its gains can be written in
decibels, and it is the own device under its own id, or all of its gains are zero, or the factor
that a new session applies is the one of a change: the gain of the own sounds for another device
with the own id, and no distance law for the rest. -/
def LiveGainExact (st : Stage) : Prop :=
  ∃ dev, st.stage.find? stagedeviceid = some dev ∧
    (st.rendersettings.receive = true → dev ∈ sourceMembers st →
      (∀ ch ∈ dev.channels, InDecibels st dev gain ch) ∧
        (stagedeviceid = st.thisstagedeviceid ∨ (∀ ch ∈ dev.channels, ch.gain * gain = 0) ∨
          if dev.id = (ownDevice st).id then st.rendersettings.egogain = 6 / 10
          else st.rendersettings.distancelaw = false))

/-! ## The change -/

section Change

variable {stagedeviceid} {r : Renderer} {dev : StageDevice}
  (hdev : r.stage.stage.find? stagedeviceid = some dev)

include hdev

/-- The change of the gain of a device on stage. -/
theorem stage_setStageDeviceGain :
    (setStageDeviceGain stagedeviceid gain r).stage = { r.stage with
      stage := r.stage.stage.insert stagedeviceid { dev with gain := gain } } := by
  have hcontains : (r.stage.stage.insert stagedeviceid { dev with gain := gain }).contains
      stagedeviceid = true := by
    rw [OrderedMap.contains, OrderedMap.find?_insert, if_pos rfl]
    rfl
  rw [setStageDeviceGain]
  simp only [hdev, OrderedMap.touch_of_contains hcontains, ite_self]

theorem find?_setStageDeviceGain :
    (setStageDeviceGain stagedeviceid gain r).stage.stage.find? stagedeviceid
      = some { dev with gain := gain } := by
  rw [stage_setStageDeviceGain gain hdev, OrderedMap.find?_insert, if_pos rfl]

/-- The own device is another one by its gain at most. -/
theorem ownDevice_setStageDeviceGain :
    ∃ g, ownDevice (setStageDeviceGain stagedeviceid gain r).stage
      = { ownDevice r.stage with gain := g } := by
  rw [stage_setStageDeviceGain gain hdev, ownDevice, ownDevice, OrderedMap.find?_insert]
  split_ifs with hown
  · rw [hown, hdev]
    exact ⟨gain, rfl⟩
  · exact ⟨_, rfl⟩

/-- The change keeps the sources. -/
theorem mem_sourceMembers_setStageDeviceGain :
    { dev with gain := gain } ∈ sourceMembers (setStageDeviceGain stagedeviceid gain r).stage
      ↔ dev ∈ sourceMembers r.stage := by
  obtain ⟨g, hown⟩ := ownDevice_setStageDeviceGain gain hdev
  rw [mem_sourceMembers_of_find? (find?_setStageDeviceGain gain hdev),
    mem_sourceMembers_of_find? hdev,
    bSender, bSender, hown]

end Change

/-! ## Exact arithmetic -/

section Exact

variable {env} (hexact : ∀ q, env.text.single q = q)

include hexact

theorem liveGain_exact (st : Stage) (dev : StageDevice) (ch : DeviceChannel) :
    liveGain env stagedeviceid st dev ch = ch.gain * dev.gain *
      if stagedeviceid = st.thisstagedeviceid then st.rendersettings.egogain else 6 / 10 := by
  rw [liveGain]
  simp only [hexact, mul_ite]

/-- The factor of a new session. -/
def sessionFactor (st : Stage) (dev : StageDevice) : ℚ :=
  if dev.id = (ownDevice st).id then st.rendersettings.egogain
  else if st.rendersettings.distancelaw then 1 else 6 / 10

theorem rebuiltGain_exact (st : Stage) (dev : StageDevice) (ch : DeviceChannel) :
    rebuiltGain env st dev ch =
      if ch.gain * dev.gain * sessionFactor st dev < 0 then none
      else some (ch.gain * dev.gain * sessionFactor st dev) := by
  rw [rebuiltGain, sessionFactor]
  by_cases hown : dev.id = (ownDevice st).id
  · rw [beq_iff_eq.mpr hown, if_pos hown, soundGain]
    by_cases hego : st.rendersettings.egogain = 0
    · -- a muted sound
      rw [beq_iff_eq.mpr hego, Bool.true_and, if_pos rfl, hego, mul_zero, if_neg (lt_irrefl 0)]
    · rw [beq_eq_false_iff_ne.mpr hego, Bool.true_and]
      simp only [hexact, hego, if_true, if_false, Bool.false_eq_true]
  · rw [beq_eq_false_iff_ne.mpr hown, if_neg hown, Bool.false_and, soundGain]
    simp only [hexact, if_false, Bool.false_eq_true, mul_ite, mul_one]

omit hexact in
/-- The distance law does not change the sign of a gain. -/
theorem inDecibels_iff (st : Stage) (dev : StageDevice) (ch : DeviceChannel) :
    InDecibels st dev dev.gain ch ↔ ¬ ch.gain * dev.gain * sessionFactor st dev < 0 := by
  rw [InDecibels, sessionFactor, not_lt]
  split_ifs
  · exact Iff.rfl
  · exact Iff.rfl
  · have hfactor : (0 : ℚ) < 6 / 10 := by norm_num
    rw [mul_one, mul_nonneg_iff_of_pos_right hfactor]

/-- The two gains of a channel are the same exactly if a new session can write its own and the
factors are the same. -/
theorem liveGain_eq_iff_factor {st : Stage} {dev : StageDevice} (ch : DeviceChannel) :
    some (liveGain env stagedeviceid st dev ch) = rebuiltGain env st dev ch ↔
      InDecibels st dev dev.gain ch ∧
        ((if stagedeviceid = st.thisstagedeviceid then st.rendersettings.egogain else 6 / 10)
            = sessionFactor st dev ∨ ch.gain * dev.gain = 0) := by
  rw [liveGain_exact _ hexact, rebuiltGain_exact hexact, inDecibels_iff]
  by_cases hneg : ch.gain * dev.gain * sessionFactor st dev < 0
  · rw [if_pos hneg]
    exact iff_of_false (Option.some_ne_none _) fun h => h.1 hneg
  · rw [if_neg hneg, Option.some_inj, mul_eq_mul_left_iff]
    exact (and_iff_right hneg).symm

/-- For a device with another id than the own one. -/
theorem liveGain_eq_iff {st : Stage} {dev : StageDevice} (ch : DeviceChannel)
    (hid : stagedeviceid ≠ st.thisstagedeviceid) :
    some (liveGain env stagedeviceid st dev ch) = rebuiltGain env st dev ch ↔
      InDecibels st dev dev.gain ch ∧ (ch.gain * dev.gain = 0 ∨
        if dev.id = (ownDevice st).id then st.rendersettings.egogain = 6 / 10
        else st.rendersettings.distancelaw = false) := by
  rw [liveGain_eq_iff_factor _ hexact, if_neg hid, or_comm]
  refine and_congr_right fun _ => or_congr_right ?_
  rw [sessionFactor]
  by_cases hown : dev.id = (ownDevice st).id
  · rw [if_pos hown, if_pos hown]
    exact eq_comm
  · rw [if_neg hown, if_neg hown]
    cases st.rendersettings.distancelaw with
    | false => simp
    | true => norm_num

omit hexact in
/-- The change of a gain leaves the rest of what a gain in decibels depends on. -/
theorem inDecibels_setStageDeviceGain {r : Renderer} {dev : StageDevice}
    (hdev : r.stage.stage.find? stagedeviceid = some dev) (ch : DeviceChannel) :
    InDecibels (setStageDeviceGain stagedeviceid gain r).stage { dev with gain := gain } gain ch ↔
      InDecibels r.stage dev gain ch := by
  obtain ⟨g, hown⟩ := ownDevice_setStageDeviceGain gain hdev
  rw [InDecibels, InDecibels, hown, stage_setStageDeviceGain gain hdev]

/-- A channel of the device under the own id, which is the own device. -/
theorem liveGain_own_eq_iff {r : Renderer} {dev : StageDevice}
    (hdev : r.stage.stage.find? stagedeviceid = some dev)
    (hid : stagedeviceid = r.stage.thisstagedeviceid) (ch : DeviceChannel) :
    some (liveGain env stagedeviceid (setStageDeviceGain stagedeviceid gain r).stage
        { dev with gain := gain } ch)
      = rebuiltGain env (setStageDeviceGain stagedeviceid gain r).stage
          { dev with gain := gain } ch ↔ InDecibels r.stage dev gain ch := by
  have hdevice : dev.id = (ownDevice (setStageDeviceGain stagedeviceid gain r).stage).id := by
    obtain ⟨g, hown⟩ := ownDevice_setStageDeviceGain gain hdev
    rw [hown, ownDevice, ← hid, hdev]
    rfl
  refine (liveGain_eq_iff_factor _ hexact ch).trans ?_
  rw [← inDecibels_setStageDeviceGain _ _ hdev ch, and_iff_left]
  refine Or.inl ?_
  rw [sessionFactor, if_pos hdevice, stage_setStageDeviceGain gain hdev, if_pos hid]

/-- A channel of a device under another id. -/
theorem liveGain_other_eq_iff {r : Renderer} {dev : StageDevice}
    (hdev : r.stage.stage.find? stagedeviceid = some dev)
    (hid : stagedeviceid ≠ r.stage.thisstagedeviceid) (ch : DeviceChannel) :
    some (liveGain env stagedeviceid (setStageDeviceGain stagedeviceid gain r).stage
        { dev with gain := gain } ch)
      = rebuiltGain env (setStageDeviceGain stagedeviceid gain r).stage
          { dev with gain := gain } ch ↔ InDecibels r.stage dev gain ch ∧ (ch.gain * gain = 0 ∨
        if dev.id = (ownDevice r.stage).id then r.stage.rendersettings.egogain = 6 / 10
        else r.stage.rendersettings.distancelaw = false) := by
  have hstage := stage_setStageDeviceGain gain hdev
  obtain ⟨g, hown⟩ := ownDevice_setStageDeviceGain gain hdev
  have hother : stagedeviceid ≠
      (setStageDeviceGain stagedeviceid gain r).stage.thisstagedeviceid := by
    rw [hstage]
    exact hid
  rw [liveGain_eq_iff _ hexact ch hother, inDecibels_setStageDeviceGain _ _ hdev, hown, hstage]

/-- The gains of all channels of a device on stage. -/
theorem liveGains_eq_iff {r : Renderer} {dev : StageDevice}
    (hactive : (r.sessionActive && r.tascar) = true)
    (hdev : r.stage.stage.find? stagedeviceid = some dev) :
    (liveGains env stagedeviceid gain r).map some = dev.channels.map (rebuiltGain env
        (setStageDeviceGain stagedeviceid gain r).stage { dev with gain := gain }) ↔
      (∀ ch ∈ dev.channels, InDecibels r.stage dev gain ch) ∧
        (stagedeviceid = r.stage.thisstagedeviceid ∨ (∀ ch ∈ dev.channels, ch.gain * gain = 0) ∨
          if dev.id = (ownDevice r.stage).id then r.stage.rendersettings.egogain = 6 / 10
          else r.stage.rendersettings.distancelaw = false) := by
  rw [liveGains]
  simp only [hactive, if_true, find?_setStageDeviceGain gain hdev, Option.getD_some]
  rw [List.map_map, List.map_inj_left]
  simp only [Function.comp_apply]
  by_cases hid : stagedeviceid = r.stage.thisstagedeviceid
  · rw [and_iff_left (Or.inl hid)]
    exact forall₂_congr fun ch _ => liveGain_own_eq_iff _ _ hexact hdev hid ch
  · rw [or_iff_right hid, forall₂_congr fun ch _ => liveGain_other_eq_iff _ _ hexact hdev hid ch,
      forall₂_and]
    -- the factor is the same for all channels
    simp only [forall_or_right]

/-- In exact arithmetic the gains of a running session agree with those of a new one exactly if the
change meets the condition. -/
theorem live_gain_iff (r : Renderer) (hactive : (r.sessionActive && r.tascar) = true) :
    GainAgrees env stagedeviceid gain r ↔ LiveGainExact stagedeviceid gain r.stage := by
  have hsettings : ∀ dev, r.stage.stage.find? stagedeviceid = some dev →
      (setStageDeviceGain stagedeviceid gain r).stage.rendersettings = r.stage.rendersettings := by
    intro dev hdev
    rw [stage_setStageDeviceGain gain hdev]
  constructor
  · intro h
    cases hdev : r.stage.stage.find? stagedeviceid with
    | none =>
        -- the lookup behind the change adds the device
        have hmissing := h.missing hdev
        rw [setStageDeviceGain] at hmissing
        simp only [hdev, hactive, if_true] at hmissing
        exact absurd hmissing (OrderedMap.touch_ne hdev _)
    | some dev =>
        refine ⟨dev, hdev, ?_⟩
        intro hreceive hsource
        rw [← liveGains_eq_iff _ _ hexact hactive hdev]
        apply h.channels _ (find?_setStageDeviceGain gain hdev)
        · rw [hsettings dev hdev]
          exact hreceive
        · exact (mem_sourceMembers_setStageDeviceGain gain hdev).mpr hsource
  · rintro ⟨dev, hdev, hcond⟩
    constructor
    · intro st dev' hdev' hreceive hsource
      rw [find?_setStageDeviceGain gain hdev] at hdev'
      cases hdev'
      rw [hsettings dev hdev] at hreceive
      exact (liveGains_eq_iff _ _ hexact hactive hdev).mpr
        (hcond hreceive ((mem_sourceMembers_setStageDeviceGain gain hdev).mp hsource))
    · intro hnone
      rw [hnone] at hdev
      cases hdev

end Exact

/-! ## Two devices on stage -/

/-- A device with one channel. -/
def soloDevice (id : StageDeviceId) : StageDevice :=
  { defaultDevice with
    id := id
    channels := [⟨"0", "system:capture_1", 1, ⟨0, 0, 0⟩, "omni", [], ""⟩] }

/-- A running session with the own device and another one on stage. -/
def duetRenderer (distancelaw : Bool) : Renderer :=
  let stage := activeRenderer.stage
  { activeRenderer with
    tascar := true
    stage := { stage with
      rendersettings := { stage.rendersettings with distancelaw := distancelaw }
      thisstagedeviceid := 1
      stage := (OrderedMap.empty.insert 1 (soloDevice 1)).insert 2 (soloDevice 2) } }

/-- Without distance law the gain of the other device may be changed. -/
theorem live_gain_duet : GainAgrees plainEnv 2 (1 / 2) (duetRenderer false) := by
  refine (live_gain_iff 2 (1 / 2) ?_ (duetRenderer false) rfl).mpr ⟨soloDevice 2, rfl, ?_⟩
  · intro q
    rfl
  · intro _ _
    refine ⟨?_, Or.inr (Or.inr rfl)⟩
    intro ch hch
    obtain rfl := List.mem_singleton.mp hch
    show (0 : ℚ) ≤ 1 * (1 / 2) * 1
    norm_num

/-- With the distance law a new session gives the other device its full gain, but the change
decreases it. -/
theorem live_gain_distancelaw : ¬ GainAgrees plainEnv 2 1 (duetRenderer true) := by
  intro h
  have hdev : (setStageDeviceGain 2 1 (duetRenderer true)).stage.stage.find? 2
      = some (soloDevice 2) := rfl
  have hgains := h.channels (soloDevice 2) hdev rfl ((mem_sourceMembers_of_find? hdev).mpr rfl)
  exact absurd hgains (by decide +kernel)

end Libov
