/-
# Length-prefixed frames on a byte stream

A frame is a four-byte little-endian length followed by that many bytes.  This
file is about the format alone: what a stream of frames is (`stream`), when a
byte string begins with a complete frame of admissible length
(`StartsWithFrame`), and what the frames in front of the first oversized or
truncated one are (`FramePrefix`).

* `frame_append_inj` : a frame is recovered from any string that begins with it;
* `startsWithFrame_iff` : the test a decoder makes on length field and remaining
  bytes decides `StartsWithFrame`;
* `FramePrefix.unique` : the frames of a byte string are determined by it, which
  makes `FramePrefix` a specification of every decoder;
* `framePrefix_stream` : of an encoded list it is that list.
-/
import Libov.Buffers

namespace Framing

/-- A byte string with its four-byte little-endian length in front. -/
def frame (d : List UInt8) : List UInt8 := leBytes 4 d.length ++ d

/-- The concatenation of the frames of a list of byte strings. -/
def stream (ds : List (List UInt8)) : List UInt8 := (ds.map frame).flatten

/-- The byte string begins with a complete frame of at most `limit` bytes. -/
def StartsWithFrame (limit : ℕ) (bs : List UInt8) : Prop :=
  ∃ d rest, d.length ≤ limit ∧ bs = frame d ++ rest

/-- `ds` are the payloads of all complete frames of at most `limit` bytes at the
front of `bs`: what follows them does not begin with another such frame. -/
def FramePrefix (limit : ℕ) (bs : List UInt8) (ds : List (List UInt8)) : Prop :=
  (∀ d ∈ ds, d.length ≤ limit) ∧
    ∃ rest, bs = stream ds ++ rest ∧ ¬ StartsWithFrame limit rest

@[simp] theorem length_frame (d : List UInt8) : (frame d).length = 4 + d.length := by
  rw [frame, List.length_append, length_leBytes]

@[simp] theorem stream_nil : stream [] = [] := rfl

theorem stream_cons (d : List UInt8) (ds : List (List UInt8)) :
    stream (d :: ds) = frame d ++ stream ds := by
  rw [stream, List.map_cons, List.flatten_cons, ← stream]

/-- The length field of a frame. -/
theorem take_frame_append (d rest : List UInt8) :
    (frame d ++ rest).take 4 = leBytes 4 d.length := by
  rw [frame, List.append_assoc, List.take_left' (length_leBytes 4 d.length)]

/-- What follows the length field of a frame. -/
theorem drop_frame_append (d rest : List UInt8) : (frame d ++ rest).drop 4 = d ++ rest := by
  rw [frame, List.append_assoc, List.drop_left' (length_leBytes 4 d.length)]

/-- A frame and what follows it are recovered from their concatenation. -/
theorem frame_append_inj {d d' rest rest' : List UInt8} (hd : d.length < 256 ^ 4)
    (hd' : d'.length < 256 ^ 4) (h : frame d ++ rest = frame d' ++ rest') :
    d = d' ∧ rest = rest' := by
  have hlen : d.length = d'.length := by
    have htake := congrArg (fun l => leValue (l.take 4)) h
    simpa only [take_frame_append, leValue_leBytes_of_lt hd, leValue_leBytes_of_lt hd'] using htake
  have hdrop := congrArg (List.drop 4) h
  rw [drop_frame_append, drop_frame_append] at hdrop
  exact List.append_inj hdrop hlen

/-- An empty string does not begin with a frame. -/
theorem not_startsWithFrame_nil (limit : ℕ) : ¬ StartsWithFrame limit [] := by
  rintro ⟨d, rest, -, h⟩
  have hlen := congrArg List.length h
  simp only [List.length_nil, List.length_append, length_frame] at hlen
  omega

/-- The decision a decoder takes on the length field and the bytes behind it. -/
theorem startsWithFrame_iff {limit : ℕ} (hlimit : limit < 256 ^ 4) (bs : List UInt8) :
    StartsWithFrame limit bs ↔
      4 ≤ bs.length ∧ leValue (bs.take 4) ≤ limit ∧
        leValue (bs.take 4) ≤ (bs.drop 4).length := by
  constructor
  · rintro ⟨d, rest, hd, rfl⟩
    rw [take_frame_append, drop_frame_append, leValue_leBytes_of_lt (by omega)]
    simp only [List.length_append, length_frame]
    omega
  · rintro ⟨h4, hle, hlen⟩
    refine ⟨(bs.drop 4).take (leValue (bs.take 4)), (bs.drop 4).drop (leValue (bs.take 4)), ?_, ?_⟩
    · rw [List.length_take]; omega
    · have hfield : (bs.take 4).length = 4 := List.length_take_of_le h4
      have hhead := leBytes_leValue (bs.take 4)
      rw [hfield] at hhead
      rw [frame, List.length_take_of_le hlen, hhead, List.append_assoc, List.take_append_drop,
        List.take_append_drop]

/-- No frame in front: the empty list of frames. -/
theorem framePrefix_nil {limit : ℕ} {bs : List UInt8} (h : ¬ StartsWithFrame limit bs) :
    FramePrefix limit bs [] :=
  ⟨by simp, bs, rfl, h⟩

/-- One frame in front of a string with known frames. -/
theorem FramePrefix.cons {limit : ℕ} {bs d : List UInt8} {ds : List (List UInt8)}
    (hd : d.length ≤ limit) (h : FramePrefix limit bs ds) :
    FramePrefix limit (frame d ++ bs) (d :: ds) := by
  obtain ⟨hle, rest, rfl, hrest⟩ := h
  refine ⟨?_, rest, ?_, hrest⟩
  · intro x hx
    rcases List.mem_cons.mp hx with rfl | hx
    · exact hd
    · exact hle x hx
  · rw [stream_cons, List.append_assoc]

/-- The frames at the front of a byte string are determined by it. -/
theorem FramePrefix.unique {limit : ℕ} (hlimit : limit < 256 ^ 4) {bs : List UInt8}
    {ds ds' : List (List UInt8)} (h : FramePrefix limit bs ds) (h' : FramePrefix limit bs ds') :
    ds = ds' := by
  induction ds generalizing bs ds' with
  | nil =>
      obtain ⟨-, rest, hbs, hrest⟩ := h
      obtain ⟨hle', rest', hbs', -⟩ := h'
      cases ds' with
      | nil => rfl
      | cons d' ds' =>
          refine absurd ⟨d', stream ds' ++ rest', hle' d' List.mem_cons_self, ?_⟩ hrest
          rw [stream_nil, List.nil_append] at hbs
          rw [← hbs, hbs', stream_cons, List.append_assoc]
  | cons d ds ih =>
      obtain ⟨hle, rest, hbs, hrest⟩ := h
      obtain ⟨hle', rest', hbs', hrest'⟩ := h'
      rw [stream_cons, List.append_assoc] at hbs
      cases ds' with
      | nil =>
          refine absurd ⟨d, stream ds ++ rest, hle d List.mem_cons_self, ?_⟩ hrest'
          rw [stream_nil, List.nil_append] at hbs'
          rw [← hbs', hbs]
      | cons d' ds' =>
          rw [stream_cons, List.append_assoc] at hbs'
          have hd : d.length ≤ limit := hle d List.mem_cons_self
          have hd' : d'.length ≤ limit := hle' d' List.mem_cons_self
          obtain ⟨rfl, htail⟩ :=
            frame_append_inj (by omega) (by omega) (hbs.symm.trans hbs')
          have hds : ds = ds' := ih
            ⟨fun x hx => hle x (List.mem_cons_of_mem d hx), rest, rfl, hrest⟩
            ⟨fun x hx => hle' x (List.mem_cons_of_mem d hx), rest', htail, hrest'⟩
          rw [hds]

/-- The frames of an encoded list are the list. -/
theorem framePrefix_stream {limit : ℕ} (ds : List (List UInt8))
    (hle : ∀ d ∈ ds, d.length ≤ limit) : FramePrefix limit (stream ds) ds :=
  ⟨hle, [], (List.append_nil _).symm, not_startsWithFrame_nil limit⟩

end Framing
