/-
# Streams next to each other

All streams share the two buffers of the sorter.  What the loop delivers for one
stream is compared here with what it delivers when only the messages of that stream
arrive.  The two runs can come apart in two ways: a message of another stream is
held back over the held one, or it makes the loop deliver the held one before its
time.

* `Tracks` : the two runs agree on a stream, or the shared one is a message ahead;
* `KeepsApart` : a message that makes no difference to any stream;
* `streams_independent_iff` : the streams are independent throughout a run exactly
  when all its messages are of that kind;
* `other_stream_reorders` : a message of another stream in front of a late one.
-/
import Libov.SorterSequences

open Runs

namespace Libov

/-! ## What one stream gets -/

/-- The messages of a stream, in the order of their arrival. -/
def ofStream (k : Stream) (ms : List DataMsg) : List DataMsg :=
  ms.filter fun m => m.toMsgBuf.stream = k

/-- The contents of the messages of a stream. -/
def contentsOf (k : Stream) (ms : List MsgBuf) : List Content :=
  (ms.filter fun m => m.stream = k).map MsgBuf.content

/-- The messages delivered for a stream, completed by what is still held. -/
def streamOutput (k : Stream) (r : List MsgBuf × MessageSorter) : List Content :=
  contentsOf k r.1 ++ contentsOf k r.2.heldList

/-- Every stream gets what it would get alone. -/
def Independent (s : MessageSorter) (ms : List DataMsg) : Prop :=
  ∀ k, streamOutput k (sendsrv s ms) = streamOutput k (sendsrv s (ofStream k ms))

/-- The contents of a stream in two lists of messages. -/
theorem contentsOf_append (k : Stream) (ms ms' : List MsgBuf) :
    contentsOf k (ms ++ ms') = contentsOf k ms ++ contentsOf k ms' := by
  rw [contentsOf, List.filter_append, List.map_append]
  rfl

/-- A message of another stream is left out. -/
theorem contentsOf_cons (k : Stream) (m : MsgBuf) (ms : List MsgBuf) :
    contentsOf k (m :: ms) = (if m.stream = k then [m.content] else []) ++ contentsOf k ms := by
  unfold contentsOf
  rw [List.filter_cons]
  by_cases hk : m.stream = k
  · rw [if_pos (decide_eq_true hk), if_pos hk]
    rfl
  · rw [if_neg (by rw [decide_eq_true_iff]; exact hk), if_neg hk]
    rfl

/-- What is held of a stream. -/
def MessageSorter.heldOf (s : MessageSorter) (k : Stream) : List Content :=
  if s.Holds k then [s.buf1.content] else []

/-- What is released of a stream is what is held of it. -/
theorem contentsOf_released (s : MessageSorter) (k : Stream) :
    contentsOf k s.released = s.heldOf k := by
  unfold MessageSorter.released MessageSorter.heldOf
  by_cases hvalid : s.buf1.valid = true
  · rw [if_pos hvalid, contentsOf_cons, MsgBuf.stream_invalidate, MsgBuf.content_invalidate]
    by_cases hk : s.buf1.stream = k
    · rw [if_pos hk, if_pos ⟨hvalid, hk⟩]
      rfl
    · rw [if_neg hk, if_neg fun h : s.Holds k => hk h.2]
      rfl
  · rw [if_neg hvalid, if_neg fun h : s.Holds k => hvalid h.1]
    rfl

/-- With the second buffer empty only the first one holds messages. -/
theorem contentsOf_heldList {s : MessageSorter} (h : s.buf2.valid = false) (k : Stream) :
    contentsOf k s.heldList = s.heldOf k := by
  rw [← contentsOf_released]
  unfold MessageSorter.heldList MessageSorter.released
  rw [h, if_neg Bool.false_ne_true, List.append_nil]

/-! ## One message -/

/-- What a message makes the loop deliver for a stream. -/
def emitted (k : Stream) (s : MessageSorter) (m : DataMsg) : List Content :=
  contentsOf k (feed s m.toMsgBuf).1

section Emitted

variable {k : Stream} {s : MessageSorter} {m : DataMsg}

/-- Behind a gap nothing comes out. -/
theorem emitted_of_gap (hgap : s.Gap m.toMsgBuf) : emitted k s m = [] := by
  rw [emitted, feed_eq_hold m.valid m.port hgap]
  rfl

/-- A swap brings out two messages of its stream. -/
theorem emitted_of_swap (hgap : ¬ s.Gap m.toMsgBuf) (hswap : s.Swap m.toMsgBuf) :
    emitted k s m = if m.toMsgBuf.stream = k then [s.buf1.content, m.toMsgBuf.content] else [] := by
  have hstream : s.buf1.stream = m.toMsgBuf.stream := (holds_of_swap hswap).2
  rw [emitted, feed_eq_swap m.valid m.port hgap hswap, contentsOf_cons, contentsOf_cons,
    MsgBuf.stream_invalidate, MsgBuf.stream_invalidate, MsgBuf.stream_copy, hstream,
    MsgBuf.content_invalidate, MsgBuf.content_invalidate, MsgBuf.content_copy _ _ m.offset]
  split_ifs
  · rfl
  · rfl

/-- A message that is passed on comes out, and what is held of the stream behind it. -/
theorem emitted_of_pass (hbuf2 : s.buf2.valid = false) (hgap : ¬ s.Gap m.toMsgBuf)
    (hswap : ¬ s.Swap m.toMsgBuf) :
    emitted k s m = (if m.toMsgBuf.stream = k then [m.toMsgBuf.content] else []) ++ s.heldOf k := by
  rw [emitted, feed_eq_pass m.valid m.port hbuf2 hgap hswap, contentsOf_cons, contentsOf_released]
  rfl

end Emitted

/-! ## The run of a stream alone -/

/-- The sorter as it has run, `s`, next to one that has only seen stream `k`, `t`, and
what the two have delivered for the stream.  Either they agree on the stream, or a
message of another stream has already made `s` deliver what `t` still holds. -/
structure Tracks (k : Stream) (ds : List Content) (s : MessageSorter) (dt : List Content)
    (t : MessageSorter) : Prop where
  free : s.buf2.valid = false ∧ t.buf2.valid = false
  arrived : s.seqIn.last k = t.seqIn.last k
  alone : t.buf1.valid = true → t.buf1.stream = k ∧ t.seqIn.last k = t.buf1.seq
  outcome : (ds = dt ∧ s.seqOut.last k = t.seqOut.last k ∧
      (s.Holds k ↔ t.buf1.valid = true) ∧ (s.Holds k → s.buf1.content = t.buf1.content)) ∨
    (ds = dt ++ [t.buf1.content] ∧ s.seqOut.last k = t.buf1.seq ∧ ¬ s.Holds k ∧
      t.buf1.valid = true)

/-- A message that makes no difference to any stream: it is not held back over a
message of another stream, and where a message of its own stream has been delivered
before its time, it would have been delivered in front of this one anyway. -/
def KeepsApart (s t : MessageSorter) (m : DataMsg) : Prop :=
  ¬ (s.Gap m.toMsgBuf ∧ s.buf1.valid = true ∧ s.buf1.stream ≠ m.toMsgBuf.stream) ∧
    (t.Holds m.toMsgBuf.stream → ¬ s.Holds m.toMsgBuf.stream →
      (¬ t.Gap m.toMsgBuf ∧ t.Swap m.toMsgBuf) ∨ m.toMsgBuf.content = t.buf1.content)

section Tracks

variable {k : Stream} {ds dt : List Content} {s t : MessageSorter} (h : Tracks k ds s dt t)
  {m : DataMsg}

include h

/-- In the sorter of one stream everything that is held is of that stream. -/
theorem Tracks.holds_iff : t.Holds k ↔ t.buf1.valid = true :=
  ⟨fun hholds => hholds.1, fun hvalid => ⟨hvalid, (h.alone hvalid).1⟩⟩

/-- Completed by what is held, the two have delivered the same. -/
theorem Tracks.output : ds ++ s.heldOf k = dt ++ t.heldOf k := by
  unfold MessageSorter.heldOf
  rcases h.outcome with ⟨hds, -, hboth, hsame⟩ | ⟨hds, -, hnone, hvalid⟩
  · by_cases hholds : s.Holds k
    · rw [if_pos hholds, if_pos (h.holds_iff.mpr (hboth.mp hholds)), hds, hsame hholds]
    · have hholds' : ¬ t.Holds k := fun ht => hholds (hboth.mpr ht.1)
      rw [if_neg hholds, if_neg hholds', hds]
  · rw [if_neg hnone, if_pos (h.holds_iff.mpr hvalid), hds, List.append_nil]

/-- A step that has nothing of the stream before it or behind it, and delivers nothing
of it, makes no difference. -/
theorem Tracks.outcome_kept {s' : MessageSorter} (hnone : ¬ s.Holds k) (hnone' : ¬ s'.Holds k)
    (hout' : s'.seqOut.last k = s.seqOut.last k) :
    (ds = dt ∧ s'.seqOut.last k = t.seqOut.last k ∧ (s'.Holds k ↔ t.buf1.valid = true) ∧
      (s'.Holds k → s'.buf1.content = t.buf1.content)) ∨
    (ds = dt ++ [t.buf1.content] ∧ s'.seqOut.last k = t.buf1.seq ∧ ¬ s'.Holds k ∧
      t.buf1.valid = true) := by
  rcases h.outcome with ⟨hds, hout, hboth, -⟩ | ⟨hds, hout, -, hvalid⟩
  · exact Or.inl ⟨hds, hout'.trans hout, iff_of_false hnone' fun hv => hnone (hboth.mpr hv),
      fun hholds => absurd hholds hnone'⟩
  · exact Or.inr ⟨hds, hout'.trans hout, hnone', hvalid⟩

/-- A message of another stream that is not held back over the held one keeps the two
together on this stream, though it may make the held message go out early. -/
theorem Tracks.other (hk : m.toMsgBuf.stream ≠ k) (hover : ¬ (s.Gap m.toMsgBuf ∧ s.Holds k)) :
    Tracks k (ds ++ emitted k s m) (sorterStep s m) dt t := by
  have hfree := buf2_invalid_feed s m h.free.1
  have harrived : (sorterStep s m).seqIn.last k = t.seqIn.last k := by
    rw [seqIn_sorterStep s m h.free.1, SenderMap.last_record_of_ne _ (Ne.symm hk), h.arrived]
  refine ⟨⟨hfree, h.free.2⟩, harrived, h.alone, ?_⟩
  rcases sorterStep_cases s m h.free.1 with ⟨hgap, hs⟩ | ⟨hgap, hswap, hs⟩ | ⟨hgap, hswap, hs⟩
  · -- held back, in place of nothing of this stream
    have hnone : ¬ s.Holds k := fun hholds => hover ⟨hgap, hholds⟩
    have hnone' : ¬ (s.hold m.toMsgBuf).Holds k :=
      fun hholds => hk ((MessageSorter.holds_hold s _ m.valid k).mp hholds)
    rw [hs, emitted_of_gap hgap, List.append_nil]
    exact h.outcome_kept hnone hnone' rfl
  · -- swapped with a message of its own stream
    have hnone : ¬ s.Holds k := fun hholds => hk ((holds_of_swap hswap).2.symm.trans hholds.2)
    have hnone' := MessageSorter.not_holds_swap s m.toMsgBuf k
    have hout : (s.swap m.toMsgBuf).seqOut.last k = s.seqOut.last k := by
      rw [MessageSorter.last_swap s _ hswap, if_neg (Ne.symm hk)]
    rw [hs, emitted_of_swap hgap hswap, if_neg hk, List.append_nil]
    exact h.outcome_kept hnone hnone' hout
  · have hnone' := MessageSorter.not_holds_pass s m.toMsgBuf k
    rw [hs, emitted_of_pass h.free.1 hgap hswap, if_neg hk, List.nil_append, MessageSorter.heldOf]
    by_cases hholds : s.Holds k
    · -- the held message goes out early
      rcases h.outcome with ⟨hds, -, hboth, hsame⟩ | ⟨-, -, hnone, -⟩
      · have hseq : s.buf1.seq = t.buf1.seq :=
          congrArg (fun x : Content => x.2.2.1) (hsame hholds)
        rw [MessageSorter.last_pass, if_pos hholds, if_pos hholds, hds, hsame hholds]
        exact Or.inr ⟨rfl, hseq, hnone', hboth.mp hholds⟩
      · exact absurd hholds hnone
    · have hout : (s.pass m.toMsgBuf).seqOut.last k = s.seqOut.last k := by
        rw [MessageSorter.last_pass, if_neg hholds, if_neg (Ne.symm hk)]
      rw [if_neg hholds, List.append_nil]
      exact h.outcome_kept hholds hnone' hout

/-! ## Messages of the stream itself -/

section Own

variable (hk : m.toMsgBuf.stream = k)

include hk

/-- Both sorters compare a message of the stream with the same number on the way in. -/
theorem Tracks.dseqIn_eq : deltaseqConst s.seqIn m.toMsgBuf = deltaseqConst t.seqIn m.toMsgBuf := by
  rw [deltaseqConst_eq, deltaseqConst_eq, hk, h.arrived]

/-- In the run of the stream alone a message is the last arrival of the stream, and the
one held back if any is. -/
theorem Tracks.alone_step :
    (sorterStep s m).seqIn.last k = (sorterStep t m).seqIn.last k ∧
      ((sorterStep t m).buf1.valid = true → (sorterStep t m).buf1.stream = k ∧
        (sorterStep t m).seqIn.last k = (sorterStep t m).buf1.seq) := by
  have hs : (sorterStep s m).seqIn.last k = m.toMsgBuf.seq := by
    rw [seqIn_sorterStep s m h.free.1, ← hk, SenderMap.last_record_self]
  have ht : (sorterStep t m).seqIn.last k = m.toMsgBuf.seq := by
    rw [seqIn_sorterStep t m h.free.2, ← hk, SenderMap.last_record_self]
  refine ⟨hs.trans ht.symm, ?_⟩
  rw [ht]
  rcases sorterStep_cases t m h.free.2 with ⟨-, hstep⟩ | ⟨-, -, hstep⟩ | ⟨-, -, hstep⟩
  · rw [hstep]
    exact fun _ => ⟨hk, rfl⟩
  · rw [hstep]
    exact fun hv => absurd ⟨hv, rfl⟩ (MessageSorter.not_holds_swap t m.toMsgBuf _)
  · rw [hstep]
    exact fun hv => absurd ⟨hv, rfl⟩ (MessageSorter.not_holds_pass t m.toMsgBuf _)

section Sync

variable (hout : s.seqOut.last k = t.seqOut.last k)

include hout

omit h in
/-- Where nothing of the stream has been released in between, they also do on the way out. -/
theorem dseqOut_sync :
    deltaseqConst s.seqOut m.toMsgBuf = deltaseqConst t.seqOut m.toMsgBuf := by
  rw [deltaseqConst_eq, deltaseqConst_eq, hk, hout]

/-- While the two agree on the stream, a message opens a gap for both or for neither. -/
theorem Tracks.gap_sync : s.Gap m.toMsgBuf ↔ t.Gap m.toMsgBuf := by
  unfold MessageSorter.Gap
  rw [h.dseqIn_eq hk, dseqOut_sync hk hout]

variable (hboth : s.Holds k ↔ t.buf1.valid = true)
  (hsame : s.Holds k → s.buf1.content = t.buf1.content)

include hboth hsame

/-- It swaps with the held message of both or of neither. -/
theorem Tracks.swap_sync : s.Swap m.toMsgBuf ↔ t.Swap m.toMsgBuf := by
  have hholds_iff : s.Holds k ↔ t.Holds k := hboth.trans h.holds_iff.symm
  have hfar : s.Far m.toMsgBuf ↔ t.Far m.toMsgBuf := by
    unfold MessageSorter.Far
    rw [h.dseqIn_eq hk, dseqOut_sync hk hout]
  rw [swap_iff, swap_iff, hfar, hk, hholds_iff]
  refine and_congr_right fun hcompared => ?_
  have hseq : s.buf1.seq = t.buf1.seq :=
    congrArg (fun x : Content => x.2.2.1) (hsame (hholds_iff.mpr hcompared.2))
  rw [hseq]

/-- So they do the same with it. -/
theorem Tracks.own_sync (hds : ds = dt) :
    Tracks k (ds ++ emitted k s m) (sorterStep s m) (dt ++ emitted k t m) (sorterStep t m) := by
  have hgap_iff := h.gap_sync hk hout
  have hswap_iff := h.swap_sync hk hout hboth hsame
  have hholds_iff : s.Holds k ↔ t.Holds k := hboth.trans h.holds_iff.symm
  have hheld : s.heldOf k = t.heldOf k := List.append_cancel_left (hds ▸ h.output)
  obtain ⟨harrived, halone⟩ := h.alone_step hk
  refine ⟨⟨buf2_invalid_feed s m h.free.1, buf2_invalid_feed t m h.free.2⟩, harrived, halone,
    Or.inl ?_⟩
  rcases sorterStep_cases s m h.free.1 with ⟨hgap, hs⟩ | ⟨hgap, hswap, hs⟩ | ⟨hgap, hswap, hs⟩
  · have hgap' := hgap_iff.mp hgap
    have ht : sorterStep t m = t.hold m.toMsgBuf :=
      congrArg Prod.snd (feed_eq_hold m.valid m.port hgap')
    rw [hs, ht, emitted_of_gap hgap, emitted_of_gap hgap', hds]
    refine ⟨rfl, hout, ?_, fun _ => ?_⟩
    · exact iff_of_true ((MessageSorter.holds_hold s _ m.valid k).mpr hk) m.valid
    · exact (MsgBuf.content_copy _ _ m.offset).trans (MsgBuf.content_copy _ _ m.offset).symm
  · have hgap' := mt hgap_iff.mpr hgap
    have hswap' := hswap_iff.mp hswap
    have ht : sorterStep t m = t.swap m.toMsgBuf :=
      congrArg Prod.snd (feed_eq_swap m.valid m.port hgap' hswap')
    have hcontent := hsame (hk ▸ holds_of_swap hswap)
    rw [hs, ht, emitted_of_swap hgap hswap, emitted_of_swap hgap' hswap', hds, hcontent,
      MessageSorter.last_swap s _ hswap, MessageSorter.last_swap t _ hswap', hout]
    have hnone := MessageSorter.not_holds_swap s m.toMsgBuf k
    exact ⟨rfl, rfl, iff_of_false hnone Bool.false_ne_true, fun hh => absurd hh hnone⟩
  · have hgap' := mt hgap_iff.mpr hgap
    have hswap' := mt hswap_iff.mpr hswap
    have ht : sorterStep t m = t.pass m.toMsgBuf :=
      congrArg Prod.snd (feed_eq_pass m.valid m.port h.free.2 hgap' hswap')
    have hnone := MessageSorter.not_holds_pass s m.toMsgBuf k
    rw [hs, ht, emitted_of_pass h.free.1 hgap hswap, emitted_of_pass h.free.2 hgap' hswap', hds,
      hheld, MessageSorter.last_pass, MessageSorter.last_pass, MessageSorter.buf1_invalid_pass,
      hout]
    refine ⟨rfl, ?_, iff_of_false hnone Bool.false_ne_true, fun hh => absurd hh hnone⟩
    by_cases hholds : s.Holds k
    · rw [if_pos hholds, if_pos (hholds_iff.mp hholds)]
      exact congrArg (fun x : Content => x.2.2.1) (hsame hholds)
    · rw [if_neg hholds, if_neg (mt hholds_iff.mpr hholds)]

end Sync

/-- Where the held message has gone out early, the next message of the stream follows
it at once, or is held back itself. -/
theorem Tracks.early_emits (hnone : ¬ s.Holds k) :
    emitted k s m ++ (sorterStep s m).heldOf k = [m.toMsgBuf.content] := by
  unfold MessageSorter.heldOf
  rcases sorterStep_cases s m h.free.1 with ⟨hgap, hs⟩ | ⟨hgap, hswap, hs⟩ | ⟨hgap, hswap, hs⟩
  · rw [hs, emitted_of_gap hgap, if_pos ((MessageSorter.holds_hold s _ m.valid k).mpr hk)]
    show [] ++ [(s.buf1.copy m.toMsgBuf).content] = _
    rw [MsgBuf.content_copy _ _ m.offset]
    rfl
  · exact absurd (hk ▸ holds_of_swap hswap) hnone
  · rw [hs, emitted_of_pass h.free.1 hgap hswap, if_pos hk, MessageSorter.heldOf, if_neg hnone,
      if_neg (MessageSorter.not_holds_pass s m.toMsgBuf k)]
    rfl

/-- Where it has gone out early and the next message is not far ahead of it, that one is
delivered at once and becomes the last delivery. -/
theorem Tracks.early_pass (hnone : ¬ s.Holds k)
    (hnear : ¬ 1 < deltaseqConst t.seqIn m.toMsgBuf) :
    emitted k s m = [m.toMsgBuf.content] ∧ ¬ (sorterStep s m).Holds k ∧
      (sorterStep s m).seqOut.last k = m.toMsgBuf.seq := by
  have hgap : ¬ s.Gap m.toMsgBuf := fun hgap => hnear (h.dseqIn_eq hk ▸ hgap.1)
  have hswap : ¬ s.Swap m.toMsgBuf := fun hswap => hnone (hk ▸ holds_of_swap hswap)
  have hs : sorterStep s m = s.pass m.toMsgBuf :=
    congrArg Prod.snd (feed_eq_pass m.valid m.port h.free.1 hgap hswap)
  rw [hs, emitted_of_pass h.free.1 hgap hswap, if_pos hk, MessageSorter.heldOf, if_neg hnone,
    MessageSorter.last_pass, if_neg hnone, if_pos hk.symm]
  exact ⟨rfl, MessageSorter.not_holds_pass s m.toMsgBuf k, rfl⟩

/-- The next message of the stream keeps the two together, where a message that went
out early would have gone out in front of it anyway. -/
theorem Tracks.own (hm : t.Holds k → ¬ s.Holds k →
      (¬ t.Gap m.toMsgBuf ∧ t.Swap m.toMsgBuf) ∨ m.toMsgBuf.content = t.buf1.content) :
    Tracks k (ds ++ emitted k s m) (sorterStep s m) (dt ++ emitted k t m) (sorterStep t m) := by
  rcases h.outcome with ⟨hds, hout, hboth, hsame⟩ | ⟨hds, hout, hnone, hvalid⟩
  · exact h.own_sync hk hout hboth hsame hds
  · obtain ⟨harrived, halone⟩ := h.alone_step hk
    refine ⟨⟨buf2_invalid_feed s m h.free.1, buf2_invalid_feed t m h.free.2⟩, harrived, halone,
      Or.inl ?_⟩
    rcases hm (h.holds_iff.mpr hvalid) hnone with ⟨hgap, hswap⟩ | hcontent
    · -- alone, the held message and the new one go out together
      have hfar := ((swap_iff _ _).mp hswap).1.1
      have hnear : ¬ 1 < deltaseqConst t.seqIn m.toMsgBuf := by
        intro hlt
        rcases hfar with hback | ⟨hahead, -⟩
        · exact Int16.lt_irrefl (Int16.lt_trans (Int16.lt_trans hback (by decide)) hlt)
        · exact hgap ⟨hlt, hahead⟩
      obtain ⟨hemit, hnone', hout'⟩ := h.early_pass hk hnone hnear
      have ht : sorterStep t m = t.swap m.toMsgBuf :=
        congrArg Prod.snd (feed_eq_swap m.valid m.port hgap hswap)
      rw [ht, hemit, emitted_of_swap hgap hswap, if_pos hk, hds, List.append_assoc,
        MessageSorter.last_swap t _ hswap, if_pos hk.symm]
      exact ⟨rfl, hout', iff_of_false hnone' Bool.false_ne_true, fun hh => absurd hh hnone'⟩
    · -- the same message once more
      have hseq : m.toMsgBuf.seq = t.buf1.seq := congrArg (fun x : Content => x.2.2.1) hcontent
      have hzero : deltaseqConst t.seqIn m.toMsgBuf = 0 := by
        rw [deltaseqConst_eq, hk, (h.alone hvalid).2, hseq, Int16.sub_self]
      have hgap : ¬ t.Gap m.toMsgBuf := fun hgap => absurd hgap.1 (by rw [hzero]; decide)
      have hswap : ¬ t.Swap m.toMsgBuf := by
        intro hswap
        rcases ((swap_iff _ _).mp hswap).1.1 with hback | ⟨-, hahead⟩
        · exact absurd hback (by rw [hzero]; decide)
        · exact absurd hahead (by rw [hzero]; decide)
      obtain ⟨hemit, hnone', hout'⟩ := h.early_pass hk hnone (by rw [hzero]; decide)
      have ht : sorterStep t m = t.pass m.toMsgBuf :=
        congrArg Prod.snd (feed_eq_pass m.valid m.port h.free.2 hgap hswap)
      have hholds := h.holds_iff.mpr hvalid
      rw [ht, hemit, emitted_of_pass h.free.2 hgap hswap, if_pos hk, MessageSorter.heldOf,
        if_pos hholds, hds, List.append_assoc, hcontent, MessageSorter.last_pass, if_pos hholds,
        MessageSorter.buf1_invalid_pass]
      exact ⟨rfl, hout'.trans hseq, iff_of_false hnone' Bool.false_ne_true,
        fun hh => absurd hh hnone'⟩

/-- Where it would not, the stream gets its messages in another order, or one more. -/
theorem Tracks.own_diverges (ht : t.Holds k) (hs : ¬ s.Holds k)
    (hno : ¬ ((¬ t.Gap m.toMsgBuf ∧ t.Swap m.toMsgBuf) ∨
      m.toMsgBuf.content = t.buf1.content)) :
    ds ++ emitted k s m ++ (sorterStep s m).heldOf k
      ≠ dt ++ emitted k t m ++ (sorterStep t m).heldOf k := by
  rcases h.outcome with ⟨-, -, hboth, -⟩ | ⟨hds, -, -, -⟩
  · exact absurd (hboth.mpr ht.1) hs
  · intro heq
    have hleft : ds ++ emitted k s m ++ (sorterStep s m).heldOf k
        = dt ++ [t.buf1.content, m.toMsgBuf.content] := by
      rw [List.append_assoc, h.early_emits hk hs, hds, List.append_assoc]
      rfl
    rw [hleft, List.append_assoc] at heq
    have hsame := List.append_cancel_left heq
    rcases sorterStep_cases t m h.free.2 with ⟨hgap, hstep⟩ | ⟨hgap, hswap, -⟩ |
      ⟨hgap, hswap, hstep⟩
    · -- alone, the held message is overwritten
      have hholds : (t.hold m.toMsgBuf).Holds k :=
        (MessageSorter.holds_hold t _ m.valid k).mpr hk
      rw [hstep, emitted_of_gap hgap, MessageSorter.heldOf, if_pos hholds] at hsame
      exact List.cons_ne_nil _ _ (List.cons.inj hsame).2
    · exact hno (Or.inl ⟨hgap, hswap⟩)
    · -- alone, the new message goes out first
      rw [hstep, emitted_of_pass h.free.2 hgap hswap, if_pos hk, MessageSorter.heldOf, if_pos ht]
        at hsame
      exact hno (Or.inr (List.cons.inj hsame).1.symm)

end Own

/-- A message held back over the held one of another stream takes it from that stream. -/
theorem Tracks.other_diverges (hk : m.toMsgBuf.stream ≠ k) (hgap : s.Gap m.toMsgBuf)
    (hholds : s.Holds k) :
    ds ++ emitted k s m ++ (sorterStep s m).heldOf k ≠ dt ++ t.heldOf k := by
  rcases h.outcome with ⟨hds, -, hboth, -⟩ | ⟨-, -, hnone, -⟩
  · have hstep : sorterStep s m = s.hold m.toMsgBuf :=
      congrArg Prod.snd (feed_eq_hold m.valid m.port hgap)
    have hnone : ¬ (s.hold m.toMsgBuf).Holds k :=
      fun hh => hk ((MessageSorter.holds_hold s _ m.valid k).mp hh)
    rw [hstep, emitted_of_gap hgap, MessageSorter.heldOf, if_neg hnone, MessageSorter.heldOf,
      if_pos (h.holds_iff.mpr (hboth.mp hholds)), hds, List.append_nil]
    intro heq
    exact List.cons_ne_nil _ _ (List.append_cancel_left heq).symm
  · exact absurd hholds hnone

end Tracks

/-! ## Whole runs -/

/-- The messages of a stream in two lists. -/
theorem ofStream_append (k : Stream) (ms ms' : List DataMsg) :
    ofStream k (ms ++ ms') = ofStream k ms ++ ofStream k ms' := List.filter_append ..

/-- A message is one of its own stream. -/
theorem ofStream_one_self (m : DataMsg) : ofStream m.toMsgBuf.stream [m] = [m] :=
  List.filter_cons_of_pos (decide_eq_true rfl)

/-- It is none of another stream. -/
theorem ofStream_one_of_ne {m : DataMsg} {k : Stream} (h : m.toMsgBuf.stream ≠ k) :
    ofStream k [m] = [] :=
  List.filter_cons_of_neg (by rw [decide_eq_true_iff]; exact h)

section Runs

variable (s : MessageSorter)

/-- What a run delivers for a stream with one more message. -/
theorem contentsOf_sendsrv_append (k : Stream) (ms : List DataMsg) (m : DataMsg) :
    contentsOf k (sendsrv s (ms ++ [m])).1
      = contentsOf k (sendsrv s ms).1 ++ emitted k (run sorterStep s ms) m := by
  rw [sendsrv_append, contentsOf_append, (sendsrv_run s ms).2, sendsrv_one]
  rfl

/-- What comes out of a stream, with what is still held of it, in terms of the loop. -/
theorem streamOutput_sendsrv (k : Stream) {ms : List DataMsg} (h : s.buf2.valid = false) :
    streamOutput k (sendsrv s ms)
      = contentsOf k (sendsrv s ms).1 ++ (run sorterStep s ms).heldOf k := by
  rw [streamOutput, (sendsrv_run s ms).2, contentsOf_heldList (buf2_invalid_run h ms)]

/-- The shared run and the run of the stream alone. -/
def TracksRun (ms : List DataMsg) : Prop :=
  ∀ k, Tracks k (contentsOf k (sendsrv s ms).1) (run sorterStep s ms)
    (contentsOf k (sendsrv s (ofStream k ms)).1) (run sorterStep s (ofStream k ms))

/-- The next message makes no difference to any stream. -/
def KeepsApartBehind (ms : List DataMsg) (m : DataMsg) : Prop :=
  KeepsApart (run sorterStep s ms) (run sorterStep s (ofStream m.toMsgBuf.stream ms)) m

variable {s}

/-- A run that keeps the streams apart can be followed by one more message that does. -/
theorem TracksRun.append {ms : List DataMsg} (h : TracksRun s ms) {m : DataMsg}
    (hm : KeepsApartBehind s ms m) : TracksRun s (ms ++ [m]) := by
  intro k
  rw [contentsOf_sendsrv_append, run_append_one, ofStream_append]
  by_cases hk : m.toMsgBuf.stream = k
  · subst hk
    rw [ofStream_one_self, contentsOf_sendsrv_append, run_append_one]
    exact (h _).own rfl hm.2
  · rw [ofStream_one_of_ne hk, List.append_nil]
    refine (h k).other hk fun hover => hm.1 ⟨hover.1, hover.2.1, ?_⟩
    exact fun heq => hk (heq.symm.trans hover.2.2)

/-- Two runs that agree on all streams have delivered the same to all of them. -/
theorem TracksRun.independent {ms : List DataMsg} (h : TracksRun s ms)
    (hfree : s.buf2.valid = false) : Independent s ms := by
  intro k
  rw [streamOutput_sendsrv s k hfree, streamOutput_sendsrv s k hfree]
  exact (h k).output

/-- A message that makes a difference shows in what a stream gets. -/
theorem TracksRun.keepsApart {ms : List DataMsg} (h : TracksRun s ms)
    (hfree : s.buf2.valid = false) {m : DataMsg} (hind : Independent s (ms ++ [m])) :
    KeepsApartBehind s ms m := by
  constructor
  · rintro ⟨hgap, hvalid, hne⟩
    have hk : m.toMsgBuf.stream ≠ (run sorterStep s ms).buf1.stream := Ne.symm hne
    have hout := hind (run sorterStep s ms).buf1.stream
    rw [streamOutput_sendsrv s _ hfree, streamOutput_sendsrv s _ hfree, ofStream_append,
      ofStream_one_of_ne hk, List.append_nil, contentsOf_sendsrv_append, run_append_one] at hout
    exact (h _).other_diverges hk hgap ⟨hvalid, rfl⟩ hout
  · intro ht hs
    by_contra hno
    have hout := hind m.toMsgBuf.stream
    rw [streamOutput_sendsrv s _ hfree, streamOutput_sendsrv s _ hfree, ofStream_append,
      ofStream_one_self, contentsOf_sendsrv_append, contentsOf_sendsrv_append, run_append_one,
      run_append_one] at hout
    exact (h _).own_diverges rfl ht hs hno hout

end Runs

/-- With no message the sorters are both new. -/
theorem tracksRun_fresh (sender1 sender2 : Endpoint) :
    TracksRun (MessageSorter.fresh sender1 sender2) [] := by
  intro k
  have hnone : ¬ (MessageSorter.fresh sender1 sender2).Holds k := fun h => Bool.false_ne_true h.1
  exact ⟨⟨rfl, rfl⟩, rfl, fun h => absurd h Bool.false_ne_true,
    Or.inl ⟨rfl, rfl, iff_of_false hnone Bool.false_ne_true, fun h => absurd h hnone⟩⟩

/-- The two runs agree on all streams behind messages that make no difference. -/
theorem tracksRun_of_keepsApart (sender1 sender2 : Endpoint) (ms : List DataMsg)
    (hall : ∀ before m after, ms = before ++ m :: after →
      KeepsApartBehind (MessageSorter.fresh sender1 sender2) before m) :
    TracksRun (MessageSorter.fresh sender1 sender2) ms := by
  induction ms using List.reverseRecOn with
  | nil => exact tracksRun_fresh sender1 sender2
  | append_singleton ms m ih =>
      have hbefore := ih fun before m' after hsplit =>
        hall before m' (after ++ [m]) (by rw [hsplit, List.append_assoc]; rfl)
      exact hbefore.append (hall ms m [] rfl)

/-- On a fresh sorter every stream gets, at every point of a run, what it would get
alone, exactly when no message of the run makes a difference to a stream. -/
theorem streams_independent_iff (sender1 sender2 : Endpoint) (ms : List DataMsg) :
    (∀ n, Independent (MessageSorter.fresh sender1 sender2) (ms.take n)) ↔
      ∀ before m after, ms = before ++ m :: after →
        KeepsApartBehind (MessageSorter.fresh sender1 sender2) before m := by
  constructor
  · intro hind before
    -- the messages before the first one that makes a difference keep the runs together
    induction hlen : before.length using Nat.strong_induction_on generalizing before with
    | _ len ih =>
        intro m after hsplit
        have htracks : TracksRun (MessageSorter.fresh sender1 sender2) before := by
          refine tracksRun_of_keepsApart sender1 sender2 before fun before' m' after' hsplit' => ?_
          refine ih before'.length ?_ before' rfl m' (after' ++ m :: after) ?_
          · rw [← hlen, hsplit', List.length_append, List.length_cons]
            omega
          · rw [hsplit, hsplit', List.append_assoc]
            rfl
        have htake : ms.take (before.length + 1) = before ++ [m] := by
          rw [hsplit, List.append_cons]
          exact List.take_left' (List.length_append ..)
        exact htracks.keepsApart rfl (htake ▸ hind (before.length + 1))
  · intro hall n
    refine (tracksRun_of_keepsApart sender1 sender2 (ms.take n) ?_).independent rfl
    intro before m after hsplit
    refine hall before m (after ++ ms.drop n) ?_
    rw [← List.cons_append, ← List.append_assoc, ← hsplit, List.take_append_drop]

/-- A stream whose number `2` is held back, a message of another sender that makes it go
out, and the late number `1`: alone, the stream would have got `1` before `2`. -/
theorem other_stream_reorders :
    ¬ Independent (MessageSorter.fresh Endpoint.cleared Endpoint.cleared)
      [emptyMsg 1 1234 2 (by decide), emptyMsg 2 1234 1 (by decide),
        emptyMsg 1 1234 1 (by decide)] := by
  let s := MessageSorter.fresh Endpoint.cleared Endpoint.cleared
  let second := emptyMsg 1 1234 2 (by decide)
  let other := emptyMsg 2 1234 1 (by decide)
  let late := emptyMsg 1 1234 1 (by decide)
  have hsecond : run sorterStep s [second] = s.hold second.toMsgBuf :=
    congrArg Prod.snd (feed_eq_hold second.valid second.port (by decide))
  have hother : run sorterStep s [second, other]
      = (s.hold second.toMsgBuf).pass other.toMsgBuf := by
    show sorterStep (run sorterStep s [second]) other = _
    rw [hsecond]
    exact congrArg Prod.snd
      (feed_eq_pass other.valid other.port rfl (by decide) (by decide))
  -- up to the late message the stream has got what it would get alone
  have htracks : TracksRun s [second, other] := by
    have hfirst : KeepsApartBehind s [] second :=
      ⟨fun h => absurd h.2.1 (by decide), fun h => absurd h (by decide)⟩
    have hnext : KeepsApartBehind s [second] other := by
      unfold KeepsApartBehind
      rw [hsecond]
      exact ⟨fun h => absurd h.1 (by decide), fun h => absurd h (by decide)⟩
    exact ((tracksRun_fresh Endpoint.cleared Endpoint.cleared).append hfirst).append hnext
  intro hind
  have hlate : KeepsApart (run sorterStep s [second, other]) (run sorterStep s [second]) late :=
    htracks.keepsApart rfl hind
  rw [hother, hsecond] at hlate
  rcases hlate.2 (by decide) (MessageSorter.not_holds_pass _ _ _) with ⟨-, hswap⟩ | hcontent
  · exact absurd hswap (by decide)
  · exact absurd (congrArg (fun x : Content => x.2.2.1) hcontent) (by decide)

end Libov
