/-
# Interrupted tunnels

A tunnel may be interrupted at any time: by `close()` from another thread, which clears
`run_server` in the middle of a frame, by an error on one of its ends, or by the end of the
stream.  Whatever has been written and read until then, in whatever pieces:

* `framePrefix_interrupted` : the receiving side forwards the complete frames that have arrived;
* `udpreceive_front` : what the sending side has put on the wire is the front of the frames of
  its datagrams, if nothing is written behind a frame that was cut off;
* `failStop_of_shutdown` : which is the case if `close()` is all that interrupts it;
* `tunnel_interrupted` : so what comes out is the front of what went in, and all of it that
  arrived as a whole.
-/
import Libov.TunnelFraming

open Framing

/-! ## Frames at the front of a stream that has been cut -/

namespace Framing

variable {limit : ℕ} {bs : List UInt8} {ds es : List (List UInt8)}

/-- The complete frames of the front of a stream are its first ones. -/
theorem FramePrefix.prefix_of_stream (hlimit : limit < 256 ^ 4) (h : FramePrefix limit bs ds)
    (hes : ∀ e ∈ es, e.length ≤ limit) (hbs : bs <+: stream es) : ds <+: es := by
  induction ds generalizing bs es with
  | nil => exact List.nil_prefix
  | cons d ds ih =>
      obtain ⟨hle, rest, rfl, hrest⟩ := h
      obtain ⟨behind, hbehind⟩ := hbs
      rw [stream_cons, List.append_assoc, List.append_assoc] at hbehind
      cases es with
      | nil =>
          have hlen := congrArg List.length hbehind
          simp only [stream_nil, List.length_nil, List.length_append, length_frame] at hlen
          omega
      | cons e es =>
          have hd : d.length ≤ limit := hle d List.mem_cons_self
          have he : e.length ≤ limit := hes e List.mem_cons_self
          rw [stream_cons] at hbehind
          obtain ⟨rfl, htail⟩ := frame_append_inj (by omega) (by omega) hbehind
          have hframes : FramePrefix limit (stream ds ++ rest) ds :=
            ⟨fun x hx => hle x (List.mem_cons_of_mem d hx), rest, rfl, hrest⟩
          have hfront : stream ds ++ rest <+: stream es :=
            ⟨behind, (List.append_assoc ..).trans htail⟩
          exact List.cons_prefix_cons.mpr
            ⟨rfl, ih hframes (fun x hx => hes x (List.mem_cons_of_mem d hx)) hfront⟩

/-- All frames that are there as a whole are among the complete ones. -/
theorem FramePrefix.stream_front (hlimit : limit < 256 ^ 4) (h : FramePrefix limit bs ds)
    (hes : ∀ e ∈ es, e.length ≤ limit) (hbs : stream es <+: bs) : es <+: ds := by
  induction es generalizing bs ds with
  | nil => exact List.nil_prefix
  | cons e es ih =>
      obtain ⟨hle, rest, rfl, hrest⟩ := h
      obtain ⟨behind, hbehind⟩ := hbs
      have he : e.length ≤ limit := hes e List.mem_cons_self
      rw [stream_cons, List.append_assoc] at hbehind
      cases ds with
      | nil => exact absurd ⟨e, stream es ++ behind, he, hbehind.symm⟩ hrest
      | cons d ds =>
          have hd : d.length ≤ limit := hle d List.mem_cons_self
          rw [stream_cons, List.append_assoc] at hbehind
          obtain ⟨rfl, htail⟩ := frame_append_inj (by omega) (by omega) hbehind
          have hframes : FramePrefix limit (stream ds ++ rest) ds :=
            ⟨fun x hx => hle x (List.mem_cons_of_mem e hx), rest, rfl, hrest⟩
          exact List.cons_prefix_cons.mpr
            ⟨rfl, ih hframes (fun x hx => hes x (List.mem_cons_of_mem e hx)) ⟨behind, htail⟩⟩

end Framing

namespace Libov

/-! ## The receiving side -/

/-- Signals without a byte are short of every request. -/
theorem shortOf_of_no_byte {cnt : ℕ} {rest : List Signal} (hrest : ∀ b, Signal.byte b ∉ rest)
    (hcnt : 0 < cnt) : ShortOf cnt rest := by
  refine ⟨[], rest, rfl, hcnt, ?_⟩
  rintro b tail rfl
  exact hrest b List.mem_cons_self

/-- The handler forwards the complete frames in front of the interruption. -/
theorem framePrefix_interrupted {rest : List Signal} (hrest : ∀ b, Signal.byte b ∉ rest)
    (bs : List UInt8) :
    ∀ c : Conn, c.runServer = true → c.signals = bs.map .byte ++ rest →
      FramePrefix bufSize bs (handleconnection c).sent := by
  have hfirst : ∀ b tail, rest ≠ .byte b :: tail := by
    rintro b tail rfl
    exact hrest b List.mem_cons_self
  have hlimit : bufSize < 256 ^ 4 := by unfold bufSize; omega
  induction hn : bs.length using Nat.strong_induction_on generalizing bs with
  | _ n ih =>
  intro c hrun hsig
  by_cases hstart : StartsWithFrame bufSize bs
  · obtain ⟨d, behind, hd, rfl⟩ := hstart
    rw [List.map_append, List.append_assoc] at hsig
    obtain ⟨c', hrun', hsig', heq⟩ := handleconnection_frame hrun hd hsig
    rw [heq]
    refine FramePrefix.cons hd (ih behind.length ?_ behind rfl c' hrun' hsig')
    rw [← hn, List.length_append, length_frame]
    omega
  · have hnil : (handleconnection c).sent = [] := by
      by_cases hlen : bs.length < 4
      · rw [handleconnection_noHeader ⟨bs, rest, hsig, hlen, hfirst⟩]
      · have hfield : (bs.take 4).length = 4 := by
          rw [List.length_take]
          omega
        have hsplit : c.signals = (bs.take 4).map .byte ++ ((bs.drop 4).map .byte ++ rest) := by
          rw [← List.append_assoc, ← List.map_append, List.take_append_drop, hsig]
        by_cases hle : leValue (bs.take 4) ≤ bufSize
        · have hshort : (bs.drop 4).length < leValue (bs.take 4) := by
            rw [startsWithFrame_iff hlimit] at hstart
            omega
          have hend : c.signals = (bs.take 4 ++ bs.drop 4).map .byte ++ rest := by
            rw [List.take_append_drop, hsig]
          -- the payload is cut off, and nothing follows it
          obtain ⟨c', -, hsig', heq⟩ := handleconnection_cut hrun hfield hle hshort hfirst hend
          have hnoheader : ShortOf 4 c'.signals := by
            rw [hsig']
            exact shortOf_of_no_byte (fun b hb => hrest b (List.mem_of_mem_tail hb)) (by decide)
          rw [heq, handleconnection_noHeader hnoheader]
        · rw [handleconnection_oversized hrun hfield hsplit (by omega)]
    rw [hnil]
    exact framePrefix_nil hstart

/-! ## The sending side -/

/-- What is written is the front of what was to be written, and the return value counts it
where it is not an error code. -/
theorem nbwriteLoop_front (script : List WriteResult) (buf wire : List UInt8) :
    (nbwriteLoop script buf wire).1.wire <+: wire ++ buf ∧
      (0 ≤ (nbwriteLoop script buf wire).1.ret →
        (nbwriteLoop script buf wire).1.ret = (nbwriteLoop script buf wire).1.wire.length) := by
  fun_induction nbwriteLoop script buf wire with
  | case1 script wire =>
      rw [List.append_nil]
      exact ⟨List.prefix_rfl, fun _ => rfl⟩
  | case2 b buf wire => exact ⟨List.prefix_rfl, fun _ => rfl⟩
  | case3 k script b buf wire ih =>
      have hwire : (wire ++ b :: buf.take k) ++ buf.drop k = wire ++ b :: buf := by
        rw [List.append_assoc, List.cons_append, List.take_append_drop]
      rw [hwire] at ih
      exact ih
  | case4 script b buf wire ih => exact ih
  | case5 => exact ⟨List.prefix_append _ _, fun h => absurd h (show ¬ (0 : ℤ) ≤ -1 by decide)⟩
  | case6 => exact ⟨List.prefix_append _ _, fun h => absurd h (show ¬ (0 : ℤ) ≤ -2 by decide)⟩
  | case7 => exact ⟨List.prefix_append _ _, fun _ => rfl⟩

theorem nbwrite_front (o : OutConn) (buf : List UInt8) :
    (nbwrite o buf).1.wire <+: buf ∧
      (0 ≤ (nbwrite o buf).1.ret → (nbwrite o buf).1.ret = (nbwrite o buf).1.wire.length) := by
  unfold nbwrite
  split_ifs
  · exact nbwriteLoop_front o.script buf []
  · exact ⟨List.nil_prefix, fun _ => rfl⟩

/-- `send` puts the front of a frame on the wire. -/
theorem tcpSend_front (o : OutConn) (d : List UInt8) : (tcpSend o d).1.wire <+: frame d := by
  obtain ⟨hfield, hret⟩ := nbwrite_front o (csize d.length)
  have hframe : frame d = csize d.length ++ d := by
    rw [csize_eq_leBytes]
    rfl
  unfold tcpSend
  dsimp only
  rw [hframe]
  split_ifs with hshort
  · exact hfield.trans (List.prefix_append _ _)
  · -- four bytes are the whole length field
    have hwhole : (nbwrite o (csize d.length)).1.wire = csize d.length := by
      refine hfield.eq_of_length_le ?_
      have hlen : (csize d.length).length = 4 := rfl
      have hcount := hret (by omega)
      omega
    rw [hwhole]
    exact (List.prefix_append_right_inj _).mpr (nbwrite_front _ d).1

/-- Behind a frame that is cut off nothing is written any more. -/
def OutConn.FailStop : OutConn → List (List UInt8) → Prop
  | _, [] => True
  | o, d :: ds =>
    if 0 < d.length then
      if (tcpSend o d).1.wire = frame d then FailStop (tcpSend o d).2 ds
      else udpreceive (tcpSend o d).2 ds = []
    else FailStop o ds

/-- The datagrams that are sent; empty ones are not. -/
def sentDatagrams (ds : List (List UInt8)) : List (List UInt8) := ds.filter fun d => 0 < d.length

theorem sentDatagrams_cons (d : List UInt8) (ds : List (List UInt8)) :
    sentDatagrams (d :: ds) = if 0 < d.length then d :: sentDatagrams ds else sentDatagrams ds := by
  unfold sentDatagrams
  rw [List.filter_cons]
  by_cases hpos : 0 < d.length
  · rw [if_pos (decide_eq_true hpos), if_pos hpos]
  · rw [if_neg (by simpa using hpos), if_neg hpos]

/-- What is on the wire is the front of the frames of the datagrams. -/
theorem udpreceive_front (ds : List (List UInt8)) :
    ∀ o : OutConn, o.FailStop ds → udpreceive o ds <+: stream (sentDatagrams ds) := by
  induction ds with
  | nil => exact fun _ _ => List.nil_prefix
  | cons d ds ih =>
      intro o hstop
      unfold OutConn.FailStop at hstop
      unfold udpreceive
      rw [sentDatagrams_cons]
      by_cases hpos : 0 < d.length
      · rw [if_pos hpos] at hstop
        rw [if_pos hpos, if_pos hpos, stream_cons]
        dsimp only
        split_ifs at hstop with hwhole
        · rw [hwhole]
          exact (List.prefix_append_right_inj _).mpr (ih _ hstop)
        · rw [hstop, List.append_nil]
          exact (tcpSend_front o d).trans (List.prefix_append _ _)
      · rw [if_neg hpos] at hstop
        rw [if_neg hpos, if_neg hpos]
        exact ih o hstop

/-- Only partial writes, `EAGAIN` and `close()`. -/
def OutConn.Interruptible (o : OutConn) : Prop := ∀ w ∈ o.script, w ≠ .error ∧ w ≠ .zero

/-- Then everything is written, or `run_server` is cleared. -/
theorem nbwriteLoop_interruptible (script : List WriteResult) (buf wire : List UInt8)
    (h : ∀ w ∈ script, w ≠ .error ∧ w ≠ .zero) :
    (nbwriteLoop script buf wire).2.Interruptible ∧
      ((nbwriteLoop script buf wire).1.wire = wire ++ buf ∨
        (nbwriteLoop script buf wire).2.runServer = false) ∧
      0 ≤ (nbwriteLoop script buf wire).1.ret := by
  fun_induction nbwriteLoop script buf wire with
  | case1 script wire => exact ⟨h, Or.inl (List.append_nil _).symm, Int.natCast_nonneg _⟩
  | case2 b buf wire => exact ⟨h, Or.inl rfl, Int.natCast_nonneg _⟩
  | case3 k script b buf wire ih =>
      have hwire : (wire ++ b :: buf.take k) ++ buf.drop k = wire ++ b :: buf := by
        rw [List.append_assoc, List.cons_append, List.take_append_drop]
      rw [hwire] at ih
      exact ih fun w hw => h w (List.mem_cons_of_mem _ hw)
  | case4 script b buf wire ih => exact ih fun w hw => h w (List.mem_cons_of_mem _ hw)
  | case5 => exact absurd rfl (h _ List.mem_cons_self).1
  | case6 => exact absurd rfl (h _ List.mem_cons_self).2
  | case7 script b buf wire =>
      exact ⟨fun w hw => h w (List.mem_cons_of_mem _ hw), Or.inr rfl, Int.natCast_nonneg _⟩

theorem nbwrite_interruptible {o : OutConn} (h : o.Interruptible) (buf : List UInt8) :
    (nbwrite o buf).2.Interruptible ∧
      ((nbwrite o buf).1.wire = buf ∨ (nbwrite o buf).2.runServer = false) ∧
      0 ≤ (nbwrite o buf).1.ret := by
  unfold nbwrite
  split_ifs with hrun
  · exact nbwriteLoop_interruptible o.script buf [] h
  · exact ⟨h, Or.inr (Bool.eq_false_iff.mpr hrun), le_rfl⟩

/-- Once `run_server` is cleared nothing is written. -/
theorem nbwrite_stopped {o : OutConn} (h : o.runServer = false) (buf : List UInt8) :
    nbwrite o buf = (⟨0, []⟩, o) := by
  unfold nbwrite
  rw [if_neg (by rw [h]; exact Bool.false_ne_true)]

theorem tcpSend_stopped {o : OutConn} (h : o.runServer = false) (d : List UInt8) :
    tcpSend o d = (⟨-4, []⟩, o) := by
  unfold tcpSend
  rw [nbwrite_stopped h]
  rfl

theorem udpreceive_stopped {o : OutConn} (h : o.runServer = false) (ds : List (List UInt8)) :
    udpreceive o ds = [] := by
  induction ds with
  | nil => rfl
  | cons d ds ih =>
      unfold udpreceive
      rw [tcpSend_stopped h]
      dsimp only
      rw [ih]
      exact ite_self _

/-- A frame is written as a whole, or `run_server` is cleared. -/
theorem tcpSend_interruptible {o : OutConn} (h : o.Interruptible) (d : List UInt8) :
    (tcpSend o d).2.Interruptible ∧
      ((tcpSend o d).1.wire = frame d ∨ (tcpSend o d).2.runServer = false) := by
  obtain ⟨hkeep, hfield, hpos⟩ := nbwrite_interruptible h (csize d.length)
  obtain ⟨-, hret⟩ := nbwrite_front o (csize d.length)
  have hframe : frame d = csize d.length ++ d := by
    rw [csize_eq_leBytes]
    rfl
  unfold tcpSend
  dsimp only
  split_ifs with hshort
  · refine ⟨hkeep, hfield.imp_left fun hwhole => ?_⟩
    -- a length field that is written as a whole has four bytes
    have hlen : (csize d.length).length = 4 := rfl
    have hcount := hret hpos
    rw [hwhole] at hcount
    omega
  · obtain ⟨hkeep', hpayload, -⟩ := nbwrite_interruptible hkeep d
    refine ⟨hkeep', ?_⟩
    rcases hfield with hwhole | hstopped
    · refine hpayload.imp_left fun hbytes => ?_
      dsimp only
      rw [hwhole, hbytes, hframe]
    · rw [nbwrite_stopped hstopped]
      exact Or.inr hstopped

/-- If `close()` is all that interrupts the sending side, it stops for good. -/
theorem failStop_of_shutdown (ds : List (List UInt8)) :
    ∀ o : OutConn, o.Interruptible → o.FailStop ds := by
  induction ds with
  | nil => exact fun _ _ => trivial
  | cons d ds ih =>
      intro o h
      obtain ⟨hkeep, hwhole⟩ := tcpSend_interruptible h d
      unfold OutConn.FailStop
      split_ifs with hpos hframe
      · exact ih _ hkeep
      · exact udpreceive_stopped (hwhole.resolve_left hframe) ds
      · exact ih o h

/-! ## Both sides -/

/-- What comes out of a tunnel is the front of what went in, and all of it that arrived as a
whole: wherever writing stopped, whichever of the bytes written arrived, in whatever pieces, and
however the connection ended. -/
theorem tunnel_interrupted (ds : List (List UInt8)) (hds : ∀ d ∈ ds, d.length ≤ bufSize)
    (o : OutConn) (hstop : o.FailStop ds) (c : Conn) (hrun : c.runServer = true)
    (bs : List UInt8) (rest : List Signal) (hsig : c.signals = bs.map .byte ++ rest)
    (hrest : ∀ b, Signal.byte b ∉ rest) (hwire : bs <+: udpreceive o ds) :
    (handleconnection c).sent <+: sentDatagrams ds ∧
      ∀ n, stream ((sentDatagrams ds).take n) <+: bs →
        (sentDatagrams ds).take n <+: (handleconnection c).sent := by
  have hlimit : bufSize < 256 ^ 4 := by unfold bufSize; omega
  have hframes := framePrefix_interrupted hrest bs c hrun hsig
  have hsent : ∀ d ∈ sentDatagrams ds, d.length ≤ bufSize := fun d hd =>
    hds d (List.mem_of_mem_filter hd)
  refine ⟨hframes.prefix_of_stream hlimit hsent (hwire.trans (udpreceive_front ds o hstop)), ?_⟩
  intro n hn
  exact hframes.stream_front hlimit (fun d hd => hsent d (List.mem_of_mem_take hd)) hn

/-- `close()` behind the first three bytes of the second frame; the handler on the other side
reads them, waits, and meets the end of the stream. -/
theorem tunnel_interrupted_second :
    (handleconnection ⟨true, [.data 1 [0, 0], .again, .data 0 [7, 2, 0], .data 0 [], .eof]⟩).sent
        <+: [[7], [8, 9]] ∧
      [[7]] <+: (handleconnection ⟨true, [.data 1 [0, 0], .again, .data 0 [7, 2, 0], .data 0 [],
        .eof]⟩).sent := by
  obtain ⟨hfront, hwhole⟩ := tunnel_interrupted [[7], [], [8, 9]] (by decide)
    ⟨true, [.wrote 3, .again, .wrote 0, .wrote 2, .shutdown]⟩
    (failStop_of_shutdown _ _ (by unfold OutConn.Interruptible; decide))
    ⟨true, [.data 1 [0, 0], .again, .data 0 [7, 2, 0], .data 0 [], .eof]⟩ rfl
    [1, 0, 0, 0, 7, 2, 0, 0] [.eof] rfl (by simp) (by decide)
  exact ⟨hfront, hwhole 1 (by decide)⟩

end Libov
