/-
# What the tunnel forwards and where it writes

The receiver sees chunks, but nothing it does depends on them.  `Conn.signals`
erases the chunking and every `EAGAIN`; `readSignals` is `nbread` on what is
left, and `nbread_signals` is the refinement.  On signals a turn of the loop of
`handleconnection` has one of five forms, one equation each
(`handleconnection_stopped`, `_noHeader`, `_oversized`, `_frame`, `_cut`).

Two results follow by induction over the frames in front:

* `tunnel_framing` : the forwarded payloads are the frames at the front of the
  byte stream, and a list of datagrams sent through the tunnel comes out again;
* `buf_accesses_safe_iff` : the accesses to `buf[BUFSIZE]` stay inside the array
  exactly when no payload fills the array and none is cut off by end of file or
  by an error.
-/
import Libov.TcpTunnel

open Framing

namespace Libov

/-! ## Signals -/

/-- What the connection delivers, one item at a time. -/
inductive Signal where
  | byte (b : UInt8)
  | eof
  | error
  | shutdown
  deriving DecidableEq

/-- The signals of one arrival. -/
def Arrival.signals : Arrival → List Signal
  | .data b bs => .byte b :: bs.map .byte
  | .again => []
  | .eof => [.eof]
  | .error => [.error]
  | .shutdown => [.shutdown]

/-- The signals still to come. -/
def Conn.signals (c : Conn) : List Signal := c.arrivals.flatMap Arrival.signals

theorem signals_putBack (bs : List UInt8) (arrivals : List Arrival) :
    (Arrival.putBack bs arrivals).flatMap Arrival.signals
      = bs.map .byte ++ arrivals.flatMap Arrival.signals := by
  cases bs with
  | nil => rfl
  | cons b bs => rw [Arrival.putBack, List.flatMap_cons, Arrival.signals, List.map_cons]

/-- `nbread` on signals: outcome, `run_server` and the signals left. -/
def readSignals : List Signal → ℕ → List UInt8 → NbRead × Bool × List Signal
  | sig, 0, got => (⟨got.length, got⟩, true, sig)
  | [], _ + 1, got => (⟨-2, got⟩, true, [])
  | .byte b :: sig, cnt + 1, got => readSignals sig cnt (got ++ [b])
  | .eof :: sig, _ + 1, got => (⟨-2, got⟩, true, sig)
  | .error :: sig, _ + 1, got => (⟨-1, got⟩, true, sig)
  | .shutdown :: sig, _ + 1, got => (⟨got.length, got⟩, false, sig)

/-- Bytes that fit into the request are taken one after the other. -/
theorem readSignals_bytes (bs : List UInt8) (sig : List Signal) (cnt : ℕ) (got : List UInt8) :
    readSignals (bs.map .byte ++ sig) (bs.length + cnt) got = readSignals sig cnt (got ++ bs) := by
  induction bs generalizing got with
  | nil => rw [List.map_nil, List.nil_append, List.length_nil, Nat.zero_add, List.append_nil]
  | cons b bs ih =>
      rw [List.map_cons, List.cons_append, List.length_cons,
        show bs.length + 1 + cnt = bs.length + cnt + 1 by omega, readSignals, ih,
        List.append_assoc, List.singleton_append]

/-- A request that the bytes in front satisfy. -/
theorem readSignals_full (bs : List UInt8) (sig : List Signal) (got : List UInt8) :
    readSignals (bs.map .byte ++ sig) bs.length got
      = (⟨(got ++ bs).length, got ++ bs⟩, true, sig) := by
  have h := readSignals_bytes bs sig 0 got
  rwa [Nat.add_zero, readSignals] at h

/-- The loop of `nbread` is `readSignals`, however the bytes arrive. -/
theorem nbreadLoop_signals (arrivals : List Arrival) (cnt : ℕ) (got : List UInt8) :
    ((nbreadLoop arrivals cnt got).1, (nbreadLoop arrivals cnt got).2.runServer,
        (nbreadLoop arrivals cnt got).2.signals)
      = readSignals (arrivals.flatMap Arrival.signals) cnt got := by
  fun_induction nbreadLoop arrivals cnt got with
  | case1 arrivals got => cases arrivals <;> simp [readSignals, Conn.signals]
  | case2 => rfl
  | case3 arrivals cnt got ih =>
      show _ = readSignals ([] ++ arrivals.flatMap Arrival.signals) (cnt + 1) got
      rw [ih, List.nil_append]
  | case4 => rfl
  | case5 => rfl
  | case6 => rfl
  | case7 b bs arrivals cnt got hle ih =>
      -- the whole chunk is taken
      have h := readSignals_bytes (b :: bs) (arrivals.flatMap Arrival.signals)
        (cnt - bs.length) got
      rw [List.length_cons, show bs.length + 1 + (cnt - bs.length) = cnt + 1 by omega] at h
      rw [ih, List.flatMap_cons, Arrival.signals, ← List.map_cons, h]
  | case8 b bs arrivals cnt got hlt =>
      -- the chunk is split and its rest put back
      have hlen : (b :: bs.take cnt).length = cnt + 1 := by
        rw [List.length_cons, List.length_take]; omega
      have h := readSignals_full (b :: bs.take cnt)
        ((bs.drop cnt).map .byte ++ arrivals.flatMap Arrival.signals) got
      rw [hlen] at h
      rw [Conn.signals, signals_putBack, List.flatMap_cons, Arrival.signals, ← h, List.map_cons,
        List.cons_append, List.cons_append, ← List.append_assoc (List.map Signal.byte _),
        ← List.map_append, List.take_append_drop]

/-- `nbread` refines `readSignals`. -/
theorem nbread_signals (c : Conn) (hrun : c.runServer = true) (cnt : ℕ) :
    ((nbread c cnt).1, (nbread c cnt).2.runServer, (nbread c cnt).2.signals)
      = readSignals c.signals cnt [] := by
  rw [nbread, if_pos hrun]
  exact nbreadLoop_signals c.arrivals cnt []

/-- The three parts of `nbread_signals`. -/
theorem nbread_of_signals {c : Conn} (hrun : c.runServer = true) {cnt : ℕ} {r : NbRead} {run : Bool}
    {sig : List Signal} (h : readSignals c.signals cnt [] = (r, run, sig)) :
    (nbread c cnt).1 = r ∧ (nbread c cnt).2.runServer = run ∧ (nbread c cnt).2.signals = sig := by
  have hread := nbread_signals c hrun cnt
  rw [h] at hread
  exact ⟨congrArg (·.1) hread, congrArg (·.2.1) hread, congrArg (·.2.2) hread⟩

/-! ## The length field -/

/-- The last byte of the length shifted into place in `int`, sign bit clear. -/
theorem shifted_byte_of_lt {c : ℕ} (h : c < 128) :
    Int.bmod (c * 2 ^ 24 : ℤ) (2 ^ 32) = c * 2 ^ 24 := by
  rw [Int.bmod_def]
  omega

/-- The last byte of the length shifted into the sign bit. -/
theorem shifted_byte_of_le {c : ℕ} (hle : 128 ≤ c) (hlt : c < 256) :
    Int.bmod (c * 2 ^ 24 : ℤ) (2 ^ 32) = c * 2 ^ 24 - 2 ^ 32 := by
  rw [Int.bmod_def]
  omega

theorem csizeValue_bytes (c0 c1 c2 c3 : UInt8) :
    csizeValue [c0, c1, c2, c3] = ((c0.toNat + c1.toNat * 2 ^ 8 + c2.toNat * 2 ^ 16
      + Int.bmod (c3.toNat * 2 ^ 24) (2 ^ 32)) % 2 ^ 64 : ℤ).toNat := rfl

theorem leValue_bytes (c0 c1 c2 c3 : UInt8) :
    leValue [c0, c1, c2, c3]
      = c0.toNat + 256 * (c1.toNat + 256 * (c2.toNat + 256 * c3.toNat)) := by
  rw [leValue, leValue, leValue, leValue, leValue, Nat.mul_zero, Nat.add_zero]

/-- The four bytes of a length field. -/
theorem exists_bytes {field : List UInt8} (h : field.length = 4) :
    ∃ c0 c1 c2 c3, field = [c0, c1, c2, c3] := by
  match field, h with
  | [c0, c1, c2, c3], _ => exact ⟨c0, c1, c2, c3, rfl⟩

/-- The signed sum of `handleconnection` is the little-endian value as long as
the last byte leaves the sign bit alone, and both are too large otherwise. -/
theorem csizeValue_cases (field : List UInt8) (h : field.length = 4) :
    csizeValue field = leValue field ∨ (bufSize < csizeValue field ∧ bufSize < leValue field) := by
  obtain ⟨c0, c1, c2, c3, rfl⟩ := exists_bytes h
  have h0 := c0.toNat_lt
  have h1 := c1.toNat_lt
  have h2 := c2.toNat_lt
  have h3 := c3.toNat_lt
  rw [csizeValue_bytes, leValue_bytes, bufSize]
  by_cases hsign : c3.toNat < 128
  · left
    rw [shifted_byte_of_lt hsign]
    omega
  · right
    rw [shifted_byte_of_le (by omega) h3]
    omega

/-- An admissible length is read as it was sent. -/
theorem csizeValue_of_le {field : List UInt8} (h : field.length = 4)
    (hle : leValue field ≤ bufSize) : csizeValue field = leValue field := by
  rcases csizeValue_cases field h with heq | ⟨-, hlt⟩
  · exact heq
  · omega

theorem lt_csizeValue {field : List UInt8} (h : field.length = 4)
    (hlt : bufSize < leValue field) : bufSize < csizeValue field := by
  rcases csizeValue_cases field h with heq | ⟨hlt', -⟩
  · rwa [heq]
  · exact hlt'

/-! ## One turn of the loop -/

/-- After `close()` nothing is read. -/
theorem handleconnection_stopped {c : Conn} (hrun : c.runServer = false) :
    handleconnection c = ⟨[], []⟩ := by
  rw [handleconnection, if_neg (by rw [hrun]; decide)]

/-- Fewer bytes in front than requested. -/
def ShortOf (cnt : ℕ) (sig : List Signal) : Prop :=
  ∃ (p : List UInt8) (rest : List Signal), sig = p.map .byte ++ rest ∧ p.length < cnt ∧
    ∀ b tail, rest ≠ .byte b :: tail

/-- Signals with no byte in front: the end of the stream, an error or a shutdown. -/
theorem signals_without_byte {rest : List Signal} (hrest : ∀ b tail, rest ≠ .byte b :: tail) :
    rest = [] ∨ (∃ tail, rest = .eof :: tail) ∨ (∃ tail, rest = .error :: tail) ∨
      ∃ tail, rest = .shutdown :: tail := by
  cases rest with
  | nil => exact Or.inl rfl
  | cons s tail =>
      cases s with
      | byte b => exact absurd rfl (hrest b tail)
      | eof => exact Or.inr (Or.inl ⟨tail, rfl⟩)
      | error => exact Or.inr (Or.inr (Or.inl ⟨tail, rfl⟩))
      | shutdown => exact Or.inr (Or.inr (Or.inr ⟨tail, rfl⟩))

/-- Either the bytes in front satisfy a request, or they fall short of it. -/
theorem bytes_or_shortOf (cnt : ℕ) (sig : List Signal) :
    (∃ (p : List UInt8) (rest : List Signal), sig = p.map .byte ++ rest ∧ p.length = cnt)
      ∨ ShortOf cnt sig := by
  induction cnt generalizing sig with
  | zero => exact Or.inl ⟨[], sig, rfl, rfl⟩
  | succ cnt ih =>
      cases sig with
      | nil => exact Or.inr ⟨[], [], rfl, by simp, by simp⟩
      | cons s sig =>
          cases s with
          | byte b =>
              rcases ih sig with ⟨p, rest, rfl, hp⟩ | ⟨p, rest, rfl, hp, hrest⟩
              · exact Or.inl ⟨b :: p, rest, rfl, by simp [hp]⟩
              · exact Or.inr ⟨b :: p, rest, rfl, by simp [hp], hrest⟩
          | eof => exact Or.inr ⟨[], .eof :: sig, rfl, by simp, by simp⟩
          | error => exact Or.inr ⟨[], .error :: sig, rfl, by simp, by simp⟩
          | shutdown => exact Or.inr ⟨[], .shutdown :: sig, rfl, by simp, by simp⟩

/-- The outcome of a request that falls short of its bytes, by what stops it. -/
theorem readSignals_short (p : List UInt8) (rest : List Signal) {cnt : ℕ} (hp : p.length < cnt) :
    readSignals (p.map .byte ++ rest) cnt [] = readSignals rest (cnt - p.length - 1 + 1) p := by
  have h := readSignals_bytes p rest (cnt - p.length) []
  rw [show p.length + (cnt - p.length) = cnt by omega, List.nil_append] at h
  rw [h, show cnt - p.length - 1 + 1 = cnt - p.length by omega]

/-- Without a complete length field the handler stops. -/
theorem handleconnection_noHeader {c : Conn} (h : ShortOf 4 c.signals) :
    handleconnection c = ⟨[], []⟩ := by
  by_cases hrun : c.runServer = true
  · obtain ⟨p, rest, hsig, hp, hrest⟩ := h
    have hread := nbread_signals c hrun 4
    rw [hsig, readSignals_short p rest hp] at hread
    have hret : (nbread c 4).1.ret < 4 := by
      rw [show (nbread c 4).1 = _ from congrArg (·.1) hread]
      rcases signals_without_byte hrest with rfl | ⟨tail, rfl⟩ | ⟨tail, rfl⟩ | ⟨tail, rfl⟩
      · simp [readSignals]
      · simp [readSignals]
      · simp [readSignals]
      · simp only [readSignals]
        omega
    rw [handleconnection, if_pos hrun, if_pos hret]
  · exact handleconnection_stopped (Bool.eq_false_iff.mpr hrun)

/-- The outcome of reading a length field. -/
theorem nbread_field {c : Conn} (hrun : c.runServer = true) {field : List UInt8}
    {rest : List Signal} (hlen : field.length = 4) (hsig : c.signals = field.map .byte ++ rest) :
    (nbread c 4).1 = ⟨4, field⟩ ∧ (nbread c 4).2.runServer = true
      ∧ (nbread c 4).2.signals = rest := by
  have hread := readSignals_full field rest []
  rw [← hsig, hlen, List.nil_append, hlen] at hread
  exact nbread_of_signals hrun hread

/-- An oversized frame stops the handler. -/
theorem handleconnection_oversized {c : Conn} (hrun : c.runServer = true) {field : List UInt8}
    {rest : List Signal} (hlen : field.length = 4) (hsig : c.signals = field.map .byte ++ rest)
    (hlt : bufSize < leValue field) : handleconnection c = ⟨[], []⟩ := by
  obtain ⟨hret, -, -⟩ := nbread_field hrun hlen hsig
  rw [handleconnection, if_pos hrun, hret]
  simp only [lt_self_iff_false, if_false, if_true]
  rw [if_pos (lt_csizeValue hlen hlt)]

/-- The turn of the loop behind an admissible length field. -/
theorem handleconnection_field {c : Conn} (hrun : c.runServer = true) {field : List UInt8}
    {rest : List Signal} (hlen : field.length = 4) (hsig : c.signals = field.map .byte ++ rest)
    (hle : leValue field ≤ bufSize) :
    ∃ c', c'.runServer = true ∧ c'.signals = rest ∧ handleconnection c =
      ⟨(if (nbread c' (leValue field)).1.ret = leValue field then
            [(nbread c' (leValue field)).1.bytes] else [])
          ++ (handleconnection (nbread c' (leValue field)).2).sent,
        bufAccesses (nbread c' (leValue field)).1 (leValue field)
          ++ (handleconnection (nbread c' (leValue field)).2).accesses⟩ := by
  obtain ⟨hret, hrun', hrest⟩ := nbread_field hrun hlen hsig
  refine ⟨(nbread c 4).2, hrun', hrest, ?_⟩
  rw [handleconnection, if_pos hrun, hret]
  simp only [lt_self_iff_false, if_false, if_true, csizeValue_of_le hlen hle]
  rw [if_neg (by omega)]

/-- A complete frame is forwarded, and the terminator lands right behind it. -/
theorem handleconnection_frame {c : Conn} (hrun : c.runServer = true) {d : List UInt8}
    {rest : List Signal} (hd : d.length ≤ bufSize)
    (hsig : c.signals = (frame d).map .byte ++ rest) :
    ∃ c', c'.runServer = true ∧ c'.signals = rest ∧ handleconnection c =
      ⟨d :: (handleconnection c').sent,
        bufAccesses ⟨d.length, d⟩ d.length ++ (handleconnection c').accesses⟩ := by
  have hfield : leValue (leBytes 4 d.length) = d.length :=
    leValue_leBytes_of_lt (by unfold bufSize at hd; omega)
  rw [frame, List.map_append, List.append_assoc] at hsig
  obtain ⟨c', hrun', hsig', heq⟩ :=
    handleconnection_field hrun (length_leBytes 4 d.length) hsig (by rwa [hfield])
  have hread := readSignals_full d rest []
  rw [← hsig', List.nil_append] at hread
  obtain ⟨hret, hrun'', hrest⟩ := nbread_of_signals hrun' hread
  refine ⟨(nbread c' d.length).2, hrun'', hrest, ?_⟩
  rw [heq, hfield, hret, if_pos rfl, List.singleton_append]

/-- Outcome of a payload read that stops before `size` bytes: the code returned
for `p` bytes stored, and whether `run_server` is still set. -/
def cutRet (p : List UInt8) : List Signal → ℤ × Bool
  | .error :: _ => (-1, true)
  | .shutdown :: _ => (p.length, false)
  | _ => (-2, true)

/-- A frame that is cut off is not forwarded; the terminator lands wherever the
return value of `nbread` says. -/
theorem handleconnection_cut {c : Conn} (hrun : c.runServer = true) {field p : List UInt8}
    {rest : List Signal} (hlen : field.length = 4) (hle : leValue field ≤ bufSize)
    (hp : p.length < leValue field) (hrest : ∀ b tail, rest ≠ .byte b :: tail)
    (hsig : c.signals = (field ++ p).map .byte ++ rest) :
    ∃ c', c'.runServer = (cutRet p rest).2 ∧ c'.signals = rest.tail ∧ handleconnection c =
      ⟨(handleconnection c').sent,
        indices p.length ++ [(cutRet p rest).1] ++ (handleconnection c').accesses⟩ := by
  rw [List.map_append, List.append_assoc] at hsig
  obtain ⟨c', hrun', hsig', heq⟩ := handleconnection_field hrun hlen hsig hle
  have hread : readSignals c'.signals (leValue field) []
      = (⟨(cutRet p rest).1, p⟩, (cutRet p rest).2, rest.tail) := by
    rw [hsig', readSignals_short p rest hp]
    rcases signals_without_byte hrest with rfl | ⟨tail, rfl⟩ | ⟨tail, rfl⟩ | ⟨tail, rfl⟩ <;> rfl
  have hne : ¬ (cutRet p rest).1 = leValue field := by
    rcases signals_without_byte hrest with rfl | ⟨tail, rfl⟩ | ⟨tail, rfl⟩ | ⟨tail, rfl⟩ <;>
      simp only [cutRet] <;> omega
  obtain ⟨hret, hrun'', htail⟩ := nbread_of_signals hrun' hread
  refine ⟨(nbread c' (leValue field)).2, hrun'', htail, ?_⟩
  rw [heq, hret, if_neg hne, List.nil_append, bufAccesses, if_neg hne, List.append_nil]

/-! ## Framing -/

/-- Only bytes and `EAGAIN` until end of file. -/
def Conn.Benign (c : Conn) : Prop :=
  c.runServer = true ∧ ∀ a ∈ c.arrivals, a = .again ∨ ∃ b bs, a = .data b bs

/-- Without errors and shutdown the signals are the bytes. -/
theorem signals_of_benign {c : Conn} (h : c.Benign) : c.signals = c.bytes.map .byte := by
  obtain ⟨run, arrivals⟩ := c
  obtain ⟨-, harr⟩ := h
  show arrivals.flatMap Arrival.signals = (arrivals.flatMap Arrival.bytes).map .byte
  induction arrivals with
  | nil => rfl
  | cons a arrivals ih =>
      have htail := ih (fun x hx => harr x (List.mem_cons_of_mem a hx))
      rw [List.flatMap_cons, List.flatMap_cons, List.map_append, htail]
      rcases harr a List.mem_cons_self with rfl | ⟨b, bs, rfl⟩
      · rfl
      · rfl

/-- A byte string that is too short for a request falls short of it. -/
theorem shortOf_bytes {cnt : ℕ} {bs : List UInt8} (h : bs.length < cnt) :
    ShortOf cnt (bs.map .byte) :=
  ⟨bs, [], (List.append_nil _).symm, h, by simp⟩

/-- The handler forwards the frames at the front of a byte string. -/
theorem framePrefix_handleconnection (bs : List UInt8) :
    ∀ c : Conn, c.runServer = true → c.signals = bs.map .byte →
      FramePrefix bufSize bs (handleconnection c).sent := by
  induction hn : bs.length using Nat.strong_induction_on generalizing bs with
  | _ n ih =>
  intro c hrun hsig
  by_cases hstart : StartsWithFrame bufSize bs
  · -- one more frame: the induction hypothesis covers what follows it
    obtain ⟨d, rest, hd, rfl⟩ := hstart
    rw [List.map_append] at hsig
    obtain ⟨c', hrun', hsig', heq⟩ := handleconnection_frame hrun hd hsig
    rw [heq]
    refine FramePrefix.cons hd (ih rest.length ?_ rest rfl c' hrun' hsig')
    rw [← hn, List.length_append, length_frame]
    omega
  · -- no frame in front: nothing is forwarded
    have hnil : (handleconnection c).sent = [] := by
      by_cases hlen : bs.length < 4
      · rw [handleconnection_noHeader (by rw [hsig]; exact shortOf_bytes hlen)]
      · have hfield : (bs.take 4).length = 4 := by rw [List.length_take]; omega
        have hsplit : c.signals = (bs.take 4).map .byte ++ (bs.drop 4).map .byte := by
          rw [← List.map_append, List.take_append_drop, hsig]
        by_cases hle : leValue (bs.take 4) ≤ bufSize
        · have hshort : (bs.drop 4).length < leValue (bs.take 4) := by
            rw [startsWithFrame_iff (by unfold bufSize; omega)] at hstart
            omega
          have hend : c.signals = (bs.take 4 ++ bs.drop 4).map .byte ++ [] := by
            rw [List.append_nil, List.map_append, hsplit]
          obtain ⟨c', -, hsig', heq⟩ := handleconnection_cut hrun hfield hle hshort (by simp) hend
          have hnoheader : ShortOf 4 c'.signals := by
            rw [hsig']
            exact ⟨[], [], rfl, by decide, by simp⟩
          rw [heq, handleconnection_noHeader hnoheader]
        · rw [handleconnection_oversized hrun hfield hsplit (by omega)]
    rw [hnil]
    exact framePrefix_nil hstart

/-- Only partial writes and `EAGAIN`. -/
def OutConn.Benign (o : OutConn) : Prop :=
  o.runServer = true ∧ ∀ w ∈ o.script, w = .again ∨ ∃ k, w = .wrote k

/-- Under any schedule of partial writes all bytes are written in order. -/
theorem nbwriteLoop_benign (script : List WriteResult) (buf wire : List UInt8)
    (h : ∀ w ∈ script, w = .again ∨ ∃ k, w = .wrote k) :
    (nbwriteLoop script buf wire).1 = ⟨(wire ++ buf).length, wire ++ buf⟩
      ∧ (nbwriteLoop script buf wire).2.Benign := by
  fun_induction nbwriteLoop script buf wire with
  | case1 script wire => exact ⟨by rw [List.append_nil], rfl, h⟩
  | case2 b buf wire => exact ⟨rfl, rfl, by simp⟩
  | case3 k script b buf wire ih =>
      have hwire : (wire ++ b :: buf.take k) ++ buf.drop k = wire ++ b :: buf := by
        rw [List.append_assoc, List.cons_append, List.take_append_drop]
      have htail := ih (fun w hw => h w (List.mem_cons_of_mem _ hw))
      rwa [hwire] at htail
  | case4 script b buf wire ih => exact ih (fun w hw => h w (List.mem_cons_of_mem _ hw))
  | case5 => rcases h _ List.mem_cons_self with h | ⟨k, h⟩ <;> cases h
  | case6 => rcases h _ List.mem_cons_self with h | ⟨k, h⟩ <;> cases h
  | case7 => rcases h _ List.mem_cons_self with h | ⟨k, h⟩ <;> cases h

theorem nbwrite_benign {o : OutConn} (h : o.Benign) (buf : List UInt8) :
    (nbwrite o buf).1 = ⟨buf.length, buf⟩ ∧ (nbwrite o buf).2.Benign := by
  rw [nbwrite, if_pos h.1]
  exact nbwriteLoop_benign o.script buf [] h.2

/-- The length field that `send` writes is the little-endian length. -/
theorem csize_eq_leBytes (len : ℕ) : csize len = leBytes 4 len := by
  have hbyte : ∀ v : ℕ, UInt8.ofNat (v &&& 0xff) = UInt8.ofNat v := by
    intro v
    apply UInt8.toNat_inj.mp
    rw [UInt8.toNat_ofNat', UInt8.toNat_ofNat', show (0xff : ℕ) = 2 ^ 8 - 1 by rfl,
      Nat.and_two_pow_sub_one_eq_mod, Nat.mod_mod]
  simp only [csize, leBytes, hbyte, Nat.shiftRight_eq_div_pow, Nat.div_div_eq_div_mul]

/-- `send` puts one frame on the wire. -/
theorem tcpSend_benign {o : OutConn} (h : o.Benign) (d : List UInt8) :
    (tcpSend o d).1.wire = frame d ∧ (tcpSend o d).2.Benign := by
  obtain ⟨hw, hw'⟩ := nbwrite_benign h (csize d.length)
  obtain ⟨hv, hv'⟩ := nbwrite_benign hw' d
  have hfield : (csize d.length).length = 4 := rfl
  rw [tcpSend, hw, hfield, if_neg (show ¬ ((4 : ℕ) : ℤ) < 4 by decide)]
  refine ⟨?_, hv'⟩
  show csize d.length ++ (nbwrite _ d).1.wire = frame d
  rw [hv, csize_eq_leBytes, frame]

/-- The bytes that a list of non-empty datagrams puts on the wire. -/
theorem udpreceive_benign (ds : List (List UInt8)) :
    ∀ o : OutConn, o.Benign → (∀ d ∈ ds, 1 ≤ d.length) → udpreceive o ds = stream ds := by
  induction ds with
  | nil => intro o _ _; rfl
  | cons d ds ih =>
      intro o ho hds
      obtain ⟨hwire, ho'⟩ := tcpSend_benign ho d
      have hpos : 0 < d.length := hds d List.mem_cons_self
      rw [udpreceive, if_pos hpos, stream_cons]
      show (tcpSend o d).1.wire ++ udpreceive (tcpSend o d).2 ds = _
      rw [hwire, ih _ ho' (fun x hx => hds x (List.mem_cons_of_mem d hx))]

/-- The tunnel forwards the payloads of the complete frames at the front of the
byte stream, however it is split into chunks; and datagrams sent through it come
out at the other end, the same ones in the same order. -/
theorem tunnel_framing :
    (∀ c : Conn, c.Benign → FramePrefix bufSize c.bytes (handleconnection c).sent) ∧
    ∀ (ds : List (List UInt8)) (o : OutConn) (c : Conn),
      (∀ d ∈ ds, 1 ≤ d.length ∧ d.length ≤ bufSize) → o.Benign → c.Benign →
      c.bytes = udpreceive o ds → (handleconnection c).sent = ds := by
  have hframed : ∀ c : Conn, c.Benign → FramePrefix bufSize c.bytes (handleconnection c).sent :=
    fun c hc => framePrefix_handleconnection c.bytes c hc.1 (signals_of_benign hc)
  refine ⟨hframed, ?_⟩
  intro ds o c hds ho hc hbytes
  rw [udpreceive_benign ds o ho (fun d hd => (hds d hd).1)] at hbytes
  have hframes := hframed c hc
  rw [hbytes] at hframes
  exact hframes.unique (by unfold bufSize; omega)
    (framePrefix_stream ds (fun d hd => (hds d hd).2))

/-- Two datagrams, written in pieces and read in other pieces. -/
theorem tunnel_framing_two_datagrams :
    (handleconnection ⟨true, [.data 1 [0], .again, .data 0 [0, 7, 2, 0], .data 0 [0, 8], .again,
      .data 9 []]⟩).sent = [[7], [8, 9]] :=
  tunnel_framing.2 [[7], [8, 9]] ⟨true, [.wrote 2, .again, .wrote 0, .wrote 5, .again, .wrote 0]⟩ _
    (by decide) ⟨rfl, by simp⟩ ⟨rfl, by simp⟩ (by decide)

/-! ## Accesses to the local array -/

/-- In the signals `sig` a frame of admissible length is announced behind
admissible frames, and `p` is the part of its payload in front of `rest`. -/
def PayloadAt (sig : List Signal) (size : ℕ) (p : List UInt8) (rest : List Signal) : Prop :=
  ∃ (ds : List (List UInt8)) (field : List UInt8), (∀ d ∈ ds, d.length ≤ bufSize) ∧
    field.length = 4 ∧ leValue field = size ∧ size ≤ bufSize ∧ p.length ≤ size ∧
    sig = (stream ds ++ (field ++ p)).map .byte ++ rest

/-- The payload stops in front of end of file or of a read error. -/
def CutOff : List Signal → Prop
  | [] => True
  | .eof :: _ => True
  | .error :: _ => True
  | _ => False

/-- No admissible payload fills the array, and none is cut off by end of file or
by a read error. -/
def PayloadsFit (sig : List Signal) : Prop :=
  ∀ size p rest, PayloadAt sig size p rest →
    p.length < bufSize ∧ (p.length < size → ¬ CutOff rest)

/-- Every access of the handler to its local array lies inside the array. -/
def BufAccessesInside (h : Handled) : Prop := ∀ i ∈ h.accesses, 0 ≤ i ∧ i < bufSize

theorem mem_indices {n : ℕ} {i : ℤ} : i ∈ indices n ↔ 0 ≤ i ∧ i < n := by
  unfold indices
  simp only [List.mem_map, List.mem_range, Int.ofNat_eq_natCast]
  constructor
  · rintro ⟨k, hk, rfl⟩
    omega
  · rintro ⟨h0, hlt⟩
    exact ⟨i.toNat, by omega, by omega⟩

/-- A frame in front is the payload announced first. -/
theorem payloadAt_frame {d : List UInt8} {rest : List Signal} (hd : d.length ≤ bufSize) :
    PayloadAt ((frame d).map .byte ++ rest) d.length d rest := by
  refine ⟨[], leBytes 4 d.length, by simp, length_leBytes 4 _, ?_, hd, le_rfl, ?_⟩
  · exact leValue_leBytes_of_lt (by unfold bufSize at hd; omega)
  · rw [stream_nil, List.nil_append, frame]

/-- Payloads announced behind a frame. -/
theorem PayloadAt.cons {sig rest : List Signal} {size : ℕ} {p d : List UInt8}
    (hd : d.length ≤ bufSize) (h : PayloadAt sig size p rest) :
    PayloadAt ((frame d).map .byte ++ sig) size p rest := by
  obtain ⟨ds, field, hds, hlen, hval, hle, hp, rfl⟩ := h
  refine ⟨d :: ds, field, ?_, hlen, hval, hle, hp, ?_⟩
  · intro x hx
    rcases List.mem_cons.mp hx with rfl | hx
    · exact hd
    · exact hds x hx
  · simp only [stream_cons, List.map_append, List.append_assoc]

/-- The accesses of a turn that reads a complete payload are inside exactly when
the payload leaves room for the terminator. -/
theorem bufAccessesInside_frame {d : List UInt8} {sent : List (List UInt8)} {acc : List ℤ} :
    BufAccessesInside ⟨sent, bufAccesses ⟨d.length, d⟩ d.length ++ acc⟩
      ↔ d.length < bufSize ∧ BufAccessesInside ⟨sent, acc⟩ := by
  simp only [BufAccessesInside, bufAccesses, if_true, List.mem_append, List.mem_singleton,
    mem_indices]
  constructor
  · intro h
    have hret := h d.length (Or.inl (Or.inl (Or.inr rfl)))
    exact ⟨by omega, fun i hi => h i (Or.inr hi)⟩
  · rintro ⟨hlt, hacc⟩ i (((hi | rfl) | hi) | hi)
    · omega
    · omega
    · omega
    · exact hacc i hi

/-- The accesses of a turn whose payload is cut. -/
theorem bufAccessesInside_cut {p : List UInt8} {rest : List Signal} {sent : List (List UInt8)}
    {acc : List ℤ} (hp : p.length < bufSize) (hrest : ∀ b tail, rest ≠ .byte b :: tail) :
    BufAccessesInside ⟨sent, indices p.length ++ [(cutRet p rest).1] ++ acc⟩
      ↔ ¬ CutOff rest ∧ BufAccessesInside ⟨sent, acc⟩ := by
  have hret : (0 ≤ (cutRet p rest).1 ∧ (cutRet p rest).1 < bufSize) ↔ ¬ CutOff rest := by
    rcases signals_without_byte hrest with rfl | ⟨tail, rfl⟩ | ⟨tail, rfl⟩ | ⟨tail, rfl⟩
    · simp [cutRet, CutOff]
    · simp [cutRet, CutOff]
    · simp [cutRet, CutOff]
    · simp [cutRet, CutOff, hp]
  rw [← hret]
  simp only [BufAccessesInside, List.mem_append, List.mem_singleton, mem_indices]
  constructor
  · intro h
    exact ⟨h _ (Or.inl (Or.inr rfl)), fun i hi => h i (Or.inr hi)⟩
  · rintro ⟨hlt, hacc⟩ i ((hi | rfl) | hi)
    · omega
    · exact hlt
    · exact hacc i hi

/-- If the accesses are inside, every announced payload fits and is not cut off. -/
theorem payload_of_bufAccessesInside {field p : List UInt8} {rest : List Signal}
    (hlen : field.length = 4) (hle : leValue field ≤ bufSize) (hp : p.length ≤ leValue field)
    (ds : List (List UInt8)) :
    ∀ c : Conn, c.runServer = true → (∀ d ∈ ds, d.length ≤ bufSize) →
      c.signals = (stream ds ++ (field ++ p)).map .byte ++ rest →
      BufAccessesInside (handleconnection c) →
      p.length < bufSize ∧ (p.length < leValue field → ¬ CutOff rest) := by
  induction ds with
  | nil =>
      intro c hrun _ hsig hinside
      rw [stream_nil, List.nil_append] at hsig
      rcases Nat.lt_or_ge p.length (leValue field) with hlt | hge
      · refine ⟨by omega, ?_⟩
        intro _ hcut
        -- the bytes in front end at `rest`, so the payload read stops there
        have hrest : ∀ b tail, rest ≠ .byte b :: tail := by
          rintro b tail rfl
          exact hcut
        obtain ⟨c', -, -, heq⟩ := handleconnection_cut hrun hlen hle hlt hrest hsig
        rw [heq, bufAccessesInside_cut (by omega) hrest] at hinside
        exact hinside.1 hcut
      · have hfield : field = leBytes 4 p.length := by
          rw [show p.length = leValue field by omega, ← hlen, leBytes_leValue]
        rw [hfield, ← frame] at hsig
        obtain ⟨c', -, -, heq⟩ := handleconnection_frame hrun (by omega) hsig
        rw [heq, bufAccessesInside_frame] at hinside
        exact ⟨hinside.1, fun hlt => by omega⟩
  | cons d ds ih =>
      intro c hrun hds hsig hinside
      rw [stream_cons, List.append_assoc, List.map_append, List.append_assoc] at hsig
      obtain ⟨c', hrun', hsig', heq⟩ :=
        handleconnection_frame hrun (hds d List.mem_cons_self) hsig
      rw [heq, bufAccessesInside_frame] at hinside
      exact ih c' hrun' (fun x hx => hds x (List.mem_cons_of_mem d hx)) hsig' hinside.2

/-- If the announced payloads fit and none is cut off, the accesses are inside. -/
theorem bufAccessesInside_of_payloadsFit (sig : List Signal) :
    ∀ c : Conn, c.signals = sig → PayloadsFit sig → BufAccessesInside (handleconnection c) := by
  have hnone : BufAccessesInside ⟨[], []⟩ := by
    intro i hi
    cases hi
  induction hn : sig.length using Nat.strong_induction_on generalizing sig with
  | _ n ih =>
  intro c hsig hfit
  by_cases hrun : c.runServer = true
  swap
  · rwa [handleconnection_stopped (Bool.eq_false_iff.mpr hrun)]
  rcases bytes_or_shortOf 4 sig with ⟨field, rest, rfl, hlen⟩ | hshort
  swap
  · rwa [handleconnection_noHeader (by rwa [hsig])]
  by_cases hle : leValue field ≤ bufSize
  swap
  · rwa [handleconnection_oversized hrun hlen hsig (by omega)]
  rcases bytes_or_shortOf (leValue field) rest with ⟨p, rest, rfl, hp⟩ | ⟨p, rest, rfl, hp, hrest⟩
  · -- a complete frame: it leaves room for the terminator, the rest is the hypothesis
    have hframe : field ++ p = frame p := by
      rw [frame, hp, ← hlen, leBytes_leValue]
    rw [← List.append_assoc, ← List.map_append, hframe] at hsig hfit hn
    obtain ⟨c', -, hsig', heq⟩ := handleconnection_frame hrun (by omega) hsig
    rw [heq, bufAccessesInside_frame]
    refine ⟨(hfit _ _ _ (payloadAt_frame (by omega))).1, ?_⟩
    refine ih rest.length ?_ rest rfl c' hsig' ?_
    · rw [← hn, List.length_append, List.length_map, length_frame]
      omega
    · intro size q rest' hq
      exact hfit size q rest' (hq.cons (by omega))
  · -- a frame that is cut: not by end of file or an error, hence by `close()`
    rw [← List.append_assoc, ← List.map_append] at hsig hfit hn
    have hcut := hfit (leValue field) p rest
      ⟨[], field, by simp, hlen, rfl, hle, hp.le, rfl⟩
    obtain ⟨c', hrun', -, heq⟩ := handleconnection_cut hrun hlen hle hp hrest hsig
    rw [heq, bufAccessesInside_cut (by omega) hrest]
    refine ⟨hcut.2 hp, ?_⟩
    have hstop : c'.runServer = false := by
      rw [hrun']
      have hkept := hcut.2 hp
      rcases signals_without_byte hrest with rfl | ⟨tail, rfl⟩ | ⟨tail, rfl⟩ | ⟨tail, rfl⟩
      · exact absurd trivial hkept
      · exact absurd trivial hkept
      · exact absurd trivial hkept
      · rfl
    rwa [handleconnection_stopped hstop]

/-- The accesses of the handler to its local array stay inside it exactly when
no payload fills the array and none is cut off by end of file or an error. -/
theorem buf_accesses_safe_iff (c : Conn) :
    BufAccessesInside (handleconnection c) ↔ (c.runServer = true → PayloadsFit c.signals) := by
  constructor
  · rintro hinside hrun size p rest ⟨ds, field, hds, hlen, rfl, hle, hp, hsig⟩
    exact payload_of_bufAccessesInside hlen hle hp ds c hrun hds hsig hinside
  · intro hfit
    by_cases hrun : c.runServer = true
    · exact bufAccessesInside_of_payloadsFit c.signals c rfl (hfit hrun)
    · rw [handleconnection_stopped (Bool.eq_false_iff.mpr hrun)]
      intro i hi
      cases hi

/-- End of file right behind a length field: the terminator is written two bytes
in front of the array. -/
theorem buf_access_before_start :
    ¬ BufAccessesInside (handleconnection ⟨true, [.data 5 [0, 0, 0]]⟩) := by
  have hlen : ([5, 0, 0, 0] : List UInt8).length = 4 := rfl
  have hend : Conn.signals ⟨true, [.data 5 [0, 0, 0]]⟩
      = ([5, 0, 0, 0] ++ ([] : List UInt8)).map .byte ++ [] := rfl
  obtain ⟨c', -, -, heq⟩ := handleconnection_cut rfl hlen (by decide) (by decide) (by simp) hend
  rw [heq]
  intro h
  have hret := h (-2) (by simp [cutRet])
  omega

end Libov
