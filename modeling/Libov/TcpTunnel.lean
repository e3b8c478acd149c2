/-
# The TCP tunnel (`ovtcpsocket.cc`)

Datagrams cross the tunnel connection as length-prefixed frames.

* `nbread`, `nbwrite`: the loops over partial reads and writes;
* `tcpSend`, `udpreceive`: the sending side, one frame per datagram;
* `handleconnection`: the receiving side, which forwards every payload with
  `udp.send` and works on a local array `buf[BUFSIZE]`.

The operating system appears as a script of what successive system calls meet:
`Arrival` for `read`, `WriteResult` for `write`.  A script may also clear
`run_server` (`close()` called from another thread) before the next test of a
loop condition.  `handleconnection` reports what it forwards and every index at
which it touches `buf`, so that an access outside the array stays visible.
-/
import Libov.Framing
import Libov.Common

namespace Libov

/-! ## Reading -/

/-- What a `read` on the connection meets. -/
inductive Arrival where
  /-- bytes are ready (at least one; `read` returns as many of them as asked for) -/
  | data (b : UInt8) (bs : List UInt8)
  /-- `-1` with `EAGAIN` or `EWOULDBLOCK` -/
  | again
  /-- `0`, end of file -/
  | eof
  /-- `-1` with another error -/
  | error
  /-- `run_server` becomes false before the next test -/
  | shutdown
  deriving DecidableEq

/-- Receiving end of a connection; an exhausted script means end of file. -/
structure Conn where
  runServer : Bool
  arrivals : List Arrival

/-- Put the unread rest of a chunk back in front. -/
def Arrival.putBack : List UInt8 → List Arrival → List Arrival
  | [], arrivals => arrivals
  | b :: bs, arrivals => .data b bs :: arrivals

/-- Outcome of `nbread`: its return value and the bytes it stored from the start
of the destination on. -/
structure NbRead where
  ret : ℤ
  bytes : List UInt8
  deriving DecidableEq

/-- The loop of `nbread` with `cnt` bytes still to read and `got` read so far. -/
def nbreadLoop : List Arrival → ℕ → List UInt8 → NbRead × Conn
  | arrivals, 0, got => (⟨got.length, got⟩, ⟨true, arrivals⟩)
  | [], _ + 1, got => (⟨-2, got⟩, ⟨true, []⟩)
  | .again :: arrivals, cnt + 1, got => nbreadLoop arrivals (cnt + 1) got
  | .eof :: arrivals, _ + 1, got => (⟨-2, got⟩, ⟨true, arrivals⟩)
  | .error :: arrivals, _ + 1, got => (⟨-1, got⟩, ⟨true, arrivals⟩)
  | .shutdown :: arrivals, _ + 1, got => (⟨got.length, got⟩, ⟨false, arrivals⟩)
  | .data b bs :: arrivals, cnt + 1, got =>
    if bs.length ≤ cnt then nbreadLoop arrivals (cnt - bs.length) (got ++ b :: bs)
    else
      (⟨(got ++ b :: bs.take cnt).length, got ++ b :: bs.take cnt⟩,
        ⟨true, Arrival.putBack (bs.drop cnt) arrivals⟩)

/-- `ovtcpsocket_t::nbread`. -/
def nbread (c : Conn) (cnt : ℕ) : NbRead × Conn :=
  if c.runServer then nbreadLoop c.arrivals cnt [] else (⟨0, []⟩, c)

/-- Data bytes that an arrival brings. -/
def Arrival.bytes : Arrival → List UInt8
  | .data b bs => b :: bs
  | _ => []

/-- Data bytes not yet read. -/
def Conn.bytes (c : Conn) : List UInt8 := c.arrivals.flatMap Arrival.bytes

theorem bytes_putBack (bs : List UInt8) (arrivals : List Arrival) :
    (Arrival.putBack bs arrivals).flatMap Arrival.bytes
      = bs ++ arrivals.flatMap Arrival.bytes := by
  cases bs with
  | nil => rfl
  | cons b bs => rw [Arrival.putBack, List.flatMap_cons, Arrival.bytes]

/-- Reading takes its bytes from the front of what was to be read. -/
theorem nbreadLoop_bytes (arrivals : List Arrival) (cnt : ℕ) (got : List UInt8) :
    (nbreadLoop arrivals cnt got).1.bytes ++ (nbreadLoop arrivals cnt got).2.bytes
      = got ++ arrivals.flatMap Arrival.bytes := by
  fun_induction nbreadLoop arrivals cnt got with
  | case1 => rfl
  | case2 => rfl
  | case3 arrivals cnt got ih =>
      show _ = got ++ ([] ++ arrivals.flatMap Arrival.bytes)
      rw [ih, List.nil_append]
  | case4 => rfl
  | case5 => rfl
  | case6 => rfl
  | case7 b bs arrivals cnt got hle ih =>
      rw [ih, List.flatMap_cons, Arrival.bytes, List.append_assoc]
  | case8 b bs arrivals cnt got hlt =>
      rw [Conn.bytes, bytes_putBack, List.flatMap_cons, Arrival.bytes, List.append_assoc,
        List.cons_append, ← List.append_assoc (bs.take cnt), List.take_append_drop,
        List.cons_append]

theorem nbread_bytes (c : Conn) (cnt : ℕ) :
    (nbread c cnt).1.bytes ++ (nbread c cnt).2.bytes = c.bytes := by
  unfold nbread
  split_ifs
  · exact nbreadLoop_bytes c.arrivals cnt []
  · rfl

/-- A return value that is not an error code counts the bytes stored. -/
theorem nbreadLoop_ret (arrivals : List Arrival) (cnt : ℕ) (got : List UInt8)
    (h : 0 ≤ (nbreadLoop arrivals cnt got).1.ret) :
    (nbreadLoop arrivals cnt got).1.ret = (nbreadLoop arrivals cnt got).1.bytes.length := by
  fun_induction nbreadLoop arrivals cnt got with
  | case1 => rfl
  | case2 => simp at h
  | case3 arrivals cnt got ih => exact ih h
  | case4 => simp at h
  | case5 => simp at h
  | case6 => rfl
  | case7 b bs arrivals cnt got hle ih => exact ih h
  | case8 => rfl

/-- Reading the four bytes of a length field leaves fewer bytes. -/
theorem length_bytes_nbread_lt (c : Conn) (cnt : ℕ) (h : 0 < (nbread c cnt).1.ret) :
    (nbread c cnt).2.bytes.length < c.bytes.length := by
  have hret : (nbread c cnt).1.ret = (nbread c cnt).1.bytes.length := by
    unfold nbread at h ⊢
    split_ifs at h ⊢ with hrun
    · exact nbreadLoop_ret c.arrivals cnt [] h.le
    · rfl
  have hlen := congrArg List.length (nbread_bytes c cnt)
  rw [List.length_append] at hlen
  omega

theorem length_bytes_nbread_le (c : Conn) (cnt : ℕ) :
    (nbread c cnt).2.bytes.length ≤ c.bytes.length := by
  have hlen := congrArg List.length (nbread_bytes c cnt)
  rw [List.length_append] at hlen
  omega

/-! ## The receiving side -/

/-- `csize[0] + (csize[1] << 8) + (csize[2] << 16) + (csize[3] << 24)`: computed
in `int`, where the last shift can give a negative number, and converted to
`size_t`. -/
def csizeValue : List UInt8 → ℕ
  | [c0, c1, c2, c3] =>
    let i : ℤ := c0.toNat + c1.toNat * 2 ^ 8 + c2.toNat * 2 ^ 16
      + Int.bmod (c3.toNat * 2 ^ 24) (2 ^ 32)
    (i % 2 ^ 64).toNat
  | _ => 0

/-- What a connection handler does that can be seen from outside or goes wrong
inside: the payloads handed to `udp.send`, and the indices at which it reads or
writes its local array `buf[BUFSIZE]`, in order. -/
structure Handled where
  sent : List (List UInt8)
  accesses : List ℤ
  deriving DecidableEq

/-- The indices `0 .. n-1`. -/
def indices (n : ℕ) : List ℤ := (List.range n).map Int.ofNat

/-- Index accesses of one payload read of `size` bytes: the bytes that `nbread`
stores, the terminator `buf[cnt] = 0`, and the bytes that `udp.send` reads. -/
def bufAccesses (r : NbRead) (size : ℕ) : List ℤ :=
  indices r.bytes.length ++ [r.ret] ++ if r.ret = size then indices size else []

/-- `ovtcpsocket_t::handleconnection`, from the first length field on. -/
def handleconnection (c : Conn) : Handled :=
  if c.runServer then
    -- end of file, an error, or a length field that is cut off
    if (nbread c 4).1.ret < 4 then ⟨[], []⟩
    else if (nbread c 4).1.ret = 4 then
      let size := csizeValue (nbread c 4).1.bytes
      -- a payload that does not fit ends the connection
      if bufSize < size then ⟨[], []⟩
      else
        let r := nbread (nbread c 4).2 size
        let rest := handleconnection r.2
        ⟨(if r.1.ret = size then [r.1.bytes] else []) ++ rest.sent,
          bufAccesses r.1 size ++ rest.accesses⟩
    else handleconnection (nbread c 4).2
  else ⟨[], []⟩
termination_by c.bytes.length
decreasing_by
  · have hlt := length_bytes_nbread_lt c 4 (by omega)
    have hle := length_bytes_nbread_le (nbread c 4).2 (csizeValue (nbread c 4).1.bytes)
    omega
  · exact length_bytes_nbread_lt c 4 (by omega)

/-! ## Writing -/

/-- What a `write` on the connection meets. -/
inductive WriteResult where
  /-- room for `k + 1` bytes -/
  | wrote (k : ℕ)
  /-- `-1` with `EAGAIN` or `EWOULDBLOCK` -/
  | again
  /-- `-1` with another error -/
  | error
  /-- `0` -/
  | zero
  /-- `run_server` becomes false before the next test -/
  | shutdown
  deriving DecidableEq

/-- Sending end of a connection; an exhausted script accepts everything. -/
structure OutConn where
  runServer : Bool
  script : List WriteResult

/-- Outcome of `nbwrite`: its return value and the bytes put on the wire. -/
structure NbWrite where
  ret : ℤ
  wire : List UInt8
  deriving DecidableEq

/-- The loop of `nbwrite` with the bytes `buf` still to write and `rcnt` bytes
written so far, `wire` being those bytes. -/
def nbwriteLoop : List WriteResult → List UInt8 → List UInt8 → NbWrite × OutConn
  | script, [], wire => (⟨wire.length, wire⟩, ⟨true, script⟩)
  | [], b :: buf, wire => (⟨(wire ++ b :: buf).length, wire ++ b :: buf⟩, ⟨true, []⟩)
  | .wrote k :: script, b :: buf, wire =>
    nbwriteLoop script (buf.drop k) (wire ++ b :: buf.take k)
  | .again :: script, b :: buf, wire => nbwriteLoop script (b :: buf) wire
  | .error :: script, _ :: _, wire => (⟨-1, wire⟩, ⟨true, script⟩)
  | .zero :: script, _ :: _, wire => (⟨-2, wire⟩, ⟨true, script⟩)
  | .shutdown :: script, _ :: _, wire => (⟨wire.length, wire⟩, ⟨false, script⟩)

/-- `ovtcpsocket_t::nbwrite`. -/
def nbwrite (o : OutConn) (buf : List UInt8) : NbWrite × OutConn :=
  if o.runServer then nbwriteLoop o.script buf [] else (⟨0, []⟩, o)

/-- The length field that `send` writes. -/
def csize (len : ℕ) : List UInt8 :=
  [UInt8.ofNat (len &&& 0xff), UInt8.ofNat ((len >>> 8) &&& 0xff),
    UInt8.ofNat ((len >>> 16) &&& 0xff), UInt8.ofNat ((len >>> 24) &&& 0xff)]

/-- `ovtcpsocket_t::send`: return value, bytes on the wire, connection. -/
def tcpSend (o : OutConn) (buf : List UInt8) : NbWrite × OutConn :=
  let w := nbwrite o (csize buf.length)
  if w.1.ret < 4 then (⟨-4, w.1.wire⟩, w.2)
  else
    let v := nbwrite w.2 buf
    (⟨v.1.ret, w.1.wire ++ v.1.wire⟩, v.2)

/-- `udpreceive`: every datagram received on the local socket (empty ones are
skipped) is sent through the tunnel; the bytes on the wire. -/
def udpreceive (o : OutConn) : List (List UInt8) → List UInt8
  | [] => []
  | d :: ds =>
    if 0 < d.length then
      let w := tcpSend o d
      w.1.wire ++ udpreceive w.2 ds
    else udpreceive o ds

end Libov
