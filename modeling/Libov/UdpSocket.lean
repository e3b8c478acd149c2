/-
# UDP sockets, numbered messages and message buffers (`udpsocket.h`, `udpsocket.cc`)

* `Endpoint`, `isSameNetwork`, `sendPort`, `sendEp`: addresses and the two
  overloads of `udpsocket_t::send`, each as the datagram it hands to `sendto`;
* `SequenceMap`: the per-port counters of the sender, `std::map` with an
  inserting `operator[]`;
* `OvboxUdpSocket.packmsg`: packing with the secret, the id and the next number;
* `MsgBuf`: the receive buffer `msgbuf_t` with `copy`, `unpack` and the receive
  function `recvSecMsg`.

Time stamps and byte counters take no part in any decision and are left out.
-/
import Libov.Common

namespace Libov

/-! ## Addresses and datagrams -/

/-- `struct sockaddr_in`; `sinPort` is in network byte order. -/
structure Endpoint where
  sinFamily : UInt16
  sinPort : UInt16
  sAddr : UInt32
  sinZero : UInt64
  deriving DecidableEq, Inhabited

/-- `AF_INET`. -/
def afInet : UInt16 := 2

/-- A cleared address of the family `AF_INET`. -/
def Endpoint.cleared : Endpoint := ⟨afInet, 0, 0, 0⟩

/-- `htons` on a little-endian machine. -/
def htons (p : Port) : UInt16 := (p <<< 8) ||| (p >>> 8)

/-- `is_same_network`: both addresses known and equal in the first three octets. -/
def isSameNetwork (a b : Endpoint) : Bool :=
  (a.sAddr &&& 0xffffff == b.sAddr &&& 0xffffff) && a.sAddr != 0 && b.sAddr != 0

/-- A datagram handed to `sendto`. -/
structure Datagram where
  dest : Endpoint
  data : List UInt8
  deriving DecidableEq

/-- `udpsocket_t::send` to a port of the preset destination; port `0` means that
nothing is sent. -/
def sendPort (servAddr : Endpoint) (data : List UInt8) (portno : Port) : Option Datagram :=
  if portno = 0 then none else some ⟨{ servAddr with sinPort := htons portno }, data⟩

/-- `udpsocket_t::send` to an address. -/
def sendEp (data : List UInt8) (ep : Endpoint) : Datagram := ⟨ep, data⟩

/-! ## Numbering of sent messages -/

/-- `sequence_map_t`: the last number per port; `operator[]` inserts `0`. -/
abbrev SequenceMap := Port → Option Sequence

/-- Value read by `sequence_map_t::operator[]`. -/
def SequenceMap.at (seqmap : SequenceMap) (port : Port) : Sequence := (seqmap port).getD 0

/-- `seqmap[port] = seq`. -/
def SequenceMap.set (seqmap : SequenceMap) (port : Port) (seq : Sequence) : SequenceMap :=
  Function.update seqmap port (some seq)

/-- The state of `ovbox_udpsocket_t` that packing and sending use. -/
structure OvboxUdpSocket where
  servAddr : Endpoint
  secret : Secret
  callerid : StageDeviceId
  seqmap : SequenceMap

/-- `ovbox_udpsocket_t::packmsg`: data ports are numbered before the size is
checked, control messages always carry the number `0`. -/
def OvboxUdpSocket.packmsg {n : ℕ} (s : OvboxUdpSocket) (destbuf : Buffer n) (maxlen : ℕ)
    (destport : Port) (msg : List UInt8) : (Buffer n × ℕ) × OvboxUdpSocket :=
  let seq := s.seqmap.at destport
  if maxSpecialPort ≤ destport then
    let seq := seq + 1
    (Libov.packmsg destbuf maxlen s.secret s.callerid destport seq msg,
      { s with seqmap := s.seqmap.set destport seq })
  else
    (Libov.packmsg destbuf maxlen s.secret s.callerid destport 0 msg,
      { s with seqmap := s.seqmap.set destport seq })

/-- The number that the next message to `destport` is packed with. -/
def OvboxUdpSocket.nextSeq (s : OvboxUdpSocket) (destport : Port) : Sequence :=
  if maxSpecialPort ≤ destport then s.seqmap.at destport + 1 else 0

/-- The packed form of the next message to `destport`. -/
def OvboxUdpSocket.packed (s : OvboxUdpSocket) (destport : Port) (msg : List UInt8) :
    List UInt8 :=
  header s.secret s.callerid destport (s.nextSeq destport) ++ msg

@[simp] theorem OvboxUdpSocket.length_packed (s : OvboxUdpSocket) (destport : Port)
    (msg : List UInt8) : (s.packed destport msg).length = headerLen + msg.length := by
  simp [OvboxUdpSocket.packed]

/-- The length that packing reports depends on the sizes alone. -/
theorem OvboxUdpSocket.packmsg_length {n : ℕ} (s : OvboxUdpSocket) (destbuf : Buffer n)
    (maxlen : ℕ) (destport : Port) (msg : List UInt8) :
    (s.packmsg destbuf maxlen destport msg).1.2
      = if maxlen < headerLen + msg.length then 0 else headerLen + msg.length := by
  unfold OvboxUdpSocket.packmsg Libov.packmsg
  split_ifs <;> rfl

/-- A message that fits into the buffer is there in its packed form. -/
theorem OvboxUdpSocket.read_packmsg {n : ℕ} (s : OvboxUdpSocket) (destbuf : Buffer n)
    (destport : Port) (msg : List UInt8) (h : headerLen + msg.length ≤ n) :
    (s.packmsg destbuf n destport msg).1.1.read 0 (headerLen + msg.length)
      = s.packed destport msg := by
  unfold OvboxUdpSocket.packmsg OvboxUdpSocket.packed OvboxUdpSocket.nextSeq
  split_ifs
  · exact Libov.read_packmsg _ _ _ _ _ _ h
  · exact Libov.read_packmsg _ _ _ _ _ _ h

/-! ## Message buffers -/

/-- `msgbuf_t`.  `msg` is the offset of the payload pointer in `rawbuffer`. -/
structure MsgBuf where
  valid : Bool
  cid : StageDeviceId
  destport : Port
  seq : Sequence
  size : ℕ
  rawbuffer : Buffer bufSize
  msg : ℕ
  sender : Endpoint

namespace MsgBuf

/-- The constructor; it leaves `sender` uninitialised, so its value is a parameter. -/
def init (sender : Endpoint) : MsgBuf := ⟨false, 0, 0, 0, 0, Buffer.zero bufSize, 0, sender⟩

/-- `msgbuf_t::copy`; the sender address is not among the copied members. -/
def copy (m src : MsgBuf) : MsgBuf :=
  { m with
    valid := src.valid
    cid := src.cid
    destport := src.destport
    seq := src.seq
    size := src.size
    rawbuffer := src.rawbuffer
    msg := headerLen }

/-- `m.valid = false`. -/
def invalidate (m : MsgBuf) : MsgBuf := { m with valid := false }

/-- The payload bytes, `size` bytes from the pointer `msg` on. -/
def payload (m : MsgBuf) : List UInt8 := m.rawbuffer.read m.msg m.size

/-- `msgbuf_t::unpack`: take the header fields out of the raw buffer. -/
def unpack (m : MsgBuf) (msglen : ℕ) : MsgBuf :=
  if headerLen ≤ msglen ∧ msglen ≤ bufSize then
    { m with
      cid := UInt8.ofNat (leValue (m.rawbuffer.read 4 1))
      destport := UInt16.ofNat (leValue (m.rawbuffer.read 5 2))
      seq := (UInt16.ofNat (leValue (m.rawbuffer.read 7 2))).toInt16
      size := msglen - headerLen
      msg := headerLen
      valid := true }
  else { m with valid := false }

/-- `msgbuf_t::pack`. -/
def pack (m : MsgBuf) (secret : Secret) (callerid : StageDeviceId) (destport : Port)
    (seq : Sequence) (msg : List UInt8) : MsgBuf :=
  let (rawbuffer, len) := packmsg m.rawbuffer bufSize secret callerid destport seq msg
  { m with rawbuffer := rawbuffer }.unpack len

@[simp] theorem valid_copy (m src : MsgBuf) : (m.copy src).valid = src.valid := rfl
@[simp] theorem cid_copy (m src : MsgBuf) : (m.copy src).cid = src.cid := rfl
@[simp] theorem destport_copy (m src : MsgBuf) : (m.copy src).destport = src.destport := rfl
@[simp] theorem seq_copy (m src : MsgBuf) : (m.copy src).seq = src.seq := rfl
@[simp] theorem valid_invalidate (m : MsgBuf) : m.invalidate.valid = false := rfl
@[simp] theorem cid_invalidate (m : MsgBuf) : m.invalidate.cid = m.cid := rfl
@[simp] theorem destport_invalidate (m : MsgBuf) : m.invalidate.destport = m.destport := rfl
@[simp] theorem seq_invalidate (m : MsgBuf) : m.invalidate.seq = m.seq := rfl

end MsgBuf

/-- `ovbox_udpsocket_t::recv_sec_msg(msgbuf_t&)`.  `rx` is what `recvfrom`
delivers, `none` when it fails or times out; a datagram longer than the buffer is
cut by the system call. -/
def recvSecMsg (secret : Secret) (m : MsgBuf) (rx : Option (List UInt8 × Endpoint)) :
    Bool × MsgBuf :=
  let m := { m with valid := false, sender := Endpoint.cleared }
  match rx with
  | none => (false, m)
  | some (bytes, addr) =>
    let bytes := bytes.take bufSize
    let m := { m with rawbuffer := m.rawbuffer.write 0 bytes, sender := addr }
    if bytes.length < headerLen then (false, m)
    else if UInt32.ofNat (leValue (m.rawbuffer.read 0 4)) ≠ secret then (false, m)
    else
      let m := m.unpack bytes.length
      (m.valid, m)

end Libov
