/-
# Packed messages: the round trip and the numbering

`msgbuf_t::pack` and `recv_sec_msg` agree on the layout of a packed message, at every
length that fits into the buffer.  The numbers that `ovbox_udpsocket_t::packmsg` writes
count its calls rather than the messages that were packed.

* `pack_round_trip` : what is packed is received field by field, and what is received
  packs to the bytes it came from;
* `numbers_of_fitting` : the numbers of a port when every message to it fits;
* `numbered_in_order_iff` : when the messages of every data port are numbered without a gap.
-/
import Libov.SendsrvLoop

open Runs

namespace Libov

/-! ## Fields of a packed message -/

/-- `msg_secret` of a packed message. -/
def msgSecret (bytes : List UInt8) : Secret := UInt32.ofNat (leValue (bytes.take 4))

/-- `msg_seq` of a packed message in a buffer. -/
def msgSeq {n : ℕ} (b : Buffer n) : Sequence :=
  (UInt16.ofNat (leValue (b.read 7 2))).toInt16

namespace MsgBuf

/-- The packed message: `HEADERLEN + size` bytes of the raw buffer. -/
def packedBytes (m : MsgBuf) : List UInt8 := m.rawbuffer.read 0 (headerLen + m.size)

/-- A valid message with these fields and this payload. -/
structure Carries (m : MsgBuf) (cid : StageDeviceId) (destport : Port) (seq : Sequence)
    (payload : List UInt8) : Prop where
  valid : m.valid = true
  cid : m.cid = cid
  destport : m.destport = destport
  seq : m.seq = seq
  size : m.size = payload.length
  payload : m.payload = payload

/-- The payload stands behind the header and within the raw buffer. -/
structure Unpacked (m : MsgBuf) : Prop where
  msg : m.msg = headerLen
  size : headerLen + m.size ≤ bufSize

end MsgBuf

/-- A little-endian field of `k` bytes, unpacked and packed again. -/
theorem leBytes_leValue_of_length {k : ℕ} {bs : List UInt8} (h : bs.length = k) :
    leBytes k (leValue bs) = bs := by
  rw [← h, leBytes_leValue]

theorem leValue_lt (bs : List UInt8) : leValue bs < 256 ^ bs.length := by
  rw [← leBytes_leValue bs, leValue_leBytes, length_leBytes]
  exact Nat.mod_lt _ (by positivity)

/-- The header that is packed from the fields in the first bytes of a string is these
bytes. -/
theorem header_unpacked {bytes : List UInt8} (h : headerLen ≤ bytes.length) :
    header (msgSecret bytes) (UInt8.ofNat (leValue ((bytes.drop 4).take 1)))
        (UInt16.ofNat (leValue ((bytes.drop 5).take 2)))
        ((UInt16.ofNat (leValue ((bytes.drop 7).take 2))).toInt16)
      = bytes.take headerLen := by
  have h9 : headerLen = 9 := rfl
  have hfield : ∀ off len, off + len ≤ 9 → ((bytes.drop off).take len).length = len := by
    intro off len hlen
    rw [List.length_take, List.length_drop]
    omega
  have hbound : ∀ off len, off + len ≤ 9 → leValue ((bytes.drop off).take len) < 256 ^ len := by
    intro off len hlen
    have hlt := leValue_lt ((bytes.drop off).take len)
    rwa [hfield off len hlen] at hlt
  have hsecret : (msgSecret bytes).toNat = leValue ((bytes.drop 0).take 4) :=
    UInt32.toNat_ofNat_of_lt' (hbound 0 4 (by omega))
  have hport : (UInt16.ofNat (leValue ((bytes.drop 5).take 2))).toNat
      = leValue ((bytes.drop 5).take 2) :=
    UInt16.toNat_ofNat_of_lt' (hbound 5 2 (by omega))
  have hseq : (UInt16.ofNat (leValue ((bytes.drop 7).take 2))).toInt16.toUInt16.toNat
      = leValue ((bytes.drop 7).take 2) :=
    UInt16.toNat_ofNat_of_lt' (hbound 7 2 (by omega))
  have hcid : [UInt8.ofNat (leValue ((bytes.drop 4).take 1))] = (bytes.drop 4).take 1 :=
    leBytes_leValue_of_length (hfield 4 1 (by omega))
  unfold header
  rw [hsecret, hport, hseq, hcid, leBytes_leValue_of_length (hfield 0 4 (by omega)),
    leBytes_leValue_of_length (hfield 5 2 (by omega)),
    leBytes_leValue_of_length (hfield 7 2 (by omega)), List.drop_zero]
  -- the four fields are adjacent
  rw [← List.take_add, ← List.take_add, ← List.take_add]
  rfl

/-! ## The round trip -/

section RoundTrip

variable (secret : Secret) (cid : StageDeviceId) (destport : Port) (seq : Sequence)
  (payload : List UInt8) (m : MsgBuf)

/-- What `pack` leaves of a message that fits. -/
theorem pack_of_fits (h : headerLen + payload.length ≤ bufSize) :
    m.pack secret cid destport seq payload =
      { m with
        valid := true
        cid := cid
        destport := destport
        seq := seq
        size := payload.length
        rawbuffer := m.rawbuffer.write 0 (header secret cid destport seq ++ payload)
        msg := headerLen } := by
  obtain ⟨-, hcid, hport, hseq, -⟩ := read_header m.rawbuffer secret cid destport seq payload h
  unfold MsgBuf.pack packmsg
  rw [if_neg (not_lt.mpr h)]
  dsimp only
  unfold MsgBuf.unpack
  rw [if_pos ⟨Nat.le_add_right _ _, h⟩]
  simp only [hcid, hport, hseq, Nat.add_sub_cancel_left]

/-- The bytes of a message that fits. -/
theorem packedBytes_pack (h : headerLen + payload.length ≤ bufSize) :
    (m.pack secret cid destport seq payload).packedBytes
      = header secret cid destport seq ++ payload := by
  rw [pack_of_fits secret cid destport seq payload m h]
  have hlen : headerLen + payload.length = (header secret cid destport seq ++ payload).length := by
    rw [List.length_append, length_header]
  exact Buffer.read_write_zero _ _ _ hlen (hlen ▸ h)

/-- A message that fits is valid and carries what it was packed from. -/
theorem carries_pack (h : headerLen + payload.length ≤ bufSize) :
    (m.pack secret cid destport seq payload).Carries cid destport seq payload := by
  obtain ⟨-, -, -, -, hpayload⟩ := read_header m.rawbuffer secret cid destport seq payload h
  rw [pack_of_fits secret cid destport seq payload m h]
  exact ⟨rfl, rfl, rfl, rfl, rfl, hpayload⟩

/-- A message that does not fit is not valid. -/
theorem invalid_pack (h : bufSize < headerLen + payload.length) :
    (m.pack secret cid destport seq payload).valid = false := by
  unfold MsgBuf.pack packmsg
  rw [if_pos h]
  rfl

variable (addr : Endpoint)

/-- The receiver of a packed message with its secret obtains its fields. -/
theorem carries_received (h : headerLen + payload.length ≤ bufSize) :
    (recvSecMsg secret m (some (header secret cid destport seq ++ payload, addr))).1 = true ∧
      (recvSecMsg secret m (some (header secret cid destport seq ++ payload, addr))).2.Carries
        cid destport seq payload := by
  obtain ⟨raw, hreceived, hpayload⟩ :=
    recvSecMsg_packed secret cid destport seq payload h m addr
  rw [hreceived]
  exact ⟨rfl, rfl, rfl, rfl, rfl, rfl, hpayload⟩

variable {secret} {bytes : List UInt8}

/-- A string that is long enough and has the right secret is received with the fields
that its header spells. -/
theorem recvSecMsg_of_secret (hlong : headerLen ≤ bytes.length) (hfit : bytes.length ≤ bufSize)
    (hsecret : msgSecret bytes = secret) :
    recvSecMsg secret m (some (bytes, addr)) =
      (true, ⟨true, UInt8.ofNat (leValue ((bytes.drop 4).take 1)),
        UInt16.ofNat (leValue ((bytes.drop 5).take 2)),
        (UInt16.ofNat (leValue ((bytes.drop 7).take 2))).toInt16,
        bytes.length - headerLen, m.rawbuffer.write 0 bytes, headerLen, addr⟩) := by
  have h9 : headerLen = 9 := rfl
  have hslice := fun off len (hlen : off + len ≤ 9) =>
    m.rawbuffer.read_write_slice bytes off len (by omega) hfit
  have hfirst : UInt32.ofNat (leValue ((m.rawbuffer.write 0 bytes).read 0 4)) = secret := by
    rw [hslice 0 4 (by omega)]
    exact hsecret
  unfold recvSecMsg
  simp only [List.take_of_length_le hfit]
  rw [if_neg (by omega), if_neg (not_not_intro hfirst), MsgBuf.unpack, if_pos ⟨hlong, hfit⟩]
  simp only [hslice 4 1 (by omega), hslice 5 2 (by omega), hslice 7 2 (by omega)]

/-- A message that is received has been unpacked. -/
theorem unpacked_received {rx : Received} (h : (recvSecMsg secret m rx).1 = true) :
    (recvSecMsg secret m rx).2.Unpacked := by
  have h9 : headerLen = 9 := rfl
  cases rx with
  | none => exact absurd h Bool.false_ne_true
  | some received =>
      have hfit : (received.1.take bufSize).length ≤ bufSize := List.length_take_le _ _
      unfold recvSecMsg at h ⊢
      dsimp only at h ⊢
      by_cases hshort : (received.1.take bufSize).length < headerLen
      · rw [if_pos hshort] at h
        exact absurd h Bool.false_ne_true
      · rw [if_neg hshort] at h ⊢
        split_ifs at h ⊢ with hsecret
        unfold MsgBuf.unpack
        rw [if_pos ⟨not_lt.mp hshort, hfit⟩]
        exact ⟨rfl, by dsimp only; omega⟩

/-- A string that is too short or has another secret is not received. -/
theorem recvSecMsg_rejected (h : bytes.length < headerLen ∨ msgSecret bytes ≠ secret) :
    (recvSecMsg secret m (some (bytes, addr))).1 = false ∧
      (recvSecMsg secret m (some (bytes, addr))).2.valid = false := by
  have h9 : headerLen = 9 := rfl
  have hbuf : bufSize = 8192 := rfl
  by_cases hshort : (bytes.take bufSize).length < headerLen
  · unfold recvSecMsg
    simp only [if_pos hshort, and_self]
  · have hlen : headerLen ≤ bytes.length ∧ headerLen ≤ (bytes.take bufSize).length := by
      rw [List.length_take] at hshort ⊢
      omega
    have hother := h.resolve_left (not_lt.mpr hlen.1)
    have hfirst : UInt32.ofNat (leValue
        ((m.rawbuffer.write 0 (bytes.take bufSize)).read 0 4)) ≠ secret := by
      rw [m.rawbuffer.read_write_slice (bytes.take bufSize) 0 4 (by omega)
        (List.length_take_le _ _), List.drop_zero, List.take_take, Nat.min_eq_left (by omega)]
      exact hother
    unfold recvSecMsg
    simp only [if_neg hshort, if_pos hfirst, and_self]

/-- What is received packs to the bytes it came from. -/
theorem header_received (hlong : headerLen ≤ bytes.length) (hfit : bytes.length ≤ bufSize)
    (hsecret : msgSecret bytes = secret) :
    let m := (recvSecMsg secret m (some (bytes, addr))).2
    header secret m.cid m.destport m.seq ++ m.payload = bytes := by
  -- the payload is what stands behind the header
  have hpayload : (m.rawbuffer.write 0 bytes).read headerLen (bytes.length - headerLen)
      = bytes.drop headerLen := by
    rw [m.rawbuffer.read_write_slice bytes _ _ (by omega) hfit]
    exact List.take_of_length_le (by rw [List.length_drop])
  rw [recvSecMsg_of_secret m addr hlong hfit hsecret]
  show header secret _ _ _
    ++ (m.rawbuffer.write 0 bytes).read headerLen (bytes.length - headerLen) = bytes
  rw [hpayload, ← hsecret, header_unpacked hlong, List.take_append_drop]

/-- A datagram longer than the buffer is cut. -/
theorem recvSecMsg_cut (secret : Secret) (bytes : List UInt8) :
    recvSecMsg secret m (some (bytes.take bufSize, addr))
      = recvSecMsg secret m (some (bytes, addr)) := by
  unfold recvSecMsg
  simp only [List.take_take, Nat.min_self]

/-- A received message that does not fill the buffer has been packed with its fields. -/
theorem bytes_received {rx : Received} (h : (recvSecMsg secret m rx).1 = true)
    (hsize : headerLen + (recvSecMsg secret m rx).2.size < bufSize) :
    let m := (recvSecMsg secret m rx).2
    ∃ addr, rx = some (header secret m.cid m.destport m.seq ++ m.payload, addr) := by
  cases rx with
  | none => exact absurd h Bool.false_ne_true
  | some received =>
      obtain ⟨bytes, addr⟩ := received
      have hfit : (bytes.take bufSize).length ≤ bufSize := List.length_take_le _ _
      rw [← recvSecMsg_cut] at h hsize ⊢
      have hgood : ¬ ((bytes.take bufSize).length < headerLen ∨
          msgSecret (bytes.take bufSize) ≠ secret) := fun hbad =>
        Bool.false_ne_true ((recvSecMsg_rejected m addr hbad).1.symm.trans h)
      obtain ⟨hlong, hsecret⟩ := not_or.mp hgood
      have hheader := header_received m addr (not_lt.mp hlong) hfit (not_not.mp hsecret)
      -- the received bytes do not fill the buffer, so nothing has been cut
      rw [recvSecMsg_of_secret m addr (not_lt.mp hlong) hfit (not_not.mp hsecret)] at hsize
      have hall : bytes.take bufSize = bytes := by
        apply List.take_of_length_le
        dsimp only at hsize
        rw [List.length_take] at hsize hlong
        omega
      dsimp only at hheader ⊢
      rw [hheader, hall]
      exact ⟨addr, rfl⟩

end RoundTrip

/-- Packing and receiving are inverse to each other on the messages that fit, and the
messages that do not fit, are cut or have another secret are not valid. -/
theorem pack_round_trip :
    (∀ (m m' : MsgBuf) (secret : Secret) (cid : StageDeviceId) (destport : Port) (seq : Sequence)
        (payload : List UInt8) (addr : Endpoint), headerLen + payload.length ≤ bufSize →
      (m.pack secret cid destport seq payload).Carries cid destport seq payload ∧
      (recvSecMsg secret m' (some ((m.pack secret cid destport seq payload).packedBytes,
        addr))).1 = true ∧
      (recvSecMsg secret m' (some ((m.pack secret cid destport seq payload).packedBytes,
        addr))).2.Carries cid destport seq payload) ∧
    (∀ (m m' : MsgBuf) (secret : Secret) (bytes : List UInt8) (addr : Endpoint),
      headerLen ≤ bytes.length → bytes.length ≤ bufSize → msgSecret bytes = secret →
      let r := recvSecMsg secret m (some (bytes, addr))
      r.1 = true ∧
        (m'.pack secret r.2.cid r.2.destport r.2.seq r.2.payload).packedBytes = bytes) ∧
    (∀ (m : MsgBuf) (secret : Secret) (cid : StageDeviceId) (destport : Port) (seq : Sequence)
        (payload : List UInt8), bufSize < headerLen + payload.length →
      (m.pack secret cid destport seq payload).valid = false) ∧
    (∀ (m : MsgBuf) (secret : Secret) (bytes : List UInt8) (addr : Endpoint),
      bytes.length < headerLen ∨ msgSecret bytes ≠ secret →
      (recvSecMsg secret m (some (bytes, addr))).1 = false ∧
        (recvSecMsg secret m (some (bytes, addr))).2.valid = false) := by
  refine ⟨?_, ?_, ?_, ?_⟩
  · intro m m' secret cid destport seq payload addr h
    rw [packedBytes_pack secret cid destport seq payload m h]
    exact ⟨carries_pack secret cid destport seq payload m h,
      carries_received secret cid destport seq payload m' addr h⟩
  · intro m m' secret bytes addr hlong hfit hsecret
    have hheader := header_received m addr hlong hfit hsecret
    have hsize : headerLen + (recvSecMsg secret m (some (bytes, addr))).2.payload.length
        ≤ bufSize := by
      rw [← length_header secret (recvSecMsg secret m (some (bytes, addr))).2.cid
        (recvSecMsg secret m (some (bytes, addr))).2.destport
        (recvSecMsg secret m (some (bytes, addr))).2.seq, ← List.length_append, hheader]
      exact hfit
    refine ⟨congrArg Prod.fst (recvSecMsg_of_secret m addr hlong hfit hsecret), ?_⟩
    rw [packedBytes_pack _ _ _ _ _ m' hsize, hheader]
  · intro m secret cid destport seq payload h
    exact invalid_pack secret cid destport seq payload m h
  · intro m secret bytes addr h
    exact recvSecMsg_rejected m addr h

/-- A payload of one byte with a negative sequence number. -/
theorem pack_round_trip_negative :
    ((MsgBuf.init Endpoint.cleared).pack 12345678 13 9876 (-1) [65]).Carries 13 9876 (-1) [65] ∧
      (recvSecMsg 12345678 (MsgBuf.init Endpoint.cleared)
        (some (((MsgBuf.init Endpoint.cleared).pack 12345678 13 9876 (-1) [65]).packedBytes,
          Endpoint.cleared))).2.Carries 13 9876 (-1) [65] := by
  obtain ⟨hpacked, -, hreceived⟩ := pack_round_trip.1 (MsgBuf.init Endpoint.cleared)
    (MsgBuf.init Endpoint.cleared) 12345678 13 9876 (-1) [65] Endpoint.cleared (by decide)
  exact ⟨hpacked, hreceived⟩

/-! ## Numbering of the messages of a socket -/

/-- A call of `ovbox_udpsocket_t::packmsg`: the buffer and its size, the destination port
and the user data. -/
structure PackCall where
  maxlen : ℕ
  destbuf : Buffer maxlen
  destport : Port
  msg : List UInt8

/-- The socket behind its construction: `seqmap` is empty. -/
def OvboxUdpSocket.fresh (servAddr : Endpoint) (secret : Secret) (callerid : StageDeviceId) :
    OvboxUdpSocket := ⟨servAddr, secret, callerid, fun _ => none⟩

/-- The socket behind a call. -/
def packStep (s : OvboxUdpSocket) (c : PackCall) : OvboxUdpSocket :=
  (s.packmsg c.destbuf c.maxlen c.destport c.msg).2

/-- The return value of a call. -/
def packResult (s : OvboxUdpSocket) (c : PackCall) : ℕ :=
  (s.packmsg c.destbuf c.maxlen c.destport c.msg).1.2

/-- The number in the message that a call has packed. -/
def packedSeq (s : OvboxUdpSocket) (c : PackCall) : Sequence :=
  msgSeq (s.packmsg c.destbuf c.maxlen c.destport c.msg).1.1

/-- The numbers of the messages to a port that have been packed, in the order of the calls. -/
def packedNumbers (destport : Port) : OvboxUdpSocket → List PackCall → List Sequence
  | _, [] => []
  | s, c :: cs =>
    if c.destport = destport ∧ 0 < packResult s c then
      packedSeq s c :: packedNumbers destport (packStep s c) cs
    else packedNumbers destport (packStep s c) cs

/-- The numbers `first + 1`, `first + 2`, ... modulo `2 ^ 16`. -/
def countedFrom (first count : ℕ) : List Sequence :=
  (List.range count).map fun i => Int16.ofNat (first + i + 1)

/-- The messages of every data port carry the numbers `1`, `2`, ... in the order of the
calls, and a call that returns `0` leaves the numbers of all ports as they are. -/
def NumberedInOrder (s : OvboxUdpSocket) (cs : List PackCall) : Prop :=
  (∀ destport : Port, maxSpecialPort ≤ destport →
      packedNumbers destport s cs = countedFrom 0 (packedNumbers destport s cs).length) ∧
    AllSteps packStep (fun s c => packResult s c = 0 →
      ∀ port : Port, (packStep s c).seqmap.at port = s.seqmap.at port) s cs

/-- The call is for a data port, with a message that does not fit into its buffer. -/
def PackCall.FailsNumbered (c : PackCall) : Prop :=
  maxSpecialPort ≤ c.destport ∧ c.maxlen < headerLen + c.msg.length

section Numbering

variable (s : OvboxUdpSocket) (c : PackCall)

/-- A call returns `0` exactly when the message does not fit. -/
theorem packResult_eq_zero_iff : packResult s c = 0 ↔ c.maxlen < headerLen + c.msg.length := by
  have h9 : headerLen = 9 := rfl
  unfold packResult
  rw [OvboxUdpSocket.packmsg_length]
  split_ifs with h
  · exact iff_of_true rfl h
  · exact iff_of_false (by omega) h

/-- Every call for a data port takes a number, whether the message fits or not. -/
theorem at_packStep (port : Port) :
    (packStep s c).seqmap.at port =
      if port = c.destport ∧ maxSpecialPort ≤ c.destport then s.seqmap.at port + 1
      else s.seqmap.at port := by
  have hset : ∀ seq : Sequence, (s.seqmap.set c.destport seq).at port
      = if port = c.destport then seq else s.seqmap.at port := by
    intro seq
    unfold SequenceMap.at SequenceMap.set
    rw [Function.update_apply]
    split_ifs <;> rfl
  unfold packStep OvboxUdpSocket.packmsg
  by_cases hdata : maxSpecialPort ≤ c.destport
  · simp only [if_pos hdata, hset, and_iff_left hdata]
    by_cases hport : port = c.destport
    · rw [if_pos hport, if_pos hport, hport]
    · rw [if_neg hport, if_neg hport]
  · simp only [hset, hdata, and_false, if_false]
    by_cases hport : port = c.destport
    · rw [if_pos hport, hport]
    · rw [if_neg hport]

/-- A message for a data port that fits carries the number it has taken. -/
theorem packedSeq_of_fits (hdata : maxSpecialPort ≤ c.destport)
    (hfit : headerLen + c.msg.length ≤ c.maxlen) :
    packedSeq s c = s.seqmap.at c.destport + 1 := by
  obtain ⟨-, -, -, hseq, -⟩ := read_header c.destbuf s.secret s.callerid c.destport
    (s.seqmap.at c.destport + 1) c.msg hfit
  unfold packedSeq msgSeq OvboxUdpSocket.packmsg Libov.packmsg
  simp only [if_pos hdata, if_neg (not_lt.mpr hfit)]
  exact hseq

/-- A call that returns `0` changes a number exactly when it is for a data port. -/
theorem unchanged_iff :
    (packResult s c = 0 → ∀ port : Port, (packStep s c).seqmap.at port = s.seqmap.at port) ↔
      ¬ c.FailsNumbered := by
  rw [packResult_eq_zero_iff]
  constructor
  · rintro h ⟨hdata, hlong⟩
    have hsame := h hlong c.destport
    rw [at_packStep, if_pos ⟨rfl, hdata⟩] at hsame
    exact absurd hsame (by simp)
  · intro h hlong port
    have hspecial : ¬ maxSpecialPort ≤ c.destport := fun hdata => h ⟨hdata, hlong⟩
    rw [at_packStep, if_neg fun hport => hspecial hport.2]

variable {s} {cs : List PackCall}

theorem countedFrom_succ (first count : ℕ) :
    countedFrom first (count + 1) = Int16.ofNat (first + 1) :: countedFrom (first + 1) count := by
  unfold countedFrom
  rw [List.range_succ_eq_map, List.map_cons, List.map_map, Nat.add_zero]
  refine congrArg _ (List.map_congr_left fun i _ => ?_)
  show Int16.ofNat (first + (i + 1) + 1) = Int16.ofNat (first + 1 + i + 1)
  rw [Nat.add_right_comm first 1 i, Nat.add_assoc first i 1]

/-- Where every message for a data port fits, the numbers go on from the last one. -/
theorem numbers_of_fitting (h : ∀ c ∈ cs, ¬ c.FailsNumbered) {port : Port}
    (hdata : maxSpecialPort ≤ port) {first : ℕ} (hlast : s.seqmap.at port = Int16.ofNat first) :
    packedNumbers port s cs = countedFrom first (packedNumbers port s cs).length := by
  induction cs generalizing s first with
  | nil => rfl
  | cons c cs ih =>
      have hrest := fun c' hc' => h c' (List.mem_cons_of_mem c hc')
      have hnext := at_packStep s c port
      have hsucc : Int16.ofNat first + 1 = Int16.ofNat (first + 1) :=
        (Int16.ofNat_add first 1).symm
      rw [packedNumbers]
      by_cases hport : c.destport = port
      · -- a message for this port: it fits, and carries the next number
        subst hport
        have hfit : headerLen + c.msg.length ≤ c.maxlen := by
          by_contra hlong
          exact h c List.mem_cons_self ⟨hdata, not_le.mp hlong⟩
        have hpos : 0 < packResult s c :=
          Nat.pos_of_ne_zero fun hzero => not_lt.mpr hfit ((packResult_eq_zero_iff s c).mp hzero)
        rw [if_pos ⟨rfl, hdata⟩, hlast, hsucc] at hnext
        rw [if_pos ⟨rfl, hpos⟩, packedSeq_of_fits s c hdata hfit, hlast, hsucc, List.length_cons,
          countedFrom_succ, ← ih hrest hnext]
      · rw [if_neg fun hsame => hport hsame.1.symm, hlast] at hnext
        rw [if_neg fun hsame => hport hsame.1]
        exact ih hrest hnext

end Numbering

/-- The messages of a new socket are numbered in order exactly when no message for a data
port is too long for its buffer. -/
theorem numbered_in_order_iff (servAddr : Endpoint) (secret : Secret) (callerid : StageDeviceId)
    (cs : List PackCall) :
    NumberedInOrder (OvboxUdpSocket.fresh servAddr secret callerid) cs ↔
      ∀ c ∈ cs, ¬ c.FailsNumbered := by
  have hsteps : ∀ s : OvboxUdpSocket, AllSteps packStep (fun s c => packResult s c = 0 →
      ∀ port : Port, (packStep s c).seqmap.at port = s.seqmap.at port) s cs ↔
        ∀ c ∈ cs, ¬ c.FailsNumbered := by
    induction cs with
    | nil => exact fun _ => iff_of_true trivial (by simp)
    | cons c cs ih =>
        intro s
        rw [AllSteps, unchanged_iff, ih, List.forall_mem_cons]
  refine ⟨fun h => (hsteps _).mp h.2, fun h => ⟨?_, (hsteps _).mpr h⟩⟩
  intro port hdata
  exact numbers_of_fitting h hdata rfl

/-- A message that is too long for its buffer, and then one that fits: the first message to
leave the socket carries the number `2`. -/
theorem failed_call_skips_number :
    ¬ NumberedInOrder (OvboxUdpSocket.fresh Endpoint.cleared 12345678 13)
      [⟨0, Buffer.zero 0, 9876, []⟩, ⟨9, Buffer.zero 9, 9876, []⟩] := by
  rintro ⟨hnumbers, -⟩
  have hports : maxSpecialPort ≤ (9876 : Port) := by decide
  have hskipped : packedNumbers 9876 (OvboxUdpSocket.fresh Endpoint.cleared 12345678 13)
      [⟨0, Buffer.zero 0, 9876, []⟩, ⟨9, Buffer.zero 9, 9876, []⟩] = [2] := by decide
  have hone := hnumbers 9876 hports
  rw [hskipped] at hone
  exact absurd hone (by decide)

end Libov
