/-
# Message headers, sealing and the constants of the protocol (`common.h`, `common.cc`)

A packed message is the byte string

    secret (4) | caller id (1) | port (2) | sequence number (2) | user data

in the byte order of the machine, which is little-endian on every supported
platform.  `packmsg` writes it, `encryptmsg` replaces the user data by its
sealed form and `decryptmsg` undoes that.  All three report lengths the way the
C functions do, with `0` for a message that does not fit.
-/
import Libov.Buffers

namespace Libov

/-! ## Basic types (`ov_types.h`) and limits -/

/-- Packet sequence number, `int16_t`. -/
abbrev Sequence := Int16

/-- UDP port number, `uint16_t`. -/
abbrev Port := UInt16

/-- Session pin, `uint32_t`. -/
abbrev Secret := UInt32

/-- Number of a device in a stage, `uint8_t`. -/
abbrev StageDeviceId := UInt8

/-- Bit mask of a device's operation mode, `uint8_t`. -/
abbrev Epmode := UInt8

/-- `BUFSIZE`: largest packed message in bytes. -/
def bufSize : ℕ := 8192

/-- `MAX_STAGE_ID`: size of the endpoint table. -/
def maxStageId : ℕ := 32

/-- `STAGE_ID_SERVER`: stage id under which the relay server announces itself. -/
def stageIdServer : StageDeviceId := 0xff

/-- `HEADERLEN`: length of the header of a packed message. -/
def headerLen : ℕ := 9

/-- `crypto_box_SEALBYTES` of libsodium. -/
def cryptoBoxSealBytes : ℕ := 48

/-- `crypto_box_PUBLICKEYBYTES` of libsodium. -/
def cryptoBoxPublicKeyBytes : ℕ := 32

/-! ## Reserved port numbers -/

def portRegister : Port := 0
def portListcid : Port := 1
def portPing : Port := 2
def portPong : Port := 3
def portPeerlatrep : Port := 4
def portSetlocalip : Port := 6
def portPingSrv : Port := 7
def portPongSrv : Port := 8
def portPingLocal : Port := 9
def portPongLocal : Port := 10
def portPubkey : Port := 11

/-- `MAXSPECIALPORT`: end of the range of port numbers with a special meaning. -/
def maxSpecialPort : Port := 12

/-! ## Operation modes -/

/-- Use peer-to-peer mode. -/
def bPeer2peer : Epmode := 0x01

/-- Can receive only downmixed signals. -/
def bReceivedownmix : Epmode := 0x02

/-- Do not send audio to this client. -/
def bDonotsend : Epmode := 0x04

/-- This device is sending a session mix. -/
def bSenddownmix : Epmode := 0x08

/-- This device is using a proxy. -/
def bUsingproxy : Epmode := 0x10

/-- Send and receive encrypted data where public keys are known. -/
def bEncryption : Epmode := 0x20

/-- `(bool)(mode & flag)`. -/
def Epmode.has (mode flag : Epmode) : Bool := mode &&& flag != 0

/-! ## Packing -/

/-- The header that `packmsg` writes: secret, caller id, port, sequence number. -/
def header (secret : Secret) (callerid : StageDeviceId) (destport : Port) (seq : Sequence) :
    List UInt8 :=
  leBytes 4 secret.toNat ++ [callerid] ++ leBytes 2 destport.toNat
    ++ leBytes 2 seq.toUInt16.toNat

@[simp] theorem length_header (secret : Secret) (callerid : StageDeviceId) (destport : Port)
    (seq : Sequence) : (header secret callerid destport seq).length = headerLen := by
  simp [header, headerLen]

/-- `packmsg`: header and user data into `destbuf`; the length of the packed
message, or `0` (and an untouched buffer) when it does not fit into `maxlen`. -/
def packmsg {n : ℕ} (destbuf : Buffer n) (maxlen : ℕ) (secret : Secret)
    (callerid : StageDeviceId) (destport : Port) (seq : Sequence) (msg : List UInt8) :
    Buffer n × ℕ :=
  if maxlen < headerLen + msg.length then (destbuf, 0)
  else (destbuf.write 0 (header secret callerid destport seq ++ msg), headerLen + msg.length)

/-- A message that fits is packed as its header followed by the user data. -/
theorem read_packmsg {n : ℕ} (destbuf : Buffer n) (secret : Secret) (callerid : StageDeviceId)
    (destport : Port) (seq : Sequence) (msg : List UInt8) (h : headerLen + msg.length ≤ n) :
    (packmsg destbuf n secret callerid destport seq msg).1.read 0 (headerLen + msg.length)
      = header secret callerid destport seq ++ msg := by
  rw [packmsg, if_neg (by omega)]
  exact Buffer.read_write_zero _ _ _ (by simp) (by simpa using h)

/-! ## Sealing -/

/-- A libsodium public key. -/
abbrev PublicKey := Buffer cryptoBoxPublicKeyBytes

/-- A libsodium secret key. -/
abbrev SecretKey := Buffer cryptoBoxPublicKeyBytes

/-- The part of libsodium that the client calls.  `boxSeal` is `crypto_box_seal`;
its first argument stands for the randomness a call draws, so that two calls
with the same message and key may differ.  `boxSealOpen` is `crypto_box_seal_open`,
`none` for a return value other than `0`. -/
structure Sodium where
  boxSeal : ℕ → List UInt8 → PublicKey → List UInt8
  boxSealOpen : List UInt8 → PublicKey → SecretKey → Option (List UInt8)
  /-- Sealing adds `crypto_box_SEALBYTES` bytes. -/
  length_boxSeal : ∀ r m pk, (boxSeal r m pk).length = m.length + cryptoBoxSealBytes

/-- A stand-in for libsodium that seals with zero bytes, for evaluating the model. -/
def Sodium.padding : Sodium where
  boxSeal _ m _ := m ++ List.replicate cryptoBoxSealBytes 0
  boxSealOpen m _ _ := if cryptoBoxSealBytes ≤ m.length then
    some (m.take (m.length - cryptoBoxSealBytes)) else none
  length_boxSeal _ m _ := by rw [List.length_append, List.length_replicate]

/-- `a - b` on `size_t`, which wraps around below zero. -/
def sizeSub (a b : ℕ) : ℕ := (a + (2 ^ 64 - b % 2 ^ 64)) % 2 ^ 64

/-- Without a borrow the subtraction of lengths is the usual one. -/
theorem sizeSub_of_le {a b : ℕ} (hba : b ≤ a) (ha : a < 2 ^ 64) : sizeSub a b = a - b := by
  unfold sizeSub
  omega

/-- `encryptmsg`: header copied, user data sealed; the new length, or `0` when
the sealed message does not fit into `maxlen`.  For `msglen < HEADERLEN` the
length `msglen - HEADERLEN` handed to libsodium has wrapped around; the source
bytes read then are whatever the buffer holds behind the header. -/
def encryptmsg {n k : ℕ} (L : Sodium) (rnd : ℕ) (destmsg : Buffer n) (maxlen : ℕ)
    (srcmsg : Buffer k) (msglen : ℕ) (pubkey : PublicKey) : Buffer n × ℕ :=
  if maxlen < msglen + cryptoBoxSealBytes then (destmsg, 0)
  else
    let destmsg := destmsg.write 0 (srcmsg.read 0 headerLen)
    let destmsg := destmsg.write headerLen
      (L.boxSeal rnd (srcmsg.read headerLen (sizeSub msglen headerLen)) pubkey)
    (destmsg, msglen + cryptoBoxSealBytes)

/-- A sealed message that fits: the header of the source and the sealed rest. -/
theorem read_encryptmsg {n k : ℕ} (L : Sodium) (rnd : ℕ) (destmsg : Buffer n) {maxlen : ℕ}
    (srcmsg : Buffer k) {msglen : ℕ} (pubkey : PublicKey) (hheader : headerLen ≤ msglen)
    (hsrc : msglen ≤ k) (hk : k < 2 ^ 64) (hfit : msglen + cryptoBoxSealBytes ≤ maxlen)
    (hdest : maxlen ≤ n) :
    (encryptmsg L rnd destmsg maxlen srcmsg msglen pubkey).1.read 0
        (encryptmsg L rnd destmsg maxlen srcmsg msglen pubkey).2
      = srcmsg.read 0 headerLen
        ++ L.boxSeal rnd (srcmsg.read headerLen (msglen - headerLen)) pubkey := by
  have hfront : (srcmsg.read 0 headerLen).length = headerLen :=
    srcmsg.length_read 0 headerLen (by omega)
  have hsealed : (L.boxSeal rnd (srcmsg.read headerLen (msglen - headerLen)) pubkey).length
      = msglen - headerLen + cryptoBoxSealBytes := by
    rw [L.length_boxSeal, srcmsg.length_read _ _ (by omega)]
  unfold encryptmsg
  rw [if_neg (by omega), sizeSub_of_le hheader (by omega)]
  have hwrite := Buffer.write_write_append destmsg (srcmsg.read 0 headerLen)
    (L.boxSeal rnd (srcmsg.read headerLen (msglen - headerLen)) pubkey) (by omega)
  rw [hfront] at hwrite
  show ((destmsg.write 0 _).write headerLen _).read 0 (msglen + cryptoBoxSealBytes) = _
  rw [hwrite]
  apply Buffer.read_write_zero
  · rw [List.length_append, hfront, hsealed]
    omega
  · rw [List.length_append, hfront, hsealed]
    omega

/-- `decryptmsg`: the opened message, or the source message when it is too short
or cannot be opened with the given key pair. -/
def decryptmsg {n k : ℕ} (L : Sodium) (destmsg : Buffer n) (srcmsg : Buffer k) (msglen : ℕ)
    (pubkey : PublicKey) (seckey : SecretKey) : Buffer n × ℕ :=
  if msglen ≤ headerLen then (destmsg.write 0 (srcmsg.read 0 msglen), msglen)
  else
    let destmsg := destmsg.write 0 (srcmsg.read 0 headerLen)
    match L.boxSealOpen (srcmsg.read headerLen (sizeSub msglen headerLen)) pubkey seckey with
    | none => (destmsg.write 0 (srcmsg.read 0 msglen), msglen)
    | some m => (destmsg.write headerLen m, sizeSub msglen cryptoBoxSealBytes)

end Libov
