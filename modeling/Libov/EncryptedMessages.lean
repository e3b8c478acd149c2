/-
# The two ways of opening a sealed message

`decryptmsg` opens a packed message into another buffer and keeps its header;
`process_msg` opens the payload alone.  Both fall back on what was received when it is
not a box for the key pair.

* `read_decryptmsg_opened`, `read_decryptmsg_kept` : the outcomes of `decryptmsg`;
* `plaintext_eq_decryptmsg` : both ways end with the same payload;
* `encryption_consistent` : `decryptmsg` also inverts `encryptmsg`.
-/
import Libov.PackedMessages
import Libov.PayloadDelivery

namespace Libov

/-- What the client relies on when it opens a box with its key pair: a box that was
sealed for it opens, and a string that opens is as long as its content and the seal.
Shorter strings than the seal do not open. -/
structure OpensSealed (L : Sodium) (pubkey : PublicKey) (seckey : SecretKey) : Prop where
  opens : ∀ r m, L.boxSealOpen (L.boxSeal r m pubkey) pubkey seckey = some m
  length_opened : ∀ data m, L.boxSealOpen data pubkey seckey = some m →
    data.length = m.length + cryptoBoxSealBytes

theorem opensSealed_tagged (pubkey : PublicKey) (seckey : SecretKey) :
    OpensSealed Sodium.tagged pubkey seckey := by
  refine ⟨(sealedBoxes_tagged pubkey seckey).opens, ?_⟩
  intro data m hopen
  unfold Sodium.tagged at hopen
  dsimp only at hopen
  split_ifs at hopen with hbox
  have hlen := congrArg List.length hbox
  rw [List.length_append, List.length_append, Buffer.length_bytes, List.length_replicate,
    Option.some.inj hopen] at hlen
  exact hlen

section Decryptmsg

variable {L : Sodium} {pubkey : PublicKey} {seckey : SecretKey} {n k msglen : ℕ}
  {srcmsg : Buffer k}

variable (msglen srcmsg) in
/-- A message that opens: its header and the content of the box. -/
theorem read_decryptmsg_opened (destmsg : Buffer n) (opened : List UInt8)
    (hlong : headerLen < msglen) (hsrc : msglen ≤ k) (hdest : headerLen + opened.length ≤ n)
    (hk : k < 2 ^ 64)
    (hopen : L.boxSealOpen (srcmsg.read headerLen (msglen - headerLen)) pubkey seckey
      = some opened)
    (hlen : msglen - headerLen = opened.length + cryptoBoxSealBytes) :
    (decryptmsg L destmsg srcmsg msglen pubkey seckey).2 = headerLen + opened.length ∧
      (decryptmsg L destmsg srcmsg msglen pubkey seckey).1.read 0 (headerLen + opened.length)
        = srcmsg.read 0 headerLen ++ opened := by
  have hseal : cryptoBoxSealBytes = 48 := rfl
  have hfront : (srcmsg.read 0 headerLen).length = headerLen :=
    srcmsg.length_read 0 headerLen (by omega)
  unfold decryptmsg
  rw [if_neg (not_le.mpr hlong), sizeSub_of_le hlong.le (by omega), hopen]
  dsimp only
  rw [sizeSub_of_le (by omega) (by omega)]
  refine ⟨by omega, ?_⟩
  -- header and content are copied one behind the other
  have hwrite := Buffer.write_write_append destmsg (srcmsg.read 0 headerLen) opened (by omega)
  rw [hfront] at hwrite
  rw [hwrite]
  apply Buffer.read_write_zero
  · rw [List.length_append, hfront]
  · rw [List.length_append, hfront]
    omega

variable (L pubkey seckey msglen srcmsg) in
/-- A message that does not open, or has no payload, is kept as it is. -/
theorem read_decryptmsg_kept (destmsg : Buffer n) (hsrc : msglen ≤ k) (hdest : msglen ≤ n)
    (hk : k < 2 ^ 64)
    (hopen : headerLen < msglen →
      L.boxSealOpen (srcmsg.read headerLen (msglen - headerLen)) pubkey seckey = none) :
    (decryptmsg L destmsg srcmsg msglen pubkey seckey).2 = msglen ∧
      (decryptmsg L destmsg srcmsg msglen pubkey seckey).1.read 0 msglen
        = srcmsg.read 0 msglen := by
  have hlen : (srcmsg.read 0 msglen).length = msglen := srcmsg.length_read 0 msglen (by omega)
  have hcopy : ∀ b : Buffer n, (b.write 0 (srcmsg.read 0 msglen)).read 0 msglen
      = srcmsg.read 0 msglen := by
    intro b
    exact Buffer.read_write_zero b _ _ hlen.symm (by omega)
  unfold decryptmsg
  by_cases hlong : headerLen < msglen
  · rw [if_neg (not_le.mpr hlong), sizeSub_of_le hlong.le (by omega), hopen hlong]
    exact ⟨rfl, hcopy _⟩
  · rw [if_pos (not_lt.mp hlong)]
    exact ⟨rfl, hcopy _⟩

/-- A message is sealed and opened: what comes out is what went in, with the header in
plain sight in between. -/
theorem decryptmsg_encryptmsg (hbox : OpensSealed L pubkey seckey) (rnd : ℕ) {maxlen l : ℕ}
    (destmsg : Buffer n) (opened : Buffer l) (hheader : headerLen ≤ msglen)
    (hfit : msglen + cryptoBoxSealBytes ≤ maxlen) (hdest : maxlen ≤ n) (hsrc : msglen ≤ k)
    (hopened : msglen ≤ l) (hn : n < 2 ^ 64) (hk : k < 2 ^ 64) :
    let m := encryptmsg L rnd destmsg maxlen srcmsg msglen pubkey
    m.1.read 0 headerLen = srcmsg.read 0 headerLen ∧
      (decryptmsg L opened m.1 m.2 pubkey seckey).2 = msglen ∧
      (decryptmsg L opened m.1 m.2 pubkey seckey).1.read 0 msglen = srcmsg.read 0 msglen := by
  have hseal : cryptoBoxSealBytes = 48 := rfl
  have hfront : (srcmsg.read 0 headerLen).length = headerLen :=
    srcmsg.length_read 0 headerLen (by omega)
  have hlen : (srcmsg.read headerLen (msglen - headerLen)).length = msglen - headerLen :=
    srcmsg.length_read _ _ (by omega)
  intro m
  have hm : m.2 = msglen + cryptoBoxSealBytes := by
    show (encryptmsg L rnd destmsg maxlen srcmsg msglen pubkey).2 = _
    unfold encryptmsg
    rw [if_neg (not_lt.mpr hfit)]
  have hread := read_encryptmsg L rnd destmsg srcmsg pubkey hheader hsrc hk hfit hdest
  change m.1.read 0 m.2 = _ at hread
  have hhead : m.1.read 0 headerLen = srcmsg.read 0 headerLen := by
    rw [← m.1.take_read 0 headerLen m.2 (by omega), hread, List.take_left' hfront]
  have hbody : m.1.read headerLen (m.2 - headerLen)
      = L.boxSeal rnd (srcmsg.read headerLen (msglen - headerLen)) pubkey := by
    have hdrop := m.1.drop_read 0 headerLen m.2
    rw [Nat.zero_add] at hdrop
    rw [← hdrop, hread, List.drop_left' hfront]
  obtain ⟨hplen, hplain⟩ := read_decryptmsg_opened m.2 m.1 opened _
    (by omega) (by omega) (by rw [hlen]; omega) hn (hbody ▸ hbox.opens _ _) (by omega)
  rw [hlen, Nat.add_sub_cancel' hheader] at hplen hplain
  refine ⟨hhead, hplen, ?_⟩
  rw [hplain, hhead, Buffer.read, Buffer.read, Buffer.read, List.drop_zero, ← List.take_add,
    Nat.add_sub_cancel' hheader]

end Decryptmsg

section ProcessMsg

variable {L : Sodium} {B : Receiver} {m : MsgBuf}

/-- The payload that `decryptmsg` makes of a received message: what stands behind the
header in its result. -/
def decryptedPayload (L : Sodium) (B : Receiver) {n : ℕ} (destmsg : Buffer n) (m : MsgBuf) :
    List UInt8 :=
  let r := decryptmsg L destmsg m.rawbuffer (headerLen + m.size) B.recipientPublic
    B.recipientSecret
  r.1.read headerLen (r.2 - headerLen)

/-- A slice behind the header, cut out of the bytes of the whole message. -/
theorem read_behind_header {n : ℕ} (b : Buffer n) (len : ℕ) :
    b.read headerLen len = (b.read 0 (headerLen + len)).drop headerLen := by
  rw [b.drop_read, Nat.zero_add, Nat.add_sub_cancel_left]

/-- `process_msg` and `decryptmsg` obtain the same payload, whether the message is a box
for this client, is not, has been cut or is empty. -/
theorem plaintext_eq_decryptmsg (hbox : OpensSealed L B.recipientPublic B.recipientSecret)
    {n : ℕ} (destmsg : Buffer n) (hm : m.Unpacked) (hdest : headerLen + m.size ≤ n)
    (htries : B.TriesToOpen m) :
    (B.plaintext L m).1 = decryptedPayload L B destmsg m := by
  have hbuf : bufSize = 8192 := rfl
  have hseal : cryptoBoxSealBytes = 48 := rfl
  have hsize := hm.size
  have hpayload : m.payload = m.rawbuffer.read headerLen m.size := by
    rw [MsgBuf.payload, hm.msg]
  have hsub : headerLen + m.size - headerLen = m.size := Nat.add_sub_cancel_left _ _
  have hplen : m.payload.length = m.size := by
    rw [hpayload]
    exact m.rawbuffer.length_read _ _ hsize
  unfold decryptedPayload
  dsimp only
  cases hopen : L.boxSealOpen m.payload B.recipientPublic B.recipientSecret with
  | none =>
      obtain ⟨hlen, hkept⟩ := read_decryptmsg_kept L B.recipientPublic B.recipientSecret
        (headerLen + m.size) m.rawbuffer destmsg hsize hdest (by omega)
        (fun _ => by rw [hsub, ← hpayload]; exact hopen)
      rw [plaintext_of_not_opened fun _ => hopen, hlen, hsub, read_behind_header, hkept,
        ← read_behind_header, hpayload]
  | some opened =>
      have hopened := hbox.length_opened _ _ hopen
      rw [hplen] at hopened
      obtain ⟨hlen, hplain⟩ := read_decryptmsg_opened (headerLen + m.size)
        m.rawbuffer destmsg opened (by omega) hsize (by omega) (by omega)
        (by rw [hsub, ← hpayload]; exact hopen) (by omega)
      have hfront : (m.rawbuffer.read 0 headerLen).length = headerLen :=
        m.rawbuffer.length_read 0 headerLen (by omega)
      rw [plaintext_of_opened htries hopen hopened (by omega), hlen, Nat.add_sub_cancel_left,
        read_behind_header, hplain, List.drop_left' hfront]

/-- A data message of another device goes to the proxy clients, unless it comes from the
local network. -/
theorem remoteSends_processMsg (hother : m.cid ≠ B.client.callerid)
    (hport : maxSpecialPort < m.destport) :
    (processMsg L B m).remoteSends =
      if isSameNetwork m.sender B.localep then [] else B.sendProxies m (B.plaintext L m).1 := by
  rw [processMsg_of_data hother hport]
  unfold Receiver.processData
  by_cases hnet : isSameNetwork m.sender B.localep = true
  · rw [if_pos hnet]
    exact congrArg Processed.remoteSends (if_pos hnet)
  · rw [if_neg hnet]
    exact congrArg Processed.remoteSends (if_neg hnet)

end ProcessMsg

/-- `decryptmsg` inverts `encryptmsg` at every length that fits, with the header in plain
sight in between; and what `process_msg` forwards of a data message of a peer, where both
sides take part in encryption, is the payload that `decryptmsg` makes of it. -/
theorem encryption_consistent (L : Sodium) (pubkey : PublicKey) (seckey : SecretKey)
    (hbox : OpensSealed L pubkey seckey) :
    (∀ (n k l rnd maxlen msglen : ℕ) (destmsg : Buffer n) (srcmsg : Buffer k) (opened : Buffer l),
      headerLen ≤ msglen → msglen + cryptoBoxSealBytes ≤ maxlen → maxlen ≤ n → msglen ≤ k →
      msglen ≤ l → n < 2 ^ 64 → k < 2 ^ 64 →
      let m := encryptmsg L rnd destmsg maxlen srcmsg msglen pubkey
      m.1.read 0 headerLen = srcmsg.read 0 headerLen ∧
        (decryptmsg L opened m.1 m.2 pubkey seckey).2 = msglen ∧
        (decryptmsg L opened m.1 m.2 pubkey seckey).1.read 0 msglen = srcmsg.read 0 msglen) ∧
    (∀ (n : ℕ) (B : Receiver) (m : MsgBuf) (destmsg : Buffer n), B.recipientPublic = pubkey →
      B.recipientSecret = seckey → m.Unpacked → headerLen + m.size ≤ n →
      m.cid ≠ B.client.callerid → maxSpecialPort < m.destport → B.TriesToOpen m →
      (processMsg L B m).localSends = (B.client.portoffset :: B.xdest).flatMap
          (B.sendLocal (decryptedPayload L B destmsg m) m.destport) ∧
        (processMsg L B m).remoteSends = if isSameNetwork m.sender B.localep then []
          else B.sendProxies m (decryptedPayload L B destmsg m)) := by
  constructor
  · intro n k l rnd maxlen msglen destmsg srcmsg opened hheader hfit hdest hsrc hopened hn hk
    exact decryptmsg_encryptmsg hbox rnd destmsg opened hheader hfit hdest hsrc hopened hn hk
  · rintro n B m destmsg rfl rfl hm hdest hother hport htries
    rw [localSends_processMsg hother hport, remoteSends_processMsg hother hport,
      plaintext_eq_decryptmsg hbox destmsg hm hdest htries]
    exact ⟨rfl, rfl⟩

/-- A message of one byte is sealed and opened, and a peer's payload of one byte, which is
no box, is forwarded as it is by both ways. -/
theorem encryption_consistent_tagged :
    ((decryptmsg Sodium.tagged (Buffer.zero 10)
        (encryptmsg Sodium.tagged 0 (Buffer.zero 58) 58 (Buffer.zero 10) 10 (Buffer.zero _)).1
        (encryptmsg Sodium.tagged 0 (Buffer.zero 58) 58 (Buffer.zero 10) 10 (Buffer.zero _)).2
        (Buffer.zero _) (Buffer.zero _)).2 = 10) ∧
      (processMsg Sodium.tagged openingReceiver
        ⟨true, 0, 4464, 1, 1, Buffer.zero _, headerLen, Endpoint.cleared⟩).localSends
        = openingReceiver.sendLocal (decryptedPayload Sodium.tagged openingReceiver
            (Buffer.zero bufSize)
            ⟨true, 0, 4464, 1, 1, Buffer.zero _, headerLen, Endpoint.cleared⟩) 4464 10 := by
  have hconsistent := encryption_consistent Sodium.tagged (Buffer.zero _) (Buffer.zero _)
    (opensSealed_tagged _ _)
  have hsealed := hconsistent.1 58 10 10 0 58 10 (Buffer.zero 58) (Buffer.zero 10)
    (Buffer.zero 10) (by decide) (by decide) (by decide) (by decide) (by decide) (by decide)
    (by decide)
  have hforwarded := hconsistent.2 bufSize openingReceiver
    ⟨true, 0, 4464, 1, 1, Buffer.zero _, headerLen, Endpoint.cleared⟩ (Buffer.zero bufSize) rfl rfl
    ⟨rfl, by decide⟩ (by decide) (by decide) (by decide) (by decide)
  exact ⟨hsealed.2.1, hforwarded.1.trans (List.append_nil _)⟩

end Libov
