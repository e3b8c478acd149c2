/-
# From the payload of one client to the local port of another

`recsrv` of a client `A` sends a payload to its peer `B`; the message passes the
receive loop and the sorter of `B`, and `process_msg` of `B` sends the payload to its
local port.  Whether the payload travels sealed is decided by `A`, and whether it is
opened by `B`, each from its own table.

* `sent_body` : the bytes behind the header of what `A` sends;
* `plaintext_sent` : `B` makes the payload of them, in every combination of flags;
* `payload_delivered` : over every run of the loop of `B`.
-/
import Libov.ForwardingSealing
import Libov.ProcessMsg
import Libov.SendsrvTrace

open Runs

namespace Libov

/-- The key pair opens the boxes that were sealed for it, and nothing else. -/
structure SealedBoxes (L : Sodium) (pubkey : PublicKey) (seckey : SecretKey) : Prop where
  opens : ∀ r m, L.boxSealOpen (L.boxSeal r m pubkey) pubkey seckey = some m
  rejects : ∀ data, (∀ r m, data ≠ L.boxSeal r m pubkey) →
    L.boxSealOpen data pubkey seckey = none

/-- Two clients of a session and what their tables hold of each other: `eB` is the
entry of `A` for `B`, and `eA` the entry of `B` for `A`. -/
structure InSession (A : OvboxClient) (B : Receiver) (eA eB : EpDesc) : Prop where
  secret : A.remoteServer.secret = B.client.remoteServer.secret
  /-- the constructor passes the id on to the socket -/
  callerid : A.remoteServer.callerid = A.callerid
  distinct : A.callerid ≠ B.client.callerid
  inTable : A.callerid.toNat < maxStageId
  entryB : A.endpoints.1[B.client.callerid.toNat]? = some eB
  entryA : B.client.endpoints.1[A.callerid.toNat]? = some eA
  modeB : eB.mode = B.client.mode
  modeA : eA.mode = A.mode
  pubkey : eB.hasPubkey = true → eB.pubkey = B.recipientPublic

/-- The message received as the given datagram. -/
def ReceivedFrom (secret : Secret) (data : List UInt8) (m : MsgBuf) : Prop :=
  ∃ earlier addr, recvSecMsg secret earlier (some (data, addr)) = (true, m)

section Delivery

variable {L : Sodium} {A : OvboxClient} {B : Receiver} {eA eB : EpDesc} {payload : List UInt8}

/-- What `A` sends to `B` is a header and a body: the payload, or a box for `B` where
`A` takes part in encryption, `B` does and its key is known. -/
theorem sent_body (hsession : InSession A B eA eB) (t : ThreadState) (hpos : 1 ≤ payload.length)
    (hfit : headerLen + payload.length + cryptoBoxSealBytes ≤ bufSize) {x : Sent}
    (hx : x ∈ (recsrv L A t payload).1.sends)
    (hpeer : x.recipient = .peer B.client.callerid.toNat) :
    ∃ body, x.datagram.data = Thread.recsrv.header A ++ body ∧
      (body = payload ∨
        ((∃ r, body = L.boxSeal r payload B.recipientPublic) ∧
          A.mode.has bEncryption = true ∧ eB.mode.has bEncryption = true)) := by
  have hspec := forward_spec L A t payload .recsrv hpos
  have hout := hspec.data_peer hx hpeer hsession.entryB
  by_cases hseals : A.encryptsTo eB = true
  · rw [hseals] at hout
    obtain ⟨r, hdata⟩ := outgoing_sealed hfit hout
    unfold OvboxClient.encryptsTo at hseals
    simp only [Bool.and_eq_true] at hseals
    rw [hsession.pubkey hseals.2] at hdata
    exact ⟨_, hdata, Or.inr ⟨⟨r, rfl⟩, hseals.1.1, hseals.1.2⟩⟩
  · rw [Bool.eq_false_iff.mpr hseals] at hout
    exact ⟨payload, outgoing_plain (by omega) hout, Or.inl rfl⟩

/-- `B` looks up the entry for `A`. -/
theorem InSession.entry (hsession : InSession A B eA eB) : B.entry A.callerid = eA := by
  unfold Receiver.entry
  rw [List.getD_eq_getElem?_getD, hsession.entryA, Option.getD_some]

/-- Of a message with such a body `B` forwards the payload: a box is opened, and a
payload that is not a box for `B` is left as it is. -/
theorem plaintext_sent (hsession : InSession A B eA eB)
    (hbox : SealedBoxes L B.recipientPublic B.recipientSecret)
    (hfit : payload.length + cryptoBoxSealBytes ≤ bufSize)
    (hnobox : ∀ r m, payload ≠ L.boxSeal r m B.recipientPublic) {m : MsgBuf} {body : List UInt8}
    (hcid : m.cid = A.callerid) (hpayload : m.payload = body) (hsize : m.size = body.length)
    (hbody : body = payload ∨
      ((∃ r, body = L.boxSeal r payload B.recipientPublic) ∧
        A.mode.has bEncryption = true ∧ eB.mode.has bEncryption = true)) :
    (B.plaintext L m).1 = payload := by
  rcases hbody with rfl | ⟨⟨r, rfl⟩, hencA, hencB⟩
  · rw [plaintext_of_not_opened, hpayload]
    intro htries
    rw [hpayload]
    exact hbox.rejects _ hnobox
  · -- the sender took part in encryption, so does its entry, and `B` itself
    have htries : B.TriesToOpen m := by
      unfold Receiver.TriesToOpen
      rw [hcid, hsession.entry, hsession.modeA, ← hsession.modeB]
      exact ⟨hsession.inTable, hencA, hencB⟩
    rw [L.length_boxSeal] at hsize
    apply plaintext_of_opened htries
    · rw [hpayload]
      exact hbox.opens r payload
    · exact hsize
    · omega

/-- What `B` receives of a datagram with the header of a thread of `A`. -/
theorem receivedFrom_sent (th : Thread) (hsession : InSession A B eA eB) {body : List UInt8}
    (hlen : headerLen + body.length ≤ bufSize) {m : MsgBuf}
    (h : ReceivedFrom B.client.remoteServer.secret (th.header A ++ body) m) :
    m.cid = A.callerid ∧ m.destport = th.packPort A ∧
      m.seq = A.remoteServer.nextSeq (th.packPort A) ∧ m.payload = body ∧
      m.size = body.length := by
  obtain ⟨earlier, addr, hm⟩ := h
  -- the header of `A` carries the secret of `B`
  have hheader : th.header A = header B.client.remoteServer.secret A.callerid (th.packPort A)
      (A.remoteServer.nextSeq (th.packPort A)) := by
    rw [← hsession.secret, ← hsession.callerid]
    rfl
  rw [hheader] at hm
  obtain ⟨raw, hreceived, hpayload⟩ := recvSecMsg_packed B.client.remoteServer.secret A.callerid
    (th.packPort A) (A.remoteServer.nextSeq (th.packPort A)) body hlen earlier addr
  rw [hm] at hreceived
  obtain ⟨-, rfl⟩ := Prod.mk.inj hreceived
  exact ⟨rfl, rfl, rfl, hpayload, rfl⟩

end Delivery

/-- In every run of the loop of `B`, whenever a message is delivered that was received
as the datagram that `A` sent, `B` sends the payload of `A` to its local port, unless
the port is `0` or the one that `B` receives on; and likewise to its extra ports. -/
theorem payload_delivered (L : Sodium) (A : OvboxClient) (B : Receiver) (eA eB : EpDesc)
    (t : ThreadState) (payload : List UInt8) (sender1 sender2 sender : Endpoint)
    (hsession : InSession A B eA eB)
    (hbox : SealedBoxes L B.recipientPublic B.recipientSecret)
    (hpos : 1 ≤ payload.length)
    (hfit : payload.length ≤ bufSize - headerLen - cryptoBoxSealBytes)
    (hnobox : ∀ r m, payload ≠ L.boxSeal r m B.recipientPublic)
    (hport : maxSpecialPort < A.recport - A.portoffset)
    (x : Sent) (hx : x ∈ (recsrv L A t payload).1.sends)
    (hpeer : x.recipient = .peer B.client.callerid.toNat) (rxs : List Received) :
    AllSteps (tracedStep B.client.remoteServer.secret)
      (fun y rx => ∀ p ∈ (received B.client.remoteServer.secret y rx).zip
          (turn B.client.remoteServer.secret y.loop rx).1,
        ReceivedFrom B.client.remoteServer.secret x.datagram.data p.1.1 →
          (processMsg L B p.2).localSends =
            (B.client.portoffset :: B.xdest).flatMap fun offset =>
              if (A.recport - A.portoffset).toNat + offset.toNat = B.client.recport.toNat ∨
                  A.recport - A.portoffset + offset = 0 then []
              else [⟨{ B.localServer with
                sinPort := htons (A.recport - A.portoffset + offset) }, payload⟩])
      (Traced.fresh sender1 sender2 sender) rxs := by
  have hle : headerLen + payload.length + cryptoBoxSealBytes ≤ bufSize := by
    unfold bufSize headerLen cryptoBoxSealBytes at *
    omega
  obtain ⟨body, hdata, hbody⟩ := sent_body hsession t hpos hle hx hpeer
  have hlen : headerLen + body.length ≤ bufSize := by
    rcases hbody with rfl | ⟨⟨r, rfl⟩, -, -⟩
    · omega
    · rw [L.length_boxSeal]
      omega
  -- what the buffers hold is a copy of what was received, in every turn
  refine allSteps_of_invariant (I := Copied sender1 sender2)
    (fun _ rx h => copied_step B.client.remoteServer.secret rx sender1 sender2 h) ?_
    (copied_fresh sender1 sender2 sender) rxs
  intro y rx hcopied p hp hfrom
  rw [hdata] at hfrom
  obtain ⟨hcid, hdest, -, hpayload, hsize⟩ := receivedFrom_sent .recsrv hsession hlen hfrom
  obtain ⟨hcontent, hsize'⟩ := delivered_content B.client.remoteServer.secret rx hcopied p hp
  -- buffering has kept what the message was received with
  have hcid' : p.2.cid = A.callerid := (congrArg (fun c : Content => c.1) hcontent).trans hcid
  have hdest' : p.2.destport = A.recport - A.portoffset :=
    (congrArg (fun c : Content => c.2.1) hcontent).trans hdest
  have hpayload' : p.2.payload = body :=
    (congrArg (fun c : Content => c.2.2.2) hcontent).trans hpayload
  have hplain := plaintext_sent hsession hbox (by omega) hnobox hcid' hpayload'
    (hsize'.trans hsize) hbody
  have hother : p.2.cid ≠ B.client.callerid := by
    rw [hcid']
    exact hsession.distinct
  rw [localSends_processMsg hother (by rw [hdest']; exact hport), hplain, hdest']
  have hcopies : B.sendLocal payload (A.recport - A.portoffset) = fun offset =>
      if (A.recport - A.portoffset).toNat + offset.toNat = B.client.recport.toNat ∨
          A.recport - A.portoffset + offset = 0 then []
      else [⟨{ B.localServer with
        sinPort := htons (A.recport - A.portoffset + offset) }, payload⟩] := by
    funext offset
    exact sendLocal_eq payload (A.recport - A.portoffset) offset
  rw [hcopies]

/-- A stand-in for libsodium whose boxes end with the key they are sealed for. -/
def Sodium.tagged : Sodium where
  boxSeal _ m pk := m ++ (pk.1 ++ List.replicate 16 0)
  boxSealOpen data pk _ :=
    if data = data.take (data.length - cryptoBoxSealBytes) ++ (pk.1 ++ List.replicate 16 0) then
      some (data.take (data.length - cryptoBoxSealBytes))
    else none
  length_boxSeal _ m pk := by
    rw [List.length_append, List.length_append, Buffer.length_bytes, List.length_replicate]
    rfl

theorem sealedBoxes_tagged (pubkey : PublicKey) (seckey : SecretKey) :
    SealedBoxes Sodium.tagged pubkey seckey := by
  constructor
  · intro r m
    have hlen := Sodium.tagged.length_boxSeal r m pubkey
    have htake : (Sodium.tagged.boxSeal r m pubkey).take
        ((Sodium.tagged.boxSeal r m pubkey).length - cryptoBoxSealBytes) = m := by
      rw [hlen, Nat.add_sub_cancel]
      exact List.take_left
    show (if _ then some _ else none) = some m
    rw [htake]
    exact if_pos rfl
  · intro data hno
    exact if_neg (hno 0 _)

/-- The entry for a peer that takes part in encryption and has sent its key. -/
def EpDesc.sealingPeer : EpDesc := { EpDesc.peerMode bEncryption with hasPubkey := true }

/-- The first of two devices, which takes part in encryption. -/
def sealingSender : OvboxClient :=
  clientWithPeer (bPeer2peer ||| bEncryption) 4464 EpDesc.sealingPeer false

/-- The second device, which receives on the port 4470 with the port offset 10. -/
def openingReceiver : Receiver :=
  { client := { sealingSender with
      callerid := 1
      recport := 4470
      portoffset := 10
      endpoints := ⟨EpDesc.sealingPeer :: List.replicate 31 EpDesc.unused, rfl⟩ }
    recipientPublic := Buffer.zero _
    recipientSecret := Buffer.zero _
    localServer := Endpoint.cleared
    localep := Endpoint.cleared
    xdest := []
    proxyclients := []
    decryptedMsg := Buffer.zero _ }

/-- A sealed payload is delivered at once and sent to the port 4474 in plain text. -/
theorem payload_delivered_sealed :
    ∃ x ∈ (recsrv Sodium.tagged sealingSender ThreadState.start [1]).1.sends,
      x.recipient = .peer 1 ∧
        ∃ m ∈ (turn 0 (SendsrvLoop.fresh Endpoint.cleared Endpoint.cleared Endpoint.cleared)
            (some (x.datagram.data, Endpoint.cleared))).1,
          (processMsg Sodium.tagged openingReceiver m).localSends
            = [⟨{ Endpoint.cleared with sinPort := htons 4474 }, [1]⟩] := by
  have hsession : InSession sealingSender openingReceiver EpDesc.sealingPeer EpDesc.sealingPeer :=
    ⟨rfl, rfl, by decide, by decide, rfl, rfl, rfl, rfl, fun _ => rfl⟩
  have hbox := sealedBoxes_tagged openingReceiver.recipientPublic openingReceiver.recipientSecret
  have hnobox : ∀ r m, [1] ≠ Sodium.tagged.boxSeal r m openingReceiver.recipientPublic := by
    intro r m heq
    have hlen := Sodium.tagged.length_boxSeal r m openingReceiver.recipientPublic
    rw [← heq] at hlen
    simp [cryptoBoxSealBytes] at hlen
  have hspec := forward_spec Sodium.tagged sealingSender ThreadState.start [1] .recsrv (by decide)
  obtain ⟨x, hx, hpeer⟩ := hspec.exists_direct (e := (EpDesc.sealingPeer, 1))
    (List.mem_zipIdx_iff_getElem?.mpr rfl) rfl
  have hdelivered := (payload_delivered Sodium.tagged sealingSender openingReceiver _ _
    ThreadState.start [1] Endpoint.cleared Endpoint.cleared Endpoint.cleared hsession hbox
    (by decide) (by decide) hnobox (by decide) x hx hpeer
    [some (x.datagram.data, Endpoint.cleared)]).1
  refine ⟨x, hx, hpeer, ?_⟩
  -- the first message of its stream is received with the number `1`, and not held back
  obtain ⟨body, hdata, hbody⟩ := sent_body hsession ThreadState.start (by decide) (by decide) hx
    hpeer
  have hlen : headerLen + body.length ≤ bufSize := by
    rcases hbody with rfl | ⟨⟨r, rfl⟩, -, -⟩
    · decide
    · rw [Sodium.tagged.length_boxSeal]
      decide
  let y := Traced.fresh Endpoint.cleared Endpoint.cleared Endpoint.cleared
  obtain ⟨raw, hreceived, -⟩ := recvSecMsg_packed 0 0 4464 1 body hlen y.loop.msg Endpoint.cleared
  rw [show header 0 0 4464 1 ++ body = x.datagram.data from hdata.symm] at hreceived
  have hincoming : incoming 0 y.loop (some (x.datagram.data, Endpoint.cleared))
      = ⟨true, 0, 4464, 1, body.length, raw, headerLen, Endpoint.cleared⟩ :=
    congrArg Prod.snd hreceived
  have hheld : ¬ HeldBack 0 y.loop (some (x.datagram.data, Endpoint.cleared)) := by
    rintro ⟨-, -, hgap⟩
    rw [hincoming] at hgap
    have hclose : ¬ 1 < (1 : Sequence) - 0 := by decide
    exact hclose hgap.2
  rcases delivered_cases (x := y) 0 (some (x.datagram.data, Endpoint.cleared)) rfl with
    ⟨hnone, -⟩ | ⟨-, -, hlist⟩ | ⟨-, ⟨-, hswap⟩, -⟩
  · exact absurd ⟨congrArg Prod.fst hreceived, hheld⟩ hnone
  · have hmem := hlist ▸ List.mem_cons_self
    exact ⟨_, (List.of_mem_zip hmem).2,
      hdelivered _ hmem ⟨y.loop.msg, Endpoint.cleared, hincoming ▸ hreceived⟩⟩
  · exact absurd hswap.2.1 Bool.false_ne_true

end Libov
