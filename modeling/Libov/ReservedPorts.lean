/-
# User ports and reserved port numbers

`xrecsrv` packs what it receives on a user port with the number of that port.  The socket of
the sender, the sorter and `process_msg` of the receiver test the number again, each for
itself, to tell a data message from a control message; `parse_config` admits every number but
`0`.

* `readXrecport_admits` : the ports that a configuration can ask for;
* `localSends_eq_iff` : where a receiver leaves out a local port;
* `control_data_apart_iff` : the ports whose payloads are data throughout;
* `reserved_port_called` : what a payload on a reserved port does.
-/
import Libov.ClientConfig
import Libov.EncryptedMessages

open Runs

namespace Libov

/-! ## User ports -/

theorem toNat_portOfInt {n : ℕ} (h : n < 2 ^ 16) : (UInt16.ofInt (n : ℤ)).toNat = n := by
  unfold UInt16.ofInt
  rw [UInt16.toNat_ofNat']
  omega

/-- A configuration can ask for every port but `0`. -/
theorem readXrecport_admits (p : Port) : (∃ j, readXrecport j = some p) ↔ p ≠ 0 := by
  constructor
  · rintro ⟨j, hj⟩ rfl
    have hport : ∀ i : ℤ, readXrecport.portOf i ≠ some 0 := by
      intro i h
      unfold readXrecport.portOf at h
      split_ifs at h with hi
      obtain ⟨n, rfl⟩ := Int.eq_ofNat_of_zero_le hi.1.le
      have hn := congrArg UInt16.toNat (Option.some.inj h)
      rw [toNat_portOfInt (by omega)] at hn
      have hzero : (0 : UInt16).toNat = 0 := rfl
      omega
    cases j with
    | int i => exact hport _ hj
    | float q => exact hport _ hj
    | str s => exact hport _ hj
    | _ => exact absurd hj.symm (Option.some_ne_none _)
  · intro hp
    have hlt := p.toNat_lt
    have hpos : p.toNat ≠ 0 := fun h => hp (UInt16.toNat_inj.mp h)
    have hint : (Int32.ofInt (p.toNat : ℤ)).toInt = p.toNat := by
      have hsize : Int32.size = 2 ^ 32 := rfl
      rw [Int32.toInt_ofInt, hsize]
      rw [Int.bmod_eq_of_le] <;> omega
    refine ⟨.int p.toNat, ?_⟩
    show readXrecport.portOf (Int32.ofInt (p.toNat : ℤ)).toInt = some p
    unfold readXrecport.portOf
    rw [hint, if_pos (by omega)]
    exact congrArg some (UInt16.toNat_inj.mp (toNat_portOfInt hlt))

/-! ## Where the payload goes -/

/-- The datagrams for the local ports of a payload: the one at `portoffset`, and the extra
destinations. -/
def Receiver.localDatagrams (B : Receiver) (data : List UInt8) (p : Port) : List Datagram :=
  (B.client.portoffset :: B.xdest).map fun offset =>
    ⟨{ B.localServer with sinPort := htons (p + offset) }, data⟩

/-- None of the local ports is left out: they are neither the port that the receiver itself
listens on nor zero. -/
def Receiver.ReachesAll (B : Receiver) (p : Port) : Prop :=
  ∀ offset ∈ B.client.portoffset :: B.xdest,
    p.toNat + offset.toNat ≠ B.client.recport.toNat ∧ p + offset ≠ 0

instance (B : Receiver) (p : Port) : Decidable (B.ReachesAll p) :=
  inferInstanceAs (Decidable (∀ offset ∈ _, _))

theorem length_sendLocal_le (B : Receiver) (data : List UInt8) (p offset : Port) :
    (B.sendLocal data p offset).length ≤ 1 := by
  rw [sendLocal_eq]
  split_ifs
  · exact Nat.zero_le 1
  · exact le_rfl

theorem length_flatMap_sendLocal_le (B : Receiver) (data : List UInt8) (p : Port)
    (offsets : List Port) : (offsets.flatMap (B.sendLocal data p)).length ≤ offsets.length := by
  induction offsets with
  | nil => exact le_rfl
  | cons offset offsets ih =>
      have hone := length_sendLocal_le B data p offset
      rw [List.flatMap_cons, List.length_append, List.length_cons]
      omega

/-- What is sent is a payload for all ports exactly if it is that payload and none of the ports
is left out. -/
theorem flatMap_sendLocal_eq_iff {B : Receiver} {data data' : List UInt8} {p : Port}
    (offsets : List Port) :
    offsets.flatMap (B.sendLocal data p)
        = offsets.map (fun offset => ⟨{ B.localServer with sinPort := htons (p + offset) }, data'⟩)
      ↔ (∀ offset ∈ offsets, p.toNat + offset.toNat ≠ B.client.recport.toNat ∧ p + offset ≠ 0) ∧
        (offsets = [] ∨ data = data') := by
  induction offsets with
  | nil => simp
  | cons offset offsets ih =>
      rw [List.flatMap_cons, List.map_cons, sendLocal_eq, List.forall_mem_cons]
      by_cases hleft : p.toNat + offset.toNat = B.client.recport.toNat ∨ p + offset = 0
      · -- what is left out is missing
        refine iff_of_false ?_ fun h => not_or.mpr h.1.1 hleft
        rw [if_pos hleft, List.nil_append]
        intro h
        have hle := length_flatMap_sendLocal_le B data p offsets
        have hlength := congrArg List.length h
        rw [List.length_cons, List.length_map] at hlength
        omega
      · rw [if_neg hleft, List.singleton_append, List.cons.injEq, ih, Datagram.mk.injEq]
        have hreach := not_or.mp hleft
        constructor
        · rintro ⟨⟨-, hdata⟩, hrest, -⟩
          exact ⟨⟨hreach, hrest⟩, Or.inr hdata⟩
        · rintro ⟨⟨-, hrest⟩, hdata⟩
          have hdata := hdata.resolve_left (List.cons_ne_nil offset offsets)
          exact ⟨⟨rfl, hdata⟩, hrest, Or.inr hdata⟩

/-- What a receiver sends of a payload is right exactly if it is the payload and none of its
local ports is left out. -/
theorem localSends_eq_iff {B : Receiver} {data data' : List UInt8} {p : Port} :
    (B.client.portoffset :: B.xdest).flatMap (B.sendLocal data p) = B.localDatagrams data' p
      ↔ B.ReachesAll p ∧ data = data' := by
  unfold Receiver.localDatagrams Receiver.ReachesAll
  rw [flatMap_sendLocal_eq_iff, or_iff_right (List.cons_ne_nil _ _)]

section Apart

variable (L : Sodium) (A : OvboxClient) (B : Receiver) (p : Port) (payload : List UInt8) (x : Sent)

/-- The copy of a payload is sealed. -/
def CopySealed (eB : EpDesc) : Prop := x.recipient ≠ .server ∧ A.encryptsTo eB = true

instance (eB : EpDesc) : Decidable (CopySealed A x eB) := inferInstanceAs (Decidable (_ ∧ _))

/-- The payload goes out in the clear and looks like a box for the receiver, which takes part
in encryption like the sender. -/
def OpenedByMistake (eB : EpDesc) : Prop :=
  ¬ CopySealed A x eB ∧ A.mode.has bEncryption = true ∧ B.client.mode.has bEncryption = true ∧
    (L.boxSealOpen payload B.recipientPublic B.recipientSecret).isSome = true

/-- The payload of a user port is data throughout: the sender numbers the message, the sorter
of the receiver counts it and records its number, and whenever it is delivered it is sent to all
local ports as it was and calls nothing. -/
structure KeptApart (t : ThreadState) (sender1 sender2 sender : Endpoint) : Prop where
  numbered : (xrecsrv L A p t payload).2.2.seqmap.at p = A.remoteServer.seqmap.at p + 1 ∧
    ∀ m, ReceivedFrom B.client.remoteServer.secret x.datagram.data m →
      m.seq = A.remoteServer.seqmap.at p + 1
  ordered : ∀ m, ReceivedFrom B.client.remoteServer.secret x.datagram.data m →
    ∀ s : MessageSorter, s.buf2.valid = false → (feed s m).2.seqIn = s.seqIn.record m ∧
      ((feed s m).2.getStat m.cid).received = (s.getStat m.cid).received + 1
  handled : ∀ rxs, AllSteps (tracedStep B.client.remoteServer.secret)
    (fun y rx => ∀ q ∈ (received B.client.remoteServer.secret y rx).zip
        (turn B.client.remoteServer.secret y.loop rx).1,
      ReceivedFrom B.client.remoteServer.secret x.datagram.data q.1.1 →
        (processMsg L B q.2).call = none ∧
          (processMsg L B q.2).localSends = B.localDatagrams payload p)
    (Traced.fresh sender1 sender2 sender) rxs

end Apart

/-! ## Payloads on data ports -/

section Session

variable {L : Sodium} {A : OvboxClient} {B : Receiver} {eA eB : EpDesc} {p : Port}
  {payload : List UInt8} {x : Sent}

/-- What `A` sends towards `B` is a header and a body: the payload, or a box for `B`. -/
theorem sent_copy (hsession : InSession A B eA eB) (t : ThreadState) (hpos : 1 ≤ payload.length)
    (hfit : headerLen + payload.length + (if CopySealed A x eB then cryptoBoxSealBytes else 0)
      ≤ bufSize)
    (hx : x ∈ (xrecsrv L A p t payload).1.sends)
    (hcopy : x.recipient = .peer B.client.callerid.toNat ∨ x.recipient = .server) :
    ∃ body, x.datagram.data = (Thread.xrecsrv p).header A ++ body ∧
      headerLen + body.length ≤ bufSize ∧
      if CopySealed A x eB then ∃ r, body = L.boxSeal r payload B.recipientPublic
      else body = payload := by
  have hspec := forward_spec L A t payload (.xrecsrv p) hpos
  by_cases hsealed : CopySealed A x eB
  · rw [if_pos hsealed] at hfit
    have hout := hspec.data_peer hx (hcopy.resolve_right hsealed.1) hsession.entryB
    rw [hsealed.2] at hout
    obtain ⟨r, hdata⟩ := outgoing_sealed hfit hout
    have hkey := hsealed.2
    unfold OvboxClient.encryptsTo at hkey
    rw [hsession.pubkey (Bool.and_eq_true_iff.mp hkey).2] at hdata
    refine ⟨_, hdata, ?_, ?_⟩
    · rw [L.length_boxSeal]
      omega
    · rw [if_pos hsealed]
      exact ⟨r, rfl⟩
  · rw [if_neg hsealed] at hfit
    refine ⟨payload, ?_, by omega, (if_neg hsealed).mpr rfl⟩
    rcases hcopy with hpeer | hserver
    · have hout := hspec.data_peer hx hpeer hsession.entryB
      have hplain : A.encryptsTo eB = false := by
        refine Bool.eq_false_iff.mpr fun h => hsealed ⟨?_, h⟩
        rw [hpeer]
        exact fun h => by cases h
      rw [hplain] at hout
      exact outgoing_plain hfit hout
    · exact outgoing_plain hfit (hspec.data_server hx hserver)

/-- `B` makes the payload of the body, unless it opens what is not sealed. -/
theorem plaintext_eq_iff (hsession : InSession A B eA eB)
    (hopen : OpensSealed L B.recipientPublic B.recipientSecret) {body : List UInt8}
    (hlen : headerLen + body.length ≤ bufSize)
    (hbody : if CopySealed A x eB then ∃ r, body = L.boxSeal r payload B.recipientPublic
      else body = payload) {m : MsgBuf} (hcid : m.cid = A.callerid) (hpayload : m.payload = body)
    (hsize : m.size = body.length) :
    (B.plaintext L m).1 = payload ↔ ¬ OpenedByMistake L A B payload x eB := by
  have htries : B.TriesToOpen m ↔
      A.mode.has bEncryption = true ∧ B.client.mode.has bEncryption = true := by
    unfold Receiver.TriesToOpen
    rw [hcid, hsession.entry, hsession.modeA]
    exact and_iff_right hsession.inTable
  have hfit : m.size ≤ bufSize := by omega
  by_cases hsealed : CopySealed A x eB
  · -- a box that `A` has sealed for `B`
    rw [if_pos hsealed] at hbody
    obtain ⟨r, rfl⟩ := hbody
    have hkey := hsealed.2
    unfold OvboxClient.encryptsTo at hkey
    simp only [Bool.and_eq_true] at hkey
    refine iff_of_true ?_ fun h => h.1 hsealed
    refine plaintext_of_opened (htries.mpr ⟨hkey.1.1, hsession.modeB ▸ hkey.1.2⟩) ?_ ?_ hfit
    · rw [hpayload]
      exact hopen.opens r payload
    · rw [hsize, L.length_boxSeal]
  · rw [if_neg hsealed] at hbody
    subst hbody
    cases hbox : L.boxSealOpen body B.recipientPublic B.recipientSecret with
    | none =>
        refine iff_of_true ?_ fun h => ?_
        · rw [plaintext_of_not_opened fun _ => by rw [hpayload, hbox], hpayload]
        · have hsome := h.2.2.2
          rw [hbox] at hsome
          exact Bool.false_ne_true hsome
    | some opened =>
        by_cases hboth : B.TriesToOpen m
        · have hshort := hopen.length_opened body opened hbox
          have hplain : (B.plaintext L m).1 = opened := by
            refine plaintext_of_opened hboth ?_ (by omega) hfit
            rw [hpayload, hbox]
          refine iff_of_false ?_ (not_not_intro ⟨hsealed, (htries.mp hboth).1, (htries.mp hboth).2,
            by rw [hbox]; rfl⟩)
          rw [hplain]
          intro heq
          have hseal : cryptoBoxSealBytes = 48 := rfl
          rw [heq] at hshort
          omega
        · refine iff_of_true ?_ fun h => hboth (htries.mpr ⟨h.2.1, h.2.2.1⟩)
          rw [plaintext_of_not_opened fun h => absurd h hboth, hpayload]

/-- What is delivered of a message on a data port. -/
theorem delivered_iff (hsession : InSession A B eA eB)
    (hopen : OpensSealed L B.recipientPublic B.recipientSecret) {body : List UInt8}
    (hlen : headerLen + body.length ≤ bufSize)
    (hbody : if CopySealed A x eB then ∃ r, body = L.boxSeal r payload B.recipientPublic
      else body = payload) (hport : maxSpecialPort < p) {m : MsgBuf} (hcid : m.cid = A.callerid)
    (hdest : m.destport = p) (hpayload : m.payload = body) (hsize : m.size = body.length) :
    ((processMsg L B m).call = none ∧ (processMsg L B m).localSends = B.localDatagrams payload p) ↔
      B.ReachesAll p ∧ ¬ OpenedByMistake L A B payload x eB := by
  subst hdest
  have hother : m.cid ≠ B.client.callerid := by
    rw [hcid]
    exact hsession.distinct
  rw [call_processMsg, calledFor_of_data _ hport, localSends_processMsg hother hport,
    localSends_eq_iff, plaintext_eq_iff hsession hopen hlen hbody hcid hpayload hsize, eq_self,
    true_and]

/-- The sorter counts a message on a data port and records its number. -/
theorem ordered_of_data {m : MsgBuf} (hvalid : m.valid = true) (hmsg : m.msg = headerLen)
    (hport : maxSpecialPort < m.destport) {s : MessageSorter} (hbuf2 : s.buf2.valid = false) :
    (feed s m).2.seqIn = s.seqIn.record m ∧
      ((feed s m).2.getStat m.cid).received = (s.getStat m.cid).received + 1 := by
  have hreceived := received_sorterStep ⟨m, hvalid, hport, hmsg⟩ hbuf2 m.cid
  rw [if_pos rfl] at hreceived
  exact ⟨seqIn_sorterStep s ⟨m, hvalid, hport, hmsg⟩ hbuf2, hreceived⟩

/-- It leaves no trace of a message on a reserved port. -/
theorem not_ordered_of_special {m : MsgBuf} (hvalid : m.valid = true)
    (hspecial : m.destport ≤ maxSpecialPort) (sender1 sender2 : Endpoint) :
    (feed (MessageSorter.fresh sender1 sender2) m).2.seqIn
      ≠ (MessageSorter.fresh sender1 sender2).seqIn.record m := by
  rw [feed_eq_special hvalid hspecial rfl]
  intro h
  have hrecorded := (SenderMap.record_apply (fun _ _ => none) m m.stream).trans (if_pos rfl)
  have hnone : (MessageSorter.fresh sender1 sender2).flush.seqIn m.cid m.destport = none := rfl
  rw [show (MessageSorter.fresh sender1 sender2).flush.seqIn = _ from h] at hnone
  exact absurd (hnone.symm.trans hrecorded) (Option.some_ne_none _).symm

/-- A message that arrives twice in a row is delivered at once. -/
theorem delivered_again {secret : Secret} {y : Traced} {rx : Received}
    (hbuf2 : y.loop.sorter.buf2.valid = false) (hacc : Accepted secret y.loop rx)
    (hlast : deltaseqConst y.loop.sorter.seqIn (incoming secret y.loop rx) = 0) :
    ((incoming secret y.loop rx, false), (incoming secret y.loop rx).invalidate)
      ∈ (received secret y rx).zip (turn secret y.loop rx).1 := by
  have hheld : ¬ HeldBack secret y.loop rx := by
    rintro ⟨-, -, hgap⟩
    have hone := hgap.1
    rw [hlast] at hone
    exact absurd hone (by decide)
  have hswap : ¬ y.loop.sorter.Swap (incoming secret y.loop rx) := by
    intro h
    have hfar := ((swap_iff _ _).mp h).1.1
    unfold MessageSorter.Far at hfar
    rw [hlast] at hfar
    rcases hfar with hback | ⟨-, hforth⟩
    · exact absurd hback (by decide)
    · exact absurd hforth (by decide)
  rcases delivered_cases secret rx hbuf2 with ⟨hnone, -⟩ | ⟨-, -, hlist⟩ | ⟨-, ⟨-, h⟩, -⟩
  · exact absurd ⟨hacc, hheld⟩ hnone
  · rw [hlist]
    exact List.mem_cons_self
  · exact absurd h hswap

section Copy

variable (hsession : InSession A B eA eB) {body : List UInt8}
  (hdata : x.datagram.data = (Thread.xrecsrv p).header A ++ body)
  (hlen : headerLen + body.length ≤ bufSize)

include hsession hdata hlen

/-- `B` accepts the copy, whatever is in its receive buffer. -/
theorem copy_accepted (earlier : MsgBuf) : (recvSecMsg B.client.remoteServer.secret earlier
    (some (x.datagram.data, Endpoint.cleared))).1 = true := by
  have hheader : (Thread.xrecsrv p).header A = header B.client.remoteServer.secret A.callerid p
      (A.remoteServer.nextSeq p) := by
    rw [← hsession.secret, ← hsession.callerid]
    rfl
  obtain ⟨raw, hreceived, -⟩ := recvSecMsg_packed B.client.remoteServer.secret A.callerid p
    (A.remoteServer.nextSeq p) body hlen earlier Endpoint.cleared
  rw [hdata, hheader, hreceived]

/-- What it receives of the copy. -/
theorem copy_fields {m : MsgBuf}
    (h : ReceivedFrom B.client.remoteServer.secret x.datagram.data m) :
    (m.cid = A.callerid ∧ m.destport = p ∧ m.seq = A.remoteServer.nextSeq p ∧
      m.payload = body ∧ m.size = body.length) ∧ m.valid = true ∧ m.msg = headerLen := by
  obtain ⟨earlier, addr, hreceived⟩ := h
  have haccepted := recvSecMsg_accepted (congrArg Prod.fst hreceived)
  rw [hreceived] at haccepted
  exact ⟨receivedFrom_sent (.xrecsrv p) hsession hlen ⟨earlier, addr, hdata ▸ hreceived⟩, haccepted⟩

/-- A payload on a reserved port is not counted. -/
theorem not_keptApart_of_special (hspecial : p ≤ maxSpecialPort) {t : ThreadState}
    {sender1 sender2 sender : Endpoint} :
    ¬ KeptApart L A B p payload x t sender1 sender2 sender := by
  intro h
  have hfrom : ReceivedFrom B.client.remoteServer.secret x.datagram.data
      (recvSecMsg B.client.remoteServer.secret (MsgBuf.init sender)
        (some (x.datagram.data, Endpoint.cleared))).2 :=
    ⟨_, _, Prod.ext (copy_accepted hsession hdata hlen _) rfl⟩
  obtain ⟨hm, hvalid, -⟩ := copy_fields hsession hdata hlen hfrom
  rw [← hm.2.1] at hspecial
  refine not_ordered_of_special hvalid hspecial sender1 sender2 ?_
  exact (h.ordered _ hfrom (MessageSorter.fresh sender1 sender2) rfl).1

/-- It is delivered at once. -/
theorem special_copy_delivered (hspecial : p ≤ maxSpecialPort) {y : SendsrvLoop}
    (hbuf2 : y.sorter.buf2.valid = false) :
    ∃ m ∈ (turn B.client.remoteServer.secret y (some (x.datagram.data, Endpoint.cleared))).1,
      m.cid = A.callerid ∧ m.destport = p ∧ m.payload = body := by
  have hacc := copy_accepted hsession hdata hlen y.msg
  obtain ⟨⟨hcid, hdest, -, hpayload, -⟩, -⟩ := copy_fields hsession hdata hlen
    ⟨y.msg, Endpoint.cleared, Prod.ext hacc rfl⟩
  have hport : (incoming B.client.remoteServer.secret y
      (some (x.datagram.data, Endpoint.cleared))).destport ≤ maxSpecialPort := hdest ▸ hspecial
  refine ⟨(incoming B.client.remoteServer.secret y
    (some (x.datagram.data, Endpoint.cleared))).invalidate, ?_, hcid, hdest, hpayload⟩
  rw [(turn_accepted hacc).1, feed_eq_special (incoming_accepted hacc).1 hport hbuf2]
  exact List.mem_cons_self

/-- If a payload on a data port is data throughout, so is the second of two copies that arrive in a
row: it is delivered at once, and what becomes of it shows where the payload goes. -/
theorem reachesAll_of_keptApart (hopen : OpensSealed L B.recipientPublic B.recipientSecret)
    (hbody : if CopySealed A x eB then ∃ r, body = L.boxSeal r payload B.recipientPublic
      else body = payload) (hport : maxSpecialPort < p) {t : ThreadState}
    {sender1 sender2 sender : Endpoint}
    (h : KeptApart L A B p payload x t sender1 sender2 sender) :
    B.ReachesAll p ∧ ¬ OpenedByMistake L A B payload x eB := by
  let secret := B.client.remoteServer.secret
  let rx : Received := some (x.datagram.data, Endpoint.cleared)
  let y := Traced.fresh sender1 sender2 sender
  let y' := tracedStep secret y rx
  have hreceivable := copy_accepted hsession hdata hlen
  have hfrom : ∀ earlier, ReceivedFrom secret x.datagram.data (recvSecMsg secret earlier rx).2 :=
    fun earlier => ⟨earlier, Endpoint.cleared, Prod.ext (hreceivable earlier) rfl⟩
  obtain ⟨hm, hvalid, hmsg⟩ := copy_fields hsession hdata hlen (hfrom y.loop.msg)
  obtain ⟨hm', -, -⟩ := copy_fields hsession hdata hlen (hfrom y'.loop.msg)
  have hfirst : y'.loop.sorter.seqIn
      = y.loop.sorter.seqIn.record (incoming secret y.loop rx) := by
    have hsorter : y'.loop.sorter = (feed y.loop.sorter (incoming secret y.loop rx)).2 :=
      (turn_accepted (hreceivable y.loop.msg)).2
    rw [hsorter]
    exact (ordered_of_data hvalid hmsg (hm.2.1 ▸ hport) rfl).1
  have hstream : (incoming secret y'.loop rx).stream = (incoming secret y.loop rx).stream :=
    Prod.ext (hm'.1.trans hm.1.symm) (hm'.2.1.trans hm.2.1.symm)
  have hlast : deltaseqConst y'.loop.sorter.seqIn (incoming secret y'.loop rx) = 0 := by
    have hseq : (incoming secret y'.loop rx).seq = (incoming secret y.loop rx).seq :=
      hm'.2.2.1.trans hm.2.2.1.symm
    rw [deltaseqConst_eq, hfirst, hstream, SenderMap.last_record_self, hseq]
    exact Int16.sub_self _
  have hagain := delivered_again (buf2_invalid_loopStep rfl) (hreceivable y'.loop.msg) hlast
  have hhandled := (h.handled [rx, rx]).2.1 _ hagain (hfrom y'.loop.msg)
  exact (delivered_iff hsession hopen hlen hbody hport
    (m := (incoming secret y'.loop rx).invalidate) hm'.1 hm'.2.1 hm'.2.2.2.1
      hm'.2.2.2.2).mp hhandled

/-- Whatever the receiver delivers of the copies of a payload on a data port, it goes to all local
ports and nothing is called with it. -/
theorem handled_of_reachesAll (hopen : OpensSealed L B.recipientPublic B.recipientSecret)
    (hbody : if CopySealed A x eB then ∃ r, body = L.boxSeal r payload B.recipientPublic
      else body = payload) (hport : maxSpecialPort < p)
    (hplain : B.ReachesAll p ∧ ¬ OpenedByMistake L A B payload x eB)
    (sender1 sender2 sender : Endpoint) (rxs : List Received) :
    AllSteps (tracedStep B.client.remoteServer.secret)
      (fun y rx => ∀ q ∈ (received B.client.remoteServer.secret y rx).zip
          (turn B.client.remoteServer.secret y.loop rx).1,
        ReceivedFrom B.client.remoteServer.secret x.datagram.data q.1.1 →
          (processMsg L B q.2).call = none ∧
            (processMsg L B q.2).localSends = B.localDatagrams payload p)
      (Traced.fresh sender1 sender2 sender) rxs := by
  let secret := B.client.remoteServer.secret
  refine allSteps_of_invariant (I := Copied sender1 sender2)
    (fun _ rx h => copied_step secret rx sender1 sender2 h) ?_
    (copied_fresh sender1 sender2 sender) rxs
  intro y rx hcopied q hq hreceived
  obtain ⟨⟨hcid, hdest, -, hpayload, hsize⟩, -⟩ := copy_fields hsession hdata hlen hreceived
  obtain ⟨hcontent, hsize'⟩ := delivered_content secret rx hcopied q hq
  -- buffering has kept what the message was received with
  exact (delivered_iff hsession hopen hlen hbody hport
    ((congrArg (fun c : Content => c.1) hcontent).trans hcid)
    ((congrArg (fun c : Content => c.2.1) hcontent).trans hdest)
    ((congrArg (fun c : Content => c.2.2.2) hcontent).trans hpayload)
    (hsize'.trans hsize)).mpr hplain

end Copy

/-- A payload of a user port is data throughout exactly if the number of the port is above the
reserved ones, the receiver leaves none of its local ports out, and a payload in the clear is not
one that it can open. -/
theorem control_data_apart_iff (L : Sodium) (A : OvboxClient) (B : Receiver) (eA eB : EpDesc)
    (p : Port) (payload : List UInt8) (x : Sent) (t : ThreadState)
    (sender1 sender2 sender : Endpoint) (hsession : InSession A B eA eB)
    (hopen : OpensSealed L B.recipientPublic B.recipientSecret) (hpos : 1 ≤ payload.length)
    (hfit : headerLen + payload.length + (if CopySealed A x eB then cryptoBoxSealBytes else 0)
      ≤ bufSize)
    (hx : x ∈ (xrecsrv L A p t payload).1.sends)
    (hcopy : x.recipient = .peer B.client.callerid.toNat ∨ x.recipient = .server) :
    KeptApart L A B p payload x t sender1 sender2 sender ↔
      maxSpecialPort < p ∧ B.ReachesAll p ∧ ¬ OpenedByMistake L A B payload x eB := by
  obtain ⟨body, hdata, hlen, hbody⟩ := sent_copy hsession t hpos hfit hx hcopy
  constructor
  · intro h
    have hport : maxSpecialPort < p :=
      UInt16.not_le.mp fun hspecial => not_keptApart_of_special hsession hdata hlen hspecial h
    exact ⟨hport, reachesAll_of_keptApart hsession hdata hlen hopen hbody hport h⟩
  · rintro ⟨hport, hplain⟩
    have hcounted : maxSpecialPort ≤ p := UInt16.le_of_lt hport
    have hsocket : (xrecsrv L A p t payload).2.2
        = packStep A.remoteServer ⟨bufSize, t.msg, p, payload⟩ := by
      unfold xrecsrv
      rw [if_pos (Nat.lt_of_succ_le hpos)]
      rfl
    refine ⟨⟨?_, ?_⟩, ?_, ?_⟩
    · rw [hsocket, at_packStep, if_pos ⟨rfl, hcounted⟩]
    · intro m hm
      rw [(copy_fields hsession hdata hlen hm).1.2.2.1, OvboxUdpSocket.nextSeq, if_pos hcounted]
    · intro m hm s hbuf2
      obtain ⟨hm, hvalid, hmsg⟩ := copy_fields hsession hdata hlen hm
      exact ordered_of_data hvalid hmsg (hm.2.1 ▸ hport) hbuf2
    · exact handled_of_reachesAll hsession hdata hlen hopen hbody hport hplain sender1 sender2
        sender

/-- A payload on a reserved port is not forwarded: what is called with it is what the number
stands for. -/
theorem reserved_port_called (L : Sodium) (A : OvboxClient) (B : Receiver) (eA eB : EpDesc)
    (p : Port) (payload : List UInt8) (x : Sent) (t : ThreadState)
    (sender1 sender2 sender : Endpoint) (hsession : InSession A B eA eB)
    (hpos : 1 ≤ payload.length)
    (hfit : headerLen + payload.length + (if CopySealed A x eB then cryptoBoxSealBytes else 0)
      ≤ bufSize)
    (hx : x ∈ (xrecsrv L A p t payload).1.sends)
    (hcopy : x.recipient = .peer B.client.callerid.toNat ∨ x.recipient = .server)
    (hspecial : p ≤ maxSpecialPort) (rxs : List Received) :
    AllSteps (tracedStep B.client.remoteServer.secret)
      (fun y rx => ∀ q ∈ (received B.client.remoteServer.secret y rx).zip
          (turn B.client.remoteServer.secret y.loop rx).1,
        ReceivedFrom B.client.remoteServer.secret x.datagram.data q.1.1 →
          (processMsg L B q.2).localSends = [] ∧
            (processMsg L B q.2).call = controlCall q.2.invalidate)
      (Traced.fresh sender1 sender2 sender) rxs := by
  obtain ⟨body, hdata, hlen, -⟩ := sent_copy hsession t hpos hfit hx hcopy
  refine allSteps_of_invariant (I := Copied sender1 sender2)
    (fun _ rx h => copied_step B.client.remoteServer.secret rx sender1 sender2 h) ?_
    (copied_fresh sender1 sender2 sender) rxs
  intro y rx hcopied q hq hreceived
  rw [hdata] at hreceived
  obtain ⟨hcid, hdest, -⟩ := receivedFrom_sent (.xrecsrv p) hsession hlen hreceived
  obtain ⟨hcontent, -⟩ := delivered_content B.client.remoteServer.secret rx hcopied q hq
  have hcid' : q.2.invalidate.cid = A.callerid :=
    (congrArg (fun c : Content => c.1) hcontent).trans hcid
  have hdest' : q.2.invalidate.destport ≤ maxSpecialPort := by
    rw [show q.2.invalidate.destport = p from
      (congrArg (fun c : Content => c.2.1) hcontent).trans hdest]
    exact hspecial
  refine ⟨(sends_processMsg_of_not_data (Or.inr hdest')).1, ?_⟩
  rw [call_processMsg]
  unfold calledFor
  rw [hcid', if_neg fun h => hsession.distinct h.1, if_neg (UInt16.not_lt.mpr hdest')]

end Session

/-- A device whose user port has the number of the first data port. -/
theorem control_data_apart_first :
    ∃ x ∈ (xrecsrv Sodium.tagged sealingSender 13 ThreadState.start [1]).1.sends,
      KeptApart Sodium.tagged sealingSender openingReceiver 13 [1] x ThreadState.start
        Endpoint.cleared Endpoint.cleared Endpoint.cleared := by
  have hspec := forward_spec Sodium.tagged sealingSender ThreadState.start [1] (.xrecsrv 13)
    (by decide)
  obtain ⟨x, hx, hpeer⟩ := hspec.exists_direct (e := (EpDesc.sealingPeer, 1))
    (List.mem_zipIdx_iff_getElem?.mpr rfl) rfl
  refine ⟨x, hx, (control_data_apart_iff Sodium.tagged sealingSender openingReceiver
    EpDesc.sealingPeer EpDesc.sealingPeer 13 [1] x ThreadState.start _ _ _
    ⟨rfl, rfl, by decide, by decide, rfl, rfl, rfl, rfl, fun _ => rfl⟩ (opensSealed_tagged _ _)
    (by decide) ?_ hx (Or.inl hpeer)).mpr ⟨by decide, ?_, fun h => absurd ?_ h.1⟩⟩
  · split_ifs <;> decide
  · intro offset hoffset
    obtain rfl : offset = 10 := List.mem_singleton.mp hoffset
    exact ⟨by decide +kernel, by decide⟩
  · exact ⟨by rw [hpeer]; exact fun h => (by cases h), rfl⟩

/-- The first of two devices that do not take part in encryption. -/
def plainSender : OvboxClient := clientWithPeer bPeer2peer 4464 (EpDesc.peerMode 0) false

/-- The second one. -/
def plainReceiver : Receiver :=
  { openingReceiver with
    client := { plainSender with
      callerid := 1
      endpoints := ⟨EpDesc.peerMode 0 :: List.replicate 31 EpDesc.unused, rfl⟩ } }

theorem plain_inSession :
    InSession plainSender plainReceiver (EpDesc.peerMode 0) (EpDesc.peerMode 0) :=
  ⟨rfl, rfl, by decide, by decide, rfl, rfl, rfl, rfl, fun _ => rfl⟩

/-- The copy of a payload for the second device. -/
theorem plain_copy (p : Port) {payload : List UInt8} (hpos : 1 ≤ payload.length)
    (hfit : headerLen + payload.length ≤ bufSize) :
    ∃ x ∈ (xrecsrv Sodium.tagged plainSender p ThreadState.start payload).1.sends,
      x.datagram.data = (Thread.xrecsrv p).header plainSender ++ payload := by
  have hspec := forward_spec Sodium.tagged plainSender ThreadState.start payload (.xrecsrv p) hpos
  obtain ⟨x, hx, hpeer⟩ := hspec.exists_direct (e := (EpDesc.peerMode 0, 1))
    (List.mem_zipIdx_iff_getElem?.mpr rfl) rfl
  refine ⟨x, hx, ?_⟩
  have hentry : plainSender.endpoints.1[1]? = some (EpDesc.peerMode 0) := rfl
  have hout := hspec.data_peer hx hpeer hentry
  rw [show plainSender.encryptsTo (EpDesc.peerMode 0) = false by decide] at hout
  exact outgoing_plain hfit hout

/-- A payload of 32 bytes on the user port 11, which is admitted: the peer does not count it,
and takes it for the public key of the sender. -/
theorem user_payload_sets_key :
    readXrecport (.int 11) = some 11 ∧
    ∃ x ∈ (xrecsrv Sodium.tagged plainSender 11 ThreadState.start
        (List.replicate cryptoBoxPublicKeyBytes 1)).1.sends,
      (¬ KeptApart Sodium.tagged plainSender plainReceiver 11
        (List.replicate cryptoBoxPublicKeyBytes 1) x ThreadState.start
        Endpoint.cleared Endpoint.cleared Endpoint.cleared) ∧
      ∃ m ∈ (turn plainReceiver.client.remoteServer.secret
          (SendsrvLoop.fresh Endpoint.cleared Endpoint.cleared Endpoint.cleared)
          (some (x.datagram.data, Endpoint.cleared))).1,
        (processMsg Sodium.tagged plainReceiver m).call
          = some (.cidSetPubkey 0 (List.replicate cryptoBoxPublicKeyBytes 1)) := by
  refine ⟨by decide, ?_⟩
  have hlen : (List.replicate cryptoBoxPublicKeyBytes (1 : UInt8)).length = 32 :=
    List.length_replicate
  generalize List.replicate cryptoBoxPublicKeyBytes (1 : UInt8) = payload at hlen ⊢
  have hfit : headerLen + payload.length ≤ bufSize := by
    rw [hlen]
    decide
  obtain ⟨x, hx, hdata⟩ := plain_copy 11 (by omega) hfit
  refine ⟨x, hx, not_keptApart_of_special plain_inSession hdata hfit (by decide), ?_⟩
  obtain ⟨m, hm, hcid, hdest, hpayload⟩ := special_copy_delivered plain_inSession hdata hfit
    (by decide) (y := SendsrvLoop.fresh Endpoint.cleared Endpoint.cleared Endpoint.cleared) rfl
  refine ⟨m, hm, ?_⟩
  rw [call_processMsg]
  have hport : m.invalidate.destport = portPubkey := hdest
  have hspecial : ¬ maxSpecialPort < portPubkey := by decide
  have hcall : controlCall m.invalidate = some (.cidSetPubkey m.cid m.payload) := by
    unfold controlCall
    rw [hport]
    exact if_neg (by decide)
  unfold calledFor
  rw [hport, if_neg fun h => h.2.2 rfl, if_neg hspecial, hcall, hcid, hpayload]
  rfl

end Libov
