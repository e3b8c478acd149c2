/-
# Reports across session restarts

The values that were reported last stay in the renderer when a session ends and its
client is deleted.  `get_client_stats` drops them when it finds no client, so what
happens at a restart depends on whether it is called in between.

* `CounterKind`: the counters of a device, of a client and of the last report alike;
* `raised_receive`, `raised_pingservice` : what a turn adds to them;
* `reports_right_iff` : all reports are right exactly when no first report of a client
  finds counts that an earlier one has left.
-/
import Libov.ClientStats
import Libov.Counters
import Libov.ForwardingRoutes

open Runs Counters

namespace Libov

/-! ## The counters of a device -/

/-- The counters that reports are about. -/
inductive CounterKind where
  | received
  | seqerrIn
  | seqerrOut
  | pings (cls : PingClass)
  | pongs (cls : PingClass)

/-- The counter of a client. -/
def OvboxCounters.counter (c : OvboxCounters) (dev : StageDeviceId) : CounterKind → UInt64
  | .received => (c.loop.sorter.getStat dev).received
  | .seqerrIn => (c.loop.sorter.getStat dev).seqerrIn
  | .seqerrOut => (c.loop.sorter.getStat dev).seqerrOut
  | .pings cls => (c.collectors cls dev).sent
  | .pongs cls => (c.collectors cls dev).received

/-- The value at the last report, as it is kept for the next one. -/
def ClientStats.snapshot (st : ClientStats) : CounterKind → UInt64
  | .received => st.statePackages.received
  | .seqerrIn => st.statePackages.seqerrIn
  | .seqerrOut => st.statePackages.seqerrOut
  | .pings cls => (st.ping cls).stateSent
  | .pongs cls => (st.ping cls).stateReceived

/-- The counts of a ping report do not depend on the samples. -/
theorem counts_updatePingStat (c : PingStatCollector) (ps : PingStat) :
    (c.updatePingStat ps).received = c.received - ps.stateReceived ∧
      (c.updatePingStat ps).lost
        = deficit c.sent ps.stateSent (c.received - ps.stateReceived) ∧
      (c.updatePingStat ps).stateSent = c.sent ∧
      (c.updatePingStat ps).stateReceived = c.received := by
  unfold PingStatCollector.updatePingStat
  by_cases h : c.filled = 0
  · simp only [if_pos h]
    exact ⟨trivial, rfl, trivial, trivial⟩
  · simp only [if_neg h]
    exact ⟨trivial, rfl, trivial, trivial⟩

/-- A report keeps the values of the counters. -/
theorem snapshot_updateClientStats (c : OvboxCounters) (dev : StageDeviceId) (st : ClientStats) :
    (c.updateClientStats dev st).snapshot = c.counter dev := by
  funext k
  cases k with
  | received => rfl
  | seqerrIn => rfl
  | seqerrOut => rfl
  | pings cls => exact (counts_updatePingStat (c.collectors cls dev) (st.ping cls)).2.2.1
  | pongs cls => exact (counts_updatePingStat (c.collectors cls dev) (st.ping cls)).2.2.2

/-! ## What a turn adds -/

section Raised

variable (s : MessageSorter) (m : MsgBuf) (dev : StageDeviceId)

/-- Adding zero or one raises a counter by one at most. -/
theorem raisedBy_one_of {a d : UInt64} (h : d = 0 ∨ d = 1) : RaisedBy 1 a (a + d) := by
  rcases h with rfl | rfl
  · rw [UInt64.add_zero]
    exact RaisedBy.refl 1 a
  · exact RaisedBy.one a

/-- A difference counts one error at most. -/
theorem backward_le_one (d : Sequence) : backward d = 0 ∨ backward d = 1 := by
  unfold backward
  split_ifs
  · exact Or.inr rfl
  · exact Or.inl rfl

/-- A delivery is one error at most. -/
theorem outErr_le_one (seqOut : SenderMap) : seqOut.outErr m dev = 0 ∨ seqOut.outErr m dev = 1 := by
  unfold SenderMap.outErr
  split_ifs
  · exact backward_le_one _
  · exact Or.inl rfl

/-- The message counters of a device. -/
structure StatRaised (old new : MessageStat) : Prop where
  received : RaisedBy 2 old.received new.received
  seqerrIn : RaisedBy 2 old.seqerrIn new.seqerrIn
  seqerrOut : RaisedBy 2 old.seqerrOut new.seqerrOut

/-- An arrival counts one message received. -/
theorem raisedBy_received_arrive :
    RaisedBy 2 (s.getStat dev).received ((s.arrive m).getStat dev).received := by
  rw [s.received_arrive m dev]
  refine (raisedBy_one_of ?_).mono one_le_two
  split_ifs
  · exact Or.inr rfl
  · exact Or.inl rfl

/-- A message that is not held back counts one error on the way in at most. -/
theorem raisedBy_seqerrIn_accept :
    RaisedBy 2 (s.getStat dev).seqerrIn ((s.accept m).getStat dev).seqerrIn := by
  rw [s.seqerrIn_accept m dev]
  refine (raisedBy_one_of ?_).mono one_le_two
  split_ifs
  · exact backward_le_one _
  · exact Or.inl rfl

/-- Whether it is held back does not matter to the count of received messages. -/
theorem received_accept :
    ((s.accept m).getStat dev).received = ((s.arrive m).getStat dev).received := by
  dsimp only [MessageSorter.accept, MessageSorter.countSeqerrIn]
  exact (s.arrive m).getStat_count_keep m.cid dev MessageStat.received fun _ => rfl

/-- A release raises the errors of the delivery by one at most. -/
theorem statRaised_flush : StatRaised (s.getStat dev) (s.flush.getStat dev) := by
  refine ⟨?_, ?_, ?_⟩
  · rw [s.getStat_flush_keep dev MessageStat.received fun _ _ => rfl]
    exact RaisedBy.refl 2 _
  · rw [s.getStat_flush_keep dev MessageStat.seqerrIn fun _ _ => rfl]
    exact RaisedBy.refl 2 _
  · rw [s.seqerrOut_flush dev]
    refine (raisedBy_one_of ?_).mono one_le_two
    split_ifs
    · exact outErr_le_one _ _ _
    · exact Or.inl rfl

/-- A message that is held back raises the counters of an arrival. -/
theorem statRaised_hold : StatRaised (s.getStat dev) ((s.hold m).getStat dev) := by
  refine ⟨raisedBy_received_arrive s m dev, ?_, ?_⟩
  · rw [s.seqerrIn_hold m dev]
    exact RaisedBy.refl 2 _
  · rw [s.seqerrOut_hold m dev]
    exact RaisedBy.refl 2 _

/-- A swap delivers two messages, and may count an error for each. -/
theorem statRaised_swap : StatRaised (s.getStat dev) ((s.swap m).getStat dev) := by
  refine ⟨?_, ?_, ?_⟩
  · rw [s.getStat_swap_keep m dev MessageStat.received fun _ _ => rfl, received_accept]
    exact raisedBy_received_arrive s m dev
  · rw [s.getStat_swap_keep m dev MessageStat.seqerrIn fun _ _ => rfl]
    exact raisedBy_seqerrIn_accept s m dev
  · rw [s.seqerrOut_swap m dev]
    exact (raisedBy_one_of (outErr_le_one _ _ _)).trans (raisedBy_one_of (outErr_le_one _ _ _))

/-- So does a message that is passed on with a release behind it. -/
theorem statRaised_pass : StatRaised (s.getStat dev) ((s.pass m).getStat dev) := by
  refine ⟨?_, ?_, ?_⟩
  · rw [s.getStat_pass_keep m dev MessageStat.received fun _ _ => rfl, received_accept]
    exact raisedBy_received_arrive s m dev
  · rw [s.getStat_pass_keep m dev MessageStat.seqerrIn fun _ _ => rfl]
    exact raisedBy_seqerrIn_accept s m dev
  · rw [s.seqerrOut_pass m dev]
    refine (raisedBy_one_of (outErr_le_one _ _ _)).trans (raisedBy_one_of ?_)
    split_ifs
    · exact outErr_le_one _ _ _
    · exact Or.inl rfl

end Raised

/-- A turn of the receive loop raises the message counters by at most two, and hands
at most two messages on. -/
theorem statRaised_turn (secret : Secret) {x : SendsrvLoop} (rx : Received)
    (hbuf2 : x.sorter.buf2.valid = false) (dev : StageDeviceId) :
    StatRaised (x.sorter.getStat dev) ((loopStep secret x rx).sorter.getStat dev) ∧
      (turn secret x rx).1.length ≤ 2 := by
  have hreleased : x.sorter.released.length ≤ 1 := by
    unfold MessageSorter.released
    split_ifs
    · exact le_rfl
    · exact Nat.zero_le 1
  rcases turn_cases secret rx hbuf2 with ⟨-, hlist, hs⟩ | ⟨-, -, hlist, hs⟩ |
    ⟨-, hlist, hs⟩ | ⟨-, -, -, hlist, hs⟩ | ⟨-, -, -, hlist, hs⟩
  · rw [hs, hlist]
    exact ⟨⟨RaisedBy.refl 2 _, RaisedBy.refl 2 _, RaisedBy.refl 2 _⟩, Nat.zero_le 2⟩
  · rw [hs, hlist]
    exact ⟨statRaised_flush _ dev, Nat.succ_le_succ hreleased⟩
  · rw [hs, hlist]
    exact ⟨statRaised_hold _ _ dev, Nat.zero_le 2⟩
  · rw [hs, hlist]
    exact ⟨statRaised_swap _ _ dev, le_rfl⟩
  · rw [hs, hlist]
    exact ⟨statRaised_pass _ _ dev, Nat.succ_le_succ hreleased⟩

/-- A pong is counted once. -/
theorem raised_countPong (tms : ℚ) (c : OvboxCounters) (m : MsgBuf) (dev : StageDeviceId)
    (k : CounterKind) : RaisedBy 1 (c.counter dev k) ((c.countPong tms m).counter dev k) := by
  unfold OvboxCounters.countPong
  by_cases hpong : calledFor c.callerid m = some .processPongMsg ∧ 0 < tms
  · rw [if_pos hpong]
    cases OvboxCounters.pongClass m.destport with
    | none => exact RaisedBy.refl 1 _
    | some cls =>
        cases k with
        | received => exact RaisedBy.refl 1 _
        | seqerrIn => exact RaisedBy.refl 1 _
        | seqerrOut => exact RaisedBy.refl 1 _
        | pings cls' =>
            show RaisedBy 1 _ ((c.onCollector cls m.cid.toNat _).collectors cls' dev).sent
            rw [OvboxCounters.collectors_onCollector]
            split_ifs
            · exact RaisedBy.refl 1 _
            · exact RaisedBy.refl 1 _
        | pongs cls' =>
            show RaisedBy 1 _ ((c.onCollector cls m.cid.toNat _).collectors cls' dev).received
            rw [OvboxCounters.collectors_onCollector]
            split_ifs
            · exact RaisedBy.one _
            · exact RaisedBy.refl 1 _
  · rw [if_neg hpong]
    exact RaisedBy.refl 1 _

/-- Pongs raise a counter by one each. -/
theorem raised_foldl_countPong (tms : ℚ) (msgs : List MsgBuf) (c : OvboxCounters)
    (dev : StageDeviceId) (k : CounterKind) :
    RaisedBy msgs.length (c.counter dev k)
      ((msgs.foldl (OvboxCounters.countPong tms) c).counter dev k) := by
  induction msgs generalizing c with
  | nil => exact RaisedBy.refl 0 _
  | cons m msgs ih =>
      rw [List.foldl_cons, List.length_cons, Nat.add_comm]
      exact (raised_countPong tms c m dev k).trans (ih (c.countPong tms m))

/-- A turn of `sendsrv` raises every counter by at most two. -/
theorem raised_receive (c : OvboxCounters) (rx : Received) (tms : ℚ)
    (hbuf2 : c.loop.sorter.buf2.valid = false) (dev : StageDeviceId) (k : CounterKind) :
    RaisedBy 2 (c.counter dev k) ((c.receive rx tms).counter dev k) := by
  obtain ⟨hstat, hlen⟩ := statRaised_turn c.secret rx hbuf2 dev
  have hcount := (raised_foldl_countPong tms (turn c.secret c.loop rx).1 c dev k).mono hlen
  cases k with
  | received => exact hstat.received
  | seqerrIn => exact hstat.seqerrIn
  | seqerrOut => exact hstat.seqerrOut
  | pings cls => exact hcount
  | pongs cls => exact hcount

/-- A peer is pinged at most once in each class. -/
theorem collectors_pingPeer (t : OvboxClient) (ocid : ℕ) (ep : EpDesc) (c : OvboxCounters)
    (cls : PingClass) (dev : StageDeviceId) :
    (OvboxCounters.pingPeer t ocid ep c).collectors cls dev = c.collectors cls dev ∨
      (dev.toNat = ocid ∧ (OvboxCounters.pingPeer t ocid ep c).collectors cls dev
        = { c.collectors cls dev with sent := (c.collectors cls dev).sent + 1 }) := by
  unfold OvboxCounters.pingPeer
  by_cases hactive : ep.timeout ≠ 0 ∧ ocid ≠ t.callerid.toNat
  · rw [if_pos hactive]
    by_cases hdev : dev.toNat = ocid
    · by_cases hnet : t.targetInSameNetwork ep = true
      · cases cls with
        | p2p => simp [hdev, hnet]
        | srv => simp [hdev, hnet]
        | loc => simp [hdev, hnet]
      · cases cls with
        | p2p => simp [hdev, hnet]
        | srv => simp [hdev, hnet]
        | loc => simp [hnet]
    · left
      by_cases hnet : t.targetInSameNetwork ep = true
      · simp [hdev, hnet]
      · simp [hdev, hnet]
  · exact Or.inl (by rw [if_neg hactive])

/-- The pings of a turn leave the loop of `sendsrv` alone. -/
theorem loop_pingPeers (t : OvboxClient) (ocid : ℕ) (eps : List EpDesc) (c : OvboxCounters) :
    (OvboxCounters.pingPeers t ocid eps c).loop = c.loop := by
  induction eps generalizing ocid c with
  | nil => rfl
  | cons ep eps ih =>
      rw [OvboxCounters.pingPeers, ih]
      unfold OvboxCounters.pingPeer
      split_ifs
      · rfl
      · rfl
      · rfl

/-- The loop over the table visits an index once. -/
theorem collectors_pingPeers (t : OvboxClient) (ocid : ℕ) (eps : List EpDesc) (c : OvboxCounters)
    (cls : PingClass) (dev : StageDeviceId) :
    (OvboxCounters.pingPeers t ocid eps c).collectors cls dev = c.collectors cls dev ∨
      (ocid ≤ dev.toNat ∧ (OvboxCounters.pingPeers t ocid eps c).collectors cls dev
        = { c.collectors cls dev with sent := (c.collectors cls dev).sent + 1 }) := by
  induction eps generalizing ocid c with
  | nil => exact Or.inl rfl
  | cons ep eps ih =>
      rw [OvboxCounters.pingPeers]
      rcases collectors_pingPeer t ocid ep c cls dev with hpeer | ⟨hdev, hpeer⟩
      · rcases ih (ocid + 1) (OvboxCounters.pingPeer t ocid ep c) with hrest | ⟨hlater, hrest⟩
        · exact Or.inl (hrest.trans hpeer)
        · rw [hpeer] at hrest
          exact Or.inr ⟨by omega, hrest⟩
      · rcases ih (ocid + 1) (OvboxCounters.pingPeer t ocid ep c) with hrest | ⟨hlater, -⟩
        · exact Or.inr ⟨hdev.ge, hrest.trans hpeer⟩
        · omega

/-- A turn of `pingservice` raises every counter by at most two. -/
theorem raised_pingservice (c : OvboxCounters) (t : OvboxClient) (dev : StageDeviceId)
    (k : CounterKind) : RaisedBy 2 (c.counter dev k) ((c.pingservice t).counter dev k) := by
  have hloop : (c.pingservice t).loop = c.loop := loop_pingPeers t 0 t.endpoints.1 c
  have hcollectors := fun cls => collectors_pingPeers t 0 t.endpoints.1 c cls dev
  cases k with
  | received =>
      show RaisedBy 2 _ ((c.pingservice t).loop.sorter.getStat dev).received
      rw [hloop]
      exact RaisedBy.refl 2 _
  | seqerrIn =>
      show RaisedBy 2 _ ((c.pingservice t).loop.sorter.getStat dev).seqerrIn
      rw [hloop]
      exact RaisedBy.refl 2 _
  | seqerrOut =>
      show RaisedBy 2 _ ((c.pingservice t).loop.sorter.getStat dev).seqerrOut
      rw [hloop]
      exact RaisedBy.refl 2 _
  | pings cls =>
      show RaisedBy 2 _ ((c.pingservice t).collectors cls dev).sent
      rcases hcollectors cls with hkept | ⟨-, hraised⟩
      · rw [show (c.pingservice t).collectors cls dev = _ from hkept]
        exact RaisedBy.refl 2 _
      · rw [show (c.pingservice t).collectors cls dev = _ from hraised]
        exact (RaisedBy.one _).mono one_le_two
  | pongs cls =>
      show RaisedBy 2 _ ((c.pingservice t).collectors cls dev).received
      rcases hcollectors cls with hkept | ⟨-, hraised⟩
      · rw [show (c.pingservice t).collectors cls dev = _ from hkept]
        exact RaisedBy.refl 2 _
      · rw [show (c.pingservice t).collectors cls dev = _ from hraised]
        exact RaisedBy.refl 2 _

/-! ## One report -/

/-- A report is right: every value is what has been counted since, and no more pings
are lost than were sent since. -/
structure ReportRight (st : ClientStatsJson) (now since : CounterKind → UInt64) : Prop where
  received : st.packages.received = now .received - since .received
  seqerr : st.packages.seqerr = now .seqerrIn - since .seqerrIn
  seqrecovered : st.packages.seqrecovered
    = (now .seqerrIn - since .seqerrIn) - (now .seqerrOut - since .seqerrOut)
  /-- the difference of the two is no wrap-around -/
  recovered_le : now .seqerrOut - since .seqerrOut ≤ now .seqerrIn - since .seqerrIn
  pongs : ∀ cls, (st.ping cls).received = now (.pongs cls) - since (.pongs cls)
  lost : ∀ cls, (st.ping cls).lost ≤ now (.pings cls) - since (.pings cls)
  /-- a difference of the loss counts that has wrapped around is reported as `0` -/
  packagesLost : st.packages.lost ≤ 2 ^ 30

/-- A snapshot that a new client may start from: nothing received, and no more pings
sent than the client has sent by now. -/
structure NoLeftover (st : ClientStats) (now : CounterKind → UInt64) : Prop where
  received : st.snapshot .received = 0
  seqerrIn : st.snapshot .seqerrIn = 0
  seqerrOut : st.snapshot .seqerrOut = 0
  pongs : ∀ cls, st.snapshot (.pongs cls) = 0
  pings : ∀ cls, st.snapshot (.pings cls) ≤ now (.pings cls)

section Report

variable {c : OvboxCounters} {dev : StageDeviceId} {st : ClientStats}

/-- A report is right exactly when the received things were last reported at `since`, no more
messages have gone out in disorder since than have come in, and not too many pings are
missing. -/
theorem reportRight_iff {since : CounterKind → UInt64} :
    ReportRight (c.updateClientStats dev st).toJson (c.counter dev) since ↔
      (st.snapshot .received = since .received ∧ st.snapshot .seqerrIn = since .seqerrIn ∧
        st.snapshot .seqerrOut = since .seqerrOut ∧
        ∀ cls, st.snapshot (.pongs cls) = since (.pongs cls)) ∧
      c.counter dev .seqerrOut - since .seqerrOut ≤ c.counter dev .seqerrIn - since .seqerrIn ∧
      ∀ cls, deficit (c.counter dev (.pings cls)) (st.snapshot (.pings cls))
          (c.counter dev (.pongs cls) - since (.pongs cls))
        ≤ c.counter dev (.pings cls) - since (.pings cls) := by
  have hcounts := fun cls => counts_updatePingStat (c.collectors cls dev) (st.ping cls)
  constructor
  · intro h
    have hpongs : ∀ cls, st.snapshot (.pongs cls) = since (.pongs cls) := fun cls =>
      sub_eq_sub_iff.mp ((hcounts cls).1.symm.trans (h.pongs cls))
    have hseqerrIn : st.snapshot .seqerrIn = since .seqerrIn := sub_eq_sub_iff.mp h.seqerr
    -- the disorder that went out is what is missing of the one that came in
    have hseqerrOut : st.snapshot .seqerrOut = since .seqerrOut := by
      have hrecovered : (c.counter dev .seqerrIn - st.snapshot .seqerrIn)
          - (c.counter dev .seqerrOut - st.snapshot .seqerrOut) = _ := h.seqrecovered
      rw [hseqerrIn] at hrecovered
      exact sub_eq_sub_iff.mp (sub_eq_sub_iff.mp hrecovered)
    refine ⟨⟨sub_eq_sub_iff.mp h.received, hseqerrIn, hseqerrOut, hpongs⟩, h.recovered_le,
      fun cls => ?_⟩
    rw [← hpongs cls]
    exact (hcounts cls).2.1.symm.trans_le (h.lost cls)
  · rintro ⟨⟨hreceived, hseqerrIn, hseqerrOut, hpongs⟩, hrecovered, hlost⟩
    refine ⟨sub_eq_sub_iff.mpr hreceived, sub_eq_sub_iff.mpr hseqerrIn, ?_, hrecovered,
      fun cls => ?_, fun cls => ?_, ?_⟩
    · show (c.counter dev .seqerrIn - st.snapshot .seqerrIn)
          - (c.counter dev .seqerrOut - st.snapshot .seqerrOut) = _
      rw [hseqerrIn, hseqerrOut]
    · exact (hcounts cls).1.trans (sub_eq_sub_iff.mpr (hpongs cls))
    · have hle := hlost cls
      rw [← hpongs cls] at hle
      exact (hcounts cls).2.1.trans_le hle
    · show (if _ then _ else _ : UInt64) ≤ _
      split_ifs with hwrapped
      · exact UInt64.zero_le
      · exact UInt64.not_lt.mp hwrapped

/-- A report that starts where the last one ended is right. -/
theorem reportRight_of_taken {since : CounterKind → UInt64} (h : st.snapshot = since)
    (hrecovered : c.counter dev .seqerrOut - since .seqerrOut
      ≤ c.counter dev .seqerrIn - since .seqerrIn) :
    ReportRight (c.updateClientStats dev st).toJson (c.counter dev) since := by
  rw [reportRight_iff, h]
  exact ⟨⟨rfl, rfl, rfl, fun _ => rfl⟩, hrecovered, fun cls => deficit_le _ _ _⟩

/-- So is a first report without leftovers. -/
theorem reportRight_of_noLeftover (h : NoLeftover st (c.counter dev))
    (hrecovered : c.counter dev .seqerrOut - 0 ≤ c.counter dev .seqerrIn - 0) :
    ReportRight (c.updateClientStats dev st).toJson (c.counter dev) fun _ => 0 := by
  rw [reportRight_iff]
  refine ⟨⟨h.received, h.seqerrIn, h.seqerrOut, h.pongs⟩, hrecovered, fun cls => ?_⟩
  rw [UInt64.sub_zero, UInt64.sub_zero]
  exact deficit_le_sent _ (h.pings cls)

/-- And only such a one, unless the counters come to their end. -/
theorem noLeftover_of_reportRight
    (hend : ∀ cls, (st.snapshot (.pings cls)).toNat + (c.counter dev (.pongs cls)).toNat < 2 ^ 64)
    (h : ReportRight (c.updateClientStats dev st).toJson (c.counter dev) fun _ => 0) :
    NoLeftover st (c.counter dev) := by
  obtain ⟨⟨hreceived, hseqerrIn, hseqerrOut, hpongs⟩, -, hlost⟩ := reportRight_iff.mp h
  refine ⟨hreceived, hseqerrIn, hseqerrOut, hpongs, fun cls => ?_⟩
  have hle := hlost cls
  rw [UInt64.sub_zero, UInt64.sub_zero] at hle
  exact (deficit_le_sent_iff (hend cls)).mp hle

end Report

/-- Every device on stage has its entry updated once. -/
theorem updateAll_apply (c : OvboxCounters) (devs : List (StageDeviceId × StageDevice))
    (hdevs : devs.Pairwise fun a b => a.1 < b.1) (stats : StageDeviceId → Option ClientStats)
    (dev : StageDeviceId) :
    updateAll c devs stats dev =
      if dev ∈ devs.map Prod.fst then
        some (c.updateClientStats dev ((stats dev).getD ClientStats.init))
      else stats dev := by
  induction devs generalizing stats with
  | nil => rfl
  | cons d devs ih =>
      obtain ⟨hfirst, hrest⟩ := List.pairwise_cons.mp hdevs
      rw [updateAll, ih hrest]
      by_cases hd : dev = d.1
      · subst hd
        -- the ids are sorted, so the entry is not updated again
        have hlater : d.1 ∉ devs.map Prod.fst := by
          intro hmem
          obtain ⟨e, he, heq⟩ := List.mem_map.mp hmem
          exact absurd (hfirst e he) (by rw [heq]; exact lt_irrefl _)
        rw [if_neg hlater, Function.update_self, List.map_cons, if_pos List.mem_cons_self]
      · rw [Function.update_of_ne hd, List.map_cons]
        simp only [List.mem_cons, hd, false_or]

/-- What is kept after a report on a client. -/
theorem clientStats_getClientStats (stage : StageMap) (own : StageDeviceId) {r : StatsRenderer}
    {c : OvboxCounters} (hclient : r.ovboxclient = some c) (dev : StageDeviceId) :
    (r.getClientStats stage own).2.clientStats dev =
      if dev ∈ stage.entries.map Prod.fst then
        some (c.updateClientStats dev ((r.clientStats dev).getD ClientStats.init))
      else r.clientStats dev := by
  rw [← updateAll_apply c stage.entries stage.sorted r.clientStats dev]
  unfold StatsRenderer.getClientStats
  rw [hclient]

/-- Without a client nothing is kept. -/
theorem clientStats_getClientStats_none (stage : StageMap) (own : StageDeviceId)
    {r : StatsRenderer} (hclient : r.ovboxclient = none) (dev : StageDeviceId) :
    (r.getClientStats stage own).2.clientStats dev = none := by
  unfold StatsRenderer.getClientStats
  rw [hclient]

/-! ## Runs -/

/-- The renderer, whether its current client has been reported on, and the counters of
that client at the last report, or when it was created. -/
structure TracedStats where
  renderer : StatsRenderer
  reported : Bool
  since : StageDeviceId → CounterKind → UInt64

/-- Before the first session. -/
def TracedStats.new : TracedStats := ⟨StatsRenderer.new, false, fun _ _ => 0⟩

section Run

variable (stage : StageMap) (own : StageDeviceId)

def statsStep (x : TracedStats) (op : StatsOp) : TracedStats :=
  let renderer := x.renderer.step stage own op
  match op with
  | .startSession (some _) => ⟨renderer, false, fun _ _ => 0⟩
  | .getClientStats => ⟨renderer, true, fun dev =>
      (x.renderer.ovboxclient.map fun c => c.counter dev).getD (x.since dev)⟩
  | _ => ⟨renderer, x.reported, x.since⟩

/-- If the step is a report on a client, the values of all devices in it are right. -/
def ReportsRight (x : TracedStats) (op : StatsOp) : Prop :=
  op = .getClientStats → ∀ c, x.renderer.ovboxclient = some c → ∀ dev st,
    (x.renderer.getClientStats stage own).1 dev = some st →
      ReportRight st (c.counter dev) (x.since dev)

/-- If the step is the first report on a client, an earlier one has left nothing for it
in the entries of other devices. -/
def NothingLeft (x : TracedStats) (op : StatsOp) : Prop :=
  op = .getClientStats → x.reported = false → ∀ c, x.renderer.ovboxclient = some c →
    ∀ dev, dev ≠ own → ∀ st, x.renderer.clientStats dev = some st → NoLeftover st (c.counter dev)

/-- If the step is a report on a client, no more messages of another device have gone out in
disorder since the last one than have come in. -/
def NotMoreDisorder (x : TracedStats) (op : StatsOp) : Prop :=
  op = .getClientStats → ∀ c, x.renderer.ovboxclient = some c →
    ∀ dev ∈ stage.entries.map Prod.fst, dev ≠ own →
      c.counter dev .seqerrOut - x.since dev .seqerrOut
        ≤ c.counter dev .seqerrIn - x.since dev .seqerrIn

/-- The counters of the client have grown since, so that a difference to what they were
is no wrap-around. -/
def CountersGrown (x : TracedStats) : Prop :=
  ∀ c, x.renderer.ovboxclient = some c → ∀ dev k, x.since dev k ≤ c.counter dev k

/-- What holds after `n` steps: the snapshots of a client that has been reported on are
those of its last report, and no counter is above `2 * n`. -/
structure StatsInv (n : ℕ) (x : TracedStats) : Prop where
  onStage : ∀ dev st, x.renderer.clientStats dev = some st → dev ∈ stage.entries.map Prod.fst
  unreported : x.reported = false → x.since = fun _ _ => 0
  taken : x.reported = true → ∀ c, x.renderer.ovboxclient = some c →
    ∀ dev ∈ stage.entries.map Prod.fst,
      ∃ st, x.renderer.clientStats dev = some st ∧ st.snapshot = x.since dev
  free2 : ∀ c, x.renderer.ovboxclient = some c → c.loop.sorter.buf2.valid = false
  counted : ∀ c, x.renderer.ovboxclient = some c → ∀ dev k, (c.counter dev k).toNat ≤ 2 * n
  bounded : ∀ dev st, x.renderer.clientStats dev = some st → ∀ k, (st.snapshot k).toNat ≤ 2 * n
  grown : n < 2 ^ 62 → CountersGrown x

/-- Nothing has been reported at the start. -/
theorem statsInv_new : StatsInv stage 0 TracedStats.new where
  onStage := fun _ _ h => absurd h.symm (Option.some_ne_none _)
  unreported := fun _ => rfl
  taken := fun h => absurd h Bool.false_ne_true
  free2 := fun _ h => absurd h.symm (Option.some_ne_none _)
  counted := fun _ h => absurd h.symm (Option.some_ne_none _)
  bounded := fun _ _ h => absurd h.symm (Option.some_ne_none _)
  grown := fun _ _ h => absurd h.symm (Option.some_ne_none _)

variable {stage} {n : ℕ} {x : TracedStats}

/-- A step that counts. -/
theorem StatsInv.count (h : StatsInv stage n x) (f : OvboxCounters → OvboxCounters)
    (hraised : ∀ c, c.loop.sorter.buf2.valid = false → ∀ dev k,
      RaisedBy 2 (c.counter dev k) ((f c).counter dev k))
    (hfree2 : ∀ c, c.loop.sorter.buf2.valid = false → (f c).loop.sorter.buf2.valid = false) :
    StatsInv stage (n + 1)
      ⟨{ x.renderer with ovboxclient := x.renderer.ovboxclient.map f }, x.reported, x.since⟩ where
  onStage := h.onStage
  unreported := h.unreported
  taken := by
    intro hreported c' hc'
    obtain ⟨c, hc, -⟩ := Option.map_eq_some_iff.mp hc'
    exact h.taken hreported c hc
  free2 := by
    intro c' hc'
    obtain ⟨c, hc, rfl⟩ := Option.map_eq_some_iff.mp hc'
    exact hfree2 c (h.free2 c hc)
  counted := by
    intro c' hc' dev k
    obtain ⟨c, hc, rfl⟩ := Option.map_eq_some_iff.mp hc'
    have hraise := (hraised c (h.free2 c hc) dev k).toNat_le
    have hcounter := h.counted c hc dev k
    omega
  bounded := fun dev st hst k => (h.bounded dev st hst k).trans (by omega)
  grown := by
    intro hn c' hc' dev k
    obtain ⟨c, hc, rfl⟩ := Option.map_eq_some_iff.mp hc'
    have hcounter := h.counted c hc dev k
    have hraise := (hraised c (h.free2 c hc) dev k).le (by omega)
    exact UInt64.le_trans (h.grown (by omega) c hc dev k) hraise

/-- All counters start with zero. -/
theorem counter_start (st : ClientStart) (dev : StageDeviceId) (k : CounterKind) :
    (OvboxCounters.start st).counter dev k = 0 := by
  cases k with
  | received => rfl
  | seqerrIn => rfl
  | seqerrOut => rfl
  | pings cls => rfl
  | pongs cls => rfl

variable {own}

/-- Without a client a report clears all snapshots. -/
theorem statsInv_report_none (hclient : x.renderer.ovboxclient = none) :
    StatsInv stage (n + 1) (statsStep stage own x .getClientStats) := by
  have hstats : ∀ dev st, (statsStep stage own x .getClientStats).renderer.clientStats dev
      ≠ some st := by
    intro dev st hst
    exact Option.some_ne_none st
      (hst.symm.trans (clientStats_getClientStats_none stage own hclient dev))
  have hnone : ∀ c, (statsStep stage own x .getClientStats).renderer.ovboxclient ≠ some c := by
    intro c hc
    exact Option.some_ne_none c (hc.symm.trans hclient)
  exact ⟨fun dev st hst => absurd hst (hstats dev st),
    fun hreported => absurd hreported Bool.false_ne_true.symm,
    fun _ c hc => absurd hc (hnone c), fun c hc => absurd hc (hnone c),
    fun c hc => absurd hc (hnone c), fun dev st hst => absurd hst (hstats dev st),
    fun _ c hc => absurd hc (hnone c)⟩

/-- A report takes all snapshots of the client. -/
theorem StatsInv.report_some (h : StatsInv stage n x) {c : OvboxCounters}
    (hclient : x.renderer.ovboxclient = some c) :
    StatsInv stage (n + 1) (statsStep stage own x .getClientStats) := by
  have hstats : ∀ dev, (statsStep stage own x .getClientStats).renderer.clientStats dev = _ :=
    clientStats_getClientStats stage own hclient
  have hsame : ∀ c', (statsStep stage own x .getClientStats).renderer.ovboxclient = some c' →
      c' = c := by
    intro c' hc'
    exact (Option.some.inj (hclient.symm.trans hc')).symm
  have hsince : (statsStep stage own x .getClientStats).since = c.counter := by
    funext dev
    show (x.renderer.ovboxclient.map fun c => c.counter dev).getD (x.since dev) = _
    rw [hclient, Option.map_some, Option.getD_some]
  refine ⟨?_, fun hreported => absurd hreported Bool.false_ne_true.symm, ?_, ?_, ?_, ?_, ?_⟩
  · intro dev st hst
    rw [hstats] at hst
    split_ifs at hst with hdev
    · exact hdev
    · exact h.onStage dev st hst
  · intro _ c' hc' dev hdev
    refine ⟨_, (hstats dev).trans (if_pos hdev), ?_⟩
    rw [snapshot_updateClientStats, hsince]
  · intro c' hc'
    rw [hsame c' hc']
    exact h.free2 c hclient
  · intro c' hc' dev k
    rw [hsame c' hc']
    exact (h.counted c hclient dev k).trans (by omega)
  · intro dev st hst k
    rw [hstats] at hst
    split_ifs at hst with hdev
    · rw [← Option.some.inj hst, snapshot_updateClientStats]
      exact (h.counted c hclient dev k).trans (by omega)
    · exact (h.bounded dev st hst k).trans (by omega)
  · intro _ c' hc' dev k
    rw [hsame c' hc', hsince]
    exact UInt64.le_refl _

/-- Every step keeps the invariant. -/
theorem statsInv_step (h : StatsInv stage n x) (op : StatsOp) :
    StatsInv stage (n + 1) (statsStep stage own x op) := by
  -- a step without an effect counts for the bound
  have hkept : StatsInv stage (n + 1) x := by
    have hcount := h.count id (fun c _ dev k => RaisedBy.refl 2 _) fun c hc => hc
    rwa [Option.map_id] at hcount
  cases op with
  | startSession client =>
      cases client with
      | none => exact hkept
      | some st =>
          -- the counters start again, the snapshots stay
          refine ⟨hkept.onStage, fun _ => rfl, fun hreported => absurd hreported Bool.false_ne_true,
            ?_, ?_, hkept.bounded, ?_⟩
          · intro c hc
            rw [← Option.some.inj hc]
            rfl
          · intro c hc dev k
            rw [← Option.some.inj hc, counter_start]
            exact Nat.zero_le _
          · exact fun _ c hc dev k => UInt64.zero_le
  | endSession =>
      have hnone : ∀ c, (statsStep stage own x .endSession).renderer.ovboxclient ≠ some c :=
        fun c hc => Option.some_ne_none c hc.symm
      exact ⟨hkept.onStage, hkept.unreported, fun _ c hc => absurd hc (hnone c),
        fun c hc => absurd hc (hnone c), fun c hc => absurd hc (hnone c), hkept.bounded,
        fun _ c hc => absurd hc (hnone c)⟩
  | received rx tms =>
      exact h.count (fun c => c.receive rx tms)
        (fun c hfree2 => raised_receive c rx tms hfree2)
        fun c hfree2 => buf2_invalid_loopStep hfree2
  | pings t =>
      refine h.count (fun c => c.pingservice t) (fun c _ => raised_pingservice c t) ?_
      intro c hfree2
      show (OvboxCounters.pingPeers t 0 t.endpoints.1 c).loop.sorter.buf2.valid = false
      rw [loop_pingPeers]
      exact hfree2
  | getClientStats =>
      cases hclient : x.renderer.ovboxclient with
      | none => exact statsInv_report_none hclient
      | some c => exact h.report_some hclient

variable (stage own) in
/-- The invariant holds behind any list of operations. -/
theorem statsInv_run (ops : List StatsOp) :
    StatsInv stage ops.length (run (statsStep stage own) TracedStats.new ops) := by
  induction ops using List.reverseRecOn with
  | nil => exact statsInv_new stage
  | append_singleton ops op ih =>
      rw [List.length_append, List.length_singleton, run_append_one]
      exact statsInv_step ih op

/-- The first report is compared with zeros. -/
theorem snapshot_init : ClientStats.init.snapshot = fun _ => 0 := by
  funext k
  cases k with
  | received => rfl
  | seqerrIn => rfl
  | seqerrOut => rfl
  | pings cls => rfl
  | pongs cls => rfl

variable (stage) in
/-- The values that are reported on a client. -/
theorem values_getClientStats {r : StatsRenderer} {c : OvboxCounters}
    (hclient : r.ovboxclient = some c) {dev : StageDeviceId} {st : ClientStatsJson} :
    (r.getClientStats stage own).1 dev = some st ↔ dev ≠ own ∧
      ((if dev ∈ stage.entries.map Prod.fst then
          some (c.updateClientStats dev ((r.clientStats dev).getD ClientStats.init))
        else r.clientStats dev).map ClientStats.toJson) = some st := by
  rw [← clientStats_getClientStats stage own hclient dev]
  exact Option.ite_none_right_eq_some

/-- The values of another device on stage are reported. -/
theorem value_onStage {r : StatsRenderer} {c : OvboxCounters} (hclient : r.ovboxclient = some c)
    {dev : StageDeviceId} (hdev : dev ∈ stage.entries.map Prod.fst) (hown : dev ≠ own) :
    (r.getClientStats stage own).1 dev
      = some (c.updateClientStats dev ((r.clientStats dev).getD ClientStats.init)).toJson := by
  rw [values_getClientStats stage hclient, if_pos hdev]
  exact ⟨hown, rfl⟩

/-- Where nothing is left and no disorder has been added, the report is right. -/
theorem StatsInv.right (h : StatsInv stage n x) {op : StatsOp} (hleft : NothingLeft own x op)
    (hdisorder : NotMoreDisorder stage own x op) : ReportsRight stage own x op := by
  intro hop c hc dev st hst
  obtain ⟨hown, hst⟩ := (values_getClientStats stage hc).mp hst
  split_ifs at hst with hdev
  · rw [Option.map_some, Option.some_inj] at hst
    rw [← hst]
    have hrecovered := hdisorder hop c hc dev hdev hown
    cases hreported : x.reported with
    | true =>
        -- the snapshot is the one of the last report
        obtain ⟨st₀, hst₀, hsnapshot⟩ := h.taken hreported c hc dev hdev
        rw [hst₀, Option.getD_some]
        exact reportRight_of_taken hsnapshot hrecovered
    | false =>
        rw [h.unreported hreported] at hrecovered ⊢
        cases hst₀ : x.renderer.clientStats dev with
        | none =>
            rw [Option.getD_none]
            exact reportRight_of_taken snapshot_init hrecovered
        | some st₀ =>
            rw [Option.getD_some]
            exact reportRight_of_noLeftover (hleft hop hreported c hc dev hown st₀ hst₀) hrecovered
  · obtain ⟨st₀, hst₀, -⟩ := Option.map_eq_some_iff.mp hst
    exact absurd (h.onStage dev st₀ hst₀) hdev

/-- A right report has found nothing left. -/
theorem StatsInv.nothingLeft (h : StatsInv stage n x) (hn : n < 2 ^ 62) {op : StatsOp}
    (hright : ReportsRight stage own x op) : NothingLeft own x op := by
  intro hop hreported c hc dev hown st hst
  have hreport := hright hop c hc dev _ (value_onStage hc (h.onStage dev st hst) hown)
  rw [h.unreported hreported, hst, Option.getD_some] at hreport
  -- in a run this short the counters are far from their end
  refine noLeftover_of_reportRight (fun cls => ?_) hreport
  have hsent := h.bounded dev st hst (.pings cls)
  have hreturned := h.counted c hc dev (.pongs cls)
  omega

/-- And no more disorder than it reports. -/
theorem notMoreDisorder_of_right {op : StatsOp} (hright : ReportsRight stage own x op) :
    NotMoreDisorder stage own x op := by
  intro hop c hc dev hdev hown
  exact (hright hop c hc dev _ (value_onStage hc hdev hown)).recovered_le

end Run

/-- All reports of a run are right if no first report of a client finds counts that an
earlier client has left, and no report finds that more messages of a device have gone out in
disorder since the last one than have come in.  In a run whose counters do not come to their end
this is the only way, and the differences that are reported are true ones. -/
theorem reports_right_iff (stage : StageMap) (own : StageDeviceId) (ops : List StatsOp) :
    (AllSteps (statsStep stage own)
        (fun x op => NothingLeft own x op ∧ NotMoreDisorder stage own x op) TracedStats.new ops →
      AllSteps (statsStep stage own) (ReportsRight stage own) TracedStats.new ops) ∧
    (ops.length < 2 ^ 62 →
      (AllSteps (statsStep stage own) (ReportsRight stage own) TracedStats.new ops →
        AllSteps (statsStep stage own)
          (fun x op => NothingLeft own x op ∧ NotMoreDisorder stage own x op)
          TracedStats.new ops) ∧
      AllSteps (statsStep stage own) (fun x _ => CountersGrown x) TracedStats.new ops) := by
  rw [allSteps_iff_split, allSteps_iff_split, allSteps_iff_split]
  constructor
  · intro hmet before op after hsplit
    obtain ⟨hleft, hdisorder⟩ := hmet before op after hsplit
    exact (statsInv_run stage own before).right hleft hdisorder
  · intro hlen
    have hshort : ∀ before op after, ops = before ++ op :: after → before.length < 2 ^ 62 := by
      intro before op after hsplit
      rw [hsplit, List.length_append] at hlen
      omega
    constructor
    · intro hright before op after hsplit
      have hreport := hright before op after hsplit
      exact ⟨(statsInv_run stage own before).nothingLeft (hshort before op after hsplit) hreport,
        notMoreDisorder_of_right hreport⟩
    · intro before op after hsplit
      exact (statsInv_run stage own before).grown (hshort before op after hsplit)

/-- The device with the id `1` on stage. -/
def oneDevice : StageMap := OrderedMap.empty.insert 1 StageDevice.zero

/-- A new session. -/
def newSession : StatsOp :=
  .startSession (some ⟨7, 0, Endpoint.cleared, Endpoint.cleared, Endpoint.cleared⟩)

/-- The device is pinged. -/
def pingDevice : StatsOp := .pings (clientWithPeer bPeer2peer 4464 (EpDesc.peerMode 0) false)

/-- A step that is no report meets the condition. -/
theorem met_of_ne {x : TracedStats} {op : StatsOp} (h : op ≠ .getClientStats) :
    NothingLeft 0 x op ∧ NotMoreDisorder oneDevice 0 x op :=
  ⟨fun hop => absurd hop h, fun hop => absurd hop h⟩

/-- With a report between the sessions nothing is left. -/
theorem reports_right_with_report_between :
    AllSteps (statsStep oneDevice 0) (ReportsRight oneDevice 0) TracedStats.new
      [newSession, pingDevice, .getClientStats, .endSession, .getClientStats, newSession,
        .getClientStats] := by
  refine (reports_right_iff oneDevice 0 _).1 ⟨?_, ?_, ?_, ?_, ?_, ?_, ?_, trivial⟩
  · exact met_of_ne (by simp [newSession])
  · exact met_of_ne (by simp [pingDevice])
  · refine ⟨?_, ?_⟩
    · intro _ _ c _ dev _ st hst
      exact absurd hst.symm (Option.some_ne_none st)
    · intro _ c hc dev hdev _
      obtain rfl : dev = 1 := List.mem_singleton.mp hdev
      rw [← Option.some.inj hc]
      decide
  · exact met_of_ne (by simp)
  · refine ⟨?_, ?_⟩
    · intro _ _ c hc
      exact absurd hc.symm (Option.some_ne_none c)
    · intro _ c hc
      exact absurd hc.symm (Option.some_ne_none c)
  · exact met_of_ne (by simp [newSession])
  · refine ⟨?_, ?_⟩
    · intro _ _ c _ dev _ st hst
      exact absurd hst.symm (Option.some_ne_none st)
    · intro _ c hc dev hdev _
      obtain rfl : dev = 1 := List.mem_singleton.mp hdev
      rw [← Option.some.inj hc]
      decide

/-- A new client before the next report: the ping that its predecessor has sent is
subtracted from its own count. -/
theorem restart_reports_wrapped :
    ¬ AllSteps (statsStep oneDevice 0) (ReportsRight oneDevice 0) TracedStats.new
      [newSession, pingDevice, .getClientStats, .endSession, newSession, .getClientStats] := by
  intro h
  have hlast := h.2.2.2.2.2.1 rfl _ rfl 1 _ rfl
  exact absurd (hlast.lost .p2p) (by decide)

end Libov
