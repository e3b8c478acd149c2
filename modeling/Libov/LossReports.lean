/-
# Adding up the reported losses

`update_client_stats` reports what the counters of a sender have grown by since the last
report.  The loss counter of the sorter also falls, when a late message arrives; a
difference that has wrapped around is reported as `0`, but the next report starts from
the lower value all the same.

* `reported_received` : the reported numbers of messages add up to the counter;
* `reported_lost_add_dropped` : the reported losses and the differences that were reported
  as `0` add up to the counter;
* `reported_losses_add_up` : both, and when the reported losses alone add up.
-/
import Libov.StatsReports
import Libov.SorterLoss

open Runs Counters

namespace Libov

/-! ## Runs with reports -/

/-- A client and the values that its reports on one device keep. -/
structure Reporting where
  client : OvboxCounters
  stats : ClientStats

/-- A new client, with nothing reported. -/
def Reporting.start (st : ClientStart) : Reporting := ⟨OvboxCounters.start st, ClientStats.init⟩

/-- A turn of `sendsrv`, a turn of `pingservice`, or a report. -/
inductive ReportOp where
  | received (rx : Received) (tms : ℚ)
  | pings (t : OvboxClient)
  | updateClientStats

section Reports

variable (dev : StageDeviceId)

/-- `update_client_stats(dev, stats)`, or what happens between two reports. -/
def reportStep (x : Reporting) : ReportOp → Reporting
  | .received rx tms => { x with client := x.client.receive rx tms }
  | .pings t => { x with client := x.client.pingservice t }
  | .updateClientStats => { x with stats := x.client.updateClientStats dev x.stats }

/-- `stats.packages` behind a report; nothing is reported in between. -/
def reportedPackages (x : Reporting) : ReportOp → MessageStat
  | .updateClientStats => (x.client.updateClientStats dev x.stats).packages
  | _ => MessageStat.zero

/-- The counters of the sorter for the device. -/
def Reporting.counters (x : Reporting) : MessageStat := x.client.loop.sorter.getStat dev

/-- The difference of a report that is reported as `0`. -/
def droppedDifference (x : Reporting) : ReportOp → UInt64
  | .updateClientStats =>
      let diff := (x.counters dev).lost - x.stats.statePackages.lost
      if 2 ^ 30 < diff then diff else 0
  | _ => 0

/-- If the step is a report, the loss counter has not fallen since the last one, and has
not grown by more than `2^30`. -/
def LossGrown (x : Reporting) (op : ReportOp) : Prop :=
  op = .updateClientStats → RaisedBy (2 ^ 30) x.stats.statePackages.lost (x.counters dev).lost

variable {dev} {x : Reporting} {op : ReportOp}

/-- A report takes the number of messages to its present value. -/
theorem received_reportStep :
    (reportedPackages dev x op).received + -(reportStep dev x op).stats.statePackages.received + 0
      = -x.stats.statePackages.received + 0 := by
  cases op with
  | received rx tms => exact congrArg (· + 0) (zero_add (-x.stats.statePackages.received))
  | pings t => exact congrArg (· + 0) (zero_add (-x.stats.statePackages.received))
  | updateClientStats =>
      show (x.counters dev).received - x.stats.statePackages.received
        + -(x.counters dev).received + 0 = _
      abel

/-- A report takes the loss counter to its present value, in what it reports or in what
it drops. -/
theorem lost_reportStep :
    (reportedPackages dev x op).lost + -(reportStep dev x op).stats.statePackages.lost
        + droppedDifference dev x op
      = -x.stats.statePackages.lost + 0 := by
  cases op with
  | received rx tms => exact congrArg (· + 0) (zero_add (-x.stats.statePackages.lost))
  | pings t => exact congrArg (· + 0) (zero_add (-x.stats.statePackages.lost))
  | updateClientStats =>
      show (if 2 ^ 30 < (x.counters dev).lost - x.stats.statePackages.lost then 0
          else (x.counters dev).lost - x.stats.statePackages.lost) + -(x.counters dev).lost
        + (if 2 ^ 30 < (x.counters dev).lost - x.stats.statePackages.lost then
            (x.counters dev).lost - x.stats.statePackages.lost else 0) = _
      by_cases hdropped : 2 ^ 30 < (x.counters dev).lost - x.stats.statePackages.lost
      · rw [if_pos hdropped, if_pos hdropped]
        abel
      · rw [if_neg hdropped, if_neg hdropped]
        abel

/-- Nothing is dropped exactly where the loss counter has grown. -/
theorem droppedDifference_eq_zero_iff : droppedDifference dev x op = 0 ↔ LossGrown dev x op := by
  cases op with
  | received rx tms => exact iff_of_true rfl fun h => nomatch h
  | pings t => exact iff_of_true rfl fun h => nomatch h
  | updateClientStats =>
      have hgrown : LossGrown dev x .updateClientStats ↔
          (x.counters dev).lost - x.stats.statePackages.lost ≤ 2 ^ 30 :=
        (forall_prop_of_true rfl).trans (raisedBy_iff_sub_le (by norm_num))
      rw [hgrown]
      show (if 2 ^ 30 < (x.counters dev).lost - x.stats.statePackages.lost then
        (x.counters dev).lost - x.stats.statePackages.lost else 0) = 0 ↔ _
      by_cases hdropped : 2 ^ 30 < (x.counters dev).lost - x.stats.statePackages.lost
      · rw [if_pos hdropped]
        refine iff_of_false (fun hzero => ?_) (UInt64.not_le.mpr hdropped)
        rw [hzero] at hdropped
        exact absurd hdropped (by decide)
      · rw [if_neg hdropped]
        exact iff_of_true rfl (UInt64.not_lt.mp hdropped)

/-- Behind a report the counters are the ones that it keeps. -/
theorem statePackages_run_report (ops : List ReportOp) :
    (run (reportStep dev) x (ops ++ [.updateClientStats])).stats.statePackages
      = (run (reportStep dev) x (ops ++ [.updateClientStats])).counters dev := by
  rw [run_append_one]
  rfl

variable (dev) in
/-- The reported numbers of messages add up to the number at the last report. -/
theorem reported_received (st : ClientStart) (ops : List ReportOp) :
    total (reportStep dev) (fun x op => (reportedPackages dev x op).received) (Reporting.start st)
        ops
      = (run (reportStep dev) (Reporting.start st) ops).stats.statePackages.received := by
  have hledger := @ledger_run _ _ (reportStep dev) _ _ (fun _ => True)
    (fun x op => (reportedPackages dev x op).received) (fun _ _ => 0)
    (fun x => -x.stats.statePackages.received) (fun _ => 0)
    (fun _ _ _ => trivial) (fun _ _ _ => received_reportStep) (Reporting.start st) trivial ops
  have hnone : total (reportStep dev) (fun _ _ => (0 : UInt64)) (Reporting.start st) ops = 0 :=
    total_eq_zero (allSteps_of_invariant (I := fun _ => True) (fun _ _ _ => trivial)
      (fun _ _ _ => rfl) trivial ops)
  have hinput : (ops.map fun _ => (0 : UInt64)).sum = 0 := List.sum_eq_zero (by simp)
  have hstart : -(Reporting.start st).stats.statePackages.received = 0 := neg_zero
  rw [hnone, hinput, hstart, add_zero, add_zero, ← sub_eq_add_neg, sub_eq_zero] at hledger
  exact hledger

variable (dev) in
/-- The reported losses and the differences that are reported as `0` add up to the loss
counter at the last report. -/
theorem reported_lost_add_dropped (st : ClientStart) (ops : List ReportOp) :
    total (reportStep dev) (fun x op => (reportedPackages dev x op).lost) (Reporting.start st) ops
        + total (reportStep dev) (droppedDifference dev) (Reporting.start st) ops
      = (run (reportStep dev) (Reporting.start st) ops).stats.statePackages.lost := by
  have hledger := @ledger_run _ _ (reportStep dev) _ _ (fun _ => True)
    (fun x op => (reportedPackages dev x op).lost) (droppedDifference dev)
    (fun x => -x.stats.statePackages.lost) (fun _ => 0)
    (fun _ _ _ => trivial) (fun _ _ _ => lost_reportStep) (Reporting.start st) trivial ops
  have hinput : (ops.map fun _ => (0 : UInt64)).sum = 0 := List.sum_eq_zero (by simp)
  have hstart : -(Reporting.start st).stats.statePackages.lost = 0 := neg_zero
  rw [hinput, hstart, add_zero, add_right_comm, ← sub_eq_add_neg, sub_eq_zero] at hledger
  exact hledger

end Reports

/-- In a run of a new client that ends in a report, the reported numbers of messages add
up to the number received.  The reported losses, and the differences of the reports at which
the counter had fallen or grown by more than `2^30`, add up to the loss counter; if there
is no such report, the reported losses do. -/
theorem reported_losses_add_up (dev : StageDeviceId) (st : ClientStart) (ops : List ReportOp) :
    let ops := ops ++ [.updateClientStats]
    let x := run (reportStep dev) (Reporting.start st) ops
    let lost := total (reportStep dev) (fun x op => (reportedPackages dev x op).lost)
      (Reporting.start st) ops
    total (reportStep dev) (fun x op => (reportedPackages dev x op).received)
        (Reporting.start st) ops = (x.counters dev).received ∧
      lost + total (reportStep dev) (droppedDifference dev) (Reporting.start st) ops
        = (x.counters dev).lost ∧
      (AllSteps (reportStep dev) (LossGrown dev) (Reporting.start st) ops →
        lost = (x.counters dev).lost) := by
  intro ops' x lost
  have hkept : x.stats.statePackages = x.counters dev := statePackages_run_report ops
  have hlost : lost + total (reportStep dev) (droppedDifference dev) (Reporting.start st) ops'
      = (x.counters dev).lost := by
    rw [← hkept]
    exact reported_lost_add_dropped dev st ops'
  refine ⟨?_, hlost, fun hgrown => ?_⟩
  · rw [← hkept]
    exact reported_received dev st ops'
  · have hnone := total_eq_zero
      (hgrown.mono fun x op h => droppedDifference_eq_zero_iff.mpr h)
    rwa [hnone, add_zero] at hlost

/-! ## A late message between two reports -/

/-- An empty message of device `1` to port `1234` in a session with the pin `7`. -/
def emptyPacket (seq : Sequence) : Received :=
  some (header 7 1 1234 seq ++ [], Endpoint.cleared)

/-- The last number of device `1` on port `1234`, and its loss counter. -/
structure Heard (c : OvboxCounters) (last : Sequence) (lost : UInt64) : Prop where
  secret : c.secret = 7
  free2 : c.loop.sorter.buf2.valid = false
  last : c.loop.sorter.seqIn 1 1234 = some last
  lost : (c.loop.sorter.getStat 1).lost = lost

theorem secret_receive (c : OvboxCounters) (rx : Received) (tms : ℚ) :
    (c.receive rx tms).secret = c.secret := by
  have hcount : ∀ (c : OvboxCounters) (m : MsgBuf), (c.countPong tms m).secret = c.secret := by
    intro c m
    unfold OvboxCounters.countPong
    split_ifs
    · cases OvboxCounters.pongClass m.destport with
      | none => rfl
      | some cls => rfl
    · rfl
  show ((turn c.secret c.loop rx).1.foldl (OvboxCounters.countPong tms) c).secret = c.secret
  generalize (turn c.secret c.loop rx).1 = msgs
  induction msgs generalizing c with
  | nil => rfl
  | cons m msgs ih => exact (ih (c.countPong tms m)).trans (hcount c m)

/-- The packet arrives as a data message with its fields. -/
theorem sorter_receive_emptyPacket {c : OvboxCounters} (hsecret : c.secret = 7) (seq : Sequence) :
    ∃ m : DataMsg, m.toMsgBuf.cid = 1 ∧ m.toMsgBuf.destport = 1234 ∧ m.toMsgBuf.seq = seq ∧
      (c.receive (emptyPacket seq) 0).loop.sorter = sorterStep c.loop.sorter m := by
  obtain ⟨raw, hreceived, -⟩ :=
    recvSecMsg_packed 7 1 1234 seq [] (by decide) c.loop.msg Endpoint.cleared
  have hincoming : incoming 7 c.loop (emptyPacket seq)
      = ⟨true, 1, 1234, seq, 0, raw, headerLen, Endpoint.cleared⟩ := congrArg Prod.snd hreceived
  have hacc : Accepted 7 c.loop (emptyPacket seq) := congrArg Prod.fst hreceived
  refine ⟨⟨⟨true, 1, 1234, seq, 0, raw, headerLen, Endpoint.cleared⟩, rfl, dataPort, rfl⟩, rfl, rfl,
    rfl, ?_⟩
  show (loopStep c.secret c.loop (emptyPacket seq)).sorter = _
  rw [hsecret, (turn_accepted hacc).2, hincoming]
  rfl

theorem Heard.next {c : OvboxCounters} {last : Sequence} {lost : UInt64} (h : Heard c last lost)
    (seq : Sequence) (hne : seq - last ≠ 0) :
    Heard (c.receive (emptyPacket seq) 0) seq
      (lost + UInt64.ofInt ((seq - last).toInt - 1)) := by
  obtain ⟨m, hcid, hport, hseq, hsorter⟩ := sorter_receive_emptyPacket h.secret seq
  have hlast : c.loop.sorter.seqIn m.toMsgBuf.cid m.toMsgBuf.destport = some last := by
    rw [hcid, hport, h.last]
  have hdiff : deltaseqConst c.loop.sorter.seqIn m.toMsgBuf = seq - last := by
    unfold deltaseqConst SequenceMap.at
    rw [hlast, hseq, Option.getD_some]
  have hself := seqIn_self (m := m) h.free2
  refine ⟨(secret_receive _ _ _).trans h.secret, buf2_invalid_loopStep h.free2, ?_, ?_⟩
  · rw [hsorter, ← hcid, ← hport, ← hseq]
    exact hself
  · rw [hsorter, lost_sorterStep m h.free2, if_pos hcid.symm, h.lost, MessageSorter.loss, hdiff,
      if_pos ⟨hne, by rw [hlast]; rfl⟩]

/-- What the client is created with. -/
def clientStart : ClientStart := ⟨7, 0, Endpoint.cleared, Endpoint.cleared, Endpoint.cleared⟩

/-- The first message of a new client. -/
theorem heard_first (seq : Sequence) :
    Heard ((OvboxCounters.start clientStart).receive (emptyPacket seq) 0) seq 0 := by
  obtain ⟨m, hcid, hport, hseq, hsorter⟩ :=
    sorter_receive_emptyPacket (c := OvboxCounters.start clientStart) rfl seq
  have hself := seqIn_self (m := m) (s := MessageSorter.fresh Endpoint.cleared Endpoint.cleared) rfl
  have hloss : (OvboxCounters.start clientStart).loop.sorter.loss m.toMsgBuf = 0 :=
    if_neg fun h => Bool.false_ne_true h.2
  refine ⟨secret_receive _ _ _, buf2_invalid_loopStep rfl, ?_, ?_⟩
  · rw [hsorter, ← hcid, ← hport, ← hseq]
    exact hself
  · rw [hsorter, lost_sorterStep m rfl, hloss, ite_self]
    rfl

/-- The numbers `1` and `3`, a report, `2`, a report, `4`, and a report. -/
def lateMessage : List ReportOp :=
  [.received (emptyPacket 1) 0, .received (emptyPacket 3) 0, .updateClientStats,
    .received (emptyPacket 2) 0, .updateClientStats, .received (emptyPacket 4) 0,
    .updateClientStats]

/-- No message is missing in the end, and the first and the last report count one loss
each. -/
theorem late_message_counted_twice :
    ¬ (0 ≤ ((run (reportStep 1) (Reporting.start clientStart)
          lateMessage).counters 1).lost.toInt64 →
        total (reportStep 1) (fun x op => (reportedPackages 1 x op).lost)
            (Reporting.start clientStart) lateMessage
          = ((run (reportStep 1) (Reporting.start clientStart) lateMessage).counters 1).lost) := by
  have h1 := heard_first 1
  have h2 := h1.next 3 (by decide)
  have h3 := h2.next 2 (by decide)
  have h4 := h3.next 4 (by decide)
  generalize hc2 : ((OvboxCounters.start clientStart).receive (emptyPacket 1) 0).receive
    (emptyPacket 3) 0 = c2 at h2 h3 h4
  generalize hc3 : c2.receive (emptyPacket 2) 0 = c3 at h3 h4
  generalize hc4 : c3.receive (emptyPacket 4) 0 = c4 at h4
  -- the clients of the three reports
  have hreports : total (reportStep 1) (fun x op => (reportedPackages 1 x op).lost)
      (Reporting.start clientStart) lateMessage
      = (c2.updateClientStats 1 ClientStats.init).packages.lost
        + ((c3.updateClientStats 1 (c2.updateClientStats 1 ClientStats.init)).packages.lost
        + (c4.updateClientStats 1 (c3.updateClientStats 1
            (c2.updateClientStats 1 ClientStats.init))).packages.lost) := by
    subst hc4 hc3 hc2
    simp only [lateMessage, total, reportedPackages, reportStep, Reporting.start, MessageStat.zero,
      zero_add, add_zero]
  have hend : ((run (reportStep 1) (Reporting.start clientStart) lateMessage).counters 1).lost
      = (c4.loop.sorter.getStat 1).lost := by
    subst hc4 hc3 hc2
    rfl
  have hpackages : ∀ (c : OvboxCounters) (st : ClientStats),
      (c.updateClientStats 1 st).packages.lost
        = if 2 ^ 30 < (c.loop.sorter.getStat 1).lost - st.statePackages.lost then 0
          else (c.loop.sorter.getStat 1).lost - st.statePackages.lost := fun _ _ => rfl
  have hkept : ∀ (c : OvboxCounters) (st : ClientStats),
      (c.updateClientStats 1 st).statePackages.lost = (c.loop.sorter.getStat 1).lost :=
    fun _ _ => rfl
  rw [hreports, hend, hpackages, hpackages, hpackages, hkept, hkept, h2.lost, h3.lost, h4.lost]
  decide

end Libov
