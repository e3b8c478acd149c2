/-
# The reception statistics of a sender

What the sorter delivers for a sender depends on the messages of the others, and so does the
count of errors behind the sorter.  The counts of what arrived depend on the numbers that have
arrived from the sender, and on nothing else.

* `sender_statistics_independent` : the counts of a run, and of the messages of a sender alone.
-/
import Libov.SorterBalance
import Libov.SorterLoss

open Runs

namespace Libov

/-- The counts of arrival are the same. -/
structure SameReception (st st' : MessageStat) : Prop where
  received : st.received = st'.received
  lost : st.lost = st'.lost
  seqerrIn : st.seqerrIn = st'.seqerrIn

/-- Two sorters that have seen the same of a sender. -/
structure ReceptionAlike (c : StageDeviceId) (s t : MessageSorter) : Prop where
  free : s.buf2.valid = false
  free' : t.buf2.valid = false
  seqIn : s.seqIn c = t.seqIn c
  stat : SameReception (s.getStat c) (t.getStat c)

section Step

variable {c : StageDeviceId} {s t : MessageSorter} (m : DataMsg)

/-- A message of the sender is counted alike. -/
theorem ReceptionAlike.own (h : ReceptionAlike c s t) (hm : m.toMsgBuf.cid = c) :
    ReceptionAlike c (sorterStep s m) (sorterStep t m) := by
  subst hm
  have hdseq : deltaseqConst s.seqIn m.toMsgBuf = deltaseqConst t.seqIn m.toMsgBuf := by
    unfold deltaseqConst
    rw [h.seqIn]
  have hloss : s.loss m.toMsgBuf = t.loss m.toMsgBuf := by
    unfold MessageSorter.loss
    rw [hdseq, h.seqIn]
  refine ⟨buf2_invalid_feed s m h.free, buf2_invalid_feed t m h.free', ?_, ?_, ?_, ?_⟩
  · rw [seqIn_sorterStep s m h.free, seqIn_sorterStep t m h.free']
    unfold SenderMap.record
    rw [Function.update_self, Function.update_self, h.seqIn]
  · rw [received_sorterStep m h.free, received_sorterStep m h.free', h.stat.received]
  · rw [lost_sorterStep m h.free, lost_sorterStep m h.free', h.stat.lost, hloss]
  · rw [seqerrIn_sorterStep m h.free, seqerrIn_sorterStep m h.free', h.stat.seqerrIn, hdseq]

/-- A message of another sender changes nothing. -/
theorem ReceptionAlike.other (h : ReceptionAlike c s t) (hm : m.toMsgBuf.cid ≠ c) :
    ReceptionAlike c (sorterStep s m) t := by
  refine ⟨buf2_invalid_feed s m h.free, h.free', ?_, ?_, ?_, ?_⟩
  · funext port
    rw [seqIn_of_other h.free port hm, h.seqIn]
  · rw [received_sorterStep m h.free, if_neg (Ne.symm hm), UInt64.add_zero, h.stat.received]
  · rw [lost_of_other h.free hm, h.stat.lost]
  · rw [seqerrIn_sorterStep m h.free, if_neg (Ne.symm hm), UInt64.add_zero, h.stat.seqerrIn]

end Step

/-- In every run on a fresh sorter, what `get_stat` returns about the arrival of the messages
of a sender is what it returns where these messages are the only ones. -/
theorem sender_statistics_independent (sender1 sender2 : Endpoint) (ms : List DataMsg)
    (id : StageDeviceId) :
    SameReception
      ((sendsrv (MessageSorter.fresh sender1 sender2) ms).2.getStat id)
      ((sendsrv (MessageSorter.fresh sender1 sender2) (ofSender id ms)).2.getStat id) := by
  rw [(sendsrv_run _ ms).2, (sendsrv_run _ (ofSender id ms)).2]
  have hrelated := related_filter (R := ReceptionAlike id) (fun m => decide (m.toMsgBuf.cid = id))
    (fun _ _ m h hm => h.own m (of_decide_eq_true hm))
    (fun _ _ m h hm => h.other m (of_decide_eq_false hm))
    (s := MessageSorter.fresh sender1 sender2) (t := MessageSorter.fresh sender1 sender2)
    ⟨rfl, rfl, rfl, rfl, rfl, rfl⟩ ms
  exact hrelated.stat

/-- The errors behind the sorter are not independent: a message of another sender makes the
held number `2` go out, and the late number `1` behind it is counted. -/
example :
    let ms := [emptyMsg 1 1234 2 (by decide), emptyMsg 2 1234 1 (by decide),
      emptyMsg 1 1234 1 (by decide)]
    let s := MessageSorter.fresh Endpoint.cleared Endpoint.cleared
    ((sendsrv s ms).2.getStat 1).seqerrOut
      ≠ ((sendsrv s (ofSender 1 ms)).2.getStat 1).seqerrOut := by
  decide +kernel

end Libov
