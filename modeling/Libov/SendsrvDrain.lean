/-
# The loop of `sendsrv` with `process_msg`

`drain` follows the loop `while(sorter.process(&pmsg)) process_msg(*pmsg)` by its calls of
`process` alone.  Here `process_msg` writes to the message at the pointer between them: it clears
the flag `valid`, and a ping is answered from within the buffer.

* `drainLoop` : the loop, with a bound on the tests of its condition;
* `drainLoop_received` : from the states between two receives it delivers what `feed` delivers,
  and ends after three tests at most;
* `Reaches` : the states at the receives, over all runs of the thread;
* `drain_loop_bounded` : what the loop leaves in the two buffers of the sorter.
-/
import Libov.ClientNode

namespace Libov

/-! ## The loop -/

/-- The message behind `process_msg`. -/
def msgProcessed (callerid : StageDeviceId) (m : MsgBuf) : MsgBuf :=
  msgBehind callerid m.invalidate

/-- Change what the pointer points to. -/
def SendSrv.onTarget (s : SendSrv) (f : MsgBuf → MsgBuf) : SendSrv :=
  match s.pmsg with
  | .msg => { s with msg := f s.msg }
  | .buf1 => { s with sorter := { s.sorter with buf1 := f s.sorter.buf1 } }
  | .buf2 => { s with sorter := { s.sorter with buf2 := f s.sorter.buf2 } }

/-- `while(sorter.process(&pmsg)) process_msg(*pmsg)`, where it ends within `n` tests of its
condition: the messages as they are handed to `process_msg`, and the state behind the loop. -/
def drainLoop (callerid : StageDeviceId) : ℕ → SendSrv → Option (List MsgBuf × SendSrv)
  | 0, _ => none
  | n + 1, s =>
      match process s with
      | (false, s') => some ([], s')
      | (true, s') =>
          (drainLoop callerid n (s'.onTarget (msgProcessed callerid))).map fun r =>
            (s'.target :: r.1, r.2)

section Message

variable {callerid : StageDeviceId} {m : MsgBuf}

/-- What `process_msg` and the function that it calls leave of the message. -/
theorem msgProcessed_eq (L : Sodium) (B : Receiver) (m : MsgBuf) :
    msgProcessed B.client.callerid m =
      if (processMsg L B m).call = some .processPingMsg then
        (processPingMsg B.client.callerid (processMsg L B m).msg).1
      else (processMsg L B m).msg := by
  have hmsg : (processMsg L B m).msg = m.invalidate := by
    unfold processMsg Receiver.processData
    dsimp only
    split_ifs
    · rfl
    · rfl
    · rfl
    · rfl
  rw [call_processMsg, hmsg]
  rfl

@[simp] theorem valid_msgProcessed : (msgProcessed callerid m).valid = false := by
  unfold msgProcessed msgBehind
  split_ifs
  · rfl
  · rfl

/-- A data message is only read. -/
theorem msgProcessed_of_data (hport : maxSpecialPort < m.destport) :
    msgProcessed callerid m = m.invalidate := by
  unfold msgProcessed msgBehind
  rw [calledFor_of_data callerid hport, if_neg (by simp)]

end Message

/-! ## Following the loop -/

section Drain

variable {callerid : StageDeviceId} {s s' : SendSrv}

/-- A target that does not change leaves the loop as it is. -/
theorem onTarget_of_eq {f : MsgBuf → MsgBuf} (h : f s.target = s.target) : s.onTarget f = s := by
  obtain ⟨sorter, msg, pmsg⟩ := s
  cases pmsg with
  | msg => exact congrArg (fun m => (⟨sorter, m, .msg⟩ : SendSrv)) h
  | buf1 => exact congrArg (fun m => (⟨{ sorter with buf1 := m }, msg, .buf1⟩ : SendSrv)) h
  | buf2 => exact congrArg (fun m => (⟨{ sorter with buf2 := m }, msg, .buf2⟩ : SendSrv)) h

/-- `process_msg` leaves a delivered data message as it is. -/
theorem onTarget_of_data (hinvalid : s.target.valid = false)
    (hport : maxSpecialPort < s.target.destport) : s.onTarget (msgProcessed callerid) = s := by
  apply onTarget_of_eq
  rw [msgProcessed_of_data hport, MsgBuf.invalidate, ← hinvalid]

/-- The loop ends at the first call that finds nothing. -/
theorem drainLoop_of_false (h : process s = (false, s')) (n : ℕ) :
    drainLoop callerid (n + 1) s = some ([], s') := by
  rw [drainLoop, h]

/-- A call that finds a message is followed by the rest of the loop. -/
theorem drainLoop_of_true (h : process s = (true, s')) (n : ℕ) :
    drainLoop callerid (n + 1) s =
      (drainLoop callerid n (s'.onTarget (msgProcessed callerid))).map fun r =>
        (s'.target :: r.1, r.2) := by
  rw [drainLoop, h]

/-- A result does not change when the loop is followed further. -/
theorem drainLoop_succ {n : ℕ} {r : List MsgBuf × SendSrv}
    (h : drainLoop callerid n s = some r) : drainLoop callerid (n + 1) s = some r := by
  induction n generalizing s r with
  | zero => cases h
  | succ n ih =>
      obtain ⟨delivers, s', hproc⟩ : ∃ delivers s', process s = (delivers, s') := ⟨_, _, rfl⟩
      cases delivers with
      | false =>
          rw [drainLoop_of_false hproc] at h ⊢
          exact h
      | true =>
          rw [drainLoop_of_true hproc] at h ⊢
          obtain ⟨r', hr', rfl⟩ := Option.map_eq_some_iff.mp h
          rw [ih hr', Option.map_some]

/-- A loop that has ended would have ended with more fuel. -/
theorem drainLoop_mono {m n : ℕ} (hle : m ≤ n) {r : List MsgBuf × SendSrv}
    (h : drainLoop callerid m s = some r) : drainLoop callerid n s = some r := by
  induction n, hle using Nat.le_induction with
  | base => exact h
  | succ n hle ih => exact drainLoop_succ ih

/-- Only data messages are held back. -/
def MessageSorter.HoldsData (s : MessageSorter) : Prop :=
  s.buf1.valid = true → maxSpecialPort < s.buf1.destport

variable (callerid) in
/-- Behind the first message: what the first buffer holds is delivered, and the loop ends. -/
theorem drainLoop_flush (hinvalid : s.target.valid = false)
    (hbuf2 : s.sorter.buf2.valid = false) (hheld : s.sorter.HoldsData) (n : ℕ) :
    ∃ t, drainLoop callerid (n + 2) s = some (s.sorter.released, t) ∧
      t.sorter = s.sorter.flush := by
  unfold MessageSorter.released MessageSorter.flush
  cases hbuf1 : s.sorter.buf1.valid with
  | false =>
      rw [drainLoop_of_false (process_idle hinvalid hbuf1 hbuf2)]
      exact ⟨s, rfl, rfl⟩
  | true =>
      let s₁ : SendSrv := { s with
        sorter := { s.sorter with buf1 := s.sorter.buf1.invalidate }.recordOut s.sorter.buf1
        pmsg := .buf1 }
      have hproc : process s = (true, s₁) := process_held1 hinvalid hbuf1
      have hkeep : s₁.onTarget (msgProcessed callerid) = s₁ := onTarget_of_data rfl (hheld hbuf1)
      have hidle : process s₁ = (false, s₁) := process_idle rfl rfl hbuf2
      rw [drainLoop_of_true hproc, hkeep, drainLoop_of_false hidle]
      exact ⟨s₁, rfl, rfl⟩

end Drain

/-! ## A received message -/

section Received

variable {callerid : StageDeviceId} {s : MessageSorter} {m : MsgBuf}

/-- A message that is delivered at once, and what is held behind it. -/
theorem drainLoop_at_once {s' : MessageSorter}
    (hproc : process ⟨s, m, .msg⟩ = (true, ⟨s', m.invalidate, .msg⟩))
    (hbuf2 : s'.buf2.valid = false) (hheld : s'.HoldsData) (n : ℕ) :
    ∃ t, drainLoop callerid (n + 3) ⟨s, m, .msg⟩ = some (m.invalidate :: s'.released, t) ∧
      t.sorter = s'.flush := by
  obtain ⟨t, hloop, ht⟩ := drainLoop_flush callerid
    (s := ⟨s', msgProcessed callerid m.invalidate, .msg⟩) valid_msgProcessed hbuf2 hheld n
  refine ⟨t, ?_, ht⟩
  have hnext : (⟨s', m.invalidate, .msg⟩ : SendSrv).onTarget (msgProcessed callerid)
      = ⟨s', msgProcessed callerid m.invalidate, .msg⟩ := rfl
  rw [drainLoop_of_true hproc, hnext, hloop]
  rfl

/-- The held message goes out first, and then the new one from the second buffer. -/
theorem drainLoop_swap (hvalid : m.valid = true) (hport : maxSpecialPort < m.destport)
    (hheld : s.HoldsData) (hgap : ¬ s.Gap m) (hswap : s.Swap m) (n : ℕ) :
    ∃ t, drainLoop callerid (n + 3) ⟨s, m, .msg⟩
        = some ([s.buf1.invalidate, (s.buf2.copy m).invalidate], t) ∧ t.sorter = s.swap m := by
  let s₁ : SendSrv := ⟨{ s.accept m with
    buf2 := s.buf2.copy m, buf1 := s.buf1.invalidate }.recordOut s.buf1, m, .buf1⟩
  let s₂ : SendSrv := ⟨s.swap m, m, .buf2⟩
  have hspecial : ¬ m.destport ≤ maxSpecialPort := UInt16.not_le.mpr hport
  have hfirst : process ⟨s, m, .msg⟩ = (true, s₁) := process_swap hvalid hspecial hgap hswap
  have hsecond : process s₁ = (true, s₂) := process_held2 rfl rfl hvalid
  have hidle : process s₂ = (false, s₂) := process_idle rfl rfl rfl
  have hkeep₁ : s₁.onTarget (msgProcessed callerid) = s₁ :=
    onTarget_of_data rfl (hheld (holds_of_swap hswap).1)
  have hkeep₂ : s₂.onTarget (msgProcessed callerid) = s₂ := onTarget_of_data rfl hport
  refine ⟨s₂, ?_, rfl⟩
  rw [drainLoop_of_true hfirst, hkeep₁, drainLoop_of_true hsecond, hkeep₂,
    drainLoop_of_false hidle]
  rfl

variable (callerid) in
/-- With `process_msg` between the calls the loop delivers the same messages and leaves the same
sorter, after three tests of its condition at most. -/
theorem drainLoop_received (hvalid : m.valid = true) (hbuf2 : s.buf2.valid = false)
    (hheld : s.HoldsData) (n : ℕ) :
    ∃ t, drainLoop callerid (n + 3) ⟨s, m, .msg⟩ = some ((feed s m).1, t) ∧
      t.sorter = (feed s m).2 := by
  rcases feed_cases hvalid hbuf2 with ⟨hspecial, hfeed⟩ | ⟨⟨hport, hgap⟩, hfeed⟩ |
    ⟨⟨hport, hgap⟩, hswap, hfeed⟩ | ⟨⟨hport, hgap⟩, hswap, hfeed⟩
  · rw [hfeed]
    exact drainLoop_at_once (process_special hvalid hspecial) hbuf2 hheld n
  · have hproc : process ⟨s, m, .msg⟩ = (false, ⟨s.hold m, m.invalidate, .msg⟩) :=
      process_gap hvalid (UInt16.not_le.mpr hport) hgap
    rw [hfeed, drainLoop_of_false hproc]
    exact ⟨_, rfl, rfl⟩
  · rw [hfeed]
    exact drainLoop_swap hvalid hport hheld hgap hswap n
  · rw [hfeed]
    exact drainLoop_at_once (process_direct hvalid (UInt16.not_le.mpr hport) hgap hswap) hbuf2
      hheld n

/-- What the loop leaves behind a received message. -/
structure Drained (s : MessageSorter) (m : MsgBuf) (ds : List MsgBuf) (t : MessageSorter) :
    Prop where
  deliveries : ds.length ≤ 2
  /-- the second buffer is free -/
  buf2 : t.buf2.valid = false
  /-- the first buffer is free, unless the first call of `process` returned false -/
  buf1 : t.buf1.valid = true → (process ⟨s, m, .msg⟩).1 = false
  /-- it then holds the message just received, all but its address -/
  held : (process ⟨s, m, .msg⟩).1 = false →
    ds = [] ∧ t.buf1 = { m with sender := s.buf1.sender }

/-- One message is released at most. -/
theorem length_released_le (s : MessageSorter) : s.released.length ≤ 1 := by
  unfold MessageSorter.released
  split_ifs
  · exact le_rfl
  · exact Nat.zero_le 1

/-- A message for which `process` returns true leaves both buffers free. -/
theorem drained_of_true {ds : List MsgBuf} {t : MessageSorter}
    (hproc : (process ⟨s, m, .msg⟩).1 = true) (hlen : ds.length ≤ 2)
    (h1 : t.buf1.valid = false) (h2 : t.buf2.valid = false) : Drained s m ds t where
  deliveries := hlen
  buf2 := h2
  buf1 := by
    intro h
    rw [h1] at h
    cases h
  held := by
    intro h
    rw [hproc] at h
    cases h

/-- The loop drains the sorter with what `feed` delivers. -/
theorem drained_feed (hvalid : m.valid = true) (hmsg : m.msg = headerLen)
    (hbuf2 : s.buf2.valid = false) : Drained s m (feed s m).1 (feed s m).2 := by
  have hreleased : (m.invalidate :: s.released).length ≤ 2 := by
    have hle := length_released_le s
    rw [List.length_cons]
    omega
  rcases feed_cases hvalid hbuf2 with ⟨hspecial, hfeed⟩ | ⟨⟨hport, hgap⟩, hfeed⟩ |
    ⟨⟨hport, hgap⟩, hswap, hfeed⟩ | ⟨⟨hport, hgap⟩, hswap, hfeed⟩
  · have hproc : (process ⟨s, m, .msg⟩).1 = true :=
      congrArg Prod.fst (process_special (s := ⟨s, m, .msg⟩) hvalid hspecial)
    rw [hfeed]
    exact drained_of_true hproc hreleased s.buf1_invalid_flush
      ((congrArg MsgBuf.valid s.buf2_flush).trans hbuf2)
  · have hproc : (process ⟨s, m, .msg⟩).1 = false :=
      congrArg Prod.fst (process_gap (s := ⟨s, m, .msg⟩) hvalid (UInt16.not_le.mpr hport) hgap)
    have hcopy : s.buf1.copy m = { m with sender := s.buf1.sender } := by
      unfold MsgBuf.copy
      rw [← hmsg]
    rw [hfeed]
    exact ⟨Nat.zero_le 2, hbuf2, fun _ => hproc, fun _ => ⟨rfl, hcopy⟩⟩
  · have hproc : (process ⟨s, m, .msg⟩).1 = true := congrArg Prod.fst
      (process_swap (s := ⟨s, m, .msg⟩) hvalid (UInt16.not_le.mpr hport) hgap hswap)
    rw [hfeed]
    exact drained_of_true hproc le_rfl rfl rfl
  · have hproc : (process ⟨s, m, .msg⟩).1 = true := congrArg Prod.fst
      (process_direct (s := ⟨s, m, .msg⟩) hvalid (UInt16.not_le.mpr hport) hgap hswap)
    rw [hfeed]
    refine drained_of_true hproc hreleased (s.buf1_invalid_pass m) ?_
    rw [MessageSorter.pass, MessageSorter.buf2_flush]
    exact hbuf2

end Received

/-! ## All runs -/

/-- The states of the thread at its receives: the sorter is a new one at the first of them, a
datagram that is not accepted leaves it as it is, and an accepted one goes through the loop. -/
inductive Reaches (secret : Secret) (callerid : StageDeviceId) : SendsrvLoop → Prop
  | fresh (sender1 sender2 sender : Endpoint) :
      Reaches secret callerid (SendsrvLoop.fresh sender1 sender2 sender)
  | rejected {x : SendsrvLoop} {rx : Received} (hx : Reaches secret callerid x)
      (hrejected : ¬ Accepted secret x rx) :
      Reaches secret callerid ⟨x.sorter, incoming secret x rx⟩
  | received {x : SendsrvLoop} {rx : Received} {n : ℕ} {ds : List MsgBuf} {t : SendSrv}
      (hx : Reaches secret callerid x) (haccepted : Accepted secret x rx)
      (hloop : drainLoop callerid n ⟨x.sorter, incoming secret x rx, .msg⟩ = some (ds, t)) :
      Reaches secret callerid ⟨t.sorter, t.msg⟩

section Run

variable {secret : Secret} {callerid : StageDeviceId} {x : SendsrvLoop} {rx : Received}

variable (callerid) in
/-- From states with a free second buffer and only data messages held back, the loop ends within
three tests with what `feed` computes, and with nothing else if it is followed further. -/
theorem drainLoop_incoming (hbuf2 : x.sorter.buf2.valid = false) (hheld : x.sorter.HoldsData)
    (hacc : Accepted secret x rx) :
    ∃ ds t, drainLoop callerid 3 ⟨x.sorter, incoming secret x rx, .msg⟩ = some (ds, t) ∧
      Drained x.sorter (incoming secret x rx) ds t.sorter ∧
      ∀ n r, drainLoop callerid n ⟨x.sorter, incoming secret x rx, .msg⟩ = some r →
        r = (ds, t) := by
  obtain ⟨hvalid, hmsg⟩ := incoming_accepted hacc
  obtain ⟨t, hloop, ht⟩ := drainLoop_received callerid hvalid hbuf2 hheld 0
  refine ⟨_, t, hloop, ?_, ?_⟩
  · rw [ht]
    exact drained_feed hvalid hmsg hbuf2
  · intro n r hr
    have hlong := drainLoop_mono (Nat.le_add_right n 3) hr
    rw [drainLoop_mono (Nat.le_add_left 3 n) hloop] at hlong
    exact (Option.some.inj hlong).symm

/-- A message that is held back is a data message. -/
theorem Drained.holdsData {s t : MessageSorter} {m : MsgBuf} {ds : List MsgBuf}
    (h : Drained s m ds t) (hvalid : m.valid = true) : t.HoldsData := by
  intro h1
  have hfirst := h.buf1 h1
  rw [(h.held hfirst).2]
  by_contra hport
  have hspecial : m.destport ≤ maxSpecialPort := UInt16.not_lt.mp hport
  rw [process_special (s := ⟨s, m, .msg⟩) hvalid hspecial] at hfirst
  cases hfirst

/-- At every receive the second buffer is free, and the first one holds a data message or
nothing. -/
theorem reaches_invariant (h : Reaches secret callerid x) :
    x.sorter.buf2.valid = false ∧ x.sorter.HoldsData := by
  induction h with
  | fresh sender1 sender2 sender => exact ⟨rfl, fun h => absurd h Bool.false_ne_true⟩
  | rejected hx hrejected ih => exact ih
  | @received x rx n ds t hx haccepted hloop ih =>
      obtain ⟨ds', t', -, hdrained, hunique⟩ := drainLoop_incoming callerid ih.1 ih.2 haccepted
      cases hunique n _ hloop
      exact ⟨hdrained.buf2, hdrained.holdsData (incoming_accepted haccepted).1⟩

/-- In every run, the second buffer is free at every receive.  The loop behind an accepted message
ends with at most two deliveries, leaves the second buffer free, and the first one too unless the
first call of `process` returned false: then it holds the message just received. -/
theorem drain_loop_bounded (h : Reaches secret callerid x) :
    x.sorter.buf2.valid = false ∧ ∀ rx, Accepted secret x rx →
      ∃ ds t, drainLoop callerid 3 ⟨x.sorter, incoming secret x rx, .msg⟩ = some (ds, t) ∧
        Drained x.sorter (incoming secret x rx) ds t.sorter ∧
        ∀ n r, drainLoop callerid n ⟨x.sorter, incoming secret x rx, .msg⟩ = some r →
          r = (ds, t) := by
  obtain ⟨hbuf2, hheld⟩ := reaches_invariant h
  refine ⟨hbuf2, ?_⟩
  intro rx hacc
  exact drainLoop_incoming callerid hbuf2 hheld hacc

end Run

/-- The first message of a run has the number `2`: `process` returns false at once, and the first
buffer holds it. -/
theorem drain_loop_second :
    ∃ ds t, drainLoop 3 3 ⟨MessageSorter.fresh Endpoint.cleared Endpoint.cleared,
          incoming 7 (SendsrvLoop.fresh Endpoint.cleared Endpoint.cleared Endpoint.cleared)
            (some (header 7 1 1234 2 ++ [], Endpoint.cleared)), .msg⟩ = some (ds, t) ∧
      ds = [] ∧ t.sorter.buf1.valid = true ∧ t.sorter.buf2.valid = false := by
  obtain ⟨hacc, hport, hgap⟩ := heldBack_second
  obtain ⟨hvalid, -⟩ := incoming_accepted hacc
  have hstart : Reaches 7 3 (SendsrvLoop.fresh Endpoint.cleared Endpoint.cleared
    Endpoint.cleared) := Reaches.fresh _ _ _
  obtain ⟨-, hloop⟩ := drain_loop_bounded hstart
  obtain ⟨ds, t, hdrain, hdrained, -⟩ := hloop _ hacc
  have hfirst := congrArg Prod.fst (process_gap (s := ⟨_, _, .msg⟩) hvalid
    (UInt16.not_le.mpr hport) hgap)
  obtain ⟨hnone, hbuf1⟩ := hdrained.held hfirst
  refine ⟨ds, t, hdrain, hnone, ?_, hdrained.buf2⟩
  rw [hbuf1]
  exact hvalid

end Libov
