/-
# Streams that arrive in order, or with neighbours swapped

A stream that is in step has everything delivered up to its last number `n` and
nothing held back.  From there the sorter gets through two kinds of blocks: the
next message, and the two next messages in reverse order.

* `Steady` : the stream is in step; after a swap the last arrival lags by one;
* `steady_block`, `steady_blocks` : one block, and any sequence of blocks;
* `swap_repair` : what such a sequence delivers and counts;
* `join_iff` : from which first number on a fresh sorter gets into step.
-/
import Libov.SerialNumbers
import Libov.SorterSteps

open Runs SerialNumbers

namespace Libov

/-! ## The loop over several messages -/

theorem sendsrv_append (s : MessageSorter) (ms ms' : List DataMsg) :
    sendsrv s (ms ++ ms') = ((sendsrv s ms).1 ++ (sendsrv (sendsrv s ms).2 ms').1,
      (sendsrv (sendsrv s ms).2 ms').2) := by
  induction ms generalizing s with
  | nil => rfl
  | cons m ms ih =>
      show ((feed s m.toMsgBuf).1 ++ (sendsrv (sorterStep s m) (ms ++ ms')).1,
        (sendsrv (sorterStep s m) (ms ++ ms')).2) = _
      rw [ih, ← List.append_assoc]
      rfl

theorem sendsrv_one (s : MessageSorter) (m : DataMsg) :
    sendsrv s [m] = ((feed s m.toMsgBuf).1, sorterStep s m) := by
  show ((feed s m.toMsgBuf).1 ++ [], _) = _
  rw [List.append_nil]
  rfl

theorem sendsrv_two (s : MessageSorter) (m₁ m₂ : DataMsg) :
    sendsrv s [m₁, m₂] = ((feed s m₁.toMsgBuf).1 ++ (feed (sorterStep s m₁) m₂.toMsgBuf).1,
      sorterStep (sorterStep s m₁) m₂) := by
  show ((feed s m₁.toMsgBuf).1 ++ (sendsrv (sorterStep s m₁) [m₂]).1, _) = _
  rw [sendsrv_one]
  rfl

/-- Right behind its predecessor, a message is no output error. -/
theorem outErr_record_next (seq : SenderMap) {m m' : MsgBuf} (hk : m'.stream = m.stream)
    (hseq : m'.seq = m.seq + 1) (cid : StageDeviceId) : (seq.record m).outErr m' cid = 0 := by
  have hdiff : deltaseqConst (seq.record m) m' = 1 := by
    rw [deltaseqConst_eq, hk, SenderMap.last_record_self, hseq]
    exact add_sub_base m.seq 1
  unfold SenderMap.outErr
  rw [hdiff]
  exact ite_self _

/-! ## Streams in step -/

/-- `n` is the last number that stream `k` delivered, nothing is held back, and the
last arrival is `n` or, when it lags, the number before. -/
structure Steady (s : MessageSorter) (k : Stream) (n : Sequence) (lag : Bool) : Prop where
  arrived : s.seqIn k.1 k.2 = some (if lag then n - 1 else n)
  delivered : s.seqOut.last k = n
  free1 : s.buf1.valid = false
  free2 : s.buf2.valid = false

/-- Blocks of arriving messages. -/
inductive Block where
  | inOrder (m : DataMsg)
  | swapped (second first : DataMsg)

namespace Block

/-- The messages in the order of their arrival. -/
def arrival : Block → List DataMsg
  | inOrder m => [m]
  | swapped second first => [second, first]

/-- The messages in the order of their numbers. -/
def inSequence : Block → List DataMsg
  | inOrder m => [m]
  | swapped second first => [first, second]

def isSwap : Block → Bool
  | inOrder _ => false
  | swapped _ _ => true

/-- The block carries on stream `k` behind the number `n`. -/
def Follows (k : Stream) (n : Sequence) : Block → Prop
  | inOrder m => m.toMsgBuf.stream = k ∧ m.toMsgBuf.seq = n + 1
  | swapped second first =>
    (second.toMsgBuf.stream = k ∧ second.toMsgBuf.seq = n + 2) ∧
      first.toMsgBuf.stream = k ∧ first.toMsgBuf.seq = n + 1

/-- The last number behind the block. -/
def last (n : Sequence) : Block → Sequence
  | inOrder _ => n + 1
  | swapped _ _ => n + 2

end Block

section Counters

variable (s : MessageSorter) (k : Stream)

/-- What is still missing in the loss count while the last arrival lags. -/
def lagging (lag : Bool) : UInt64 := if lag then 1 else 0

/-- The counters of the sender behind messages that end in step: all received, the
loss count as before up to the lag, one input error for each swap. -/
structure Counted (s s' : MessageSorter) (c : StageDeviceId) (lag lag' : Bool)
    (received swaps : ℕ) : Prop where
  received : (s'.getStat c).received = (s.getStat c).received + UInt64.ofNat received
  lost : (s'.getStat c).lost + lagging lag' = (s.getStat c).lost + lagging lag
  seqerrIn : (s'.getStat c).seqerrIn = (s.getStat c).seqerrIn + UInt64.ofNat swaps
  seqerrOut : (s'.getStat c).seqerrOut = (s.getStat c).seqerrOut

theorem Counted.refl (s : MessageSorter) (c : StageDeviceId) (lag : Bool) :
    Counted s s c lag lag 0 0 :=
  ⟨(UInt64.add_zero _).symm, rfl, (UInt64.add_zero _).symm, rfl⟩

theorem Counted.trans {s s' s'' : MessageSorter} {c : StageDeviceId} {lag lag' lag'' : Bool}
    {r r' w w' : ℕ} (h : Counted s s' c lag lag' r w) (h' : Counted s' s'' c lag' lag'' r' w') :
    Counted s s'' c lag lag'' (r + r') (w + w') := by
  constructor
  · rw [h'.received, h.received, UInt64.ofNat_add, UInt64.add_assoc]
  · rw [h'.lost, h.lost]
  · rw [h'.seqerrIn, h.seqerrIn, UInt64.ofNat_add, UInt64.add_assoc]
  · rw [h'.seqerrOut, h.seqerrOut]

end Counters

section Step

variable {s : MessageSorter} {k : Stream} {n : Sequence} {lag : Bool} (h : Steady s k n lag)
  {m : DataMsg} (hk : m.toMsgBuf.stream = k)

include h hk

/-- The distance of a message of the stream from the last arrival. -/
theorem Steady.dseqIn {j : Sequence} (hseq : m.toMsgBuf.seq = n + j) :
    deltaseqConst s.seqIn m.toMsgBuf = if lag then j + 1 else j := by
  rw [deltaseqConst_eq, hk, SenderMap.last, SequenceMap.at, h.arrived, Option.getD_some, hseq]
  cases lag with
  | false => exact add_sub_base n j
  | true => exact add_sub_before n j

/-- The distance of a message of the stream from the last delivery. -/
theorem Steady.dseqOut {j : Sequence} (hseq : m.toMsgBuf.seq = n + j) :
    deltaseqConst s.seqOut m.toMsgBuf = j := by
  rw [deltaseqConst_eq, hk, h.delivered, hseq]
  exact add_sub_base n j

/-- What a message of the stream adds to the loss count. -/
theorem Steady.loss (hne : deltaseqConst s.seqIn m.toMsgBuf ≠ 0) :
    s.loss m.toMsgBuf = UInt64.ofInt ((deltaseqConst s.seqIn m.toMsgBuf).toInt - 1) := by
  have hknown : (s.seqIn m.toMsgBuf.cid m.toMsgBuf.destport).isSome = true := by
    show (s.seqIn m.toMsgBuf.stream.1 m.toMsgBuf.stream.2).isSome = true
    rw [hk, h.arrived]
    rfl
  unfold MessageSorter.loss
  rw [if_pos ⟨hne, hknown⟩]

/-- The next message makes up for the lag. -/
theorem Steady.loss_next (hseq : m.toMsgBuf.seq = n + 1) :
    s.loss m.toMsgBuf = lagging lag := by
  have hin := h.dseqIn hk hseq
  cases lag with
  | false =>
      have hone : deltaseqConst s.seqIn m.toMsgBuf = 1 := hin
      rw [h.loss hk (by rw [hone]; decide), hone]
      rfl
  | true =>
      have htwo : deltaseqConst s.seqIn m.toMsgBuf = 2 := hin
      rw [h.loss hk (by rw [htwo]; decide), htwo]
      rfl

/-- The message behind it counts the gap as well. -/
theorem Steady.loss_second (hseq : m.toMsgBuf.seq = n + 2) :
    s.loss m.toMsgBuf = lagging lag + 1 := by
  have hin := h.dseqIn hk hseq
  cases lag with
  | false =>
      have htwo : deltaseqConst s.seqIn m.toMsgBuf = 2 := hin
      rw [h.loss hk (by rw [htwo]; decide), htwo]
      rfl
  | true =>
      have hthree : deltaseqConst s.seqIn m.toMsgBuf = 3 := hin
      rw [h.loss hk (by rw [hthree]; decide), hthree]
      rfl

/-- The next message is delivered at once. -/
theorem Steady.feed_next (hseq : m.toMsgBuf.seq = n + 1) :
    feed s m.toMsgBuf = ([m.toMsgBuf.invalidate], s.pass m.toMsgBuf) := by
  have hio : deltaseqConst s.seqOut m.toMsgBuf = 1 := h.dseqOut hk hseq
  have hgap : ¬ s.Gap m.toMsgBuf := by
    intro hgap
    exact absurd hgap.2 (by rw [hio]; decide)
  have hswap : ¬ s.Swap m.toMsgBuf := by
    intro hswap
    exact Bool.false_ne_true (h.free1.symm.trans hswap.2.1)
  rw [feed_eq_pass m.valid m.port h.free2 hgap hswap, MessageSorter.released, h.free1,
    if_neg Bool.false_ne_true]

/-- The message behind the next one is held back. -/
theorem Steady.feed_second (hseq : m.toMsgBuf.seq = n + 2) :
    feed s m.toMsgBuf = ([], s.hold m.toMsgBuf) := by
  refine feed_eq_hold m.valid m.port ⟨?_, ?_⟩
  · rw [h.dseqIn hk hseq]
    cases lag with
    | false => decide
    | true => decide
  · rw [h.dseqOut hk hseq]
    decide

end Step

/-! ## One block -/

section Block

variable {s : MessageSorter} {k : Stream} {n : Sequence} {lag : Bool} (h : Steady s k n lag)

include h

/-- The next message of the stream: delivered, and the stream is in step behind it. -/
theorem steady_inOrder {m : DataMsg} (hk : m.toMsgBuf.stream = k)
    (hseq : m.toMsgBuf.seq = n + 1) :
    (sendsrv s [m]).1.map MsgBuf.content = [m.toMsgBuf.content] ∧
      Steady (sendsrv s [m]).2 k (n + 1) false ∧
      Counted s (sendsrv s [m]).2 k.1 lag false 1 0 := by
  have hfeed := h.feed_next hk hseq
  have hstep : sorterStep s m = s.pass m.toMsgBuf := congrArg Prod.snd hfeed
  have hcid : k.1 = m.toMsgBuf.cid := congrArg Prod.fst hk.symm
  have hin := h.dseqIn hk hseq
  have hio := h.dseqOut hk hseq
  rw [sendsrv_one, hfeed, hstep]
  refine ⟨rfl, ⟨?_, ?_, MessageSorter.buf1_invalid_pass s _, ?_⟩, ?_, ?_, ?_, ?_⟩
  · -- the last arrival
    rw [MessageSorter.seqIn_pass, SenderMap.record_apply, if_pos hk.symm, hseq,
      if_neg Bool.false_ne_true]
  · -- the last delivery
    rw [MessageSorter.seqOut_pass, h.free1, if_neg Bool.false_ne_true, ← hk,
      SenderMap.last_record_self, hseq]
  · rw [← hstep]
    exact buf2_invalid_feed s m h.free2
  · rw [← hstep, received_sorterStep m h.free2, if_pos hcid]
    rfl
  · -- the loss count makes up for the lag
    rw [← hstep, lost_sorterStep m h.free2, if_pos hcid, h.loss_next hk hseq]
    exact UInt64.add_zero _
  · rw [MessageSorter.seqerrIn_pass, if_pos hcid, hin]
    cases lag with
    | false => rfl
    | true => rfl
  · rw [MessageSorter.seqerrOut_pass, h.free1, if_neg Bool.false_ne_true, UInt64.add_zero,
      SenderMap.outErr, if_pos hcid, hio]
    exact UInt64.add_zero _

/-- The message behind the next one is held back, and counted with the gap. -/
theorem steady_second {m : DataMsg} (hk : m.toMsgBuf.stream = k)
    (hseq : m.toMsgBuf.seq = n + 2) :
    (s.hold m.toMsgBuf).seqIn k.1 k.2 = some (n + 2) ∧
      (s.hold m.toMsgBuf).buf2.valid = false ∧
      ((s.hold m.toMsgBuf).getStat k.1).received = (s.getStat k.1).received + 1 ∧
      ((s.hold m.toMsgBuf).getStat k.1).lost = (s.getStat k.1).lost + lagging lag + 1 := by
  have hstep : sorterStep s m = s.hold m.toMsgBuf := congrArg Prod.snd (h.feed_second hk hseq)
  have hcid : k.1 = m.toMsgBuf.cid := congrArg Prod.fst hk.symm
  refine ⟨?_, h.free2, ?_, ?_⟩
  · rw [MessageSorter.seqIn_hold, SenderMap.record_apply, if_pos hk.symm, hseq]
  · rw [← hstep, received_sorterStep m h.free2, if_pos hcid]
  · rw [← hstep, lost_sorterStep m h.free2, if_pos hcid, h.loss_second hk hseq,
      ← UInt64.add_assoc]

section Swapped

variable {second first : DataMsg} (hk₂ : second.toMsgBuf.stream = k)
  (hseq₂ : second.toMsgBuf.seq = n + 2) (hk₁ : first.toMsgBuf.stream = k)
  (hseq₁ : first.toMsgBuf.seq = n + 1)

include hk₂ hseq₂ hk₁ hseq₁

/-- The distances of the next message while the one behind it is held back. -/
theorem steady_first_dseq :
    deltaseqConst (s.hold second.toMsgBuf).seqIn first.toMsgBuf = -1 ∧
      deltaseqConst (s.hold second.toMsgBuf).seqOut first.toMsgBuf = 1 := by
  obtain ⟨harrived, -, -, -⟩ := steady_second h hk₂ hseq₂
  constructor
  · rw [deltaseqConst_eq, hk₁, SenderMap.last, SequenceMap.at, harrived, Option.getD_some, hseq₁]
    exact add_sub_add n 1 2
  · exact h.dseqOut hk₁ hseq₁

/-- The next message is delivered, and releases the one behind it. -/
theorem steady_first_feed :
    feed (s.hold second.toMsgBuf) first.toMsgBuf
      = ([first.toMsgBuf.invalidate, (s.hold second.toMsgBuf).buf1.invalidate],
        (s.hold second.toMsgBuf).pass first.toMsgBuf) := by
  obtain ⟨hin, hio⟩ := steady_first_dseq h hk₂ hseq₂ hk₁ hseq₁
  let held := s.hold second.toMsgBuf
  have hfree : held.buf2.valid = false := h.free2
  -- neither a gap nor far enough behind for the comparison with the held message
  have hgap : ¬ held.Gap first.toMsgBuf := fun hgap => absurd hgap.2 (by rw [hio]; decide)
  have hswap : ¬ held.Swap first.toMsgBuf := by
    rintro ⟨hfar | hfar, -⟩
    · exact absurd hfar (by rw [hin]; decide)
    · exact absurd hfar.1 (by rw [hio]; decide)
  have hreleased : held.released = [held.buf1.invalidate] := if_pos second.valid
  rw [feed_eq_pass first.valid first.port hfree hgap hswap, hreleased]

/-- It takes the gap in the loss count back, and one more for its step back. -/
theorem steady_first_loss :
    (s.hold second.toMsgBuf).loss first.toMsgBuf = UInt64.ofInt (-2) := by
  obtain ⟨harrived, -, -, -⟩ := steady_second h hk₂ hseq₂
  obtain ⟨hin, -⟩ := steady_first_dseq h hk₂ hseq₂ hk₁ hseq₁
  unfold MessageSorter.loss
  rw [hin, if_pos]
  · rfl
  · refine ⟨by decide, ?_⟩
    show ((s.hold second.toMsgBuf).seqIn first.toMsgBuf.stream.1
      first.toMsgBuf.stream.2).isSome = true
    rw [hk₁, harrived]
    rfl

/-- Two swapped neighbours: the second is held back and delivered right behind the
first, and the last arrival lags behind the last delivery. -/
theorem steady_swapped :
    (sendsrv s [second, first]).1.map MsgBuf.content
        = [first.toMsgBuf.content, second.toMsgBuf.content] ∧
      Steady (sendsrv s [second, first]).2 k (n + 2) true ∧
      Counted s (sendsrv s [second, first]).2 k.1 lag true 2 1 := by
  obtain ⟨-, hfree, hreceived, hlost⟩ := steady_second h hk₂ hseq₂
  obtain ⟨hin, hio⟩ := steady_first_dseq h hk₂ hseq₂ hk₁ hseq₁
  have hfeed₂ := h.feed_second hk₂ hseq₂
  have hstep₂ : sorterStep s second = s.hold second.toMsgBuf := congrArg Prod.snd hfeed₂
  have hfeed₁ := steady_first_feed h hk₂ hseq₂ hk₁ hseq₁
  let held := s.hold second.toMsgBuf
  have hstep₁ : sorterStep held first = held.pass first.toMsgBuf := congrArg Prod.snd hfeed₁
  have hcid : k.1 = first.toMsgBuf.cid := congrArg Prod.fst hk₁.symm
  have hvalid : held.buf1.valid = true := second.valid
  have hheld : held.buf1.stream = k := hk₂
  rw [sendsrv_two, hfeed₂, hstep₂, hfeed₁, hstep₁]
  refine ⟨?_, ⟨?_, ?_, MessageSorter.buf1_invalid_pass held _, ?_⟩, ?_, ?_, ?_, ?_⟩
  · show [first.toMsgBuf.content, (s.buf1.copy second.toMsgBuf).content] = _
    rw [MsgBuf.content_copy _ _ second.offset]
  · rw [MessageSorter.seqIn_pass, SenderMap.record_apply, if_pos hk₁.symm, hseq₁, if_pos rfl]
    have hlag : n + 1 = n + 2 - 1 := by grind
    rw [hlag]
  · rw [MessageSorter.seqOut_pass, if_pos hvalid, SenderMap.last_record, if_pos hheld.symm]
    exact hseq₂
  · rw [← hstep₁]
    exact buf2_invalid_feed held first hfree
  · rw [← hstep₁, received_sorterStep first hfree, if_pos hcid, hreceived, UInt64.add_assoc]
    rfl
  · rw [← hstep₁, lost_sorterStep first hfree, if_pos hcid, hlost,
      steady_first_loss h hk₂ hseq₂ hk₁ hseq₁, UInt64.add_assoc, UInt64.add_assoc]
    show _ + lagging lag + (1 + (UInt64.ofInt (-2) + 1)) = _
    exact UInt64.add_zero _
  · rw [MessageSorter.seqerrIn_pass, if_pos hcid, hin, MessageSorter.seqerrIn_hold]
    rfl
  · -- delivered in sequence
    have hfirst : held.seqOut.outErr first.toMsgBuf k.1 = 0 := by
      unfold SenderMap.outErr
      rw [if_pos hcid, hio]
      rfl
    have hnext : held.buf1.seq = first.toMsgBuf.seq + 1 := by
      show second.toMsgBuf.seq = _
      rw [hseq₁, hseq₂]
      grind
    have hsecond := outErr_record_next held.seqOut (hheld.trans hk₁.symm) hnext k.1
    rw [MessageSorter.seqerrOut_pass, if_pos hvalid, hfirst, hsecond, UInt64.add_zero,
      UInt64.add_zero, MessageSorter.seqerrOut_hold]

end Swapped

/-- What a block delivers and counts. -/
theorem steady_block {b : Block} (hb : b.Follows k n) :
    (sendsrv s b.arrival).1.map MsgBuf.content
        = b.inSequence.map (fun m => m.toMsgBuf.content) ∧
      Steady (sendsrv s b.arrival).2 k (b.last n) b.isSwap ∧
      Counted s (sendsrv s b.arrival).2 k.1 lag b.isSwap b.arrival.length b.isSwap.toNat := by
  cases b with
  | inOrder m => exact steady_inOrder h hb.1 hb.2
  | swapped second first => exact steady_swapped h hb.1.1 hb.1.2 hb.2.1 hb.2.2

end Block

/-! ## Any sequence of blocks -/

/-- Blocks that carry on stream `k` behind the number `n`, one behind the other. -/
def Consecutive (k : Stream) : Sequence → List Block → Prop
  | _, [] => True
  | n, b :: bs => b.Follows k n ∧ Consecutive k (b.last n) bs

/-- The last number of the stream behind the blocks. -/
def lastOf (n : Sequence) (bs : List Block) : Sequence := bs.foldl Block.last n

/-- Whether the last arrival lags behind the blocks. -/
def lagOf (lag : Bool) (bs : List Block) : Bool := bs.foldl (fun _ b => b.isSwap) lag

/-- The messages of blocks in the order of their arrival. -/
def arrivals (bs : List Block) : List DataMsg := bs.flatMap Block.arrival

/-- The number of swapped pairs. -/
def swaps (bs : List Block) : ℕ := (bs.map fun b => b.isSwap.toNat).sum

theorem Consecutive.append {k : Stream} {n : Sequence} {bs bs' : List Block}
    (h : Consecutive k n (bs ++ bs')) : Consecutive k n bs := by
  induction bs generalizing n with
  | nil => trivial
  | cons b bs ih => exact ⟨h.1, ih h.2⟩

/-- Behind any sequence of blocks the stream is in step, and they are delivered in
the order of their numbers. -/
theorem steady_blocks {s : MessageSorter} {k : Stream} {n : Sequence} {lag : Bool}
    (h : Steady s k n lag) {bs : List Block} (hbs : Consecutive k n bs) :
    (sendsrv s (arrivals bs)).1.map MsgBuf.content
        = (bs.flatMap Block.inSequence).map (fun m => m.toMsgBuf.content) ∧
      Steady (sendsrv s (arrivals bs)).2 k (lastOf n bs) (lagOf lag bs) ∧
      Counted s (sendsrv s (arrivals bs)).2 k.1 lag (lagOf lag bs) (arrivals bs).length
        (swaps bs) := by
  induction bs generalizing s n lag with
  | nil => exact ⟨rfl, h, Counted.refl s k.1 lag⟩
  | cons b bs ih =>
      -- the stream is in step behind the block, and the others start from there
      obtain ⟨hlist, hsteady, hcount⟩ := steady_block h hbs.1
      obtain ⟨hlist', hsteady', hcount'⟩ := ih hsteady hbs.2
      have hsplit : arrivals (b :: bs) = b.arrival ++ arrivals bs := List.flatMap_cons ..
      rw [hsplit, sendsrv_append, List.length_append]
      refine ⟨?_, hsteady', hcount.trans hcount'⟩
      rw [List.map_append, hlist, hlist', List.flatMap_cons, List.map_append]

/-- The numbers `n`, `n + 1`, and so on. -/
def numbersFrom : Sequence → ℕ → List Sequence
  | _, 0 => []
  | n, len + 1 => n :: numbersFrom (n + 1) len

/-- In the order of their numbers, the messages of the blocks have no gap. -/
theorem numbers_inSequence {k : Stream} {n : Sequence} {bs : List Block}
    (h : Consecutive k n bs) :
    (bs.flatMap Block.inSequence).map (fun m => m.toMsgBuf.seq)
      = numbersFrom (n + 1) (arrivals bs).length := by
  induction bs generalizing n with
  | nil => rfl
  | cons b bs ih =>
      have hsplit : arrivals (b :: bs) = b.arrival ++ arrivals bs := List.flatMap_cons ..
      rw [hsplit, List.flatMap_cons, List.map_append, ih h.2, List.length_append]
      cases b with
      | inOrder m =>
          show [m.toMsgBuf.seq] ++ numbersFrom (n + 1 + 1) (arrivals bs).length = _
          rw [h.1.2, Nat.add_comm]
          rfl
      | swapped second first =>
          have hnext : n + 2 = n + 1 + 1 := by grind
          show [first.toMsgBuf.seq, second.toMsgBuf.seq]
            ++ numbersFrom (n + 2 + 1) (arrivals bs).length = _
          rw [h.1.1.2, h.1.2.2, Nat.add_comm, hnext]
          rfl

theorem lagOf_inOrder (lag : Bool) (bs : List Block) (m : DataMsg) :
    lagOf lag (bs ++ [Block.inOrder m]) = false := by
  rw [lagOf, List.foldl_concat]
  rfl

/-- From a stream in step, any arrangement of next messages and swapped pairs is
delivered in consecutive order.  Every swap is counted once in the input and never
in the output, nothing is held back behind a block, and behind an in-order message
the loss count is what it was. -/
theorem swap_repair (s : MessageSorter) (k : Stream) (a : Sequence)
    (hin : s.seqIn k.1 k.2 = some a) (hout : s.seqOut k.1 k.2 = some a)
    (hbuf1 : s.buf1.valid = false) (hbuf2 : s.buf2.valid = false) (bs : List Block)
    (hbs : Consecutive k a bs) :
    (sendsrv s (arrivals bs)).1.map MsgBuf.content
        = (bs.flatMap Block.inSequence).map (fun m => m.toMsgBuf.content) ∧
      (sendsrv s (arrivals bs)).1.map MsgBuf.seq
        = numbersFrom (a + 1) (arrivals bs).length ∧
      ((sendsrv s (arrivals bs)).2.getStat k.1).seqerrOut = (s.getStat k.1).seqerrOut ∧
      ((sendsrv s (arrivals bs)).2.getStat k.1).seqerrIn
        = (s.getStat k.1).seqerrIn + UInt64.ofNat (swaps bs) ∧
      (∀ done rest, bs = done ++ rest →
        (sendsrv s (arrivals done)).2.buf1.valid = false ∧
          (sendsrv s (arrivals done)).2.buf2.valid = false) ∧
      (∀ bs' m, bs = bs' ++ [Block.inOrder m] →
        ((sendsrv s (arrivals bs)).2.getStat k.1).lost = (s.getStat k.1).lost) := by
  have hsteady : Steady s k a false := by
    refine ⟨hin, ?_, hbuf1, hbuf2⟩
    rw [SenderMap.last, SequenceMap.at, hout, Option.getD_some]
  obtain ⟨hlist, -, hcount⟩ := steady_blocks hsteady hbs
  refine ⟨hlist, ?_, hcount.seqerrOut, hcount.seqerrIn, ?_, ?_⟩
  · -- the numbers are part of the contents
    have hnumbers := congrArg (List.map fun x : Content => x.2.2.1) hlist
    rw [List.map_map, List.map_map] at hnumbers
    rw [← numbers_inSequence hbs]
    exact hnumbers
  · rintro done rest rfl
    obtain ⟨-, hdone, -⟩ := steady_blocks hsteady hbs.append
    exact ⟨hdone.free1, hdone.free2⟩
  · rintro bs' m rfl
    have hlost := hcount.lost
    rw [lagOf_inOrder] at hlost
    exact (UInt64.add_zero _).symm.trans (hlost.trans (UInt64.add_zero _))

/-- A sorter whose stream `(1, 1234)` has reached the number `a`. -/
def steadyAt (a : Sequence) : MessageSorter :=
  { MessageSorter.fresh Endpoint.cleared Endpoint.cleared with
    seqIn := fun cid port => if cid = 1 ∧ port = 1234 then some a else none
    seqOut := fun cid port => if cid = 1 ∧ port = 1234 then some a else none }

/-- A swapped pair across the wrap and the message behind it. -/
theorem swap_repair_across_wrap :
    (sendsrv (steadyAt 32766) [emptyMsg 1 1234 (-32768) (by decide),
      emptyMsg 1 1234 32767 (by decide), emptyMsg 1 1234 (-32767) (by decide)]).1.map MsgBuf.seq
        = [32767, -32768, -32767] :=
  (swap_repair (steadyAt 32766) (1, 1234) 32766 rfl rfl rfl rfl
    [.swapped (emptyMsg 1 1234 (-32768) (by decide)) (emptyMsg 1 1234 32767 (by decide)),
      .inOrder (emptyMsg 1 1234 (-32767) (by decide))]
    ⟨⟨⟨rfl, by decide⟩, rfl, by decide⟩, ⟨rfl, by decide⟩, trivial⟩).2.1

/-! ## Messages in order -/

/-- Messages of stream `k` with the numbers `n`, `n + 1`, and so on. -/
def InOrder (k : Stream) (n : Sequence) (ms : List DataMsg) : Prop :=
  (∀ m ∈ ms, m.toMsgBuf.stream = k) ∧
    ms.map (fun m => m.toMsgBuf.seq) = numbersFrom n ms.length

theorem InOrder.cons {k : Stream} {n : Sequence} {m : DataMsg} {ms : List DataMsg}
    (h : InOrder k n (m :: ms)) :
    (m.toMsgBuf.stream = k ∧ m.toMsgBuf.seq = n) ∧ InOrder k (n + 1) ms := by
  obtain ⟨hstream, hseq⟩ := h
  obtain ⟨hfirst, hrest⟩ := List.cons.inj hseq
  exact ⟨⟨hstream m List.mem_cons_self, hfirst⟩,
    fun x hx => hstream x (List.mem_cons_of_mem _ hx), hrest⟩

/-- Messages in order are blocks of one message each. -/
theorem InOrder.blocks {k : Stream} {n : Sequence} {ms : List DataMsg}
    (h : InOrder k (n + 1) ms) :
    Consecutive k n (ms.map Block.inOrder) ∧ arrivals (ms.map Block.inOrder) = ms ∧
      (ms.map Block.inOrder).flatMap Block.inSequence = ms ∧
      lagOf false (ms.map Block.inOrder) = false ∧ swaps (ms.map Block.inOrder) = 0 := by
  induction ms generalizing n with
  | nil => exact ⟨trivial, rfl, rfl, rfl, rfl⟩
  | cons m ms ih =>
      obtain ⟨hfirst, hrest⟩ := h.cons
      obtain ⟨hcons, harr, hflat, hlag, hswaps⟩ := ih hrest
      refine ⟨⟨hfirst, hcons⟩, ?_, ?_, hlag, ?_⟩
      · exact congrArg (m :: ·) harr
      · exact congrArg (m :: ·) hflat
      · show 0 + swaps (ms.map Block.inOrder) = 0
        rw [hswaps]

/-- Behind a stream in step, messages in order go straight through. -/
theorem steady_run {s : MessageSorter} {k : Stream} {n : Sequence} (h : Steady s k n false)
    {ms : List DataMsg} (hms : InOrder k (n + 1) ms) :
    (sendsrv s ms).1.map MsgBuf.content = ms.map (fun m => m.toMsgBuf.content) ∧
      Counted s (sendsrv s ms).2 k.1 false false ms.length 0 := by
  obtain ⟨hcons, harr, hflat, hlag, hswaps⟩ := hms.blocks
  obtain ⟨hlist, -, hcount⟩ := steady_blocks h hcons
  rw [harr, hflat] at hlist
  rw [harr, hlag, hswaps] at hcount
  exact ⟨hlist, hcount⟩

/-! ## Joining a running stream -/

section Join

variable (sender1 sender2 : Endpoint) {k : Stream} {a : Sequence} {m : DataMsg}
  (hk : m.toMsgBuf.stream = k) (hseq : m.toMsgBuf.seq = a)

include hseq in
/-- On a fresh sorter the distances of a first message are its number. -/
theorem fresh_dseq :
    deltaseqConst (MessageSorter.fresh sender1 sender2).seqIn m.toMsgBuf = a ∧
      deltaseqConst (MessageSorter.fresh sender1 sender2).seqOut m.toMsgBuf = a := by
  have hzero : a - 0 = a := Int16.sub_zero a
  rw [← hseq] at hzero ⊢
  exact ⟨hzero, hzero⟩

include hk hseq

/-- A first number up to `1` is delivered at once, and counted as an error if it is
negative. -/
theorem fresh_pass (ha : ¬ 1 < a) :
    feed (MessageSorter.fresh sender1 sender2) m.toMsgBuf
        = ([m.toMsgBuf.invalidate], (MessageSorter.fresh sender1 sender2).pass m.toMsgBuf) ∧
      Steady ((MessageSorter.fresh sender1 sender2).pass m.toMsgBuf) k a false ∧
      ((MessageSorter.fresh sender1 sender2).pass m.toMsgBuf).getStat k.1
        = ⟨1, 0, backward a, backward a⟩ := by
  let s := MessageSorter.fresh sender1 sender2
  obtain ⟨hin, hio⟩ := fresh_dseq sender1 sender2 hseq
  have hcid : k.1 = m.toMsgBuf.cid := congrArg Prod.fst hk.symm
  have hgap : ¬ s.Gap m.toMsgBuf := fun hgap => ha (hin ▸ hgap.1)
  have hswap : ¬ s.Swap m.toMsgBuf := fun hswap => Bool.false_ne_true hswap.2.1
  have hfeed : feed s m.toMsgBuf = ([m.toMsgBuf.invalidate], s.pass m.toMsgBuf) :=
    feed_eq_pass m.valid m.port rfl hgap hswap
  have hstep : sorterStep s m = s.pass m.toMsgBuf := congrArg Prod.snd hfeed
  have hreceived : ((s.pass m.toMsgBuf).getStat k.1).received = 1 := by
    rw [← hstep, received_sorterStep m rfl, if_pos hcid]
    rfl
  have hlost : ((s.pass m.toMsgBuf).getStat k.1).lost = 0 := by
    rw [← hstep, lost_sorterStep m rfl, if_pos hcid]
    have hloss : s.loss m.toMsgBuf = 0 := if_neg fun h => Bool.false_ne_true h.2
    rw [hloss]
    rfl
  have hseqerrIn : ((s.pass m.toMsgBuf).getStat k.1).seqerrIn = backward a := by
    rw [MessageSorter.seqerrIn_pass, if_pos hcid, hin]
    exact UInt64.zero_add _
  have hseqerrOut : ((s.pass m.toMsgBuf).getStat k.1).seqerrOut = backward a := by
    rw [MessageSorter.seqerrOut_pass, SenderMap.outErr, if_pos hcid, hio]
    exact (UInt64.add_zero _).trans (UInt64.zero_add _)
  refine ⟨hfeed, ⟨?_, ?_, MessageSorter.buf1_invalid_pass s _, ?_⟩, ?_⟩
  · rw [MessageSorter.seqIn_pass, SenderMap.record_apply, if_pos hk.symm, hseq]
    rfl
  · have hfree : ¬ s.buf1.valid = true := Bool.false_ne_true
    rw [MessageSorter.seqOut_pass, if_neg hfree, ← hk, SenderMap.last_record_self, hseq]
  · rw [← hstep]
    exact buf2_invalid_feed s m rfl
  · exact MessageStat.eq_mk hreceived hlost hseqerrIn hseqerrOut

/-- A first number above `1` is held back. -/
theorem fresh_hold (ha : 1 < a) :
    feed (MessageSorter.fresh sender1 sender2) m.toMsgBuf
        = ([], (MessageSorter.fresh sender1 sender2).hold m.toMsgBuf) ∧
      ((MessageSorter.fresh sender1 sender2).hold m.toMsgBuf).seqIn k.1 k.2 = some a ∧
      ((MessageSorter.fresh sender1 sender2).hold m.toMsgBuf).seqOut.last k = 0 ∧
      ((MessageSorter.fresh sender1 sender2).hold m.toMsgBuf).getStat k.1 = ⟨1, 0, 0, 0⟩ := by
  let s := MessageSorter.fresh sender1 sender2
  obtain ⟨hin, hio⟩ := fresh_dseq sender1 sender2 hseq
  have hcid : k.1 = m.toMsgBuf.cid := congrArg Prod.fst hk.symm
  have hgap : s.Gap m.toMsgBuf := by
    unfold MessageSorter.Gap
    rw [hin, hio]
    exact ⟨ha, ha⟩
  have hfeed : feed s m.toMsgBuf = ([], s.hold m.toMsgBuf) := feed_eq_hold m.valid m.port hgap
  have hstep : sorterStep s m = s.hold m.toMsgBuf := congrArg Prod.snd hfeed
  refine ⟨hfeed, ?_, rfl, MessageStat.eq_mk ?_ ?_ ?_ ?_⟩
  · rw [MessageSorter.seqIn_hold, SenderMap.record_apply, if_pos hk.symm, hseq]
  · rw [← hstep, received_sorterStep m rfl, if_pos hcid]
    rfl
  · rw [← hstep, lost_sorterStep m rfl, if_pos hcid]
    have hloss : s.loss m.toMsgBuf = 0 := if_neg fun h => Bool.false_ne_true h.2
    rw [hloss]
    rfl
  · exact MessageSorter.seqerrIn_hold s m.toMsgBuf k.1
  · exact MessageSorter.seqerrOut_hold s m.toMsgBuf k.1

/-- The distances of the second message behind a first one that is held back. -/
theorem fresh_second_dseq {m' : DataMsg} (hk' : m'.toMsgBuf.stream = k)
    (hseq' : m'.toMsgBuf.seq = a + 1) (ha : 1 < a) :
    deltaseqConst ((MessageSorter.fresh sender1 sender2).hold m.toMsgBuf).seqIn m'.toMsgBuf = 1 ∧
      deltaseqConst ((MessageSorter.fresh sender1 sender2).hold m.toMsgBuf).seqOut m'.toMsgBuf
        = a + 1 := by
  obtain ⟨-, harrived, hdelivered, -⟩ := fresh_hold sender1 sender2 hk hseq ha
  constructor
  · rw [deltaseqConst_eq, hk', SenderMap.last, SequenceMap.at, harrived, Option.getD_some, hseq']
    exact add_sub_base a 1
  · rw [deltaseqConst_eq, hk', hdelivered, hseq']
    exact Int16.sub_zero (a + 1)

/-- Where the held number and the next compare as they should, the second message
releases the first one in front of itself. -/
theorem fresh_second_feed {m' : DataMsg} (hk' : m'.toMsgBuf.stream = k)
    (hseq' : m'.toMsgBuf.seq = a + 1) (ha : 1 < a) (hmax : a < 32767) :
    feed ((MessageSorter.fresh sender1 sender2).hold m.toMsgBuf) m'.toMsgBuf
      = ([((MessageSorter.fresh sender1 sender2).hold m.toMsgBuf).buf1.invalidate,
          (((MessageSorter.fresh sender1 sender2).hold m.toMsgBuf).buf2.copy
            m'.toMsgBuf).invalidate],
        ((MessageSorter.fresh sender1 sender2).hold m.toMsgBuf).swap m'.toMsgBuf) := by
  let held := (MessageSorter.fresh sender1 sender2).hold m.toMsgBuf
  obtain ⟨hin, hio⟩ := fresh_second_dseq sender1 sender2 hk hseq hk' hseq' ha
  have hheld : held.buf1.stream = k := hk
  have hnext : 1 < a + 1 := by grind
  have hgap : ¬ held.Gap m'.toMsgBuf := fun hgap => absurd hgap.1 (by rw [hin]; decide)
  have hswap : held.Swap m'.toMsgBuf := by
    refine ⟨Or.inr ⟨by rw [hio]; exact hnext, by rw [hin]; decide⟩, m.valid, ?_, ?_, ?_⟩
    · exact congrArg Prod.fst (hheld.trans hk'.symm)
    · exact congrArg Prod.snd (hheld.trans hk'.symm)
    · show m.toMsgBuf.seq < m'.toMsgBuf.seq
      rw [hseq, hseq']
      grind
  exact feed_eq_swap m'.valid m'.port hgap hswap

/-- Then both come out in sequence, and nothing is counted but the two arrivals. -/
theorem fresh_swap {m' : DataMsg} (hk' : m'.toMsgBuf.stream = k)
    (hseq' : m'.toMsgBuf.seq = a + 1) (ha : 1 < a) (hmax : a < 32767) :
    (sendsrv (MessageSorter.fresh sender1 sender2) [m, m']).1.map MsgBuf.content
        = [m.toMsgBuf.content, m'.toMsgBuf.content] ∧
      Steady (sendsrv (MessageSorter.fresh sender1 sender2) [m, m']).2 k (a + 1) false ∧
      (sendsrv (MessageSorter.fresh sender1 sender2) [m, m']).2.getStat k.1 = ⟨2, 0, 0, 0⟩ := by
  let s := MessageSorter.fresh sender1 sender2
  obtain ⟨hfeed, -, hdelivered, hstat⟩ := fresh_hold sender1 sender2 hk hseq ha
  obtain ⟨hin, -⟩ := fresh_second_dseq sender1 sender2 hk hseq hk' hseq' ha
  have hstep : sorterStep s m = s.hold m.toMsgBuf := congrArg Prod.snd hfeed
  have hfeed' := fresh_second_feed sender1 sender2 hk hseq hk' hseq' ha hmax
  let held := s.hold m.toMsgBuf
  have hstep' : sorterStep held m' = held.swap m'.toMsgBuf := congrArg Prod.snd hfeed'
  have hheld : held.buf1.stream = k := hk
  have hcid : k.1 = m'.toMsgBuf.cid := congrArg Prod.fst hk'.symm
  rw [sendsrv_two, hfeed, hstep, hfeed', hstep']
  refine ⟨?_, ⟨?_, ?_, rfl, rfl⟩, MessageStat.eq_mk ?_ ?_ ?_ ?_⟩
  · show [(s.buf1.copy m.toMsgBuf).content, (held.buf2.copy m'.toMsgBuf).content] = _
    rw [MsgBuf.content_copy _ _ m.offset, MsgBuf.content_copy _ _ m'.offset]
  · rw [MessageSorter.seqIn_swap, SenderMap.record_apply, if_pos hk'.symm, hseq']
    rfl
  · rw [MessageSorter.seqOut_swap, ← hk', SenderMap.last_record_self, hseq']
  · rw [← hstep', received_sorterStep m' rfl, if_pos hcid, hstat]
    rfl
  · rw [← hstep', lost_sorterStep m' rfl, if_pos hcid, hstat]
    have hloss : held.loss m'.toMsgBuf = 0 := by
      unfold MessageSorter.loss
      rw [hin]
      split_ifs
      · rfl
      · rfl
    rw [hloss]
    rfl
  · rw [MessageSorter.seqerrIn_swap, if_pos hcid, hin, hstat]
    rfl
  · -- forwards from `0` to the held number, and from there to the next
    have hfirst : held.seqOut.outErr held.buf1 k.1 = 0 := by
      have hdiff : deltaseqConst held.seqOut held.buf1 = a := by
        rw [deltaseqConst_eq, hheld, hdelivered]
        show m.toMsgBuf.seq - 0 = a
        rw [hseq]
        exact Int16.sub_zero a
      unfold SenderMap.outErr backward
      rw [hdiff, if_neg (by grind : ¬ a < 0), ite_self]
    have hafter : m'.toMsgBuf.seq = held.buf1.seq + 1 := by
      show _ = m.toMsgBuf.seq + 1
      rw [hseq, hseq']
    have hsecond := outErr_record_next held.seqOut (hk'.trans hheld.symm) hafter k.1
    rw [MessageSorter.seqerrOut_swap, hstat, hfirst, hsecond]
    rfl

/-- The largest number and the smallest compare the other way round: the second
message is delivered in front of the first one. -/
theorem fresh_wrap {m' : DataMsg} (hk' : m'.toMsgBuf.stream = k)
    (hseq' : m'.toMsgBuf.seq = a + 1) (hmax : a = 32767) :
    (sendsrv (MessageSorter.fresh sender1 sender2) [m, m']).1.map MsgBuf.seq
      = [m'.toMsgBuf.seq, m.toMsgBuf.seq] := by
  let s := MessageSorter.fresh sender1 sender2
  have ha : 1 < a := by rw [hmax]; decide
  obtain ⟨hfeed, -⟩ := fresh_hold sender1 sender2 hk hseq ha
  obtain ⟨hin, hio⟩ := fresh_second_dseq sender1 sender2 hk hseq hk' hseq' ha
  have hstep : sorterStep s m = s.hold m.toMsgBuf := congrArg Prod.snd hfeed
  let held := s.hold m.toMsgBuf
  have hvalid : held.buf1.valid = true := m.valid
  have hgap : ¬ held.Gap m'.toMsgBuf := fun hgap => absurd hgap.1 (by rw [hin]; decide)
  have hswap : ¬ held.Swap m'.toMsgBuf := by
    rintro ⟨hfar | hfar, -⟩
    · exact absurd hfar (by rw [hin]; decide)
    · exact absurd hfar.1 (by rw [hio, hmax]; decide)
  have hreleased : held.released = [held.buf1.invalidate] := if_pos hvalid
  have hfree : held.buf2.valid = false := rfl
  rw [sendsrv_two, hfeed, hstep, feed_eq_pass m'.valid m'.port hfree hgap hswap, hreleased]
  rfl

end Join

/-- The messages come out as they came in, all counted as received, none as lost or
out of order. -/
structure Joined (r : List MsgBuf × MessageSorter) (c : StageDeviceId) (ms : List DataMsg) :
    Prop where
  delivered : r.1.map MsgBuf.content = ms.map fun m => m.toMsgBuf.content
  received : (r.2.getStat c).received.toNat = ms.length
  lost : (r.2.getStat c).lost = 0
  seqerrIn : (r.2.getStat c).seqerrIn = 0
  seqerrOut : (r.2.getStat c).seqerrOut = 0

/-- In order behind a start that got into step. -/
theorem joined_of_steady {s : MessageSorter} {k : Stream} {n : Sequence} (start rest : List DataMsg)
    (hlist : (sendsrv s start).1.map MsgBuf.content = start.map fun m => m.toMsgBuf.content)
    (hsteady : Steady (sendsrv s start).2 k n false)
    (hstat : (sendsrv s start).2.getStat k.1 = ⟨UInt64.ofNat start.length, 0, 0, 0⟩)
    (hrest : InOrder k (n + 1) rest) (hlen : (start ++ rest).length < 2 ^ 64) :
    Joined (sendsrv s (start ++ rest)) k.1 (start ++ rest) := by
  -- from the start on nothing is held, and the counters only receive
  obtain ⟨hlist', hcount⟩ := steady_run hsteady hrest
  rw [sendsrv_append]
  refine ⟨?_, ?_, ?_, ?_, ?_⟩
  · rw [List.map_append, hlist, hlist', List.map_append]
  · rw [hcount.received, hstat, ← UInt64.ofNat_add, ← List.length_append, UInt64.toNat_ofNat',
      Nat.mod_eq_of_lt hlen]
  · have hlost := hcount.lost
    rw [hstat] at hlost
    exact (UInt64.add_zero _).symm.trans hlost
  · rw [hcount.seqerrIn, hstat]
    rfl
  · rw [hcount.seqerrOut, hstat]

theorem InOrder.two {k : Stream} {a : Sequence} {ms : List DataMsg} (h : InOrder k a ms)
    (hlen : 2 ≤ ms.length) :
    ∃ m m' rest, ms = m :: m' :: rest ∧ (m.toMsgBuf.stream = k ∧ m.toMsgBuf.seq = a) ∧
      (m'.toMsgBuf.stream = k ∧ m'.toMsgBuf.seq = a + 1) ∧ InOrder k (a + 1 + 1) rest := by
  rcases ms with - | ⟨m, - | ⟨m', rest⟩⟩
  · exact absurd hlen (by decide)
  · exact absurd hlen (by show ¬ 2 ≤ 1; decide)
  · obtain ⟨hfirst, htail⟩ := h.cons
    obtain ⟨hsecond, hrest⟩ := htail.cons
    exact ⟨m, m', rest, rfl, hfirst, hsecond, hrest⟩

/-- A stream that starts with a negative number has an input error from then on. -/
theorem not_joined_of_negative (sender1 sender2 : Endpoint) {k : Stream} {a : Sequence}
    {m : DataMsg} {rest : List DataMsg} (h : InOrder k a (m :: rest)) (ha : a < 0) :
    ¬ Joined (sendsrv (MessageSorter.fresh sender1 sender2) (m :: rest)) k.1 (m :: rest) := by
  obtain ⟨⟨hk, hseq⟩, htail⟩ := h.cons
  let s := MessageSorter.fresh sender1 sender2
  obtain ⟨hfeed, hsteady, hstat⟩ := fresh_pass sender1 sender2 hk hseq (by grind)
  have hstep : sorterStep s m = s.pass m.toMsgBuf := congrArg Prod.snd hfeed
  have hcount := (steady_run hsteady htail).2
  intro hjoined
  have hfinal := hjoined.seqerrIn
  have hsplit : m :: rest = [m] ++ rest := rfl
  rw [hsplit, sendsrv_append, sendsrv_one, hstep, hcount.seqerrIn, hstat, backward,
    if_pos ha] at hfinal
  exact absurd hfinal (by decide)

/-- A stream that starts with the largest number is delivered with its second message
in front. -/
theorem not_joined_of_wrap (sender1 sender2 : Endpoint) {k : Stream} {a : Sequence}
    {m m' : DataMsg} {rest : List DataMsg} (h : InOrder k a (m :: m' :: rest))
    (hmax : a = 32767) :
    ¬ Joined (sendsrv (MessageSorter.fresh sender1 sender2) (m :: m' :: rest)) k.1
      (m :: m' :: rest) := by
  obtain ⟨⟨hk, hseq⟩, htail⟩ := h.cons
  obtain ⟨⟨hk', hseq'⟩, -⟩ := htail.cons
  have hwrap := fresh_wrap sender1 sender2 hk hseq hk' hseq' hmax
  intro hjoined
  have hnumbers := congrArg (List.map fun x : Content => x.2.2.1) hjoined.delivered
  rw [List.map_map, List.map_map] at hnumbers
  have hsplit : m :: m' :: rest = [m, m'] ++ rest := rfl
  rw [hsplit, sendsrv_append, List.map_append] at hnumbers
  have hhead : [m'.toMsgBuf.seq, m.toMsgBuf.seq] ++ _ = m.toMsgBuf.seq :: _ :=
    (congrArg (· ++ _) hwrap.symm).trans hnumbers
  have hfirst : m'.toMsgBuf.seq = m.toMsgBuf.seq := (List.cons.inj hhead).1
  rw [hseq, hseq', hmax] at hfirst
  exact absurd hfirst (by decide)

/-- A first message with the number `0` or `1` is delivered at once. -/
theorem joined_of_pass (sender1 sender2 : Endpoint) {k : Stream} {a : Sequence}
    {m : DataMsg} {rest : List DataMsg} (h : InOrder k a (m :: rest)) (hnonneg : 0 ≤ a)
    (ha : ¬ 1 < a) (hbound : (m :: rest).length < 2 ^ 64) :
    Joined (sendsrv (MessageSorter.fresh sender1 sender2) (m :: rest)) k.1 (m :: rest) := by
  obtain ⟨⟨hk, hseq⟩, htail⟩ := h.cons
  let s := MessageSorter.fresh sender1 sender2
  obtain ⟨hfeed, hsteady, hstat⟩ := fresh_pass sender1 sender2 hk hseq ha
  have hstep : sorterStep s m = s.pass m.toMsgBuf := congrArg Prod.snd hfeed
  have hone : sendsrv s [m] = ([m.toMsgBuf.invalidate], s.pass m.toMsgBuf) := by
    rw [sendsrv_one, hfeed, hstep]
  have hzero : backward a = 0 := if_neg (Int16.not_lt.mpr hnonneg)
  have hsteady' : Steady (sendsrv s [m]).2 k a false := by
    rw [hone]
    exact hsteady
  refine joined_of_steady [m] rest ?_ hsteady' ?_ htail hbound
  · rw [hone]
    rfl
  · rw [hone, hstat, hzero]
    rfl

/-- A fresh sorter gets into step with a stream, without a message out of place or a
wrong count, exactly from the first numbers `0` to `32766`. -/
theorem join_iff (sender1 sender2 : Endpoint) (k : Stream) (a : Sequence) (ms : List DataMsg)
    (hms : InOrder k a ms) (hlen : 2 ≤ ms.length) :
    Joined (sendsrv (MessageSorter.fresh sender1 sender2) ms) k.1 ms ↔
      0 ≤ a ∧ a < 32767 ∧ ms.length < 2 ^ 64 := by
  obtain ⟨m, m', rest, rfl, ⟨hk, hseq⟩, ⟨hk', hseq'⟩, hrest⟩ := hms.two hlen
  constructor
  · intro hjoined
    refine ⟨?_, ?_, ?_⟩
    · by_contra hneg
      exact not_joined_of_negative sender1 sender2 hms (Int16.not_le.mp hneg) hjoined
    · by_contra hmax
      -- the one number that is left
      have hmax' : a = 32767 := by grind
      exact not_joined_of_wrap sender1 sender2 hms hmax' hjoined
    · rw [← hjoined.received]
      exact UInt64.toNat_lt _
  · rintro ⟨hnonneg, hmax, hbound⟩
    by_cases ha : 1 < a
    · -- held back, then released by the second message
      obtain ⟨hlist, hsteady, hstat⟩ := fresh_swap sender1 sender2 hk hseq hk' hseq' ha hmax
      exact joined_of_steady [m, m'] rest hlist hsteady hstat hrest hbound
    · exact joined_of_pass sender1 sender2 hms hnonneg ha hbound

/-- The first numbers `32766` and `32767` of a stream that is joined close to the
wrap. -/
theorem join_below_wrap :
    Joined (sendsrv (MessageSorter.fresh Endpoint.cleared Endpoint.cleared)
        [emptyMsg 1 1234 32766 (by decide), emptyMsg 1 1234 32767 (by decide)]) 1
      [emptyMsg 1 1234 32766 (by decide), emptyMsg 1 1234 32767 (by decide)] :=
  (join_iff Endpoint.cleared Endpoint.cleared (1, 1234) 32766
    [emptyMsg 1 1234 32766 (by decide), emptyMsg 1 1234 32767 (by decide)]
    ⟨by decide, by decide⟩ (by decide)).mpr (by decide)

/-- A stream joined at the number `-5` counts an input error. -/
theorem join_negative :
    ¬ Joined (sendsrv (MessageSorter.fresh Endpoint.cleared Endpoint.cleared)
        [emptyMsg 1 1234 (-5) (by decide), emptyMsg 1 1234 (-4) (by decide)]) 1
      [emptyMsg 1 1234 (-5) (by decide), emptyMsg 1 1234 (-4) (by decide)] :=
  not_joined_of_negative (k := (1, 1234)) (a := -5) Endpoint.cleared Endpoint.cleared
    ⟨by decide, by decide⟩ (by decide)

end Libov
