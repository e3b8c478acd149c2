/-
# Received and delivered messages

A message that is held back is copied field by field into a buffer, and delivered
from there in a later turn.  Here the received messages are followed next to the loop
of `sendsrv` (`Traced`), so that a delivered message can be compared with the message
it was received as.

* `copied_step` : what the first buffer holds is the traced message, the sender apart;
* `delivered_content` : every delivered message has the content that was received.
-/
import Libov.SendsrvLoop

open Runs

namespace Libov

/-! ## The traced loop -/

/-- The loop, and the message that the first buffer was last filled from. -/
structure Traced where
  loop : SendsrvLoop
  original : MsgBuf

section Trace

variable (secret : Secret) (x : Traced) (rx : Received)

/-- A turn of the loop; a message that is held back becomes the traced one. -/
def tracedStep : Traced :=
  { loop := loopStep secret x.loop rx
    original := if HeldBack secret x.loop rx then incoming secret x.loop rx else x.original }

/-- What was received of the messages that the turn delivers, in their order, each with
whether it has been held in a buffer. -/
def received : List (MsgBuf × Bool) :=
  let m := incoming secret x.loop rx
  if ¬ Accepted secret x.loop rx ∨ HeldBack secret x.loop rx then []
  else if maxSpecialPort < m.destport ∧ x.loop.sorter.Swap m then [(x.original, true), (m, true)]
  else (m, false) :: if x.loop.sorter.buf1.valid then [(x.original, true)] else []

/-! ## What is in the buffers -/

/-- The addresses of the buffers are the ones they were constructed with, and what the
first buffer holds is otherwise the traced message. -/
structure Copied (sender1 sender2 : Endpoint) (x : Traced) : Prop where
  free2 : x.loop.sorter.buf2.valid = false
  sender1 : x.loop.sorter.buf1.sender = sender1
  sender2 : x.loop.sorter.buf2.sender = sender2
  content : x.loop.sorter.buf1.valid = true → x.loop.sorter.buf1.content = x.original.content
  size : x.loop.sorter.buf1.valid = true → x.loop.sorter.buf1.size = x.original.size

variable {x}

/-- A turn that leaves nothing in the first buffer keeps the addresses. -/
theorem Copied.emptied {sender1 sender2 : Endpoint} {s : MessageSorter}
    (hs : (tracedStep secret x rx).loop.sorter = s) (h1 : s.buf1.sender = sender1)
    (h2 : s.buf2.sender = sender2) (hvalid : s.buf1.valid = false) (hfree : s.buf2.valid = false) :
    Copied sender1 sender2 (tracedStep secret x rx) := by
  refine ⟨by rw [hs]; exact hfree, by rw [hs]; exact h1, by rw [hs]; exact h2, ?_, ?_⟩
  · intro hv
    rw [hs, hvalid] at hv
    exact absurd hv Bool.false_ne_true
  · intro hv
    rw [hs, hvalid] at hv
    exact absurd hv Bool.false_ne_true

/-- A turn of the loop keeps the addresses of both buffers, and what the first one holds stays a
copy of the traced message. -/
theorem copied_step (sender1 sender2 : Endpoint) (h : Copied sender1 sender2 x) :
    Copied sender1 sender2 (tracedStep secret x rx) := by
  have hfree : (tracedStep secret x rx).loop.sorter.buf2.valid = false :=
    buf2_invalid_loopStep h.free2
  rcases turn_cases secret rx h.free2 with ⟨hidle, -, hs⟩ | ⟨-, -, -, hs⟩ | ⟨hheld, -, hs⟩ |
    ⟨-, -, -, -, hs⟩ | ⟨-, -, -, -, hs⟩
  · -- the sorter as it was, and the traced message too
    have hsorter : (tracedStep secret x rx).loop.sorter = x.loop.sorter := hs
    have horiginal : (tracedStep secret x rx).original = x.original :=
      if_neg fun hheld => hidle hheld.1
    refine ⟨hfree, ?_, ?_, ?_, ?_⟩
    · rw [hsorter]
      exact h.sender1
    · rw [hsorter]
      exact h.sender2
    · rw [hsorter, horiginal]
      exact h.content
    · rw [hsorter, horiginal]
      exact h.size
  · refine Copied.emptied secret rx hs ?_ ?_ (MessageSorter.buf1_invalid_flush _) ?_
    · rw [MessageSorter.sender_buf1_flush]
      exact h.sender1
    · rw [MessageSorter.buf2_flush]
      exact h.sender2
    · rw [MessageSorter.buf2_flush]
      exact h.free2
  · -- the message in the first buffer is the one that has just been received
    have hsorter : (tracedStep secret x rx).loop.sorter
        = x.loop.sorter.hold (incoming secret x.loop rx) := hs
    have horiginal : (tracedStep secret x rx).original = incoming secret x.loop rx :=
      if_pos hheld
    refine ⟨hfree, ?_, ?_, ?_, ?_⟩
    · rw [hsorter]
      exact h.sender1
    · rw [hsorter]
      exact h.sender2
    · rw [hsorter, horiginal]
      exact fun _ => MsgBuf.content_copy _ _ (incoming_accepted hheld.1).2
    · rw [hsorter, horiginal]
      exact fun _ => rfl
  -- copying into the second buffer keeps its address
  · exact Copied.emptied secret rx hs h.sender1 h.sender2 rfl rfl
  · refine Copied.emptied secret rx hs ?_ ?_ (MessageSorter.buf1_invalid_pass _ _) ?_
    · rw [MessageSorter.pass, MessageSorter.sender_buf1_flush]
      exact h.sender1
    · rw [MessageSorter.pass, MessageSorter.buf2_flush]
      exact h.sender2
    · rw [MessageSorter.pass, MessageSorter.buf2_flush]
      exact h.free2

/-! ## What is delivered -/

/-- The messages of a turn, each as received and as delivered: none, the received one
and then the held one, or the held one in front of the received one. -/
theorem delivered_cases (hbuf2 : x.loop.sorter.buf2.valid = false) :
    (¬ (Accepted secret x.loop rx ∧ ¬ HeldBack secret x.loop rx) ∧
        (received secret x rx).zip (turn secret x.loop rx).1 = []) ∨
    ((Accepted secret x.loop rx ∧ ¬ HeldBack secret x.loop rx) ∧
        ¬ (maxSpecialPort < (incoming secret x.loop rx).destport ∧
          x.loop.sorter.Swap (incoming secret x.loop rx)) ∧
        (received secret x rx).zip (turn secret x.loop rx).1
          = ((incoming secret x.loop rx, false), (incoming secret x.loop rx).invalidate)
            :: if x.loop.sorter.buf1.valid then
                [((x.original, true), x.loop.sorter.buf1.invalidate)] else []) ∨
    ((Accepted secret x.loop rx ∧ ¬ HeldBack secret x.loop rx) ∧
        (maxSpecialPort < (incoming secret x.loop rx).destport ∧
          x.loop.sorter.Swap (incoming secret x.loop rx)) ∧
        (received secret x rx).zip (turn secret x.loop rx).1
          = [((x.original, true), x.loop.sorter.buf1.invalidate),
            ((incoming secret x.loop rx, true),
              (x.loop.sorter.buf2.copy (incoming secret x.loop rx)).invalidate)]) := by
  have hzip : ∀ m : MsgBuf,
      ((m, false) :: if x.loop.sorter.buf1.valid then [(x.original, true)] else []).zip
          (m.invalidate :: x.loop.sorter.released)
        = ((m, false), m.invalidate) :: if x.loop.sorter.buf1.valid then
          [((x.original, true), x.loop.sorter.buf1.invalidate)] else [] := by
    intro m
    unfold MessageSorter.released
    split_ifs
    · rfl
    · rfl
  -- case by case: what the turn delivers next to what it received
  unfold received
  rcases turn_cases secret rx hbuf2 with ⟨hidle, hlist, -⟩ | ⟨hacc, hspecial, hlist, -⟩ |
    ⟨hheld, hlist, -⟩ | ⟨hacc, ⟨hport, hgap⟩, hswap, hlist, -⟩ |
    ⟨hacc, ⟨hport, hgap⟩, hswap, hlist, -⟩
  · rw [hlist, List.zip_nil_right]
    exact Or.inl ⟨fun h => hidle h.1, rfl⟩
  · have hdata : ¬ maxSpecialPort < (incoming secret x.loop rx).destport :=
      UInt16.not_lt.mpr hspecial
    have hheld : ¬ HeldBack secret x.loop rx := fun hheld => hdata hheld.2.1
    rw [if_neg (not_or_intro (not_not_intro hacc) hheld), if_neg fun hh => hdata hh.1, hlist, hzip]
    exact Or.inr (Or.inl ⟨⟨hacc, hheld⟩, fun hh => hdata hh.1, rfl⟩)
  · rw [hlist, List.zip_nil_right]
    exact Or.inl ⟨fun h => h.2 hheld, rfl⟩
  · have hheld : ¬ HeldBack secret x.loop rx := fun hheld => hgap hheld.2.2
    rw [if_neg (not_or_intro (not_not_intro hacc) hheld), if_pos ⟨hport, hswap⟩, hlist]
    exact Or.inr (Or.inr ⟨⟨hacc, hheld⟩, ⟨hport, hswap⟩, rfl⟩)
  · have hheld : ¬ HeldBack secret x.loop rx := fun hheld => hgap hheld.2.2
    rw [if_neg (not_or_intro (not_not_intro hacc) hheld), if_neg fun hh => hswap hh.2, hlist, hzip]
    exact Or.inr (Or.inl ⟨⟨hacc, hheld⟩, fun hh => hswap hh.2, rfl⟩)

/-- A delivered message has the size and the content it was received with. -/
theorem delivered_content {sender1 sender2 : Endpoint} (h : Copied sender1 sender2 x) :
    ∀ p ∈ (received secret x rx).zip (turn secret x.loop rx).1,
      p.2.content = p.1.1.content ∧ p.2.size = p.1.1.size := by
  intro p hp
  rcases delivered_cases secret rx h.free2 with
    ⟨-, hlist⟩ | ⟨-, -, hlist⟩ | ⟨⟨hacc, -⟩, hswap, hlist⟩
  · rw [hlist] at hp
    exact absurd hp List.not_mem_nil
  · rw [hlist] at hp
    rcases List.mem_cons.mp hp with rfl | hp
    · exact ⟨rfl, rfl⟩
    · split_ifs at hp with hvalid
      · rw [List.mem_singleton.mp hp]
        exact ⟨h.content hvalid, h.size hvalid⟩
      · exact absurd hp List.not_mem_nil
  · -- both come out of the buffers
    have hvalid := (holds_of_swap hswap.2).1
    rw [hlist] at hp
    rcases List.mem_cons.mp hp with rfl | hp
    · exact ⟨h.content hvalid, h.size hvalid⟩
    · rw [List.mem_singleton.mp hp]
      exact ⟨MsgBuf.content_copy x.loop.sorter.buf2 _ (incoming_accepted hacc).2, rfl⟩

end Trace

/-- The loop before its first turn, with the addresses left in the buffers. -/
def Traced.fresh (sender1 sender2 sender : Endpoint) : Traced :=
  { loop := SendsrvLoop.fresh sender1 sender2 sender, original := MsgBuf.init sender }

/-- At the start nothing has been copied. -/
theorem copied_fresh (sender1 sender2 sender : Endpoint) :
    Copied sender1 sender2 (Traced.fresh sender1 sender2 sender) :=
  ⟨rfl, rfl, rfl, fun h => absurd h Bool.false_ne_true, fun h => absurd h Bool.false_ne_true⟩

end Libov
