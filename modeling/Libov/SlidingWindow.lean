/-
# The last entries of a stream in a ring of cells

A ring keeps the last `n` entries of a stream in `n` cells: each new entry overwrites the
oldest one, and the position of the next one moves round the cells.

* `RingCells.push` : write one entry;
* `RingCells.Keeps` : read from the next position on, the cells are the last entries of the
  initial filling followed by the stream;
* `RingCells.perm_window` : the cells that have been filled are the window, in some order;
* `median` : of a list in ascending order.
-/
import Mathlib

namespace SlidingWindow

/-! ## Rings -/

/-- Cells, the position of the next entry, and how many cells have been filled. -/
structure RingCells (α : Type*) where
  cells : List α
  next : ℕ
  filled : ℕ

namespace RingCells

variable {α : Type*}

/-- `n` cells that hold `d`. -/
def empty (n : ℕ) (d : α) : RingCells α := ⟨List.replicate n d, 0, 0⟩

/-- Write an entry. -/
def push (r : RingCells α) (x : α) : RingCells α :=
  { cells := r.cells.set r.next x
    next := if r.cells.length ≤ r.next + 1 then 0 else r.next + 1
    filled := if r.filled < r.cells.length then r.filled + 1 else r.filled }

/-- The cells from the next position on, once round. -/
def content (r : RingCells α) : List α := r.cells.drop r.next ++ r.cells.take r.next

theorem content_empty (n : ℕ) (d : α) : (empty n d).content = List.replicate n d :=
  List.append_nil _

theorem next_push_lt {r : RingCells α} (hnext : r.next < r.cells.length) (x : α) :
    (r.push x).next < (r.push x).cells.length := by
  unfold push
  show (if r.cells.length ≤ r.next + 1 then 0 else r.next + 1) < (r.cells.set r.next x).length
  rw [List.length_set]
  by_cases hlast : r.cells.length ≤ r.next + 1
  · rw [if_pos hlast]
    omega
  · rw [if_neg hlast]
    omega

/-- A new entry takes the place of the oldest one. -/
theorem content_push {r : RingCells α} (hnext : r.next < r.cells.length) (x : α) :
    (r.push x).content = r.content.tail ++ [x] := by
  -- the cells around the one that is written
  obtain ⟨before, old, after, hcells, hbefore⟩ :
      ∃ before old after, r.cells = before ++ old :: after ∧ before.length = r.next :=
    ⟨r.cells.take r.next, r.cells.get ⟨r.next, hnext⟩, r.cells.drop (r.next + 1),
      by rw [List.get_eq_getElem, ← List.drop_eq_getElem_cons hnext, List.take_append_drop],
      List.length_take_of_le hnext.le⟩
  have hcontent : r.content = old :: after ++ before := by
    unfold content
    rw [hcells, ← hbefore, List.drop_left, List.take_left]
  have hset : r.cells.set r.next x = before ++ x :: after := by
    rw [hcells, ← hbefore, List.set_append_right _ _ le_rfl, Nat.sub_self, List.set_cons_zero]
  have hlength : r.cells.length = r.next + (after.length + 1) := by
    rw [hcells, List.length_append, List.length_cons, hbefore]
  rw [hcontent]
  unfold content push
  rw [hset]
  cases after with
  | nil =>
      -- the last cell
      rw [if_pos (show r.cells.length ≤ r.next + 1 from hlength.le)]
      show before ++ [x] ++ [] = before ++ [x]
      rw [List.append_nil]
  | cons a after =>
      rw [if_neg (by rw [hlength, List.length_cons]; omega)]
      show (before ++ x :: a :: after).drop (r.next + 1)
        ++ (before ++ x :: a :: after).take (r.next + 1) = _
      rw [List.append_cons, List.drop_left' (by simp [hbefore]),
        List.take_left' (by simp [hbefore])]
      simp

/-! ## The window -/

/-- What a ring of `n` cells, at first filled with `d`, keeps of a stream. -/
structure Keeps (n : ℕ) (d : α) (xs : List α) (r : RingCells α) : Prop where
  length : r.cells.length = n
  next_lt : r.next < n
  content : r.content = (List.replicate n d ++ xs).rtake n
  filled : r.filled = min xs.length n
  next_of_lt : xs.length < n → r.next = xs.length

theorem keeps_empty {n : ℕ} (hn : 0 < n) (d : α) : Keeps n d [] (empty n d) where
  length := List.length_replicate
  next_lt := hn
  content := by
    rw [content_empty, List.append_nil, List.rtake, List.length_replicate, Nat.sub_self,
      List.drop_zero]
  filled := (Nat.zero_min n).symm
  next_of_lt := fun _ => rfl

/-- The last entries of a longer stream. -/
theorem rtake_append_one {n : ℕ} {xs : List α} (hn : 0 < n) (hle : n ≤ xs.length) (x : α) :
    (xs ++ [x]).rtake n = (xs.rtake n).tail ++ [x] := by
  obtain ⟨m, rfl⟩ : ∃ m, n = m + 1 := ⟨n - 1, by omega⟩
  rw [List.rtake_concat_succ]
  unfold List.rtake
  rw [List.tail_drop]
  congr 2
  omega

/-- Writing an entry. -/
theorem Keeps.push {n : ℕ} {d : α} {xs : List α} {r : RingCells α} (h : Keeps n d xs r) (x : α) :
    Keeps n d (xs ++ [x]) (r.push x) where
  length := by
    show (r.cells.set r.next x).length = n
    rw [List.length_set, h.length]
  next_lt := by
    have hlt := next_push_lt (h.length ▸ h.next_lt) x
    show (r.push x).next < n
    rwa [show (r.push x).cells.length = n from (List.length_set ..).trans h.length] at hlt
  content := by
    rw [content_push (h.length ▸ h.next_lt), h.content, ← List.append_assoc]
    refine (rtake_append_one ((Nat.zero_le _).trans_lt h.next_lt) ?_ x).symm
    rw [List.length_append, List.length_replicate]
    omega
  filled := by
    show (if r.filled < r.cells.length then r.filled + 1 else r.filled) = _
    rw [h.length, h.filled, List.length_append, List.length_singleton]
    by_cases hfull : xs.length < n
    · rw [if_pos (by omega)]
      omega
    · rw [if_neg (by omega)]
      omega
  next_of_lt := by
    intro hlt
    rw [List.length_append, List.length_singleton] at hlt ⊢
    show (if r.cells.length ≤ r.next + 1 then 0 else r.next + 1) = xs.length + 1
    rw [h.next_of_lt (by omega), h.length, if_neg (by omega)]

/-- All cells, in some order. -/
theorem Keeps.perm_cells {n : ℕ} {d : α} {xs : List α} {r : RingCells α} (h : Keeps n d xs r) :
    r.cells.Perm ((List.replicate n d ++ xs).rtake n) := by
  rw [← h.content]
  refine List.Perm.trans ?_ List.perm_append_comm
  rw [List.take_append_drop]

/-- The cells that have been filled are the window, in some order. -/
theorem Keeps.perm_window {n : ℕ} {d : α} {xs : List α} {r : RingCells α} (h : Keeps n d xs r) :
    (r.cells.take r.filled).Perm (xs.rtake n) := by
  rw [h.filled]
  by_cases hfull : n ≤ xs.length
  · -- all cells
    have hwindow : (List.replicate n d ++ xs).rtake n = xs.rtake n := by
      unfold List.rtake
      rw [List.length_append, List.length_replicate, Nat.add_sub_assoc hfull, ← List.drop_drop,
        List.drop_left' List.length_replicate]
    rw [min_eq_right hfull, ← h.length, List.take_length, h.length, ← hwindow]
    exact h.perm_cells
  · -- the cells before the next position
    have hwindow : xs.rtake n = xs := by
      unfold List.rtake
      rw [Nat.sub_eq_zero_of_le (by omega), List.drop_zero]
    have hcontent := h.content
    unfold content List.rtake at hcontent
    rw [List.length_append, List.length_replicate, Nat.add_sub_cancel_left,
      List.drop_append_of_le_length (by rw [List.length_replicate]; omega)] at hcontent
    have htake := (List.append_inj' hcontent (by
      rw [List.length_take_of_le (h.length ▸ h.next_lt.le), h.next_of_lt (by omega)])).2
    rw [min_eq_left (by omega), hwindow, ← h.next_of_lt (by omega), htake]

end RingCells

/-! ## The median -/

/-- The middle entry of a list in ascending order, or the mean of its two middle ones. -/
def median (s : List ℚ) : ℚ :=
  if s.length % 2 = 0 then (s.getD (s.length / 2 - 1) 0 + s.getD (s.length / 2) 0) / 2
  else s.getD (s.length / 2) 0

/-- The first entry of a list in ascending order is the least. -/
theorem isLeast_head {s : List ℚ} (hs : s.Pairwise (· ≤ ·)) (hne : s ≠ []) :
    IsLeast {x | x ∈ s} (s.getD 0 0) := by
  obtain ⟨x, s, rfl⟩ := List.exists_cons_of_ne_nil hne
  refine ⟨List.mem_cons_self, ?_⟩
  intro y hy
  rcases List.mem_cons.mp hy with rfl | hy
  · exact le_rfl
  · exact List.rel_of_pairwise_cons hs hy

end SlidingWindow
