/-
# Words joined by a separator

Three words joined by a separator, of which the one in the middle does not contain it.  The
first and the last one may, so that the joined word does not tell them apart.

* `joined_eq_iff` : when two joined words are equal.
-/
import Mathlib

namespace SeparatedWords

variable {α : Type*} (sep : α)

/-- The words `l`, `w` and `t` with separators between them. -/
def joined (l w t : List α) : List α := l ++ sep :: (w ++ sep :: t)

variable {sep} {l l' w w' t t' : List α}

theorem joined_append (l w v t : List α) : joined sep l w (v ++ t) = joined sep l w v ++ t := by
  simp [joined]

/-- A word with a separator has a last one. -/
theorem exists_append_sep (h : sep ∈ l) : ∃ u w, l = u ++ sep :: w ∧ sep ∉ w := by
  obtain ⟨w, u, hl, hw⟩ := List.eq_append_cons_of_mem (List.mem_reverse.mpr h)
  refine ⟨u.reverse, w.reverse, ?_, by simpa using hw⟩
  rw [← List.reverse_reverse l, hl]
  simp

/-- In front of the last separator there is nothing to tell apart. -/
theorem eq_of_append_sep (hw : sep ∉ w) (hw' : sep ∉ w') (h : l ++ sep :: w = l' ++ sep :: w') :
    l = l' ∧ w = w' := by
  rcases List.append_eq_append_iff.mp h with ⟨u, hl, hr⟩ | ⟨u, hl, hr⟩
  · cases u with
    | nil =>
        rw [List.append_nil] at hl
        exact ⟨hl.symm, (List.cons.inj hr).2⟩
    | cons a u =>
        -- the separator behind `l'` would stand in `w`
        have hmem : sep ∈ w := by
          rw [(List.cons.inj hr).2]
          exact List.mem_append_right _ List.mem_cons_self
        exact absurd hmem hw
  · cases u with
    | nil =>
        rw [List.append_nil] at hl
        exact ⟨hl, (List.cons.inj hr).2.symm⟩
    | cons a u =>
        have hmem : sep ∈ w' := by
          rw [(List.cons.inj hr).2]
          exact List.mem_append_right _ List.mem_cons_self
        exact absurd hmem hw'

/-- Where a joined word begins with another one, either the two are the same, or the first word
of the longer one reaches over the other. -/
theorem joined_prefix (hw : sep ∉ w) (hw' : sep ∉ w') {u : List α}
    (h : joined sep l' w' [] = joined sep l w u) :
    (l = l' ∧ w = w' ∧ u = []) ∨
      ∃ v, l' ++ [sep] = joined sep l w v ∧ u = v ++ w' ++ [sep] := by
  have hsplit : (l' ++ [sep]) ++ (w' ++ [sep]) = joined sep l w [] ++ u := by
    rw [← joined_append, List.nil_append, ← h]
    simp [joined]
  have hlast : joined sep l w [] = (l ++ sep :: w) ++ [sep] := by simp [joined]
  rcases List.append_eq_append_iff.mp hsplit with ⟨x, hjoined, hu⟩ | ⟨v, hl', hu⟩
  · rcases List.eq_nil_or_concat u with rfl | ⟨u, b, rfl⟩
    · -- nothing follows: both words end with their separators
      left
      rw [List.append_nil] at hu
      rw [← hu, hlast, ← List.append_assoc] at hjoined
      have hfront := List.append_cancel_right hjoined
      rw [List.append_assoc, List.singleton_append] at hfront
      obtain ⟨hl, hww⟩ := eq_of_append_sep hw hw' hfront
      exact ⟨hl, hww, rfl⟩
    · right
      rw [List.concat_eq_append, ← List.append_assoc] at hu
      obtain ⟨hw'x, hb⟩ := List.append_inj' hu rfl
      rcases List.eq_nil_or_concat x with rfl | ⟨x, c, rfl⟩
      · rw [List.append_nil] at hjoined
        refine ⟨[], hjoined.symm, ?_⟩
        rw [List.concat_eq_append, ← hb, List.nil_append, hw'x, List.nil_append]
      · -- the last separator of the shorter word would stand in `w'`
        rw [List.concat_eq_append, hlast, ← List.append_assoc] at hjoined
        have hc := List.cons.inj (List.append_inj' hjoined rfl).2
        have hmem : sep ∈ w' := by
          rw [hw'x, List.concat_eq_append, ← hc.1]
          simp
        exact absurd hmem hw'
  · refine Or.inr ⟨v, ?_, by rw [hu, List.append_assoc]⟩
    rw [hl', ← joined_append, List.nil_append]

/-- Joined words are equal exactly if their parts are, or if the first word of one of them
reaches over the first two of the other one. -/
theorem joined_eq_iff (hw : sep ∉ w) (hw' : sep ∉ w') :
    joined sep l w t = joined sep l' w' t' ↔
      (l = l' ∧ w = w' ∧ t = t') ∨
      (∃ v, l' ++ [sep] = joined sep l w v ∧ t = v ++ w' ++ sep :: t') ∨
      ∃ v, l ++ [sep] = joined sep l' w' v ∧ t' = v ++ w ++ sep :: t := by
  have hrest : ∀ (l w t : List α), joined sep l w t = joined sep l w [] ++ t := by
    intro l w t
    rw [← joined_append, List.nil_append]
  constructor
  · intro h
    rw [hrest l w t, hrest l' w' t'] at h
    rcases List.append_eq_append_iff.mp h with ⟨u, hlong, rfl⟩ | ⟨u, hlong, rfl⟩
    · rw [← hrest] at hlong
      rcases joined_prefix hw hw' hlong with ⟨hl, hww, rfl⟩ | ⟨v, hl', rfl⟩
      · exact Or.inl ⟨hl, hww, rfl⟩
      · exact Or.inr (Or.inl ⟨v, hl', by simp⟩)
    · rw [← hrest] at hlong
      rcases joined_prefix hw' hw hlong with ⟨hl, hww, rfl⟩ | ⟨v, hl, rfl⟩
      · exact Or.inl ⟨hl.symm, hww.symm, rfl⟩
      · exact Or.inr (Or.inr ⟨v, hl, by simp⟩)
  · have hover : ∀ {l w t l' w' t' v : List α}, l' ++ [sep] = joined sep l w v →
        t = v ++ w' ++ sep :: t' → joined sep l w t = joined sep l' w' t' := by
      rintro l w t l' w' t' v hl' rfl
      rw [List.append_assoc, joined_append, ← hl']
      simp [joined]
    rintro (⟨rfl, rfl, rfl⟩ | ⟨v, hl', ht⟩ | ⟨v, hl, ht⟩)
    · rfl
    · exact hover hl' ht
    · exact (hover hl ht).symm

end SeparatedWords
