/-
# Scanning a text for a pattern

A scan from left to right cuts a text at the occurrences of a pattern: it takes the first
occurrence, goes on behind it, and stops where there is none.

* `find` : the first place of a pattern, with `find_eq_some_iff` and `find_eq_none_iff`;
* `Scan` : how the scan cuts a text into the pieces in front of the occurrences and the rest;
* `exists_scan`, `Scan.unique` : every text is cut in exactly one way;
* `Scan.text` : the pieces with the pattern between them are the text again.
-/
import Mathlib

namespace PatternScan

variable {α : Type*}

/-! ## The first place of a pattern -/

/-- The pattern stands at a place of the text. -/
def StandsAt (pat s : List α) (i : ℕ) : Prop := pat <+: s.drop i

/-- There is no occurrence that begins in front of a place. -/
def FreeUpTo (pat s : List α) (i : ℕ) : Prop := ∀ j < i, ¬ StandsAt pat s j

theorem standsAt_append (p pat t : List α) : StandsAt pat (p ++ pat ++ t) p.length := by
  rw [StandsAt, List.append_assoc, List.drop_left]
  exact List.prefix_append pat t

theorem freeUpTo_cons_succ {pat s : List α} {c : α} {i : ℕ} :
    FreeUpTo pat (c :: s) (i + 1) ↔ ¬ pat <+: c :: s ∧ FreeUpTo pat s i := by
  constructor
  · intro h
    refine ⟨h 0 (by omega), ?_⟩
    intro j hj
    exact h (j + 1) (by omega)
  · rintro ⟨hfirst, hrest⟩ j hj
    cases j with
    | zero => exact hfirst
    | succ j => exact hrest j (by omega)

/-- There is one first place. -/
theorem eq_of_first {pat s : List α} {i j : ℕ} (hi : StandsAt pat s i) (hj : StandsAt pat s j)
    (hi' : FreeUpTo pat s i) (hj' : FreeUpTo pat s j) : i = j := by
  by_contra hne
  rcases Nat.lt_or_gt_of_ne hne with h | h
  · exact hj' i h hi
  · exact hi' j h hj

section Find

variable [DecidableEq α] {pat s : List α}

/-- The first place where the pattern stands in a text. -/
def find (pat : List α) : List α → Option ℕ
  | [] => if pat.isEmpty then some 0 else none
  | c :: s => if pat.isPrefixOf (c :: s) then some 0 else (find pat s).map (· + 1)

/-- At the place that is found the pattern stands, with what is in front of it and behind it. -/
theorem find_eq_some_iff {i : ℕ} :
    find pat s = some i ↔
      ∃ p t, s = p ++ pat ++ t ∧ p.length = i ∧ FreeUpTo pat s i := by
  induction s generalizing i with
  | nil =>
      rw [find]
      cases pat with
      | nil =>
          rw [if_pos List.isEmpty_nil, Option.some.injEq]
          constructor
          · rintro rfl
            exact ⟨[], [], rfl, rfl, fun j hj => absurd hj (by omega)⟩
          · rintro ⟨p, t, hs, hp, -⟩
            have hnil : p = [] := (List.append_eq_nil_iff.mp
              (List.append_eq_nil_iff.mp hs.symm).1).1
            rw [hnil] at hp
            exact hp
      | cons a pat => simp
  | cons c s ih =>
      rw [find]
      by_cases hpre : pat <+: c :: s
      · rw [if_pos (List.isPrefixOf_iff_prefix.mpr hpre), Option.some.injEq]
        constructor
        · rintro rfl
          obtain ⟨t, ht⟩ := hpre
          exact ⟨[], t, ht.symm, rfl, fun j hj => absurd hj (by omega)⟩
        · rintro ⟨p, t, hs, hp, hfree⟩
          -- at any later place it would not be the first occurrence
          by_contra hne
          exact hfree 0 (by omega) hpre
      · rw [if_neg (mt List.isPrefixOf_iff_prefix.mp hpre), Option.map_eq_some_iff]
        constructor
        · rintro ⟨k, hk, rfl⟩
          obtain ⟨p, t, hs, hp, hfree⟩ := ih.mp hk
          refine ⟨c :: p, t, ?_, ?_, freeUpTo_cons_succ.mpr ⟨hpre, hfree⟩⟩
          · rw [hs]
            rfl
          · rw [List.length_cons, hp]
        · rintro ⟨p, t, hs, hp, hfree⟩
          cases p with
          | nil => exact absurd ⟨t, hs.symm⟩ hpre
          | cons c' p =>
              obtain ⟨-, hs'⟩ := List.cons.inj hs
              obtain rfl := hp
              exact ⟨p.length, ih.mpr ⟨p, t, hs', rfl, (freeUpTo_cons_succ.mp hfree).2⟩, rfl⟩

/-- Nothing is found in a text without the pattern. -/
theorem find_eq_none_iff : find pat s = none ↔ ∀ j, ¬ StandsAt pat s j := by
  induction s with
  | nil =>
      rw [find]
      cases pat with
      | nil =>
          refine iff_of_false (by simp) ?_
          intro h
          exact h 0 List.prefix_rfl
      | cons a pat =>
          refine iff_of_true rfl ?_
          intro j h
          rw [StandsAt, List.drop_nil] at h
          simp at h
  | cons c s ih =>
      rw [find]
      by_cases hpre : pat <+: c :: s
      · rw [if_pos (List.isPrefixOf_iff_prefix.mpr hpre)]
        refine iff_of_false (by simp) ?_
        intro h
        exact h 0 hpre
      · rw [if_neg (mt List.isPrefixOf_iff_prefix.mp hpre), Option.map_eq_none_iff, ih]
        constructor
        · intro h j
          cases j with
          | zero => exact hpre
          | succ j => exact h j
        · intro h j
          exact h (j + 1)

end Find

/-! ## The pieces of a text -/

/-- The pieces and the rest with a word put behind each of the pieces. -/
def filled (mid : List α) (pieces : List (List α)) (rest : List α) : List α :=
  pieces.foldr (fun p t => p ++ mid ++ t) rest

@[simp] theorem filled_nil (mid rest : List α) : filled mid [] rest = rest := rfl

@[simp] theorem filled_cons (mid p : List α) (pieces : List (List α)) (rest : List α) :
    filled mid (p :: pieces) rest = p ++ mid ++ filled mid pieces rest := rfl

/-- The scan of a text from left to right: a piece ends at the first occurrence of the pattern in
what is left, the next one begins behind that occurrence, and in the rest there is none. -/
inductive Scan (pat : List α) : List α → List (List α) → List α → Prop
  | rest {s : List α} (h : ∀ j, ¬ StandsAt pat s j) : Scan pat s [] s
  | found {s p t rest : List α} {pieces : List (List α)} (hs : s = p ++ pat ++ t)
      (hfirst : FreeUpTo pat s p.length) (h : Scan pat t pieces rest) :
      Scan pat s (p :: pieces) rest

variable {pat s rest rest' : List α} {pieces pieces' : List (List α)}

/-- The pieces with the pattern between them are the text. -/
theorem Scan.text (h : Scan pat s pieces rest) : filled pat pieces rest = s := by
  induction h with
  | rest h => rfl
  | found hs hfirst h ih => rw [filled_cons, ih, hs]

/-- A text is cut in one way only. -/
theorem Scan.unique (h : Scan pat s pieces rest) (h' : Scan pat s pieces' rest') :
    pieces = pieces' ∧ rest = rest' := by
  induction h generalizing pieces' rest' with
  | rest hnone =>
      cases h' with
      | rest hnone' => exact ⟨rfl, rfl⟩
      | @found _ p' t' _ _ hs' hfirst' h' =>
          rw [hs'] at hnone
          exact absurd (standsAt_append p' pat t') (hnone p'.length)
  | @found s p t rest pieces hs hfirst h ih =>
      have hstands : StandsAt pat s p.length := by
        rw [hs]
        exact standsAt_append p pat t
      cases h' with
      | rest hnone' => exact absurd hstands (hnone' p.length)
      | @found _ p' t' _ pieces' hs' hfirst' h' =>
          have hstands' : StandsAt pat s p'.length := by
            rw [hs']
            exact standsAt_append p' pat t'
          -- both pieces end at the first occurrence
          have hlen : p.length = p'.length := eq_of_first hstands hstands' hfirst hfirst'
          rw [hs, List.append_assoc, List.append_assoc] at hs'
          obtain ⟨hp, hrest⟩ := List.append_inj hs' hlen
          obtain rfl := List.append_cancel_left hrest
          obtain ⟨hpieces, hrest⟩ := ih h'
          exact ⟨by rw [hp, hpieces], hrest⟩

/-- Every text is cut by a pattern that is not empty. -/
theorem exists_scan [DecidableEq α] (hpat : pat ≠ []) (s : List α) :
    ∃ pieces rest, Scan pat s pieces rest := by
  -- by the length of the text: behind an occurrence less is left
  induction hn : s.length using Nat.strong_induction_on generalizing s with
  | _ n ih =>
      cases hfind : find pat s with
      | none => exact ⟨[], s, Scan.rest (find_eq_none_iff.mp hfind)⟩
      | some i =>
          obtain ⟨p, t, hs, rfl, hfirst⟩ := find_eq_some_iff.mp hfind
          have hpos : 0 < pat.length := List.length_pos_iff.mpr hpat
          have hlen : t.length < n := by
            rw [← hn, hs]
            simp only [List.length_append]
            omega
          obtain ⟨pieces, rest, hscan⟩ := ih t.length hlen t rfl
          exact ⟨p :: pieces, rest, Scan.found hs hfirst hscan⟩

end PatternScan
