/-
# Replacing a pattern in a text

`ovstrrep` erases the text up to the end of an occurrence in each round and collects what goes
out.  Here the loop is followed round by round, for texts over any characters: the bytes of a
`std::string`, or the characters that the rest of the model uses.

* `ovstrrepLoop_of_scan` : the loop ends, with the replacement in place of the occurrences that
  a scan from left to right finds;
* `ovstrrepLoop_ends_iff` : with an empty pattern it does not end;
* `replaceFrom_of_scan`, `ovstrrep_eq_loop` : `ovstrrep` of the model is what the loop returns;
* `ovstrrep_leftmost` : the result for every text, pattern and replacement.
-/
import Libov.OvTools
import Libov.PatternScan

open PatternScan

namespace Libov

variable {α : Type*} [DecidableEq α] {pat rep s t rest : List α} {pieces : List (List α)}

/-! ## The loop -/

/-- The loop `while((pos = s.find(pat)) < s.size())` with `s` and `out_string`, and the sum behind
it, where the loop ends within `n` tests of its condition. -/
def eraseFound (pat rep : List α) : ℕ → List α → List α → Option (List α)
  | 0, _, _ => none
  | n + 1, s, outString =>
      match find pat s with
      | some pos =>
          if pos < s.length then
            eraseFound pat rep n (s.drop (pos + pat.length)) (outString ++ s.take pos ++ rep)
          else some (outString ++ s)
      -- `npos` is larger than every size
      | none => some (outString ++ s)

/-- `ovstrrep` with the loop of the source. -/
def ovstrrepLoop (n : ℕ) (s pat rep : List α) : Option (List α) := eraseFound pat rep n s []

/-- One round erases the text up to the end of the first occurrence. -/
theorem eraseFound_found {p : List α} (hpat : pat ≠ []) (hs : s = p ++ pat ++ t)
    (hfirst : FreeUpTo pat s p.length) (n : ℕ) (outString : List α) :
    eraseFound pat rep (n + 1) s outString
      = eraseFound pat rep n t (outString ++ p ++ rep) := by
  have hfind : find pat s = some p.length := find_eq_some_iff.mpr ⟨p, t, hs, rfl, hfirst⟩
  have hpos : 0 < pat.length := List.length_pos_iff.mpr hpat
  have hlen : p.length < s.length := by
    rw [hs]
    simp only [List.length_append]
    omega
  have hdrop : s.drop (p.length + pat.length) = t := by
    rw [hs]
    exact List.drop_left' List.length_append
  have htake : s.take p.length = p := by
    rw [hs, List.append_assoc]
    exact List.take_left' rfl
  rw [eraseFound, hfind]
  simp only
  rw [if_pos hlen, hdrop, htake]

/-- Without an occurrence the loop ends. -/
theorem eraseFound_rest (h : ∀ j, ¬ StandsAt pat s j) (n : ℕ) (outString : List α) :
    eraseFound pat rep (n + 1) s outString = some (outString ++ s) := by
  rw [eraseFound, find_eq_none_iff.mpr h]

/-- The loop makes a round for each occurrence that the scan finds, and puts the replacement in
its place. -/
theorem eraseFound_of_scan (hpat : pat ≠ []) (h : Scan pat s pieces rest) (n : ℕ)
    (outString : List α) :
    eraseFound pat rep n s outString =
      if pieces.length < n then some (outString ++ filled rep pieces rest) else none := by
  induction h generalizing n outString with
  | rest hnone =>
      cases n with
      | zero => rfl
      | succ n => exact eraseFound_rest hnone n outString
  | @found s p t rest pieces hs hfirst h ih =>
      cases n with
      | zero => rfl
      | succ n =>
          rw [eraseFound_found hpat hs hfirst, ih, filled_cons, List.length_cons]
          simp only [Nat.succ_lt_succ_iff, List.append_assoc]

/-- The loop ends behind the last occurrence, and not before. -/
theorem ovstrrepLoop_of_scan (hpat : pat ≠ []) (h : Scan pat s pieces rest) (n : ℕ) :
    ovstrrepLoop n s pat rep =
      if pieces.length < n then some (filled rep pieces rest) else none :=
  eraseFound_of_scan hpat h n []

/-- With an empty pattern every round erases nothing: the loop does not end. -/
theorem eraseFound_nil (hs : s ≠ []) (n : ℕ) (outString : List α) :
    eraseFound [] rep n s outString = none := by
  have hfind : find [] s = some 0 :=
    find_eq_some_iff.mpr ⟨[], s, rfl, rfl, fun j hj => absurd hj (by omega)⟩
  have hpos : 0 < s.length := List.length_pos_iff.mpr hs
  induction n generalizing outString with
  | zero => rfl
  | succ n ih =>
      rw [eraseFound, hfind]
      simp only [if_pos hpos]
      exact ih _

/-- So the pattern has to be checked by the caller, unless there is nothing to search. -/
theorem ovstrrepLoop_ends_iff (s pat rep : List α) :
    (∃ n result, ovstrrepLoop n s pat rep = some result) ↔ pat ≠ [] ∨ s = [] := by
  by_cases hpat : pat = []
  · subst hpat
    constructor
    · rintro ⟨n, result, h⟩
      refine Or.inr ?_
      by_contra hs
      rw [ovstrrepLoop, eraseFound_nil hs] at h
      cases h
    · rintro (h | rfl)
      · exact absurd rfl h
      · exact ⟨1, [], rfl⟩
  · refine iff_of_true ?_ (Or.inl hpat)
    obtain ⟨pieces, rest, hscan⟩ := exists_scan hpat s
    refine ⟨pieces.length + 1, filled rep pieces rest, ?_⟩
    rw [ovstrrepLoop_of_scan hpat hscan, if_pos (Nat.lt_succ_self _)]

/-! ## The recursive form -/

section Recursion

variable {pat rep s t rest : List Char} {pieces : List (List Char)}

/-- Characters that have been matched already are skipped. -/
theorem replaceFrom_skip (xs t : List Char) :
    replaceFrom pat rep xs.length (xs ++ t) = replaceFrom pat rep 0 t := by
  induction xs with
  | nil => rfl
  | cons x xs ih =>
      rw [List.cons_append, List.length_cons, replaceFrom]
      exact ih

/-- A piece in front of the first occurrence stays as it is. -/
theorem replaceFrom_piece (p u : List Char) (h : FreeUpTo pat (p ++ u) p.length) :
    replaceFrom pat rep 0 (p ++ u) = p ++ replaceFrom pat rep 0 u := by
  induction p with
  | nil => rfl
  | cons c p ih =>
      rw [List.cons_append, List.length_cons] at h
      obtain ⟨hpre, hrest⟩ := freeUpTo_cons_succ.mp h
      rw [List.cons_append, replaceFrom, if_neg (mt List.isPrefixOf_iff_prefix.mp hpre),
        ih hrest, List.cons_append]

/-- An occurrence is replaced, and the search goes on behind it. -/
theorem replaceFrom_occurrence (hpat : pat ≠ []) (t : List Char) :
    replaceFrom pat rep 0 (pat ++ t) = rep ++ replaceFrom pat rep 0 t := by
  cases pat with
  | nil => exact absurd rfl hpat
  | cons c pat =>
      have hpre : (c :: pat).isPrefixOf (c :: (pat ++ t)) = true :=
        List.isPrefixOf_iff_prefix.mpr (List.prefix_append (c :: pat) t)
      rw [List.cons_append, replaceFrom, if_pos hpre]
      exact congrArg (rep ++ ·) (replaceFrom_skip pat t)

theorem replaceFrom_of_scan (hpat : pat ≠ []) (h : Scan pat s pieces rest) :
    replaceFrom pat rep 0 s = filled rep pieces rest := by
  induction h with
  | @rest s hnone =>
      have hpiece : replaceFrom pat rep 0 (s ++ []) = s ++ replaceFrom pat rep 0 [] := by
        apply replaceFrom_piece
        intro j _
        rw [List.append_nil]
        exact hnone j
      rw [List.append_nil, replaceFrom, List.append_nil] at hpiece
      exact hpiece
  | @found s p t rest pieces hs hfirst h ih =>
      rw [hs, List.append_assoc] at hfirst ⊢
      rw [replaceFrom_piece p _ hfirst, replaceFrom_occurrence hpat, ih, filled_cons,
        List.append_assoc]

end Recursion

/-- The replacement of the model is what the loop returns. -/
theorem ovstrrep_eq_loop (s rep : String) {pat : String} (hpat : pat ≠ "") :
    ∃ n, ovstrrepLoop n s.toList pat.toList rep.toList = some (ovstrrep s pat rep).toList := by
  have hpat' : pat.toList ≠ [] := by
    intro h
    exact hpat (String.toList_inj.mp h)
  obtain ⟨pieces, rest, hscan⟩ := exists_scan hpat' s.toList
  refine ⟨pieces.length + 1, ?_⟩
  rw [ovstrrepLoop_of_scan hpat' hscan, if_pos (Nat.lt_succ_self _), ovstrrep,
    String.toList_ofList, replaceFrom_of_scan hpat' hscan]

/-! ## The result -/

/-- The text is cut in one way by a scan from left to right that takes the first occurrence and
goes on behind it.  The loop ends after one round for each of these occurrences, with the
replacement in their places and everything else as it was. -/
theorem ovstrrep_leftmost (s pat rep : List α) (hpat : pat ≠ []) :
    ∃ pieces rest, Scan pat s pieces rest ∧
      (∀ pieces' rest', Scan pat s pieces' rest' → pieces' = pieces ∧ rest' = rest) ∧
      filled pat pieces rest = s ∧
      ∀ n, ovstrrepLoop n s pat rep =
        if pieces.length < n then some (filled rep pieces rest) else none := by
  obtain ⟨pieces, rest, hscan⟩ := exists_scan hpat s
  refine ⟨pieces, rest, hscan, ?_, hscan.text, ovstrrepLoop_of_scan hpat hscan⟩
  intro pieces' rest' hscan'
  exact hscan'.unique hscan

/-- Overlapping occurrences, one at the end, and a replacement that contains the pattern. -/
theorem ovstrrep_leftmost_overlap :
    [1, 1] ≠ ([] : List ℕ) ∧ ∃ pieces rest, Scan [1, 1] [1, 1, 1, 2, 1, 1] pieces rest ∧
      (∀ pieces' rest', Scan [1, 1] [1, 1, 1, 2, 1, 1] pieces' rest' →
        pieces' = pieces ∧ rest' = rest) ∧
      filled [1, 1] pieces rest = [1, 1, 1, 2, 1, 1] ∧
      ∀ n, ovstrrepLoop n [1, 1, 1, 2, 1, 1] [1, 1] [1, 1, 3] =
        if pieces.length < n then some (filled [1, 1, 3] pieces rest) else none :=
  ⟨by decide, ovstrrep_leftmost _ _ _ (by decide)⟩

example : ovstrrepLoop 3 [1, 1, 1, 2, 1, 1] [1, 1] [1, 1, 3] = some [1, 1, 3, 1, 2, 1, 1, 3] := by
  decide

end Libov
