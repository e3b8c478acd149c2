/-
# Runs of a step function

A component that takes inputs one after the other is a step function
`σ → ι → σ`; its run over a list of inputs is a fold.  What is collected here
does not depend on what the states are:

* `AllSteps` : a condition holds of every step of a run, at the state before it;
* `invariant_run`, `invariant_run_of_step` : an invariant that the steps keep, or
  those of them that meet a condition, holds along a run of such steps;
* `allSteps_congr` : conditions that agree under an invariant;
* `allSteps_iff_split` : a condition of every step, read off the run before it;
* `prefixes_iff_allSteps` : a property of every state of a run as a condition of its steps;
* `Latest`, `run_iff_latest` : a condition of the last step that is not idle, and what it decides;
* `related_unmarked_iff`, `related_filter` : a run next to the run of some of its
  steps;
* `ledger_run`, `balanced_iff` : what comes out, what is kept and what is lost
  add up to what went in; the books without losses balance exactly when no step
  loses anything.
-/
import Mathlib

namespace Runs

variable {σ ι : Type*} (step : σ → ι → σ)

/-! ## Runs and conditions on their steps -/

/-- The state after a list of inputs. -/
def run (s : σ) (is : List ι) : σ := is.foldl step s

/-- The condition holds of every step of the run. -/
def AllSteps (C : σ → ι → Prop) : σ → List ι → Prop
  | _, [] => True
  | s, i :: is => C s i ∧ AllSteps C (step s i) is

@[simp] theorem run_nil (s : σ) : run step s [] = s := rfl

@[simp] theorem run_cons (s : σ) (i : ι) (is : List ι) :
    run step s (i :: is) = run step (step s i) is := rfl

/-- A run over two lists is one after the other. -/
theorem run_append (s : σ) (is js : List ι) :
    run step s (is ++ js) = run step (run step s is) js :=
  List.foldl_append ..

/-- The last step of a run. -/
theorem run_append_one (s : σ) (is : List ι) (i : ι) :
    run step s (is ++ [i]) = step (run step s is) i :=
  List.foldl_concat ..

variable {step}

/-- An invariant of the steps that meet a condition is an invariant of the runs
whose steps all meet it. -/
theorem invariant_run {I : σ → Prop} {C : σ → ι → Prop}
    (hstep : ∀ s i, I s → C s i → I (step s i)) {s : σ} (hs : I s) {is : List ι}
    (hC : AllSteps step C s is) : I (run step s is) := by
  induction is generalizing s with
  | nil => exact hs
  | cons i is ih => exact ih (hstep s i hs hC.1) hC.2

/-- An invariant of all steps is an invariant of all runs. -/
theorem invariant_run_of_step {I : σ → Prop} (hstep : ∀ s i, I s → I (step s i)) {s : σ} (hs : I s)
    (is : List ι) : I (run step s is) := by
  induction is generalizing s with
  | nil => exact hs
  | cons i is ih => exact ih (hstep s i hs)

/-- A weaker condition holds of more steps. -/
theorem AllSteps.mono {C D : σ → ι → Prop} (h : ∀ s i, C s i → D s i) {s : σ} {is : List ι}
    (hC : AllSteps step C s is) : AllSteps step D s is := by
  induction is generalizing s with
  | nil => trivial
  | cons i is ih => exact ⟨h s i hC.1, ih hC.2⟩

/-- A condition on a run with one more step. -/
theorem allSteps_append_one {C : σ → ι → Prop} {s : σ} {is : List ι} {i : ι} :
    AllSteps step C s (is ++ [i]) ↔ AllSteps step C s is ∧ C (run step s is) i := by
  induction is generalizing s with
  | nil => exact and_comm
  | cons j js ih => exact (and_congr_right fun _ => ih).trans and_assoc.symm

/-- Conditions that agree where an invariant holds hold of the same runs. -/
theorem allSteps_congr {I : σ → Prop} {C D : σ → ι → Prop} (hI : ∀ s i, I s → I (step s i))
    (h : ∀ s i, I s → (C s i ↔ D s i)) {s : σ} (hs : I s) (is : List ι) :
    AllSteps step C s is ↔ AllSteps step D s is := by
  induction is generalizing s with
  | nil => exact Iff.rfl
  | cons i is ih => exact and_congr (h s i hs) (ih (hI s i hs))

/-- What holds of a step wherever the invariant does holds of every step of a run. -/
theorem allSteps_of_invariant {I : σ → Prop} {C : σ → ι → Prop}
    (hI : ∀ s i, I s → I (step s i)) (h : ∀ s i, I s → C s i) {s : σ} (hs : I s) (is : List ι) :
    AllSteps step C s is := by
  induction is generalizing s with
  | nil => trivial
  | cons i is ih => exact ⟨h s i hs, ih (hI s i hs)⟩

/-- A condition of every step, with the runs before and behind the step. -/
theorem allSteps_iff_split {C : σ → ι → Prop} {s : σ} {is : List ι} :
    AllSteps step C s is ↔
      ∀ before i after, is = before ++ i :: after → C (run step s before) i := by
  induction is generalizing s with
  | nil =>
      refine iff_of_true trivial ?_
      intro before i after hsplit
      cases List.append_eq_nil_iff.1 hsplit.symm |>.2
  | cons j js ih =>
      rw [AllSteps, ih]
      constructor
      · rintro ⟨hfirst, hrest⟩ before i after hsplit
        cases before with
        | nil =>
            cases hsplit
            exact hfirst
        | cons j' before =>
            cases hsplit
            exact hrest before i after rfl
      · intro h
        refine ⟨h [] j js rfl, ?_⟩
        rintro before i after rfl
        exact h (j :: before) i after rfl

/-- The steps of a shorter run. -/
theorem allSteps_take {C : σ → ι → Prop} {s : σ} {is : List ι} (hC : AllSteps step C s is)
    (n : ℕ) : AllSteps step C s (is.take n) := by
  induction is generalizing s n with
  | nil => rw [List.take_nil]; trivial
  | cons i is ih =>
      cases n with
      | zero => trivial
      | succ n => exact ⟨hC.1, ih hC.2 n⟩

/-- A property that a step keeps exactly if it meets a condition holds at every point of a run
exactly if all steps meet the condition.  The invariant may count the steps up to a bound. -/
theorem prefixes_iff_allSteps {I : ℕ → σ → Prop} {P : σ → Prop} {C : σ → ι → Prop} {N : ℕ}
    (hI : ∀ n s i, n < N → I n s → I (n + 1) (step s i))
    (hstep : ∀ n s i, n < N → I n s → P s → (P (step s i) ↔ C s i)) {n : ℕ} {s : σ} (hs : I n s)
    (hp : P s) {is : List ι} (hlen : n + is.length ≤ N) :
    (∀ k, P (run step s (is.take k))) ↔ AllSteps step C s is := by
  induction is generalizing s n with
  | nil =>
      refine iff_of_true (fun k => ?_) trivial
      rw [List.take_nil]
      exact hp
  | cons i is ih =>
      rw [List.length_cons] at hlen
      have hfirst := hstep n s i (by omega) hs hp
      have hrest : P (step s i) →
          ((∀ k, P (run step (step s i) (is.take k))) ↔ AllSteps step C (step s i) is) :=
        fun hp' => ih (hI n s i (by omega) hs) hp' (by omega)
      constructor
      · intro h
        have hone : P (step s i) := h 1
        exact ⟨hfirst.mp hone, (hrest hone).mp fun k => h (k + 1)⟩
      · rintro ⟨hC, hCs⟩ k
        have hone := hfirst.mpr hC
        cases k with
        | zero => exact hp
        | succ k => exact (hrest hone).mpr hCs k

/-! ## The last step that is not idle -/

variable (step) in
/-- A step of the run meets the condition, and the steps behind it are idle. -/
def Latest (C Idle : σ → ι → Prop) (s : σ) (is : List ι) : Prop :=
  ∃ before i idle, is = before ++ i :: idle ∧ C (run step s before) i ∧
    AllSteps step Idle (run step s (before ++ [i])) idle

/-- In no steps there is no latest one. -/
theorem not_latest_nil {C Idle : σ → ι → Prop} (s : σ) : ¬ Latest step C Idle s [] := by
  rintro ⟨before, i, idle, hsplit, -⟩
  exact List.cons_ne_nil _ _ (List.append_eq_nil_iff.mp hsplit.symm).2

/-- The latest step is the last one, or the last one does not matter. -/
theorem latest_append_one {C Idle : σ → ι → Prop} {s : σ} {is : List ι} {i : ι} :
    Latest step C Idle s (is ++ [i]) ↔
      C (run step s is) i ∨ (Idle (run step s is) i ∧ Latest step C Idle s is) := by
  constructor
  · rintro ⟨before, j, idle, hsplit, hj, hidle⟩
    rcases List.eq_nil_or_concat idle with rfl | ⟨idle', last, rfl⟩
    · -- the new step itself
      obtain ⟨rfl, hlast⟩ := List.append_inj' hsplit rfl
      obtain rfl := (List.cons.inj hlast).1
      exact Or.inl hj
    -- idle steps behind it, the new one the last of them
    · rw [List.concat_eq_append] at hsplit hidle
      rw [← List.cons_append, ← List.append_assoc] at hsplit
      obtain ⟨rfl, hlast⟩ := List.append_inj' hsplit rfl
      obtain rfl := (List.cons.inj hlast).1
      obtain ⟨hidle', hi⟩ := allSteps_append_one.mp hidle
      refine Or.inr ⟨?_, before, j, idle', rfl, hj, hidle'⟩
      rwa [← run_append, ← List.append_cons] at hi
  · rintro (hi | ⟨hi, before, j, idle, rfl, hj, hidle⟩)
    · exact ⟨is, i, [], rfl, hi, trivial⟩
    · refine ⟨before, j, idle ++ [i], by rw [List.append_assoc]; rfl, hj,
        allSteps_append_one.mpr ⟨hidle, ?_⟩⟩
      rwa [← run_append, ← List.append_cons]

/-- A property that a step brings about under a condition, and that only idle steps keep, holds
behind a run exactly if the last step that was not idle met the condition. -/
theorem run_iff_latest {I P : σ → Prop} {C Idle : σ → ι → Prop}
    (hkeep : ∀ s i, I s → I (step s i))
    (hstep : ∀ s i, I s → (P (step s i) ↔ C s i ∨ (Idle s i ∧ P s))) {s : σ} (hs : I s)
    (hstart : ¬ P s) (is : List ι) : P (run step s is) ↔ Latest step C Idle s is := by
  -- from the last step backwards, since that is where the two sides change
  induction is using List.reverseRecOn with
  | nil => exact iff_of_false hstart (not_latest_nil s)
  | append_singleton is i ih =>
      rw [run_append_one, hstep _ _ (invariant_run_of_step hkeep hs is), latest_append_one, ih]

/-! ## Runs with some steps left out -/

/-- The steps that are not marked. -/
def unmarked (is : List (ι × Bool)) : List ι := (is.filter fun i => !i.2).map Prod.fst

/-- One more step is kept unless it is marked. -/
theorem unmarked_append_one (is : List (ι × Bool)) (i : ι × Bool) :
    unmarked (is ++ [i]) = if i.2 then unmarked is else unmarked is ++ [i.1] := by
  unfold unmarked
  rw [List.filter_append, List.map_append]
  cases hi : i.2 with
  | true => simp [hi]
  | false => simp [hi]

/-- Two runs from related states, the second without the marked steps, are related
throughout exactly if the condition holds at every unmarked step: where the states are
related, marked steps keep them so, and unmarked ones do if they meet the condition. -/
theorem related_unmarked_iff {I : σ → Prop} {R : σ → σ → Prop} {C : σ → σ → ι → Prop}
    {is : List (ι × Bool)} (hI : ∀ s i, I s → I (step s i))
    (hmarked : ∀ s t i, (i, true) ∈ is → I s → R s t → R (step s i) t)
    (hstep : ∀ s t i, I s → I t → R s t → (R (step s i) (step t i) ↔ C s t i)) {s t : σ}
    (hs : I s) (ht : I t) (hR : R s t) :
    (∀ before after, is = before ++ after →
      R (run step s (before.map Prod.fst)) (run step t (unmarked before))) ↔
    ∀ before i after, is = before ++ (i, false) :: after →
      C (run step s (before.map Prod.fst)) (run step t (unmarked before)) i := by
  have hIrun := fun before : List (ι × Bool) =>
    And.intro (invariant_run_of_step hI hs (before.map Prod.fst))
      (invariant_run_of_step hI ht (unmarked before))
  constructor
  · intro h before i after hsplit
    have hnow := h before _ hsplit
    have hnext := h (before ++ [(i, false)]) after (by rw [hsplit, List.append_assoc]; rfl)
    rw [List.map_append, List.map_singleton, run_append_one, unmarked_append_one,
      if_neg Bool.false_ne_true, run_append_one] at hnext
    exact (hstep _ _ i (hIrun before).1 (hIrun before).2 hnow).mp hnext
  · -- from the left to the right, as far as the runs have been followed
    intro h before
    induction before using List.reverseRecOn with
    | nil => exact fun _ _ => hR
    | append_singleton before i ih =>
        intro after hsplit
        have hsplit' : is = before ++ i :: after := by rw [hsplit, List.append_assoc]; rfl
        have hnow := ih _ hsplit'
        rw [List.map_append, List.map_singleton, run_append_one, unmarked_append_one]
        obtain ⟨i, marked⟩ := i
        cases marked with
        | true =>
            rw [if_pos rfl]
            have hmem : (i, true) ∈ is := by rw [hsplit']; exact List.mem_append_right _ (by simp)
            exact hmarked _ _ i hmem (hIrun before).1 hnow
        | false =>
            rw [if_neg Bool.false_ne_true, run_append_one]
            exact (hstep _ _ i (hIrun before).1 (hIrun before).2 hnow).mpr
              (h before i after hsplit')

/-- A run is related to the run of its own steps alone if own steps keep the states related
and the others go unnoticed. -/
theorem related_filter {R : σ → σ → Prop} (own : ι → Bool)
    (hown : ∀ s t i, R s t → own i = true → R (step s i) (step t i))
    (hother : ∀ s t i, R s t → own i = false → R (step s i) t) {s t : σ} (hR : R s t)
    (is : List ι) : R (run step s is) (run step t (is.filter own)) := by
  induction is generalizing s t with
  | nil => exact hR
  | cons i is ih =>
      cases hi : own i with
      | true =>
          rw [List.filter_cons_of_pos hi]
          exact ih (hown s t i hR hi)
      | false =>
          rw [List.filter_cons_of_neg (Bool.eq_false_iff.mp hi)]
          exact ih (hother s t i hR hi)

/-! ## Accounting -/

section Accounting

variable {M : Type*} [AddCommMonoid M]

variable (step) in
/-- The sum of what the steps of a run contribute. -/
def total (f : σ → ι → M) : σ → List ι → M
  | _, [] => 0
  | s, i :: is => f s i + total f (step s i) is

/-- The sum of contributions that all vanish. -/
theorem total_eq_zero {f : σ → ι → M} {s : σ} {is : List ι}
    (h : AllSteps step (fun s i => f s i = 0) s is) : total step f s is = 0 := by
  induction is generalizing s with
  | nil => rfl
  | cons i is ih => rw [total, h.1, ih h.2, add_zero]

/-- Two runs side by side that contribute the same at every step that meets the condition. -/
theorem total_eq_of_related {τ : Type*} {step' : τ → ι → τ} {R : σ → τ → Prop}
    {C : τ → ι → Prop} {f : σ → ι → M} {g : τ → ι → M}
    (hR : ∀ s t i, R s t → R (step s i) (step' t i)) (h : ∀ s t i, R s t → C t i → f s i = g t i)
    {s : σ} {t : τ} (hst : R s t) {is : List ι} (hC : AllSteps step' C t is) :
    total step f s is = total step' g t is := by
  induction is generalizing s t with
  | nil => rfl
  | cons i is ih => rw [total, total, h s t i hst hC.1, ih (hR s t i hst) hC.2]

/-- What comes out, what is kept and what is lost add up to what went in. -/
theorem ledger_run {I : σ → Prop} {out loss : σ → ι → M} {kept : σ → M} {inp : ι → M}
    (hI : ∀ s i, I s → I (step s i))
    (hstep : ∀ s i, I s → out s i + kept (step s i) + loss s i = kept s + inp i)
    {s : σ} (hs : I s) (is : List ι) :
    total step out s is + kept (run step s is) + total step loss s is
      = kept s + (is.map inp).sum := by
  induction is generalizing s with
  | nil => simp [total]
  | cons i is ih =>
      have htail := ih (hI s i hs)
      have hhead := hstep s i hs
      calc total step out s (i :: is) + kept (run step s (i :: is)) + total step loss s (i :: is)
          = out s i + loss s i + (total step out (step s i) is + kept (run step (step s i) is)
              + total step loss (step s i) is) := by
            simp only [total, run_cons]; abel
        _ = out s i + kept (step s i) + loss s i + (is.map inp).sum := by
            rw [htail]; abel
        _ = kept s + ((i :: is).map inp).sum := by
            rw [hhead, List.map_cons, List.sum_cons, add_assoc]

/-- A sum of non-negative losses vanishes when every loss does. -/
theorem total_eq_zero_iff [PartialOrder M] [CanonicallyOrderedAdd M] (f : σ → ι → M) (s : σ)
    (is : List ι) : total step f s is = 0 ↔ AllSteps step (fun s i => f s i = 0) s is := by
  induction is generalizing s with
  | nil => exact iff_of_true rfl trivial
  | cons i is ih => rw [total, AllSteps, add_eq_zero, ih]

/-- The books without losses balance exactly when no step loses anything. -/
theorem balanced_iff [PartialOrder M] [CanonicallyOrderedAdd M] [IsLeftCancelAdd M]
    {I : σ → Prop} {out loss : σ → ι → M} {kept : σ → M} {inp : ι → M}
    (hI : ∀ s i, I s → I (step s i))
    (hstep : ∀ s i, I s → out s i + kept (step s i) + loss s i = kept s + inp i)
    {s : σ} (hs : I s) (is : List ι) :
    total step out s is + kept (run step s is) = kept s + (is.map inp).sum
      ↔ AllSteps step (fun s i => loss s i = 0) s is := by
  rw [← ledger_run hI hstep hs is, ← total_eq_zero_iff, left_eq_add]

end Accounting

end Runs
