/-
# Programs that note what they access

A program on a table may use any index; whether the table has such an entry is another
question.  `Writer` notes the indices that are used beside the value that is computed.

* `value`, `noted` : what is computed, and the indices used on the way;
* `Within P` : all of them satisfy `P`, with a rule for every way to build a program;
* `within_foldlM` : a loop, whose steps use an index under a condition on the element.
-/
import Mathlib

namespace Accesses

variable {ι α β σ : Type}

/-- A program that notes the indices it uses. -/
abbrev Noting (ι : Type) := Writer (List ι)

/-- What the program computes. -/
def value (x : Noting ι α) : α := (WriterT.run x : α × List ι).1

/-- The indices that it uses, in their order. -/
def noted (x : Noting ι α) : List ι := (WriterT.run x : α × List ι).2

/-- Use an index. -/
def access (i : ι) : Noting ι Unit := tell [i]

/-! ## Values -/

@[simp] theorem value_pure (a : α) : value (pure a : Noting ι α) = a := rfl

@[simp] theorem value_bind (x : Noting ι α) (f : α → Noting ι β) :
    value (x >>= f) = value (f (value x)) := rfl

@[simp] theorem value_ite (p : Prop) [Decidable p] (x y : Noting ι α) :
    value (if p then x else y) = if p then value x else value y :=
  apply_ite value p x y

/-- The value of a loop is the loop over the values. -/
theorem value_foldlM (f : σ → β → Noting ι σ) (bs : List β) (s : σ) :
    value (bs.foldlM f s) = bs.foldl (fun s b => value (f s b)) s := by
  induction bs generalizing s with
  | nil => rfl
  | cons b bs ih =>
      rw [List.foldlM_cons, value_bind, ih, List.foldl_cons]

/-! ## Indices -/

@[simp] theorem noted_pure (a : α) : noted (pure a : Noting ι α) = [] := rfl

@[simp] theorem noted_bind (x : Noting ι α) (f : α → Noting ι β) :
    noted (x >>= f) = noted x ++ noted (f (value x)) := rfl

@[simp] theorem noted_access (i : ι) : noted (access i) = [i] := rfl

variable (P : ι → Prop)

/-- All indices that are used satisfy `P`. -/
def Within (x : Noting ι α) : Prop := ∀ i ∈ noted x, P i

variable {P}

@[simp] theorem within_pure (a : α) : Within P (pure a : Noting ι α) := by
  intro i hi
  rw [noted_pure] at hi
  exact absurd hi List.not_mem_nil

@[simp] theorem within_access (i : ι) : Within P (access i) ↔ P i := by
  unfold Within
  rw [noted_access]
  simp

@[simp] theorem within_bind (x : Noting ι α) (f : α → Noting ι β) :
    Within P (x >>= f) ↔ Within P x ∧ Within P (f (value x)) := by
  unfold Within
  rw [noted_bind]
  exact List.forall_mem_append

/-- What is done with the value behind the last access does not count. -/
@[simp] theorem within_bind_pure (x : Noting ι α) (f : α → β) :
    Within P (x >>= fun a => pure (f a)) ↔ Within P x := by
  rw [within_bind]
  exact and_iff_left (within_pure _)

/-- A branch notes what it notes where it is taken. -/
theorem within_ite (p : Prop) [Decidable p] (x y : Noting ι α) :
    Within P (if p then x else y) ↔ (p → Within P x) ∧ (¬ p → Within P y) := by
  by_cases hp : p
  · rw [if_pos hp]
    simp [hp]
  · rw [if_neg hp]
    simp [hp]

/-- A loop with an invariant, each step of which is within `P` exactly if `Q` holds or the
element does not meet the condition `R`. -/
theorem within_foldlM (Inv : σ → Prop) (R : β → Prop) {Q : Prop} {f : σ → β → Noting ι σ}
    (hkeep : ∀ s b, Inv s → Inv (value (f s b)))
    (hstep : ∀ s b, Inv s → (Within P (f s b) ↔ (R b → Q))) (bs : List β) (s : σ) (hs : Inv s) :
    Within P (bs.foldlM f s) ↔ ((∃ b ∈ bs, R b) → Q) := by
  induction bs generalizing s with
  | nil => simp
  | cons b bs ih =>
      rw [List.foldlM_cons, within_bind, hstep s b hs, ih _ (hkeep s b hs)]
      constructor
      · rintro ⟨hb, hbs⟩ ⟨b', hb', hR⟩
        rcases List.mem_cons.mp hb' with rfl | hb'
        · exact hb hR
        · exact hbs ⟨b', hb', hR⟩
      · intro h
        constructor
        · intro hR
          exact h ⟨b, List.mem_cons_self, hR⟩
        · rintro ⟨b', hb', hR⟩
          exact h ⟨b', List.mem_cons_of_mem _ hb', hR⟩

end Accesses
