/-
# Programs whose state survives an exception

A method of a C++ object reads and writes the members of the object and may
throw; what it wrote before the exception stays written.  `EStateM` is the monad
of such methods.  Collected here, for arbitrary states, exceptions and values:

* equations for the primitive programs and for a sequence `x >>= f`, split by
  whether `x` returns or throws;
* `Keeps` : a property of the state that a program keeps, also when it throws,
  with a rule for every way to build a program;
* `onPart` : a program that works on one member of a larger object;
* `Follows` : a program on a larger object that does to one member of it what another
  program does.
-/
import Mathlib

namespace Programs

variable {ε σ τ α β : Type}

/-! ## Running a program -/

/-- The state a program ends in, whether it returns or throws. -/
def stateAfter (x : EStateM ε σ α) (s : σ) : σ :=
  match x s with
  | .ok _ s' => s'
  | .error _ s' => s'

/-- The program throws. -/
def Throws (x : EStateM ε σ α) (s : σ) : Prop := ∃ e s', x s = .error e s'

/-- The state behind a program that returns. -/
theorem stateAfter_ok {x : EStateM ε σ α} {s s' : σ} {a : α} (h : x s = .ok a s') :
    stateAfter x s = s' := by
  rw [stateAfter, h]

/-- A program that throws leaves the state it had reached. -/
theorem stateAfter_error {x : EStateM ε σ α} {s s' : σ} {e : ε} (h : x s = .error e s') :
    stateAfter x s = s' := by
  rw [stateAfter, h]

/-- A program does not both return and throw. -/
theorem not_throws_of_ok {x : EStateM ε σ α} {s s' : σ} {a : α} (h : x s = .ok a s') :
    ¬ Throws x s := by
  rintro ⟨e, s'', he⟩
  rw [h] at he
  cases he

instance (x : EStateM ε σ α) (s : σ) : Decidable (Throws x s) :=
  match h : x s with
  | .ok _ _ => isFalse (not_throws_of_ok h)
  | .error e s' => isTrue ⟨e, s', h⟩

/-- A program that does not throw returns. -/
theorem ok_of_not_throws {x : EStateM ε σ α} {s : σ} (h : ¬ Throws x s) :
    ∃ a, x s = .ok a (stateAfter x s) := by
  rcases hx : x s with ⟨a, s'⟩ | ⟨e, s'⟩
  · exact ⟨a, by rw [stateAfter_ok hx]⟩
  · exact absurd ⟨e, s', hx⟩ h

@[simp] theorem pure_apply (a : α) (s : σ) : (pure a : EStateM ε σ α) s = .ok a s := rfl

@[simp] theorem get_apply (s : σ) : (get : EStateM ε σ σ) s = .ok s s := rfl

@[simp] theorem set_apply (s s' : σ) : (set s' : EStateM ε σ PUnit) s = .ok ⟨⟩ s' := rfl

@[simp] theorem modify_apply (f : σ → σ) (s : σ) :
    (modify f : EStateM ε σ PUnit) s = .ok ⟨⟩ (f s) := rfl

@[simp] theorem throw_apply (e : ε) (s : σ) : (throw e : EStateM ε σ α) s = .error e s := rfl

/-- A sequence continues where its first program returned. -/
theorem bind_of_ok {x : EStateM ε σ α} {f : α → EStateM ε σ β} {s s' : σ} {a : α}
    (h : x s = .ok a s') : (x >>= f) s = f a s' := by
  show EStateM.bind x f s = f a s'
  rw [EStateM.bind, h]

/-- A sequence ends where its first program threw. -/
theorem bind_of_error {x : EStateM ε σ α} {f : α → EStateM ε σ β} {s s' : σ} {e : ε}
    (h : x s = .error e s') : (x >>= f) s = .error e s' := by
  show EStateM.bind x f s = .error e s'
  rw [EStateM.bind, h]

/-- A sequence that returns is two programs that return. -/
theorem bind_eq_ok {x : EStateM ε σ α} {f : α → EStateM ε σ β} {s s'' : σ} {b : β} :
    (x >>= f) s = .ok b s'' ↔ ∃ a s', x s = .ok a s' ∧ f a s' = .ok b s'' := by
  constructor
  · intro h
    rcases hx : x s with ⟨a, s'⟩ | ⟨e, s'⟩
    · exact ⟨a, s', rfl, by rw [← h, bind_of_ok hx]⟩
    · rw [bind_of_error hx] at h
      cases h
  · rintro ⟨a, s', hx, hf⟩
    rw [bind_of_ok hx, hf]

/-- A sequence throws if its first program does. -/
theorem throws_bind_left {x : EStateM ε σ α} {s : σ} (h : Throws x s) (f : α → EStateM ε σ β) :
    Throws (x >>= f) s := by
  obtain ⟨e, s', hx⟩ := h
  exact ⟨e, s', bind_of_error hx⟩

/-- It throws as well if the second program does, from where the first one has ended. -/
theorem throws_bind_right {x : EStateM ε σ α} {f : α → EStateM ε σ β} {s s' : σ} {a : α}
    (hx : x s = .ok a s') (h : Throws (f a) s') : Throws (x >>= f) s := by
  obtain ⟨e, s'', hf⟩ := h
  exact ⟨e, s'', by rw [bind_of_ok hx, hf]⟩

@[simp] theorem get_bind_apply (f : σ → EStateM ε σ β) (s : σ) : (get >>= f) s = f s s := rfl

@[simp] theorem modify_bind_apply (g : σ → σ) (f : PUnit → EStateM ε σ β) (s : σ) :
    (modify g >>= f) s = f ⟨⟩ (g s) := rfl

/-! ## Values that may be exceptions -/

/-- A sequence of values has a value where both of them do. -/
theorem exceptBind_eq_ok {x : Except ε α} {f : α → Except ε β} {b : β} :
    (x >>= f) = .ok b ↔ ∃ a, x = .ok a ∧ f a = .ok b := by
  constructor
  · intro h
    cases x with
    | ok a => exact ⟨a, rfl, h⟩
    | error e => cases h
  · rintro ⟨a, rfl, h⟩
    exact h

@[simp] theorem ofExcept_ok (a : α) (s : σ) :
    (ofExcept (.ok a) : EStateM ε σ α) s = .ok a s := rfl

@[simp] theorem ofExcept_error (e : ε) (s : σ) :
    (ofExcept (.error e) : EStateM ε σ α) s = .error e s := rfl

/-- A result that was computed beforehand leaves the state alone. -/
theorem ofExcept_eq_ok {r : Except ε α} {a : α} {s s' : σ} :
    (ofExcept r : EStateM ε σ α) s = .ok a s' ↔ r = .ok a ∧ s' = s := by
  cases r with
  | ok b =>
      simp only [ofExcept_ok, EStateM.Result.ok.injEq, Except.ok.injEq]
      exact and_congr_right fun _ => eq_comm
  | error e =>
      simp only [ofExcept_error, reduceCtorEq, false_and]

/-- Nor does the state change where a sequence begins with such a result. -/
theorem ofExcept_bind_eq_ok {r : Except ε α} {f : α → EStateM ε σ β} {s s' : σ} {b : β} :
    (ofExcept r >>= f) s = .ok b s' ↔ ∃ a, r = .ok a ∧ f a s = .ok b s' := by
  rw [bind_eq_ok]
  constructor
  · rintro ⟨a, t, hr, hf⟩
    obtain ⟨ha, rfl⟩ := ofExcept_eq_ok.1 hr
    exact ⟨a, ha, hf⟩
  · rintro ⟨a, ha, hf⟩
    exact ⟨a, s, ofExcept_eq_ok.2 ⟨ha, rfl⟩, hf⟩

/-- Throw a wrapped exception instead of the one met. -/
def wrapping (w : ε → ε) (x : EStateM ε σ α) : EStateM ε σ α := fun s =>
  match x s with
  | .ok a s' => .ok a s'
  | .error e s' => .error (w e) s'

/-- Wrapping is seen on exceptions only. -/
theorem wrapping_eq_ok {w : ε → ε} {x : EStateM ε σ α} {s s' : σ} {a : α} :
    wrapping w x s = .ok a s' ↔ x s = .ok a s' := by
  rw [wrapping]
  rcases x s with ⟨b, t⟩ | ⟨e, t⟩
  · rfl
  · simp only [reduceCtorEq]

/-- A wrapped exception leaves the same state behind. -/
@[simp] theorem stateAfter_wrapping (w : ε → ε) (x : EStateM ε σ α) (s : σ) :
    stateAfter (wrapping w x) s = stateAfter x s := by
  rw [stateAfter, stateAfter, wrapping]
  rcases x s with ⟨b, t⟩ | ⟨e, t⟩ <;> rfl

/-- Run a program and go on behind it, also when it throws. -/
def caught (x : EStateM ε σ α) : EStateM ε σ PUnit := fun s => .ok ⟨⟩ (stateAfter x s)

/-- Whatever happens in it, a caught program returns. -/
@[simp] theorem caught_apply (x : EStateM ε σ α) (s : σ) :
    caught x s = .ok ⟨⟩ (stateAfter x s) := rfl

/-- Run a program only where a condition holds. -/
def onlyIf (c : Bool) (x : EStateM ε σ PUnit) : EStateM ε σ PUnit := if c then x else pure ⟨⟩

/-- Under a condition that holds, the program is run. -/
theorem onlyIf_of_true {c : Bool} (h : c = true) (x : EStateM ε σ PUnit) : onlyIf c x = x :=
  if_pos h

/-- Otherwise nothing is done. -/
theorem onlyIf_of_false {c : Bool} (h : c = false) (x : EStateM ε σ PUnit) :
    onlyIf c x = pure ⟨⟩ := by
  rw [onlyIf, h, if_neg Bool.false_ne_true]

/-- Throw where a condition holds. -/
def throwIf (c : Bool) (e : ε) : EStateM ε σ PUnit := onlyIf c (throw e)

/-- The exception is thrown if the condition holds. -/
theorem throwIf_of_true {c : Bool} (h : c = true) (e : ε) (s : σ) :
    (throwIf c e : EStateM ε σ PUnit) s = .error e s := by
  rw [throwIf, onlyIf_of_true h]
  rfl

/-- The same as a statement about throwing. -/
theorem throws_throwIf {c : Bool} (h : c = true) (e : ε) (s : σ) :
    Throws (throwIf c e : EStateM ε σ PUnit) s :=
  ⟨e, s, throwIf_of_true h e s⟩

/-- Without the condition nothing happens. -/
theorem throwIf_of_false {c : Bool} (h : c = false) (e : ε) (s : σ) :
    (throwIf c e : EStateM ε σ PUnit) s = .ok ⟨⟩ s := by
  rw [throwIf, onlyIf_of_false h]
  rfl

/-! ## What a program keeps -/

/-- The property holds after the program if it held before, whether the program
returns or throws. -/
def Keeps (P : σ → Prop) (x : EStateM ε σ α) : Prop := ∀ s, P s → P (stateAfter x s)

namespace Keeps

variable {P : σ → Prop} {x : EStateM ε σ α}

/-- What is kept holds in particular where the program returns. -/
theorem of_ok (h : Keeps P x) {s s' : σ} {a : α} (hs : P s) (hx : x s = .ok a s') : P s' := by
  have hafter := h s hs
  rwa [stateAfter_ok hx] at hafter

/-- A program without effect keeps everything. -/
theorem of_pure (a : α) : Keeps P (pure a : EStateM ε σ α) := fun _ hs => hs

theorem of_get : Keeps P (get : EStateM ε σ σ) := fun _ hs => hs

theorem of_throw (e : ε) : Keeps P (throw e : EStateM ε σ α) := fun _ hs => hs

/-- An assignment keeps what it is shown to keep. -/
theorem of_modify {f : σ → σ} (h : ∀ s, P s → P (f s)) :
    Keeps P (modify f : EStateM ε σ PUnit) := h

/-- A result that was computed beforehand keeps everything. -/
theorem of_except (r : Except ε α) : Keeps P (ofExcept r : EStateM ε σ α) := by
  intro s hs
  cases r with
  | ok a => exact hs
  | error e => exact hs

/-- What holds behind the first program of a sequence and is kept by the second holds
behind the sequence. -/
theorem behind {f : α → EStateM ε σ β} {s : σ} (hx : P (stateAfter x s))
    (hf : ∀ a, Keeps P (f a)) : P (stateAfter (x >>= f) s) := by
  rcases hres : x s with ⟨a, s'⟩ | ⟨e, s'⟩
  · rw [stateAfter_ok hres] at hx
    rw [stateAfter, bind_of_ok hres]
    exact hf a s' hx
  · rw [stateAfter_error hres] at hx
    rwa [stateAfter_error (bind_of_error hres)]

/-- A sequence keeps what both of its programs keep. -/
theorem bind {f : α → EStateM ε σ β} (hx : Keeps P x) (hf : ∀ a, Keeps P (f a)) :
    Keeps P (x >>= f) := fun s hs => behind (hx s hs) hf

/-- The second program of a sequence runs only where the first one has returned. -/
theorem bind_ok {f : α → EStateM ε σ β} (hx : Keeps P x)
    (hf : ∀ s a s', x s = .ok a s' → P s' → P (stateAfter (f a) s')) : Keeps P (x >>= f) := by
  intro s hs
  have hafter := hx s hs
  rcases hres : x s with ⟨a, s'⟩ | ⟨e, s'⟩
  · rw [stateAfter_ok hres] at hafter
    rw [stateAfter, bind_of_ok hres]
    exact hf s a s' hres hafter
  · rw [stateAfter_error hres] at hafter
    rwa [stateAfter_error (bind_of_error hres)]

/-- A program under a condition keeps what it keeps without. -/
theorem onlyIf {c : Bool} {y : EStateM ε σ PUnit} (hy : Keeps P y) : Keeps P (onlyIf c y) := by
  cases c with
  | true => exact hy
  | false => exact of_pure _

/-- An exception changes no state. -/
theorem throwIf (c : Bool) (e : ε) : Keeps P (throwIf c e : EStateM ε σ PUnit) :=
  onlyIf (of_throw e)

/-- Wrapping an exception does not change what is kept. -/
theorem wrapping (w : ε → ε) (h : Keeps P x) : Keeps P (wrapping w x) := by
  intro s hs
  rw [stateAfter_wrapping]
  exact h s hs

/-- Nor does catching it. -/
theorem caught (h : Keeps P x) : Keeps P (caught x) := h

/-- Either branch keeps the property. -/
theorem ite {c : Prop} [Decidable c] {y : EStateM ε σ α} (hx : Keeps P x) (hy : Keeps P y) :
    Keeps P (if c then x else y) := by
  split
  · exact hx
  · exact hy

end Keeps

/-! ## Programs on a part of the state -/

/-- Run a program on a part of the state that `read` finds and `write` replaces. -/
def onPart (read : τ → σ) (write : σ → τ → τ) (x : EStateM ε σ α) : EStateM ε τ α := fun t =>
  match x (read t) with
  | .ok a s => .ok a (write s t)
  | .error e s => .error e (write s t)

/-- A program on a part returns if it does on the part alone. -/
theorem onPart_eq_ok {read : τ → σ} {write : σ → τ → τ} {x : EStateM ε σ α} {t t' : τ} {a : α} :
    onPart read write x t = .ok a t' ↔ ∃ s, x (read t) = .ok a s ∧ write s t = t' := by
  rw [onPart]
  rcases x (read t) with ⟨b, s⟩ | ⟨e, s⟩
  · simp only [EStateM.Result.ok.injEq, and_assoc]
    constructor
    · rintro ⟨hb, hs⟩
      exact ⟨s, hb, rfl, hs⟩
    · rintro ⟨s', hb, rfl, hs⟩
      exact ⟨hb, hs⟩
  · simp only [reduceCtorEq, false_and, exists_false]

/-- The state behind it is the old one with the new part. -/
theorem stateAfter_onPart (read : τ → σ) (write : σ → τ → τ) (x : EStateM ε σ α) (t : τ) :
    stateAfter (onPart read write x) t = write (stateAfter x (read t)) t := by
  rw [stateAfter, onPart, stateAfter]
  rcases x (read t) with ⟨b, s⟩ | ⟨e, s⟩ <;> rfl

/-- A program on a part keeps what no replacement of the part can change. -/
theorem Keeps.onPart {P : τ → Prop} {read : τ → σ} {write : σ → τ → τ}
    (h : ∀ s t, P t → P (write s t)) (x : EStateM ε σ α) : Keeps P (onPart read write x) := by
  intro t ht
  rw [stateAfter_onPart]
  exact h _ t ht

/-! ## Programs on a larger state -/

/-- The outcome of a program, with a part of the state only. -/
def mapState (read : τ → σ) : EStateM.Result ε τ α → EStateM.Result ε σ α
  | .ok a t => .ok a (read t)
  | .error e t => .error e (read t)

/-- The program `x` does to the part of its state that `read` finds what `y` does to it. -/
def Follows (read : τ → σ) (x : EStateM ε τ α) (y : EStateM ε σ α) : Prop :=
  ∀ t, mapState read (x t) = y (read t)

namespace Follows

variable {read : τ → σ} {x : EStateM ε τ α} {y : EStateM ε σ α}

/-- The two programs end in states that correspond, whether they return or throw. -/
theorem stateAfter (h : Follows read x y) (t : τ) :
    read (stateAfter x t) = Programs.stateAfter y (read t) := by
  rw [Programs.stateAfter, Programs.stateAfter, ← h t]
  rcases x t with ⟨a, t'⟩ | ⟨e, t'⟩
  · rfl
  · rfl

/-- What the larger program returns with. -/
theorem ok (h : Follows read x y) {t t' : τ} {a : α} (hx : x t = .ok a t') :
    y (read t) = .ok a (read t') := by
  rw [← h t, hx]
  rfl

/-- Sequences follow each other if their programs do. -/
theorem bind {f : α → EStateM ε τ β} {g : α → EStateM ε σ β} (hx : Follows read x y)
    (hf : ∀ a, Follows read (f a) (g a)) : Follows read (x >>= f) (y >>= g) := by
  intro t
  rcases hres : x t with ⟨a, t'⟩ | ⟨e, t'⟩
  · rw [bind_of_ok hres, bind_of_ok (hx.ok hres)]
    exact hf a t'
  · have hy : y (read t) = .error e (read t') := by
      rw [← hx t, hres]
      rfl
    rw [bind_of_error hres, bind_of_error hy]
    rfl

/-- So do programs without effect. -/
theorem of_pure (a : α) : Follows read (pure a : EStateM ε τ α) (pure a : EStateM ε σ α) :=
  fun _ => rfl

/-- So do programs under the same condition. -/
theorem onlyIf {c : Bool} {x : EStateM ε τ PUnit} {y : EStateM ε σ PUnit}
    (h : Follows read x y) : Follows read (onlyIf c x) (onlyIf c y) := by
  cases c with
  | true => exact h
  | false => exact of_pure _

/-- So do programs whose exceptions are caught. -/
theorem caught (h : Follows read x y) : Follows read (caught x) (caught y) := by
  intro t
  rw [caught_apply, caught_apply, ← h.stateAfter]
  rfl

/-- A step that does not touch the part is not seen there. -/
theorem behind_modify {g : τ → τ} (hg : ∀ t, read (g t) = read t) (h : Follows read x y) :
    Follows read (modify g >>= fun _ => x) y := by
  intro t
  rw [modify_bind_apply, h (g t), hg]

/-- A program on a part that is read as it has been written. -/
theorem of_onPart {write : σ → τ → τ} (hwrite : ∀ s t, read (write s t) = s) :
    Follows read (onPart read write y) y := by
  intro t
  rw [onPart]
  rcases y (read t) with ⟨a, s⟩ | ⟨e, s⟩
  · exact congrArg (EStateM.Result.ok a) (hwrite s t)
  · exact congrArg (EStateM.Result.error e) (hwrite s t)

end Follows

end Programs
