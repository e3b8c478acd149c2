/-
# Parties on an unreliable network

A party is a state machine that takes steps, sends messages and takes inputs from outside.
The network keeps everything that has ever been sent: it may bring a message to any party,
late, twice, in another order, or not at all.  What is collected here does not depend on what
the parties are:

* `Party` : the step, what has been sent, the inputs, and which steps are possible when certain
  messages are around;
* `Network`, `netStep`, `Possible` : the parties side by side, with the inputs so far;
* `guaranteed_run` : an invariant of the parties by rely and guarantee: each party keeps it as
  long as it gets only messages that the others guarantee, and its own messages are among those.
-/
import Libov.Runs

open Runs

namespace Networks

variable {ι σ ε μ κ : Type*}

/-- A party with the states `σ`, the steps `ε`, the messages `μ` and the inputs `κ`. -/
structure Party (σ ε μ κ : Type*) where
  step : σ → ε → σ
  /-- what the party has sent so far -/
  sent : σ → μ → Prop
  /-- what a step takes in from outside of the network -/
  input : σ → ε → List κ
  /-- the step is possible in a state when these messages are around -/
  possible : σ → (μ → Prop) → ε → Prop
  /-- More messages make more steps possible. -/
  possible_mono : ∀ s M N e, (∀ m, M m → N m) → possible s M e → possible s N e

/-- The parties, and what each of them has taken in so far. -/
structure Network (ι σ κ : Type*) where
  party : ι → σ
  inputs : List (ι × κ)

variable [DecidableEq ι] (P : Party σ ε μ κ)

/-- One step of one party. -/
def netStep (n : Network ι σ κ) (e : ι × ε) : Network ι σ κ where
  party := Function.update n.party e.1 (P.step (n.party e.1) e.2)
  inputs := n.inputs ++ (P.input (n.party e.1) e.2).map (Prod.mk e.1)

omit [DecidableEq ι] in
/-- The message has been sent by one of the parties. -/
def Sent (n : Network ι σ κ) (m : μ) : Prop := ∃ i, P.sent (n.party i) m

omit [DecidableEq ι] in
/-- The step is possible with the messages that have been sent. -/
def Possible (n : Network ι σ κ) (e : ι × ε) : Prop := P.possible (n.party e.1) (Sent P n) e.2

variable {P}

theorem party_netStep_self (n : Network ι σ κ) (i : ι) (e : ε) :
    (netStep P n (i, e)).party i = P.step (n.party i) e := Function.update_self ..

/-- A step leaves the other parties alone. -/
theorem party_netStep_of_ne (n : Network ι σ κ) {i j : ι} (e : ε) (h : j ≠ i) :
    (netStep P n (i, e)).party j = n.party j := Function.update_of_ne h ..

theorem inputs_netStep (n : Network ι σ κ) (i : ι) (e : ε) :
    (netStep P n (i, e)).inputs = n.inputs ++ (P.input (n.party i) e).map (Prod.mk i) := rfl

/-- Rely and guarantee: the invariant `I` may speak of the inputs so far, and survives further
ones; it makes all messages of a party ones that `G` guarantees; and a step keeps it that is
possible with guaranteed messages. -/
theorem guaranteed_run {I : ι → List (ι × κ) → σ → Prop} {G : List (ι × κ) → μ → Prop}
    (hmono : ∀ i l l' s, l <+: l' → I i l s → I i l' s)
    (hsent : ∀ i l s m, I i l s → P.sent s m → G l m)
    (hstep : ∀ i l s e, I i l s → P.possible s (G l) e →
      I i (l ++ (P.input s e).map (Prod.mk i)) (P.step s e))
    {n : Network ι σ κ} (hstart : ∀ i, I i n.inputs (n.party i)) {es : List (ι × ε)}
    (hes : AllSteps (netStep P) (Possible P) n es) (i : ι) :
    I i (run (netStep P) n es).inputs ((run (netStep P) n es).party i) := by
  refine invariant_run (I := fun n : Network ι σ κ => ∀ i, I i n.inputs (n.party i)) ?_ hstart hes i
  rintro n ⟨j, e⟩ hn hpossible i
  rw [inputs_netStep]
  by_cases hij : i = j
  · subst hij
    rw [party_netStep_self]
    refine hstep i _ _ e (hn i) (P.possible_mono _ _ _ e ?_ hpossible)
    -- whatever has been sent comes from a party that keeps the invariant
    rintro m ⟨k, hm⟩
    exact hsent k _ _ m (hn k) hm
  · rw [party_netStep_of_ne n e hij]
    exact hmono i _ _ _ (List.prefix_append _ _) (hn i)

end Networks
