/-
# The receive timeout of the session

The reorder deadline of a client is the receive timeout of its socket: the thread that receives
looks at the end of the session once per timeout.  Milliseconds become microseconds, which
`set_timeout_usec` hands to the socket in a `struct timeval` without whole seconds.

* `constructorTimeout`, `setReorderDeadline` : what is handed to the socket;
* `deadlineUsec_pos_iff`, `deadlineUsec_lt_iff` : the two ends of the range;
* `receiveTimeout_run` : the timeout of the socket in a session of admitted deadlines;
* `socket_timeout_iff` : the deadlines whose timeout is finite and normalised.

Deadlines are exact numbers.
-/
import Libov.Json
import Libov.Runs

open Runs

namespace Libov

/-! ## The socket option -/

/-- `struct timeval`. -/
structure Timeval where
  tvSec : ℤ
  tvUsec : ℤ
  deriving DecidableEq

namespace Timeval

/-- The microseconds are less than a second. -/
def Normalised (tv : Timeval) : Prop := 0 ≤ tv.tvUsec ∧ tv.tvUsec < 1000000

instance (tv : Timeval) : Decidable tv.Normalised := inferInstanceAs (Decidable (_ ∧ _))

/-- In microseconds. -/
def duration (tv : Timeval) : ℤ := tv.tvSec * 1000000 + tv.tvUsec

end Timeval

/-- `udpsocket_t::set_timeout_usec`: the structure that it fills. -/
def setTimeoutUsec (usec : ℤ) : Timeval where
  tvSec := 0
  tvUsec := usec

/-! ## The deadline -/

/-- `(int)(1000.0 * std::min(1e3, t_ms))`; the value fits into an `int`. -/
def deadlineUsec (tMs : ℚ) : ℤ := Json.truncate (1000 * min 1000 tMs)

/-- What the constructor of `ovboxclient_t` hands to the new socket. -/
def constructorTimeout (deadline : ℚ) : Option Timeval :=
  if 0 < deadline then some (setTimeoutUsec (deadlineUsec deadline)) else none

/-- What `set_reorder_deadline` hands to the socket. -/
def setReorderDeadline (tMs : ℚ) : Option Timeval :=
  if 0 < tMs then some (setTimeoutUsec (deadlineUsec tMs)) else none

/-- The deadlines from one microsecond on and below one second. -/
def AdmittedDeadline (tMs : ℚ) : Prop := 1 / 1000 ≤ tMs ∧ tMs < 1000

/-! ## Microseconds -/

/-- For a number that is not negative the part before the fraction is its floor. -/
theorem truncate_eq_floor {q : ℚ} (hq : 0 ≤ q) : Json.truncate q = ⌊q⌋ := by
  rw [Json.truncate, Rat.floor_def', Int.tdiv_eq_ediv_of_nonneg (Rat.num_nonneg.mpr hq)]

theorem deadlineUsec_eq {tMs : ℚ} (h : 0 < tMs) : deadlineUsec tMs = ⌊1000 * min 1000 tMs⌋ := by
  have hmin : 0 < min 1000 tMs := lt_min (by norm_num) h
  rw [deadlineUsec, truncate_eq_floor (by linarith)]

/-- Something is left of a deadline from one microsecond on. -/
theorem deadlineUsec_pos_iff {tMs : ℚ} (h : 0 < tMs) : 0 < deadlineUsec tMs ↔ 1 / 1000 ≤ tMs := by
  rw [deadlineUsec_eq h, Int.floor_pos]
  constructor
  · intro hone
    have hle : min 1000 tMs ≤ tMs := min_le_right _ _
    linarith
  · intro hone
    have hle : 1 / 1000 ≤ min 1000 tMs := le_min (by norm_num) hone
    linarith

/-- The largest deadline gives a whole second. -/
theorem deadlineUsec_lt_iff {tMs : ℚ} (h : 0 < tMs) : deadlineUsec tMs < 1000000 ↔ tMs < 1000 := by
  rw [deadlineUsec_eq h, Int.floor_lt]
  constructor
  · intro hlt
    by_contra hge
    rw [min_eq_left (not_lt.mp hge)] at hlt
    norm_num at hlt
  · intro hlt
    rw [min_eq_right hlt.le]
    push_cast
    linarith

/-! ## The timeout -/

/-- The timeout that the socket needs: normalised, not zero, and less than a second. -/
def Timeval.Finite (tv : Timeval) : Prop :=
  tv.Normalised ∧ 0 < tv.duration ∧ tv.duration < 1000000

/-- Without whole seconds the two ends of the range are those of the microseconds. -/
theorem finite_setTimeoutUsec_iff {usec : ℤ} :
    (setTimeoutUsec usec).Finite ↔ 0 < usec ∧ usec < 1000000 := by
  have hduration : (setTimeoutUsec usec).duration = usec := by
    simp [Timeval.duration, setTimeoutUsec]
  unfold Timeval.Finite
  rw [hduration]
  constructor
  · rintro ⟨-, hrange⟩
    exact hrange
  · rintro ⟨hpos, hlt⟩
    exact ⟨⟨hpos.le, hlt⟩, hpos, hlt⟩

section Socket

/-! The receive timeout of a socket is what `setsockopt` has made of the structures that it was
given; of that function only what it does with a structure that is normalised and not zero. -/

variable {Socket : Type} (setReceiveTimeout : Socket → Timeval → Socket)
  (receiveTimeout : Socket → Option ℤ)

/-- The socket behind what the constructor or `set_reorder_deadline` hands to it. -/
def withTimeout (socket : Socket) (handed : Option Timeval) : Socket :=
  handed.elim socket (setReceiveTimeout socket)

/-- A step of the session: a deadline that is set. -/
def deadlineStep (socket : Socket) (tMs : ℚ) : Socket :=
  withTimeout setReceiveTimeout socket (setReorderDeadline tMs)

/-- In a session that begins with an admitted deadline, and whose later ones are admitted or not
positive, a receiving call always waits for less than a second. -/
theorem receiveTimeout_run
    (hset : ∀ socket (tv : Timeval), tv.Normalised → 0 < tv.duration →
      receiveTimeout (setReceiveTimeout socket tv) = some tv.duration)
    {deadline : ℚ} (hdeadline : AdmittedDeadline deadline) {socket : Socket} {ts : List ℚ}
    (hts : AllSteps (deadlineStep setReceiveTimeout) (fun _ t => 0 < t → AdmittedDeadline t)
      (withTimeout setReceiveTimeout socket (constructorTimeout deadline)) ts) :
    ∃ w, receiveTimeout (run (deadlineStep setReceiveTimeout)
        (withTimeout setReceiveTimeout socket (constructorTimeout deadline)) ts) = some w ∧
      0 < w ∧ w < 1000000 := by
  have hadmitted : ∀ (socket : Socket) (t : ℚ), 0 < t → AdmittedDeadline t →
      ∃ w, receiveTimeout (setReceiveTimeout socket (setTimeoutUsec (deadlineUsec t))) = some w ∧
        0 < w ∧ w < 1000000 := by
    intro socket t hpos ht
    obtain ⟨hnormalised, hrange⟩ := finite_setTimeoutUsec_iff.mpr
      ⟨(deadlineUsec_pos_iff hpos).mpr ht.1, (deadlineUsec_lt_iff hpos).mpr ht.2⟩
    exact ⟨_, hset socket _ hnormalised hrange.1, hrange⟩
  apply invariant_run
    (I := fun s : Socket => ∃ w, receiveTimeout s = some w ∧ 0 < w ∧ w < 1000000) ?_ ?_ hts
  · intro s t hlimit ht
    unfold deadlineStep setReorderDeadline
    by_cases hpos : 0 < t
    · rw [if_pos hpos]
      exact hadmitted s t hpos (ht hpos)
    · rw [if_neg hpos]
      exact hlimit
  · have hpos : 0 < deadline := lt_of_lt_of_le (by norm_num) hdeadline.1
    unfold constructorTimeout
    rw [if_pos hpos]
    exact hadmitted socket deadline hpos hdeadline

end Socket

/-- A positive deadline gives the socket a timeout that is finite and normalised exactly from one
microsecond on and below the second to which it is limited. -/
theorem socket_timeout_iff (tMs : ℚ) (h : 0 < tMs) :
    ((∃ tv, constructorTimeout tMs = some tv ∧ tv.Finite) ∧
        ∃ tv, setReorderDeadline tMs = some tv ∧ tv.Finite) ↔
      1 / 1000 ≤ tMs ∧ tMs < 1000 := by
  have hfinite : (setTimeoutUsec (deadlineUsec tMs)).Finite ↔ 1 / 1000 ≤ tMs ∧ tMs < 1000 := by
    rw [finite_setTimeoutUsec_iff, deadlineUsec_pos_iff h, deadlineUsec_lt_iff h]
  unfold constructorTimeout setReorderDeadline
  rw [if_pos h, ← hfinite, and_self]
  constructor
  · rintro ⟨tv, htv, hgood⟩
    rw [Option.some.inj htv]
    exact hgood
  · intro hgood
    exact ⟨_, rfl, hgood⟩

/-- The deadline that a renderer begins with. -/
theorem socket_timeout_five :
    (∃ tv, constructorTimeout 5 = some tv ∧ tv.Finite) ∧
      ∃ tv, setReorderDeadline 5 = some tv ∧ tv.Finite :=
  (socket_timeout_iff 5 (by norm_num)).mpr (by norm_num)

/-- Half a microsecond becomes a timeout of zero, and one second becomes a structure that is not
normalised. -/
theorem socket_timeout_ends :
    (constructorTimeout (1 / 2000) = some ⟨0, 0⟩ ∧ Timeval.duration ⟨0, 0⟩ = 0 ∧
        ¬ ∃ tv, constructorTimeout (1 / 2000) = some tv ∧ tv.Finite) ∧
      setReorderDeadline 1000 = some ⟨0, 1000000⟩ ∧ ¬ Timeval.Normalised ⟨0, 1000000⟩ ∧
        ¬ ∃ tv, setReorderDeadline 1000 = some tv ∧ tv.Finite := by
  have hshort : constructorTimeout (1 / 2000) = some ⟨0, 0⟩ := by decide +kernel
  have hlong : setReorderDeadline 1000 = some ⟨0, 1000000⟩ := by decide +kernel
  have hrefused : ¬ Timeval.Normalised ⟨0, 1000000⟩ := by decide
  refine ⟨⟨hshort, rfl, ?_⟩, hlong, hrefused, ?_⟩
  · rintro ⟨tv, htv, -, hpos, -⟩
    rw [hshort] at htv
    rw [← Option.some.inj htv] at hpos
    exact lt_irrefl 0 hpos
  · rintro ⟨tv, htv, hnormalised, -⟩
    rw [hlong] at htv
    rw [← Option.some.inj htv] at hnormalised
    exact hrefused hnormalised

end Libov
