import Mathlib.Algebra.Ring.Parity
import SteadyLink.Policy.Backoff
import SteadyLink.Proofs.Seconds

/-!
# Backoff delays

Delays grow from attempt to attempt and stay between the floor and the ceiling, whatever the policy.
Powers are computed from the lowest bit of the exponent up, and each product is rounded. The next
exponent turns the ones at the low end into zeros and the zero above them into a one: the factor that
comes in is no less than the rounded product of those that go, and from there on both computations
multiply by the same factors.
-/

namespace SteadyLink.Proofs

open Number

section Powers

variable {acc acc' f : Magnitude} {n : Nat}

lemma powerFrom_zero (acc f : Magnitude) : acc.powerFrom f 0 = acc := by
  rw [Magnitude.powerFrom]
  rfl

lemma powerFrom_even (acc f : Magnitude) (n : Nat) :
    acc.powerFrom f (2 * n) = acc.powerFrom (f.mul f) n := by
  by_cases none : n = 0
  · rw [none, Nat.mul_zero, powerFrom_zero, powerFrom_zero]
  · rw [Magnitude.powerFrom]
    simp only [Nat.mul_mod_right, Nat.zero_ne_one, if_false]
    rw [if_neg (by omega), Nat.mul_div_cancel_left n (by decide)]

lemma powerFrom_odd (acc f : Magnitude) (n : Nat) :
    acc.powerFrom f (2 * n + 1) = (acc.mul f).powerFrom (f.mul f) n := by
  have bit : (2 * n + 1) % 2 = 1 := by omega
  have rest : (2 * n + 1) / 2 = n := by omega
  rw [Magnitude.powerFrom]
  simp only [bit, rest, if_true]
  by_cases none : n = 0
  · rw [if_pos (by omega), none, powerFrom_zero]
  · rw [if_neg (by omega)]

lemma powerFrom_mono (h : acc ≤ acc') (f : Magnitude) (n : Nat) :
    acc.powerFrom f n ≤ acc'.powerFrom f n := by
  induction n using Nat.strong_induction_on generalizing acc acc' f with
  | _ n ih =>
    by_cases none : n = 0
    · rw [none, powerFrom_zero, powerFrom_zero]
      exact h
    · rcases Nat.even_or_odd' n with ⟨m, rfl | rfl⟩
      · rw [powerFrom_even, powerFrom_even]
        exact ih m (by omega) h _
      · rw [powerFrom_odd, powerFrom_odd]
        exact ih m (by omega) (mul_mono h (le_refl f)) _

/-- The accumulator holds the product for the ones that were read so far, which are those that the
next exponent turns into zeros; it is no greater than the factor for the next bit. -/
theorem powerFrom_succ (h : acc ≤ f) (n : Nat) :
    acc.powerFrom f n ≤ Magnitude.one.powerFrom f (n + 1) := by
  induction n using Nat.strong_induction_on generalizing acc f with
  | _ n ih =>
    rcases Nat.even_or_odd' n with ⟨m, rfl | rfl⟩
    · rw [powerFrom_even, powerFrom_odd, one_times]
      exact powerFrom_mono h _ m
    · rw [powerFrom_odd, show 2 * m + 1 + 1 = 2 * (m + 1) by omega, powerFrom_even]
      exact ih m (by omega) (mul_mono h (le_refl f))

theorem power_succ (h : .one ≤ f) (n : Nat) : f.power n ≤ f.power (n + 1) := powerFrom_succ h n

end Powers

/-! ## Bounds -/

section Delays

variable {d d' : Duration} (b : Backoff) (n : Nat)

lemma nanos_longer (d d' : Duration) : (d.longer d').nanos = max d.nanos d'.nanos := by
  unfold Duration.longer
  split <;> omega

lemma nanos_shorter (d d' : Duration) : (d.shorter d').nanos = min d.nanos d'.nanos := by
  unfold Duration.shorter
  split <;> omega

lemma one_le_growth : Magnitude.one ≤ b.growth := by
  unfold Backoff.growth
  split
  · exact le_refl _
  · split
    · exact le_refl _
    · next m _ h =>
      have least : ¬m.pattern < Magnitude.one.pattern := fun below => h (by simp [below])
      exact Nat.le_of_not_lt least

lemma seconds_succ : b.seconds n ≤ b.seconds (n + 1) := by
  unfold Backoff.seconds
  apply mul_mono (le_refl b.floor.toSeconds)
  by_cases last : Backoff.exponentLimit ≤ n
  · rw [Nat.min_eq_right last, Nat.min_eq_right (Nat.le_succ_of_le last)]
  · rw [Nat.min_eq_left (by omega), Nat.min_eq_left (by omega)]
    exact power_succ (one_le_growth b) n

lemma floor_le_ceiling : b.floor ≤ b.ceiling := Duration.le_longer _ _

lemma delayForAttempt_eq : b.delayForAttempt n = if b.isCapped n then b.ceiling
    else ((Duration.ofSeconds (b.seconds n)).longer b.floor).shorter b.ceiling := rfl

lemma delay_capped (h : b.isCapped n = true) : b.delayForAttempt n = b.ceiling := by
  rw [delayForAttempt_eq, if_pos h]

lemma delay_bounded (h : b.isCapped n = false) :
    b.delayForAttempt n = ((Duration.ofSeconds (b.seconds n)).longer b.floor).shorter b.ceiling := by
  rw [delayForAttempt_eq, if_neg (Bool.eq_false_iff.mp h)]

lemma seconds_lt (h : b.isCapped n = false) : b.seconds n < b.ceiling.toSeconds := by
  show (b.seconds n).pattern < b.ceiling.toSeconds.pattern
  apply Nat.lt_of_not_le
  intro reached
  simp [Backoff.isCapped, reached] at h

lemma isCapped_succ (h : b.isCapped n = true) : b.isCapped (n + 1) = true := by
  have grows := seconds_succ b n
  unfold Backoff.isCapped at *
  rcases Bool.or_eq_true_iff.mp h with infinite | reached
  · simp [isInfinite_mono grows infinite]
  · have patterns : (b.seconds n).pattern ≤ (b.seconds (n + 1)).pattern := grows
    have further := Nat.le_trans (of_decide_eq_true reached) patterns
    simp [further]

theorem delay?_eq : b.delay? n = some (b.delayForAttempt n) := by
  unfold Backoff.delay?
  cases h : b.isCapped n with
  | true => rw [if_pos rfl, delay_capped b n h]
  | false =>
    have short := lt_of_lt_of_le (seconds_lt b n h) (toSeconds_le _)
    rw [if_neg nofun, ofSeconds?_eq_some short, Option.bind_some, Duration.within?,
      if_pos (floor_le_ceiling b), delay_bounded b n h]

lemma floor_le_delay : b.floor ≤ b.delayForAttempt n := by
  have bounds := floor_le_ceiling b
  cases h : b.isCapped n with
  | true => rwa [delay_capped b n h]
  | false =>
    rw [le_iff_nanos] at bounds
    rw [delay_bounded b n h, le_iff_nanos, nanos_shorter, nanos_longer]
    omega

lemma delay_le_ceiling : b.delayForAttempt n ≤ b.ceiling := by
  rw [le_iff_nanos]
  cases h : b.isCapped n with
  | true => rw [delay_capped b n h]
  | false =>
    rw [delay_bounded b n h, nanos_shorter]
    omega

lemma delay_succ : b.delayForAttempt n ≤ b.delayForAttempt (n + 1) := by
  cases h' : b.isCapped (n + 1) with
  | true =>
    rw [delay_capped b (n + 1) h']
    exact delay_le_ceiling b n
  | false =>
    have h : b.isCapped n = false :=
      Bool.eq_false_iff.mpr fun capped => Bool.eq_false_iff.mp h' (isCapped_succ b n capped)
    have nearest := le_iff_nanos.mp (ofSeconds_mono (seconds_succ b n))
    rw [delay_bounded b n h, delay_bounded b (n + 1) h', le_iff_nanos, nanos_shorter, nanos_shorter,
      nanos_longer, nanos_longer]
    omega

/-- Whatever the policy, the delay for an attempt is found, it is not below the floor and not above
the ceiling, and the next attempt waits no less. -/
theorem delays_bounded_monotone (b : Backoff) (n : Nat) :
    b.delay? n = some (b.delayForAttempt n) ∧ b.floor ≤ b.delayForAttempt n ∧
      b.delayForAttempt n ≤ b.delayForAttempt (n + 1) ∧ b.delayForAttempt (n + 1) ≤ b.ceiling :=
  ⟨delay?_eq b n, floor_le_delay b n, delay_succ b n, delay_le_ceiling b (n + 1)⟩

end Delays

end SteadyLink.Proofs
