import SteadyLink.Proofs.BackoffDelays

/-!
# Jittered delays

However chance falls, jitter takes a delay neither below the floor of its policy nor above the delay
before jitter. Jitter works with whole milliseconds and keeps 64 bits of their number. Of a delay with
more milliseconds it sees what is left of the number, which is less, so that the bounds hold there too.
-/

namespace SteadyLink.Proofs

section Jitter

variable {n : Nat} (chance : Chance) (j : Jitter) (d : Duration) (source : Nat)

lemma millisWord_lt : Jitter.millisWord d < 18446744073709551616 := Nat.mod_lt _ (by decide)

lemma millisWord_le : Jitter.millisWord d * 1000000 ≤ d.nanos := by
  calc
    Jitter.millisWord d * 1000000 ≤ d.millis * 1000000 :=
      Nat.mul_le_mul_right 1000000 (Nat.mod_le _ _)
    _ ≤ d.nanos := Nat.div_mul_le_self _ _

/-- A word of milliseconds is far from the longest duration. -/
lemma nanos_ofMillis (h : n < 18446744073709551616) : (Duration.ofMillis n).nanos = n * 1000000 := by
  apply Duration.nanos_ofNanos
  unfold Duration.maxNanos
  omega

lemma ofMillis?_eq_some (h : n < 18446744073709551616) : Duration.ofMillis? n = some (.ofMillis n) := by
  apply if_pos
  unfold Duration.maxNanos
  omega

lemma ofMillis_le (h : n ≤ Jitter.millisWord d) : .ofMillis n ≤ d := by
  have word := millisWord_lt d
  rw [le_iff_nanos, nanos_ofMillis (by omega)]
  exact Nat.le_trans (Nat.mul_le_mul_right 1000000 h) (millisWord_le d)

/-! ## What jitter makes of a delay -/

lemma apply_full :
    Jitter.full.apply d source = .ofMillis (source % (Jitter.millisWord d + 1)) := by
  unfold Jitter.apply Jitter.applyDraw Jitter.draw Jitter.drawLimit
  by_cases none : Jitter.millisWord d = 0
  · simp only [none, if_true, Nat.zero_add, Nat.mod_one]
    rfl
  · simp only [none, if_false]

lemma apply_equal : Jitter.equal.apply d source =
    .ofMillis (Jitter.millisWord d / 2 + source % (Jitter.millisWord d / 2 + 1)) := by
  unfold Jitter.apply Jitter.applyDraw Jitter.draw Jitter.drawLimit
  by_cases none : Jitter.millisWord d = 0
  · simp only [none, if_true, Nat.zero_div, Nat.zero_add, Nat.mod_one]
    rfl
  · by_cases one : Jitter.millisWord d / 2 = 0
    · simp only [none, one, if_true, if_false, Nat.zero_add, Nat.mod_one]
    · simp only [none, one, if_false]

theorem apply_le : j.apply d source ≤ d := by
  cases j with
  | off => exact Nat.le_refl d.nanos
  | full =>
    rw [apply_full]
    apply ofMillis_le
    exact Nat.le_of_lt_succ (Nat.mod_lt _ (Nat.succ_pos _))
  | equal =>
    have drawn := Nat.le_of_lt_succ (Nat.mod_lt source (Nat.succ_pos (Jitter.millisWord d / 2)))
    rw [apply_equal]
    apply ofMillis_le
    calc
      _ ≤ Jitter.millisWord d / 2 + Jitter.millisWord d / 2 := Nat.add_le_add_left drawn _
      _ ≤ Jitter.millisWord d := by omega

/-- Every number within the limit is drawn from some source. -/
lemma draw_drawn : j.draw d (chance.drawn j d) = chance.drawn j d := by
  unfold Jitter.draw Chance.drawn
  cases j.drawLimit d with
  | none => rfl
  | some limit => exact Nat.mod_eq_of_lt (Nat.lt_succ_of_le (chance.pick_le limit))

/-- No step of jitter is without a result. -/
theorem jittered?_eq : j.jittered? chance d = some (j.apply d (chance.drawn j d)) := by
  have word := millisWord_lt d
  rw [Jitter.apply, draw_drawn]
  unfold Jitter.jittered? Jitter.applyDraw Chance.drawn Jitter.drawLimit
  cases j with
  | off => rfl
  | full =>
    by_cases none : Jitter.millisWord d = 0
    · simp only [none, if_true]
    · have picked := chance.pick_le (Jitter.millisWord d)
      simp only [none, if_false, Option.elim_some]
      rw [ofMillis?_eq_some (by omega)]
  | equal =>
    by_cases none : Jitter.millisWord d = 0
    · simp only [none, if_true]
    · by_cases one : Jitter.millisWord d / 2 = 0
      · simp only [none, one, if_true, if_false]
        rfl
      · have picked := chance.pick_le (Jitter.millisWord d / 2)
        have sum : Jitter.millisWord d / 2 + chance.pick (Jitter.millisWord d / 2) <
            18446744073709551616 := by omega
        simp only [none, one, if_false, Option.elim_some]
        rw [word?, if_pos sum, Option.bind_some, ofMillis?_eq_some sum]

end Jitter

section Next

variable (b : Backoff) (n source : Nat)

lemma next_le_delay : b.next n source ≤ b.delayForAttempt n := by
  have shortened := le_iff_nanos.mp (apply_le b.jitter (b.delayForAttempt n) source)
  have floor := le_iff_nanos.mp (floor_le_delay b n)
  rw [le_iff_nanos, Backoff.next, nanos_longer]
  omega

lemma next_off (off : b.jitter = .off) : b.next n source = b.delayForAttempt n := by
  have floor := le_iff_nanos.mp (floor_le_delay b n)
  have same : b.jitter.apply (b.delayForAttempt n) source = b.delayForAttempt n := by
    rw [off]
    rfl
  apply Duration.ext_nanos
  rw [Backoff.next, same, nanos_longer]
  omega

lemma nextDelay?_eq (chance : Chance) : b.nextDelay? chance n =
    some (b.next n (chance.drawn b.jitter (b.delayForAttempt n))) := by
  rw [Backoff.nextDelay?, delay?_eq, Option.bind_some, jittered?_eq, Option.map_some, Backoff.next]

/-- Whatever the policy and however chance falls, the delay to wait is found. It is a millisecond at
least, not below the floor and not above the delay before jitter, which is not above the ceiling; and
it is that delay if there is no jitter. -/
theorem jittered_delays_bounded (b : Backoff) (n : Nat) :
    (∀ chance : Chance, b.nextDelay? chance n =
      some (b.next n (chance.drawn b.jitter (b.delayForAttempt n)))) ∧
    (∀ source, b.floor ≤ b.next n source ∧ b.next n source ≤ b.delayForAttempt n ∧
      .ofMillis 1 ≤ b.next n source ∧ (b.jitter = .off → b.next n source = b.delayForAttempt n)) ∧
    b.delayForAttempt n ≤ b.ceiling := by
  refine ⟨nextDelay?_eq b n, fun source => ?_, delay_le_ceiling b n⟩
  have floor := b.floor_le_next n source
  have least : .ofMillis 1 ≤ b.next n source := Nat.le_trans b.millisecond_le_floor floor
  exact ⟨floor, next_le_delay b n source, least, next_off b n source⟩

end Next

end SteadyLink.Proofs
