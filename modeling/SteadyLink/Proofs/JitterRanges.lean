import SteadyLink.Proofs.JitteredDelays

/-!
# The ranges of jitter

The whole milliseconds of a delay are counted with the lowest 64 bits of their number, and jitter
spreads a delay over the range that belongs to this count. Where the count is exact, equal jitter
leaves at least half of the delay. A delay of 2 ^ 64 ms or more is counted short, and whatever is
drawn for it, equal jitter leaves less than half.
-/

namespace SteadyLink.Proofs

/-- The delay has fewer than 2 ^ 64 ms, so that none is left out of their count. -/
def IsCounted (d : Duration) : Prop := d.millis < 18446744073709551616

section Ranges

variable (d : Duration) (source : Nat) {n : Nat} {x : Duration}

lemma counted_word (h : IsCounted d) : Jitter.millisWord d = d.millis := Nat.mod_eq_of_lt h

lemma nanos_ofMillis_within (h : n ≤ d.millis) : (Duration.ofMillis n).nanos = n * 1000000 := by
  apply Duration.nanos_ofNanos
  calc
    n * 1000000 ≤ d.millis * 1000000 := Nat.mul_le_mul_right 1000000 h
    _ ≤ d.nanos := Nat.div_mul_le_self _ _
    _ ≤ Duration.maxNanos := d.nanos_le

/-- Full jitter gives any number of milliseconds up to the count, and nothing else. -/
theorem full_range : (∃ source, Jitter.full.apply d source = x) ↔
    ∃ k ≤ Jitter.millisWord d, x = .ofMillis k := by
  constructor
  · rintro ⟨source, rfl⟩
    exact ⟨_, Nat.le_of_lt_succ (Nat.mod_lt source (Nat.succ_pos _)), apply_full d source⟩
  · rintro ⟨k, within, rfl⟩
    refine ⟨k, ?_⟩
    rw [apply_full, Nat.mod_eq_of_lt (Nat.lt_succ_of_le within)]

/-- Equal jitter gives half of the count and any number of milliseconds up to another half, and
nothing else. -/
theorem equal_range : (∃ source, Jitter.equal.apply d source = x) ↔
    ∃ k ≤ Jitter.millisWord d / 2, x = .ofMillis (Jitter.millisWord d / 2 + k) := by
  constructor
  · rintro ⟨source, rfl⟩
    exact ⟨_, Nat.le_of_lt_succ (Nat.mod_lt source (Nat.succ_pos _)), apply_equal d source⟩
  · rintro ⟨k, within, rfl⟩
    refine ⟨k, ?_⟩
    rw [apply_equal, Nat.mod_eq_of_lt (Nat.lt_succ_of_le within)]

/-- Equal jitter, in nanoseconds. -/
lemma nanos_equal : ∃ k ≤ Jitter.millisWord d / 2,
    (Jitter.equal.apply d source).nanos = (Jitter.millisWord d / 2 + k) * 1000000 := by
  obtain ⟨k, within, drawn⟩ := (equal_range d).mp ⟨source, rfl⟩
  have word := millisWord_lt d
  refine ⟨k, within, ?_⟩
  rw [drawn, nanos_ofMillis (by omega)]

lemma nanos_full : ∃ k ≤ Jitter.millisWord d,
    (Jitter.full.apply d source).nanos = k * 1000000 := by
  obtain ⟨k, within, drawn⟩ := (full_range d).mp ⟨source, rfl⟩
  have word := millisWord_lt d
  refine ⟨k, within, ?_⟩
  rw [drawn, nanos_ofMillis (by omega)]

lemma apply_whole {j : Jitter} (on : j ≠ .off) : (j.apply d source).nanos % 1000000 = 0 := by
  cases j with
  | off => exact absurd rfl on
  | full =>
    obtain ⟨k, -, nanos⟩ := nanos_full d source
    rw [nanos, Nat.mul_mod_left]
  | equal =>
    obtain ⟨k, -, nanos⟩ := nanos_equal d source
    rw [nanos, Nat.mul_mod_left]

/-- Equal jitter makes nothing of a delay exactly if fewer than two milliseconds are counted. -/
lemma equal_zero_iff : Jitter.equal.apply d source = .zero ↔ Jitter.millisWord d < 2 := by
  obtain ⟨k, within, nanos⟩ := nanos_equal d source
  constructor
  · intro zero
    rw [zero] at nanos
    have none : (Jitter.millisWord d / 2 + k) * 1000000 = 0 := nanos.symm
    omega
  · intro few
    apply Duration.ext_nanos
    rw [nanos]
    show _ = 0
    omega

/-- Equal jitter leaves half of the milliseconds of a delay exactly if their count is exact. -/
theorem half_le_equal_iff : .ofMillis (d.millis / 2) ≤ Jitter.equal.apply d source ↔
    IsCounted d := by
  obtain ⟨k, within, nanos⟩ := nanos_equal d source
  have half := nanos_ofMillis_within d (Nat.div_le_self d.millis 2)
  rw [le_iff_nanos, half, nanos]
  unfold IsCounted
  unfold Jitter.millisWord at within ⊢
  omega

end Ranges

/-- What jitter makes of a delay. -/
structure JitterLaw (d : Duration) : Prop where
  /-- Whatever chance picks, no step of the computation is without a result. -/
  found : ∀ (chance : Chance) (j : Jitter),
    j.jittered? chance d = some (j.apply d (chance.drawn j d))
  full : ∀ x, (∃ source, Jitter.full.apply d source = x) ↔
    ∃ k ≤ Jitter.millisWord d, x = .ofMillis k
  equal : ∀ x, (∃ source, Jitter.equal.apply d source = x) ↔
    ∃ k ≤ Jitter.millisWord d / 2, x = .ofMillis (Jitter.millisWord d / 2 + k)
  bounded : ∀ (j : Jitter) source, j.apply d source ≤ d
  whole : ∀ (j : Jitter) source, j ≠ .off → (j.apply d source).nanos % 1000000 = 0
  /-- Half of the milliseconds are left by every draw if there are fewer than 2 ^ 64 of them, and
  else by none. -/
  half : ∀ source, .ofMillis (d.millis / 2) ≤ Jitter.equal.apply d source ↔ IsCounted d
  /-- A delay of two milliseconds or more is made nothing of only if their count is cut off. -/
  positive : IsCounted d → ∀ source, Jitter.equal.apply d source = .zero ↔ d < .ofMillis 2
  zero : ∀ source, Jitter.equal.apply d source = .zero ↔ Jitter.millisWord d < 2

/-- The ranges of jitter, over all delays. -/
theorem jitter_ranges (d : Duration) : JitterLaw d := by
  constructor
  · exact fun chance j => jittered?_eq chance j d
  · exact fun _ => full_range d
  · exact fun _ => equal_range d
  · exact fun j source => apply_le j d source
  · exact fun _ source on => apply_whole d source on
  · exact half_le_equal_iff d
  · intro counted source
    rw [equal_zero_iff, counted_word d counted]
    have two : (Duration.ofMillis 2).nanos = 2 * 1000000 := nanos_ofMillis (by decide)
    show _ ↔ d.nanos < (Duration.ofMillis 2).nanos
    rw [two]
    exact Nat.div_lt_iff_lt_mul (by decide)
  · exact equal_zero_iff d

/-- Equal jitter makes nothing of a delay of 2 ^ 64 ms. -/
theorem jitter_ranges_cut : ∃ d : Duration, d.millis = 18446744073709551616 ∧ .ofMillis 2 ≤ d ∧
    ∀ source, Jitter.equal.apply d source = .zero ∧
      ¬.ofMillis (d.millis / 2) ≤ Jitter.equal.apply d source := by
  refine ⟨⟨18446744073709551616000000, by decide⟩, by decide, by decide, fun source => ⟨?_, ?_⟩⟩
  · rw [equal_zero_iff]
    decide
  · rw [half_le_equal_iff]
    exact Nat.lt_irrefl _

end SteadyLink.Proofs
