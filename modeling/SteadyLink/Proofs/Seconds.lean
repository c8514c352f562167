import SteadyLink.Proofs.FloatOrder
import SteadyLink.Time.Seconds

/-!
# Durations in seconds

The order of durations is the order of their seconds. The whole seconds of a duration are rounded
before the part below a second is added, and that part is less than one: it cannot take the sum past
the next whole second, for it counts nothing where whole seconds are rounded themselves. No duration
has more than `2 ^ 64` seconds, and each number of seconds below that is close to a duration.
-/

namespace SteadyLink.Proofs

open Number

section Wholes

variable {n n' : Nat} {a b : Magnitude}

lemma two_pow_units {k : Nat} (hk : k = 1074) : 2 ^ k = unitsPerOne := by
  subst hk
  decide +kernel

lemma ofNat_mono (h : n ≤ n') : Magnitude.ofNat n ≤ .ofNat n' :=
  ofUnits_mono (Nat.mul_le_mul_right _ h) 1

/-- Numbers of up to 53 bits are not rounded. -/
lemma units_ofNat (h : n < 2 ^ 53) : (Magnitude.ofNat n).units = n * unitsPerOne := by
  by_cases none : n = 0
  · rw [none, Nat.zero_mul]
    decide +kernel
  · have high : n.log2 ≤ 52 := by
      have bits := (Nat.log2_lt none).mpr h
      omega
    have full : 2 ^ 52 ≤ n * 2 ^ (52 - n.log2) := by
      have least := Nat.mul_le_mul_right (2 ^ (52 - n.log2)) (Nat.log2_self_le none)
      rwa [← Nat.pow_add, Nat.add_sub_cancel' high] at least
    have short : n * 2 ^ (52 - n.log2) < 2 ^ 53 := by
      have bound := (Nat.mul_lt_mul_right (Nat.two_pow_pos (52 - n.log2))).mpr
        (Nat.lt_log2_self (n := n))
      rw [← Nat.pow_add] at bound
      rwa [show n.log2 + 1 + (52 - n.log2) = 53 by omega] at bound
    have mantissa : IsMantissa (n.log2 + 1022) (n * 2 ^ (52 - n.log2)) := ⟨short, Or.inr full⟩
    have value : n * 2 ^ (52 - n.log2) * 2 ^ (n.log2 + 1022) = n * unitsPerOne := by
      rw [Nat.mul_assoc, ← Nat.pow_add, two_pow_units (by omega)]
    have near : 2 * 0 < 1 * 2 ^ (n.log2 + 1022) := Nat.mul_pos Nat.one_pos (Nat.two_pow_pos _)
    have rounded := nearestPattern_near mantissa near
    rw [value, Nat.mul_one, Nat.add_zero] at rounded
    have finite : (n.log2 + 1022) * 2 ^ 52 + n * 2 ^ (52 - n.log2) ≤ infinityPattern := by
      have top : infinityPattern = 2047 * 2 ^ 52 := rfl
      omega
    unfold Magnitude.ofNat Magnitude.ofUnits Magnitude.units
    simp only [rounded, Nat.min_eq_left finite]
    rw [patternUnits_mantissa mantissa, value]

lemma le_add (a b : Magnitude) : a ≤ a.add b := by
  unfold Magnitude.add
  split
  · exact le_infinity a
  · calc
      a = .ofUnits (a.units * 1) 1 := (ofUnits_units a Nat.one_pos).symm
      _ ≤ .ofUnits (a.units + b.units) 1 := ofUnits_mono (by omega) 1

/-- Where whole numbers are rounded, a part below one counts nothing. -/
lemma ofUnits_fraction (large : .ofNat (2 ^ 53) ≤ a) (hb : b.units < unitsPerOne) :
    Magnitude.ofUnits (a.units + b.units) 1 = a := by
  obtain ⟨p, top⟩ := a
  obtain ⟨shift, mantissa, h, rfl⟩ := exists_mantissa p
  have reached : 1076 * 2 ^ 52 ≤ shift * 2 ^ 52 + mantissa := by
    have pattern : (Magnitude.ofNat (2 ^ 53)).pattern = 1076 * 2 ^ 52 := by decide +kernel
    rw [← pattern]
    exact large
  have step : 2 * b.units < 1 * 2 ^ shift := by
    have short := h.1
    have room : 2 ^ (shift - (shift - 1074)) * 2 ≤ 2 ^ shift := by
      rw [← Nat.pow_succ]
      exact Nat.pow_le_pow_right (by decide) (by omega)
    rw [two_pow_units (by omega)] at room
    omega
  have rounded := nearestPattern_near h step
  rw [Nat.mul_one, ← patternUnits_mantissa h] at rounded
  unfold Magnitude.ofUnits
  rw [Magnitude.mk.injEq]
  show min (nearestPattern (patternUnits _ + b.units) 1) _ = _
  rw [rounded, Nat.min_eq_left top]

/-- A part below one takes a whole number no further than the next one. -/
theorem add_fraction_le (n : Nat) (hb : b < .one) :
    (Magnitude.ofNat n).add b ≤ .ofNat (n + 1) := by
  have next : Magnitude.ofNat n ≤ .ofNat (n + 1) := ofNat_mono (Nat.le_succ n)
  have part : b.units < unitsPerOne := units_one ▸ units_lt hb
  unfold Magnitude.add
  split
  · next h =>
    have finite : b.isInfinite = false := by
      have least : b.pattern < Magnitude.one.pattern := hb
      have bound : Magnitude.one.pattern < infinityPattern := by decide
      simp only [Magnitude.isInfinite, decide_eq_false_iff_not]
      omega
    rw [finite, Bool.or_false] at h
    have reached := isInfinite_mono next h
    simp only [Magnitude.isInfinite, decide_eq_true_eq] at reached
    show infinityPattern ≤ _
    rw [reached]
  · by_cases short : n < 2 ^ 53
    · have value : (Magnitude.ofNat n).units + b.units ≤ (n + 1) * unitsPerOne := by
        rw [units_ofNat short, Nat.add_mul, Nat.one_mul]
        omega
      exact ofUnits_mono value 1
    · rw [ofUnits_fraction (ofNat_mono (Nat.le_of_not_lt short)) part]
      exact next

end Wholes

section Durations

variable {d d' : Duration} {s s' : Magnitude}

lemma le_iff_nanos : d ≤ d' ↔ d.nanos ≤ d'.nanos := Iff.rfl

lemma fraction_lt (d : Duration) :
    (Magnitude.ofNat d.subsecNanos).div (.ofNat 1000000000) < .one := by
  have below : d.subsecNanos ≤ 999999999 := by
    have small : d.nanos % 1000000000 < 1000000000 := Nat.mod_lt _ (by decide)
    unfold Duration.subsecNanos
    omega
  have last : (Magnitude.ofNat 999999999).div (.ofNat 1000000000) < .one := by
    show _ < _
    decide +kernel
  exact lt_of_le_of_lt (div_mono (ofNat_mono below) _) last

/-- A longer duration has no fewer seconds. -/
theorem toSeconds_mono (h : d ≤ d') : d.toSeconds ≤ d'.toSeconds := by
  rw [le_iff_nanos] at h
  unfold Duration.toSeconds
  by_cases same : d.secs = d'.secs
  · have parts : d.subsecNanos ≤ d'.subsecNanos := by
      unfold Duration.subsecNanos Duration.secs at *
      omega
    rw [same]
    exact add_mono (le_refl _) (div_mono (ofNat_mono parts) _)
  · have later : d.secs + 1 ≤ d'.secs := by
      unfold Duration.secs at *
      omega
    calc
      _ ≤ Magnitude.ofNat (d.secs + 1) := add_fraction_le d.secs (fraction_lt d)
      _ ≤ .ofNat d'.secs := ofNat_mono later
      _ ≤ _ := le_add _ _

lemma toSeconds_le (d : Duration) : d.toSeconds ≤ .ofNat (2 ^ 64) := by
  have longest : (⟨Duration.maxNanos, Nat.le_refl _⟩ : Duration).toSeconds ≤ .ofNat (2 ^ 64) := by
    show _ ≤ _
    decide +kernel
  exact le_trans (toSeconds_mono d.nanos_le) longest

/-- Below `2 ^ 64` seconds there is always a duration. -/
theorem ofSeconds?_eq_some (h : s < .ofNat (2 ^ 64)) :
    Duration.ofSeconds? s = some (.ofSeconds s) := by
  have limit : (Magnitude.ofNat (2 ^ 64)).pattern = 1087 * 2 ^ 52 := by decide +kernel
  have below : s.pattern ≤ 1087 * 2 ^ 52 - 1 := by
    have least : s.pattern < (Magnitude.ofNat (2 ^ 64)).pattern := h
    omega
  have rounded := roundQuotient_mono
    (Nat.mul_le_mul_right 1000000000 (patternUnits_mono below)) unitsPerOne
  have last : roundQuotient (patternUnits (1087 * 2 ^ 52 - 1) * 1000000000) unitsPerOne ≤
      Duration.maxNanos := by decide +kernel
  exact if_pos (Nat.le_trans rounded last)

theorem ofSeconds_mono (h : s ≤ s') : Duration.ofSeconds s ≤ .ofSeconds s' := by
  have rounded := roundQuotient_mono (Nat.mul_le_mul_right 1000000000 (units_mono h)) unitsPerOne
  exact Nat.le_min.mpr ⟨Nat.le_trans (Nat.min_le_left ..) rounded, Nat.min_le_right ..⟩

end Durations

end SteadyLink.Proofs
