import Mathlib.Algebra.Ring.Nat
import Mathlib.Order.Basic
import Mathlib.Tactic.Lemma
import SteadyLink.Number.Binary64

/-!
# The order of floating-point numbers

Non-negative numbers are ordered as their patterns are, and rounding keeps that order. So do sums,
products and quotients, each of which is an exact result rounded once. A pattern is `shift` steps of
`2 ^ 52` and a `mantissa` behind them, which stand for `mantissa * 2 ^ shift` units; what rounding
gives is read off those two.
-/

namespace SteadyLink.Proofs

open Number

/-! ## Rounding -/

/-- The mantissa stands for itself, or it has all the 53 bits that there is room for. -/
def IsMantissa (shift mantissa : Nat) : Prop :=
  mantissa < 2 ^ 53 ∧ (shift = 0 ∨ 2 ^ 52 ≤ mantissa)

section Patterns

variable {n num num' den p q shift mantissa rest : Nat}

lemma roundQuotient_mono (h : num ≤ num') (den : Nat) :
    roundQuotient num den ≤ roundQuotient num' den := by
  have whole : num / den ≤ num' / den := Nat.div_le_div_right h
  by_cases same : num / den = num' / den
  · have split := Nat.div_add_mod num den
    have split' := Nat.div_add_mod num' den
    rw [← same] at split'
    have rests : num % den ≤ num' % den := by omega
    unfold roundQuotient
    grind
  · have below := roundQuotient_le num den
    have above := le_roundQuotient num' den
    omega

/-- What lies less than half a step above a multiple is rounded to it. -/
lemma roundQuotient_near (near : 2 * rest < den) : roundQuotient (q * den + rest) den = q := by
  have small : rest < den := by omega
  have quotient : (q * den + rest) / den = q := by
    rw [Nat.mul_comm, Nat.mul_add_div (by omega), Nat.div_eq_of_lt small, Nat.add_zero]
  have remainder : (q * den + rest) % den = rest := by
    rw [Nat.mul_comm, Nat.mul_add_mod, Nat.mod_eq_of_lt small]
  unfold roundQuotient
  simp only [quotient, remainder]
  rw [if_pos near]

lemma exists_mantissa (p : Nat) :
    ∃ shift mantissa, IsMantissa shift mantissa ∧ p = shift * 2 ^ 52 + mantissa := by
  refine ⟨p / 2 ^ 52 - 1, p - (p / 2 ^ 52 - 1) * 2 ^ 52, ⟨?_, ?_⟩, ?_⟩ <;> omega

lemma patternUnits_mantissa (h : IsMantissa shift mantissa) :
    patternUnits (shift * 2 ^ 52 + mantissa) = mantissa * 2 ^ shift := by
  obtain ⟨short, full⟩ := h
  have steps : (shift * 2 ^ 52 + mantissa) / 2 ^ 52 - 1 = shift := by omega
  unfold patternUnits
  simp only [Nat.pow_eq]
  rw [steps, Nat.add_sub_cancel_left]

lemma log2_shift (below : n < 2 ^ (53 + shift)) (above : shift = 0 ∨ 2 ^ (52 + shift) ≤ n) :
    n.log2 - 52 = shift := by
  by_cases hn : n = 0
  · have positive := Nat.two_pow_pos (52 + shift)
    rw [hn, Nat.log2_zero]
    omega
  · have high := (Nat.log2_lt hn).mpr below
    have low (h : 2 ^ (52 + shift) ≤ n) := (Nat.le_log2 hn).mpr h
    omega

/-- A number of units that is less than half a step above a mantissa is rounded to that. -/
theorem nearestPattern_near (h : IsMantissa shift mantissa) (near : 2 * rest < den * 2 ^ shift) :
    nearestPattern (mantissa * 2 ^ shift * den + rest) den = shift * 2 ^ 52 + mantissa := by
  obtain ⟨short, full⟩ := h
  have positive : 0 < den := by
    by_contra none
    simp [Nat.eq_zero_of_not_pos none] at near
  have quotient : (mantissa * 2 ^ shift * den + rest) / den = mantissa * 2 ^ shift + rest / den := by
    rw [Nat.mul_comm, Nat.mul_add_div positive]
  have small : rest / den < 2 ^ shift := by
    rw [Nat.div_lt_iff_lt_mul positive, Nat.mul_comm]
    omega
  have steps : (mantissa * 2 ^ shift + rest / den).log2 - 52 = shift := by
    apply log2_shift
    · have room : (mantissa + 1) * 2 ^ shift ≤ 2 ^ 53 * 2 ^ shift := Nat.mul_le_mul_right _ short
      rw [Nat.add_mul, Nat.one_mul, ← Nat.pow_add] at room
      omega
    · refine full.imp_right fun full => ?_
      have reached : 2 ^ 52 * 2 ^ shift ≤ mantissa * 2 ^ shift := Nat.mul_le_mul_right _ full
      rw [← Nat.pow_add] at reached
      exact Nat.le_trans reached (Nat.le_add_right ..)
  have rounded : roundQuotient (mantissa * 2 ^ shift * den + rest) (den * 2 ^ shift) = mantissa := by
    rw [Nat.mul_assoc, Nat.mul_comm (2 ^ shift) den]
    exact roundQuotient_near near
  unfold nearestPattern
  simp only [Nat.pow_eq]
  rw [quotient, steps, rounded]

/-- What a pattern stands for is rounded to that pattern. -/
lemma nearestPattern_units (p : Nat) (positive : 0 < den) :
    nearestPattern (patternUnits p * den) den = p := by
  obtain ⟨shift, mantissa, h, rfl⟩ := exists_mantissa p
  rw [patternUnits_mantissa h]
  have near : 2 * 0 < den * 2 ^ shift := Nat.mul_pos positive (Nat.two_pow_pos shift)
  have rounded := nearestPattern_near h near
  rwa [Nat.add_zero] at rounded

/-- Between two steps of the scale lies a full mantissa. -/
lemma nearestPattern_between (num den : Nat) :
    nearestPattern num den ≤ ((num / den).log2 - 52 + 2) * 2 ^ 52 ∧
      (52 < (num / den).log2 → ((num / den).log2 - 52 + 1) * 2 ^ 52 ≤ nearestPattern num den) := by
  generalize hshift : (num / den).log2 - 52 = shift
  have quotient : num / (den * 2 ^ shift) = num / den / 2 ^ shift :=
    (Nat.div_div_eq_div_mul ..).symm
  have below := roundQuotient_le num (den * 2 ^ shift)
  have above := le_roundQuotient num (den * 2 ^ shift)
  rw [quotient] at below above
  unfold nearestPattern
  simp only [Nat.pow_eq, hshift]
  constructor
  · have least : num / den < 2 ^ (53 + shift) :=
      Nat.lt_of_lt_of_le Nat.lt_log2_self (Nat.pow_le_pow_right (by decide) (by omega))
    have short : num / den / 2 ^ shift < 2 ^ 53 := by
      rw [Nat.div_lt_iff_lt_mul (Nat.two_pow_pos shift), ← Nat.pow_add]
      exact least
    omega
  · intro far
    have some : num / den ≠ 0 := by
      intro none
      simp [none] at far
    have full : 2 ^ 52 ≤ num / den / 2 ^ shift := by
      rw [Nat.le_div_iff_mul_le (Nat.two_pow_pos shift), ← Nat.pow_add]
      apply (Nat.le_log2 some).mp
      omega
    omega

/-- Rounding keeps the order. -/
theorem nearestPattern_mono (h : num ≤ num') (den : Nat) :
    nearestPattern num den ≤ nearestPattern num' den := by
  have scale : (num / den).log2 ≤ (num' / den).log2 := by
    by_cases none : num / den = 0
    · rw [none, Nat.log2_zero]
      exact Nat.zero_le _
    · have quotients : num / den ≤ num' / den := Nat.div_le_div_right h
      have some : num' / den ≠ 0 := fun none' => none (Nat.le_zero.mp (none' ▸ quotients))
      apply (Nat.le_log2 some).mpr
      exact Nat.le_trans (Nat.log2_self_le none) quotients
  by_cases same : (num / den).log2 - 52 = (num' / den).log2 - 52
  · unfold nearestPattern
    simp only [Nat.pow_eq, same]
    exact Nat.add_le_add_left (roundQuotient_mono h _) _
  · have below := (nearestPattern_between num den).1
    have above := (nearestPattern_between num' den).2 (by omega)
    omega

/-- Patterns are ordered as what they stand for. -/
lemma patternUnits_mono (h : p ≤ q) : patternUnits p ≤ patternUnits q := by
  by_contra reversed
  have rounded := nearestPattern_mono (Nat.le_of_not_le reversed) 1
  have back (p : Nat) : nearestPattern (patternUnits p) 1 = p := by
    have h : nearestPattern (patternUnits p * 1) 1 = p := nearestPattern_units p Nat.one_pos
    rwa [Nat.mul_one] at h
  rw [back, back] at rounded
  exact reversed (Nat.le_antisymm h rounded ▸ Nat.le_refl _)

end Patterns

/-! ## Arithmetic -/

section Magnitudes

instance : Preorder Magnitude := Preorder.lift Magnitude.pattern

variable {a a' b b' : Magnitude} {num num' : Nat}

lemma units_mono (h : a ≤ b) : a.units ≤ b.units := patternUnits_mono h

lemma units_lt (h : a < b) : a.units < b.units := by
  have back (a : Magnitude) : nearestPattern (a.units * 1) 1 = a.pattern :=
    nearestPattern_units a.pattern Nat.one_pos
  apply Nat.lt_of_le_of_ne (units_mono h.le)
  intro same
  have patterns : a.pattern = b.pattern := by rw [← back a, ← back b, same]
  exact Nat.ne_of_lt h patterns

lemma isInfinite_mono (h : a ≤ b) (ha : a.isInfinite = true) : b.isInfinite = true := by
  have top := b.pattern_le
  have reached : a.pattern ≤ b.pattern := h
  simp only [Magnitude.isInfinite, decide_eq_true_eq] at ha ⊢
  omega

lemma le_infinity (a : Magnitude) : a ≤ .infinity := a.pattern_le

lemma ofUnits_mono (h : num ≤ num') (den : Nat) : Magnitude.ofUnits num den ≤ .ofUnits num' den := by
  have rounded := nearestPattern_mono h den
  exact Nat.le_min.mpr ⟨Nat.le_trans (Nat.min_le_left ..) rounded, Nat.min_le_right ..⟩

/-- A finite number that is taken as it is comes back. -/
lemma ofUnits_units (a : Magnitude) {den : Nat} (positive : 0 < den) :
    Magnitude.ofUnits (a.units * den) den = a := by
  obtain ⟨p, top⟩ := a
  have back : nearestPattern (patternUnits p * den) den = p := nearestPattern_units p positive
  unfold Magnitude.ofUnits Magnitude.units
  simp only [back, Nat.min_eq_left top]

theorem add_mono (ha : a ≤ a') (hb : b ≤ b') : a.add b ≤ a'.add b' := by
  unfold Magnitude.add
  split
  · next h =>
    rw [if_pos]
    rcases Bool.or_eq_true_iff.mp h with h | h
    · simp [isInfinite_mono ha h]
    · simp [isInfinite_mono hb h]
  · split
    · exact le_infinity _
    · exact ofUnits_mono (Nat.add_le_add (units_mono ha) (units_mono hb)) 1

theorem mul_mono (ha : a ≤ a') (hb : b ≤ b') : a.mul b ≤ a'.mul b' := by
  unfold Magnitude.mul
  split
  · next h =>
    rw [if_pos]
    rcases Bool.or_eq_true_iff.mp h with h | h
    · simp [isInfinite_mono ha h]
    · simp [isInfinite_mono hb h]
  · split
    · exact le_infinity _
    · exact ofUnits_mono (Nat.mul_le_mul (units_mono ha) (units_mono hb)) _

lemma units_one : Magnitude.one.units = unitsPerOne := by decide +kernel

/-- A product with one is exact. -/
lemma one_times (a : Magnitude) : Magnitude.one.mul a = a := by
  have finite : Magnitude.one.isInfinite = false := by decide +kernel
  unfold Magnitude.mul
  rw [finite, Bool.false_or]
  split
  · next h =>
    obtain ⟨p, top⟩ := a
    simp only [Magnitude.isInfinite, decide_eq_true_eq] at h
    subst h
    rfl
  · rw [units_one, Nat.mul_comm]
    exact ofUnits_units a (by decide +kernel)

theorem div_mono (ha : a ≤ a') (b : Magnitude) : a.div b ≤ a'.div b :=
  ofUnits_mono (Nat.mul_le_mul_right _ (units_mono ha)) _

end Magnitudes

end SteadyLink.Proofs
