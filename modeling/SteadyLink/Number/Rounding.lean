/-!
# Rounding

Rounding of quotients of natural numbers to a natural number, and of decimals to an integer.
-/

namespace SteadyLink.Number

/-- The natural number nearest to `num / den`; halfway between two, the even one. -/
def roundQuotient (num den : Nat) : Nat :=
  let whole := num / den
  let rest := num % den
  if 2 * rest < den then whole
  else if den < 2 * rest then whole + 1
  else if whole % 2 = 0 then whole
  else whole + 1

theorem le_roundQuotient (num den : Nat) : num / den ≤ roundQuotient num den := by
  unfold roundQuotient
  grind

theorem roundQuotient_le (num den : Nat) : roundQuotient num den ≤ num / den + 1 := by
  unfold roundQuotient
  grind

end SteadyLink.Number
