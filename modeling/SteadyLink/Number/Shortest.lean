import SteadyLink.Number.Binary64

/-!
# Shortest decimals

The shortest decimal that reads back as a given binary64 number: of all decimals nearer to it than
to any other number, one with the fewest digits, and of those the nearest.
-/

namespace SteadyLink.Number

/-- The number `digits * 10 ^ exponent`. -/
structure Decimal where
  digits : Nat
  exponent : Int
  deriving DecidableEq

/-- Compares `d * 2 ^ 1075` with a natural number, exactly. -/
def Decimal.compareHalfUnits (d : Decimal) (halfUnits : Nat) : Ordering :=
  compare (d.digits * Nat.pow 10 d.exponent.toNat * (2 * unitsPerOne))
    (halfUnits * Nat.pow 10 (-d.exponent).toNat)

/-- The decimal lies among the reals that round to the number: from halfway to the neighbour below
to halfway to the neighbour above, both ends included when the pattern is even. -/
def Magnitude.readsBack (m : Magnitude) (d : Decimal) : Bool :=
  let even := m.pattern % 2 = 0
  let below := d.compareHalfUnits (patternUnits (m.pattern - 1) + m.units)
  let above := d.compareHalfUnits (m.units + patternUnits (m.pattern + 1))
  (below = .gt || (even && below = .eq)) && (above = .lt || (even && above = .eq))

/-- The least `k` such that the number is less than `10 ^ k`. -/
def Magnitude.scale (m : Magnitude) : Int :=
  let whole := m.units / unitsPerOne
  if whole = 0 then 1 - ((Nat.toDigits 10 ((unitsPerOne - 1) / m.units)).length : Int)
  else (Nat.toDigits 10 whole).length

/-- The number in steps of `10 ^ g`, rounded down. -/
def Magnitude.gridFloor (m : Magnitude) (g : Int) : Nat :=
  m.units * Nat.pow 10 (-g).toNat / (unitsPerOne * Nat.pow 10 g.toNat)

/-- The better of the two decimals around the number with exponent `g`, if one reads back. -/
def Magnitude.nearestOnGrid (m : Magnitude) (g : Int) : Option Decimal :=
  let low := m.gridFloor g
  let lowFits := m.readsBack ⟨low, g⟩
  let highFits := m.readsBack ⟨low + 1, g⟩
  if lowFits && highFits then
    match Decimal.compareHalfUnits ⟨2 * low + 1, g⟩ (4 * m.units) with
    | .lt => some ⟨low + 1, g⟩
    | .gt => some ⟨low, g⟩
    | .eq => some (if low % 2 = 0 then ⟨low, g⟩ else ⟨low + 1, g⟩)
  else if lowFits then some ⟨low, g⟩
  else if highFits then some ⟨low + 1, g⟩
  else none

/-- Moves trailing zeros of the digits into the exponent, `fuel` at most. -/
def Decimal.strip : Nat → Decimal → Decimal
  | 0, d => d
  | fuel + 1, d =>
    if d.digits ≠ 0 ∧ d.digits % 10 = 0 then strip fuel ⟨d.digits / 10, d.exponent + 1⟩ else d

/-- The shortest decimal of a positive finite number. Seventeen digits always suffice; the exact
value stands behind them. -/
def Magnitude.shortest (m : Magnitude) : Decimal :=
  let k := m.scale
  let found := (List.range 17).findSome? fun i => m.nearestOnGrid (k - (i + 1 : Nat))
  (found.getD ⟨m.units * Nat.pow 5 1074, -1074⟩).strip 1100

end SteadyLink.Number
