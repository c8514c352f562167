import SteadyLink.Number.Rounding

/-!
# Floating point with 64 bits

Binary floating point with 64 bits, by exact arithmetic on natural numbers: the result of an
operation is the exact result, rounded once to the nearest representable number, halfway to the even
pattern. A non-negative number is held by its bit pattern, so that numbers are ordered as their
patterns are, and every finite one is a whole number of units of `2 ^ -1074`.
-/

namespace SteadyLink.Number

/-- The pattern of infinity. -/
def infinityPattern : Nat := 0x7FF * Nat.pow 2 52

/-- One in units of `2 ^ -1074`. -/
def unitsPerOne : Nat := Nat.pow 2 1074

/-- A non-negative number, or infinity. -/
structure Magnitude where
  pattern : Nat
  pattern_le : pattern ≤ infinityPattern
  deriving DecidableEq

/-- The number with the given pattern, in units of `2 ^ -1074`. Infinity counts as `2 ^ 1024`. -/
def patternUnits (p : Nat) : Nat :=
  let shift := p / Nat.pow 2 52 - 1
  (p - shift * Nat.pow 2 52) * Nat.pow 2 shift

/-- The pattern nearest to `num / den` units, without a bound. -/
def nearestPattern (num den : Nat) : Nat :=
  let shift := (num / den).log2 - 52
  shift * Nat.pow 2 52 + roundQuotient num (den * Nat.pow 2 shift)

namespace Magnitude

def infinity : Magnitude := ⟨infinityPattern, Nat.le_refl _⟩

def isInfinite (m : Magnitude) : Bool := m.pattern = infinityPattern

def units (m : Magnitude) : Nat := patternUnits m.pattern

/-- The number nearest to `num / den` units of `2 ^ -1074`. -/
def ofUnits (num den : Nat) : Magnitude :=
  ⟨min (nearestPattern num den) infinityPattern, Nat.min_le_right _ _⟩

/-- The number nearest to `n`. -/
def ofNat (n : Nat) : Magnitude := ofUnits (n * unitsPerOne) 1

def zero : Magnitude := ⟨0, Nat.zero_le _⟩

def one : Magnitude := ⟨0x3FF * Nat.pow 2 52, by decide⟩

instance : Inhabited Magnitude := ⟨zero⟩

def isZero (m : Magnitude) : Bool := m.pattern = 0

/-- The sum, rounded once. -/
def add (a b : Magnitude) : Magnitude :=
  if a.isInfinite || b.isInfinite then infinity else ofUnits (a.units + b.units) 1

/-- The product, rounded once. Zero times infinity is no number, and no caller asks for it. -/
def mul (a b : Magnitude) : Magnitude :=
  if a.isInfinite || b.isInfinite then infinity
  else ofUnits (a.units * b.units) unitsPerOne

/-- The quotient of two finite numbers, rounded once. -/
def div (a b : Magnitude) : Magnitude := ofUnits (a.units * unitsPerOne) b.units

/-- The number nearest to `10 ^ k`. -/
def tenPower (k : Nat) : Magnitude := ofUnits (Nat.pow 10 k * unitsPerOne) 1

/-- `acc` times the `n`-th power of `f`, multiplying in the squares of `f` from the lowest bit of
`n` up. -/
def powerFrom (acc f : Magnitude) (n : Nat) : Magnitude :=
  let acc' := if n % 2 = 1 then acc.mul f else acc
  if n < 2 then acc' else powerFrom acc' (f.mul f) (n / 2)
termination_by n
decreasing_by omega

/-- The `n`-th power, by repeated squaring. -/
def power (f : Magnitude) (n : Nat) : Magnitude := powerFrom one f n

end Magnitude

/-- A number with a sign, an infinity, or none at all (not a number), by its 64 bits. -/
structure Binary64 where
  negative : Bool
  pattern : Nat
  pattern_lt : pattern < Nat.pow 2 63
  deriving DecidableEq

namespace Binary64

/-- The number with the given 64 bits. Higher bits are ignored. -/
def ofBits (bits : Nat) : Binary64 :=
  ⟨bits / Nat.pow 2 63 % 2 = 1, bits % Nat.pow 2 63, Nat.mod_lt _ (by decide)⟩

def toBits (x : Binary64) : Nat := (if x.negative then Nat.pow 2 63 else 0) + x.pattern

/-- The number without its sign, unless it is not a number. -/
def magnitude? (x : Binary64) : Option Magnitude :=
  if h : x.pattern ≤ infinityPattern then some ⟨x.pattern, h⟩ else none

end Binary64

end SteadyLink.Number
