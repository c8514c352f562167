import SteadyLink.Number.Binary64
import SteadyLink.Number.Shortest

/-!
# Floating point with 32 bits

Decimals in text, and binary floating point with 32 bits: the nearest such number to a decimal, as a
binary64 number, which holds it exactly.
-/

namespace SteadyLink.Number

/-- The largest pattern of a finite 32-bit number, plus one. -/
def singleInfinityPattern : Nat := 0xFF * Nat.pow 2 23

/-- The 32-bit number nearest to a decimal, widened. Its unit is `2 ^ -149`. -/
def Decimal.toSingle (d : Decimal) : Magnitude :=
  let num := d.digits * Nat.pow 10 d.exponent.toNat * Nat.pow 2 149
  let den := Nat.pow 10 (-d.exponent).toNat
  let shift := (num / den).log2 - 23
  let pattern := shift * Nat.pow 2 23 + roundQuotient num (den * Nat.pow 2 shift)
  if singleInfinityPattern ≤ pattern then .infinity
  else
    let scale := pattern / Nat.pow 2 23 - 1
    .ofUnits ((pattern - scale * Nat.pow 2 23) * Nat.pow 2 scale * Nat.pow 2 (1074 - 149)) 1

/-- The number that decimal digits stand for. -/
def natOfDigits (s : List Char) : Nat :=
  s.foldl (fun n c => n * 10 + (c.toNat - '0'.toNat)) 0

/-- A decimal in text: digits with a point somewhere among them, then perhaps an exponent. -/
def Decimal.ofText? (s : List Char) : Option Decimal :=
  let whole := s.takeWhile Char.isDigit
  let rest := s.dropWhile Char.isDigit
  let (fraction, rest) :=
    match rest with
    | '.' :: r => (r.takeWhile Char.isDigit, r.dropWhile Char.isDigit)
    | r => ([], r)
  if whole.isEmpty && fraction.isEmpty then none
  else
    let digits := natOfDigits (whole ++ fraction)
    let places : Int := fraction.length
    match rest with
    | [] => some ⟨digits, -places⟩
    | e :: r =>
      let negative := r.head? = some '-'
      let r := if r.head? = some '-' ∨ r.head? = some '+' then r.tail else r
      if (e = 'e' || e = 'E') && !r.isEmpty && r.all Char.isDigit then
        let x : Int := natOfDigits r
        some ⟨digits, (if negative then -x else x) - places⟩
      else none

end SteadyLink.Number
