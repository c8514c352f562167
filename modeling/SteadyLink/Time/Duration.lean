/-!
# Durations and instants

Lengths of time and points in time, in whole nanoseconds.
-/

namespace SteadyLink

/-- A length of time. Its whole seconds fit 64 bits. -/
structure Duration where
  nanos : Nat
  nanos_le : nanos ≤ 18446744073709551615999999999
  deriving DecidableEq

/-- A point on the clock, in nanoseconds since the clock's origin. -/
abbrev Instant := Nat

namespace Duration

def maxNanos : Nat := 18446744073709551615999999999

/-- The duration of `n` nanoseconds, or the longest one. -/
def ofNanos (n : Nat) : Duration := ⟨min n maxNanos, Nat.min_le_right _ _⟩

def zero : Duration := ofNanos 0

def ofMillis (n : Nat) : Duration := ofNanos (n * 1000000)

/-- The duration of `n` milliseconds; none where no duration is that long. -/
def ofMillis? (n : Nat) : Option Duration := if n * 1000000 ≤ maxNanos then some (ofMillis n) else none

def ofSecs (n : Nat) : Duration := ofNanos (n * 1000000000)

instance : Inhabited Duration := ⟨zero⟩

instance : LE Duration := ⟨fun a b => a.nanos ≤ b.nanos⟩

instance : LT Duration := ⟨fun a b => a.nanos < b.nanos⟩

instance (a b : Duration) : Decidable (a ≤ b) := inferInstanceAs (Decidable (a.nanos ≤ b.nanos))

instance (a b : Duration) : Decidable (a < b) := inferInstanceAs (Decidable (a.nanos < b.nanos))

def longer (a b : Duration) : Duration := if a.nanos ≤ b.nanos then b else a

def shorter (a b : Duration) : Duration := if a.nanos ≤ b.nanos then a else b

/-- The duration nearest to another one within bounds; none if the bounds contradict each other. -/
def within? (low high d : Duration) : Option Duration :=
  if low ≤ high then some ((d.longer low).shorter high) else none

def millis (d : Duration) : Nat := d.nanos / 1000000

def secs (d : Duration) : Nat := d.nanos / 1000000000

/-- The part below a second, in nanoseconds. -/
def subsecNanos (d : Duration) : Nat := d.nanos % 1000000000

/-- `none` for the duration zero, which stands for "off" in a configuration. -/
def nonZero (d : Duration) : Option Duration := if d.nanos = 0 then none else some d

/-- The digits of the fraction `n / 10 ^ width` without its trailing zeros. -/
def fractionDigits (width n : Nat) : List Char :=
  let digits := (Nat.toDigits 10 n)
  let padded := List.replicate (width - digits.length) '0' ++ digits
  (padded.reverse.dropWhile (· == '0')).reverse

/-- `whole` units and `part / 10 ^ width` of a unit, written positionally. -/
def decimalText (whole width part : Nat) : String :=
  if part = 0 then toString whole
  else toString whole ++ "." ++ String.ofList (fractionDigits width part)

/-- The duration in the largest unit of s, ms, µs and ns that it holds at least once. -/
def text (d : Duration) : String :=
  if 1000000000 ≤ d.nanos then decimalText d.secs 9 d.subsecNanos ++ "s"
  else if 1000000 ≤ d.nanos then decimalText d.millis 6 (d.nanos % 1000000) ++ "ms"
  else if 1000 ≤ d.nanos then decimalText (d.nanos / 1000) 3 (d.nanos % 1000) ++ "µs"
  else toString d.nanos ++ "ns"

theorem nanos_ofNanos (n : Nat) (h : n ≤ maxNanos) : (ofNanos n).nanos = n :=
  Nat.min_eq_left h

theorem le_longer (a b : Duration) : b ≤ a.longer b := by
  unfold longer
  split
  · exact Nat.le_refl b.nanos
  · exact Nat.le_of_lt (Nat.lt_of_not_le ‹_›)

theorem ext_nanos {a b : Duration} (h : a.nanos = b.nanos) : a = b := by
  cases a; cases b; cases h; rfl

end Duration

end SteadyLink
