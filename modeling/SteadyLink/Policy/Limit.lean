/-!
# The limit on attempts

How many attempts in a row may fail before the connection gives up.
-/

namespace SteadyLink

/-- The largest number of failed attempts that is counted. -/
def failureLimit : Nat := 4294967295

/-- How many failed attempts in a row are allowed. The number is one that can be counted to. -/
inductive AttemptLimit where
  | unbounded
  | atMost (failures : Nat) (failures_le : failures ≤ failureLimit)
  deriving DecidableEq, Repr

namespace AttemptLimit

/-- Ten attempts, unless the configuration names a number. -/
def standard : AttemptLimit := atMost 10 (by decide)

/-- Another attempt may start after this many consecutive failures. -/
def allows : AttemptLimit → Nat → Bool
  | unbounded, _ => true
  | atMost n _, failed => failed < n

def toOption : AttemptLimit → Option Nat
  | unbounded => none
  | atMost n _ => some n

/-- The limit with the given number, or with the largest one. -/
def ofOption : Option Nat → AttemptLimit
  | none => unbounded
  | some n => atMost (min n failureLimit) (Nat.min_le_right n failureLimit)

end AttemptLimit

end SteadyLink
