import SteadyLink.Time.Duration

/-!
# Jitter

Random spreading of delays. The random number is an argument, so that statements speak about every
draw. `jittered?` takes the steps of the computation one by one, each of which may fail.
-/

namespace SteadyLink

/-- How far chance may shorten a wait. -/
inductive Jitter where
  /-- The exact delay. -/
  | off
  /-- Anything from nothing to the delay. -/
  | full
  /-- Half the delay and anything up to the other half. -/
  | equal
  deriving DecidableEq, Repr

/-- A source of random numbers: of the numbers up to a limit it picks one. -/
structure Chance where
  pick : Nat → Nat
  pick_le : ∀ limit, pick limit ≤ limit

/-- A number as a word; none if it takes more than 64 bits. -/
def word? (n : Nat) : Option Nat := if n < 18446744073709551616 then some n else none

namespace Jitter

/-- The count of whole milliseconds that jitter works with: its lowest 64 bits. -/
def millisWord (d : Duration) : Nat := d.millis % 18446744073709551616

/-- The largest number that may be drawn for a delay; `none` where nothing is drawn. -/
def drawLimit (j : Jitter) (d : Duration) : Option Nat :=
  let ms := millisWord d
  match j with
  | off => none
  | full => if ms = 0 then none else some ms
  | equal => if ms / 2 = 0 then none else some (ms / 2)

/-- The delay after jitter, given the number drawn. -/
def applyDraw (j : Jitter) (d : Duration) (draw : Nat) : Duration :=
  let ms := millisWord d
  match j with
  | off => d
  | full => if ms = 0 then .zero else .ofMillis draw
  | equal =>
    if ms = 0 then .zero
    else .ofMillis (ms / 2 + if ms / 2 = 0 then 0 else draw)

/-- The number drawn from the range `0 … drawLimit` by an arbitrary source of randomness. -/
def draw (j : Jitter) (d : Duration) (source : Nat) : Nat :=
  match j.drawLimit d with
  | none => 0
  | some limit => source % (limit + 1)

/-- The delay after jitter, given the source of randomness. -/
def apply (j : Jitter) (d : Duration) (source : Nat) : Duration :=
  j.applyDraw d (j.draw d source)

/-- The delay after jitter; none if a step of its computation has no result. -/
def jittered? (j : Jitter) (chance : Chance) (d : Duration) : Option Duration :=
  let ms := millisWord d
  match j with
  | off => some d
  | full => if ms = 0 then some .zero else Duration.ofMillis? (chance.pick ms)
  | equal =>
    if ms = 0 then some .zero
    else (word? (ms / 2 + if ms / 2 = 0 then 0 else chance.pick (ms / 2))).bind Duration.ofMillis?

end Jitter

/-- What chance picks for a delay. -/
def Chance.drawn (chance : Chance) (j : Jitter) (d : Duration) : Nat :=
  (j.drawLimit d).elim 0 chance.pick

end SteadyLink
