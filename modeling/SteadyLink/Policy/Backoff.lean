import SteadyLink.Policy.Jitter
import SteadyLink.Time.Seconds

/-!
# Backoff

How long to wait before the next attempt. The delay for attempt `n` is `first * factor ^ n` within
the bounds `floor` and `ceiling`; jitter never takes it below the floor.
-/

namespace SteadyLink

open Number

/-- How long to wait before the next attempt. -/
structure Backoff where
  first : Duration
  max : Duration
  factor : Binary64
  jitter : Jitter
  deriving DecidableEq

namespace Backoff

/-- The number two. -/
def doubling : Binary64 := .ofBits 0x4000000000000000

/-- From `first` up to `max`, doubling. -/
def exponential (first max : Duration) : Backoff := ⟨first, max, doubling, .off⟩

/-- Five seconds, doubling up to a minute. -/
def standard : Backoff := exponential (.ofSecs 5) (.ofSecs 60)

def withJitter (b : Backoff) (jitter : Jitter) : Backoff := { b with jitter }

/-- The shortest delay: the first one, but no less than a millisecond. -/
def floor (b : Backoff) : Duration := b.first.longer (.ofMillis 1)

/-- The longest delay, never below the floor. -/
def ceiling (b : Backoff) : Duration := b.max.longer b.floor

/-- Growth from one attempt to the next. A factor below one, infinite or no number counts as one. -/
def growth (b : Backoff) : Magnitude :=
  match b.factor.magnitude? with
  | none => .one
  | some m =>
    if b.factor.negative || m.isInfinite || m.pattern < Magnitude.one.pattern then .one else m

/-- The largest exponent that is used. -/
def exponentLimit : Nat := 2147483647

/-- The delay for an attempt in seconds, before the ceiling is applied. -/
def seconds (b : Backoff) (attempt : Nat) : Magnitude :=
  b.floor.toSeconds.mul (b.growth.power (min attempt exponentLimit))

/-- The delay before jitter. Attempts are counted from zero. -/
def delayForAttempt (b : Backoff) (attempt : Nat) : Duration :=
  let s := b.seconds attempt
  if s.isInfinite || b.ceiling.toSeconds.pattern ≤ s.pattern then b.ceiling
  else ((Duration.ofSeconds s).longer b.floor).shorter b.ceiling

/-- The seconds computed for an attempt are not below those of the ceiling. -/
def isCapped (b : Backoff) (attempt : Nat) : Bool :=
  (b.seconds attempt).isInfinite || b.ceiling.toSeconds.pattern ≤ (b.seconds attempt).pattern

/-- The delay before jitter; none if a step of its computation has no result. -/
def delay? (b : Backoff) (attempt : Nat) : Option Duration :=
  if b.isCapped attempt then some b.ceiling
  else (Duration.ofSeconds? (b.seconds attempt)).bind (Duration.within? b.floor b.ceiling)

/-- The delay to wait, given the source of randomness for jitter. -/
def next (b : Backoff) (attempt source : Nat) : Duration :=
  (b.jitter.apply (b.delayForAttempt attempt) source).longer b.floor

/-- The delay to wait; none if a step of its computation has no result. -/
def nextDelay? (b : Backoff) (chance : Chance) (attempt : Nat) : Option Duration :=
  (b.delay? attempt).bind fun d => (b.jitter.jittered? chance d).map (·.longer b.floor)

theorem millisecond_le_floor (b : Backoff) : .ofMillis 1 ≤ b.floor := Duration.le_longer _ _

/-- No draw and no growth makes a delay shorter than the floor. -/
theorem floor_le_next (b : Backoff) (attempt source : Nat) : b.floor ≤ b.next attempt source :=
  Duration.le_longer _ _

end Backoff

end SteadyLink
