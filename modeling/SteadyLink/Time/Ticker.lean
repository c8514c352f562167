import SteadyLink.Time.Duration

/-!
# Tickers

Regular ticks on the clock. A tick that is taken in time leaves the rhythm as it is; after a late
one the rhythm starts anew, as far as the clock reaches.
-/

namespace SteadyLink

/-- The end of the clock's range, in nanoseconds: 2 ^ 63 seconds. -/
def clockEnd : Nat := 9223372036854775808000000000

structure Ticker where
  next : Instant
  period : Duration
  deriving DecidableEq

namespace Ticker

/-- How late a tick may be taken without a change of rhythm, in nanoseconds. -/
def tolerance : Nat := 5000000

/-- The ticker whose first tick is one period from now; none where the clock cannot show it. -/
def after? (now : Instant) (period : Duration) : Option Ticker :=
  if now + period.nanos < clockEnd then some ⟨now + period.nanos, period⟩ else none

def isDue (t : Ticker) (now : Instant) : Bool := t.next ≤ now

/-- The ticker after a tick; none where the clock cannot show how late the tick may be or, if it is
late, when the next one is due. After a tick in time the next one may lie beyond the clock's end,
which stands for the far future. -/
def tick? (t : Ticker) (now : Instant) : Option Ticker :=
  if clockEnd ≤ t.next + tolerance then none
  else if t.next + tolerance < now then after? now t.period
  else some { t with next := t.next + t.period.nanos }

end Ticker

end SteadyLink
