import SteadyLink.Time.Duration
import SteadyLink.Number.Binary64

/-!
# Durations in seconds

Durations as floating-point numbers of seconds, and back.
-/

namespace SteadyLink.Duration

open Number

/-- The whole seconds and the part below a second are converted apart, then added. -/
def toSeconds (d : Duration) : Magnitude :=
  (Magnitude.ofNat d.secs).add
    ((Magnitude.ofNat d.subsecNanos).div (Magnitude.ofNat 1000000000))

/-- The duration nearest to a number of seconds; halfway between two, the even one. -/
def ofSeconds (m : Magnitude) : Duration :=
  ofNanos (roundQuotient (m.units * 1000000000) unitsPerOne)

/-- The duration nearest to a number of seconds; none where no duration is that long. -/
def ofSeconds? (m : Magnitude) : Option Duration :=
  if roundQuotient (m.units * 1000000000) unitsPerOne ≤ maxNanos then some (ofSeconds m) else none

end SteadyLink.Duration
