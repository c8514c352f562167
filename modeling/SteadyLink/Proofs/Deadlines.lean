import Mathlib.Tactic.Lemma
import SteadyLink.Time.Ticker

/-!
# Deadlines

When the ticks of a ticker are due, and which of them the clock can show. A deadline is a duration
from now or from the deadline before it, and the clock comes to an end.
-/

namespace SteadyLink.Proofs

/-- The clock cannot show the end of the duration. A duration of zero sets no deadline. -/
def OutOfRange (d : Duration) (now : Instant) : Prop := d.nanos ≠ 0 ∧ clockEnd ≤ now + d.nanos

instance (d : Duration) (now : Instant) : Decidable (OutOfRange d now) :=
  inferInstanceAs (Decidable (_ ∧ _))

/-- When the tick is due that follows on one: a period after that one was due, or a period after it
was taken if it was taken more than 5 ms late. -/
def nextDue (every : Duration) (due taken : Instant) : Instant :=
  if due + 5000000 < taken then taken + every.nanos else due + every.nanos

/-- No tick can follow on one: the clock cannot show until when it is taken in time or, if it is
taken late, when the next one is due. -/
def Overruns (every : Duration) (due taken : Instant) : Prop :=
  clockEnd ≤ due + 5000000 ∨ due + 5000000 < taken ∧ clockEnd ≤ taken + every.nanos

instance (every : Duration) (due taken : Instant) : Decidable (Overruns every due taken) :=
  inferInstanceAs (Decidable (_ ∨ _))

section Ticks

variable {ticker ticker' : Ticker} {now : Instant} {every : Duration}

lemma nonZero_cases (d : Duration) :
    d.nanos = 0 ∧ d.nonZero = none ∨ d.nanos ≠ 0 ∧ d.nonZero = some d := by
  unfold Duration.nonZero
  by_cases off : d.nanos = 0
  · exact Or.inl ⟨off, if_pos off⟩
  · exact Or.inr ⟨off, if_neg off⟩

lemma after_cases (now : Instant) (every : Duration) :
    clockEnd ≤ now + every.nanos ∧ Ticker.after? now every = none ∨
      now + every.nanos < clockEnd ∧ Ticker.after? now every = some ⟨now + every.nanos, every⟩ := by
  unfold Ticker.after?
  split
  case isTrue shown => exact Or.inr ⟨shown, rfl⟩
  case isFalse late => exact Or.inl ⟨Nat.not_lt.mp late, rfl⟩

lemma after_none_iff : Ticker.after? now every = none ↔ clockEnd ≤ now + every.nanos := by
  rcases after_cases now every with ⟨late, none⟩ | ⟨shown, some⟩
  · exact iff_of_true none late
  · rw [some]
    exact iff_of_false nofun (Nat.not_le.mpr shown)

/-- A tick that is taken has a successor unless it overruns the clock. -/
lemma tick_cases (ticker : Ticker) (now : Instant) :
    Overruns ticker.period ticker.next now ∧ ticker.tick? now = none ∨
      ¬Overruns ticker.period ticker.next now ∧
        ticker.tick? now = some ⟨nextDue ticker.period ticker.next now, ticker.period⟩ := by
  unfold Ticker.tick? Ticker.tolerance Ticker.after? Overruns nextDue
  by_cases early : clockEnd ≤ ticker.next + 5000000
  · rw [if_pos early]
    exact Or.inl ⟨Or.inl early, rfl⟩
  rw [if_neg early]
  by_cases late : ticker.next + 5000000 < now
  · rw [if_pos late, if_pos late]
    by_cases shown : now + ticker.period.nanos < clockEnd
    · rw [if_pos shown]
      refine Or.inr ⟨?_, rfl⟩
      rintro (beyond | ⟨-, beyond⟩)
      · exact early beyond
      · exact Nat.not_le.mpr shown beyond
    · rw [if_neg shown]
      exact Or.inl ⟨Or.inr ⟨late, Nat.not_lt.mp shown⟩, rfl⟩
  · rw [if_neg late, if_neg late]
    exact Or.inr ⟨fun beyond => beyond.elim early fun h => late h.1, rfl⟩

lemma tick_none_iff : ticker.tick? now = none ↔ Overruns ticker.period ticker.next now := by
  rcases tick_cases ticker now with ⟨beyond, ticked⟩ | ⟨fits, ticked⟩
  · exact iff_of_true ticked beyond
  · rw [ticked]
    exact iff_of_false nofun fits

lemma tick_fits (fits : ¬Overruns ticker.period ticker.next now) :
    ticker.tick? now = some ⟨nextDue ticker.period ticker.next now, ticker.period⟩ := by
  rcases tick_cases ticker now with ⟨beyond, -⟩ | ⟨-, ticked⟩
  · exact absurd beyond fits
  · exact ticked

lemma tick_some (ticked : ticker.tick? now = some ticker') :
    ¬Overruns ticker.period ticker.next now ∧
      ticker' = ⟨nextDue ticker.period ticker.next now, ticker.period⟩ := by
  rcases tick_cases ticker now with ⟨-, none⟩ | ⟨fits, some⟩
  · cases none.symm.trans ticked
  · exact ⟨fits, Option.some.inj (ticked.symm.trans some)⟩

end Ticks

end SteadyLink.Proofs
