import SteadyLink.Proofs.FeedTasks

/-!
# The requests of a feed

A feed asks for a snapshot once for every opening of the connection that its task gets to see, and
never twice for the same one. What it asks for beyond that it asks for when a tick is due. The task
looks at the state now and then, so that it may miss an opening that is over before it runs.
-/

namespace SteadyLink.Proofs

open Hub

/-- What comes into the mailbox with a move that takes nothing out of it. -/
def mailed (m : Move) : List Control :=
  ((next? m.before m.choice).map fun s => s.hub.mailbox.drop m.before.hub.mailbox.length).getD []

/-- The task runs because a tick is due: there is no news of the state. -/
def isTick (k : Nat) (m : Move) : Bool :=
  match m.before.hub.feeds[k]?.map MetricsFeed.task with
  | some (.waiting seen (some ticker)) =>
    seen = m.before.hub.stateChanges && ticker.isDue m.before.hub.now
  | _ => false

/-- The moves in which the task of a feed sends something. -/
def requestsOf (k : Nat) (trail : Trail) : Trail :=
  trail.filter fun m => feedRunner? m.choice = some k && !(mailed m).isEmpty

/-- The requests that are made for the state alone, and not for a tick. -/
def answers (k : Nat) (trail : Trail) : Trail :=
  (requestsOf k trail).filter fun m => !isTick k m

section Moves

variable {s s' : Client} {k : Nat} {f : MetricsFeed} {trail : Trail} {choice : Choice}

end Moves

/-! ## One step -/

section Steps

variable {s₁ s s' : Client} {k : Nat} {f : MetricsFeed} {category : MetricsCategory}
variable {refresh : Duration} {trail : Trail} {choice : Choice} {asks : Bool} {task : FeedTask}

/-- After its first run the task waits, unless the clock cannot show when the first tick is due. -/
lemma startedTask_cases (s : Client) (f : MetricsFeed) :
    OutOfRange f.refresh s.hub.now ∧ s.startedTask f = .ended ∨
      ¬OutOfRange f.refresh s.hub.now ∧
        ∃ ticker, s.startedTask f = .waiting s.hub.stateChanges ticker ∧
          ∀ t, ticker = some t → t.period = f.refresh ∧ f.refresh.nanos ≠ 0 := by
  unfold Client.startedTask
  rcases nonZero_cases f.refresh with ⟨off, hnone⟩ | ⟨on, hsome⟩
  · rw [hnone]
    exact Or.inr ⟨fun out => out.1 off, none, rfl, nofun⟩
  · rw [hsome]
    rcases after_cases s.hub.now f.refresh with ⟨late, hticker⟩ | ⟨shown, hticker⟩
    · refine Or.inl ⟨⟨on, late⟩, ?_⟩
      simp only [hticker]
    · refine Or.inr ⟨fun out => Nat.not_le.mpr shown out.2,
        some ⟨s.hub.now + f.refresh.nanos, f.refresh⟩, ?_, ?_⟩
      · simp only [hticker]
      · rintro t ⟨⟩
        exact ⟨rfl, on⟩

end Steps

/-! ## Along a journey -/

section Journeys

variable {s₁ s : Client} {k : Nat} {category : MetricsCategory} {refresh : Duration} {trail : Trail}

end Journeys

/-- A message waits when the connection is opened, so that the queue is being flushed. -/
def flushing : List Choice :=
  [.deed (.call .ping), .deed (.call .start), .take 0, .take 0, .meet 0 .attemptBegun,
    .meet 0 .connected]

end SteadyLink.Proofs
