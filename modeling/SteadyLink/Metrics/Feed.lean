import SteadyLink.Metrics.Category
import SteadyLink.Metrics.Snapshot
import SteadyLink.Time.Ticker

/-!
# The metrics feed

The newest snapshot of metrics. What comes over the channel wins over what the caller supplies:
once a snapshot came over the channel, no other source changes the reading.
-/

namespace SteadyLink

/-- Where a snapshot came from. -/
inductive SnapshotSource where
  /-- Supplied by the caller. -/
  | fallback
  /-- Delivered over the channel. -/
  | channel
  deriving DecidableEq, Repr

/-- The newest snapshot, and where it came from. -/
structure MetricsReading where
  snapshot : MetricsSnapshot
  source : SnapshotSource
  deriving DecidableEq

/-- How a snapshot from the channel bears on the one before. -/
inductive SnapshotRole where
  /-- It stands for all that came before. -/
  | initial
  /-- It is merged into what came over the channel before. -/
  | update
  deriving DecidableEq, Repr

namespace MetricsReading

/-- The reading after a snapshot from the channel. -/
def receive (current : Option MetricsReading) (role : SnapshotRole) (snapshot : MetricsSnapshot) :
    MetricsReading :=
  match role, current with
  | .update, some ⟨older, .channel⟩ => ⟨older.merge snapshot, .channel⟩
  | _, _ => ⟨snapshot, .channel⟩

/-- The reading after the caller supplied a snapshot; none if the channel was first. -/
def seed? (current : Option MetricsReading) (snapshot : MetricsSnapshot) : Option MetricsReading :=
  match current with
  | some ⟨_, .channel⟩ => none
  | _ => some ⟨snapshot, .fallback⟩

end MetricsReading

/-- What the task that asks for snapshots is doing. -/
inductive FeedTask where
  /-- It has not run yet. -/
  | starting
  /-- It waits for a change of state after the one numbered `seen`, or for a tick. -/
  | waiting (seen : Nat) (ticker : Option Ticker)
  | ended
  deriving DecidableEq

structure MetricsFeed where
  category : MetricsCategory
  /-- The interval between requests on a live connection. Zero turns them off. -/
  refresh : Duration
  /-- The registrations for initial snapshots and for updates. -/
  subscriptions : Nat × Nat
  reading : Option MetricsReading
  changes : Nat
  /-- The change that the owner has seen. -/
  asked : Nat
  /-- The owner has not given the feed up. -/
  attached : Bool
  task : FeedTask
  deriving DecidableEq

namespace MetricsFeed

/-- Half a minute between requests, unless the caller says otherwise. -/
def standardRefresh : Duration := .ofSecs 30

/-- A feed without a reading, whose task is about to run. -/
def starting (category : MetricsCategory) (refresh : Duration) (subscriptions : Nat × Nat) :
    MetricsFeed :=
  { category, refresh, subscriptions, reading := none, changes := 0, asked := 0, attached := true,
    task := .starting }

/-- Takes in a payload from the channel. A payload that is no snapshot changes nothing. -/
def receive (f : MetricsFeed) (role : SnapshotRole) (payload : Json) : MetricsFeed :=
  match MetricsSnapshot.ofJson payload with
  | .error _ => f
  | .ok snapshot =>
    { f with
      reading := some (MetricsReading.receive f.reading role snapshot)
      changes := f.changes + 1 }

def seed (f : MetricsFeed) (snapshot : MetricsSnapshot) : Bool × MetricsFeed :=
  match MetricsReading.seed? f.reading snapshot with
  | none => (false, f)
  | some reading => (true, { f with reading := some reading, changes := f.changes + 1 })

def latest (f : MetricsFeed) : (Bool × Option MetricsReading) × MetricsFeed :=
  ((f.asked < f.changes, f.reading), { f with asked := f.changes })

/-- The client handles that the feed keeps: one for its owner, one for its task. -/
def handles (f : MetricsFeed) : Nat :=
  (if f.attached then 1 else 0) + if f.task = .ended then 0 else 1

end MetricsFeed

end SteadyLink
