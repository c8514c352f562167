import SteadyLink.Event.Basic
import SteadyLink.Table

/-!
# The event bus

The lossy event bus. Every publication is stamped with its number, counted from one, and handed to
every receiver. A receiver keeps the latest events up to the size of the ring; those it lost are
counted and reported before it goes on with the oldest one kept.
-/

namespace SteadyLink

/-- The least power of two that is not below `n`. -/
def powerAbove (n : Nat) : Nat := if n ≤ 1 then 1 else Nat.pow 2 (Nat.log2 (n - 1) + 1)

structure Receiver where
  /-- Events not yet read, oldest first. -/
  pending : List Event
  /-- Events lost since the last report. -/
  missed : Nat
  deriving DecidableEq

inductive Reception where
  | event (e : Event)
  /-- Nothing yet. -/
  | empty
  /-- Nothing any more: the ring is read and nobody is left to publish. -/
  | closed
  /-- Events were lost; reading goes on with the oldest one kept. -/
  | lagged (count : Nat)
  deriving DecidableEq

namespace Receiver

def fresh : Receiver := ⟨[], 0⟩

/-- Takes an event over; in a ring that is full the oldest one is lost. -/
def accept (ring : Nat) (e : Event) (r : Receiver) : Receiver :=
  if r.pending.length < ring then { r with pending := r.pending ++ [e] }
  else ⟨r.pending.tail ++ [e], r.missed + 1⟩

/-- The next event, unless there is none or some were missed. -/
def receive (publishers : Nat) (r : Receiver) : Reception × Receiver :=
  if 0 < r.missed then (.lagged r.missed, { r with missed := 0 })
  else
    match r.pending with
    | e :: rest => (.event e, { r with pending := rest })
    | [] => (if publishers = 0 then .closed else .empty, r)

end Receiver

structure Bus where
  /-- How many events are kept for a receiver. -/
  ring : Nat
  published : Nat
  /-- Handles through which events can be published. -/
  publishers : Nat
  receivers : Table Nat Receiver
  /-- Receivers made so far; the next one gets this number. -/
  subscribed : Nat
  deriving DecidableEq

namespace Bus

/-- A bus that keeps at least `capacity` events and has one publisher. -/
def ofCapacity (capacity : Nat) : Bus := ⟨powerAbove (max 1 capacity), 0, 1, .empty, 0⟩

instance : Inhabited Bus := ⟨ofCapacity 1⟩

def stamp (b : Bus) (e : Event) : Event := { e with seq := b.published + 1 }

/-- Numbers an event and hands it to every receiver, in one step. Publishers that run side by side can
take their numbers in one order and hand their events over in another, so that numbers tell the order
of the events of one publisher only. -/
def publish (b : Bus) (e : Event) : Bus :=
  { b with
    published := b.published + 1
    receivers := b.receivers.map (Receiver.accept b.ring (b.stamp e)) }

def subscribe (b : Bus) : Nat × Bus :=
  (b.subscribed,
    { b with
      receivers := b.receivers.insert b.subscribed .fresh
      subscribed := b.subscribed + 1 })

/-- Reads for one receiver. A number that no receiver has reads as closed. -/
def receive (b : Bus) (id : Nat) : Reception × Bus :=
  match b.receivers.get? id with
  | none => (.closed, b)
  | some r =>
    let (reception, r) := r.receive b.publishers
    (reception, { b with receivers := b.receivers.insert id r })

/-- Reads up to `count` times, as long as there is something to read. -/
def drainUpTo (id : Nat) : Nat → Bus → List Reception × Bus
  | 0, b => ([], b)
  | count + 1, b =>
    match b.receive id with
    | (.empty, b) => ([], b)
    | (.closed, b) => ([], b)
    | (reception, b) =>
      let (rest, b) := drainUpTo id count b
      (reception :: rest, b)

/-- Reads all that a receiver holds: at most a report of lost events and the whole ring. -/
def drain (b : Bus) (id : Nat) : List Reception × Bus := drainUpTo id (b.ring + 1) b

def clone (b : Bus) : Bus := { b with publishers := b.publishers + 1 }

def dropPublisher (b : Bus) : Bus := { b with publishers := b.publishers - 1 }

def dropReceiver (b : Bus) (id : Nat) : Bus := { b with receivers := b.receivers.erase id }

end Bus

end SteadyLink
