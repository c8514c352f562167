import SteadyLink.Event.Basic

/-!
# Observers

Observers of lifecycle events. Each has a bounded queue and a worker that handles one event at a
time; handing out events never waits. An event that a full queue refuses is reported, unless it is
such a report itself, and an observer that panics is reported too. A worker is there as long as its
observer is in the set, so that no observer refuses an event because its queue is closed: that would take
an observer that panics before it returns the future in which it handles the event.
-/

namespace SteadyLink

/-- Somebody who is told of events. -/
structure Observer where
  name : String
  /-- Events that may wait for the observer. -/
  capacity : Nat
  /-- How long the observer takes for an event. -/
  pace : Duration
  /-- How the observer fails on an event, if it does. -/
  panics : Event → Option Panic
  /-- What the observer handles can be seen. -/
  isVisible : Bool

/-- The observer that writes every event to the log. -/
def Observer.log : Observer := ⟨"log", 1024, .zero, fun _ => none, false⟩

/-- An observer that fails on one kind of event. -/
def Observer.failsOn (kind : EventKind) (p : Panic) (e : Event) : Option Panic :=
  if e.kind = kind then some p else none

/-- The number of events that may wait: one at least. -/
def Observer.limit (o : Observer) : Nat := max o.capacity 1

/-- An observer at work. -/
structure Worker where
  observer : Observer
  waiting : List Event
  /-- The event being handled, and when that will be done. -/
  current : Option (Event × Instant)

namespace Worker

/-- A worker that has nothing to do. -/
def idle (o : Observer) : Worker := ⟨o, [], none⟩

/-- Hands an event to the worker; tells whether the queue had room for it. -/
def offer (w : Worker) (e : Event) : Bool × Worker :=
  if w.waiting.length < w.observer.limit then (true, { w with waiting := w.waiting ++ [e] })
  else (false, w)

/-- Begins to handle the event that has waited longest. -/
def begin? (w : Worker) (now : Instant) : Option Worker :=
  match w.current, w.waiting with
  | none, e :: rest =>
    some { w with waiting := rest, current := some (e, now + w.observer.pace.nanos) }
  | _, _ => none

/-- The report on an event that the observer failed on. -/
def report? (w : Worker) (e : Event) : Option Event :=
  (w.observer.panics e).map fun p => .observerPanicked w.observer.name p.info

/-- Finishes the event being handled, once its time has come. -/
def finish? (w : Worker) (now : Instant) : Option (Event × Worker) :=
  match w.current with
  | some (e, ready) => if ready ≤ now then some (e, { w with current := none }) else none
  | none => none

/-- Nothing is being handled and nothing waits. -/
def isIdle (w : Worker) : Bool := w.current.isNone && w.waiting.isEmpty

end Worker

/-- Observers with their workers, in the order of their registration. -/
abbrev ObserverSet := List Worker

namespace ObserverSet

/-- All observers, none at work. -/
def ofList (observers : List Observer) : ObserverSet := observers.map Worker.idle

/-- Hands an event to every observer. Gives the names of those whose queue was full. -/
def offerAll (e : Event) : ObserverSet → List String × ObserverSet
  | [] => ([], [])
  | w :: rest =>
    let (accepted, w) := w.offer e
    let (refused, rest) := offerAll e rest
    (if accepted then refused else w.observer.name :: refused, w :: rest)

/-- Hands an event to every observer. Gives the reports on those that refused it. -/
def emit (s : ObserverSet) (e : Event) : List Event × ObserverSet :=
  let (refused, s) := offerAll e s
  (if e.isObserverOverflow then [] else refused.map (Event.observerOverflow · "full"), s)

/-- Every accepted event has been handled. -/
def isIdle (s : ObserverSet) : Bool := s.all Worker.isIdle

end ObserverSet

end SteadyLink
