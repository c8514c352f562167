import SteadyLink.Client.Hub

/-!
# Dispatch

Dispatch of a message to the callbacks that were registered for its kind when the dispatch began,
whatever they do to the registrations. A callback that panics is reported and does not stop the
others.
-/

namespace SteadyLink.Hub

/-- A way to dispatch a message; none if the dispatch does not come to an end. -/
abbrev Dispatcher := Envelope → Hub → Option (Hub × Nat)

def perform (inner : Dispatcher) (a : Action) (hub : Hub) : Option (Hub × Except Panic Reply) :=
  match a with
  | .call c =>
    let (hub, reply) := hub.call c
    some (hub, .ok reply)
  | .dispatch kind payload =>
    match Envelope.ofKind kind payload with
    | .error e => some (hub, .ok (.failed e))
    | .ok e => (inner e hub).map fun (hub, n) => (hub, .ok (.dispatched n))
  | .panic p => some (hub, .error p)

def runBody (inner : Dispatcher) : List Action → Hub → Option (Hub × Option Panic)
  | [], hub => some (hub, none)
  | a :: rest, hub =>
    match perform inner a hub with
    | none => none
    | some (hub, .error p) => some (hub, some p)
    | some (hub, .ok reply) => runBody inner rest (hub.note (.performed a reply))

def invoke (inner : Dispatcher) (e : Envelope) (callback : Callback) (hub : Hub) :
    Option (Hub × Option Panic) :=
  match callback with
  | .body tag actions => runBody inner actions (hub.note (.called tag e.kind e.payload))
  | .feed number role =>
    some ({ hub with feeds := hub.feeds.modify number (·.receive role e.payload) }, none)

def report (hub : Hub) (kind : String) : Option Panic → Hub
  | none => hub
  | some p => hub.publish (.subscriberPanicked kind p.info)

/-- Calls callbacks one after another. One that panics is reported and does not stop the others. -/
def invokeAll (inner : Dispatcher) (e : Envelope) : List Callback → Hub → Option Hub
  | [], hub => some hub
  | callback :: rest, hub =>
    match invoke inner e callback hub with
    | none => none
    | some (hub, panic) => invokeAll inner e rest (hub.report e.kind panic)

/-- Calls the callbacks that are registered for the message's kind now, in the order of
registration, and counts them. Dispatch from inside callbacks may nest as deep as `depth`. -/
def dispatch (depth : Nat) (e : Envelope) (hub : Hub) : Option (Hub × Nat) :=
  match depth with
  | 0 => none
  | depth + 1 =>
    let callbacks := hub.registry.snapshot e.kind
    (invokeAll (dispatch depth) e callbacks hub).map fun hub => (hub, callbacks.length)

/-- How deep dispatch may nest where a message comes from outside. A limit makes the function total; a
client has none but its stack. -/
def nestingLimit : Nat := 256

/-- Dispatches a message from outside. One that would nest beyond the limit has no effect: what it does
up to any depth is in `dispatch`. -/
def deliver (hub : Hub) (e : Envelope) : Hub :=
  match hub.dispatch nestingLimit e with
  | some (hub, _) => hub
  | none => hub

end SteadyLink.Hub
