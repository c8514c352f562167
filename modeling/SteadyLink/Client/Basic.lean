import SteadyLink.Client.Dispatch
import SteadyLink.Connection.Supervisor.Step
import SteadyLink.Observer.Set

/-!
# The client

A whole client: the supervisor, the hub, and the tasks beside them, which are hooks, the listener
that feeds the observers, the observers' workers and the feeds' requesters.
-/

namespace SteadyLink

/-- Where a hook gets its calls from. -/
inductive HookSource where
  /-- Transitions in a queue of its own, oldest first. -/
  | transitions (queue : List (ConnectionState × ConnectionState))
  /-- Faults read off the bus. -/
  | faults (receiver : Nat)
  deriving DecidableEq

/-- How far a task is that reads until it shall end. It looks for something to read first and
whether it shall end second, and others may come in between. -/
inductive Pass where
  | reading
  /-- Nothing was found; the task looks next whether it shall end. -/
  | checking
  /-- Neither was found; the task waits for either. -/
  | waiting
  deriving DecidableEq

/-- A callback for transitions or faults, run by a task of its own. -/
structure Hook where
  source : HookSource
  pass : Pass
  removed : Bool
  running : Bool
  /-- How the callback fails on each call, if it does. This never stops the hook. -/
  panic : Option Panic
  deriving DecidableEq

/-- A transition for a hook that wants transitions. -/
def Hook.notify (source target : ConnectionState) (h : Hook) : Hook :=
  match h.source with
  | .transitions queue =>
    if h.running then { h with source := .transitions (queue ++ [(source, target)]) } else h
  | .faults _ => h

structure Client where
  config : Config
  hub : Hub
  supervisor : Supervisor
  hooks : List Hook
  observers : ObserverSet
  /-- The receiver of the listener while it runs. -/
  listener : Option Nat
  listening : Pass
  /-- The supervisor has ended in good order, and every task shall end. -/
  shutdown : Bool

namespace Client

def fresh (c : Config) (observers : List Observer) : Client :=
  let hub := Hub.fresh c.codec c.busLimit
  let base : Client :=
    { config := c, hub, supervisor := .fresh c, hooks := [], observers := .ofList observers,
      listener := none, listening := .reading, shutdown := false }
  if observers.isEmpty then base
  else
    let (receiver, bus) := hub.bus.subscribe
    { base with hub := { hub with bus }, listener := some receiver }

def build (c : Config) (observers : List Observer) : Except ClientError Client :=
  match c.endpoint? with
  | .ok _ => .ok (fresh c observers)
  | .error e => .error e

def onHub (s : Client) (f : Hub → Hub) : Client := { s with hub := f s.hub }

def publish (s : Client) (e : Event) : Client := s.onHub (·.publish e)

/-- Brings one effect of the supervisor about. A transition reaches the hooks first, then the state
shown to everybody, then the bus. -/
def apply (s : Client) : Effect → Client
  | .moved source target =>
    { s with
      hooks := s.hooks.map (Hook.notify source target)
      hub := { s.hub with state := target, stateChanges := s.hub.stateChanges + 1 } }.publish
        (.stateChanged source target)
  | .dispatch e => s.onHub (·.deliver e)
  | .connect => s.onHub (·.note .attempted)
  | .wrote session _ frame => s.onHub (·.note (.wrote session frame))
  | effect =>
    match effect.event? with
    | some e => s.publish e
    | none => s

/-- After the end of the supervisor nobody takes requests; an end in good order ends every task. -/
def settleEnd (s : Client) : Client :=
  if s.supervisor.isGone then
    { s with
      hub := { s.hub with accepting := false, mailbox := [] }
      shutdown := s.shutdown || s.supervisor.phase = .exited }
  else s

def turn (s : Client) (draw : Nat) (stimulus : Stimulus) : Option (Client × List Effect) :=
  match s.supervisor.step s.config s.hub.now draw stimulus with
  | none => none
  | some (supervisor, effects) =>
    some ((effects.foldl apply { s with supervisor }).settleEnd, effects)

/-- The supervisor takes the next request, or learns that no handle is left. -/
def takeMail (s : Client) (draw : Nat) : Option (Client × List Effect) :=
  match s.hub.mailbox with
  | request :: rest =>
    (s.onHub fun hub => { hub with mailbox := rest }).turn draw (.mail (some request))
  | [] => if s.hub.allHandles = 0 then s.turn draw (.mail none) else none

/-! What owners of handles do, beside the calls of the hub -/

def onState (s : Client) (panic : Option Panic) : Nat × Client :=
  (s.hooks.length,
    { s with hooks := s.hooks ++ [⟨.transitions [], .reading, false, true, panic⟩] })

/-- A hook for faults; gives its number. -/
def onError (s : Client) (panic : Option Panic) : Nat × Client :=
  let (receiver, bus) := s.hub.bus.subscribe
  (s.hooks.length,
    { s with
      hub := { s.hub with bus }
      hooks := s.hooks ++ [⟨.faults receiver, .reading, false, true, panic⟩] })

/-- Asks for the end of a hook; its task ends when it has found nothing to read and looks for this. -/
def removeHook (s : Client) (number : Nat) : Client :=
  { s with hooks := s.hooks.modify number ({ · with removed := true }) }

def isHookRemoved (s : Client) (number : Nat) : Bool :=
  match s.hooks[number]? with
  | some h => h.removed || s.shutdown
  | none => false

def cloneHandle (s : Client) : Client := s.onHub fun hub => { hub with handles := hub.handles + 1 }

def dropHandle (s : Client) : Client := s.onHub fun hub => { hub with handles := hub.handles - 1 }

def pass (s : Client) (now : Instant) : Client := s.onHub fun hub => { hub with now := now }

end Client

end SteadyLink
