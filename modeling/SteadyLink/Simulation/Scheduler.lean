import SteadyLink.Client.Task
import SteadyLink.Simulation.Server

/-!
# The virtual clock

A client against a scripted server on a virtual clock. One actor runs at a time, until it would
have to wait; actors take their turns in the order in which they became ready. Time stands still
while anybody is ready, and then goes on to the next moment at which somebody is.
-/

namespace SteadyLink

/-- Whoever can take a turn. -/
inductive Actor where
  | supervisor
  | task (t : Task)
  deriving DecidableEq

/-- A client, the server beyond it, and whose turn it is. -/
structure Simulation where
  client : Client
  server : Server
  /-- Those whose turn will come, the next one first. -/
  ready : List Actor
  /-- Those who used up their turn and go on when nobody else is ready. -/
  deferred : List Actor
  /-- Who wants to go on when, in the order in which these wishes came up. -/
  timers : List (Actor × Instant)

namespace Simulation

def ofClient (client : Client) (server : Server) : Simulation := ⟨client, server, [], [], []⟩

def now (m : Simulation) : Instant := m.client.hub.now

/-- A request can be taken from the mailbox, or no handle is left. -/
def hasMail (m : Simulation) : Bool :=
  !m.client.hub.mailbox.isEmpty || m.client.hub.allHandles = 0

/-- What the supervisor meets next, beside requests. -/
def stimulus? (m : Simulation) : Option Stimulus :=
  let now := m.now
  match m.client.supervisor.phase with
  | .connecting => some .attemptBegun
  | .attempting deadline =>
    (m.server.attemptOutcome? now).or
      (if Supervisor.isPast now deadline then some .connectTimedOut else none)
  | .flushing session _ _ => m.server.writeOutcome? now session
  | .sending session _ _ => m.server.writeOutcome? now session
  | .pinging session _ => m.server.writeOutcome? now session
  | .serving session ticker =>
    (m.server.incoming? session).or
      (match ticker with
      | some ticker => if ticker.isDue now then some .heartbeatDue else none
      | none => none)
  | .retrying wakeAt => if wakeAt ≤ now then some .timerElapsed else none
  | .closing _ giveUpAt _ =>
    if m.server.ready ≤ now then some .closeFinished
    else if giveUpAt.isNone || Supervisor.isPast now giveUpAt then some .closeGivenUp
    else none
  | _ => none

/-- The supervisor looks at the mailbox in this phase, before anything else. -/
def mailFirst (m : Simulation) : Bool :=
  match m.client.supervisor.phase with
  | .serving .. => true
  | _ => false

/-- One turn of the supervisor with the given stimulus. -/
def meet (m : Simulation) (stimulus : Stimulus) : Option Simulation :=
  match m.client.turn 0 stimulus with
  | some (client, effects) =>
    let server := m.server.anticipate m.client.supervisor.phase stimulus
    some { m with client, server := effects.foldl (Server.react m.now) server }
  | none => none

/-- The supervisor takes a request. -/
def takeMail (m : Simulation) : Option Simulation :=
  if m.hasMail then
    match m.client.takeMail 0 with
    | some (client, effects) =>
      some { m with client, server := effects.foldl (Server.react m.now) m.server }
    | none => none
  else none

/-- One turn of the supervisor; none while it waits. -/
def stepSupervisor (m : Simulation) : Option Simulation :=
  let other := m.stimulus?.bind m.meet
  if m.mailFirst then m.takeMail.or other else other.or m.takeMail

/-- One small step of an actor; none while it waits. -/
def stepActor (m : Simulation) : Actor → Option Simulation
  | .supervisor => m.stepSupervisor
  | .task t => (m.client.stepTask t).map fun client => { m with client }

/-- All that can take a turn, in the order in which they are asked. -/
def actors (m : Simulation) : List Actor := m.client.tasks.map .task ++ [.supervisor]

/-- The actor will take a turn in any case. -/
def isQueued (m : Simulation) (a : Actor) : Bool := m.ready.contains a || m.deferred.contains a

/-- Puts everybody who could go on now at the end of the line. -/
def enlist (m : Simulation) (running : Option Actor) : Simulation :=
  let woken := m.actors.filter fun a =>
    some a != running && !m.isQueued a && (m.stepActor a).isSome
  { m with ready := m.ready ++ woken }

/-- When an actor goes on by itself. -/
def deadlines (m : Simulation) : Actor → List Instant
  | .supervisor =>
    (m.server.deadline? m.client.supervisor.phase).toList ++
      m.client.supervisor.deadline?.toList
  | .task (.worker number) =>
    match m.client.observers[number]? with
    | some w => (w.current.map (·.2)).toList
    | none => []
  | .task (.feed number) =>
    match m.client.hub.feeds[number]? with
    | some f =>
      match f.task with
      | .waiting _ (some ticker) => [ticker.next]
      | _ => []
    | none => []
  | .task _ => []

/-- Brings the timers of an actor up to date: those that still stand keep their place, and new ones
go to the end. -/
def rearm (m : Simulation) (a : Actor) : Simulation :=
  let wanted := m.deadlines a
  let kept := m.timers.filter fun timer => timer.1 != a || wanted.contains timer.2
  let fresh := wanted.filter fun t => !kept.contains (a, t)
  { m with timers := kept ++ fresh.map (a, ·) }

/-- The messages that an actor may take in before others get their turn. -/
def turnLength : Nat := 128

/-- Steps that are allowed for in one turn, whether they take in messages or not. -/
def turnSteps : Nat := 1000000

/-- The messages that wait for an actor. Those without a mailbox of their own count as having one
message for each step. -/
def backlog (m : Simulation) : Actor → Option Nat
  | .supervisor => some (m.client.hub.mailbox.length +
    m.server.sessions.foldr (fun session n => session.outbox.length + n) 0)
  | .task (.worker number) => m.client.observers[number]?.map (·.waiting.length)
  | .task _ => none

/-- The actor is not about to read. -/
def isAway (m : Simulation) : Actor → Bool
  | .task (.hook number) => (m.client.hooks[number]?.map Hook.pass) != some .reading
  | .task .listener => m.client.listening != .reading
  | _ => false

/-- The actor took in a message on the way from the first state to the second. -/
def tookIn (before after : Simulation) (a : Actor) : Bool :=
  match before.backlog a, after.backlog a with
  | some n, some k => k < n
  | _, _ => !(before.isAway a || after.isAway a)

/-- An actor goes on until it would wait or its turn is used up. -/
def runActor (a : Actor) : Nat → Nat → Simulation → Simulation
  | 0, _, m => { m with deferred := m.deferred ++ [a] }
  | _, 0, m => { m with deferred := m.deferred ++ [a] }
  | steps + 1, messages + 1, m =>
    match m.stepActor a with
    | none => m
    | some next =>
      runActor a steps (if m.tookIn next a then messages else messages + 1)
        ((next.enlist (some a)).rearm a)

/-- Lets everybody run until nothing is left to do at this instant. -/
def settleWithin : Nat → Simulation → Simulation
  | 0, m => m
  | turns + 1, m =>
    match m.ready with
    | a :: rest => settleWithin turns (runActor a turnSteps turnLength { m with ready := rest })
    | [] =>
      match m.deferred with
      | [] => m
      | deferred => settleWithin turns { m with ready := deferred, deferred := [] }

/-- Turns that are allowed for at one instant. -/
def turnLimit : Nat := 1000000

def settle (m : Simulation) : Simulation := settleWithin turnLimit (m.enlist none)

/-- The next instant, in whole milliseconds, at which somebody goes on. -/
def nextInstant? (m : Simulation) : Option Instant :=
  (((m.timers.map (·.2)).filter (m.now < ·)).min?).map fun t =>
    (t + 999999) / 1000000 * 1000000

/-- Time goes on to the given instant. Those whose time has come are ready, in the order in which
they asked for it. -/
def pass (m : Simulation) (now : Instant) : Simulation :=
  let due := (m.timers.filter fun timer => m.now < timer.2 && timer.2 ≤ now).map (·.1)
  { m with client := m.client.pass now, ready := m.ready ++ due.eraseDups }

/-- Lets time go on to the given instant; everybody goes on in their own time. -/
def advanceWithin : Nat → Instant → Simulation → Simulation
  | 0, target, m => m.pass target
  | moments + 1, target, m =>
    match m.nextInstant? with
    | some t =>
      if t ≤ target then advanceWithin moments target (m.pass t).settle else m.pass target
    | none => m.pass target

/-- Lets a number of milliseconds pass, after everybody has done what can be done now. -/
def advance (m : Simulation) (millis : Nat) : Simulation :=
  advanceWithin (millis + 1) (m.now + millis * 1000000) m.settle

/-- Lets time pass until the observers have handled all that they accepted. -/
def drainObservers : Nat → Simulation → Simulation
  | 0, m => m
  | moments + 1, m =>
    if m.client.observers.isIdle then m
    else
      match m.nextInstant? with
      | some t => drainObservers moments (m.pass t).settle
      | none => m

/-- Closes the queues of the observers and waits for their workers. -/
def shutDownObservers (m : Simulation) : Simulation :=
  let m := m.settle
  drainObservers (m.client.observers.foldr (fun worker n => worker.waiting.length + 1 + n) 0) m

end Simulation

end SteadyLink
