import SteadyLink.Connection.CommandQueue
import SteadyLink.Connection.Config
import SteadyLink.Connection.Control
import SteadyLink.Event.Basic
import SteadyLink.Time.Ticker

/-!
# The supervisor

The supervisor of one logical connection, as a machine. It is always in some phase, takes one
stimulus at a time (a request, the outcome of something it began, or the end of a wait) and answers
with effects in the order in which they happen. Which stimuli come, and when, is up to the world
around it.
-/

namespace SteadyLink

/-- A message to be written, numbered in the order in which the supervisor took it over. -/
structure Command where
  number : Nat
  envelope : Envelope
  deriving DecidableEq

/-- Why a command was given up. -/
inductive Eviction where
  /-- The queue was full and a newer command needed its place. -/
  | overflow
  /-- The command had waited too long when a session opened. -/
  | expired
  deriving DecidableEq

def Eviction.reason : Eviction → String
  | overflow => "overflow"
  | expired => "expired"

inductive AfterClose where
  | idle
  | retry
  | terminal
  deriving DecidableEq

/-- The stages of the supervisor's loop. A stage that has nothing to wait for begins and ends in one
turn. -/
inductive Stage where
  | idle
  | connecting
  | opened
  | retrying
  | closing
  | terminal
  | exit
  deriving DecidableEq

/-- What the supervisor is doing, and for what it waits. -/
inductive Phase where
  /-- Not started, or stopped. -/
  | idle
  | terminal
  | connecting
  /-- Waits for a session until the deadline, if there is one. -/
  | attempting (deadline : Option Instant)
  /-- Writes the commands that waited; `item` is being written, `sent` are. -/
  | flushing (session : Nat) (item : Pending Command) (sent : Nat)
  /-- Waits on a live session for requests, frames and the heartbeat. -/
  | serving (session : Nat) (ticker : Option Ticker)
  | sending (session : Nat) (ticker : Option Ticker) (command : Command)
  | pinging (session : Nat) (ticker : Option Ticker)
  /-- Waits for the time of the next attempt. -/
  | retrying (wakeAt : Instant)
  /-- Shuts a session down; without a time to give up, it is not waited for. -/
  | closing (session : Nat) (giveUpAt : Option Instant) (after : AfterClose)
  | exited
  /-- Has died: a deadline was past the end of the clock. -/
  | crashed
  deriving DecidableEq

inductive Stimulus where
  /-- The next request in the mailbox; none when no handle is left. -/
  | mail (request : Option Control)
  | attemptBegun
  | connected
  | connectFailed (e : TransportError)
  | connectTimedOut
  | written
  | writeFailed (e : TransportError)
  | received (f : Frame)
  | receiveFailed (e : TransportError)
  | heartbeatDue
  | timerElapsed
  | closeFinished
  | closeGivenUp
  deriving DecidableEq

inductive Effect where
  /-- A stage of the loop is taken up. -/
  | began (stage : Stage)
  | moved (source target : ConnectionState)
  /-- The lifecycle does not have this transition: it is dropped. -/
  | refused (source target : ConnectionState)
  | publish (e : Event)
  | evicted (command : Command) (cause : Eviction)
  | connect
  /-- The writing of a command, or of a ping, begins. -/
  | write (session : Nat) (command : Option Command) (frame : String)
  /-- The writing of a command, or of a ping, has succeeded. -/
  | wrote (session : Nat) (command : Option Command) (frame : String)
  | dispatch (e : Envelope)
  | close (session : Nat)
  | drop (session : Nat)
  deriving DecidableEq

def Effect.event? : Effect → Option Event
  | moved source target => some (.stateChanged source target)
  | publish e => some e
  | evicted command cause => some (.commandEvicted command.envelope.kind cause.reason)
  | _ => none

structure Supervisor where
  phase : Phase
  state : ConnectionState
  queue : CommandQueue Command
  /-- Attempts that failed in a row. -/
  attempts : Nat
  accepted : Nat
  /-- Sessions opened so far; the next one gets this number. -/
  sessions : Nat
  deriving DecidableEq

/-- A supervisor after part of its work, and the effects of that part. -/
abbrev Turn := Supervisor × List Effect

/-- Goes on with the work; the effects follow those so far. -/
def Turn.andThen (t : Turn) (f : Supervisor → Turn) : Turn :=
  let u := f t.1
  (u.1, t.2 ++ u.2)

namespace Supervisor

/-- A supervisor that was never asked for anything. -/
def fresh (c : Config) : Supervisor where
  phase := .idle
  state := .idle
  queue := .ofCapacity c.queueLimit c.queueTtl?
  attempts := 0
  accepted := 0
  sessions := 0

def isGone (s : Supervisor) : Bool := s.phase = .exited || s.phase = .crashed

/-- When the supervisor goes on by itself. -/
def deadline? (s : Supervisor) : Option Instant :=
  match s.phase with
  | .attempting deadline => deadline
  | .serving _ ticker => ticker.map Ticker.next
  | .retrying wakeAt => some wakeAt
  | .closing _ giveUpAt _ => giveUpAt
  | _ => none

end Supervisor

end SteadyLink
