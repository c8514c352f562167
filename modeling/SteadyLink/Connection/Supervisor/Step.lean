import SteadyLink.Connection.Supervisor.Basic
import SteadyLink.Message.Reserved

/-!
# The turns of the supervisor

The turns of the supervisor: what it does with each stimulus in each phase. A stimulus that the
phase does not wait for, or whose time has not come, is refused. Work that belongs together is put
together from parts, each of which gives its own effects.
-/

namespace SteadyLink

def Config.frame (c : Config) (command : Option Command) : String :=
  c.codec.encode ((command.map Command.envelope).getD Envelope.ping)

namespace Supervisor

def stay (s : Supervisor) : Turn := (s, [])

def enter (phase : Phase) (s : Supervisor) : Turn := ({ s with phase }, [])

def emit (e : Effect) (s : Supervisor) : Turn := (s, [e])

/-- Begins to write a command or a ping, and waits for that in the given phase. -/
def write (c : Config) (session : Nat) (command : Option Command) (phase : Phase) (s : Supervisor) :
    Turn :=
  ({ s with phase }, [.write session command (c.frame command)])

def noteWritten (c : Config) (session : Nat) (command : Option Command) (s : Supervisor) : Turn :=
  s.emit (.wrote session command (c.frame command))

/-- Takes a transition. One that the lifecycle does not have is dropped. -/
def moveTo (target : ConnectionState) (s : Supervisor) : Turn :=
  if s.state.canTransitionTo target then ({ s with state := target }, [.moved s.state target])
  else (s, [.refused s.state target])

/-- Takes up a stage of the loop, and waits in a phase of it. -/
def begin (stage : Stage) (phase : Phase) (s : Supervisor) : Turn :=
  (s.emit (.began stage)).andThen (enter phase)

def accept (e : Envelope) (s : Supervisor) : Command × Supervisor :=
  (⟨s.accepted + 1, e⟩, { s with accepted := s.accepted + 1 })

def enqueue (now : Instant) (command : Command) (s : Supervisor) : Turn :=
  let (evicted, queue) := s.queue.push now command
  ({ s with queue },
    match evicted with
    | some old => [.evicted old .overflow]
    | none => [])

def keep (now : Instant) (e : Envelope) (s : Supervisor) : Turn :=
  let (command, s) := s.accept e
  s.enqueue now command

/-- Waits for the next attempt, or gives up if there were too many. -/
def beginRetrying (c : Config) (now : Instant) (draw : Nat) (s : Supervisor) : Turn :=
  (s.emit (.began .retrying)).andThen fun s =>
    if c.maxAttempts.allows s.attempts then
      let delay := c.backoff.next (s.attempts - 1) draw
      (s.emit (.publish (.backoffScheduled s.attempts delay))).andThen
        (enter (.retrying (now + delay.nanos)))
    else
      ((s.moveTo .terminal).andThen (emit (.publish (.policyExhausted s.attempts)))).andThen
        (begin .terminal .terminal)

/-- What follows once the session, if there was one, is gone. -/
def endClosing (c : Config) (now : Instant) (draw : Nat) (after : AfterClose) (s : Supervisor) :
    Turn :=
  match after with
  | .idle => (s.moveTo .idle).andThen (begin .idle .idle)
  | .retry => (s.moveTo .retrying).andThen (beginRetrying c now draw)
  | .terminal => (s.moveTo .terminal).andThen (begin .exit .exited)

def closeUnconnected (c : Config) (now : Instant) (draw : Nat) (after : AfterClose)
    (s : Supervisor) : Turn :=
  ((s.moveTo .closing).andThen (emit (.began .closing))).andThen (endClosing c now draw after)

def closeSession (c : Config) (now : Instant) (session : Nat) (after : AfterClose)
    (s : Supervisor) : Turn :=
  ((s.moveTo .closing).andThen (begin .closing
    (.closing session (c.closeTimeout?.map fun limit => now + limit.nanos) after))).andThen
    (emit (.close session))

def failAttempt (c : Config) (now : Instant) (draw : Nat) (e : TransportError) (s : Supervisor) :
    Turn :=
  let attempts := min (s.attempts + 1) failureLimit
  ((({ s with attempts } : Supervisor).emit
    (.publish (.attemptFailed attempts (.transport e)))).andThen
    (moveTo .retrying)).andThen (beginRetrying c now draw)

def lose (c : Config) (now : Instant) (draw : Nat) (session : Nat) (e : TransportError)
    (s : Supervisor) : Turn :=
  (((s.emit (.publish (.connectionLost (.transport e)))).andThen
    (moveTo .retrying)).andThen (emit (.drop session))).andThen (beginRetrying c now draw)

/-- A time that the clock cannot show is the end of the supervisor, whose session goes with it. -/
def crash (session : Nat) (s : Supervisor) : Turn := (s.emit (.drop session)).andThen (enter .crashed)

def serve (c : Config) (now : Instant) (session : Nat) (s : Supervisor) : Turn :=
  (s.emit (.began .opened)).andThen
    (match c.heartbeat? with
    | none => enter (.serving session none)
    | some every =>
      match Ticker.after? now every with
      | some ticker => enter (.serving session (some ticker))
      | none => crash session)

/-- Writes the next command that waits; without one, the session is ready. -/
def flush (c : Config) (now : Instant) (session sent : Nat) (s : Supervisor) : Turn :=
  match s.queue.pop? with
  | some (item, queue) =>
    ({ s with queue } : Supervisor).write c session (some item.command)
      (.flushing session item sent)
  | none =>
    (((if sent = 0 then s.stay
      else s.emit (.publish (.queueFlushed sent))).andThen
      (emit (.publish (.ofKind .connected)))).andThen (serve c now session))

def expire (now : Instant) (s : Supervisor) : Turn :=
  let (expired, queue) := s.queue.takeExpired now
  ({ s with queue }, expired.map (.evicted · .expired))

def openSession (c : Config) (now : Instant) (s : Supervisor) : Turn :=
  let session := s.sessions
  ((({ s with attempts := 0, sessions := session + 1 } : Supervisor).moveTo .opened).andThen
    (expire now)).andThen (flush c now session 0)

def receive (c : Config) (now : Instant) (session : Nat) (f : Frame) (s : Supervisor) : Turn :=
  match c.codec.decode f with
  | .ok e => s.emit (.dispatch e)
  | .error e =>
    let t := s.emit (.publish (.decodeFailed (.decode e)))
    if e.isFatal then t.andThen (closeSession c now session .retry) else t

/-- A request, where no attempt or session is under way. -/
def takeParked (now : Instant) (request : Option Control) (s : Supervisor) : Turn :=
  match request with
  | some .start =>
    (({ s with attempts := 0 } : Supervisor).moveTo .connecting).andThen
      (begin .connecting .connecting)
  | some .stop => s.stay
  | some (.send e) => s.keep now e
  | none => s.begin .exit .exited

/-- A request, where an attempt is under way or due. -/
def takeUnconnected (c : Config) (now : Instant) (draw : Nat) (request : Option Control)
    (s : Supervisor) : Turn :=
  match request with
  | some .start => s.stay
  | some .stop => s.closeUnconnected c now draw .idle
  | some (.send e) => s.keep now e
  | none => s.closeUnconnected c now draw .terminal

/-- A request, where a session is live. -/
def takeServing (c : Config) (now : Instant) (session : Nat) (ticker : Option Ticker)
    (request : Option Control) (s : Supervisor) : Turn :=
  match request with
  | some .start => s.stay
  | some .stop => s.closeSession c now session .idle
  | some (.send e) =>
    let (command, s) := s.accept e
    s.write c session (some command) (.sending session ticker command)
  | none => s.closeSession c now session .terminal

def isPast (now : Instant) : Option Instant → Bool
  | some deadline => deadline ≤ now
  | none => false

/-- One turn of the supervisor at the given time. The random number serves the wait before another
attempt, if the turn leads to one. -/
def step (c : Config) (now : Instant) (draw : Nat) (s : Supervisor) (stimulus : Stimulus) :
    Option Turn :=
  match s.phase, stimulus with
  | .idle, .mail request => some (s.takeParked now request)
  | .terminal, .mail request => some (s.takeParked now request)
  | .connecting, .mail request => some (s.takeUnconnected c now draw request)
  | .connecting, .attemptBegun =>
    some ((s.emit .connect).andThen
      (enter (.attempting (c.connectTimeout?.map fun limit => now + limit.nanos))))
  | .attempting _, .mail request => some (s.takeUnconnected c now draw request)
  | .attempting _, .connected => some (s.openSession c now)
  | .attempting _, .connectFailed e => some (s.failAttempt c now draw e)
  | .attempting deadline, .connectTimedOut =>
    if isPast now deadline then some (s.failAttempt c now draw (.timeout c.connectTimeout))
    else none
  | .flushing session item sent, .written =>
    some ((s.noteWritten c session (some item.command)).andThen (flush c now session (sent + 1)))
  | .flushing session item _, .writeFailed e =>
    some (({ s with queue := s.queue.pushFront item } : Supervisor).lose c now draw session e)
  | .serving session ticker, .mail request => some (s.takeServing c now session ticker request)
  | .serving session _, .received f => some (s.receive c now session f)
  | .serving session _, .receiveFailed e => some (s.lose c now draw session e)
  | .serving session (some ticker), .heartbeatDue =>
    if ticker.isDue now then
      match ticker.tick? now with
      | some ticker => some (s.write c session none (.pinging session (some ticker)))
      | none => some (s.crash session)
    else none
  | .sending session ticker command, .written =>
    some ((s.noteWritten c session (some command)).andThen (enter (.serving session ticker)))
  | .sending session _ command, .writeFailed e =>
    some ((s.enqueue now command).andThen (lose c now draw session e))
  | .pinging session ticker, .written =>
    some ((s.noteWritten c session none).andThen (enter (.serving session ticker)))
  | .pinging session _, .writeFailed e => some (s.lose c now draw session e)
  | .retrying _, .mail request => some (s.takeUnconnected c now draw request)
  | .retrying wakeAt, .timerElapsed =>
    if wakeAt ≤ now then some ((s.moveTo .connecting).andThen (begin .connecting .connecting))
    else none
  | .closing session _ after, .closeFinished =>
    some ((s.emit (.drop session)).andThen (endClosing c now draw after))
  | .closing session giveUpAt after, .closeGivenUp =>
    if giveUpAt.isNone || isPast now giveUpAt then
      some ((s.emit (.drop session)).andThen (endClosing c now draw after))
    else none
  | _, _ => none

end Supervisor

end SteadyLink
