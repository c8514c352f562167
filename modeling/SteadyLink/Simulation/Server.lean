import SteadyLink.Connection.Supervisor.Basic

/-!
# A scripted server

A scripted server: what becomes of each attempt to connect, how its sessions take writes and
shutdown, and what they send. It answers the supervisor's effects with the outcomes that its script
names.
-/

namespace SteadyLink

/-- How a session behaves. -/
structure SessionPlan where
  /-- The writes that succeed before they all fail; none if they all succeed. -/
  okWrites : Option Nat
  writeTime : Duration
  closeTime : Duration
  deriving DecidableEq

/-- What becomes of an attempt to connect. -/
inductive Outcome where
  | accept (plan : SessionPlan)
  | refuse
  | fail (e : TransportError)
  /-- Neither success nor failure ever comes. -/
  | hang
  deriving DecidableEq

/-- An outcome and how long it takes. -/
structure AttemptPlan where
  outcome : Outcome
  after : Duration
  deriving DecidableEq

/-- A session without faults or delays, at once. -/
def AttemptPlan.welcome : AttemptPlan := ⟨.accept ⟨none, .zero, .zero⟩, .zero⟩

/-- A session as the server keeps it. -/
structure ServerSession where
  plan : SessionPlan
  /-- Writes that succeeded. -/
  writes : Nat
  /-- What was sent and not yet read: frames and failures. -/
  outbox : List (Frame ⊕ TransportError)
  /-- The server has left; what was sent before can still be read. -/
  hungUp : Bool
  /-- The client still holds the session. -/
  live : Bool
  deriving DecidableEq

/-- The server, as far as its script has come. -/
structure Server where
  endpoint : String
  script : List AttemptPlan
  fallback : AttemptPlan
  /-- The outcome of the attempt under way, and when it comes. -/
  attempt : Option (Outcome × Instant)
  /-- When the write or the shutdown under way is done. -/
  ready : Instant
  sessions : List ServerSession
  /-- The largest number of sessions that were live at once. -/
  mostLive : Nat
  closesBegun : Nat
  closesFinished : Nat
  deriving DecidableEq

namespace Server

def fresh (endpoint : String) (script : List AttemptPlan) (fallback : AttemptPlan) : Server where
  endpoint := endpoint
  script := script
  fallback := fallback
  attempt := none
  ready := 0
  sessions := []
  mostLive := 0
  closesBegun := 0
  closesFinished := 0

/-- The sessions that the client holds. -/
def live (v : Server) : Nat := (v.sessions.filter ServerSession.live).length

def plan? (v : Server) (session : Nat) : Option SessionPlan := v.sessions[session]?.map (·.plan)

/-- Begins an attempt with the next outcome of the script, or with the fallback. -/
def beginAttempt (v : Server) (now : Instant) : Server :=
  match v.script with
  | next :: rest =>
    { v with script := rest, attempt := some (next.outcome, now + next.after.nanos) }
  | [] => { v with attempt := some (v.fallback.outcome, now + v.fallback.after.nanos) }

/-- Opens a session. -/
def openSession (v : Server) (plan : SessionPlan) : Server :=
  let session : ServerSession := ⟨plan, 0, [], false, true⟩
  { v with
    sessions := v.sessions ++ [session]
    mostLive := max v.mostLive (v.live + 1)
    attempt := none }

/-- The server's part in an effect of the supervisor. -/
def react (now : Instant) (v : Server) : Effect → Server
  | .connect => v.beginAttempt now
  | .write session _ _ =>
    match v.plan? session with
    | some plan => { v with ready := now + plan.writeTime.nanos }
    | none => v
  | .wrote session _ _ =>
    { v with sessions := v.sessions.modify session fun s => { s with writes := s.writes + 1 } }
  | .close session =>
    match v.plan? session with
    | some plan =>
      { v with ready := now + plan.closeTime.nanos, closesBegun := v.closesBegun + 1 }
    | none => v
  | .drop session =>
    { v with sessions := v.sessions.modify session fun s => { s with live := false } }
  | _ => v

/-- The server's part in a stimulus that the supervisor is about to take. -/
def anticipate (v : Server) (phase : Phase) (stimulus : Stimulus) : Server :=
  match stimulus, phase with
  | .connected, _ =>
    match v.attempt with
    | some (.accept plan, _) =>
      v.openSession plan
    | _ => v
  | .received _, .serving session _ =>
    { v with sessions := v.sessions.modify session fun s => { s with outbox := s.outbox.tail } }
  | .receiveFailed _, .serving session _ =>
    { v with sessions := v.sessions.modify session fun s => { s with outbox := s.outbox.tail } }
  | .closeFinished, _ => { v with closesFinished := v.closesFinished + 1 }
  | _, _ => v

/-- How the attempt under way has come out by now. -/
def attemptOutcome? (v : Server) (now : Instant) : Option Stimulus :=
  match v.attempt with
  | some (outcome, ready) =>
    if now < ready then none
    else
      match outcome with
      | .accept _ => some .connected
      | .refuse => some (.connectFailed (.connect v.endpoint "connection refused"))
      | .fail e => some (.connectFailed e)
      | .hang => none
  | none => none

/-- How the write under way has come out by now. -/
def writeOutcome? (v : Server) (now : Instant) (session : Nat) : Option Stimulus :=
  if now < v.ready then none
  else
    match v.sessions[session]? with
    | some s =>
      match s.plan.okWrites with
      | some n => if s.writes < n then some .written else some (.writeFailed (.io "write failed"))
      | none => some .written
    | none => none

/-- What can be read on a session now. -/
def incoming? (v : Server) (session : Nat) : Option Stimulus :=
  match v.sessions[session]? with
  | some s =>
    match s.outbox with
    | .inl frame :: _ => some (.received frame)
    | .inr e :: _ => some (.receiveFailed e)
    | [] => if s.hungUp then some (.receiveFailed (.closed none "server end dropped")) else none
  | none => none

/-- When the attempt, the write or the shutdown under way comes out. -/
def deadline? (v : Server) (phase : Phase) : Option Instant :=
  match phase with
  | .attempting _ =>
    match v.attempt with
    | some (.hang, _) => none
    | some (_, ready) => some ready
    | none => none
  | .flushing .. => some v.ready
  | .sending .. => some v.ready
  | .pinging .. => some v.ready
  | .closing .. => some v.ready
  | _ => none

/-- Sends on the newest session; tells whether somebody is there to read. -/
def send (v : Server) (item : Frame ⊕ TransportError) : Bool × Server :=
  let last := v.sessions.length - 1
  match v.sessions[last]? with
  | some s =>
    if s.live && !s.hungUp then
      (true, { v with sessions := v.sessions.set last { s with outbox := s.outbox ++ [item] } })
    else (false, v)
  | none => (false, v)

/-- Leaves the newest session; tells whether the server was there. -/
def hangUp (v : Server) : Bool × Server :=
  let last := v.sessions.length - 1
  match v.sessions[last]? with
  | some s =>
    if s.hungUp then (false, v)
    else (true, { v with sessions := v.sessions.set last { s with hungUp := true } })
  | none => (false, v)

end Server

end SteadyLink
