import SteadyLink.Client.Action

/-!
# The journal of a client

The journal of a client: everything that could be noted from outside, with its time.
-/

namespace SteadyLink

/-- Something that happened, as an observer from outside could note it. -/
inductive Happening where
  | published (e : Event)
  | called (tag kind : String) (payload : Json)
  | performed (a : Action) (r : Reply)
  | stateHookCalled (hook : Nat) (source target : ConnectionState)
  | errorHookCalled (hook : Nat) (fault : Fault)
  | observed (observer : Nat) (kind : EventKind)
  | attempted
  | wrote (session : Nat) (text : String)

/-- What happened and when, the latest first. -/
abbrev Journal := List (Instant × Happening)

namespace Journal

def events (j : Journal) : List (Instant × Event) :=
  j.filterMap fun entry =>
    match entry.2 with
    | .published e => some (entry.1, e)
    | _ => none

def attempts (j : Journal) : List Instant :=
  j.filterMap fun entry =>
    match entry.2 with
    | .attempted => some entry.1
    | _ => none

def writes (j : Journal) : List (Instant × Nat × String) :=
  j.filterMap fun entry =>
    match entry.2 with
    | .wrote session text => some (entry.1, session, text)
    | _ => none

def transitions (j : Journal) (hook : Nat) : List (ConnectionState × ConnectionState) :=
  j.filterMap fun entry =>
    match entry.2 with
    | .stateHookCalled n source target => if n = hook then some (source, target) else none
    | _ => none

def faults (j : Journal) (hook : Nat) : List Fault :=
  j.filterMap fun entry =>
    match entry.2 with
    | .errorHookCalled n fault => if n = hook then some fault else none
    | _ => none

def observations (j : Journal) (observer : Nat) : List EventKind :=
  j.filterMap fun entry =>
    match entry.2 with
    | .observed n kind => if n = observer then some kind else none
    | _ => none

end Journal

end SteadyLink
