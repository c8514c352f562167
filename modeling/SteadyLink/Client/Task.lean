import SteadyLink.Client.Basic

/-!
# The tasks of a client

The tasks beside the supervisor. Each takes one small step at a time, and any order of steps is a
run of the client.
-/

namespace SteadyLink

inductive Task where
  | hook (number : Nat)
  | feed (number : Nat)
  | listener
  | worker (number : Nat)
  deriving DecidableEq

namespace Client

/-! Hooks -/

def setHook (s : Client) (number : Nat) (h : Hook) : Client :=
  { s with hooks := s.hooks.set number h }

def endHook (s : Client) (number : Nat) (h : Hook) : Client :=
  let s := s.setHook number { h with running := false }
  match h.source with
  | .transitions _ => s
  | .faults receiver => s.onHub fun hub => { hub with bus := hub.bus.dropReceiver receiver }

/-- There is something to read for a hook. -/
def hasNews (s : Client) (h : Hook) : Bool :=
  match h.source with
  | .transitions queue => !queue.isEmpty
  | .faults receiver => (s.hub.bus.receive receiver).1 ≠ .empty

/-- Takes what there is to read for a hook; the callback panics or not, which changes nothing. -/
def readHook (s : Client) (number : Nat) (h : Hook) : Client :=
  match h.source with
  | .transitions ((source, target) :: rest) =>
    (s.setHook number { h with source := .transitions rest }).onHub
      (·.note (.stateHookCalled number source target))
  | .transitions [] => s.setHook number { h with pass := .checking }
  | .faults receiver =>
    let (reception, bus) := s.hub.bus.receive receiver
    match reception with
    | .event e =>
      let s := s.onHub fun hub => { hub with bus }
      match e.fault with
      | some fault => s.onHub (·.note (.errorHookCalled number fault))
      | none => s
    | .lagged _ => s.onHub fun hub => { hub with bus }
    | .empty => s.setHook number { h with pass := .checking }
    | .closed => s.endHook number h

def stepHook (s : Client) (number : Nat) (h : Hook) : Option Client :=
  match h.pass with
  | .reading => some (s.readHook number h)
  | .checking =>
    if h.removed || s.shutdown then some (s.endHook number h)
    else some (s.setHook number { h with pass := .waiting })
  | .waiting =>
    if h.removed || s.shutdown || s.hasNews h then
      some (s.setHook number { h with pass := .reading })
    else none

/-! Listener and workers -/

def emit (s : Client) (e : Event) : Client :=
  let (reports, observers) := s.observers.emit e
  reports.foldl publish { s with observers }

/-- Takes what there is to read for the listener. -/
def readListener (s : Client) (receiver : Nat) : Client :=
  let (reception, bus) := s.hub.bus.receive receiver
  match reception with
  | .event e => (s.onHub fun hub => { hub with bus }).emit e
  | .lagged _ => s.onHub fun hub => { hub with bus }
  | .empty => { s with listening := .checking }
  | .closed => { s with listener := none }

def stepListener (s : Client) : Option Client :=
  match s.listener with
  | none => none
  | some receiver =>
    match s.listening with
    | .reading => some (s.readListener receiver)
    | .checking =>
      if s.shutdown then some { s with listener := none }
      else some { s with listening := .waiting }
    | .waiting =>
      if s.shutdown || (s.hub.bus.receive receiver).1 ≠ .empty then
        some { s with listening := .reading }
      else none

def setWorker (s : Client) (number : Nat) (w : Worker) : Client :=
  { s with observers := s.observers.set number w }

def stepWorker (s : Client) (number : Nat) (w : Worker) : Option Client :=
  match w.finish? s.hub.now with
  | some (e, w) =>
    let s := s.setWorker number w
    let s := if w.observer.isVisible then s.onHub (·.note (.observed number e.kind)) else s
    match w.report? e with
    | some report => some (s.publish report)
    | none => some s
  | none => (w.begin? s.hub.now).map (s.setWorker number)

/-! Feeds -/

/-- The request of a feed for a snapshot; a client that is gone is no matter. -/
def requestIfOpen (s : Client) (f : MetricsFeed) : Client :=
  if s.hub.state.isOpen then
    s.onHub fun hub => (hub.post (.send (Envelope.requestMetrics f.category))).1
  else s

def setFeedTask (s : Client) (number : Nat) (task : FeedTask) : Client :=
  s.onHub fun hub => { hub with feeds := hub.feeds.modify number ({ · with task := task }) }

/-- The state of a task that has just asked for a first snapshot. -/
def startedTask (s : Client) (f : MetricsFeed) : FeedTask :=
  match f.refresh.nonZero with
  | none => .waiting s.hub.stateChanges none
  | some every =>
    match Ticker.after? s.hub.now every with
    | some ticker => .waiting s.hub.stateChanges (some ticker)
    | none => .ended

def stepFeed (s : Client) (number : Nat) (f : MetricsFeed) : Option Client :=
  match f.task with
  | .starting => some ((s.requestIfOpen f).setFeedTask number (s.startedTask f))
  | .waiting seen ticker =>
    if !f.attached then some (s.setFeedTask number .ended)
    else if seen ≠ s.hub.stateChanges then
      some ((s.requestIfOpen f).setFeedTask number (.waiting s.hub.stateChanges ticker))
    else if s.supervisor.isGone then some (s.setFeedTask number .ended)
    else
      match ticker with
      | some ticker =>
        if ticker.isDue s.hub.now then
          match ticker.tick? s.hub.now with
          | some ticker => some ((s.requestIfOpen f).setFeedTask number (.waiting seen (some ticker)))
          | none => some (s.setFeedTask number .ended)
        else none
      | none => none
  | .ended => none

/-- One small step of a task; none while it waits. -/
def stepTask (s : Client) : Task → Option Client
  | .hook number =>
    match s.hooks[number]? with
    | some h => if h.running then s.stepHook number h else none
    | none => none
  | .feed number =>
    match s.hub.feeds[number]? with
    | some f => s.stepFeed number f
    | none => none
  | .listener => s.stepListener
  | .worker number =>
    match s.observers[number]? with
    | some w => s.stepWorker number w
    | none => none

def tasks (s : Client) : List Task :=
  (List.range s.hooks.length).map .hook ++ (List.range s.hub.feeds.length).map .feed ++ [.listener]
    ++ (List.range s.observers.length).map .worker

end Client

end SteadyLink
