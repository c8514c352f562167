import SteadyLink.Simulation.Scheduler

/-!
# Scenarios

Scenarios: what the owners of a client and its server do one after another, and what they find.
After each step everybody runs until nothing is left to do at that instant.
-/

namespace SteadyLink

/-- One step of a scenario. Hooks, feeds and event streams are numbered in the order of creation. -/
inductive ScenarioStep where
  | call (c : Call)
  /-- Several calls, between which nobody else runs. -/
  | batch (calls : List Call)
  | advance (millis : Nat)
  /-- The server sends frames and failures on its newest session. -/
  | send (items : List (Frame ⊕ TransportError))
  /-- The server leaves its newest session. -/
  | hangUp
  | onState (panic : Option Panic)
  | onError (panic : Option Panic)
  | removeHook (hook : Nat)
  | isHookRemoved (hook : Nat)
  | attachFeed (category : MetricsCategory) (refresh : Duration)
  | seed (feed : Nat) (snapshot : MetricsSnapshot)
  | latest (feed : Nat)
  | requestNow (feed : Nat)
  | dropFeed (feed : Nat)
  /-- Opens a raw stream of events. -/
  | watch
  /-- Reads all that a raw stream holds. -/
  | drain (stream : Nat)
  | cloneHandle
  | dropHandle
  | endpoint

/-- What a step gives back. -/
inductive Finding where
  | nothing
  | flag (b : Bool)
  | number (n : Nat)
  | text (s : String)
  | reply (r : Reply)
  | replies (rs : List Reply)
  | reading (isNew : Bool) (r : Option MetricsReading)
  | receptions (rs : List Reception)

/-- A simulation, and the numbers that its steps have given out. -/
structure Scenario where
  simulation : Simulation
  /-- Hooks whose owner has asked for their end. -/
  removedHooks : List Nat
  /-- The receivers of the raw streams. -/
  streams : List Nat

namespace Scenario

def fresh (client : Client) (server : Server) : Scenario := ⟨.ofClient client server, [], []⟩

def client (s : Scenario) : Client := s.simulation.client

def hub (s : Scenario) : Hub := s.client.hub

def server (s : Scenario) : Server := s.simulation.server

def setClient (s : Scenario) (client : Client) : Scenario :=
  { s with simulation := { s.simulation with client } }

def setHub (s : Scenario) (hub : Hub) : Scenario := s.setClient { s.client with hub }

def setServer (s : Scenario) (server : Server) : Scenario :=
  { s with simulation := { s.simulation with server } }

/-- A call on a handle. -/
def call (s : Scenario) (c : Call) : Reply × Scenario :=
  let (hub, reply) := s.hub.call c
  (reply, s.setHub hub)

/-- Calls one after another. -/
def callAll : List Call → Scenario → List Reply × Scenario
  | [], s => ([], s)
  | c :: rest, s =>
    let (reply, s) := s.call c
    let (replies, s) := callAll rest s
    (reply :: replies, s)

/-- The server sends one item after another; tells whether all of them found a reader. -/
def sendAll : List (Frame ⊕ TransportError) → Server → Bool × Server
  | [], v => (true, v)
  | item :: rest, v =>
    let (delivered, v) := v.send item
    let (others, v) := sendAll rest v
    (delivered && others, v)

/-- A step that needs a client handle. -/
def withHandle (s : Scenario) (f : Scenario → Finding × Scenario) : Finding × Scenario :=
  if s.hub.handles = 0 then (.reply .noClient, s) else f s

/-- A step on a feed that its owner has not given up. -/
def withFeed (s : Scenario) (number : Nat) (f : MetricsFeed → Finding × Scenario) :
    Finding × Scenario :=
  match s.hub.feeds[number]? with
  | some feed => if feed.attached then f feed else (.nothing, s)
  | none => (.nothing, s)

def setFeed (s : Scenario) (number : Nat) (feed : MetricsFeed) : Scenario :=
  s.setHub { s.hub with feeds := s.hub.feeds.set number feed }

/-- Makes one step, before anybody else runs. -/
def act (s : Scenario) : ScenarioStep → Finding × Scenario
  | .call c =>
    let (reply, s) := s.call c
    (.reply reply, s)
  | .batch calls =>
    let (replies, s) := callAll calls s
    (.replies replies, s)
  | .advance millis => (.nothing, { s with simulation := s.simulation.advance millis })
  | .send items =>
    let (delivered, server) := sendAll items s.server
    (.flag delivered, s.setServer server)
  | .hangUp =>
    let (wasThere, server) := s.server.hangUp
    (.flag wasThere, s.setServer server)
  | .onState panic => s.withHandle fun s =>
    let (n, client) := s.client.onState panic
    (.number n, s.setClient client)
  | .onError panic => s.withHandle fun s =>
    let (n, client) := s.client.onError panic
    (.number n, s.setClient client)
  | .removeHook hook =>
    if s.removedHooks.contains hook then (.flag false, s)
    else
      (.flag true,
        { s.setClient (s.client.removeHook hook) with removedHooks := hook :: s.removedHooks })
  | .isHookRemoved hook =>
    if s.removedHooks.contains hook then (.nothing, s)
    else (.flag (s.client.isHookRemoved hook), s)
  | .attachFeed category refresh => s.withHandle fun s =>
    let (n, hub) := s.hub.attachFeed category refresh
    (.number n, s.setHub hub)
  | .seed number snapshot => s.withFeed number fun feed =>
    let (counts, feed) := feed.seed snapshot
    (.flag counts, s.setFeed number feed)
  | .latest number => s.withFeed number fun feed =>
    let ((isNew, reading), feed) := feed.latest
    (.reading isNew reading, s.setFeed number feed)
  | .requestNow number => s.withFeed number fun feed =>
    let (hub, reply) := s.hub.post (.send (Envelope.requestMetrics feed.category))
    (.reply reply, s.setHub hub)
  | .dropFeed number => (.nothing, s.setHub (s.hub.dropFeed number))
  | .watch => s.withHandle fun s =>
    let (receiver, bus) := s.hub.bus.subscribe
    (.number s.streams.length,
      { s.setHub { s.hub with bus } with streams := s.streams ++ [receiver] })
  | .drain stream =>
    match s.streams[stream]? with
    | some receiver =>
      let (receptions, bus) := s.hub.bus.drain receiver
      (.receptions receptions, s.setHub { s.hub with bus })
    | none => (.nothing, s)
  | .cloneHandle =>
    let s := if s.hub.handles = 0 then s else s.setClient s.client.cloneHandle
    (.number s.hub.handles, s)
  | .dropHandle =>
    let s := s.setClient s.client.dropHandle
    (.number s.hub.handles, s)
  | .endpoint => (if s.hub.handles = 0 then .nothing else .text s.server.endpoint, s)

/-- A step and all that follows from it at once: what it gave back, what happened, and the state
afterwards. -/
def run (s : Scenario) (step : ScenarioStep) : (Finding × Journal) × Scenario :=
  let (finding, s) := s.act step
  let s := { s with simulation := s.simulation.settle }
  let (journal, hub) := s.hub.takeJournal
  ((finding, journal), s.setHub hub)

/-- How many sessions the server saw: in all, live, live at once at most, and how many shutdowns
began and were finished. -/
def sessionCounts (s : Scenario) : List Nat :=
  [s.server.sessions.length, s.server.live, s.server.mostLive, s.server.closesBegun,
   s.server.closesFinished]

end Scenario

end SteadyLink
