import SteadyLink.Client.Journal
import SteadyLink.Connection.Control
import SteadyLink.Event.Bus
import SteadyLink.Message.Codec
import SteadyLink.Message.Reserved
import SteadyLink.Routing.Registry

/-!
# The hub of a client

What the client handles, the supervisor and the callbacks share: registrations, the event bus, the
mailbox, the visible state and the readings of the feeds. Calls take effect here at once.
-/

namespace SteadyLink

/-- What the parts of a client share, at one instant. -/
structure Hub where
  now : Instant
  codec : Codec
  registry : Registry Callback
  bus : Bus
  /-- Requests that the supervisor has not taken yet, oldest first. -/
  mailbox : List Control
  /-- Somebody still takes requests from the mailbox. -/
  accepting : Bool
  /-- The state that is shown to everybody. -/
  state : ConnectionState
  /-- How often the state was shown anew. -/
  stateChanges : Nat
  handles : Nat
  feeds : List MetricsFeed
  journal : Journal

namespace Hub

def fresh (codec : Codec) (busCapacity : Nat) : Hub where
  now := 0
  codec := codec
  registry := .empty
  bus := .ofCapacity busCapacity
  mailbox := []
  accepting := true
  state := .idle
  stateChanges := 0
  handles := 1
  feeds := []
  journal := []

def note (hub : Hub) (h : Happening) : Hub := { hub with journal := (hub.now, h) :: hub.journal }

/-- All that was noted, the earliest first, and a hub that starts a new journal. -/
def takeJournal (hub : Hub) : Journal × Hub :=
  (hub.journal.reverse, { hub with journal := [] })

def publish (hub : Hub) (e : Event) : Hub :=
  { hub with bus := hub.bus.publish e }.note (.published (hub.bus.stamp e))

def post (hub : Hub) (c : Control) : Hub × Reply :=
  if hub.accepting then ({ hub with mailbox := hub.mailbox ++ [c] }, .done)
  else (hub, .failed .closed)

/-- Sends a message, unless it could not be made. -/
def postEnvelope (hub : Hub) : Except ClientError Envelope → Hub × Reply
  | .ok e => hub.post (.send e)
  | .error e => (hub, .failed e)

def subscribe (hub : Hub) (kind : String) (callback : Callback) : Except ClientError (Nat × Hub) :=
  if Text.isBlank kind then .error .emptyType
  else
    let (id, registry) := hub.registry.insert kind callback
    .ok (id, { hub with registry })

def unsubscribe (hub : Hub) (id : Nat) : Bool × Hub :=
  let (wasLive, registry) := hub.registry.remove id
  (wasLive, { hub with registry })

def call (hub : Hub) (c : Call) : Hub × Reply :=
  if hub.handles = 0 then (hub, .noClient)
  else
    match c with
    | .start => hub.post .start
    | .stop => hub.post .stop
    | .send kind payload => hub.postEnvelope (Envelope.ofKind kind payload)
    | .sendEnvelope kind payload layout =>
      hub.postEnvelope ((Envelope.ofKind kind payload).map fun e => { e with layout })
    | .chat text => hub.postEnvelope (Envelope.chat text)
    | .ping => hub.post (.send Envelope.ping)
    | .requestMetrics category => hub.post (.send (Envelope.requestMetrics category))
    | .subscribe kind tag body =>
      match hub.subscribe kind (.body tag body) with
      | .ok (id, hub) => (hub, .subscribed id)
      | .error e => (hub, .failed e)
    | .unsubscribe id =>
      let (wasLive, hub) := hub.unsubscribe id
      (hub, .unsubscribed wasLive)
    | .count kind => (hub, .counted (hub.registry.count kind))
    | .state => (hub, .state hub.state)

def attachFeed (hub : Hub) (category : MetricsCategory) (refresh : Duration) : Nat × Hub :=
  let number := hub.feeds.length
  let (initial, registry) := hub.registry.insert initialMetricsKind (.feed number .initial)
  let (update, registry) := registry.insert metricsUpdateKind (.feed number .update)
  (number,
    { hub with
      registry
      feeds := hub.feeds ++ [MetricsFeed.starting category refresh (initial, update)] })

/-- Gives a feed up: its registrations go at once, its task ends when it runs next. -/
def dropFeed (hub : Hub) (number : Nat) : Hub :=
  match hub.feeds[number]? with
  | none => hub
  | some feed =>
    let hub := { hub with feeds := hub.feeds.set number { feed with attached := false } }
    (((hub.unsubscribe feed.subscriptions.1).2).unsubscribe feed.subscriptions.2).2

/-- All handles: those of callers, of feeds and of their tasks. -/
def allHandles (hub : Hub) : Nat :=
  hub.handles + hub.feeds.foldr (fun feed n => feed.handles + n) 0

end Hub

end SteadyLink
