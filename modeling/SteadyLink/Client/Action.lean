import SteadyLink.Event.Basic
import SteadyLink.Message.Envelope
import SteadyLink.Metrics.Feed

/-!
# Calls and callbacks

What callers and callbacks do, and the replies they get.
-/

namespace SteadyLink

mutual

inductive Call where
  | start
  | stop
  | send (kind : String) (payload : Json)
  | sendEnvelope (kind : String) (payload : Json) (layout : Option Layout)
  | chat (text : String)
  | ping
  | requestMetrics (category : MetricsCategory)
  | subscribe (kind tag : String) (body : List Action)
  | unsubscribe (id : Nat)
  | count (kind : String)
  | state

/-- A step in the body of a callback. -/
inductive Action where
  | call (c : Call)
  /-- Hands a message to the callbacks for its kind, from inside a callback. -/
  | dispatch (kind : String) (payload : Json)
  | panic (p : Panic)

end

/-- What a call, or a step in the body of a callback, gives back. -/
inductive Reply where
  | done
  | failed (e : ClientError)
  | subscribed (id : Nat)
  | unsubscribed (wasLive : Bool)
  | counted (n : Nat)
  | dispatched (callbacks : Nat)
  | state (s : ConnectionState)
  | noClient
  deriving DecidableEq

inductive Callback where
  /-- Notes its call under a tag, then runs its body. -/
  | body (tag : String) (actions : List Action)
  /-- Brings a feed up to date. -/
  | feed (number : Nat) (role : SnapshotRole)

end SteadyLink
