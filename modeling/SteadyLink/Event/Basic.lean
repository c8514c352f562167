import SteadyLink.Fault
import SteadyLink.Connection.State

/-!
# Lifecycle events

Lifecycle events: a kind, a sequence number given by the bus, and the details that the kind calls
for.
-/

namespace SteadyLink

/-- What an event tells of. -/
inductive EventKind where
  | stateChanged
  | connected
  | attemptFailed
  | connectionLost
  | backoffScheduled
  | policyExhausted
  | queueFlushed
  | commandEvicted
  | decodeFailed
  | subscriberPanicked
  | observerPanicked
  | observerOverflow
  deriving DecidableEq, Repr

namespace EventKind

def all : List EventKind :=
  [stateChanged, connected, attemptFailed, connectionLost, backoffScheduled, policyExhausted,
   queueFlushed, commandEvicted, decodeFailed, subscriberPanicked, observerPanicked,
   observerOverflow]

def name : EventKind → String
  | stateChanged => "StateChanged"
  | connected => "Connected"
  | attemptFailed => "AttemptFailed"
  | connectionLost => "ConnectionLost"
  | backoffScheduled => "BackoffScheduled"
  | policyExhausted => "PolicyExhausted"
  | queueFlushed => "QueueFlushed"
  | commandEvicted => "CommandEvicted"
  | decodeFailed => "DecodeFailed"
  | subscriberPanicked => "SubscriberPanicked"
  | observerPanicked => "ObserverPanicked"
  | observerOverflow => "ObserverOverflow"

end EventKind

/-- The largest count, attempt number or delay that an event can carry. -/
def eventNumberLimit : Nat := 4294967295

/-- Something that a client tells about itself. Fields that do not apply are not set. -/
structure Event where
  kind : EventKind
  /-- Position on the bus, counted from one; zero before publication. -/
  seq : Nat
  source : Option ConnectionState
  target : Option ConnectionState
  attempt : Option Nat
  delayMillis : Option Nat
  count : Option Nat
  topic : Option String
  reason : Option String
  fault : Option Fault
  deriving DecidableEq

namespace Event

def ofKind (kind : EventKind) : Event :=
  { kind, seq := 0, source := none, target := none, attempt := none, delayMillis := none,
    count := none, topic := none, reason := none, fault := none }

instance : Inhabited Event := ⟨ofKind .connected⟩

def stateChanged (source target : ConnectionState) : Event :=
  { ofKind .stateChanged with source := some source, target := some target }

def withAttempt (e : Event) (n : Nat) : Event := { e with attempt := some n }

/-- Delays are kept in whole milliseconds, up to the largest number an event can carry. -/
def withDelay (e : Event) (d : Duration) : Event :=
  { e with delayMillis := some (min d.millis eventNumberLimit) }

def withCount (e : Event) (n : Nat) : Event :=
  { e with count := some (min n eventNumberLimit) }

def withTopic (e : Event) (topic : String) : Event := { e with topic := some topic }

def withReason (e : Event) (reason : String) : Event := { e with reason := some reason }

/-- A fault brings its message along as the reason. -/
def withFault (e : Event) (fault : Fault) : Event :=
  { e with reason := some fault.message, fault := some fault }

/-- An attempt has failed; it was the `attempts`-th in a row. -/
def attemptFailed (attempts : Nat) (fault : Fault) : Event :=
  ((ofKind .attemptFailed).withAttempt attempts).withFault fault

def connectionLost (fault : Fault) : Event := (ofKind .connectionLost).withFault fault

def backoffScheduled (attempts : Nat) (delay : Duration) : Event :=
  ((ofKind .backoffScheduled).withAttempt attempts).withDelay delay

def policyExhausted (attempts : Nat) : Event :=
  ((ofKind .policyExhausted).withAttempt attempts).withFault (.exhausted attempts)

def queueFlushed (commands : Nat) : Event := (ofKind .queueFlushed).withCount commands

def commandEvicted (topic reason : String) : Event :=
  ((ofKind .commandEvicted).withTopic topic).withReason reason

def decodeFailed (fault : Fault) : Event := (ofKind .decodeFailed).withFault fault

def observerOverflow (name reason : String) : Event :=
  ((ofKind .observerOverflow).withTopic name).withReason reason

def observerPanicked (name info : String) : Event :=
  ((ofKind .observerPanicked).withTopic name).withFault (.observer name info)

def subscriberPanicked (topic info : String) : Event :=
  ((ofKind .subscriberPanicked).withTopic topic).withFault (.subscriber topic info)

@[simp] theorem kind_stateChanged (source target : ConnectionState) :
    (stateChanged source target).kind = .stateChanged := rfl

@[simp] theorem kind_attemptFailed (attempts : Nat) (fault : Fault) :
    (attemptFailed attempts fault).kind = .attemptFailed := rfl

@[simp] theorem kind_connectionLost (fault : Fault) :
    (connectionLost fault).kind = .connectionLost := rfl

@[simp] theorem kind_backoffScheduled (attempts : Nat) (delay : Duration) :
    (backoffScheduled attempts delay).kind = .backoffScheduled := rfl

@[simp] theorem kind_policyExhausted (attempts : Nat) :
    (policyExhausted attempts).kind = .policyExhausted := rfl

@[simp] theorem kind_queueFlushed (commands : Nat) :
    (queueFlushed commands).kind = .queueFlushed := rfl

@[simp] theorem kind_commandEvicted (topic reason : String) :
    (commandEvicted topic reason).kind = .commandEvicted := rfl

@[simp] theorem kind_decodeFailed (fault : Fault) : (decodeFailed fault).kind = .decodeFailed := rfl

@[simp] theorem kind_ofKind (kind : EventKind) : (ofKind kind).kind = kind := rfl

def delay (e : Event) : Option Duration := e.delayMillis.map Duration.ofMillis

def isObserverOverflow (e : Event) : Bool := e.kind = .observerOverflow

def isFault (e : Event) : Bool := e.fault.isSome

end Event

end SteadyLink
