import SteadyLink.Connection.Endpoint
import SteadyLink.Message.Codec
import SteadyLink.Policy.Backoff
import SteadyLink.Policy.Limit

/-!
# Settings

The settings of one client. A duration of zero turns a feature off.
-/

namespace SteadyLink

/-- How a client connects, waits and writes. A limit of zero means that there is none. -/
structure Config where
  endpoint : String
  backoff : Backoff
  maxAttempts : AttemptLimit
  /-- Commands that wait while there is no session. -/
  queueCapacity : Nat
  /-- How old a waiting command may be when a session opens. -/
  queueTtl : Duration
  connectTimeout : Duration
  closeTimeout : Duration
  heartbeat : Duration
  /-- The longest frame that is read. Zero stands for no limit. -/
  maxFrameLen : Nat
  layout : Layout
  busCapacity : Nat
  deriving DecidableEq

namespace Config

def standard : Config where
  endpoint := "ws://127.0.0.1:8000/ws/chat/"
  backoff := .standard
  maxAttempts := .standard
  queueCapacity := 256
  queueTtl := .zero
  connectTimeout := .ofSecs 10
  closeTimeout := .ofSecs 5
  heartbeat := .zero
  maxFrameLen := 1048576
  layout := .nested
  busCapacity := 1024

def endpoint? (c : Config) : Except ClientError Endpoint :=
  Endpoint.parse c.endpoint

def connectTimeout? (c : Config) : Option Duration := c.connectTimeout.nonZero

def closeTimeout? (c : Config) : Option Duration := c.closeTimeout.nonZero

def heartbeat? (c : Config) : Option Duration := c.heartbeat.nonZero

def queueTtl? (c : Config) : Option Duration := c.queueTtl.nonZero

/-- The length of the queue; at least one command has a place. -/
def queueLimit (c : Config) : Nat := max c.queueCapacity 1

/-- The events that the bus keeps, at least one. -/
def busLimit (c : Config) : Nat := max c.busCapacity 1

def codec (c : Config) : Codec := ⟨c.layout, c.maxFrameLen⟩

end Config

end SteadyLink
