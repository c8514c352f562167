/-!
# The lifecycle of a connection

The lifecycle of one logical connection, and the transitions it may take.
-/

namespace SteadyLink

/-- Where a connection stands, as it is shown to callers. -/
inductive ConnectionState where
  /-- Not started, or stopped by the caller. -/
  | idle
  | connecting
  | opened
  | closing
  /-- The last session or attempt failed and another attempt is due. -/
  | retrying
  /-- No attempt will follow until the caller asks for one. -/
  | terminal
  deriving DecidableEq, Repr, Inhabited

namespace ConnectionState

/-- There is an edge from the first state to the second. -/
def canTransitionTo : ConnectionState → ConnectionState → Bool
  | idle, connecting => true
  | connecting, opened => true
  | connecting, retrying => true
  | connecting, closing => true
  | opened, closing => true
  | opened, retrying => true
  | retrying, connecting => true
  | retrying, terminal => true
  | retrying, closing => true
  | closing, idle => true
  | closing, retrying => true
  | closing, terminal => true
  | terminal, connecting => true
  | _, _ => false

/-- Asking for a connection changes nothing in these states. -/
def isActive : ConnectionState → Bool
  | connecting | opened | retrying => true
  | _ => false

def isOpen : ConnectionState → Bool
  | opened => true
  | _ => false

def label : ConnectionState → String
  | idle => "idle"
  | connecting => "connecting"
  | opened => "open"
  | closing => "closing"
  | retrying => "closed_retrying"
  | terminal => "closed_terminal"

end ConnectionState

end SteadyLink
