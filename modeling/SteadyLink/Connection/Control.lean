import SteadyLink.Message.Envelope

/-!
# Requests to the supervisor

What a handle may ask of the supervisor.
-/

namespace SteadyLink

/-- A request to the supervisor. -/
inductive Control where
  | start
  | stop
  | send (e : Envelope)
  deriving DecidableEq

end SteadyLink
