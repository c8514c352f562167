import SteadyLink.Event.Basic

/-!
# The log

One line of log per lifecycle event.
-/

namespace SteadyLink

/-- How urgent a line of the log is. -/
inductive LogLevel where
  | debug
  | info
  | warn
  | error
  deriving DecidableEq, Repr

def LogLevel.name : LogLevel → String
  | debug => "DEBUG"
  | info => "INFO"
  | warn => "WARN"
  | error => "ERROR"

/-- A line of the log. -/
structure LogLine where
  level : LogLevel
  message : String
  fields : List (String × String)
  deriving DecidableEq

/-- The line for an event. A state change that does not say both states is not logged. -/
def Event.logLine (e : Event) : Option LogLine :=
  let seq := ("seq", toString e.seq)
  let reason := e.reason.getD ""
  let topic := e.topic.getD ""
  let line (level : LogLevel) (message : String) (fields : List (String × String)) :=
    some (LogLine.mk level message (seq :: fields))
  match e.kind with
  | .stateChanged =>
    match e.source, e.target with
    | some source, some target =>
      line .info "state" [("from", source.label), ("to", target.label)]
    | _, _ => none
  | .connected => line .info "connected" []
  | .attemptFailed =>
    line .warn "attempt failed" [("attempt", optionText e.attempt), ("err", reason)]
  | .connectionLost => line .warn "connection lost" [("err", reason)]
  | .backoffScheduled =>
    line .info "backoff scheduled"
      [("attempt", optionText e.attempt), ("delay_ms", optionText e.delayMillis)]
  | .policyExhausted =>
    line .error "reconnect policy exhausted" [("attempt", optionText e.attempt)]
  | .queueFlushed => line .debug "queue flushed" [("count", optionText e.count)]
  | .commandEvicted => line .warn "command evicted" [("kind", topic), ("reason", reason)]
  | .decodeFailed => line .warn "decode failed" [("err", reason)]
  | .subscriberPanicked => line .error "subscriber panicked" [("kind", topic), ("err", reason)]
  | .observerPanicked => line .error "observer panicked" [("observer", topic), ("err", reason)]
  | .observerOverflow =>
    line .warn "observer dropped event" [("observer", topic), ("reason", reason)]

end SteadyLink
