import SteadyLink.Text.Quoted
import SteadyLink.Time.Duration

/-!
# Faults

What can go wrong, by cause. Every cause has a message and a short stable label; only the messages
carry wording.
-/

namespace SteadyLink

inductive TransportError where
  | connect (endpoint reason : String)
  | timeout (limit : Duration)
  | closed (code : Option Nat) (reason : String)
  | io (reason : String)
  deriving DecidableEq

inductive DecodeError where
  | malformed (reason : String)
  | notAnObject
  | missingType
  | nonUtf8Binary
  | oversized (len limit : Nat)
  deriving DecidableEq

/-- Misuse of the public interface, answered to the caller at once. -/
inductive ClientError where
  | emptyType
  | emptyMessage
  | invalidPayload (reason : String)
  | invalidEndpoint (endpoint reason : String)
  | closed
  deriving DecidableEq

/-- Failures that are absorbed and reported. -/
inductive Fault where
  | transport (error : TransportError)
  | decode (error : DecodeError)
  | subscriber (topic info : String)
  | observer (name info : String)
  | exhausted (attempts : Nat)
  deriving DecidableEq

def optionText : Option Nat → String
  | none => "None"
  | some n => "Some(" ++ toString n ++ ")"

namespace TransportError

def label : TransportError → String
  | connect .. => "transport_connect"
  | timeout .. => "transport_timeout"
  | closed .. => "transport_closed"
  | io .. => "transport_io"

def message : TransportError → String
  | connect endpoint reason => "connect to " ++ endpoint ++ " failed: " ++ reason
  | timeout limit => "connect timed out after " ++ limit.text
  | closed code reason => "session closed by peer (code=" ++ optionText code ++ "): " ++ reason
  | io reason => "session i/o failed: " ++ reason

end TransportError

namespace DecodeError

def label : DecodeError → String
  | malformed .. => "decode_malformed"
  | notAnObject => "decode_not_an_object"
  | missingType => "decode_missing_type"
  | nonUtf8Binary => "decode_non_utf8"
  | oversized .. => "decode_oversized"

def message : DecodeError → String
  | malformed reason => "malformed frame: " ++ reason
  | notAnObject => "frame is not a JSON object"
  | missingType => "frame has no string `type` field"
  | nonUtf8Binary => "binary frame is not UTF-8 text"
  | oversized len limit =>
    "frame of " ++ toString len ++ " bytes exceeds limit of " ++ toString limit ++ " bytes"

/-- The peer does not speak the protocol at all: the session must go. -/
def isFatal : DecodeError → Bool
  | nonUtf8Binary => true
  | oversized .. => true
  | _ => false

end DecodeError

namespace ClientError

def label : ClientError → String
  | emptyType => "client_empty_type"
  | emptyMessage => "client_empty_message"
  | invalidPayload .. => "client_invalid_payload"
  | invalidEndpoint .. => "client_invalid_endpoint"
  | closed => "client_closed"

def message : ClientError → String
  | emptyType => "message type must not be empty"
  | emptyMessage => "chat message must not be empty"
  | invalidPayload reason => "payload is not serializable: " ++ reason
  | invalidEndpoint endpoint reason =>
    "invalid endpoint " ++ Text.quoted endpoint ++ ": " ++ reason
  | closed => "client is closed"

end ClientError

namespace Fault

def label : Fault → String
  | transport e => e.label
  | decode e => e.label
  | subscriber .. => "subscriber_panicked"
  | observer .. => "observer_panicked"
  | exhausted .. => "policy_exhausted"

def message : Fault → String
  | transport e => e.message
  | decode e => e.message
  | subscriber topic info => "subscriber for " ++ Text.quoted topic ++ " panicked: " ++ info
  | observer name info => "observer " ++ Text.quoted name ++ " panicked: " ++ info
  | exhausted attempts =>
    "reconnect policy exhausted after " ++ toString attempts ++ " failed attempts"

end Fault

/-- Why a callback was cut short: it gave a text, or something that is no text. -/
inductive Panic where
  | text (message : String)
  | other
  deriving DecidableEq

def Panic.info : Panic → String
  | text message => message
  | other => "unknown panic"

end SteadyLink
