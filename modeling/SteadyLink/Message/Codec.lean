import SteadyLink.Json.Parser
import SteadyLink.Message.Envelope
import SteadyLink.Message.Frame

/-!
# Messages as frames

Messages as frames. An outgoing message is a JSON object with its type in the field `type`; of an
inbound one the payload is the field `data`, else the field `payload`, else all fields beside
`type`.
-/

namespace SteadyLink

/-- How messages are written, and how long a frame may be. -/
structure Codec where
  layout : Layout
  /-- The longest frame that is read, in bytes. Zero stands for no limit. -/
  maxFrameLen : Nat
  deriving DecidableEq

namespace Codec

/-- Nested payloads, frames of any length. -/
def standard : Codec := ⟨.nested, 0⟩

def typeKey : String := "type"

def dataKey : String := "data"

def payloadKey : String := "payload"

def fields (layout : Layout) (kind : String) (payload : Json) : Json.Fields :=
  let base : Json.Fields := [(typeKey, .str kind)]
  match layout, payload with
  | .flattened, .obj fields => base.union (fields.filter fun field => field.1 != typeKey)
  | _, .null => base
  | _, payload => base.insert dataKey payload

def encode (c : Codec) (e : Envelope) : String :=
  (Json.obj (fields (e.layout.getD c.layout) e.kind e.payload)).render

/-- The payload of an inbound message, from its fields without the type. -/
def payloadOf (rest : Json.Fields) : Json :=
  match rest.get? dataKey with
  | some payload => payload
  | none =>
    match rest.get? payloadKey with
    | some payload => payload
    | none => if rest.isEmpty then .null else .obj rest

def ofJson : Json → Except DecodeError Envelope
  | .obj all =>
    match Json.Fields.get? typeKey all with
    | some (.str kind) =>
      if h : Text.isBlank kind = false then
        .ok ⟨kind, payloadOf (Json.Fields.erase typeKey all), none, h⟩
      else .error .missingType
    | _ => .error .missingType
  | _ => .error .notAnObject

def ofText (body : String) : Except DecodeError Envelope :=
  match Json.parse body.toList with
  | .error e => .error (.malformed (e.message body.toList))
  | .ok v => ofJson v

/-- The message in a frame. The length is checked first, then the encoding, then the text. -/
def decode (c : Codec) (f : Frame) : Except DecodeError Envelope :=
  if 0 < c.maxFrameLen ∧ c.maxFrameLen < f.len then .error (.oversized f.len c.maxFrameLen)
  else
    match f.text? with
    | none => .error .nonUtf8Binary
    | some body => ofText body

end Codec

end SteadyLink
