import SteadyLink.Fault
import SteadyLink.Json.Printer
import SteadyLink.Text.Blank

/-!
# Envelopes

Routed messages: a type that is not blank, and a JSON payload.
-/

namespace SteadyLink

inductive Layout where
  /-- In the field `data`, beside `type`. -/
  | nested
  /-- The fields of an object payload stand beside `type`; other payloads are nested. -/
  | flattened
  deriving DecidableEq, Repr

/-- A typed message. Its kind is not blank. -/
structure Envelope where
  kind : String
  payload : Json
  /-- A layout that wins over the codec's. -/
  layout : Option Layout
  kind_not_blank : Text.isBlank kind = false
  deriving DecidableEq

namespace Envelope

/-- The envelope with the given type and payload. A blank type is refused. -/
def ofKind (kind : String) (payload : Json) : Except ClientError Envelope :=
  if h : Text.isBlank kind = false then .ok ⟨kind, payload, none, h⟩ else .error .emptyType

def withLayout (e : Envelope) (layout : Layout) : Envelope := { e with layout := some layout }

end Envelope

/-- Names in a table that a caller hands over as payload. -/
inductive Datum.Key where
  | text (s : String)
  | integer (n : Int)
  | list
  deriving DecidableEq

/-- Data that a caller hands over as payload. Not all of it has a JSON value. -/
inductive Datum where
  | json (v : Json)
  | number (x : Number.Binary64)
  | integer (n : Int)
  | table (entries : List (Datum.Key × Json))
  /-- Data that cannot be turned into JSON, for the reason it gives. -/
  | failing (reason : String)

namespace Datum

def Key.name : Key → Except String String
  | text s => .ok s
  | integer n => .ok (String.ofList (Json.intChars n))
  | list => .error "key must be a string"

/-- The fields of a table, where a later entry wins over an earlier one of the same name. -/
def tableFields : List (Key × Json) → Json.Fields → Except String Json.Fields
  | [], acc => .ok acc
  | (k, v) :: rest, acc =>
    match k.name with
    | .error reason => .error reason
    | .ok name => tableFields rest (acc.insert name v)

def toJson : Datum → Except String Json
  | json v => .ok v
  | number x =>
    match x.magnitude? with
    | some m => .ok (if m.isInfinite then .null else .float x.negative m)
    | none => .ok .null
  | integer n => if Json.intRange n then .ok (.int n) else .error "number out of range"
  | table entries => (tableFields entries []).map .obj
  | failing reason => .error reason

end Datum

/-- The envelope for data of any kind. Data without a JSON value is reported before a blank type. -/
def Envelope.ofDatum (kind : String) (datum : Datum) : Except ClientError Envelope :=
  match datum.toJson with
  | .error reason => .error (.invalidPayload reason)
  | .ok payload => ofKind kind payload

end SteadyLink
