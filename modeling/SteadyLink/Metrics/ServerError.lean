import SteadyLink.Json.Reading

/-!
# Errors of the server

Errors that the server reports.
-/

namespace SteadyLink

/-- An error that the server reports. -/
structure ServerError where
  message : String
  deriving DecidableEq

namespace ServerError

/-- The error in a payload: an object whose field `message` may be missing, or a list of at most one
text. -/
def ofJson : Json → Except Json.ReadError ServerError
  | .obj fields =>
    match Json.Fields.get? "message" fields with
    | none => .ok ⟨""⟩
    | some v => v.readString.map mk
  | .arr [] => .ok ⟨""⟩
  | .arr (v :: rest) =>
    match v.readString with
    | .error e => .error e
    | .ok message =>
      if rest.isEmpty then .ok ⟨message⟩ else .error (.tooLong (rest.length + 1))
  | v => .error (.invalidType v "struct ServerError")

def toJson (e : ServerError) : Json := .obj [("message", .str e.message)]

end ServerError

end SteadyLink
