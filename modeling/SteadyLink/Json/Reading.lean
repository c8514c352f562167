import SteadyLink.Json.Printer
import SteadyLink.Text.Quoted

/-!
# Typed values from JSON

Why a JSON value is not the typed value that was asked for.
-/

namespace SteadyLink.Json

/-- Why a JSON value is not a value of the wanted type. -/
inductive ReadError where
  | invalidType (found : Json) (expected : String)
  /-- An object that has not exactly one field. -/
  | notSingleField
  /-- A name that is none of the names allowed. -/
  | unknownVariant (name : String) (allowed : List String)
  /-- A list with more items than there are fields. -/
  | tooLong (length : Nat)
  deriving DecidableEq

/-- What a value is called in a message. -/
def describe : Json → String
  | null => "null"
  | bool b => "boolean `" ++ (if b then "true" else "false") ++ "`"
  | int n => "integer `" ++ String.ofList (intChars n) ++ "`"
  | float negative m => "floating point `" ++ String.ofList (floatChars negative m) ++ "`"
  | str s => "string " ++ Text.quoted s
  | arr _ => "sequence"
  | obj _ => "map"

def ReadError.message : ReadError → String
  | invalidType found expected =>
    "invalid type: " ++ found.describe ++ ", expected " ++ expected
  | notSingleField => "invalid value: map, expected map with a single key"
  | unknownVariant name allowed =>
    "unknown variant `" ++ name ++ "`, expected one of "
      ++ ", ".intercalate (allowed.map fun s => "`" ++ s ++ "`")
  | tooLong length =>
    "invalid length " ++ toString length ++ ", expected fewer elements in array"

def readString : Json → Except ReadError String
  | str s => .ok s
  | v => .error (.invalidType v "a string")

end SteadyLink.Json
