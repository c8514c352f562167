import SteadyLink.Json.Reading

/-!
# Categories of metrics

The groups of metrics that a client may ask for.
-/

namespace SteadyLink

/-- A group of metrics that can be asked for. -/
inductive MetricsCategory where
  | all
  | assets
  | network
  | power
  deriving DecidableEq, Repr

namespace MetricsCategory

/-- Everything, unless a group is named. -/
def standard : MetricsCategory := all

def name : MetricsCategory → String
  | all => "all"
  | assets => "assets"
  | network => "network"
  | power => "power"

def every : List MetricsCategory := [all, assets, network, power]

def ofName (s : String) : Except Json.ReadError MetricsCategory :=
  match every.find? (·.name = s) with
  | some c => .ok c
  | none => .error (.unknownVariant s (every.map name))

/-- The category that a value names: by a text, or by an object whose one field has the name and
null for a value. -/
def ofJson : Json → Except Json.ReadError MetricsCategory
  | .str s => ofName s
  | .obj [(s, v)] =>
    match ofName s with
    | .error e => .error e
    | .ok c => if v = .null then .ok c else .error (.invalidType v "unit")
  | .obj _ => .error .notSingleField
  | v => .error (.invalidType v "string or map")

end MetricsCategory

end SteadyLink
