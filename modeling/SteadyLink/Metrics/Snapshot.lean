import SteadyLink.Json.Reading

/-!
# Snapshots of metrics

Snapshots of metrics: three groups that are known by name and any others, each an arbitrary JSON
value.
-/

namespace SteadyLink

/-- Metrics by group. -/
structure MetricsSnapshot where
  assets : Option Json
  networks : Option Json
  power : Option Json
  /-- All other groups. -/
  extra : Json.Fields
  deriving DecidableEq

namespace MetricsSnapshot

/-- The snapshot without groups. -/
def empty : MetricsSnapshot := ⟨none, none, none, []⟩

/-- No group is there. -/
def isEmpty (s : MetricsSnapshot) : Bool :=
  s.assets.isNone && s.networks.isNone && s.power.isNone && s.extra.isEmpty

/-- The names of the known groups. -/
def knownGroups : List String := ["assets", "networks", "power"]

/-- A known group. Null stands for its absence. -/
def group? (fields : Json.Fields) (name : String) : Option Json :=
  match fields.get? name with
  | some .null => none
  | v => v

/-- The snapshot in a payload. Null is the empty snapshot. -/
def ofJson : Json → Except Json.ReadError MetricsSnapshot
  | .null => .ok empty
  | .obj fields =>
    .ok ⟨group? fields "assets", group? fields "networks", group? fields "power",
      fields.filter fun field => !knownGroups.contains field.1⟩
  | v => .error (.invalidType v "struct MetricsSnapshot")

/-- Every group of the newer snapshot replaces the older one; the groups it lacks are kept. -/
def merge (older newer : MetricsSnapshot) : MetricsSnapshot where
  assets := newer.assets.or older.assets
  networks := newer.networks.or older.networks
  power := newer.power.or older.power
  extra := older.extra.union newer.extra

/-- The groups in the order in which they are written: the known ones first. -/
def fields (s : MetricsSnapshot) : List (String × Json) :=
  (s.assets.toList.map fun v => ("assets", v)) ++ (s.networks.toList.map fun v => ("networks", v))
    ++ (s.power.toList.map fun v => ("power", v)) ++ s.extra

/-- The snapshot as a JSON value. -/
def toJson (s : MetricsSnapshot) : Json := .obj (Json.Fields.ofList s.fields)

def text (s : MetricsSnapshot) : String := (Json.obj s.fields).render

end MetricsSnapshot

end SteadyLink
