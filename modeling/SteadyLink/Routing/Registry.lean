import SteadyLink.Table

/-!
# The registry of callbacks

Who is to be called for which kind of message. Each kind has a row of slots in the order of
registration. Removal empties a slot through the index without moving the others; a row with more
empty slots than occupied ones is packed, and a row without occupied slots goes away.
-/

namespace SteadyLink

/-- The slots of one kind. -/
structure Topic (H : Type) where
  slots : List (Option (Nat × H))
  /-- The number of occupied slots. -/
  live : Nat
  deriving DecidableEq

namespace Topic

variable {H : Type}

def empty : Topic H := ⟨[], 0⟩

/-- Registers a handler after the others. -/
def push (t : Topic H) (id : Nat) (handler : H) : Topic H :=
  ⟨t.slots ++ [some (id, handler)], t.live + 1⟩

/-- The number of emptied slots. -/
def gaps (t : Topic H) : Nat := t.slots.length - t.live

/-- Empties a slot, which keeps its place. -/
def clear (t : Topic H) (position : Nat) : Topic H := ⟨t.slots.set position none, t.live - 1⟩

/-- The occupied slots in order. -/
def occupied (t : Topic H) : List (Nat × H) := t.slots.filterMap id

/-- Without the empty slots. -/
def pack (t : Topic H) : Topic H := { t with slots := t.occupied.map some }

end Topic

/-- Registrations by kind. -/
structure Registry (H : Type) where
  topics : Table String (Topic H)
  /-- Where each live registration stands: its kind and its slot. -/
  index : Table Nat (String × Nat)
  /-- The number that was given out last. -/
  lastId : Nat
  deriving DecidableEq

namespace Registry

variable {H : Type}

def empty : Registry H := ⟨.empty, .empty, 0⟩

instance : Inhabited (Registry H) := ⟨empty⟩

/-- Registers a handler behind those already there. Registrations are numbered from one. -/
def insert (r : Registry H) (kind : String) (handler : H) : Nat × Registry H :=
  let id := r.lastId + 1
  let topic := (r.topics.get? kind).getD .empty
  (id,
    { topics := r.topics.insert kind (topic.push id handler)
      index := r.index.insert id (kind, topic.slots.length)
      lastId := id })

/-- The index after a topic was packed: each of its registrations stands where it is now. -/
def reindex (kind : String) :
    List (Nat × H) → Nat → Table Nat (String × Nat) → Table Nat (String × Nat)
  | [], _, index => index
  | (id, _) :: rest, position, index =>
    reindex kind rest (position + 1) (index.insert id (kind, position))

/-- Puts back a topic that has lost a slot. -/
def settle (r : Registry H) (kind : String) (topic : Topic H) : Registry H :=
  if topic.live = 0 then { r with topics := r.topics.erase kind }
  else if topic.live < topic.gaps then
    { r with
      topics := r.topics.insert kind topic.pack
      index := reindex kind topic.occupied 0 r.index }
  else { r with topics := r.topics.insert kind topic }

/-- Removes a registration; tells whether it was live. -/
def remove (r : Registry H) (id : Nat) : Bool × Registry H :=
  match r.index.get? id with
  | none => (false, r)
  | some (kind, position) =>
    let r := { r with index := r.index.erase id }
    match r.topics.get? kind with
    | none => (false, r)
    | some topic =>
      match topic.slots[position]? with
      | some (some _) => (true, r.settle kind (topic.clear position))
      | _ => (false, r)

/-- The live registrations for a kind, in the order of registration. -/
def entries (r : Registry H) (kind : String) : List (Nat × H) :=
  match r.topics.get? kind with
  | some topic => topic.occupied
  | none => []

/-- The live handlers for a kind, in the order of registration. -/
def snapshot (r : Registry H) (kind : String) : List H := (r.entries kind).map (·.2)

/-- The registrations for a kind. -/
def count (r : Registry H) (kind : String) : Nat :=
  match r.topics.get? kind with
  | some topic => topic.live
  | none => 0

/-- The number of live registrations. -/
def size (r : Registry H) : Nat := r.index.size

def isEmpty (r : Registry H) : Bool := r.index.isEmpty

end Registry

end SteadyLink
