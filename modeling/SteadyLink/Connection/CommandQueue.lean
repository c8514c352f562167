import SteadyLink.Time.Duration

/-!
# The command queue

Commands that wait for a session, oldest first. A full queue makes room by giving up its oldest
command, and commands past their age limit are taken out when a session opens.
-/

namespace SteadyLink

structure Pending (α : Type) where
  command : α
  enqueuedAt : Instant
  deriving DecidableEq

/-- A queue with a limit on its length and, perhaps, on the age of what waits in it. -/
structure CommandQueue (α : Type) where
  items : List (Pending α)
  capacity : Nat
  ttl : Option Duration
  deriving DecidableEq

namespace CommandQueue

variable {α : Type}

/-- The empty queue. It holds one command at least. -/
def ofCapacity (capacity : Nat) (ttl : Option Duration) : CommandQueue α :=
  ⟨[], max capacity 1, ttl⟩

def length (q : CommandQueue α) : Nat := q.items.length

def isEmpty (q : CommandQueue α) : Bool := q.items.isEmpty

/-- Appends a command. Gives back the oldest one if the queue was full. -/
def push (q : CommandQueue α) (now : Instant) (command : α) : Option α × CommandQueue α :=
  let item : Pending α := ⟨command, now⟩
  if q.capacity ≤ q.items.length then
    (q.items.head?.map (·.command), { q with items := q.items.tail ++ [item] })
  else (none, { q with items := q.items ++ [item] })

/-- The item that waits longest, and the queue without it. -/
def pop? (q : CommandQueue α) : Option (Pending α × CommandQueue α) :=
  match q.items with
  | [] => none
  | item :: rest => some (item, { q with items := rest })

def pushFront (q : CommandQueue α) (item : Pending α) : CommandQueue α :=
  { q with items := (item :: q.items).take q.capacity }

/-- The age of an item exceeds the limit. An item from the future has no age. -/
def isExpired (q : CommandQueue α) (now : Instant) (item : Pending α) : Bool :=
  match q.ttl with
  | none => false
  | some limit => limit.nanos < now - item.enqueuedAt

/-- Takes out the commands past their age limit, oldest first. -/
def takeExpired (q : CommandQueue α) (now : Instant) : List α × CommandQueue α :=
  ((q.items.filter (q.isExpired now)).map (·.command),
    { q with items := q.items.filter fun item => !q.isExpired now item })

end CommandQueue

end SteadyLink
