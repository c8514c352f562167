import SteadyLink.Event.Bus

/-!
# Several event buses

Several buses side by side. Their handles and their receivers are numbered in the order in which
they were made.
-/

namespace SteadyLink

/-- Several buses, their handles and their receivers, each numbered from zero. -/
structure Exchange where
  buses : List Bus
  /-- The bus behind each handle. -/
  handles : List Nat
  /-- The bus of each receiver, and the receiver's number there. -/
  receivers : List (Nat × Nat)

namespace Exchange

def empty : Exchange := ⟨[], [], []⟩

def addBus (x : Exchange) (capacity : Nat) : Nat × Exchange :=
  (x.handles.length,
    { x with
      buses := x.buses ++ [.ofCapacity capacity]
      handles := x.handles ++ [x.buses.length] })

def onBus (x : Exchange) (handle : Nat) (f : Bus → Bus) : Exchange :=
  match x.handles[handle]? with
  | some bus => { x with buses := x.buses.modify bus f }
  | none => x

def publish (x : Exchange) (handle : Nat) (e : Event) : Exchange := x.onBus handle (·.publish e)

def clone (x : Exchange) (handle : Nat) : Nat × Exchange :=
  match x.handles[handle]? with
  | some bus =>
    (x.handles.length, { x.onBus handle Bus.clone with handles := x.handles ++ [bus] })
  | none => (handle, x)

def dropHandle (x : Exchange) (handle : Nat) : Exchange := x.onBus handle Bus.dropPublisher

def subscribe (x : Exchange) (handle : Nat) : Nat × Exchange :=
  match x.handles[handle]? with
  | some n =>
    match x.buses[n]? with
    | some bus =>
      let (id, bus) := bus.subscribe
      (x.receivers.length,
        { x with buses := x.buses.set n bus, receivers := x.receivers ++ [(n, id)] })
    | none => (handle, x)
  | none => (handle, x)

def dropReceiver (x : Exchange) (receiver : Nat) : Exchange :=
  match x.receivers[receiver]? with
  | some (n, id) => { x with buses := x.buses.modify n (·.dropReceiver id) }
  | none => x

def receive (x : Exchange) (receiver : Nat) : Reception × Exchange :=
  match x.receivers[receiver]? with
  | some (n, id) =>
    match x.buses[n]? with
    | some bus =>
      let (reception, bus) := bus.receive id
      (reception, { x with buses := x.buses.set n bus })
    | none => (.closed, x)
  | none => (.closed, x)

end Exchange

end SteadyLink
