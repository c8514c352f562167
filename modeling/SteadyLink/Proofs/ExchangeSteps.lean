import SteadyLink.Event.Exchange
import SteadyLink.Proofs.Broadcasts
import SteadyLink.Proofs.ReceiverAccounts

/-!
# Steps of several buses

Buses are made, their handles cloned and dropped, events are published through any handle, and
receivers come, read and go, in any order. Each bus is changed by itself, and for a receiver a step is
that an event comes, that it reads, that it leaves or nothing at all. Which of these it is does not
depend on what anybody holds.
-/

namespace SteadyLink.Proofs

/-! ## Runs -/

inductive ExchangeStep where
  | addBus (capacity : Nat)
  | clone (handle : Nat)
  | dropHandle (handle : Nat)
  | publish (handle : Nat) (e : Event)
  | subscribe (handle : Nat)
  | dropReceiver (receiver : Nat)
  | receive (receiver : Nat)

/-- The part of a log that is under one number. -/
def logged {α : Type} (log : List (Nat × α)) (number : Nat) : List α :=
  log.filterMap fun entry => if entry.1 = number then some entry.2 else none

/-- What a receiver holds, if it has not been dropped. -/
def held? (x : Exchange) (receiver : Nat) : Option Receiver :=
  x.receivers[receiver]?.bind fun seat => x.buses[seat.1]?.bind fun b => b.receivers.get? seat.2

namespace ExchangeStep

def apply (x : Exchange) : ExchangeStep → Exchange
  | .addBus capacity => (x.addBus capacity).2
  | .clone handle => (x.clone handle).2
  | .dropHandle handle => x.dropHandle handle
  | .publish handle e => x.publish handle e
  | .subscribe handle => (x.subscribe handle).2
  | .dropReceiver receiver => x.dropReceiver receiver
  | .receive receiver => (x.receive receiver).2

/-- The receiver that acts in a step. -/
def actor? : ExchangeStep → Option Nat
  | .dropReceiver receiver => some receiver
  | .receive receiver => some receiver
  | _ => none

/-- The event that is sent in a step, with its number, and its bus. -/
def sent (x : Exchange) : ExchangeStep → List (Nat × Event)
  | .publish handle e =>
    (x.handles[handle]?.bind fun n => x.buses[n]?.map fun b => (n, b.stamp e)).toList
  | _ => []

/-- What is heard in a step, and who hears it. -/
def heard (x : Exchange) : ExchangeStep → List (Nat × Reception)
  | .receive receiver => [(receiver, (x.receive receiver).1)]
  | _ => []

/-- The bus of the receiver that comes in a step, and its number there. -/
def seated (x : Exchange) : ExchangeStep → List (Nat × Nat)
  | .subscribe handle =>
    (x.handles[handle]?.bind fun n => x.buses[n]?.map fun b => (n, b.subscribed)).toList
  | _ => []

def capacities : ExchangeStep → List Nat
  | .addBus capacity => [capacity]
  | _ => []

end ExchangeStep

/-- Buses with their history. -/
structure ExchangeRun where
  now : Exchange
  /-- The capacity that was asked for each bus. -/
  capacities : List Nat
  /-- The events that were sent, and their buses. -/
  sent : List (Nat × Event)
  /-- How many events were sent on the bus of each receiver before it came. -/
  starts : List Nat
  /-- What was heard, and by whom. -/
  heard : List (Nat × Reception)

namespace ExchangeRun

def start : ExchangeRun := ⟨.empty, [], [], [], []⟩

def sentOn (r : ExchangeRun) (bus : Nat) : List Event := logged r.sent bus

def heardBy (r : ExchangeRun) (receiver : Nat) : List Reception := logged r.heard receiver

def step (r : ExchangeRun) (s : ExchangeStep) : ExchangeRun where
  now := s.apply r.now
  capacities := r.capacities ++ s.capacities
  sent := r.sent ++ s.sent r.now
  starts := r.starts ++ (s.seated r.now).map fun seat => (r.sentOn seat.1).length
  heard := r.heard ++ s.heard r.now

def steps (r : ExchangeRun) (schedule : List ExchangeStep) : ExchangeRun := schedule.foldl step r

end ExchangeRun

/-! ## What a step does -/

namespace ExchangeStep

/-- The bus that a step is about. -/
def bus? (x : Exchange) : ExchangeStep → Option Nat
  | .addBus _ => none
  | .clone handle => x.handles[handle]?
  | .dropHandle handle => x.handles[handle]?
  | .publish handle _ => x.handles[handle]?
  | .subscribe handle => x.handles[handle]?
  | .dropReceiver receiver => x.receivers[receiver]?.map Prod.fst
  | .receive receiver => x.receivers[receiver]?.map Prod.fst

/-- What a step makes of the bus that it is about. -/
def change (s : ExchangeStep) (x : Exchange) (b : Bus) : Bus :=
  match s with
  | .addBus _ => b
  | .clone _ => b.clone
  | .dropHandle _ => b.dropPublisher
  | .publish _ e => b.publish e
  | .subscribe _ => b.subscribe.2
  | .dropReceiver receiver => x.receivers[receiver]?.elim b fun seat => b.dropReceiver seat.2
  | .receive receiver => x.receivers[receiver]?.elim b fun seat => (b.receive seat.2).2

/-- What a step makes of the bus with a number. -/
def onBus (s : ExchangeStep) (x : Exchange) (n : Nat) (b : Bus) : Bus :=
  if s.bus? x = some n then s.change x b else b

/-- The bus of the handle that is made in a step. -/
def handed (x : Exchange) : ExchangeStep → List Nat
  | .addBus _ => [x.buses.length]
  | .clone handle => x.handles[handle]?.toList
  | _ => []

end ExchangeStep

section Steps

open ExchangeStep

variable {x : Exchange} {s : ExchangeStep} {b : Bus} {n m r : Nat} {seat : Nat × Nat}

lemma onBus_nowhere (s : ExchangeStep) (h : s.bus? x = none) :
    x.buses.mapIdx (s.onBus x) = x.buses := by
  ext1 n
  rw [List.getElem?_mapIdx]
  unfold ExchangeStep.onBus
  simp only [h, reduceCtorEq, if_false, Option.map_id']

lemma onBus_somewhere (s : ExchangeStep) (h : s.bus? x = some m) :
    x.buses.mapIdx (s.onBus x) = x.buses.modify m (s.change x) := by
  ext1 n
  rw [List.getElem?_mapIdx, List.getElem?_modify]
  unfold ExchangeStep.onBus
  simp only [h, Option.some.injEq]
  rfl

lemma modify_none {buses : List Bus} (hb : buses[m]? = none) (f : Bus → Bus) :
    buses.modify m f = buses :=
  List.modify_eq_self (List.getElem?_eq_none_iff.1 hb)

lemma modify_some {buses : List Bus} (hb : buses[m]? = some b) (f : Bus → Bus) :
    buses.modify m f = buses.set m (f b) := by
  ext1 n
  rw [List.getElem?_modify, List.getElem?_set]
  by_cases same : m = n
  · subst same
    rw [hb, if_pos rfl, if_pos (List.getElem?_eq_some_iff.1 hb).1]
    simp only [if_true, Option.map_eq_map, Option.map_some]
  · simp [same]

lemma onBus_handle (s : ExchangeStep) (handle : Nat) (h : s.bus? x = x.handles[handle]?) :
    x.onBus handle (s.change x) = { x with buses := x.buses.mapIdx (s.onBus x) } := by
  unfold Exchange.onBus
  cases hh : x.handles[handle]? with
  | none => rw [onBus_nowhere s (h.trans hh)]
  | some m => rw [onBus_somewhere s (h.trans hh)]

lemma clone_eq (handle : Nat) : (x.clone handle).2 =
    { x with
      buses := x.buses.mapIdx ((clone handle).onBus x)
      handles := x.handles ++ handed x (.clone handle) } := by
  unfold Exchange.clone
  cases hh : x.handles[handle]? with
  | none => simp [onBus_nowhere (clone handle) hh, handed, hh]
  | some m =>
    have there : x.onBus handle Bus.clone =
        { x with buses := x.buses.mapIdx ((clone handle).onBus x) } :=
      onBus_handle (clone handle) handle rfl
    simp [there, handed, hh]

lemma subscribe_eq (handle : Nat) : (x.subscribe handle).2 =
    { x with
      buses := x.buses.mapIdx ((subscribe handle).onBus x)
      receivers := x.receivers ++ seated x (.subscribe handle) } := by
  unfold Exchange.subscribe
  cases hh : x.handles[handle]? with
  | none => simp [onBus_nowhere (subscribe handle) hh, seated, hh]
  | some m =>
    cases hb : x.buses[m]? with
    | none => simp [onBus_somewhere (subscribe handle) hh, modify_none hb, seated, hh, hb]
    | some b =>
      simp [onBus_somewhere (subscribe handle) hh, modify_some hb, seated, hh, hb, change]
      rfl

lemma dropReceiver_eq (receiver : Nat) : x.dropReceiver receiver =
    { x with buses := x.buses.mapIdx ((dropReceiver receiver).onBus x) } := by
  unfold Exchange.dropReceiver
  cases hr : x.receivers[receiver]? with
  | none =>
    have nowhere : bus? x (.dropReceiver receiver) = none := by rw [bus?, hr, Option.map_none]
    simp [onBus_nowhere (dropReceiver receiver) nowhere]
  | some seat =>
    have one : (dropReceiver receiver).change x = (·.dropReceiver seat.2) := by
      funext b
      rw [change, hr, Option.elim_some]
    have here : bus? x (.dropReceiver receiver) = some seat.1 := by rw [bus?, hr, Option.map_some]
    simp [onBus_somewhere (dropReceiver receiver) here, one]

lemma receive_eq (receiver : Nat) : (x.receive receiver).2 =
    { x with buses := x.buses.mapIdx ((receive receiver).onBus x) } := by
  unfold Exchange.receive
  cases hr : x.receivers[receiver]? with
  | none =>
    have nowhere : bus? x (.receive receiver) = none := by rw [bus?, hr, Option.map_none]
    simp [onBus_nowhere (receive receiver) nowhere]
  | some seat =>
    have here : bus? x (.receive receiver) = some seat.1 := by rw [bus?, hr, Option.map_some]
    have there := onBus_somewhere (receive receiver) here
    cases hb : x.buses[seat.1]? with
    | none => simp [there, modify_none hb, hb]
    | some b => simp [there, modify_some hb, hb, change, hr]

/-- A step changes each bus by itself, and what it makes comes last. -/
lemma apply_eq (s : ExchangeStep) (x : Exchange) : s.apply x =
    ⟨x.buses.mapIdx (s.onBus x) ++ s.capacities.map .ofCapacity, x.handles ++ s.handed x,
      x.receivers ++ s.seated x⟩ := by
  cases s with
  | addBus capacity =>
    rw [onBus_nowhere (addBus capacity) rfl]
    simp [ExchangeStep.apply, Exchange.addBus, capacities, handed, seated]
  | clone handle => simp [ExchangeStep.apply, clone_eq, capacities, seated]
  | dropHandle handle =>
    have there : x.dropHandle handle =
        { x with buses := x.buses.mapIdx ((dropHandle handle).onBus x) } :=
      onBus_handle (dropHandle handle) handle rfl
    simp [ExchangeStep.apply, there, capacities, handed, seated]
  | publish handle e =>
    have there : x.publish handle e =
        { x with buses := x.buses.mapIdx ((publish handle e).onBus x) } :=
      onBus_handle (publish handle e) handle rfl
    simp [ExchangeStep.apply, there, capacities, handed, seated]
  | subscribe handle => simp [ExchangeStep.apply, subscribe_eq, capacities, handed]
  | dropReceiver receiver => simp [ExchangeStep.apply, dropReceiver_eq, capacities, handed, seated]
  | receive receiver => simp [ExchangeStep.apply, receive_eq, capacities, handed, seated]

lemma buses_apply (s : ExchangeStep) (hb : x.buses[n]? = some b) :
    (s.apply x).buses[n]? = some (s.onBus x n b) := by
  have short : n < (x.buses.mapIdx (s.onBus x)).length := by
    rw [List.length_mapIdx]
    exact (List.getElem?_eq_some_iff.1 hb).1
  rw [apply_eq]
  show (x.buses.mapIdx (s.onBus x) ++ _)[n]? = _
  rw [List.getElem?_append_left short, List.getElem?_mapIdx, hb, Option.map_some]

lemma length_apply (s : ExchangeStep) (x : Exchange) :
    (s.apply x).buses.length = x.buses.length + s.capacities.length := by
  rw [apply_eq]
  simp

lemma receivers_apply (s : ExchangeStep) (hr : x.receivers[r]? = some seat) :
    (s.apply x).receivers[r]? = some seat := by
  rw [apply_eq]
  show (x.receivers ++ s.seated x)[r]? = _
  rw [List.getElem?_append_left (List.getElem?_eq_some_iff.1 hr).1, hr]

lemma receivers_new (s : ExchangeStep) (new : x.receivers.length ≤ r) :
    (s.apply x).receivers[r]? = (s.seated x)[r - x.receivers.length]? := by
  rw [apply_eq]
  exact List.getElem?_append_right new

/-! ## Buses without their receivers -/

/-- A bus with nobody on it. -/
def bare (b : Bus) : Bus := { b with receivers := .empty }

lemma bare_receive (b : Bus) (id : Nat) : bare (b.receive id).2 = bare b := by
  unfold Bus.receive
  cases b.receivers.get? id <;> rfl

/-- Whoever reads or leaves changes only what is held. -/
lemma bare_change_actor (hs : s.actor? = some r) (b : Bus) : bare (s.change x b) = bare b := by
  cases s with
  | dropReceiver receiver =>
    cases hr : x.receivers[receiver]? with
    | none => simp only [change, hr, Option.elim_none]
    | some seat =>
      simp only [change, hr, Option.elim_some]
      rfl
  | receive receiver =>
    cases hr : x.receivers[receiver]? with
    | none => simp only [change, hr, Option.elim_none]
    | some seat => simp only [change, hr, Option.elim_some, bare_receive]
  | _ => cases hs

lemma bare_change (hs : s.actor? = none) (x y : Exchange) (b : Bus) :
    bare (s.change x b) = bare (s.change y (bare b)) := by
  cases s <;> first | rfl | cases hs

lemma bare_onBus_actor (hs : s.actor? = some r) (n : Nat) (b : Bus) :
    bare (s.onBus x n b) = bare b := by
  unfold ExchangeStep.onBus
  split
  · exact bare_change_actor hs b
  · rfl

/-- What no step changes of a bus is on all buses as it was. -/
lemma map_onBus {α : Type} {f : Bus → α} (kept : ∀ n b, f (s.onBus x n b) = f b) :
    (x.buses.mapIdx (s.onBus x)).map f = x.buses.map f := by
  ext1 n
  rw [List.getElem?_map, List.getElem?_mapIdx, List.getElem?_map, Option.map_map]
  congr 1
  funext b
  exact kept n b

lemma ring_onBus (s : ExchangeStep) (x : Exchange) (n : Nat) (b : Bus) :
    (s.onBus x n b).ring = b.ring := by
  cases hs : s.actor? with
  | some r =>
    have kept := congrArg Bus.ring (bare_onBus_actor (x := x) hs n b)
    exact kept
  | none =>
    unfold ExchangeStep.onBus
    split
    · cases s <;> first | rfl | cases hs
    · rfl

lemma subscribed_onBus (s : ExchangeStep) (x : Exchange) (n : Nat) (b : Bus) :
    b.subscribed ≤ (s.onBus x n b).subscribed := by
  cases hs : s.actor? with
  | some r =>
    have kept := congrArg Bus.subscribed (bare_onBus_actor (x := x) hs n b)
    exact Nat.le_of_eq kept.symm
  | none =>
    unfold ExchangeStep.onBus
    split
    · cases s with
      | subscribe handle => exact Nat.le_succ _
      | _ => first | exact Nat.le_refl _ | cases hs
    · exact Nat.le_refl _

/-! ## Places -/

/-- Every handle and every receiver has its bus, and each receiver its own number there. -/
structure Seated (x : Exchange) : Prop where
  handles : ∀ n ∈ x.handles, n < x.buses.length
  receivers : ∀ seat ∈ x.receivers, ∃ b, x.buses[seat.1]? = some b ∧ seat.2 < b.subscribed
  apart : x.receivers.Nodup

lemma seated_empty : Seated .empty where
  handles := by simp [Exchange.empty]
  receivers := by simp [Exchange.empty]
  apart := List.nodup_nil

/-- A newcomer sits on the bus of a handle and has the next number there. -/
lemma mem_seated (new : seat ∈ s.seated x) : ∃ handle b, s = .subscribe handle ∧
    x.handles[handle]? = some seat.1 ∧ x.buses[seat.1]? = some b ∧ seat.2 = b.subscribed := by
  cases s with
  | subscribe handle =>
    obtain ⟨m, hh, b, hb, rfl⟩ : ∃ m, x.handles[handle]? = some m ∧
        ∃ b, x.buses[m]? = some b ∧ (m, b.subscribed) = seat := by
      simpa [seated, Option.bind_eq_some_iff] using new
    exact ⟨handle, b, rfl, hh, hb, rfl⟩
  | _ => cases new

lemma seated_apply (h : Seated x) (s : ExchangeStep) : Seated (s.apply x) where
  handles := by
    intro n hn
    rw [length_apply]
    rw [apply_eq] at hn
    rcases List.mem_append.1 hn with old | new
    · exact Nat.lt_add_right _ (h.handles n old)
    · cases s with
      | addBus capacity =>
        cases List.mem_singleton.1 new
        exact Nat.lt_succ_self _
      | clone handle => exact h.handles n (List.mem_of_getElem? (Option.mem_toList.1 new))
      | _ => cases new
  receivers := by
    intro seat hseat
    rw [apply_eq] at hseat
    rcases List.mem_append.1 hseat with old | new
    · obtain ⟨b, hb, below⟩ := h.receivers seat old
      exact ⟨_, buses_apply s hb, Nat.lt_of_lt_of_le below (subscribed_onBus s x seat.1 b)⟩
    · obtain ⟨handle, b, rfl, hh, hb, number⟩ := mem_seated new
      have here : bus? x (.subscribe handle) = some seat.1 := hh
      refine ⟨_, buses_apply _ hb, ?_⟩
      rw [ExchangeStep.onBus, if_pos here, number]
      exact Nat.lt_succ_self _
  apart := by
    rw [apply_eq]
    refine List.nodup_append.2 ⟨h.apart, ?_, ?_⟩
    · cases s with
      | subscribe handle =>
        have single (found : Option (Nat × Nat)) : found.toList.Nodup := by cases found <;> simp
        exact single _
      | _ => exact List.nodup_nil
    · rintro seat old _ new rfl
      obtain ⟨handle, b, rfl, hh, hb, number⟩ := mem_seated new
      obtain ⟨b', hb', below⟩ := h.receivers seat old
      cases hb.symm.trans hb'
      omega

/-! ## What a step is for a receiver -/

/-- What a step is for one receiver. -/
inductive Part where
  | rests
  | comes (e : Event)
  | reads
  | leaves

namespace Part

def held (b : Bus) : Part → Option Receiver → Option Receiver
  | rests, held => held
  | comes e, held => held.map (Receiver.accept b.ring (b.stamp e))
  | reads, held => held.map fun held => (held.receive b.publishers).2
  | leaves, _ => none

def sent (b : Bus) : Part → List Event
  | comes e => [b.stamp e]
  | _ => []

def heard (b : Bus) : Part → Option Receiver → List Reception
  | reads, some held => [(held.receive b.publishers).1]
  | reads, none => [.closed]
  | _, _ => []

end Part

/-- What a step is for a receiver on the bus `n`. -/
def ExchangeStep.part (x : Exchange) (receiver n : Nat) : ExchangeStep → Part
  | .publish handle e => if x.handles[handle]? = some n then .comes e else .rests
  | .dropReceiver r => if r = receiver then .leaves else .rests
  | .receive r => if r = receiver then .reads else .rests
  | _ => .rests

lemma held?_eq (hr : x.receivers[r]? = some seat) (hb : x.buses[seat.1]? = some b) :
    held? x r = b.receivers.get? seat.2 := by
  rw [held?, hr, Option.bind_some, hb, Option.bind_some]

lemma get?_receive (b : Bus) (reader id : Nat) : (b.receive reader).2.receivers.get? id =
    if id = reader then (b.receivers.get? id).map fun held => (held.receive b.publishers).2
    else b.receivers.get? id := by
  by_cases same : id = reader
  · subst same
    rw [if_pos rfl]
    unfold Bus.receive
    cases hr : b.receivers.get? id with
    | none => exact hr
    | some held =>
      show (b.receivers.insert id _).get? id = _
      rw [Table.get?_insert, if_pos rfl]
      rfl
  · rw [if_neg same]
    exact (receive_others b reader).2.2.2 id same

/-- Two receivers have one seat only if they are the same. -/
lemma seat_apart (h : Seated x) {r r' : Nat} (hr : x.receivers[r]? = some seat)
    (hr' : x.receivers[r']? = some seat) : r' = r := by
  have short := (List.getElem?_eq_some_iff.1 hr').1
  exact (List.getElem?_inj short h.apart).1 (hr'.trans hr.symm)

/-- What others read, and that they leave, changes nothing for a receiver. -/
lemma held_other (h : Seated x) {other : Nat} (hs : s.actor? = some other) (apart : other ≠ r)
    (hr : x.receivers[r]? = some seat) (b : Bus) :
    (s.onBus x seat.1 b).receivers.get? seat.2 = b.receivers.get? seat.2 := by
  unfold ExchangeStep.onBus
  split
  case isFalse => rfl
  case isTrue here =>
    have elsewhere {seat' : Nat × Nat} (there : x.receivers[other]? = some seat')
        (here : seat'.1 = seat.1) : seat.2 ≠ seat'.2 := by
      intro same
      exact apart (seat_apart h hr (there.trans (congrArg some (Prod.ext here same.symm))))
    cases s with
    | dropReceiver receiver =>
      cases hs
      obtain ⟨seat', there, hseat⟩ := Option.map_eq_some_iff.1 here
      rw [change, there, Option.elim_some, Bus.dropReceiver, Table.get?_erase,
        if_neg (elsewhere there hseat)]
    | receive receiver =>
      cases hs
      obtain ⟨seat', there, hseat⟩ := Option.map_eq_some_iff.1 here
      rw [change, there, Option.elim_some, get?_receive, if_neg (elsewhere there hseat)]
    | _ => cases hs

lemma held_apply (h : Seated x) (s : ExchangeStep) (hr : x.receivers[r]? = some seat)
    (hb : x.buses[seat.1]? = some b) :
    held? (s.apply x) r = (s.part x r seat.1).held b (held? x r) := by
  rw [held?_eq (receivers_apply s hr) (buses_apply s hb), held?_eq hr hb]
  cases s with
  | addBus capacity => rfl
  | clone handle =>
    unfold ExchangeStep.onBus
    split <;> rfl
  | dropHandle handle =>
    unfold ExchangeStep.onBus
    split <;> rfl
  | publish handle e =>
    rw [ExchangeStep.onBus, bus?, ExchangeStep.part]
    split
    · exact Table.get?_map _ _ _
    · rfl
  | subscribe handle =>
    unfold ExchangeStep.onBus
    split
    · obtain ⟨b', hb', below⟩ := h.receivers seat (List.mem_of_getElem? hr)
      cases hb.symm.trans hb'
      show (b.receivers.insert b.subscribed .fresh).get? seat.2 = b.receivers.get? seat.2
      rw [Table.get?_insert, if_neg (Nat.ne_of_lt below)]
    · rfl
  | dropReceiver receiver =>
    by_cases own : receiver = r
    · subst own
      have target : bus? x (.dropReceiver receiver) = some seat.1 := by rw [bus?, hr, Option.map_some]
      rw [ExchangeStep.onBus, if_pos target, ExchangeStep.part, if_pos rfl, change, hr,
        Option.elim_some, Bus.dropReceiver, Table.get?_erase, if_pos rfl]
      rfl
    · rw [held_other h rfl own hr, ExchangeStep.part, if_neg own]
      rfl
  | receive receiver =>
    by_cases own : receiver = r
    · subst own
      have target : bus? x (.receive receiver) = some seat.1 := by rw [bus?, hr, Option.map_some]
      rw [ExchangeStep.onBus, if_pos target, ExchangeStep.part, if_pos rfl, change, hr,
        Option.elim_some, get?_receive, if_pos rfl]
      rfl
    · rw [held_other h rfl own hr, ExchangeStep.part, if_neg own]
      rfl

/-! ## Logs -/

lemma logged_append {α : Type} (log more : List (Nat × α)) (number : Nat) :
    logged (log ++ more) number = logged log number ++ logged more number := List.filterMap_append

lemma logged_one {α : Type} (key number : Nat) (a : α) :
    logged [(key, a)] number = if key = number then [a] else [] := by
  by_cases same : key = number <;> simp [logged, same]

/-- Whoever reads or leaves sends nothing. -/
lemma sent_part_actor {actor : Nat} (hs : s.actor? = some actor) (r n : Nat) (b : Bus) :
    (s.part x r n).sent b = [] := by
  cases s with
  | dropReceiver receiver =>
    rw [ExchangeStep.part]
    split <;> rfl
  | receive receiver =>
    rw [ExchangeStep.part]
    split <;> rfl
  | _ => cases hs

lemma logged_sent (s : ExchangeStep) (hb : x.buses[n]? = some b) (r : Nat) :
    logged (s.sent x) n = (s.part x r n).sent b := by
  cases s with
  | publish handle e =>
    rw [ExchangeStep.sent, ExchangeStep.part]
    cases hh : x.handles[handle]? with
    | none => rfl
    | some m =>
      by_cases here : m = n
      · subst here
        rw [Option.bind_some, hb, if_pos rfl, Option.map_some, Option.toList_some, logged_one,
          if_pos rfl]
        rfl
      · rw [if_neg (fun same => here (Option.some.inj same)), Option.bind_some]
        cases x.buses[m]? with
        | none => rfl
        | some b' =>
          rw [Option.map_some, Option.toList_some, logged_one, if_neg here]
          rfl
  | dropReceiver receiver => exact (sent_part_actor rfl r n b).symm
  | receive receiver => exact (sent_part_actor rfl r n b).symm
  | _ => rfl

/-- What is heard in a step is what the receiver reads in it, if it does. -/
lemma logged_heard_of {held : Option Receiver} (s : ExchangeStep)
    (reads : [(x.receive r).1] = Part.reads.heard b held) (n : Nat) :
    logged (s.heard x) r = (s.part x r n).heard b held := by
  cases s with
  | publish handle e =>
    rw [ExchangeStep.part]
    split <;> rfl
  | dropReceiver receiver =>
    rw [ExchangeStep.part]
    split <;> rfl
  | receive receiver =>
    rw [ExchangeStep.part, ExchangeStep.heard, logged_one]
    split
    · next own => exact own ▸ reads
    · rfl
  | _ => rfl

lemma logged_heard (s : ExchangeStep) (hr : x.receivers[r]? = some seat)
    (hb : x.buses[seat.1]? = some b) :
    logged (s.heard x) r = (s.part x r seat.1).heard b (held? x r) := by
  apply logged_heard_of
  rw [held?_eq hr hb]
  unfold Exchange.receive Bus.receive
  simp only [hr, hb]
  cases b.receivers.get? seat.2 <;> rfl

lemma logged_heard_nobody (s : ExchangeStep) (none : x.receivers[r]? = none) (n : Nat) (b : Bus) :
    logged (s.heard x) r = (s.part x r n).heard b .none := by
  apply logged_heard_of
  rw [Exchange.receive, none]
  rfl

lemma published_onBus (s : ExchangeStep) (hb : x.buses[n]? = some b) :
    (s.onBus x n b).published = b.published + (logged (s.sent x) n).length := by
  rw [logged_sent s hb 0]
  cases hs : s.actor? with
  | some r =>
    have kept := congrArg Bus.published (bare_onBus_actor (x := x) hs n b)
    rw [sent_part_actor hs]
    exact kept
  | none =>
    unfold ExchangeStep.onBus
    cases s with
    | publish handle e =>
      rw [bus?, ExchangeStep.part]
      split <;> rfl
    | dropReceiver receiver => cases hs
    | receive receiver => cases hs
    | _ => split <;> rfl

/-- Nothing is sent on a bus that is not there. -/
lemma logged_sent_nowhere (s : ExchangeStep) (none : x.buses.length ≤ n) :
    logged (s.sent x) n = [] := by
  cases s with
  | publish handle e =>
    rw [ExchangeStep.sent]
    cases hf : x.handles[handle]?.bind fun m => x.buses[m]?.map fun b => (m, b.stamp e) with
    | none => rfl
    | some entry =>
      obtain ⟨m, -, hm⟩ := Option.bind_eq_some_iff.1 hf
      obtain ⟨b, hb, rfl⟩ := Option.map_eq_some_iff.1 hm
      have short := (List.getElem?_eq_some_iff.1 hb).1
      rw [Option.toList_some, logged_one, if_neg (by omega)]
  | _ => rfl

/-- A receiver that is not there yet gets nothing from a bus. -/
lemma progress_nobody (s : ExchangeStep) (new : x.receivers.length ≤ r) (heard : List Reception) :
    progress (heard ++ logged (s.heard x) r) = progress heard := by
  rw [logged_heard_nobody s (List.getElem?_eq_none_iff.2 new) 0 default]
  cases s.part x r 0 with
  | reads => exact progress_other rfl
  | _ => exact congrArg progress (List.append_nil heard)

/-- A newcomer holds nothing yet. -/
lemma held_newcomer (s : ExchangeStep) (new : x.receivers.length ≤ r) :
    held? (s.apply x) r = (s.apply x).receivers[r]?.map fun _ => .fresh := by
  cases hr : (s.apply x).receivers[r]? with
  | none => rw [held?, hr, Option.bind_none, Option.map_none]
  | some seat =>
    rw [receivers_new s new] at hr
    obtain ⟨handle, b, rfl, hh, hb, number⟩ := mem_seated (List.mem_of_getElem? hr)
    rw [← receivers_new _ new] at hr
    have here : bus? x (.subscribe handle) = some seat.1 := hh
    rw [held?_eq hr (buses_apply _ hb), ExchangeStep.onBus, if_pos here, number]
    show (b.receivers.insert b.subscribed .fresh).get? b.subscribed = _
    rw [Table.get?_insert, if_pos rfl]
    rfl

end Steps

end SteadyLink.Proofs
