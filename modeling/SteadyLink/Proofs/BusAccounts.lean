import SteadyLink.Proofs.ExchangeSteps

/-!
# The accounts of buses

Whatever is done with buses, their handles and their receivers, events are numbered without a gap on
each bus, and the accounts of each receiver are kept. What receivers read, and that they leave, is
nothing to the others.
-/

namespace SteadyLink.Proofs

/-! ## The accounts of one receiver -/

/-- The accounts of a receiver, as long as it is there. -/
structure ReceiverAccounts (ring : Nat) (sent : List Event) (start : Nat) (heard : List Reception)
    (held : Option Receiver) : Prop where
  inOrder : HeardInOrder sent start heard
  accounted : ∀ r, held = some r → Accounted ring sent start heard r

lemma accounts_part {b : Bus} {sent : List Event} {start : Nat} {heard : List Reception}
    {held : Option Receiver} (h : ReceiverAccounts b.ring sent start heard held) (room : 0 < b.ring)
    (counted : Counted sent) (p : Part) : ReceiverAccounts b.ring (sent ++ p.sent b) start
      (heard ++ p.heard b held) (p.held b held) := by
  cases p with
  | rests =>
    show ReceiverAccounts b.ring (sent ++ []) start (heard ++ []) held
    rw [List.append_nil, List.append_nil]
    exact h
  | comes e =>
    show ReceiverAccounts b.ring (sent ++ [b.stamp e]) start (heard ++ []) _
    rw [List.append_nil]
    refine ⟨heardInOrder_sent h.inOrder _, ?_⟩
    intro r hr
    obtain ⟨before, there, rfl⟩ := Option.map_eq_some_iff.1 hr
    exact accounted_accept (h.accounted before there) room _
  | reads =>
    show ReceiverAccounts b.ring (sent ++ []) start _ _
    rw [List.append_nil]
    cases held with
    | none => exact ⟨heardInOrder_other h.inOrder rfl, fun _ hr => by cases hr⟩
    | some before =>
      obtain ⟨after, next⟩ := accounted_receive (h.accounted before rfl) b.publishers
      refine ⟨?_, ?_⟩
      · show HeardInOrder sent start (heard ++ [(before.receive b.publishers).1])
        cases hx : (before.receive b.publishers).1 with
        | event e => exact heardInOrder_event h.inOrder counted (next e hx)
        | _ => exact heardInOrder_other h.inOrder rfl
      · intro r hr
        cases hr
        exact after
  | leaves =>
    show ReceiverAccounts b.ring (sent ++ []) start (heard ++ []) none
    rw [List.append_nil, List.append_nil]
    exact ⟨h.inOrder, fun _ hr => by cases hr⟩

/-! ## The accounts of a run -/

/-- What a receiver on a bus with so many publishers is told when it reads, and what it holds
thereafter. Whether it has lost events comes first, then the oldest event that it holds. -/
inductive TakesNext (publishers : Nat) : Receiver → Reception → Receiver → Prop where
  | lost {pending : List Event} {missed : Nat} (some : 0 < missed) :
    TakesNext publishers ⟨pending, missed⟩ (.lagged missed) ⟨pending, 0⟩
  | event (e : Event) (rest : List Event) : TakesNext publishers ⟨e :: rest, 0⟩ (.event e) ⟨rest, 0⟩
  | empty (some : 0 < publishers) : TakesNext publishers .fresh .empty .fresh
  | closed (none : publishers = 0) : TakesNext publishers .fresh .closed .fresh

lemma receive_takesNext (publishers : Nat) (held : Receiver) :
    TakesNext publishers held (held.receive publishers).1 (held.receive publishers).2 := by
  obtain ⟨pending, missed⟩ := held
  unfold Receiver.receive
  split
  case isTrue some => exact .lost some
  case isFalse none =>
    cases Nat.eq_zero_of_not_pos none
    cases pending with
    | cons e rest => exact .event e rest
    | nil =>
      show TakesNext publishers .fresh (if publishers = 0 then .closed else .empty) .fresh
      split
      case isTrue none => exact .closed none
      case isFalse some => exact .empty (Nat.pos_of_ne_zero some)

/-- What holds of a run of buses. -/
structure AccountsKept (run : ExchangeRun) : Prop where
  counted : ∀ n, Counted (run.sentOn n)
  /-- Through whatever handle of a bus an event is published, it gets the next number there. -/
  stamped : ∀ handle n e, run.now.handles[handle]? = some n →
    (run.step (.publish handle e)).sentOn n =
      run.sentOn n ++ [{ e with seq := (run.sentOn n).length + 1 }]
  /-- Whoever subscribes through a handle of a bus gets a receiver there, which holds nothing yet. -/
  welcomes : ∀ handle n, run.now.handles[handle]? = some n → ∃ seat, seat.1 = n ∧
    (run.step (.subscribe handle)).now.receivers = run.now.receivers ++ [seat] ∧
      held? (run.step (.subscribe handle)).now run.now.receivers.length = some .fresh
  /-- A receiver that reads hears the next of what it holds. -/
  delivers : ∀ r seat b held, run.now.receivers[r]? = some seat → run.now.buses[seat.1]? = some b →
    held? run.now r = some held → ∃ x after, TakesNext b.publishers held x after ∧
      (run.step (.receive r)).heardBy r = run.heardBy r ++ [x] ∧
        held? (run.step (.receive r)).now r = some after
  /-- For each receiver there are the number of events sent before it came and the size of its ring,
  with which its accounts are kept. The ring has the least power of two as its size that is not below
  the capacity. -/
  receivers : ∀ r seat, run.now.receivers[r]? = some seat → ∃ start capacity ring,
    run.starts[r]? = some start ∧ run.capacities[seat.1]? = some capacity ∧
      IsLeast {c | max 1 capacity ≤ c ∧ ∃ k, c = 2 ^ k} ring ∧
      ReceiverAccounts ring (run.sentOn seat.1) start (run.heardBy r) (held? run.now r)

/-- What a run keeps from step to step. -/
structure Booked (run : ExchangeRun) : Prop where
  seated : Seated run.now
  rings : run.now.buses.map Bus.ring = run.capacities.map fun capacity => powerAbove (max 1 capacity)
  published : ∀ n b, run.now.buses[n]? = some b → (run.sentOn n).length = b.published
  unsent : ∀ n, run.now.buses.length ≤ n → run.sentOn n = []
  counted : ∀ n, Counted (run.sentOn n)
  unheard : ∀ r, run.now.receivers.length ≤ r → progress (run.heardBy r) = 0
  starts : run.starts.length = run.now.receivers.length
  accounts : ∀ r seat b start, run.now.receivers[r]? = some seat → run.now.buses[seat.1]? = some b →
    run.starts[r]? = some start →
      ReceiverAccounts b.ring (run.sentOn seat.1) start (run.heardBy r) (held? run.now r)

section Runs

open ExchangeStep

variable {run other : ExchangeRun} {n r : Nat} {b : Bus}

lemma sentOn_step (run : ExchangeRun) (s : ExchangeStep) (n : Nat) :
    (run.step s).sentOn n = run.sentOn n ++ logged (s.sent run.now) n := logged_append _ _ n

lemma heardBy_step (run : ExchangeRun) (s : ExchangeStep) (r : Nat) :
    (run.step s).heardBy r = run.heardBy r ++ logged (s.heard run.now) r := logged_append _ _ r

lemma buses_step (s : ExchangeStep) (hb : (s.apply run.now).buses[n]? = some b) :
    (∃ before, run.now.buses[n]? = some before ∧ b = s.onBus run.now n before) ∨
      run.now.buses.length ≤ n ∧ b.published = 0 := by
  cases there : run.now.buses[n]? with
  | some before => exact .inl ⟨before, rfl, Option.some.inj (hb.symm.trans (buses_apply s there))⟩
  | none =>
    have new := List.getElem?_eq_none_iff.1 there
    refine .inr ⟨new, ?_⟩
    have length : (run.now.buses.mapIdx (s.onBus run.now)).length ≤ n := by rwa [List.length_mapIdx]
    rw [apply_eq, List.getElem?_append_right length] at hb
    obtain ⟨capacity, -, rfl⟩ := List.mem_map.1 (List.mem_of_getElem? hb)
    rfl

lemma booked_start : Booked .start where
  seated := seated_empty
  rings := rfl
  published := by simp [ExchangeRun.start, Exchange.empty]
  unsent := fun _ _ => rfl
  counted := fun _ => counted_nil
  unheard := fun _ _ => rfl
  starts := rfl
  accounts := by simp [ExchangeRun.start, Exchange.empty]

lemma ring_found (h : Booked run) (hb : run.now.buses[n]? = some b) :
    ∃ capacity, run.capacities[n]? = some capacity ∧ b.ring = powerAbove (max 1 capacity) := by
  have ring := congrArg (·[n]?) h.rings
  simp only [List.getElem?_map, hb, Option.map_some] at ring
  obtain ⟨capacity, hcapacity, same⟩ := Option.map_eq_some_iff.1 ring.symm
  exact ⟨capacity, hcapacity, same.symm⟩

lemma rings_step (h : Booked run) (s : ExchangeStep) :
    (run.step s).now.buses.map Bus.ring =
      (run.step s).capacities.map fun capacity => powerAbove (max 1 capacity) := by
  have old := map_onBus (ring_onBus s run.now)
  show (s.apply run.now).buses.map Bus.ring = (run.capacities ++ s.capacities).map _
  rw [apply_eq, List.map_append, List.map_append, old, h.rings, List.map_map]
  rfl

lemma counted_step (h : Booked run) (s : ExchangeStep) (n : Nat) :
    Counted ((run.step s).sentOn n) := by
  rw [sentOn_step]
  cases hb : run.now.buses[n]? with
  | none =>
    have none := List.getElem?_eq_none_iff.1 hb
    rw [logged_sent_nowhere s none, List.append_nil]
    exact h.counted n
  | some b =>
    rw [logged_sent s hb 0]
    cases s.part run.now 0 n with
    | comes e =>
      apply counted_concat (h.counted n)
      rw [h.published n b hb]
      rfl
    | _ =>
      show Counted (run.sentOn n ++ [])
      rw [List.append_nil]
      exact h.counted n

lemma accounts_newcomer (h : Booked run) {s : ExchangeStep} {seat : Nat × Nat} {start : Nat}
    (new : run.now.receivers.length ≤ r) (hr : (run.step s).now.receivers[r]? = some seat)
    (hstart : (run.step s).starts[r]? = some start) (ring : Nat) :
    ReceiverAccounts ring ((run.step s).sentOn seat.1) start ((run.step s).heardBy r)
      (held? (run.step s).now r) := by
  have came : (s.seated run.now)[r - run.now.receivers.length]? = some seat :=
    (receivers_new s new).symm.trans hr
  obtain ⟨handle, b, rfl, hh, hb, number⟩ := mem_seated (List.mem_of_getElem? came)
  have before : start = (run.sentOn seat.1).length := by
    have started : (run.starts ++ (seated run.now (.subscribe handle)).map
        fun seat => (run.sentOn seat.1).length)[r]? = some start := hstart
    rw [List.getElem?_append_right (h.starts ▸ new), List.getElem?_map, h.starts, came] at started
    exact (Option.some.inj started).symm
  have unsent : (run.step (.subscribe handle)).sentOn seat.1 = run.sentOn seat.1 := by
    rw [sentOn_step]
    exact List.append_nil _
  have unheard : (run.step (.subscribe handle)).heardBy r = run.heardBy r := by
    rw [heardBy_step]
    exact List.append_nil _
  have none := h.unheard r new
  have nothing : obtained (run.heardBy r) = [] := List.eq_nil_of_length_eq_zero (by
    unfold progress at none
    omega)
  rw [unsent, unheard, before]
  refine ⟨heardInOrder_nil _ _ nothing, ?_⟩
  intro held hheld
  have fresh : held? (run.step (.subscribe handle)).now r = some .fresh :=
    (held_newcomer _ new).trans (congrArg (Option.map _) hr)
  cases hheld.symm.trans fresh
  exact accounted_fresh none

lemma accounts_resident (h : Booked run) {s : ExchangeStep} {seat : Nat × Nat} {start : Nat}
    (old : r < run.now.receivers.length) (hr : (run.step s).now.receivers[r]? = some seat)
    (hb : (run.step s).now.buses[seat.1]? = some b) (hstart : (run.step s).starts[r]? = some start) :
    ReceiverAccounts b.ring ((run.step s).sentOn seat.1) start ((run.step s).heardBy r)
      (held? (run.step s).now r) := by
  have there : run.now.receivers[r]? = some seat := by
    have same := receivers_apply s (List.getElem?_eq_getElem old)
    rw [List.getElem?_eq_getElem old, ← same]
    exact hr
  have started : run.starts[r]? = some start := by
    have kept : (run.starts ++ (s.seated run.now).map
        fun seat => (run.sentOn seat.1).length)[r]? = some start := hstart
    rwa [List.getElem?_append_left (h.starts ▸ old)] at kept
  obtain ⟨before, hbefore, -⟩ := h.seated.receivers seat (List.mem_of_getElem? there)
  cases (buses_apply s hbefore).symm.trans hb
  have account := h.accounts r seat before start there hbefore started
  have room : 0 < before.ring := by
    obtain ⟨capacity, -, ring⟩ := ring_found h hbefore
    have above : max 1 capacity ≤ powerAbove (max 1 capacity) := (powerAbove_isLeast capacity).1.1
    omega
  rw [sentOn_step, heardBy_step, logged_sent s hbefore r, logged_heard s there hbefore, ring_onBus]
  show ReceiverAccounts _ _ _ _ (held? (s.apply run.now) r)
  rw [held_apply h.seated s there hbefore]
  exact accounts_part account room (h.counted seat.1) (s.part run.now r seat.1)

lemma booked_step (h : Booked run) (s : ExchangeStep) : Booked (run.step s) where
  seated := seated_apply h.seated s
  rings := rings_step h s
  published := by
    intro n b hb
    rw [sentOn_step, List.length_append]
    rcases buses_step s hb with ⟨before, there, rfl⟩ | ⟨new, zero⟩
    · rw [published_onBus s there, h.published n before there]
    · rw [h.unsent n new, logged_sent_nowhere s new, zero]
      rfl
  unsent := by
    intro n none
    have longer := length_apply s run.now
    have short : (s.apply run.now).buses.length ≤ n := none
    have none : run.now.buses.length ≤ n := by omega
    rw [sentOn_step, h.unsent n none, logged_sent_nowhere s none]
    rfl
  counted := counted_step h s
  unheard := by
    intro r none
    have short : (s.apply run.now).receivers.length ≤ r := none
    rw [apply_eq, List.length_append] at short
    rw [heardBy_step, progress_nobody s (Nat.le_of_add_right_le short)]
    exact h.unheard r (Nat.le_of_add_right_le short)
  starts := by
    show (run.starts ++ _).length = (s.apply run.now).receivers.length
    rw [apply_eq, List.length_append, List.length_append, List.length_map, h.starts]
  accounts := by
    intro r seat b start hr hb hstart
    by_cases new : run.now.receivers.length ≤ r
    · exact accounts_newcomer h new hr hstart b.ring
    · exact accounts_resident h (Nat.lt_of_not_le new) hr hb hstart

lemma booked_steps (h : Booked run) (schedule : List ExchangeStep) : Booked (run.steps schedule) := by
  induction schedule generalizing run with
  | nil => exact h
  | cons s schedule ih => exact ih (booked_step h s)

lemma welcomed (h : Booked run) {handle : Nat} (hh : run.now.handles[handle]? = some n) :
    ∃ seat, seat.1 = n ∧
      (run.step (.subscribe handle)).now.receivers = run.now.receivers ++ [seat] ∧
        held? (run.step (.subscribe handle)).now run.now.receivers.length = some .fresh := by
  have there := h.seated.handles n (List.mem_of_getElem? hh)
  have came : seated run.now (.subscribe handle) = [(n, run.now.buses[n].subscribed)] := by
    rw [seated, hh, Option.bind_some, List.getElem?_eq_getElem there]
    rfl
  have receivers : (apply run.now (.subscribe handle)).receivers =
      run.now.receivers ++ [(n, run.now.buses[n].subscribed)] := by
    rw [apply_eq, came]
  refine ⟨_, rfl, receivers, ?_⟩
  show held? (apply run.now (.subscribe handle)) _ = _
  rw [held_newcomer _ (Nat.le_refl _), receivers, List.getElem?_concat_length, Option.map_some]

lemma delivered (h : Booked run) {seat : Nat × Nat} {held : Receiver}
    (hr : run.now.receivers[r]? = some seat) (hb : run.now.buses[seat.1]? = some b)
    (holds : held? run.now r = some held) : ∃ x after, TakesNext b.publishers held x after ∧
      (run.step (.receive r)).heardBy r = run.heardBy r ++ [x] ∧
        held? (run.step (.receive r)).now r = some after := by
  have reads : part run.now r seat.1 (.receive r) = .reads := if_pos rfl
  refine ⟨_, _, receive_takesNext b.publishers held, ?_, ?_⟩
  · rw [heardBy_step, logged_heard _ hr hb, reads, holds]
    rfl
  · show held? (apply run.now (.receive r)) r = _
    rw [held_apply h.seated _ hr hb, reads, holds]
    rfl

lemma booked_accounts (h : Booked run) : AccountsKept run where
  counted := h.counted
  welcomes := fun _ _ => welcomed h
  delivers := fun _ _ _ _ => delivered h
  stamped := by
    intro handle n e hh
    have hb := List.getElem?_eq_getElem (h.seated.handles n (List.mem_of_getElem? hh))
    have part : ExchangeStep.part run.now 0 n (.publish handle e) = .comes e := if_pos hh
    rw [sentOn_step, logged_sent _ hb 0, part, h.published n _ hb]
    rfl
  receivers := by
    intro r seat hr
    obtain ⟨b, hb, -⟩ := h.seated.receivers seat (List.mem_of_getElem? hr)
    obtain ⟨capacity, hcapacity, ring⟩ := ring_found h hb
    have started : r < run.starts.length := h.starts ▸ (List.getElem?_eq_some_iff.1 hr).1
    have start := List.getElem?_eq_getElem started
    have account := h.accounts r seat b _ hr hb start
    rw [ring] at account
    exact ⟨_, capacity, _, start, hcapacity, powerAbove_isLeast capacity, account⟩

/-! ## Receivers among themselves -/

/-- No receiver acts in the step but one that is kept. -/
def ExchangeStep.keptBy (keep : Nat → Bool) (s : ExchangeStep) : Bool := s.actor?.all keep

/-- Two runs have sent the same, and the receivers that are kept have heard the same in both. -/
structure SameFor (keep : Nat → Bool) (run other : ExchangeRun) : Prop where
  sent : other.sent = run.sent
  starts : other.starts = run.starts
  heard : ∀ r, keep r = true → other.heardBy r = run.heardBy r

/-- Two runs that differ only in what receivers hold that are not kept. -/
structure Alike (keep : Nat → Bool) (run other : ExchangeRun) : Prop extends
    SameFor keep run other where
  buses : other.now.buses.map bare = run.now.buses.map bare
  handles : other.now.handles = run.now.handles
  receivers : other.now.receivers = run.now.receivers
  held : ∀ r, keep r = true → held? other.now r = held? run.now r

section Alike

variable {x y : Exchange} {b' : Bus} {s : ExchangeStep}

lemma bare_found (h : y.buses.map bare = x.buses.map bare) (n : Nat) :
    y.buses[n]?.map bare = x.buses[n]?.map bare := by
  rw [← List.getElem?_map, ← List.getElem?_map, h]

/-- What can be seen of a bus without its receivers. -/
lemma seen_found {α : Type} (h : y.buses.map bare = x.buses.map bare) (n : Nat) {f : Bus → α}
    (seen : ∀ b, f (bare b) = f b) : y.buses[n]?.map f = x.buses[n]?.map f := by
  have through (found : Option Bus) : found.map f = (found.map bare).map f := by
    rw [Option.map_map]
    congr 1
    funext b
    exact (seen b).symm
  rw [through, bare_found h n, ← through]

lemma bare_onBus (s : ExchangeStep) (handles : y.handles = x.handles)
    (receivers : y.receivers = x.receivers) (n : Nat) (h : bare b' = bare b) :
    bare (s.onBus y n b') = bare (s.onBus x n b) := by
  have target : s.bus? y = s.bus? x := by
    cases s <;> simp only [bus?, handles, receivers]
  unfold ExchangeStep.onBus
  rw [target]
  split
  · cases hs : s.actor? with
    | some r => rw [bare_change_actor hs, bare_change_actor hs, h]
    | none => rw [bare_change hs y y b', h, ← bare_change hs x y b]
  · exact h

lemma bare_apply (s : ExchangeStep) (h : y.buses.map bare = x.buses.map bare)
    (handles : y.handles = x.handles) (receivers : y.receivers = x.receivers) :
    (s.apply y).buses.map bare = (s.apply x).buses.map bare := by
  have old : (y.buses.mapIdx (s.onBus y)).map bare = (x.buses.mapIdx (s.onBus x)).map bare := by
    ext1 n
    have same := bare_found h n
    rw [List.getElem?_map, List.getElem?_mapIdx, List.getElem?_map, List.getElem?_mapIdx]
    cases hx : x.buses[n]? with
    | none =>
      rw [hx, Option.map_none, Option.map_eq_none_iff] at same
      rw [same]
      rfl
    | some b =>
      rw [hx] at same
      obtain ⟨b', hy, bares⟩ := Option.map_eq_some_iff.1 same
      rw [hy]
      exact congrArg some (bare_onBus s handles receivers n bares)
  rw [apply_eq, apply_eq, List.map_append, List.map_append, old]

lemma handed_alike (s : ExchangeStep) (h : y.buses.map bare = x.buses.map bare)
    (handles : y.handles = x.handles) : s.handed y = s.handed x := by
  have length := congrArg List.length h
  rw [List.length_map, List.length_map] at length
  cases s <;> simp only [handed, handles, length]

lemma seated_alike (s : ExchangeStep) (h : y.buses.map bare = x.buses.map bare)
    (handles : y.handles = x.handles) : s.seated y = s.seated x := by
  cases s with
  | subscribe handle =>
    simp only [seated, handles]
    congr 2
    funext n
    exact seen_found h n fun _ => rfl
  | _ => rfl

lemma sent_alike (s : ExchangeStep) (h : y.buses.map bare = x.buses.map bare)
    (handles : y.handles = x.handles) : s.sent y = s.sent x := by
  cases s with
  | publish handle e =>
    simp only [ExchangeStep.sent, handles]
    congr 2
    funext n
    exact seen_found h n fun _ => rfl
  | _ => rfl

lemma part_alike (s : ExchangeStep) (handles : y.handles = x.handles) (r n : Nat) :
    s.part y r n = s.part x r n := by
  cases s <;> simp only [ExchangeStep.part, handles]

/-- What a step is for a receiver does not depend on who else is on the bus. -/
lemma part_bare (p : Part) (h : bare b' = bare b) (held : Option Receiver) :
    p.held b' held = p.held b held ∧ p.heard b' held = p.heard b held := by
  have through (b : Bus) : p.held b held = p.held (bare b) held ∧
      p.heard b held = p.heard (bare b) held := by
    cases p <;> cases held <;> exact ⟨rfl, rfl⟩
  rw [(through b').1, (through b').2, h, ← (through b).1, ← (through b).2]
  exact ⟨rfl, rfl⟩

lemma kept_alike {keep : Nat → Bool} (h : Alike keep run other) (hx : Seated run.now)
    (hy : Seated other.now) (s : ExchangeStep) (kept : keep r = true) :
    held? (s.apply other.now) r = held? (s.apply run.now) r ∧
      logged (s.heard other.now) r = logged (s.heard run.now) r := by
  cases hr : run.now.receivers[r]? with
  | none =>
    have hr' : other.now.receivers[r]? = none := h.receivers ▸ hr
    rw [held_newcomer s (List.getElem?_eq_none_iff.1 hr),
      held_newcomer s (List.getElem?_eq_none_iff.1 hr'),
      logged_heard_nobody s hr 0 default, logged_heard_nobody s hr' 0 default, part_alike s h.handles]
    have seats : (s.apply other.now).receivers = (s.apply run.now).receivers := by
      rw [apply_eq, apply_eq, h.receivers, seated_alike s h.buses h.handles]
    exact ⟨by rw [seats], rfl⟩
  | some seat =>
    have hr' : other.now.receivers[r]? = some seat := h.receivers ▸ hr
    obtain ⟨b, hb, -⟩ := hx.receivers seat (List.mem_of_getElem? hr)
    obtain ⟨b', hb', -⟩ := hy.receivers seat (List.mem_of_getElem? hr')
    have bares := bare_found h.buses seat.1
    rw [hb, hb'] at bares
    obtain ⟨held, heard⟩ :=
      part_bare (s.part run.now r seat.1) (Option.some.inj bares) (held? run.now r)
    rw [held_apply hx s hr hb, held_apply hy s hr' hb', logged_heard s hr hb, logged_heard s hr' hb',
      part_alike s h.handles, h.held r kept]
    exact ⟨held, heard⟩

lemma alike_step {keep : Nat → Bool} (h : Alike keep run other) (hx : Seated run.now)
    (hy : Seated other.now) (s : ExchangeStep) : Alike keep (run.step s) (other.step s) where
  sent := by
    show other.sent ++ _ = run.sent ++ _
    rw [h.sent, sent_alike s h.buses h.handles]
  starts := by
    show other.starts ++ _ = run.starts ++ _
    rw [h.starts, seated_alike s h.buses h.handles]
    simp only [ExchangeRun.sentOn, h.sent]
  heard := by
    intro r kept
    rw [heardBy_step, heardBy_step, h.heard r kept, (kept_alike h hx hy s kept).2]
  buses := bare_apply s h.buses h.handles h.receivers
  handles := by
    show (s.apply other.now).handles = (s.apply run.now).handles
    rw [apply_eq, apply_eq, h.handles, handed_alike s h.buses h.handles]
  receivers := by
    show (s.apply other.now).receivers = (s.apply run.now).receivers
    rw [apply_eq, apply_eq, h.receivers, seated_alike s h.buses h.handles]
  held := fun r kept => (kept_alike h hx hy s kept).1

lemma apply_actor {actor : Nat} (hs : s.actor? = some actor) (x : Exchange) :
    s.apply x = { x with buses := x.buses.mapIdx (s.onBus x) } ∧
      (s.apply x).buses.map bare = x.buses.map bare := by
  have nothing : s.capacities = [] ∧ s.handed x = [] ∧ s.seated x = [] := by
    cases s <;> first | exact ⟨rfl, rfl, rfl⟩ | cases hs
  have same : s.apply x = { x with buses := x.buses.mapIdx (s.onBus x) } := by
    rw [apply_eq, nothing.1, nothing.2.1, nothing.2.2, List.map_nil, List.append_nil, List.append_nil,
      List.append_nil]
  refine ⟨same, ?_⟩
  rw [same]
  exact map_onBus (bare_onBus_actor hs)

lemma quiet_actor {actor : Nat} (hs : s.actor? = some actor) (x : Exchange) :
    s.sent x = [] ∧ s.seated x = [] ∧ ∀ r, actor ≠ r → logged (s.heard x) r = [] ∧
      ∀ n, s.part x r n = .rests := by
  cases s with
  | dropReceiver receiver =>
    cases hs
    exact ⟨rfl, rfl, fun r apart => ⟨rfl, fun _ => if_neg apart⟩⟩
  | receive receiver =>
    cases hs
    refine ⟨rfl, rfl, fun r apart => ⟨?_, fun _ => if_neg apart⟩⟩
    rw [ExchangeStep.heard, logged_one, if_neg apart]
  | _ => cases hs

/-- A step of a receiver that is not kept is nothing to the others. -/
lemma alike_ahead {keep : Nat → Bool} (h : Alike keep run other) (hx : Seated run.now) {actor : Nat}
    (hs : s.actor? = some actor) (dropped : keep actor = false) : Alike keep (run.step s) other := by
  obtain ⟨same, bares⟩ := apply_actor hs run.now
  obtain ⟨sent, seated, others⟩ := quiet_actor hs run.now
  have apart {r : Nat} (kept : keep r = true) : actor ≠ r := by
    rintro rfl
    rw [dropped] at kept
    cases kept
  refine ⟨⟨?_, ?_, ?_⟩, ?_, ?_, ?_, ?_⟩
  · show other.sent = run.sent ++ s.sent run.now
    rw [sent, List.append_nil, h.sent]
  · show other.starts = run.starts ++ _
    rw [seated, List.map_nil, List.append_nil, h.starts]
  · intro r kept
    rw [heardBy_step, (others r (apart kept)).1, List.append_nil, h.heard r kept]
  · exact h.buses.trans bares.symm
  · show other.now.handles = (s.apply run.now).handles
    rw [same, h.handles]
  · show other.now.receivers = (s.apply run.now).receivers
    rw [same, h.receivers]
  · intro r kept
    rw [h.held r kept]
    show _ = held? (s.apply run.now) r
    cases hr : run.now.receivers[r]? with
    | none =>
      rw [held_newcomer s (List.getElem?_eq_none_iff.1 hr), same, hr, held?, hr]
      rfl
    | some seat =>
      obtain ⟨b, hb, -⟩ := hx.receivers seat (List.mem_of_getElem? hr)
      rw [held_apply hx s hr hb, (others r (apart kept)).2]
      rfl

lemma alike_steps {keep : Nat → Bool} (h : Alike keep run other) (hx : Seated run.now)
    (hy : Seated other.now) (schedule : List ExchangeStep) :
    Alike keep (run.steps schedule) (other.steps (schedule.filter (keptBy keep))) := by
  induction schedule generalizing run other with
  | nil => exact h
  | cons s schedule ih =>
    by_cases kept : s.keptBy keep = true
    · rw [List.filter_cons_of_pos kept]
      exact ih (alike_step h hx hy s) (seated_apply hx s) (seated_apply hy s)
    · rw [List.filter_cons_of_neg kept]
      cases hs : s.actor? with
      | none =>
        rw [keptBy, hs] at kept
        exact absurd rfl kept
      | some actor =>
        rw [keptBy, hs] at kept
        exact ih (alike_ahead h hx hs (Bool.eq_false_of_not_eq_true kept)) (seated_apply hx s) hy

end Alike

end Runs

/-- Whatever is done with buses, their handles and their receivers, the accounts are kept. And whichever
receivers are kept, it is the same for them and for the numbers of events as if the others never read
and never left. -/
theorem bus_accounts (schedule : List ExchangeStep) (keep : Nat → Bool) :
    AccountsKept (ExchangeRun.start.steps schedule) ∧
      SameFor keep (ExchangeRun.start.steps schedule)
        (ExchangeRun.start.steps (schedule.filter (ExchangeStep.keptBy keep))) := by
  have alike : Alike keep .start .start := ⟨⟨rfl, rfl, fun _ _ => rfl⟩, rfl, rfl, rfl, fun _ _ => rfl⟩
  have same := alike_steps alike seated_empty seated_empty schedule
  exact ⟨booked_accounts (booked_steps booked_start schedule), same.toSameFor⟩

/-- A bus of capacity three keeps four of six events, so that its receiver has lost two when it reads. -/
example (e : Event) :
    (ExchangeRun.start.steps ([.addBus 3, .subscribe 0] ++ List.replicate 6 (.publish 0 e) ++
      [.receive 0, .receive 0])).heardBy 0 = [.lagged 2, .event { e with seq := 3 }] := by
  cbv

end SteadyLink.Proofs
