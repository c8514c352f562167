import SteadyLink.Proofs.Broadcasts
import SteadyLink.Proofs.EventTrace
import SteadyLink.Proofs.Journeys

/-!
# Those who listen to a client

What a step of a client is to those who do not take it. `Aired` says which events are published in a
step and what becomes of the hooks and of the receivers that the client reads itself; `Wired` says that
no two of them share a receiver.
-/

namespace SteadyLink.Proofs

/-! ## What is published in a step -/

/-- The events that the effect of a turn puts on the bus, before they are numbered. -/
inductive Tells (s : Client) : Effect → List Event → Prop
  | event {e : Effect} {event : Event} (shown : e.event? = some event) :
    Tells s e [unnumbered event]
  | dispatch {e : Envelope} {marks : List Mark} (delivered : Delivered s.hub e marks) :
    Tells s (.dispatch e) (reports marks)
  | nothing {e : Effect} (unshown : e.event? = none) (other : ∀ m, e ≠ .dispatch m) : Tells s e []

/-- The events of effects that come about one after another. -/
inductive TellsAll : Client → List Effect → List Event → Prop
  | nil {s : Client} : TellsAll s [] []
  | cons {s : Client} {e : Effect} {rest : List Effect} {es fs : List Event} (tells : Tells s e es)
      (later : TellsAll (s.apply e) rest fs) : TellsAll s (e :: rest) (es ++ fs)

/-- What a worker that is done with an event has to report. -/
def workerReport? (now : Instant) (w : Worker) : Option Event :=
  (w.finish? now).bind fun done => done.2.report? done.1

/-- The reports that a task makes with its next step, before they are numbered. -/
def taskReports (s : Client) : Task → List Event
  | .listener =>
    if s.listening = .reading then
      match s.listener.map fun id => (s.hub.bus.receive id).1 with
      | some (.event e) => (s.observers.emit e).1
      | _ => []
    else []
  | .worker number => ((s.observers[number]?).bind (workerReport? s.hub.now)).toList
  | _ => []

/-! ## Hooks and receivers -/

def receiverOf? (h : Hook) : Option Nat :=
  match h.source with
  | .transitions _ => none
  | .faults receiver => some receiver

/-- The receiver that is read in a step, if it is one of the client's own. -/
def reader? (s : Client) : Choice → Option Nat
  | .work .listener => s.listener
  | .work (.hook i) => (s.hooks[i]?).bind receiverOf?
  | _ => none

/-- The hook that runs in a step. -/
def runner? : Choice → Option Nat
  | .work (.hook i) => some i
  | _ => none

/-- The hook whose end is asked for. -/
def removed? : Choice → Option Nat
  | .deed (.removeHook i) => some i
  | _ => none

def transition? (e : Event) : Option (ConnectionState × ConnectionState) :=
  if e.kind = .stateChanged then
    match e.source, e.target with
    | some source, some target => some (source, target)
    | _, _ => none
  else none

/-- A hook after a step of somebody else, in which these events were published. -/
def overheard (es : List Event) (removal : Bool) (h : Hook) : Hook :=
  { h with
    source :=
      match h.source with
      | .transitions queue =>
        .transitions (if h.running then queue ++ es.filterMap transition? else queue)
      | .faults receiver => .faults receiver
    removed := h.removed || removal }

/-- The hook has its receiver as long as it runs. -/
def Attached (s : Client) (h : Hook) : Prop :=
  h.running = true → ∀ id, receiverOf? h = some id → ∃ r, s.hub.bus.receivers.get? id = some r

/-- What becomes of a client's own receivers. -/
inductive Rewired (s s' : Client) : Prop
  | fewer (own : (ownReceivers s').Sublist (ownReceivers s))
  | more (own : ownReceivers s' = ownReceivers s ++ [s.hub.bus.subscribed])
      (next : s'.hub.bus.subscribed = s.hub.bus.subscribed + 1)

/-- What a step is to all who do not take it. -/
structure Aired (s : Client) (choice : Choice) (es : List Event) (s' : Client) : Prop where
  hub : Airs (fun id => id ∈ ownReceivers s ∧ reader? s choice ≠ some id)
    (fun i => runner? choice ≠ some i) s.hub es s'.hub
  length : s.hooks.length ≤ s'.hooks.length
  hooks : ∀ i < s.hooks.length, runner? choice ≠ some i →
    s'.hooks[i]? = (s.hooks[i]?).map (overheard es (removed? choice = some i))
  newcomers : ∀ i h, s.hooks.length ≤ i → s'.hooks[i]? = some h → Attached s' h
  rewired : Rewired s s'
  /-- The tasks report, the supervisor tells of its effects, and nobody else publishes anything. -/
  work : ∀ t, choice = .work t → es.map unnumbered = taskReports s t
  turn : ∀ stimulus, stimulusOf? s choice = some stimulus → ∃ draw effects rest,
    s.supervisor.step s.config s.hub.now draw stimulus = some (s'.supervisor, effects) ∧
      (request? stimulus).toList ++ rest = s.hub.mailbox ∧
      TellsAll (stepped s rest s'.supervisor) effects (es.map unnumbered)
  rest : (∀ t, choice ≠ .work t) → stimulusOf? s choice = none → es = []
  still : stimulusOf? s choice = none → s'.supervisor = s.supervisor ∧ s'.shutdown = s.shutdown
  ended : ∀ stimulus, stimulusOf? s choice = some stimulus →
    s'.shutdown = (s.shutdown || decide (s'.supervisor.phase = .exited))

/-- No two parts of a client share a receiver, and what is there to stay is there. -/
structure Wired (s : Client) : Prop where
  distinct : (ownReceivers s).Nodup
  known : ∀ id ∈ ownReceivers s, id < s.hub.bus.subscribed
  publishers : s.hub.bus.publishers ≠ 0
  listed : Listed s.hub
  aligned : Aligned s.supervisor
  ended : s.shutdown = true ↔ s.supervisor.phase = .exited
  /-- Hooks that are not there have not been called. -/
  unheard : ∀ i, s.hooks.length ≤ i → noticed s.hub i = []

section Overheard

variable (h : Hook) (es fs : List Event)

lemma transitions_unnumbered :
    (es.map unnumbered).filterMap transition? = es.filterMap transition? := by
  rw [List.filterMap_map]
  rfl

lemma overheard_quiet (hes : es.filterMap transition? = []) : overheard es false h = h := by
  obtain ⟨source, pass, removed, running, panic⟩ := h
  cases source <;> simp [overheard, hes]

lemma overheard_append : overheard fs false (overheard es false h) = overheard (es ++ fs) false h := by
  obtain ⟨source, pass, removed, running, panic⟩ := h
  cases source <;> cases running <;> simp [overheard]

lemma notify_overheard (source target : ConnectionState) (n : Nat) :
    h.notify source target =
      overheard [{ Event.stateChanged source target with seq := n }] false h := by
  obtain ⟨hookSource, pass, removed, running, panic⟩ := h
  cases hookSource <;> cases running <;>
    simp [overheard, Hook.notify, transition?, Event.stateChanged, Event.ofKind]

lemma receiverOf_overheard (removal : Bool) : receiverOf? (overheard es removal h) = receiverOf? h := by
  obtain ⟨source, pass, removed, running, panic⟩ := h
  cases source <;> rfl

end Overheard

lemma receivers_same {hooks hooks' : List Hook}
    (h : ∀ j : Nat, (hooks'[j]?).map receiverOf? = (hooks[j]?).map receiverOf?) :
    hooks'.filterMap receiverOf? = hooks.filterMap receiverOf? := by
  have hmap : hooks'.map receiverOf? = hooks.map receiverOf? := by
    refine List.ext_getElem? fun j => ?_
    rw [List.getElem?_map, List.getElem?_map]
    exact h j
  have hflat (hooks : List Hook) : hooks.filterMap receiverOf? = (hooks.map receiverOf?).filterMap id := by
    rw [List.filterMap_map]
    rfl
  rw [hflat, hflat, hmap]

lemma newcomers_none {s s' : Client} (hlength : s'.hooks.length = s.hooks.length) (i : Nat) (h : Hook)
    (hi : s.hooks.length ≤ i) (hh : s'.hooks[i]? = some h) : Attached s' h := by
  obtain ⟨hlt, -⟩ := List.getElem?_eq_some_iff.mp hh
  omega

/-! ## Deeds -/

section Deeds

variable {s : Client} {choice : Choice}

/-- Only the hub changes, and nothing is published. -/
lemma aired_silent (hw : ∀ t, choice = .work t → taskReports s t = [])
    (hst : stimulusOf? s choice = none) (hr : removed? choice = none) (hub : Hub)
    (h : Airs (· ∈ ownReceivers s) (fun _ => True) s.hub [] hub) :
    Aired s choice [] { s with hub } where
  hub := airs_mono h (fun _ _ hid => hid.1) fun _ _ => trivial
  length := Nat.le_refl _
  hooks := by
    intro i _ _
    rw [hr]
    show s.hooks[i]? = _
    cases s.hooks[i]? with
    | none => rfl
    | some g => exact congrArg some (overheard_quiet g [] rfl).symm
  newcomers := newcomers_none rfl
  rewired := .fewer (List.Sublist.refl _)
  work := fun t ht => (hw t ht).symm
  turn := by
    intro stimulus hsome
    rw [hst] at hsome
    cases hsome
  rest := fun _ _ => rfl
  still := fun _ => ⟨rfl, rfl⟩
  ended := by
    intro stimulus hsome
    rw [hst] at hsome
    cases hsome

lemma aired_deed_silent {d : Deed} (hr : removed? (.deed d) = none) (hub : Hub)
    (h : Airs (· ∈ ownReceivers s) (fun _ => True) s.hub [] hub) :
    Aired s (.deed d) [] { s with hub } :=
  aired_silent (by simp) rfl hr hub h

lemma subscribe_there (bus : Bus) :
    bus.subscribe.2.receivers.get? bus.subscribed = some .fresh := by
  show (bus.receivers.insert bus.subscribed .fresh).get? bus.subscribed = _
  rw [Table.get?_insert, if_pos rfl]

lemma aired_addHook {d : Deed} (hr : removed? (.deed d) = none) (hub : Hub) (g : Hook)
    (h : Airs (· ∈ ownReceivers s) (fun _ => True) s.hub [] hub)
    (hg : receiverOf? g = none ∨ receiverOf? g = some s.hub.bus.subscribed ∧
      hub.bus.subscribed = s.hub.bus.subscribed + 1 ∧
      hub.bus.receivers.get? s.hub.bus.subscribed = some .fresh) :
    Aired s (.deed d) [] { s with hub, hooks := s.hooks ++ [g] } where
  hub := airs_mono h (fun _ _ hid => hid.1) fun _ _ => trivial
  length := by simp
  hooks := by
    intro i hi _
    rw [hr]
    show (s.hooks ++ [g])[i]? = _
    rw [List.getElem?_append_left hi]
    cases s.hooks[i]? with
    | none => rfl
    | some g => exact congrArg some (overheard_quiet g [] rfl).symm
  newcomers := by
    intro i h hi hh
    have hlast : h = g := by
      have hh : (s.hooks ++ [g])[i]? = some h := hh
      rw [List.getElem?_append_right hi] at hh
      exact List.mem_singleton.mp (List.mem_of_getElem? hh)
    intro _ id hid
    rw [hlast] at hid
    rcases hg with hg | ⟨hg, -, hthere⟩
    · rw [hg] at hid
      cases hid
    · rw [hg] at hid
      obtain rfl := Option.some.inj hid
      exact ⟨_, hthere⟩
  rewired := by
    have hown : ownReceivers { s with hub, hooks := s.hooks ++ [g] } =
        ownReceivers s ++ (receiverOf? g).toList := by
      show s.listener.toList ++ (s.hooks ++ [g]).filterMap receiverOf? =
        (s.listener.toList ++ s.hooks.filterMap receiverOf?) ++ _
      cases hv : receiverOf? g <;> simp [hv]
    rcases hg with hg | ⟨hg, hnext, -⟩
    · rw [hg, Option.toList_none, List.append_nil] at hown
      exact .fewer (hown ▸ List.Sublist.refl _)
    · rw [hg] at hown
      exact .more hown hnext
  work := by simp
  turn := nofun
  rest := fun _ _ => rfl
  still := fun _ => ⟨rfl, rfl⟩
  ended := nofun

lemma aired_removeHook (i : Nat) : Aired s (.deed (.removeHook i)) [] (s.removeHook i) where
  hub := airs_refl s.hub
  length := Nat.le_of_eq (List.length_modify _ _ _).symm
  hooks := by
    intro j _ _
    show (s.hooks.modify i _)[j]? = _
    rw [List.getElem?_modify]
    cases hg : s.hooks[j]? with
    | none => rfl
    | some g =>
      have quiet := overheard_quiet g [] rfl
      by_cases hij : i = j
      · obtain ⟨source, pass, removed, running, panic⟩ := g
        cases source <;> simp [removed?, hij, overheard]
      · simp [removed?, hij, quiet]
  newcomers := newcomers_none (List.length_modify _ _ _)
  rewired := by
    have hsame : (s.removeHook i).hooks.filterMap receiverOf? = s.hooks.filterMap receiverOf? := by
      refine receivers_same fun j => ?_
      show ((s.hooks.modify i _)[j]?).map receiverOf? = _
      rw [List.getElem?_modify]
      cases s.hooks[j]? <;> by_cases hij : i = j <;> simp [hij, receiverOf?]
    exact .fewer (List.Sublist.append (List.Sublist.refl _) (hsame ▸ List.Sublist.refl _))
  work := by simp
  turn := nofun
  rest := fun _ _ => rfl
  still := fun _ => ⟨rfl, rfl⟩
  ended := nofun

lemma airs_dropFeed {hears silent : Nat → Prop} (hub : Hub) (number : Nat) :
    Airs hears silent hub [] (hub.dropFeed number) := by
  unfold Hub.dropFeed
  split
  case h_1 => exact airs_refl hub
  case h_2 f hf =>
    refine airs_kept rfl rfl fun listed => ?_
    exact listed_unsubscribe _ _ (listed_unsubscribe _ _ listed)

lemma airs_attachFeed {hears silent : Nat → Prop} (hub : Hub) (category : MetricsCategory)
    (refresh : Duration) : Airs hears silent hub [] (hub.attachFeed category refresh).2 := by
  refine airs_kept rfl rfl fun listed => ?_
  exact listed_insert _ _ _ (listed_insert _ _ _ listed)

theorem aired_deed (s : Client) (d : Deed) : Aired s (.deed d) [] (act s d) := by
  have keep {d : Deed} (hr : removed? (.deed d) = none) : Aired s (.deed d) [] s :=
    aired_deed_silent hr s.hub (airs_refl s.hub)
  cases d with
  | call c => exact aired_deed_silent rfl _ (airs_call s.hub c)
  | attachFeed category refresh =>
    by_cases hh : s.hub.handles = 0
    · simpa [act, hh] using keep rfl
    · simp only [act, if_neg hh]
      exact aired_deed_silent rfl _ (airs_attachFeed s.hub category refresh)
  | seed number snapshot =>
    simp only [act]
    split
    case h_1 => exact aired_deed_silent rfl _ (airs_kept rfl rfl id)
    case h_2 => exact keep rfl
  | latest number =>
    simp only [act]
    split
    case h_1 => exact aired_deed_silent rfl _ (airs_kept rfl rfl id)
    case h_2 => exact keep rfl
  | requestNow number =>
    simp only [act]
    split
    case h_1 => exact aired_deed_silent rfl _ (airs_post s.hub _)
    case h_2 => exact keep rfl
  | dropFeed number => exact aired_deed_silent rfl _ (airs_dropFeed s.hub number)
  | onState panic =>
    by_cases hh : s.hub.handles = 0
    · simpa [act, hh] using keep rfl
    · simp only [act, if_neg hh]
      exact aired_addHook rfl s.hub _ (airs_refl s.hub) (Or.inl rfl)
  | onError panic =>
    by_cases hh : s.hub.handles = 0
    · simpa [act, hh] using keep rfl
    · simp only [act, if_neg hh]
      exact aired_addHook rfl _ _ (airs_subscribe s.hub) (Or.inr ⟨rfl, rfl, subscribe_there s.hub.bus⟩)
  | removeHook i => exact aired_removeHook i
  | watch =>
    by_cases hh : s.hub.handles = 0
    · simpa [act, hh] using keep rfl
    · simp only [act, if_neg hh]
      exact aired_deed_silent rfl _ (airs_subscribe s.hub)
  | read receiver =>
    by_cases hr : receiver ∈ ownReceivers s
    · simpa [act, hr] using keep rfl
    · simp only [act, if_neg hr]
      refine aired_deed_silent rfl _ (airs_receive s.hub receiver ?_)
      rintro id hid rfl
      exact hr hid
  | leave receiver =>
    by_cases hr : receiver ∈ ownReceivers s
    · simpa [act, hr] using keep rfl
    · simp only [act, if_neg hr]
      refine aired_deed_silent rfl _ (airs_dropReceiver s.hub receiver ?_)
      rintro id hid rfl
      exact hr hid
  | cloneHandle =>
    by_cases hh : s.hub.handles = 0
    · simpa [act, hh] using keep rfl
    · simp only [act, if_neg hh]
      exact aired_deed_silent rfl _ (airs_kept rfl rfl id)
  | dropHandle => exact aired_deed_silent rfl _ (airs_kept rfl rfl id)

end Deeds

/-! ## Tasks -/

section Tasks

variable {s s' : Client}

lemma publishAll_rest (events : List Event) (s : Client) :
    (events.foldl Client.publish s).hooks = s.hooks ∧
      (events.foldl Client.publish s).observers = s.observers ∧
      (events.foldl Client.publish s).listener = s.listener ∧
      (events.foldl Client.publish s).listening = s.listening ∧
      (events.foldl Client.publish s).supervisor = s.supervisor ∧
      (events.foldl Client.publish s).shutdown = s.shutdown := by
  induction events generalizing s with
  | nil => exact ⟨rfl, rfl, rfl, rfl, rfl, rfl⟩
  | cons e events ih => exact ih (s.publish e)

lemma airs_publishAll {hears silent : Nat → Prop} (events : List Event) (s : Client) :
    ∃ es, Airs hears silent s.hub es (events.foldl Client.publish s).hub ∧
      es.map unnumbered = events.map unnumbered := by
  induction events generalizing s with
  | nil => exact ⟨[], airs_refl _, rfl⟩
  | cons e events ih =>
    obtain ⟨es, h, hes⟩ := ih (s.publish e)
    refine ⟨_, airs_trans (airs_publish s.hub e) h, ?_⟩
    rw [List.map_append, hes]
    rfl

lemma emit_reports {observers : ObserverSet} {e r : Event} (hr : r ∈ (observers.emit e).1) :
    ∃ name, r = .observerOverflow name "full" := by
  unfold ObserverSet.emit at hr
  by_cases ho : e.isObserverOverflow = true
  · simp [ho] at hr
  · simp only [if_neg ho, List.mem_map] at hr
    obtain ⟨name, -, rfl⟩ := hr
    exact ⟨name, rfl⟩

lemma emit_unnumbered (observers : ObserverSet) (e : Event) :
    (observers.emit e).1.map unnumbered = (observers.emit e).1 := by
  refine (List.map_congr_left fun r hr => ?_).trans (List.map_id _)
  obtain ⟨name, rfl⟩ := emit_reports hr
  rfl

lemma taskReports_kind (s : Client) (t : Task) {e : Event} (he : e ∈ taskReports s t) :
    e.kind = .observerPanicked ∨ e.kind = .observerOverflow := by
  unfold taskReports at he
  split at he
  case h_1 =>
    split at he
    case isTrue =>
      split at he
      case h_1 =>
        obtain ⟨name, rfl⟩ := emit_reports he
        exact Or.inr rfl
      case h_2 => cases he
    case isFalse => cases he
  case h_2 =>
    obtain ⟨w, -, hw⟩ := Option.bind_eq_some_iff.mp (Option.mem_toList.mp he)
    obtain ⟨done, -, hdone⟩ := Option.bind_eq_some_iff.mp hw
    obtain ⟨p, -, rfl⟩ := Option.map_eq_some_iff.mp hdone
    exact Or.inl rfl
  case h_3 => cases he

lemma taskReports_plain (s : Client) (t : Task) : (taskReports s t).filterMap transition? = [] := by
  rw [List.filterMap_eq_nil_iff]
  intro e he
  unfold transition?
  rw [if_neg]
  rcases taskReports_kind s t he with hk | hk
  · rw [hk]
    exact nofun
  · rw [hk]
    exact nofun

/-- A task that is no hook leaves the hooks alone. -/
lemma aired_task {t : Task} {es : List Event}
    (hub : Airs (fun id => id ∈ ownReceivers s ∧ reader? s (.work t) ≠ some id) (fun _ => True)
      s.hub es s'.hub)
    (reports : es.map unnumbered = taskReports s t) (hooks : s'.hooks = s.hooks)
    (listener : s'.listener = s.listener ∨ s'.listener = none)
    (supervisor : s'.supervisor = s.supervisor) (shutdown : s'.shutdown = s.shutdown) :
    Aired s (.work t) es s' where
  hub := airs_mono hub (fun _ _ => id) fun _ _ => trivial
  length := Nat.le_of_eq (by rw [hooks])
  hooks := by
    intro i _ _
    rw [hooks]
    cases s.hooks[i]? with
    | none => rfl
    | some g =>
      have plain : es.filterMap transition? = [] := by
        rw [← transitions_unnumbered, reports, taskReports_plain]
      exact congrArg some (overheard_quiet g es plain).symm
  newcomers := newcomers_none (by rw [hooks])
  rewired := by
    refine .fewer ?_
    show (s'.listener.toList ++ s'.hooks.filterMap receiverOf?).Sublist
      (s.listener.toList ++ s.hooks.filterMap receiverOf?)
    rw [hooks]
    refine List.Sublist.append ?_ (List.Sublist.refl _)
    rcases listener with hl | hl
    · rw [hl]
    · rw [hl]
      exact List.nil_sublist _
  work := by
    rintro t' ⟨rfl⟩
    exact reports
  turn := nofun
  rest := fun hw => absurd rfl (hw t)
  still := fun _ => ⟨supervisor, shutdown⟩
  ended := nofun

lemma taskReports_hears {id : Nat} {e : Event} (there : s.listener = some id)
    (reading : s.listening = .reading) (found : (s.hub.bus.receive id).1 = .event e) :
    taskReports s .listener = (s.observers.emit e).1 := by
  unfold taskReports
  rw [if_pos reading, there, Option.map_some, found]

lemma taskReports_listener {id : Nat} (there : s.listener = some id)
    (quiet : s.listening ≠ .reading ∨ ∀ e, (s.hub.bus.receive id).1 ≠ .event e) :
    taskReports s .listener = [] := by
  by_cases reading : s.listening = .reading
  · unfold taskReports
    rw [if_pos reading, there, Option.map_some]
    cases found : (s.hub.bus.receive id).1 with
    | event e => exact absurd found (quiet.resolve_left (absurd reading) e)
    | _ => rfl
  · exact if_neg reading

lemma aired_listener (hs : s.stepListener = some s') : ∃ es, Aired s (.work .listener) es s' := by
  have hread {id : Nat} (there : s.listener = some id) :
      Airs (fun id => id ∈ ownReceivers s ∧ reader? s (.work .listener) ≠ some id) (fun _ => True)
        s.hub [] { s.hub with bus := (s.hub.bus.receive id).2 } := by
    refine airs_receive s.hub id ?_
    rintro id ⟨-, hid⟩ rfl
    exact hid there
  cases stepListener_run hs with
  | hears id e there reading found =>
    obtain ⟨es, hub, hes⟩ := airs_publishAll (s.observers.emit e).1
      { s.onHub (fun hub => { hub with bus := (s.hub.bus.receive id).2 }) with
        observers := (s.observers.emit e).2 }
    obtain ⟨hooks, -, listener, -, supervisor, shutdown⟩ := publishAll_rest (s.observers.emit e).1
      { s.onHub (fun hub => { hub with bus := (s.hub.bus.receive id).2 }) with
        observers := (s.observers.emit e).2 }
    rw [emit_unnumbered] at hes
    have reports := hes.trans (taskReports_hears there reading found).symm
    exact ⟨es, aired_task (airs_trans (hread there) hub) reports hooks (Or.inl listener) supervisor
      shutdown⟩
  | skips id n there reading found =>
    have quiet := taskReports_listener there (Or.inr (by simp [found]))
    exact ⟨[], aired_task (hread there) quiet.symm rfl (Or.inl rfl) rfl rfl⟩
  | finds id there reading nothing =>
    have quiet := taskReports_listener there (Or.inr (by simp [nothing]))
    exact ⟨[], aired_task (airs_refl _) quiet.symm rfl (Or.inl rfl) rfl rfl⟩
  | rests id there checking =>
    have quiet := taskReports_listener there (Or.inl (by simp [checking]))
    exact ⟨[], aired_task (airs_refl _) quiet.symm rfl (Or.inl rfl) rfl rfl⟩
  | wakes id there waiting =>
    have quiet := taskReports_listener there (Or.inl (by simp [waiting]))
    exact ⟨[], aired_task (airs_refl _) quiet.symm rfl (Or.inl rfl) rfl rfl⟩
  | leaves id there checking =>
    have quiet := taskReports_listener there (Or.inl (by simp [checking]))
    exact ⟨[], aired_task (airs_refl _) quiet.symm rfl (Or.inr rfl) rfl rfl⟩
  | parts id there reading found =>
    have quiet := taskReports_listener there (Or.inr (by simp [found]))
    exact ⟨[], aired_task (airs_refl _) quiet.symm rfl (Or.inr rfl) rfl rfl⟩

lemma aired_worker {number : Nat} {w : Worker} (hw : s.observers[number]? = some w)
    (hs : s.stepWorker number w = some s') : ∃ es, Aired s (.work (.worker number)) es s' := by
  have hreports : taskReports s (.worker number) = (workerReport? s.hub.now w).toList := by
    show ((s.observers[number]?).bind (workerReport? s.hub.now)).toList = _
    rw [hw, Option.bind_some]
  unfold Client.stepWorker at hs
  split at hs
  case h_1 e w' hf =>
    have hreport : workerReport? s.hub.now w = w'.report? e := by
      unfold workerReport?
      rw [hf, Option.bind_some]
    rw [hreport] at hreports
    have hseen : ∃ s₁ : Client, s₁ = (if w'.observer.isVisible then
        (s.setWorker number w').onHub (·.note (.observed number e.kind)) else s.setWorker number w') ∧
        Airs (fun id => id ∈ ownReceivers s ∧ reader? s (.work (.worker number)) ≠ some id)
          (fun _ => True) s.hub [] s₁.hub ∧ s₁.hooks = s.hooks ∧ s₁.listener = s.listener ∧
        s₁.supervisor = s.supervisor ∧ s₁.shutdown = s.shutdown := by
      by_cases hv : w'.observer.isVisible = true
      · exact ⟨_, (if_pos hv).symm, airs_note s.hub _ (by simp) fun _ _ => rfl, rfl, rfl, rfl, rfl⟩
      · exact ⟨_, (if_neg hv).symm, airs_refl s.hub, rfl, rfl, rfl, rfl⟩
    obtain ⟨s₁, hs₁, hub, hooks, listener, supervisor, shutdown⟩ := hseen
    simp only [← hs₁] at hs
    split at hs
    case h_1 report hr =>
      obtain rfl := Option.some.inj hs
      rw [hr] at hreports
      refine ⟨_, aired_task (airs_trans hub (airs_publish s₁.hub report)) ?_ hooks
        (Or.inl listener) supervisor shutdown⟩
      rw [hreports]
      obtain ⟨p, -, rfl⟩ := Option.map_eq_some_iff.mp hr
      rfl
    case h_2 hr =>
      obtain rfl := Option.some.inj hs
      rw [hr] at hreports
      exact ⟨[], aired_task hub hreports.symm hooks (Or.inl listener) supervisor shutdown⟩
  case h_2 hf =>
    obtain ⟨w', -, rfl⟩ := Option.map_eq_some_iff.mp hs
    have hnone : workerReport? s.hub.now w = none := by
      unfold workerReport?
      rw [hf]
      rfl
    rw [hnone] at hreports
    exact ⟨[], aired_task (airs_refl s.hub) hreports.symm rfl (Or.inl rfl) rfl rfl⟩

lemma aired_feed {number : Nat} {f : MetricsFeed} (hs : s.stepFeed number f = some s') :
    Aired s (.work (.feed number)) [] s' := by
  have hset (hub : Hub) (task : FeedTask)
      (h : Airs (· ∈ ownReceivers s) (fun _ => True) s.hub [] hub) :
      Aired s (.work (.feed number)) [] (Client.setFeedTask { s with hub } number task) :=
    aired_silent (by rintro t ⟨rfl⟩; rfl) rfl rfl _ (airs_trans h (airs_kept rfl rfl id))
  obtain ⟨asks, task, -, rfl⟩ := feed_turn hs
  cases asks with
  | false =>
    rw [← setFeedTask_eq]
    exact hset s.hub task (airs_refl s.hub)
  | true =>
    rw [← requested_eq]
    unfold Client.requestIfOpen
    split
    · exact hset _ task (airs_post s.hub _)
    · exact hset s.hub task (airs_refl s.hub)

/-- A hook that runs leaves the others alone. -/
lemma aired_run {i : Nat} {h : Hook} (h' : Hook) (hh : s.hooks[i]? = some h)
    (hsource : receiverOf? h' = receiverOf? h) (hub : Hub)
    (airs : Airs (fun id => id ∈ ownReceivers s ∧ receiverOf? h ≠ some id) (fun j => i ≠ j) s.hub [] hub) :
    Aired s (.work (.hook i)) [] { s.setHook i h' with hub } := by
  have hget (j : Nat) : (s.hooks.set i h')[j]? = if i = j then some h' else s.hooks[j]? := by
    obtain ⟨hlt, -⟩ := List.getElem?_eq_some_iff.mp hh
    rw [List.getElem?_set, if_pos hlt]
  constructor
  · refine airs_mono airs ?_ ?_
    · rintro id - ⟨hown, hid⟩
      refine ⟨hown, ?_⟩
      rintro hr
      refine hid ?_
      show (s.hooks[i]?).bind receiverOf? = some id
      rw [hh, Option.bind_some, hr]
    · rintro j hj rfl
      exact hj rfl
  · exact Nat.le_of_eq (List.length_set).symm
  · intro j _ hj
    show (s.hooks.set i h')[j]? = _
    rw [hget, if_neg (fun hij => hj (congrArg some hij))]
    cases s.hooks[j]? with
    | none => rfl
    | some g => exact congrArg some (overheard_quiet g [] rfl).symm
  · exact newcomers_none (List.length_set)
  · have hsame : (s.hooks.set i h').filterMap receiverOf? = s.hooks.filterMap receiverOf? := by
      refine receivers_same fun j => ?_
      rw [hget]
      by_cases hij : i = j
      · rw [if_pos hij, ← hij, hh, Option.map_some, Option.map_some, hsource]
      · rw [if_neg hij]
    exact .fewer (List.Sublist.append (List.Sublist.refl _) (hsame ▸ List.Sublist.refl _))
  · rintro t ⟨rfl⟩
    rfl
  · exact nofun
  · exact fun _ _ => rfl
  · exact fun _ => ⟨rfl, rfl⟩
  · exact nofun

lemma aired_endHook {i : Nat} {h : Hook} (hh : s.hooks[i]? = some h) :
    Aired s (.work (.hook i)) [] (s.endHook i h) := by
  unfold Client.endHook
  split
  case h_1 queue hsource =>
    exact aired_run { h with running := false } hh rfl s.hub (airs_refl s.hub)
  case h_2 receiver hsource =>
    refine aired_run { h with running := false } hh rfl _ (airs_dropReceiver s.hub receiver ?_)
    rintro id ⟨-, hid⟩ rfl
    exact hid (by rw [receiverOf?, hsource])

lemma aired_hook {i : Nat} {h : Hook} (hh : s.hooks[i]? = some h)
    (hs : s.stepHook i h = some s') : Aired s (.work (.hook i)) [] s' := by
  have hself : s.setHook i h = s := by
    obtain ⟨hlt, rfl⟩ := List.getElem?_eq_some_iff.mp hh
    show { s with hooks := s.hooks.set i _ } = s
    rw [List.set_getElem_self]
  have passes (pass : Pass) : Aired s (.work (.hook i)) [] (s.setHook i { h with pass }) :=
    aired_run { h with pass } hh rfl s.hub (airs_refl s.hub)
  have hread {id : Nat} (source : h.source = .faults id) :
      Airs (fun id => id ∈ ownReceivers s ∧ receiverOf? h ≠ some id) (fun j => i ≠ j) s.hub []
        { s.hub with bus := (s.hub.bus.receive id).2 } := by
    refine airs_receive s.hub id ?_
    rintro id ⟨-, hid⟩ rfl
    exact hid (by rw [receiverOf?, source])
  cases stepHook_run hs with
  | calls source target rest reading queue =>
    refine aired_run _ hh (by rw [receiverOf?, receiverOf?, queue]) _ (airs_note s.hub _ (by simp) ?_)
    intro j hj
    exact if_neg hj
  | tells id e fault reading source =>
    have told := airs_trans (hread source) (airs_note _ (.errorHookCalled i fault) (by simp)
      fun j hj => if_neg hj)
    have hrun := aired_run h hh rfl _ told
    rw [hself] at hrun
    exact hrun
  | skips id reading source =>
    have hrun := aired_run h hh rfl _ (hread source)
    rw [hself] at hrun
    exact hrun
  | finds => exact passes .checking
  | rests => exact passes .waiting
  | wakes => exact passes .reading
  | leaves => exact aired_endHook hh
  | parts => exact aired_endHook hh

theorem aired_work {t : Task} (hs : s.stepTask t = some s') : ∃ es, Aired s (.work t) es s' := by
  unfold Client.stepTask at hs
  split at hs
  case h_1 number =>
    split at hs
    case h_1 h hh =>
      split at hs
      · exact ⟨[], aired_hook hh hs⟩
      · cases hs
    case h_2 => cases hs
  case h_2 number =>
    split at hs
    case h_1 f hf => exact ⟨[], aired_feed hs⟩
    case h_2 => cases hs
  case h_3 => exact aired_listener hs
  case h_4 number =>
    split at hs
    case h_1 w hw => exact aired_worker hw hs
    case h_2 => cases hs

end Tasks

end SteadyLink.Proofs
