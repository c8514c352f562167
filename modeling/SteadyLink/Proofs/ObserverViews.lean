import SteadyLink.Proofs.EventNumbers
import SteadyLink.Proofs.ObserverReports
import SteadyLink.Proofs.StateHooks

/-!
# What observers are told

The events on their way to an observer are in three places: the observer has been told of the first
ones, the next ones wait for it, and the last ones wait for the listener. As long as neither the
listener lags nor the observer's queue is full, no event is lost between these places, so that the
observer has been told of everything that was published before the listener looked last when the listener
and its worker are done.
-/

namespace SteadyLink.Proofs

/-- The event that a worker begins to handle with its next step; none if it finishes one. -/
def takes? (now : Instant) (v : Worker) : Option Event :=
  match v.finish? now with
  | some _ => none
  | none => (v.begin? now).bind fun v' => v'.current.map Prod.fst

/-- The event that an observer begins to handle in a move. -/
def begun? (k : Nat) (m : Move) : Option Event :=
  match m.choice with
  | .work (.worker number) =>
    if number = k then (m.before.observers[k]?).bind (takes? m.before.hub.now) else none
  | _ => none

/-- The events that an observer was told of, the earliest first. -/
def observedBy (k : Nat) (trail : Trail) : List Event := trail.filterMap (begun? k)

/-- How many events the listener has lost since it was told so last. -/
def arrears (s : Client) : Nat :=
  ((s.listener.bind s.hub.bus.receivers.get?).map Receiver.missed).getD 0

def NeverLags (trail : Trail) (s : Client) : Prop :=
  (∀ m ∈ trail, arrears m.before = 0) ∧ arrears s = 0

instance (trail : Trail) (s : Client) : Decidable (NeverLags trail s) :=
  inferInstanceAs (Decidable (_ ∧ _))

/-- The listener hands an event to the observers. -/
def hands (m : Move) : Bool :=
  match m.choice with
  | .work .listener => decide (m.before.listening = .reading) && !(unread m.before).isEmpty
  | _ => false

def hasRoom (k : Nat) (s : Client) : Bool :=
  (s.observers[k]?).all fun w => w.waiting.length < w.observer.limit

/-- Whenever an event is handed to the observers, the queue of this one has room. -/
def NeverFull (k : Nat) (trail : Trail) : Prop :=
  ∀ m ∈ trail, hands m = true → hasRoom k m.before = true

instance (k : Nat) (trail : Trail) : Decidable (NeverFull k trail) :=
  inferInstanceAs (Decidable (∀ m ∈ trail, hands m = true → hasRoom k m.before = true))

/-- The listener has looked, found nothing, and taken no other step since. What had been published by
then is told. -/
inductive Listened (s₁ : Client) (told : List Event) : Trail → Client → Prop
  | intro {before others : Trail} {found s : Client} {id : Nat} (past : Journey s₁ before found)
      (there : found.listener = some id) (reading : found.listening = .reading)
      (nothing : (found.hub.bus.receive id).1 = .empty)
      (alone : ∀ m ∈ others, m.choice ≠ .work .listener)
      (later : Journey found (⟨found, .work .listener⟩ :: others) s)
      (all : announced found.hub = told) :
    Listened s₁ told (before ++ ⟨found, .work .listener⟩ :: others) s

/-- The last look of the listener: it found nothing to read in the first client, took no step while
others did, and saw in the second client that it shall end. -/
structure LastHearing (found : Client) (gap : Trail) (mid : Client) : Prop where
  idle : ∃ id, found.listener = some id ∧ found.listening = .reading ∧
    (found.hub.bus.receive id).1 = .empty
  alone : ∃ others, gap = ⟨found, .work .listener⟩ :: others ∧
    ∀ m ∈ others, m.choice ≠ .work .listener
  journey : Journey found gap mid
  asked : mid.listening = .checking ∧ mid.shutdown = true

/-- Where the events are that were published. -/
inductive Whereabouts (s₁ : Client) (k : Nat) (v : Worker) : Trail → Client → Prop
  | listening {trail : Trail} {s : Client} (id : Nat) (r : Receiver) (listener : s.listener = some id)
      (there : s.hub.bus.receivers.get? id = some r)
      (all : announced s.hub = observedBy k trail ++ v.waiting ++ r.pending)
      (looked : s.listening = .checking →
        Listened s₁ (observedBy k trail ++ v.waiting) trail s) :
    Whereabouts s₁ k v trail s
  /-- The listener has not seen what was published after its last look. -/
  | left {before gap after : Trail} {found mid s : Client} (past : Journey s₁ before found)
      (last : LastHearing found gap mid) (later : Journey mid (⟨mid, .work .listener⟩ :: after) s)
      (gone : s.listener = none)
      (all : announced found.hub =
        observedBy k (before ++ gap ++ ⟨mid, .work .listener⟩ :: after) ++ v.waiting) :
    Whereabouts s₁ k v (before ++ gap ++ ⟨mid, .work .listener⟩ :: after) s

section Steps

variable {s₁ s s' : Client} {choice : Choice} {es : List Event} {k : Nat} {v v' : Worker}
variable {trail : Trail}

lemma observedBy_step (k : Nat) (trail : Trail) (m : Move) :
    observedBy k (trail ++ [m]) = observedBy k trail ++ (begun? k m).toList :=
  filterMap_snoc (begun? k) trail m

lemma arrears_listening {id : Nat} {r : Receiver} (hl : s.listener = some id)
    (hr : s.hub.bus.receivers.get? id = some r) : arrears s = r.missed := by
  unfold arrears
  rw [hl, Option.bind_some, hr]
  rfl

/-- After the supervisor has left, nothing is published but reports. -/
lemma exited_reports (exited : s.supervisor.phase = .exited) (a : Aired s choice es s') :
    ∀ e ∈ es, isReport e = true := by
  by_cases task : ∃ t, choice = .work t
  · obtain ⟨t, rfl⟩ := task
    exact work_reports a
  · rw [a.rest (fun t h => task ⟨t, h⟩) (exited_still exited a)]
    exact List.forall_mem_nil _

lemma listened_on {told : List Event} (h : Listened s₁ told trail s)
    (other : choice ≠ .work .listener) (taken : next? s choice = some s') :
    Listened s₁ told (trail ++ [⟨s, choice⟩]) s' := by
  cases h with
  | intro past there reading nothing alone later all =>
    rw [List.append_assoc, List.cons_append]
    refine .intro past there reading nothing ?_ (.step choice later taken) all
    exact List.forall_mem_append.mpr ⟨alone, List.forall_mem_singleton.mpr other⟩

/-- While the listener does not run, what is published waits for it, or comes too late for it. -/
lemma whereabouts_heard (w : Wired s) (a : Aired s choice es s') (taken : next? s choice = some s')
    (h : Whereabouts s₁ k v trail s) (other : choice ≠ .work .listener)
    (same : s'.listener = s.listener) (still : s'.listening = s.listening)
    (whole : arrears s = 0) (whole' : arrears s' = 0)
    (passed : observedBy k (trail ++ [⟨s, choice⟩]) ++ v'.waiting =
      observedBy k trail ++ v.waiting) :
    Whereabouts s₁ k v' (trail ++ [⟨s, choice⟩]) s' := by
  cases h with
  | listening id r listener there all looked =>
    have there' := listener_hears w a other listener
    rw [there, Option.map_some] at there'
    have listener' := same.trans listener
    rw [arrears_listening listener there] at whole
    rw [arrears_listening listener' there'] at whole'
    obtain ⟨-, -, kept⟩ := acceptAll_kept s.hub.bus.ring r es
    refine .listening id _ listener' there' ?_ fun checking => ?_
    · rw [a.hub.announced, all, kept (whole'.trans whole.symm), passed, List.append_assoc]
    · rw [passed]
      exact listened_on (looked (still.symm.trans checking)) other taken
  | left past last later gone all =>
    rw [List.append_assoc, List.cons_append] at passed ⊢
    exact .left past last (.step choice later taken) (same.trans gone) (all.trans passed.symm)

lemma finish_takes {now : Instant} {e : Event} (hf : v.finish? now = some (e, v')) :
    (takes? now v).toList ++ v'.waiting = v.waiting := by
  unfold takes?
  rw [hf]
  unfold Worker.finish? at hf
  split at hf
  case h_1 =>
    split at hf
    · obtain ⟨-, rfl⟩ := Prod.mk.inj (Option.some.inj hf)
      rfl
    · cases hf
  case h_2 => cases hf

lemma begin_takes {now : Instant} (hf : v.finish? now = none) (hb : v.begin? now = some v') :
    (takes? now v).toList ++ v'.waiting = v.waiting := by
  unfold takes?
  rw [hf, hb]
  unfold Worker.begin? at hb
  split at hb
  case h_1 e rest _ waiting =>
    obtain rfl := Option.some.inj hb
    exact waiting.symm
  case h_2 => cases hb

/-- A step of a worker, that of the observer or another one. -/
lemma worker_passes (hv : s.observers[k]? = some v) {number : Nat}
    (taken : next? s (.work (.worker number)) = some s') :
    s'.listener = s.listener ∧ s'.listening = s.listening ∧
      ∃ v', s'.observers[k]? = some v' ∧
        (begun? k ⟨s, .work (.worker number)⟩).toList ++ v'.waiting = v.waiting := by
  have hs : s.stepTask (.worker number) = some s' := taken
  unfold Client.stepTask at hs
  simp only at hs
  split at hs
  case h_2 => cases hs
  case h_1 u hu =>
    obtain ⟨hlt, -⟩ := List.getElem?_eq_some_iff.mp hu
    obtain ⟨turn, same, still⟩ := worker_observers hs
    obtain ⟨u', ho, passes⟩ : ∃ u', s'.observers = s.observers.set number u' ∧
        (takes? s.hub.now u).toList ++ u'.waiting = u.waiting := by
      rcases turn with ⟨e, u', hf, ho⟩ | ⟨u', hf, hb, ho⟩
      · exact ⟨u', ho, finish_takes hf⟩
      · exact ⟨u', ho, begin_takes hf hb⟩
    refine ⟨same, still, ?_⟩
    by_cases own : number = k
    · subst own
      obtain rfl : u = v := Option.some.inj (hu.symm.trans hv)
      refine ⟨u', by rw [ho, List.getElem?_set_self hlt], ?_⟩
      simpa [begun?, hu] using passes
    · refine ⟨v, by rw [ho, List.getElem?_set_ne own, hv], ?_⟩
      simp [begun?, own]

/-- The listener hands the next event out, and the observer's queue has room for it. -/
lemma listener_hands (w : Wired s) (hv : s.observers[k]? = some v) {id : Nat} {r : Receiver}
    {e : Event} {rest : List Event} (listener : s.listener = some id) (listening : s.listening = .reading)
    (there : s.hub.bus.receivers.get? id = some r) (pending : r.pending = e :: rest)
    (all : announced s.hub = observedBy k trail ++ v.waiting ++ r.pending) (whole : r.missed = 0)
    (room : hands ⟨s, .work .listener⟩ = true → hasRoom k s = true)
    (hs' : s' = (reading s id { r with pending := rest }).emit e) (whole' : arrears s' = 0)
    (untold : observedBy k (trail ++ [⟨s, .work .listener⟩]) = observedBy k trail) :
    ∃ v', s'.observers[k]? = some v' ∧
      Whereabouts s₁ k v' (trail ++ [⟨s, .work .listener⟩]) s' := by
  obtain ⟨es, hannounced, -, ho, listener', listening', there'⟩ :=
    emit_airs (s := reading s id { r with pending := rest }) e listener (reading_receiver s id _)
      (w.known id (List.mem_append_left _ (by simp [listener])))
  rw [← hs'] at hannounced ho listener' listening' there'
  have offered : s'.observers[k]? = some { v with waiting := v.waiting ++ [e] } := by
    have hands : hands ⟨s, .work .listener⟩ = true := by
      simp [hands, unread_listener listener there, pending, listening]
    have hroom : v.waiting.length < v.observer.limit := by
      simpa [hasRoom, hv] using room hands
    rw [ho]
    show (ObserverSet.offerAll e s.observers).2[k]? = _
    rw [offerAll_workers, List.getElem?_map, hv, Option.map_some, Worker.offer, if_pos hroom]
  have goesOn : s'.listening = .reading := listening'.trans listening
  refine ⟨_, offered, .listening id _ listener' there' ?_ fun checking => ?_⟩
  · rw [arrears_listening listener' there'] at whole'
    obtain ⟨-, -, kept⟩ := acceptAll_kept s.hub.bus.ring { r with pending := rest } es
    have hbefore : announced (reading s id { r with pending := rest }).hub = announced s.hub := rfl
    have hkept := kept (whole'.trans whole.symm)
    rw [hannounced, hbefore, all, untold, pending]
    show _ = _ ++ (acceptAll s.hub.bus.ring es { r with pending := rest }).pending
    rw [hkept]
    simp
  · cases goesOn.symm.trans checking

/-- What a step of the listener does to the events on their way. -/
lemma listener_passes (w : Wired s) (past : Journey s₁ trail s) (hv : s.observers[k]? = some v)
    {id : Nat} {r : Receiver} (listener : s.listener = some id)
    (there : s.hub.bus.receivers.get? id = some r)
    (all : announced s.hub = observedBy k trail ++ v.waiting ++ r.pending)
    (looked : s.listening = .checking → Listened s₁ (observedBy k trail ++ v.waiting) trail s)
    (whole : r.missed = 0) (whole' : arrears s' = 0)
    (room : hands ⟨s, .work .listener⟩ = true → hasRoom k s = true)
    (taken : next? s (.work .listener) = some s') :
    ∃ v', s'.observers[k]? = some v' ∧
      Whereabouts s₁ k v' (trail ++ [⟨s, .work .listener⟩]) s' := by
  have untold : observedBy k (trail ++ [⟨s, .work .listener⟩]) = observedBy k trail := by
    rw [observedBy_step]
    exact List.append_nil _
  have onward : announced s.hub =
      observedBy k (trail ++ [⟨s, .work .listener⟩]) ++ v.waiting ++ r.pending := untold ▸ all
  cases stepListener_run taken with
  | hears id' e listener' listening found =>
    obtain rfl := Option.some.inj (listener.symm.trans listener')
    obtain ⟨rest, -, pending, hbus⟩ := receive_event there found
    refine listener_hands w hv listener listening there pending all whole room ?_ whole' untold
    rw [hbus]
    rfl
  | skips id' n listener' _ found =>
    obtain rfl := Option.some.inj (listener.symm.trans listener')
    obtain ⟨behind, -⟩ := receive_lagged there found
    omega
  | finds id' listener' listening nothing =>
    obtain rfl := Option.some.inj (listener.symm.trans listener')
    obtain ⟨-, pending⟩ := receive_empty there nothing
    refine ⟨v, hv, .listening id r listener there onward fun _ => ?_⟩
    rw [untold]
    refine .intro past listener listening nothing (List.forall_mem_nil _) (.step _ .start taken) ?_
    rw [all, pending, List.append_nil]
  | rests => exact ⟨v, hv, .listening id r listener there onward nofun⟩
  | wakes => exact ⟨v, hv, .listening id r listener there onward nofun⟩
  | leaves id' _ checking ended =>
    cases looked checking with
    | @intro before others found _ id' past' there' listening nothing alone later told =>
      refine ⟨v, hv, .left past' ⟨⟨id', there', listening, nothing⟩, ⟨others, rfl, alone⟩, later,
        checking, ended⟩ (.step _ .start taken) rfl ?_⟩
      rw [told]
      exact congrArg (· ++ v.waiting) untold.symm
  | parts id' listener' _ found =>
    obtain rfl := Option.some.inj (listener.symm.trans listener')
    exact absurd found (receive_open there w.publishers)

/-- No step loses an event on its way to the observer. -/
theorem whereabouts_step (w : Wired s) (past : Journey s₁ trail s) (hv : s.observers[k]? = some v)
    (h : Whereabouts s₁ k v trail s) (whole : arrears s = 0) (whole' : arrears s' = 0)
    (room : hands ⟨s, choice⟩ = true → hasRoom k s = true) (taken : next? s choice = some s') :
    ∃ v', s'.observers[k]? = some v' ∧ Whereabouts s₁ k v' (trail ++ [⟨s, choice⟩]) s' := by
  obtain ⟨es, a⟩ := next_aired w taken
  by_cases listens : choice = .work .listener
  · subst listens
    cases h with
    | listening id r listener there all looked =>
      rw [arrears_listening listener there] at whole
      exact listener_passes w past hv listener there all looked whole whole' room taken
    | left _ _ _ gone =>
      have hs : s.stepListener = some s' := taken
      rw [Client.stepListener, gone] at hs
      cases hs
  by_cases works : ∃ number, choice = .work (.worker number)
  · obtain ⟨number, rfl⟩ := works
    obtain ⟨same, still, v', hv', passes⟩ := worker_passes hv taken
    refine ⟨v', hv', whereabouts_heard w a taken h listens same still whole whole' ?_⟩
    rw [observedBy_step, List.append_assoc, passes]
  · have others (number : Nat) : choice ≠ .work (.worker number) := fun h => works ⟨number, h⟩
    obtain ⟨ho, same, still⟩ := next_observers taken listens others
    have untold : begun? k ⟨s, choice⟩ = none := by
      cases choice with
      | work t =>
        cases t with
        | worker number => exact absurd rfl (others number)
        | _ => rfl
      | _ => rfl
    refine ⟨v, ho ▸ hv, whereabouts_heard w a taken h listens same still whole whole' ?_⟩
    rw [observedBy_step, untold]
    simp

end Steps

section Journeys

variable {c : Config} {observers : List Observer} {s : Client} {trail : Trail} {k : Nat}

lemma fresh_whereabouts (c : Config) {o : Observer} (ho : observers[k]? = some o) :
    (Client.fresh c observers).observers[k]? = some (.idle o) ∧
      Whereabouts (.fresh c observers) k (.idle o) [] (.fresh c observers) := by
  cases observers with
  | nil => cases ho
  | cons first rest =>
    refine ⟨?_, .listening 0 .fresh rfl rfl rfl nofun⟩
    show ((first :: rest).map Worker.idle)[k]? = _
    rw [List.getElem?_map, ho, Option.map_some]

/-- All along a journey, no event is lost on its way to the observer. -/
theorem journey_whereabouts (j : Journey (.fresh c observers) trail s) (hk : k < observers.length)
    (never : NeverLags trail s) (room : NeverFull k trail) :
    ∃ v, s.observers[k]? = some v ∧ Whereabouts (.fresh c observers) k v trail s := by
  induction j with
  | start => exact ⟨_, fresh_whereabouts c (List.getElem?_eq_getElem hk)⟩
  | @step trail s s' choice past taken ih =>
    have last : (⟨s, choice⟩ : Move) ∈ trail ++ [⟨s, choice⟩] := by simp
    have whole : arrears s = 0 := never.1 _ last
    obtain ⟨v, hv, h⟩ := ih ⟨fun m hm => never.1 m (List.mem_append_left _ hm), whole⟩
      fun m hm => room m (List.mem_append_left _ hm)
    exact whereabouts_step (journey_wired (fresh_wired c observers) past) past hv h whole never.2
      (room _ last) taken

end Journeys

end SteadyLink.Proofs
