import SteadyLink.Proofs.ClientTasks

/-!
# Runs of the client

A client goes on in small steps, in any order: its owners act, time passes, a task works, or the
supervisor takes a turn. A step is either a turn of the supervisor, which `TurnTaken` describes, or
leaves the supervisor alone.
-/

namespace SteadyLink.Proofs

/-- What the owners of handles, hooks, feeds and streams of events can do. -/
inductive Deed where
  | call (c : Call)
  | attachFeed (category : MetricsCategory) (refresh : Duration)
  | seed (feed : Nat) (snapshot : MetricsSnapshot)
  | latest (feed : Nat)
  | requestNow (feed : Nat)
  | dropFeed (feed : Nat)
  | onState (panic : Option Panic)
  | onError (panic : Option Panic)
  | removeHook (hook : Nat)
  /-- Opens a stream of events. -/
  | watch
  | read (receiver : Nat)
  /-- Gives a stream of events up. -/
  | leave (receiver : Nat)
  | cloneHandle
  | dropHandle

/-- The receivers of the listener and of the hooks, which no stream of events is. -/
def ownReceivers (s : Client) : List Nat :=
  s.listener.toList ++ s.hooks.filterMap fun h =>
    match h.source with
    | .transitions _ => none
    | .faults receiver => some receiver

/-- A feed that its owner has not given up. -/
def attachedFeed? (s : Client) (number : Nat) : Option MetricsFeed :=
  s.hub.feeds[number]?.filter MetricsFeed.attached

/-- The client after a deed. What needs a handle or a feed that is gone does nothing. -/
def act (s : Client) : Deed → Client
  | .call c => s.onHub fun hub => (hub.call c).1
  | .attachFeed category refresh =>
    if s.hub.handles = 0 then s else s.onHub fun hub => (hub.attachFeed category refresh).2
  | .seed number snapshot =>
    match attachedFeed? s number with
    | some feed =>
      s.onHub fun hub => { hub with feeds := hub.feeds.set number (feed.seed snapshot).2 }
    | none => s
  | .latest number =>
    match attachedFeed? s number with
    | some feed => s.onHub fun hub => { hub with feeds := hub.feeds.set number feed.latest.2 }
    | none => s
  | .requestNow number =>
    match attachedFeed? s number with
    | some feed =>
      s.onHub fun hub => (hub.post (.send (Envelope.requestMetrics feed.category))).1
    | none => s
  | .dropFeed number => s.onHub (·.dropFeed number)
  | .onState panic => if s.hub.handles = 0 then s else (s.onState panic).2
  | .onError panic => if s.hub.handles = 0 then s else (s.onError panic).2
  | .removeHook number => s.removeHook number
  | .watch =>
    if s.hub.handles = 0 then s else s.onHub fun hub => { hub with bus := hub.bus.subscribe.2 }
  | .read receiver =>
    if receiver ∈ ownReceivers s then s
    else s.onHub fun hub => { hub with bus := (hub.bus.receive receiver).2 }
  | .leave receiver =>
    if receiver ∈ ownReceivers s then s
    else s.onHub fun hub => { hub with bus := hub.bus.dropReceiver receiver }
  | .cloneHandle => if s.hub.handles = 0 then s else s.cloneHandle
  | .dropHandle => s.dropHandle

/-- One step of a client, with the turn of the supervisor that was taken, if it was one. -/
inductive ClientStep (s : Client) : History → Client → Prop
  | acts (d : Deed) : ClientStep s [] (act s d)
  | passes (now : Instant) : ClientStep s [] (s.pass now)
  | works (t : Task) (s' : Client) (worked : s.stepTask t = some s') : ClientStep s [] s'
  | takes (draw : Nat) (s' : Client) (es : List Effect)
      (taken : s.takeMail draw = some (s', es)) :
    ClientStep s
      [⟨s.supervisor, s.hub.now, draw, .mail s.hub.mailbox.head?, es, s'.supervisor⟩] s'
  | meets (draw : Nat) (stimulus : Stimulus) (s' : Client) (es : List Effect)
      (other : ∀ request, stimulus ≠ .mail request)
      (met : s.turn draw stimulus = some (s', es)) :
    ClientStep s [⟨s.supervisor, s.hub.now, draw, stimulus, es, s'.supervisor⟩] s'

/-- Steps one after another, with the turns of the supervisor among them. -/
inductive ClientCourse (s₀ : Client) : History → Client → Prop
  | start : ClientCourse s₀ [] s₀
  | step {h g : History} {s s' : Client} (past : ClientCourse s₀ h s) (taken : ClientStep s g s') :
    ClientCourse s₀ (h ++ g) s'

/-- A course of a client from its beginning. -/
def ClientRun (c : Config) (observers : List Observer) : History → Client → Prop :=
  ClientCourse (.fresh c observers)

section Deeds

variable (s : Client)

lemma attachedFeed_eq {number : Nat} {f : MetricsFeed} (h : attachedFeed? s number = some f) :
    s.hub.feeds[number]? = some f ∧ f.attached = true := by
  unfold attachedFeed? at h
  exact Option.filter_eq_some_iff.mp h

lemma attachedFeed_held {number : Nat} {f : MetricsFeed} (h : attachedFeed? s number = some f) :
    s.hub.allHandles ≠ 0 := by
  obtain ⟨hf, ha⟩ := attachedFeed_eq s h
  intro h0
  have hz := ((allHandles_eq_zero_iff s.hub).mp h0).2 f (List.mem_of_getElem? hf)
  unfold MetricsFeed.handles at hz
  rw [if_pos ha] at hz
  omega

lemma seed_handles (f : MetricsFeed) (snapshot : MetricsSnapshot) :
    (f.seed snapshot).2.handles = f.handles := by
  unfold MetricsFeed.seed
  split <;> rfl

lemma dropFeed_follows (hub : Hub) (number : Nat) : HubFollows hub (hub.dropFeed number) := by
  unfold Hub.dropFeed
  split
  case h_1 => exact hubFollows_called (called_refl hub)
  case h_2 f hf =>
    have hless : ({ f with attached := false } : MetricsFeed).handles ≤ f.handles := by
      unfold MetricsFeed.handles
      simp
    refine hubFollows_trans (hubFollows_setFeed hub number f _ hf hless) ?_
    exact hubFollows_called (called_trans (called_unsubscribe _ _) (called_unsubscribe _ _))

lemma attachFeed_follows (hub : Hub) (category : MetricsCategory) (refresh : Duration)
    (hh : hub.handles ≠ 0) : HubFollows hub (hub.attachFeed category refresh).2 := by
  refine ⟨rfl, rfl, ⟨[], by simp [Hub.attachFeed]⟩, ?_, [], by simp [Hub.attachFeed]⟩
  intro h0
  exact absurd ((allHandles_eq_zero_iff hub).mp h0).1 hh

lemma follows_addHook (h : Hook) (hub : Hub) (hf : HubFollows s.hub hub) :
    Follows s [] { s with hub, hooks := s.hooks ++ [h] } := by
  have hget (i : Nat) (hi : i < s.hooks.length) : (s.hooks ++ [h])[i]? = s.hooks[i]? :=
    List.getElem?_append_left hi
  refine follows_silent rfl hf (by simp) ?_
  rintro i hi ⟨g, queue, hg, hqueue, hrun⟩
  simp only [hget i hi] at hg
  refine ⟨⟨g, queue, hg, hqueue, hrun⟩, ?_⟩
  unfold waitingFor
  simp only [hget i hi]

lemma follows_removeHook (number : Nat) : Follows s [] (s.removeHook number) := by
  have hget (i : Nat) : (s.removeHook number).hooks[i]? =
      if number = i then (s.hooks[i]?).map ({ · with removed := true }) else s.hooks[i]? := by
    show (s.hooks.modify number _)[i]? = _
    rw [List.getElem?_modify]
    by_cases hi : number = i <;> simp [hi]
  refine follows_silent rfl (hubFollows_called (called_refl s.hub)) ?_ ?_
  · exact Nat.le_of_eq (List.length_modify _ _ _).symm
  · rintro i hi ⟨g, queue, hg, hqueue, hrun⟩
    rw [hget] at hg
    unfold waitingFor
    rw [hget]
    by_cases heq : number = i
    · rw [if_pos heq] at hg ⊢
      obtain ⟨h, hh, rfl⟩ := Option.map_eq_some_iff.mp hg
      refine ⟨⟨h, queue, hh, hqueue, hrun⟩, ?_⟩
      rw [hh]
      rfl
    · rw [if_neg heq] at hg ⊢
      exact ⟨⟨g, queue, hg, hqueue, hrun⟩, rfl⟩

theorem follows_act (d : Deed) : Follows s [] (act s d) := by
  have hkeep : Follows s [] s := follows_refl s
  have hbus (bus : Bus) : Follows s [] (s.onHub fun hub => { hub with bus }) :=
    follows_hub rfl rfl (hubFollows_bus s.hub bus)
  cases d with
  | call c => exact follows_hub rfl rfl (hubFollows_called (called_call s.hub c))
  | attachFeed category refresh =>
    by_cases hh : s.hub.handles = 0
    · simpa [act, hh] using hkeep
    · simp only [act, if_neg hh]
      exact follows_hub rfl rfl (attachFeed_follows s.hub category refresh hh)
  | seed number snapshot =>
    simp only [act]
    split
    case h_1 f hf =>
      obtain ⟨hget, -⟩ := attachedFeed_eq s hf
      refine follows_hub rfl rfl (hubFollows_setFeed s.hub number f _ hget ?_)
      exact Nat.le_of_eq (seed_handles f snapshot)
    case h_2 => exact hkeep
  | latest number =>
    simp only [act]
    split
    case h_1 f hf =>
      obtain ⟨hget, -⟩ := attachedFeed_eq s hf
      exact follows_hub rfl rfl (hubFollows_setFeed s.hub number f _ hget (Nat.le_refl _))
    case h_2 => exact hkeep
  | requestNow number =>
    simp only [act]
    split
    case h_1 f hf =>
      exact follows_hub rfl rfl (hubFollows_post s.hub _ (attachedFeed_held s hf))
    case h_2 => exact hkeep
  | dropFeed number => exact follows_hub rfl rfl (dropFeed_follows s.hub number)
  | onState panic =>
    by_cases hh : s.hub.handles = 0
    · simpa [act, hh] using hkeep
    · simp only [act, if_neg hh]
      exact follows_addHook s _ s.hub (hubFollows_called (called_refl s.hub))
  | onError panic =>
    by_cases hh : s.hub.handles = 0
    · simpa [act, hh] using hkeep
    · simp only [act, if_neg hh]
      exact follows_addHook s _ _ (hubFollows_bus s.hub _)
  | removeHook number => exact follows_removeHook s number
  | watch =>
    by_cases hh : s.hub.handles = 0
    · simpa [act, hh] using hkeep
    · simp only [act, if_neg hh]
      exact hbus _
  | read receiver =>
    by_cases hr : receiver ∈ ownReceivers s
    · simpa [act, hr] using hkeep
    · simp only [act, if_neg hr]
      exact hbus _
  | leave receiver =>
    by_cases hr : receiver ∈ ownReceivers s
    · simpa [act, hr] using hkeep
    · simp only [act, if_neg hr]
      exact hbus _
  | cloneHandle =>
    by_cases hh : s.hub.handles = 0
    · simpa [act, hh] using hkeep
    · simp only [act, if_neg hh]
      refine follows_hub rfl rfl ⟨rfl, rfl, ⟨[], by simp [Client.cloneHandle, Client.onHub]⟩, ?_,
        [], by simp [Client.cloneHandle, Client.onHub]⟩
      intro h0
      exact absurd ((allHandles_eq_zero_iff s.hub).mp h0).1 hh
  | dropHandle =>
    refine follows_hub rfl rfl ⟨rfl, rfl, ⟨[], by simp [act, Client.dropHandle, Client.onHub]⟩, ?_,
      [], by simp [act, Client.dropHandle, Client.onHub]⟩
    intro h0
    rw [allHandles_eq_zero_iff] at h0 ⊢
    refine ⟨?_, h0.2⟩
    show s.hub.handles - 1 = 0
    omega

lemma act_supervisor (d : Deed) : (act s d).supervisor = s.supervisor := by
  cases d <;> simp only [act] <;> (try split) <;> rfl

end Deeds

/-! Turns of the supervisor -/

section Effects

variable {s s' : Client}

/-- A transition reaches every running hook, the state and the bus. -/
lemma follows_moved (s : Client) (source target : ConnectionState) :
    Follows s [.moved source target] (s.apply (.moved source target)) := by
  have hget (i : Nat) : (s.apply (.moved source target)).hooks[i]? =
      (s.hooks[i]?).map (Hook.notify source target) := List.getElem?_map
  have hj : (s.apply (.moved source target)).hub.journal =
      [(s.hub.now, .published (s.hub.bus.stamp (.stateChanged source target)))] ++
        s.hub.journal := rfl
  refine ⟨rfl, rfl, rfl, ⟨[], ?_⟩, id, ?_, ?_, Nat.le_of_eq (List.length_map _).symm, ?_⟩
  · simp [Client.apply, Client.publish, Client.onHub, Hub.publish, Hub.note]
  · rw [published_append hj]
    rfl
  · rw [ownEvents_append hj]
    rfl
  · rintro i hi ⟨g, queue, hg, hqueue, hrun⟩
    rw [hget] at hg
    obtain ⟨h, hh, rfl⟩ := Option.map_eq_some_iff.mp hg
    have hr : (s.apply (.moved source target)).hub.journal.transitions i =
        s.hub.journal.transitions i := by
      rw [hj, transitions_append]
      rfl
    unfold received waitingFor
    rw [hr, hget, hh, Option.map_some, Option.map_some, Option.getD_some]
    cases hsource : h.source with
    | transitions waiting =>
      have hrun' : h.running = true := by
        cases hn : h.running with
        | true => rfl
        | false => simp [Hook.notify, hsource, hn] at hrun
      refine ⟨⟨h, waiting, hh, hsource, hrun'⟩, ?_⟩
      simp [Hook.notify, queueOf, hsource, hrun', moves]
    | faults receiver =>
      simp [Hook.notify, hsource] at hqueue

lemma track_plain {e : Effect} (he : ∀ source target, e ≠ .moved source target)
    (state : ConnectionState) : track state e = state := by
  cases e with
  | moved source target => exact absurd rfl (he source target)
  | _ => rfl

lemma moves_plain {e : Effect} (he : ∀ source target, e ≠ .moved source target) :
    moves [e] = [] := by
  cases e with
  | moved source target => exact absurd rfl (he source target)
  | _ => rfl

/-- An event that is no transition has no bearing but on what was published. -/
lemma follows_published (s : Client) {e : Effect} {event : Event} (he : e.event? = some event)
    (hmove : ∀ source target, e ≠ .moved source target) (hkind : event.kind ≠ .stateChanged) :
    Follows s [e] (s.publish event) := by
  have hj : (s.publish event).hub.journal =
      [(s.hub.now, .published (s.hub.bus.stamp event))] ++ s.hub.journal := rfl
  have hstamp : shownChange? (s.hub.bus.stamp event) = none := if_neg hkind
  have hown : ownEvent? (s.hub.bus.stamp event) = ownEvent? event := rfl
  refine ⟨rfl, ?_, rfl, ⟨[], ?_⟩, id, ?_, ?_, Nat.le_refl _, ?_⟩
  · rw [List.foldl_cons, track_plain hmove]
    rfl
  · simp [Client.publish, Client.onHub, Hub.publish, Hub.note]
  · rw [published_append hj, moves_plain hmove]
    simp [Journal.events, hstamp]
  · rw [ownEvents_append hj]
    cases hevent : ownEvent? event <;> simp [Journal.events, he, hown, hevent]
  · intro i _ hlive
    refine ⟨isLive_of_hooks rfl hlive, ?_⟩
    rw [moves_plain hmove, List.append_nil]
    rfl

lemma follows_unmoved {e : Effect} (he : e.event? = none) (h : Follows s [] s') :
    Follows s [e] s' := by
  have hmove : ∀ source target, e ≠ .moved source target := by
    rintro source target rfl
    cases he
  refine ⟨h.config, ?_, h.accepting, h.mailbox, h.unheld, ?_, ?_, h.length, ?_⟩
  · rw [List.foldl_cons, track_plain hmove]
    exact h.state
  · rw [moves_plain hmove]
    exact h.published
  · rw [List.filterMap_cons_none he]
    exact h.events
  · rw [moves_plain hmove]
    exact h.hooks

lemma follows_apply (s : Client) (e : Effect)
    (he : ∀ event, e = .publish event → event.kind ≠ .stateChanged) :
    Follows s [e] (s.apply e) := by
  cases e with
  | moved source target => exact follows_moved s source target
  | dispatch envelope =>
    refine follows_unmoved rfl (follows_hub rfl rfl ?_)
    exact hubFollows_called (called_deliver s.hub envelope)
  | connect =>
    exact follows_unmoved rfl (follows_hub rfl rfl (hubFollows_note s.hub _ trivial))
  | wrote session command frame =>
    exact follows_unmoved rfl (follows_hub rfl rfl (hubFollows_note s.hub _ trivial))
  | publish event => exact follows_published s rfl nofun (he event rfl)
  | evicted command cause => exact follows_published s rfl nofun (by simp)
  | began stage => exact follows_unmoved rfl (follows_refl s)
  | refused source target => exact follows_unmoved rfl (follows_refl s)
  | write session command frame => exact follows_unmoved rfl (follows_refl s)
  | close session => exact follows_unmoved rfl (follows_refl s)
  | drop session => exact follows_unmoved rfl (follows_refl s)

theorem follows_applyAll (es : List Effect) (s : Client)
    (he : ∀ event, .publish event ∈ es → event.kind ≠ .stateChanged) :
    Follows s es (es.foldl Client.apply s) := by
  induction es generalizing s with
  | nil => exact follows_refl s
  | cons e es ih =>
    have h₁ := follows_apply s e (fun event heq => he event (heq ▸ List.mem_cons_self))
    have h₂ := ih (s.apply e) fun event hm => he event (List.mem_cons_of_mem _ hm)
    exact follows_trans h₁ h₂

lemma apply_supervisor (s : Client) (e : Effect) : (s.apply e).supervisor = s.supervisor := by
  cases e <;> rfl

lemma applyAll_supervisor (es : List Effect) (s : Client) :
    (es.foldl Client.apply s).supervisor = s.supervisor := by
  induction es generalizing s with
  | nil => rfl
  | cons e es ih => rw [List.foldl_cons, ih, apply_supervisor]

end Effects

/-- The request that a stimulus brings. -/
def request? : Stimulus → Option Control
  | .mail request => request
  | _ => none

/-- A turn of the supervisor, as the whole client sees it. -/
structure TurnTaken (s : Client) (draw : Nat) (stimulus : Stimulus) (es : List Effect)
    (s' : Client) : Prop where
  step : s.supervisor.step s.config s.hub.now draw stimulus = some (s'.supervisor, es)
  config : s'.config = s.config
  state : s'.hub.state = es.foldl track s.hub.state
  /-- What is taken stood first in the mailbox, and nobody is left only if it is empty. -/
  mail : ∀ request, stimulus = .mail request → s.hub.mailbox.head? = request ∧
    (request = none → s.hub.allHandles = 0)
  /-- What is not taken stays, unless the supervisor is gone. -/
  mailbox : s'.supervisor.isGone = false → s'.hub.accepting = s.hub.accepting ∧
    ∃ posts, (request? stimulus).toList ++ s'.hub.mailbox = s.hub.mailbox ++ posts ∧
      (posts ≠ [] → s.hub.accepting = true ∧ s.hub.allHandles ≠ 0)
  gone : s'.supervisor.isGone = true → s'.hub.mailbox = [] ∧ s'.hub.accepting = false
  unheld : s.hub.allHandles = 0 → s'.hub.allHandles = 0
  published : published s' = published s ++ (moves es).map shown
  events : ownEvents s' = ownEvents s ++ (es.filterMap Effect.event?).filterMap ownEvent?
  length : s.hooks.length ≤ s'.hooks.length
  hooks : ∀ i < s.hooks.length, IsLive s' i → IsLive s i ∧ received s' i = received s i ++ moves es

section TurnTaken

variable {s s' : Client} {draw : Nat} {stimulus : Stimulus} {es : List Effect}

lemma settleEnd_gone (s : Client) (h : s.supervisor.isGone = true) :
    s.settleEnd.hub.mailbox = [] ∧ s.settleEnd.hub.accepting = false := by
  unfold Client.settleEnd
  rw [if_pos h]
  exact ⟨rfl, rfl⟩

lemma settleEnd_stays (s : Client) (h : s.supervisor.isGone = false) : s.settleEnd = s := by
  unfold Client.settleEnd
  rw [if_neg (by rw [h]; exact Bool.false_ne_true)]

lemma settleEnd_rest (s : Client) :
    s.settleEnd.supervisor = s.supervisor ∧ s.settleEnd.config = s.config ∧
      s.settleEnd.hooks = s.hooks ∧ s.settleEnd.hub.state = s.hub.state ∧
      s.settleEnd.hub.journal = s.hub.journal ∧
      s.settleEnd.hub.allHandles = s.hub.allHandles := by
  unfold Client.settleEnd
  split <;> exact ⟨rfl, rfl, rfl, rfl, rfl, rfl⟩

lemma turn_taken (rest : List Control) (ha : Aligned s.supervisor)
    (hrest : (request? stimulus).toList ++ rest = s.hub.mailbox)
    (hmail : ∀ request, stimulus = .mail request → s.hub.mailbox.head? = request ∧
      (request = none → s.hub.allHandles = 0))
    (h : (s.onHub fun hub => { hub with mailbox := rest }).turn draw stimulus = some (s', es)) :
    TurnTaken s draw stimulus es s' := by
  unfold Client.turn at h
  split at h
  case h_1 => cases h
  case h_2 supervisor effects hstep =>
    simp only [Option.some.injEq, Prod.mk.injEq] at h
    obtain ⟨rfl, rfl⟩ := h
    have hstep : s.supervisor.step s.config s.hub.now draw stimulus = some (supervisor, effects) :=
      hstep
    have hf := follows_applyAll effects
      { s.onHub fun hub => { hub with mailbox := rest } with supervisor } (step_plain ha hstep)
    have hsup := applyAll_supervisor effects
      { s.onHub fun hub => { hub with mailbox := rest } with supervisor }
    generalize effects.foldl Client.apply
      { s.onHub fun hub => { hub with mailbox := rest } with supervisor } = mid at hf hsup ⊢
    obtain ⟨hs, hc, hh, hst, hj, hall⟩ := settleEnd_rest mid
    have hsup : mid.supervisor = supervisor := hsup
    have hlive {i : Nat} : IsLive mid.settleEnd i → IsLive mid i := isLive_of_hooks hh
    have hrec (i : Nat) : received mid.settleEnd i = received mid i := by
      unfold received
      rw [hj, waitingFor_of_hooks hh]
    constructor
    · rw [hs, hsup]
      exact hstep
    · rw [hc]
      exact hf.config
    · rw [hst]
      exact hf.state
    · exact hmail
    · rw [hs]
      intro hg
      rw [settleEnd_stays mid hg]
      obtain ⟨posts, hp, hopen⟩ := hf.mailbox
      refine ⟨hf.accepting, posts, ?_, hopen⟩
      rw [hp, ← hrest, List.append_assoc]
      rfl
    · rw [hs]
      exact settleEnd_gone mid
    · rw [hall]
      exact hf.unheld
    · unfold published at *
      rw [hj]
      exact hf.published
    · unfold ownEvents at *
      rw [hj]
      exact hf.events
    · rw [hh]
      exact hf.length
    · intro i hi hl
      rw [hrec]
      exact hf.hooks i hi (hlive hl)

/-- A step of a client is a turn of its supervisor, or leaves that alone. -/
theorem clientStep_cases {h : History} (ha : Aligned s.supervisor) (hs : ClientStep s h s') :
    (h = [] ∧ Worked s s') ∨
      ∃ draw stimulus es, h = [⟨s.supervisor, s.hub.now, draw, stimulus, es, s'.supervisor⟩] ∧
        TurnTaken s draw stimulus es s' := by
  cases hs with
  | acts d => exact Or.inl ⟨rfl, act_supervisor s d, follows_act s d⟩
  | passes now =>
    refine Or.inl ⟨rfl, rfl, follows_hub rfl rfl ?_⟩
    exact ⟨rfl, rfl, ⟨[], by simp [Client.pass, Client.onHub]⟩, id, [],
      by simp [Client.pass, Client.onHub]⟩
  | works t s' worked => exact Or.inl ⟨rfl, worked_task worked⟩
  | takes draw s' es taken =>
    refine Or.inr ⟨draw, _, es, rfl, ?_⟩
    unfold Client.takeMail at taken
    split at taken
    case h_1 request rest hm =>
      refine turn_taken rest ha (by rw [hm]; rfl) ?_ (by rw [hm]; exact taken)
      intro r hr
      cases hr
      rw [hm]
      refine ⟨rfl, ?_⟩
      intro hnone
      cases hnone
    case h_2 hm =>
      split at taken
      case isTrue h0 =>
        refine turn_taken [] ha (by rw [hm]; rfl) ?_ ?_
        · intro r hr
          cases hr
          exact ⟨rfl, fun _ => h0⟩
        · rw [hm]
          have hself : (s.onHub fun hub => { hub with mailbox := [] }) = s := by
            show { s with hub := { s.hub with mailbox := [] } } = s
            rw [← hm]
          rw [hself]
          exact taken
      case isFalse => cases taken
  | meets draw stimulus s' es other met =>
    refine Or.inr ⟨draw, stimulus, es, rfl, ?_⟩
    have hnone : request? stimulus = none := by
      cases stimulus with
      | mail request => exact absurd rfl (other request)
      | _ => rfl
    refine turn_taken s.hub.mailbox ha (by rw [hnone]; rfl) ?_ met
    intro request hr
    exact absurd hr (other request)

end TurnTaken

/-! Courses -/

section Courses

variable {s₀ s : Client} {h : History}

/-- What a client has gone through is a course of its supervisor. -/
theorem clientCourse_course (ha : Aligned s₀.supervisor) (hc : ClientCourse s₀ h s) :
    s.config = s₀.config ∧ Course s₀.config s₀.supervisor h s.supervisor := by
  induction hc with
  | start => exact ⟨rfl, Course.start⟩
  | step past taken ih =>
    obtain ⟨hconfig, hcourse⟩ := ih
    rcases clientStep_cases (course_aligned ha hcourse) taken with
      ⟨rfl, hw⟩ | ⟨draw, stimulus, es, rfl, ht⟩
    · rw [hw.supervisor, List.append_nil]
      exact ⟨hw.follows.config.trans hconfig, hcourse⟩
    · refine ⟨ht.config.trans hconfig, ?_⟩
      have hstep := ht.step
      rw [hconfig] at hstep
      exact Course.turn _ draw stimulus _ hcourse hstep

theorem clientCourse_aligned (ha : Aligned s₀.supervisor) (hc : ClientCourse s₀ h s) :
    Aligned s.supervisor :=
  course_aligned ha (clientCourse_course ha hc).2

/-- What holds at the start of a course and is kept by every step holds all along. -/
theorem clientCourse_invariant {P : History → Client → Prop} (ha : Aligned s₀.supervisor)
    (start : P [] s₀) (work : ∀ h s s', P h s → Worked s s' → P h s')
    (turn : ∀ h s draw stimulus s' es, P h s → s.config = s₀.config → Aligned s.supervisor →
      TurnTaken s draw stimulus es s' →
      P (h ++ [⟨s.supervisor, s.hub.now, draw, stimulus, es, s'.supervisor⟩]) s')
    (hc : ClientCourse s₀ h s) : P h s := by
  induction hc with
  | start => exact start
  | step past taken ih =>
    obtain ⟨hconfig, hcourse⟩ := clientCourse_course ha past
    have ha' := course_aligned ha hcourse
    rcases clientStep_cases ha' taken with ⟨rfl, hw⟩ | ⟨draw, stimulus, es, rfl, ht⟩
    · rw [List.append_nil]
      exact work _ _ _ ih hw
    · exact turn _ _ draw stimulus _ es ih hconfig ha' ht

lemma fresh_client (c : Config) (observers : List Observer) :
    (Client.fresh c observers).supervisor = .fresh c ∧ (Client.fresh c observers).config = c ∧
      (Client.fresh c observers).hub.state = .idle ∧
      (Client.fresh c observers).hub.journal = [] := by
  unfold Client.fresh
  split <;> exact ⟨rfl, rfl, rfl, rfl⟩

lemma fresh_client_aligned (c : Config) (observers : List Observer) :
    Aligned (Client.fresh c observers).supervisor := by
  rw [(fresh_client c observers).1]
  exact fresh_aligned c

theorem clientRun_run {c : Config} {observers : List Observer} (r : ClientRun c observers h s) :
    s.config = c ∧ Run c h s.supervisor := by
  obtain ⟨hsup, hconfig, -, -⟩ := fresh_client c observers
  have hc := clientCourse_course (fresh_client_aligned c observers) r
  rw [hsup, hconfig] at hc
  exact hc

end Courses

end SteadyLink.Proofs
