import SteadyLink.Proofs.ClientFrame
import SteadyLink.Proofs.TaskSteps

/-!
# Tasks

What the tasks beside the supervisor do. A task leaves the supervisor alone, and a hook takes its
transitions one by one.
-/

namespace SteadyLink.Proofs

section Tasks

variable {s s' : Client}

/-- What a task has done. -/
structure Worked (s s' : Client) : Prop where
  supervisor : s'.supervisor = s.supervisor
  follows : Follows s [] s'

lemma worked_trans {s'' : Client} (h : Worked s s') (h' : Worked s' s'') : Worked s s'' :=
  ⟨h'.supervisor.trans h.supervisor, follows_trans h.follows h'.follows⟩

lemma worked_hub (s : Client) (f : Hub → Hub) (h : HubFollows s.hub (f s.hub)) :
    Worked s (s.onHub f) :=
  ⟨rfl, follows_hub rfl rfl h⟩

lemma worked_bus (s : Client) (bus : Bus) : Worked s (s.onHub fun hub => { hub with bus }) :=
  worked_hub s _ (hubFollows_bus s.hub bus)

lemma worked_note (s : Client) (h : Happening) (hh : IsSilent h) :
    Worked s (s.onHub (·.note h)) :=
  worked_hub s _ (hubFollows_note s.hub h hh)

lemma worked_publish (s : Client) (e : Event) (he : isForeign e.kind = true) :
    Worked s (s.publish e) :=
  worked_hub s _ (hubFollows_publish s.hub e he)

lemma worked_publishAll (events : List Event) (s : Client)
    (he : ∀ e ∈ events, isForeign e.kind = true) : Worked s (events.foldl Client.publish s) := by
  induction events generalizing s with
  | nil => exact ⟨rfl, follows_refl s⟩
  | cons e events ih =>
    have h₁ := worked_publish s e (he e List.mem_cons_self)
    exact worked_trans h₁ (ih (s.publish e) fun e he' => he e (List.mem_cons_of_mem _ he'))

lemma worked_observers (s : Client) (observers : ObserverSet) (listener : Option Nat)
    (listening : Pass) : Worked s { s with observers, listener, listening } :=
  ⟨rfl, follows_hub rfl rfl (hubFollows_called (called_refl s.hub))⟩

lemma worked_emit (s : Client) (e : Event) : Worked s (s.emit e) := by
  refine worked_trans (worked_observers s _ s.listener s.listening) (worked_publishAll _ _ ?_)
  intro report hr
  split at hr
  · cases hr
  · obtain ⟨name, -, rfl⟩ := List.mem_map.mp hr
    rfl

lemma follows_hookCall {number : Nat} {h : Hook} {source target : ConnectionState}
    {rest : List (ConnectionState × ConnectionState)} (hh : s.hooks[number]? = some h)
    (hsource : h.source = .transitions ((source, target) :: rest)) :
    Follows s [] ((s.setHook number { h with source := .transitions rest }).onHub
      (·.note (.stateHookCalled number source target))) := by
  have hget (i : Nat) : (s.setHook number { h with source := .transitions rest }).hooks[i]? =
      if number = i then some { h with source := .transitions rest } else s.hooks[i]? := by
    obtain ⟨hlt, -⟩ := List.getElem?_eq_some_iff.mp hh
    show (s.hooks.set number _)[i]? = _
    rw [List.getElem?_set, if_pos hlt]
  have hj : ((s.setHook number { h with source := .transitions rest }).onHub
      (·.note (.stateHookCalled number source target))).hub.journal =
      [(s.hub.now, .stateHookCalled number source target)] ++ s.hub.journal := rfl
  refine ⟨rfl, rfl, rfl, ⟨[], ?_⟩, id, ?_, ?_, Nat.le_of_eq (List.length_set).symm, ?_⟩
  · simp [Client.onHub, Client.setHook, Hub.note]
  · rw [published_append hj]
    rfl
  · rw [ownEvents_append hj]
    rfl
  · rintro i hi ⟨g, queue, hg, hqueue, hrun⟩
    change (s.setHook number { h with source := .transitions rest }).hooks[i]? = some g at hg
    rw [hget] at hg
    have hw : waitingFor ((s.setHook number { h with source := .transitions rest }).onHub
        (·.note (.stateHookCalled number source target))) i =
        if number = i then rest else waitingFor s i := by
      unfold waitingFor
      show (((s.setHook number { h with source := .transitions rest }).hooks[i]?).map
        queueOf).getD [] = _
      rw [hget]
      by_cases heq : number = i <;> simp [heq, queueOf]
    have hj : ((s.setHook number { h with source := .transitions rest }).onHub
        (·.note (.stateHookCalled number source target))).hub.journal.transitions i =
        (if number = i then [(source, target)] else []) ++ s.hub.journal.transitions i := by
      show Journal.transitions ([(s.hub.now, .stateHookCalled number source target)] ++
        s.hub.journal) i = _
      rw [transitions_append]
      by_cases heq : number = i <;> simp [Journal.transitions, heq]
    unfold received
    rw [hw, hj]
    by_cases heq : number = i
    · rw [if_pos heq] at hg
      obtain rfl := Option.some.inj hg
      rw [← heq]
      refine ⟨⟨h, _, hh, hsource, hrun⟩, ?_⟩
      have hold : waitingFor s number = (source, target) :: rest := by
        unfold waitingFor queueOf
        rw [hh, Option.map_some, hsource]
        rfl
      rw [hold]
      simp
    · rw [if_neg heq] at hg
      refine ⟨⟨g, queue, hg, hqueue, hrun⟩, ?_⟩
      simp [heq]

lemma worked_endHook {number : Nat} {h : Hook} (hh : s.hooks[number]? = some h) :
    Worked s (s.endHook number h) := by
  have hset : Worked s (s.setHook number { h with running := false }) :=
    ⟨rfl, follows_setHook hh rfl (by simp)⟩
  unfold Client.endHook
  split
  · exact hset
  · exact worked_trans hset (worked_bus _ _)

lemma worked_pass {number : Nat} {h : Hook} (pass : Pass) (hh : s.hooks[number]? = some h) :
    Worked s (s.setHook number { h with pass }) :=
  ⟨rfl, follows_setHook hh rfl id⟩

lemma worked_hook {number : Nat} {h : Hook} (hh : s.hooks[number]? = some h)
    (hs : s.stepHook number h = some s') : Worked s s' := by
  cases stepHook_run hs with
  | calls source target rest reading queue => exact ⟨rfl, follows_hookCall hh queue⟩
  | tells id e fault => exact worked_trans (worked_bus s _) (worked_note _ _ trivial)
  | skips id => exact worked_bus s _
  | finds => exact worked_pass .checking hh
  | rests => exact worked_pass .waiting hh
  | wakes => exact worked_pass .reading hh
  | leaves => exact worked_endHook hh
  | parts => exact worked_endHook hh

lemma worked_listener (hs : s.stepListener = some s') : Worked s s' := by
  have listens (pass : Pass) : Worked s { s with listening := pass } :=
    worked_observers s s.observers s.listener pass
  have ends : Worked s { s with listener := none } :=
    worked_observers s s.observers none s.listening
  cases stepListener_run hs with
  | hears id e => exact worked_trans (worked_bus s _) (worked_emit _ e)
  | skips => exact worked_bus s _
  | finds => exact listens .checking
  | rests => exact listens .waiting
  | wakes => exact listens .reading
  | leaves => exact ends
  | parts => exact ends

lemma worked_worker {number : Nat} {w : Worker} (hs : s.stepWorker number w = some s') :
    Worked s s' := by
  have hset (w : Worker) : Worked s (s.setWorker number w) :=
    worked_observers s _ s.listener s.listening
  unfold Client.stepWorker at hs
  split at hs
  case h_1 e w' hf =>
    have hv : Worked s (if w'.observer.isVisible then
        (s.setWorker number w').onHub (·.note (.observed number e.kind))
        else s.setWorker number w') := by
      split
      · exact worked_trans (hset w') (worked_note _ _ trivial)
      · exact hset w'
    simp only at hs
    split at hs
    case h_1 report hr =>
      obtain rfl := Option.some.inj hs
      refine worked_trans hv (worked_publish _ report ?_)
      obtain ⟨p, -, rfl⟩ := Option.map_eq_some_iff.mp hr
      rfl
    case h_2 =>
      obtain rfl := Option.some.inj hs
      exact hv
  case h_2 =>
    obtain ⟨w', -, rfl⟩ := Option.map_eq_some_iff.mp hs
    exact hset w'

lemma worked_request (s : Client) {number : Nat} {f : MetricsFeed}
    (hf : s.hub.feeds[number]? = some f) (hrunning : f.task ≠ .ended) :
    Worked s (s.requestIfOpen f) ∧ (s.requestIfOpen f).hub.feeds = s.hub.feeds := by
  have hheld : s.hub.allHandles ≠ 0 := by
    intro h0
    have hz := ((allHandles_eq_zero_iff s.hub).mp h0).2 f (List.mem_of_getElem? hf)
    unfold MetricsFeed.handles at hz
    rw [if_neg hrunning] at hz
    omega
  unfold Client.requestIfOpen
  split
  · refine ⟨worked_hub s _ (hubFollows_post s.hub _ hheld), ?_⟩
    show (s.hub.post _).1.feeds = s.hub.feeds
    unfold Hub.post
    split <;> rfl
  · exact ⟨⟨rfl, follows_refl s⟩, rfl⟩

lemma worked_setFeedTask {number : Nat} {f : MetricsFeed} (task : FeedTask)
    (hf : s.hub.feeds[number]? = some f) (hrunning : f.task ≠ .ended) :
    Worked s (s.setFeedTask number task) := by
  refine worked_hub s _ (hubFollows_feeds s.hub _ ?_)
  intro h0
  have hz := ((allHandles_eq_zero_iff s.hub).mp h0).2 f (List.mem_of_getElem? hf)
  unfold MetricsFeed.handles at hz
  rw [if_neg hrunning] at hz
  omega

lemma worked_feed {number : Nat} {f : MetricsFeed} (hf : s.hub.feeds[number]? = some f)
    (hs : s.stepFeed number f = some s') : Worked s s' := by
  obtain ⟨asks, task, turn, rfl⟩ := feed_turn hs
  have hrunning := feedTurn_running turn
  cases asks with
  | false =>
    rw [← setFeedTask_eq]
    exact worked_setFeedTask task hf hrunning
  | true =>
    obtain ⟨hr, hfeeds⟩ := worked_request s hf hrunning
    rw [← requested_eq]
    exact worked_trans hr (worked_setFeedTask task (hfeeds ▸ hf) hrunning)

/-- A task leaves the supervisor alone, and does no more than tasks can do. -/
theorem worked_task {t : Task} (hs : s.stepTask t = some s') : Worked s s' := by
  unfold Client.stepTask at hs
  split at hs
  case h_1 number =>
    split at hs
    case h_1 h hh =>
      split at hs
      · exact worked_hook hh hs
      · cases hs
    case h_2 => cases hs
  case h_2 number =>
    split at hs
    case h_1 f hf => exact worked_feed hf hs
    case h_2 => cases hs
  case h_3 => exact worked_listener hs
  case h_4 number =>
    split at hs
    case h_1 w hw => exact worked_worker hs
    case h_2 => cases hs

end Tasks

end SteadyLink.Proofs
