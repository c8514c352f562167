import SteadyLink.Proofs.Listeners
import SteadyLink.Proofs.SessionEnds

/-!
# Listeners along a run

A turn of the supervisor airs the events of its effects, so that every step of a client airs something
or nothing, and what is wired well stays so on every journey from the beginning.
-/

namespace SteadyLink.Proofs

section Effects

variable {s : Client}

lemma reports_kind (marks : List Mark) {e : Event} (he : e ∈ reports marks) :
    e.kind = .subscriberPanicked := by
  obtain ⟨mark, -, hm⟩ := List.mem_filterMap.mp he
  cases mark with
  | called callback m => cases hm
  | performed a r => cases hm
  | panicked kind p =>
    obtain rfl := Option.some.inj hm
    rfl

lemma transition_other {e : Event} (he : e.kind ≠ .stateChanged) : transition? e = none := if_neg he

lemma transitions_none {es : List Event} (hes : ∀ e ∈ es, e.kind ≠ .stateChanged) :
    es.filterMap transition? = [] :=
  List.filterMap_eq_nil_iff.mpr fun e he => transition_other (hes e he)

lemma hooks_quiet (s : Client) {es : List Event} (hes : es.filterMap transition? = []) :
    s.hooks = s.hooks.map (overheard es false) := by
  have hid : overheard es false = id := funext fun h => overheard_quiet h es hes
  rw [hid, List.map_id]

/-- What an effect puts on the bus, every hook for transitions has as well. -/
lemma airs_apply (hears silent : Nat → Prop) (s : Client) (e : Effect) (listed : Listed s.hub)
    (plain : ∀ event, e = .publish event → event.kind ≠ .stateChanged) :
    ∃ es, Airs hears silent s.hub es (s.apply e).hub ∧ Tells s e (es.map unnumbered) ∧
      (s.apply e).hooks = s.hooks.map (overheard es false) := by
  have publishes {e : Effect} {event : Event} (he : e.event? = some event)
      (hkind : event.kind ≠ .stateChanged) :
      ∃ es, Airs hears silent s.hub es (s.publish event).hub ∧ Tells s e (es.map unnumbered) ∧
        (s.publish event).hooks = s.hooks.map (overheard es false) := by
    have htells : Tells s e [unnumbered event] := .event he
    refine ⟨[s.hub.bus.stamp event], airs_publish s.hub event, htells, hooks_quiet s ?_⟩
    exact transitions_none (List.forall_mem_singleton.mpr hkind)
  have keeps {e : Effect} (he : e.event? = none) (other : ∀ m, e ≠ .dispatch m) (hub : Hub)
      (h : Airs hears silent s.hub [] hub) :
      ∃ es, Airs hears silent s.hub es hub ∧ Tells s e (es.map unnumbered) ∧
        s.hooks = s.hooks.map (overheard es false) :=
    ⟨[], h, .nothing he other, hooks_quiet s rfl⟩
  cases e with
  | moved source target =>
    have hstate : Airs hears silent s.hub []
        { s.hub with state := target, stateChanges := s.hub.stateChanges + 1 } :=
      airs_kept rfl rfl id
    have htells : Tells s (.moved source target) [unnumbered (.stateChanged source target)] :=
      .event rfl
    refine ⟨_, airs_trans hstate (airs_publish _ (.stateChanged source target)), htells, ?_⟩
    exact List.map_congr_left fun h _ => notify_overheard h source target _
  | dispatch m =>
    obtain ⟨marks, es, delivered, h, hes⟩ := airs_deliver hears silent s.hub m listed
    refine ⟨es, h, hes ▸ .dispatch delivered, hooks_quiet s ?_⟩
    rw [← transitions_unnumbered, hes]
    refine transitions_none fun e he => ?_
    rw [reports_kind marks he]
    exact nofun
  | publish event => exact publishes rfl (plain event rfl)
  | evicted command cause => exact publishes rfl (by simp)
  | connect => exact keeps rfl (by simp) _ (airs_note s.hub _ (by simp) fun _ _ => rfl)
  | wrote session command frame =>
    exact keeps rfl (by simp) _ (airs_note s.hub _ (by simp) fun _ _ => rfl)
  | began stage => exact keeps rfl (by simp) s.hub (airs_refl s.hub)
  | refused source target => exact keeps rfl (by simp) s.hub (airs_refl s.hub)
  | write session command frame => exact keeps rfl (by simp) s.hub (airs_refl s.hub)
  | close session => exact keeps rfl (by simp) s.hub (airs_refl s.hub)
  | drop session => exact keeps rfl (by simp) s.hub (airs_refl s.hub)

lemma airs_applyAll (hears silent : Nat → Prop) (effects : List Effect) (s : Client)
    (listed : Listed s.hub) (plain : ∀ event, .publish event ∈ effects → event.kind ≠ .stateChanged) :
    ∃ es, Airs hears silent s.hub es (effects.foldl Client.apply s).hub ∧
      TellsAll s effects (es.map unnumbered) ∧
      (effects.foldl Client.apply s).hooks = s.hooks.map (overheard es false) := by
  induction effects generalizing s with
  | nil => exact ⟨[], airs_refl s.hub, .nil, hooks_quiet s rfl⟩
  | cons e effects ih =>
    obtain ⟨es, h, tells, hooks⟩ := airs_apply hears silent s e listed
      fun event he => plain event (he ▸ List.mem_cons_self)
    obtain ⟨fs, h', later, hooks'⟩ := ih (s.apply e) (h.listed listed)
      fun event he => plain event (List.mem_cons_of_mem _ he)
    refine ⟨es ++ fs, airs_trans h h', ?_, ?_⟩
    · rw [List.map_append]
      exact .cons tells later
    · rw [List.foldl_cons, hooks', hooks, List.map_map]
      exact List.map_congr_left fun h _ => overheard_append h es fs

/-- What every effect keeps, a turn keeps. -/
lemma applyAll_keeps {P : Hub → Prop} {effects : List Effect} {s : Client} (listed : Listed s.hub)
    (plain : ∀ event, .publish event ∈ effects → event.kind ≠ .stateChanged) (start : P s.hub)
    (effect : ∀ (s : Client) e, Listed s.hub → P s.hub → P (s.apply e).hub) :
    P (effects.foldl Client.apply s).hub := by
  induction effects generalizing s with
  | nil => exact start
  | cons e effects ih =>
    obtain ⟨_, airs, -, -⟩ := airs_apply (fun _ => True) (fun _ => True) s e listed
      fun event he => plain event (he ▸ List.mem_cons_self)
    exact ih (airs.listed listed) (fun event he => plain event (List.mem_cons_of_mem _ he))
      (effect s e listed start)

lemma applyAll_rest (effects : List Effect) (s : Client) :
    (effects.foldl Client.apply s).listener = s.listener ∧
      (effects.foldl Client.apply s).listening = s.listening ∧
      (effects.foldl Client.apply s).observers = s.observers ∧
      (effects.foldl Client.apply s).shutdown = s.shutdown := by
  induction effects generalizing s with
  | nil => exact ⟨rfl, rfl, rfl, rfl⟩
  | cons e effects ih =>
    obtain ⟨hl, hp, ho, hs⟩ := ih (s.apply e)
    rw [List.foldl_cons, hl, hp, ho, hs]
    cases e <;> exact ⟨rfl, rfl, rfl, rfl⟩

lemma airs_settleEnd {hears silent : Nat → Prop} (s : Client) :
    Airs hears silent s.hub [] s.settleEnd.hub := by
  unfold Client.settleEnd
  split
  · exact airs_kept rfl rfl id
  · exact airs_refl s.hub

lemma settleEnd_tasks (s : Client) : s.settleEnd.listener = s.listener ∧
    s.settleEnd.listening = s.listening ∧ s.settleEnd.observers = s.observers ∧
    s.settleEnd.shutdown = (s.shutdown || decide (s.supervisor.phase = .exited)) := by
  unfold Client.settleEnd
  split
  case isTrue => exact ⟨rfl, rfl, rfl, rfl⟩
  case isFalse hg =>
    have hphase : s.supervisor.phase ≠ .exited := by
      intro hp
      simp [Supervisor.isGone, hp] at hg
    simp [hphase]

end Effects

section Steps

variable {s s' : Client} {choice : Choice} {es : List Event}

theorem aired_turn (w : Wired s) {stimulus : Stimulus} (hst : stimulusOf? s choice = some stimulus)
    (h : next? s choice = some s') : ∃ es, Aired s choice es s' := by
  obtain ⟨draw, rest, supervisor, effects, hstep, hrest, rfl⟩ := next_turn hst h
  obtain ⟨es, hairs, htells, hhooks⟩ := airs_applyAll (fun _ => True)
    (fun _ => True) effects (stepped s rest supervisor) w.listed (step_plain w.aligned hstep)
  obtain ⟨hlistener, -, -, hshutdown⟩ := applyAll_rest effects (stepped s rest supervisor)
  have hsupervisor := applyAll_supervisor effects (stepped s rest supervisor)
  generalize effects.foldl Client.apply (stepped s rest supervisor) = mid at *
  obtain ⟨hs, -, hh, -, -, -⟩ := settleEnd_rest mid
  obtain ⟨hl, -, -, hend⟩ := settleEnd_tasks mid
  have htask (t : Task) : choice ≠ .work t := by
    rintro rfl
    cases hst
  have hremoved : removed? choice = none := by
    cases choice with
    | deed d => cases hst
    | _ => rfl
  have hhooks : mid.settleEnd.hooks = s.hooks.map (overheard es false) := hh.trans hhooks
  refine ⟨es, ?_, ?_, ?_, ?_, ?_, ?_, ?_, ?_, ?_, ?_⟩
  · have hbase : Airs (fun _ => True) (fun _ => True) s.hub [] { s.hub with mailbox := rest } :=
      airs_kept rfl rfl id
    have hall := airs_trans hbase (airs_trans hairs (airs_settleEnd mid))
    rw [List.nil_append, List.append_nil] at hall
    exact airs_mono hall (fun _ _ _ => trivial) fun _ _ => trivial
  · exact Nat.le_of_eq (by rw [hhooks, List.length_map])
  · intro i _ _
    rw [hhooks, List.getElem?_map, hremoved]
    rfl
  · exact newcomers_none (by rw [hhooks, List.length_map])
  · refine .fewer ?_
    show (mid.settleEnd.listener.toList ++ mid.settleEnd.hooks.filterMap receiverOf?).Sublist _
    rw [hl, hlistener, hhooks, List.filterMap_map]
    have hsame : receiverOf? ∘ overheard es false = receiverOf? :=
      funext fun h => receiverOf_overheard h es false
    rw [hsame]
    exact List.Sublist.refl _
  · exact fun t ht => absurd ht (htask t)
  · intro other hother
    rw [hst] at hother
    obtain rfl := Option.some.inj hother
    rw [hs, hsupervisor]
    exact ⟨draw, effects, rest, hstep, hrest, htells⟩
  · intro _ hnone
    rw [hst] at hnone
    cases hnone
  · intro hnone
    rw [hst] at hnone
    cases hnone
  · intro _ _
    rw [hend, hshutdown, hs]
    rfl

/-- Every step airs what it publishes. -/
theorem next_aired (w : Wired s) (h : next? s choice = some s') : ∃ es, Aired s choice es s' := by
  cases choice with
  | deed d =>
    obtain rfl := Option.some.inj h
    exact ⟨[], aired_deed s d⟩
  | pass now =>
    obtain rfl := Option.some.inj h
    exact ⟨[], aired_silent (by simp) rfl rfl _ (airs_kept rfl rfl id)⟩
  | work t => exact aired_work h
  | take draw => exact aired_turn w rfl h
  | meet draw stimulus => exact aired_turn w rfl h

lemma turn_present {stimulus : Stimulus} (a : Aired s choice es s')
    (hst : stimulusOf? s choice = some stimulus) : s.supervisor.isGone = false := by
  obtain ⟨draw, effects, rest, hstep, -, -⟩ := a.turn stimulus hst
  exact step_present hstep

lemma runner_own {i : Nat} (hr : runner? choice = some i) : choice = .work (.hook i) := by
  cases choice with
  | work t =>
    cases t with
    | hook j => exact congrArg (fun j => Choice.work (.hook j)) (Option.some.inj hr)
    | _ => cases hr
  | _ => cases hr

lemma runner_there (taken : next? s choice = some s') {i : Nat} (hr : runner? choice = some i) :
    ∃ h, s.hooks[i]? = some h ∧ h.running = true ∧ s.stepHook i h = some s' := by
  obtain rfl := runner_own hr
  have hs : s.stepTask (.hook i) = some s' := taken
  unfold Client.stepTask at hs
  simp only at hs
  split at hs
  case h_1 h hh =>
    split at hs
    case isTrue hrunning => exact ⟨h, hh, hrunning, hs⟩
    case isFalse => cases hs
  case h_2 => cases hs

/-- A step keeps a client wired. -/
theorem wired_aired (w : Wired s) (taken : next? s choice = some s') (a : Aired s choice es s') :
    Wired s' where
  distinct := by
    cases a.rewired with
    | fewer own => exact w.distinct.sublist own
    | more own next =>
      rw [own, List.nodup_append]
      refine ⟨w.distinct, List.nodup_singleton _, ?_⟩
      intro id hid id' hid'
      have hlt := w.known id hid
      rw [List.mem_singleton.mp hid']
      exact Nat.ne_of_lt hlt
  known := by
    intro id hid
    cases a.rewired with
    | fewer own => exact Nat.lt_of_lt_of_le (w.known id (own.subset hid)) a.hub.subscribed
    | more own next =>
      rw [own, List.mem_append, List.mem_singleton] at hid
      rcases hid with hid | rfl
      · exact Nat.lt_of_lt_of_le (w.known id hid) a.hub.subscribed
      · omega
  publishers := a.hub.publishers ▸ w.publishers
  listed := a.hub.listed w.listed
  aligned := by
    cases hst : stimulusOf? s choice with
    | none => exact (a.still hst).1 ▸ w.aligned
    | some stimulus =>
      obtain ⟨draw, effects, rest, hstep, -, -⟩ := a.turn stimulus hst
      exact turned_aligned w.aligned (step_turned w.aligned hstep)
  ended := by
    cases hst : stimulusOf? s choice with
    | none =>
      obtain ⟨hsupervisor, hshutdown⟩ := a.still hst
      rw [hsupervisor, hshutdown]
      exact w.ended
    | some stimulus =>
      have hrunning : s.shutdown = false := by
        have hthere := turn_present a hst
        rw [← Bool.not_eq_true, w.ended]
        intro hexited
        simp [Supervisor.isGone, hexited] at hthere
      rw [a.ended stimulus hst, hrunning, Bool.false_or, decide_eq_true_iff]
  unheard := by
    intro i hi
    have hout : s.hooks.length ≤ i := Nat.le_trans a.length hi
    rw [a.hub.noticed i, w.unheard i hout]
    intro hr
    obtain ⟨h, hh, -⟩ := runner_there taken hr
    obtain ⟨hlt, -⟩ := List.getElem?_eq_some_iff.mp hh
    omega

end Steps

section Journeys

variable {c : Config} {observers : List Observer} {s₀ s : Client} {trail : Trail}

lemma fresh_wired (c : Config) (observers : List Observer) : Wired (.fresh c observers) := by
  have haligned := fresh_client_aligned c observers
  have hlisted : ∀ hub : Hub, hub.registry = .empty → Listed hub := by
    intro hub hempty
    exact ⟨_, hempty ▸ represents_empty⟩
  unfold Client.fresh at haligned ⊢
  split
  case isTrue ho =>
    exact ⟨List.nodup_nil, by simp [ownReceivers], Nat.one_ne_zero, hlisted _ rfl, fresh_aligned c,
      by simp [Supervisor.fresh], fun _ _ => rfl⟩
  case isFalse ho =>
    exact ⟨List.nodup_singleton _, by simp [ownReceivers, Bus.subscribe], Nat.one_ne_zero,
      hlisted _ rfl, fresh_aligned c, by simp [Supervisor.fresh], fun _ _ => rfl⟩

theorem journey_wired (w : Wired s₀) (j : Journey s₀ trail s) : Wired s := by
  induction j with
  | start => exact w
  | step choice past taken ih =>
    obtain ⟨es, a⟩ := next_aired ih taken
    exact wired_aired ih taken a

end Journeys

end SteadyLink.Proofs
