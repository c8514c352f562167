import SteadyLink.Proofs.FeedTasks

/-!
# The numbers of events

Events are numbered one after another in the order in which they are published, whoever publishes
them: the first is number one, and no number is left out.
-/

namespace SteadyLink.Proofs

open Hub

/-- The events that were published have the numbers from one on, and the bus has counted them. -/
structure Numbered (hub : Hub) : Prop where
  numbers : (announced hub).map Event.seq = List.range' 1 hub.bus.published

section Hubs

variable {a b hub : Hub}

lemma numbered_same (h : Numbered a) (announced_eq : announced b = announced a)
    (published_eq : b.bus.published = a.bus.published) : Numbered b := by
  constructor
  rw [announced_eq, published_eq]
  exact h.numbers

lemma numbered_publish (h : Numbered hub) (e : Event) : Numbered (hub.publish e) := by
  have hannounced : announced (hub.publish e) = announced hub ++ [hub.bus.stamp e] :=
    announced_note { hub with bus := hub.bus.publish e } _
  constructor
  show (announced (hub.publish e)).map Event.seq = List.range' 1 (hub.bus.published + 1)
  rw [hannounced, List.map_append, h.numbers, List.range'_concat]
  show List.range' 1 hub.bus.published ++ [hub.bus.published + 1] = _
  rw [Nat.one_mul, Nat.add_comm]

lemma numbered_note (h : Numbered hub) (note : Happening) (other : ∀ e, note ≠ .published e) :
    Numbered (hub.note note) := by
  refine numbered_same h ?_ rfl
  rw [announced_note]
  cases note with
  | published e => exact absurd rfl (other e)
  | _ => exact List.append_nil _

lemma numbered_replay (h : Numbered hub) (mark : Mark) : Numbered (mark.replay hub) := by
  cases mark with
  | called callback e =>
    cases callback with
    | body tag actions => exact numbered_note h (.called tag e.kind e.payload) (by simp)
    | feed number role => exact numbered_same h rfl rfl
  | performed action reply =>
    cases action with
    | call c =>
      have hcall : Numbered (hub.call c).1 := by
        refine numbered_same h ?_ (congrArg Bus.published (call_shows hub c).2)
        rw [announced, call_journal]
        rfl
      exact numbered_note hcall (.performed (.call c) reply) (by simp)
    | dispatch kind payload =>
      exact numbered_note h (.performed (.dispatch kind payload) reply) (by simp)
    | panic p => exact numbered_note h (.performed (.panic p) reply) (by simp)
  | panicked kind p => exact numbered_publish h (.subscriberPanicked kind p.info)

lemma numbered_deliver (h : Numbered hub) (listed : Listed hub) (e : Envelope) :
    Numbered (hub.deliver e) :=
  deliver_keeps e listed h fun _ mark h => numbered_replay h mark

end Hubs

section Steps

variable {s s' : Client} {choice : Choice}

lemma numbered_publishAll (events : List Event) {s : Client} (h : Numbered s.hub) :
    Numbered (events.foldl Client.publish s).hub := by
  induction events generalizing s with
  | nil => exact h
  | cons e events ih =>
    have first : Numbered (s.publish e).hub := numbered_publish h e
    exact ih first

lemma numbered_applyAll (es : List Effect) {s : Client} (h : Numbered s.hub) (listed : Listed s.hub)
    (plain : ∀ event, .publish event ∈ es → event.kind ≠ .stateChanged) :
    Numbered (es.foldl Client.apply s).hub := by
  refine applyAll_keeps listed plain h fun s e listed h => ?_
  cases e with
  | moved source target =>
    have shown : Numbered { s.hub with state := target, stateChanges := s.hub.stateChanges + 1 } :=
      numbered_same h rfl rfl
    exact numbered_publish shown (.stateChanged source target)
  | dispatch m => exact numbered_deliver h listed m
  | connect => exact numbered_note h .attempted (by simp)
  | wrote session command frame => exact numbered_note h (.wrote session frame) (by simp)
  | publish event => exact numbered_publish h event
  | evicted command cause =>
    exact numbered_publish h (.commandEvicted command.envelope.kind cause.reason)
  | _ => exact h

lemma numbered_worker {number : Nat} {w : Worker} (h : Numbered s.hub)
    (hs : s.stepWorker number w = some s') : Numbered s'.hub := by
  unfold Client.stepWorker at hs
  split at hs
  case h_1 e w' _ =>
    have seen : Numbered (if w'.observer.isVisible then
        (s.setWorker number w').onHub (·.note (.observed number e.kind))
        else s.setWorker number w').hub := by
      split
      · exact numbered_note h (.observed number e.kind) (by simp)
      · exact h
    simp only at hs
    split at hs
    case h_1 report _ =>
      obtain rfl := Option.some.inj hs
      exact numbered_publish seen report
    case h_2 =>
      obtain rfl := Option.some.inj hs
      exact seen
  case h_2 =>
    obtain ⟨w', -, rfl⟩ := Option.map_eq_some_iff.mp hs
    exact h

lemma numbered_listener (h : Numbered s.hub) (hs : s.stepListener = some s') :
    Numbered s'.hub := by
  have read (id : Nat) : Numbered { s.hub with bus := (s.hub.bus.receive id).2 } :=
    numbered_same h rfl (receive_published s.hub.bus id)
  cases stepListener_run hs with
  | hears id e => exact numbered_publishAll _ (read id)
  | skips id => exact read id
  | _ => exact h

theorem next_numbered (w : Wired s) (h : Numbered s.hub) (taken : next? s choice = some s') :
    Numbered s'.hub := by
  obtain ⟨es, a⟩ := next_aired w taken
  have quiet (none : es = []) : announced s'.hub = announced s.hub := by
    rw [a.hub.announced, none, List.append_nil]
  cases hst : stimulusOf? s choice with
  | some stimulus =>
    obtain ⟨draw, rest, supervisor, es, hstep, -, rfl⟩ := next_turn hst taken
    have before : Numbered (stepped s rest supervisor).hub := numbered_same h rfl rfl
    have after := numbered_applyAll es before w.listed (step_plain w.aligned hstep)
    unfold Client.settleEnd
    split
    · exact numbered_same after rfl rfl
    · exact after
  | none =>
    cases choice with
    | take => cases hst
    | meet => cases hst
    | pass now =>
      obtain rfl := Option.some.inj taken
      exact numbered_same h rfl rfl
    | deed d =>
      obtain rfl := Option.some.inj taken
      exact numbered_same h (quiet (a.rest nofun rfl)) (act_counts s d).2
    | work t =>
      cases t with
      | hook i =>
        obtain ⟨g, -, -, hs⟩ := runner_there taken rfl
        obtain ⟨bus, notes, hhub, hpublished⟩ := hook_hub hs
        refine numbered_same h (quiet (List.map_eq_nil_iff.mp (a.work _ rfl))) ?_
        rw [hhub]
        exact hpublished
      | feed k =>
        obtain ⟨f, -, hs⟩ := runs_feed taken
        obtain ⟨asks, task, -, rfl⟩ := feed_turn hs
        exact numbered_same h rfl rfl
      | listener => exact numbered_listener h taken
      | worker k =>
        have hs : s.stepTask (.worker k) = some s' := taken
        unfold Client.stepTask at hs
        simp only at hs
        split at hs
        case h_1 w' _ => exact numbered_worker h hs
        case h_2 => cases hs

end Steps

/-- From the beginning on the events have the numbers one, two and so on. -/
theorem journey_numbered {c : Config} {observers : List Observer} {trail : Trail} {s : Client}
    (j : Journey (.fresh c observers) trail s) :
    (announced s.hub).map Event.seq = List.range' 1 (announced s.hub).length := by
  have fresh : Numbered (Client.fresh c observers).hub := by
    unfold Client.fresh
    split <;> exact ⟨rfl⟩
  have numbered : Numbered s.hub := by
    induction j with
    | start => exact fresh
    | step choice past taken ih =>
      exact next_numbered (journey_wired (fresh_wired c observers) past) ih taken
  have hlength : (announced s.hub).length = s.hub.bus.published := by
    simpa using congrArg List.length numbered.numbers
  rw [hlength]
  exact numbered.numbers

end SteadyLink.Proofs
