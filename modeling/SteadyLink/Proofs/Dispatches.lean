import SteadyLink.Proofs.Callbacks
import SteadyLink.Proofs.Registrations

/-!
# Dispatch from inside callbacks

What goes on during a dispatch, as a list of marks: which callbacks are called, what they do, and which
of them panic. Callbacks change the registrations and dispatch in turn. The dispatch that has called
them goes on all the same with the callbacks it found when it began.
-/

namespace SteadyLink.Proofs

open Hub

/-! ## Marks -/

inductive Mark where
  | called (callback : Callback) (e : Envelope)
  /-- A step of a body has been done. -/
  | performed (a : Action) (r : Reply)
  /-- A callback for messages of this kind has ended in a panic. -/
  | panicked (kind : String) (p : Panic)

namespace Mark

/-- What a hub comes to. Where a callback dispatches, the marks of that dispatch stand before. -/
def replay (hub : Hub) : Mark → Hub
  | called (.body tag _) e => hub.note (.called tag e.kind e.payload)
  | called (.feed number role) e =>
    { hub with feeds := hub.feeds.modify number (·.receive role e.payload) }
  | performed (.call c) r => (hub.call c).1.note (.performed (.call c) r)
  | performed a r => hub.note (.performed a r)
  | panicked kind p => hub.publish (.subscriberPanicked kind p.info)

def change? : Mark → Option (Change Callback)
  | performed (.call (.subscribe kind tag body)) (.subscribed _) =>
    some (.insert kind (.body tag body))
  | performed (.call (.unsubscribe id)) (.unsubscribed _) => some (.remove id)
  | _ => none

def report? : Mark → Option Event
  | panicked kind p => some (.subscriberPanicked kind p.info)
  | _ => none

end Mark

/-- The changes that callbacks make to the registrations, in the order they make them. -/
def changes (marks : List Mark) : List (Change Callback) := marks.filterMap Mark.change?

def reports (marks : List Mark) : List Event := marks.filterMap Mark.report?

def Roll.after (roll : Roll Callback) (marks : List Mark) : Roll Callback :=
  (changeAll Change.onRoll (changes marks) roll).2

/-! ## What a dispatch may do -/

/-- The reply agrees with the list of registrations, where that is asked. -/
def Answered (handles : Nat) (roll : Roll Callback) (r : Reply) : Call → Prop
  | .subscribe kind tag body =>
    r = if handles = 0 then .noClient
      else if Text.isBlank kind then .failed .emptyType
      else .subscribed (roll.insert kind (.body tag body)).1
  | .unsubscribe id => r = if handles = 0 then .noClient else .unsubscribed (roll.remove id).1
  | .count kind => r = if handles = 0 then .noClient else .counted (roll.ofKind kind).length
  | _ => True

/-- A feed has no body of its own. -/
def bodyOf : Callback → List Action
  | .body _ actions => actions
  | .feed .. => []

def told (kind : String) : Option Panic → List Mark
  | none => []
  | some p => [.panicked kind p]

mutual

/-- A dispatch calls the callbacks that the list has for the kind when it begins, and gives their
number. -/
inductive Dispatched (handles : Nat) : Roll Callback → Envelope → Nat → List Mark → Prop where
  | intro {roll : Roll Callback} {e : Envelope} {marks : List Mark}
      (visited : Visited handles roll e ((roll.ofKind e.kind).map (·.handler)) marks) :
      Dispatched handles roll e (roll.ofKind e.kind).length marks

/-- Callbacks are called one after another with the same message. One that panics is reported at once,
and the next one is called. -/
inductive Visited (handles : Nat) :
    Roll Callback → Envelope → List Callback → List Mark → Prop where
  | nil {roll : Roll Callback} {e : Envelope} : Visited handles roll e [] []
  | cons {roll : Roll Callback} {e : Envelope} {callback : Callback} {rest : List Callback}
      {own later : List Mark} {panic : Option Panic}
      (ran : Ran handles roll (bodyOf callback) own panic)
      (visited : Visited handles (roll.after own) e rest later) :
      Visited handles roll e (callback :: rest)
        (.called callback e :: (own ++ (told e.kind panic ++ later)))

/-- A body runs to its end, or to a panic of its own. A dispatch in it comes back with the number of
callbacks, whether these panic or not. -/
inductive Ran (handles : Nat) :
    Roll Callback → List Action → List Mark → Option Panic → Prop where
  | finished {roll : Roll Callback} : Ran handles roll [] [] none
  | panicked {roll : Roll Callback} {p : Panic} {rest : List Action} :
      Ran handles roll (.panic p :: rest) [] (some p)
  | called {roll : Roll Callback} {c : Call} {r : Reply} {rest : List Action} {later : List Mark}
      {panic : Option Panic} (answered : Answered handles roll r c)
      (ran : Ran handles (roll.after [.performed (.call c) r]) rest later panic) :
      Ran handles roll (.call c :: rest) (.performed (.call c) r :: later) panic
  | refused {roll : Roll Callback} {kind : String} {payload : Json} {error : ClientError}
      {rest : List Action} {later : List Mark} {panic : Option Panic}
      (blank : Envelope.ofKind kind payload = .error error)
      (ran : Ran handles roll rest later panic) :
      Ran handles roll (.dispatch kind payload :: rest)
        (.performed (.dispatch kind payload) (.failed error) :: later) panic
  | dispatched {roll : Roll Callback} {kind : String} {payload : Json} {e : Envelope} {n : Nat}
      {rest : List Action} {inner later : List Mark} {panic : Option Panic}
      (proper : Envelope.ofKind kind payload = .ok e)
      (dispatched : Dispatched handles roll e n inner)
      (ran : Ran handles (roll.after inner) rest later panic) :
      Ran handles roll (.dispatch kind payload :: rest)
        (inner ++ .performed (.dispatch kind payload) (.dispatched n) :: later) panic

end

/-! ## What marks make of a hub -/

/-- The marks lead from the first hub to the second one. -/
structure Traced (a b : Hub) (marks : List Mark) : Prop where
  replayed : b = marks.foldl Mark.replay a
  registry : b.registry = (changeAll Change.onRegistry (changes marks) a.registry).2
  bus : b.bus = (reports marks).foldl Bus.publish a.bus
  handles : b.handles = a.handles

section Traced

variable {a b d hub hub' : Hub} {marks later : List Mark} {roll : Roll Callback}

lemma traced_nil (a : Hub) : Traced a a [] := ⟨rfl, rfl, rfl, rfl⟩

lemma traced_append (h : Traced a b marks) (h' : Traced b d later) : Traced a d (marks ++ later) where
  replayed := by rw [List.foldl_append, ← h.replayed, h'.replayed]
  registry := by
    have whole : changes (marks ++ later) = changes marks ++ changes later := List.filterMap_append
    rw [whole, changeAll_append, ← h.registry, h'.registry]
  bus := by
    have whole : reports (marks ++ later) = reports marks ++ reports later := List.filterMap_append
    rw [whole, List.foldl_append, ← h.bus, h'.bus]
  handles := h'.handles.trans h.handles

lemma traced_cons {mark : Mark} (h : Traced a b [mark]) (h' : Traced b d later) :
    Traced a d (mark :: later) := traced_append h h'

lemma traced_performed (hub : Hub) (kind : String) (payload : Json) (r : Reply) :
    Traced hub (hub.note (.performed (.dispatch kind payload) r))
      [.performed (.dispatch kind payload) r] :=
  ⟨rfl, rfl, rfl, rfl⟩

lemma traced_report (hub : Hub) (kind : String) (panic : Option Panic) :
    Traced hub (hub.report kind panic) (told kind panic) := by
  cases panic with
  | none => exact traced_nil hub
  | some p => exact ⟨rfl, rfl, rfl, rfl⟩

lemma report_registry (hub : Hub) (kind : String) (panic : Option Panic) :
    (hub.report kind panic).registry = hub.registry := by
  cases panic with
  | none => rfl
  | some p => rfl

lemma post_kept (hub : Hub) (c : Control) :
    (hub.post c).1.registry = hub.registry ∧ (hub.post c).1.bus = hub.bus := by
  unfold post
  split
  · exact ⟨rfl, rfl⟩
  · exact ⟨rfl, rfl⟩

lemma postEnvelope_kept (hub : Hub) (r : Except ClientError Envelope) :
    (hub.postEnvelope r).1.registry = hub.registry ∧ (hub.postEnvelope r).1.bus = hub.bus := by
  cases r with
  | ok e => exact post_kept hub (.send e)
  | error e => exact ⟨rfl, rfl⟩

/-- The registry and the bus after a call, where the reply shows the change. -/
def Shows (hub : Hub) (c : Call) (x : Hub × Reply) : Prop :=
  x.1.registry = (changeAll Change.onRegistry (changes [.performed (.call c) x.2]) hub.registry).2 ∧
    x.1.bus = hub.bus

lemma shows_unchanged {c : Call} {x : Hub × Reply}
    (silent : Mark.change? (.performed (.call c) x.2) = none)
    (kept : x.1.registry = hub.registry ∧ x.1.bus = hub.bus) : Shows hub c x := by
  refine ⟨?_, kept.2⟩
  rw [changes, List.filterMap_cons_none silent]
  exact kept.1

lemma call_shows (hub : Hub) (c : Call) : Shows hub c (hub.call c) := by
  have posts {c : Call} (request : Control)
      (silent : ∀ r, Mark.change? (.performed (.call c) r) = none) :
      Shows hub c (hub.post request) := shows_unchanged (silent _) (post_kept hub request)
  have sends {c : Call} (r : Except ClientError Envelope)
      (silent : ∀ r, Mark.change? (.performed (.call c) r) = none) :
      Shows hub c (hub.postEnvelope r) := shows_unchanged (silent _) (postEnvelope_kept hub r)
  unfold call
  by_cases hh : hub.handles = 0
  · rw [if_pos hh]
    refine shows_unchanged ?_ ⟨rfl, rfl⟩
    cases c <;> rfl
  · rw [if_neg hh]
    cases c with
    | start => exact posts .start fun _ => rfl
    | stop => exact posts .stop fun _ => rfl
    | send kind payload => exact sends (Envelope.ofKind kind payload) fun _ => rfl
    | sendEnvelope kind payload layout => exact sends _ fun _ => rfl
    | chat text => exact sends (Envelope.chat text) fun _ => rfl
    | ping => exact posts (.send Envelope.ping) fun _ => rfl
    | requestMetrics category => exact posts (.send (Envelope.requestMetrics category)) fun _ => rfl
    | subscribe kind tag body =>
      by_cases hk : Text.isBlank kind = true
      · simp only [subscribe, if_pos hk]
        exact shows_unchanged rfl ⟨rfl, rfl⟩
      · simp only [subscribe, if_neg hk]
        exact ⟨rfl, rfl⟩
    | unsubscribe id => exact ⟨rfl, rfl⟩
    | count kind => exact shows_unchanged rfl ⟨rfl, rfl⟩
    | state => exact shows_unchanged rfl ⟨rfl, rfl⟩

lemma traced_call (hub : Hub) (c : Call) :
    Traced hub ((hub.call c).1.note (.performed (.call c) (hub.call c).2))
      [.performed (.call c) (hub.call c).2] where
  replayed := rfl
  registry := (call_shows hub c).1
  bus := (call_shows hub c).2
  handles := (called_call hub c).handles

/-- The registry answers calls as the list does. -/
lemma answered_call (hub : Hub) (known : Represents hub.registry roll) (c : Call) :
    Answered hub.handles roll (hub.call c).2 c := by
  unfold call
  by_cases hh : hub.handles = 0
  · cases c with
    | subscribe kind tag body => simp [Answered, hh]
    | unsubscribe id => simp [Answered, hh]
    | count kind => simp [Answered, hh]
    | _ => trivial
  · cases c with
    | subscribe kind tag body =>
      have answer := (represents_insert known kind (.body tag body)).1
      by_cases hk : Text.isBlank kind = true
      · simp [Answered, hh, subscribe, hk]
      · simp [Answered, hh, subscribe, hk, answer]
    | unsubscribe id =>
      have answer := (represents_remove known id).1
      simp [Answered, hh, unsubscribe, answer]
    | count kind => simp [Answered, hh, represents_count known]
    | _ => trivial

lemma traced_represents (known : Represents a.registry roll) (h : Traced a b marks) :
    Represents b.registry (roll.after marks) := by
  rw [h.registry]
  exact (represents_changeAll known (changes marks)).2

end Traced

/-! ## Every dispatch -/

section Dispatch

variable {hub hub' : Hub} {roll : Roll Callback} {inner : Dispatcher}

/-- What a dispatcher does can be marked, whatever the registry. -/
def Faithful (inner : Dispatcher) : Prop :=
  ∀ e hub hub' n roll, Represents hub.registry roll → inner e hub = some (hub', n) →
    ∃ marks, Dispatched hub.handles roll e n marks ∧ Traced hub hub' marks

lemma runBody_ran {actions : List Action} {panic : Option Panic} (faithful : Faithful inner)
    (known : Represents hub.registry roll) (h : runBody inner actions hub = some (hub', panic)) :
    ∃ marks, Ran hub.handles roll actions marks panic ∧ Traced hub hub' marks := by
  induction actions generalizing hub roll with
  | nil =>
    simp only [runBody, Option.some.injEq, Prod.mk.injEq] at h
    obtain ⟨rfl, rfl⟩ := h
    exact ⟨[], .finished, traced_nil hub⟩
  | cons action rest ih =>
    cases action with
    | call c =>
      have trace := traced_call hub c
      obtain ⟨later, ran, traced⟩ := ih (traced_represents known trace) h
      rw [trace.handles] at ran
      exact ⟨_, .called (answered_call hub known c) ran, traced_cons trace traced⟩
    | dispatch kind payload =>
      cases proper : Envelope.ofKind kind payload with
      | error error =>
        simp only [runBody, perform, proper] at h
        have trace := traced_performed hub kind payload (.failed error)
        obtain ⟨later, ran, traced⟩ := ih (traced_represents known trace) h
        exact ⟨_, .refused proper ran, traced_cons trace traced⟩
      | ok e =>
        cases answer : inner e hub with
        | none => simp [runBody, perform, proper, answer] at h
        | some answer' =>
          obtain ⟨hub₁, n⟩ := answer'
          simp only [runBody, perform, proper, answer, Option.map_some] at h
          obtain ⟨marks, dispatched, trace⟩ := faithful e hub hub₁ n roll known answer
          have back := traced_performed hub₁ kind payload (.dispatched n)
          obtain ⟨later, ran, traced⟩ := ih (traced_represents (traced_represents known trace) back) h
          rw [back.handles, trace.handles] at ran
          exact ⟨_, .dispatched proper dispatched ran, traced_append trace (traced_cons back traced)⟩
    | panic p =>
      simp only [runBody, perform, Option.some.injEq, Prod.mk.injEq] at h
      obtain ⟨rfl, rfl⟩ := h
      exact ⟨[], .panicked, traced_nil hub⟩

lemma invoke_ran {e : Envelope} {callback : Callback} {panic : Option Panic}
    (faithful : Faithful inner) (known : Represents hub.registry roll)
    (h : invoke inner e callback hub = some (hub', panic)) :
    ∃ own, Ran hub.handles roll (bodyOf callback) own panic ∧
      Traced hub hub' (.called callback e :: own) := by
  cases callback with
  | body tag actions =>
    have trace : Traced hub (hub.note (.called tag e.kind e.payload)) [.called (.body tag actions) e] :=
      ⟨rfl, rfl, rfl, rfl⟩
    obtain ⟨own, ran, traced⟩ := runBody_ran faithful (traced_represents known trace) h
    exact ⟨own, ran, traced_cons trace traced⟩
  | feed number role =>
    simp only [invoke, Option.some.injEq, Prod.mk.injEq] at h
    obtain ⟨rfl, rfl⟩ := h
    exact ⟨[], .finished, rfl, rfl, rfl, rfl⟩

lemma invokeAll_visited {e : Envelope} {callbacks : List Callback} (faithful : Faithful inner)
    (known : Represents hub.registry roll) (h : invokeAll inner e callbacks hub = some hub') :
    ∃ marks, Visited hub.handles roll e callbacks marks ∧ Traced hub hub' marks := by
  induction callbacks generalizing hub roll with
  | nil =>
    obtain rfl := Option.some.inj h
    exact ⟨[], .nil, traced_nil hub⟩
  | cons callback rest ih =>
    unfold invokeAll at h
    split at h
    case h_1 => cases h
    case h_2 hub₁ panic invoked =>
      obtain ⟨own, ran, trace⟩ := invoke_ran faithful known invoked
      have report := traced_report hub₁ e.kind panic
      have known₁ := traced_represents known trace
      rw [← report_registry hub₁ e.kind panic] at known₁
      obtain ⟨later, visited, traced⟩ := ih known₁ h
      rw [report.handles, trace.handles] at visited
      exact ⟨_, .cons ran visited, traced_append trace (traced_append report traced)⟩

/-- Dispatch can be marked, however deep it nests. -/
theorem dispatch_faithful (depth : Nat) : Faithful (dispatch depth) := by
  induction depth with
  | zero =>
    intro e hub hub' n roll known h
    cases h
  | succ depth ih =>
    intro e hub hub' n roll known h
    simp only [dispatch, Option.map_eq_some_iff, Prod.mk.injEq] at h
    obtain ⟨hub₁, h₁, rfl, rfl⟩ := h
    rw [represents_snapshot known] at h₁ ⊢
    obtain ⟨marks, visited, traced⟩ := invokeAll_visited ih known h₁
    rw [List.length_map]
    exact ⟨marks, .intro visited, traced⟩

end Dispatch

/-! ## Nesting -/

section Nesting

variable {hub hub' : Hub} {inner outer : Dispatcher}

end Nesting

/-! ## Dispatches that come to an end -/

section Ends

variable {handles n : Nat} {roll : Roll Callback} {e : Envelope} {hub : Hub}
variable {own inner later marks : List Mark} {panic : Option Panic} {rest : List Action}

lemma after_append (roll : Roll Callback) (first later : List Mark) :
    roll.after (first ++ later) = (roll.after first).after later := by
  have whole : changes (first ++ later) = changes first ++ changes later := List.filterMap_append
  rw [Roll.after, whole, changeAll_append]
  rfl

end Ends

end SteadyLink.Proofs
