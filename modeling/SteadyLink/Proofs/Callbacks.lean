import Mathlib.Tactic.Lemma
import SteadyLink.Client.Dispatch

/-!
# Calls and callbacks

What callers and callbacks can do to a hub. They may post requests while somebody takes them and a
handle is left, register and unregister callbacks, and bring feeds up to date; state, time and
handles they leave alone. Dispatch nests, so that this is shown of a dispatch to callbacks from the
same of all dispatch inside them.
-/

namespace SteadyLink.Proofs

open Hub

/-- What calls and callbacks put into the journal. -/
def IsCallNote : Happening → Prop
  | .called .. => True
  | .performed .. => True
  | .published e => e.kind = .subscriberPanicked
  | _ => False

/-- The second hub comes from the first one by calls and callbacks. -/
structure Called (a b : Hub) : Prop where
  now : b.now = a.now
  accepting : b.accepting = a.accepting
  state : b.state = a.state
  stateChanges : b.stateChanges = a.stateChanges
  handles : b.handles = a.handles
  feeds : b.feeds.map MetricsFeed.handles = a.feeds.map MetricsFeed.handles
  mailbox : ∃ posts, b.mailbox = a.mailbox ++ posts ∧
    (posts ≠ [] → a.accepting = true ∧ a.handles ≠ 0)
  journal : ∃ notes, b.journal = notes ++ a.journal ∧ ∀ n ∈ notes, IsCallNote n.2

section Called

variable {a b d hub hub' : Hub}

lemma called_refl (a : Hub) : Called a a where
  now := rfl
  accepting := rfl
  state := rfl
  stateChanges := rfl
  handles := rfl
  feeds := rfl
  mailbox := ⟨[], by simp⟩
  journal := ⟨[], by simp⟩

lemma called_trans (h : Called a b) (h' : Called b d) : Called a d := by
  obtain ⟨posts, hp, hopen⟩ := h.mailbox
  obtain ⟨posts', hp', hopen'⟩ := h'.mailbox
  obtain ⟨notes, hn, hcall⟩ := h.journal
  obtain ⟨notes', hn', hcall'⟩ := h'.journal
  rw [h.accepting, h.handles] at hopen'
  constructor
  · rw [h'.now, h.now]
  · rw [h'.accepting, h.accepting]
  · rw [h'.state, h.state]
  · rw [h'.stateChanges, h.stateChanges]
  · rw [h'.handles, h.handles]
  · rw [h'.feeds, h.feeds]
  · refine ⟨posts ++ posts', by rw [hp', hp, List.append_assoc], ?_⟩
    intro hne
    by_cases hempty : posts = []
    · rw [hempty, List.nil_append] at hne
      exact hopen' hne
    · exact hopen hempty
  · refine ⟨notes' ++ notes, by rw [hn', hn, List.append_assoc], ?_⟩
    intro n hmem
    rcases List.mem_append.mp hmem with hmem | hmem
    · exact hcall' n hmem
    · exact hcall n hmem

lemma called_registry (hub : Hub) (registry : Registry Callback) :
    Called hub { hub with registry } where
  now := rfl
  accepting := rfl
  state := rfl
  stateChanges := rfl
  handles := rfl
  feeds := rfl
  mailbox := ⟨[], by simp⟩
  journal := ⟨[], by simp⟩

lemma called_note (hub : Hub) (h : Happening) (hh : IsCallNote h) : Called hub (hub.note h) where
  now := rfl
  accepting := rfl
  state := rfl
  stateChanges := rfl
  handles := rfl
  feeds := rfl
  mailbox := ⟨[], by simp [note]⟩
  journal := ⟨[(hub.now, h)], rfl, by simpa using hh⟩

lemma called_post (hub : Hub) (c : Control) (hh : hub.handles ≠ 0) :
    Called hub (hub.post c).1 := by
  unfold post
  by_cases ha : hub.accepting = true
  · rw [if_pos ha]
    refine { called_refl hub with mailbox := ⟨[c], rfl, ?_⟩ }
    intro _
    exact ⟨ha, hh⟩
  · rw [if_neg ha]
    exact called_refl hub

lemma called_postEnvelope (hub : Hub) (r : Except ClientError Envelope) (hh : hub.handles ≠ 0) :
    Called hub (hub.postEnvelope r).1 := by
  cases r with
  | ok e => exact called_post hub (.send e) hh
  | error e => exact called_refl hub

lemma called_unsubscribe (hub : Hub) (id : Nat) : Called hub (hub.unsubscribe id).2 :=
  called_registry hub _

/-- A call without a handle does nothing, and one with a handle no more than calls can do. -/
theorem called_call (hub : Hub) (c : Call) : Called hub (hub.call c).1 := by
  unfold call
  by_cases hh : hub.handles = 0
  · rw [if_pos hh]
    exact called_refl hub
  · rw [if_neg hh]
    cases c with
    | start => exact called_post hub _ hh
    | stop => exact called_post hub _ hh
    | send kind payload => exact called_postEnvelope hub _ hh
    | sendEnvelope kind payload layout => exact called_postEnvelope hub _ hh
    | chat text => exact called_postEnvelope hub _ hh
    | ping => exact called_post hub _ hh
    | requestMetrics category => exact called_post hub _ hh
    | subscribe kind tag body =>
      by_cases hk : Text.isBlank kind = true
      · simpa [subscribe, hk] using called_refl hub
      · simpa [subscribe, hk] using called_registry hub _
    | unsubscribe id => exact called_unsubscribe hub id
    | count kind => exact called_refl hub
    | state => exact called_refl hub

lemma called_publish (hub : Hub) (e : Event) (he : e.kind = .subscriberPanicked) :
    Called hub (hub.publish e) where
  now := rfl
  accepting := rfl
  state := rfl
  stateChanges := rfl
  handles := rfl
  feeds := rfl
  mailbox := ⟨[], by simp [publish, note]⟩
  journal := ⟨[(hub.now, .published (hub.bus.stamp e))], rfl, by simpa [IsCallNote, Bus.stamp]⟩

lemma called_report (hub : Hub) (kind : String) (panic : Option Panic) :
    Called hub (hub.report kind panic) := by
  cases panic with
  | none => exact called_refl hub
  | some p => exact called_publish hub _ rfl

lemma receive_handles (f : MetricsFeed) (role : SnapshotRole) (payload : Json) :
    (f.receive role payload).handles = f.handles := by
  unfold MetricsFeed.receive
  split <;> rfl

lemma called_receive (hub : Hub) (number : Nat) (role : SnapshotRole) (payload : Json) :
    Called hub { hub with feeds := hub.feeds.modify number (·.receive role payload) } := by
  refine { called_refl hub with feeds := ?_ }
  apply List.ext_getElem?
  intro i
  simp only [List.getElem?_map, List.getElem?_modify]
  cases hub.feeds[i]? with
  | none => rfl
  | some f =>
    by_cases hi : number = i
    · simp [hi, receive_handles]
    · simp [hi]

/-- All that a dispatcher does is calls and callbacks. -/
def IsCalling (inner : Dispatcher) : Prop :=
  ∀ e hub hub' n, inner e hub = some (hub', n) → Called hub hub'

variable {inner : Dispatcher}

lemma called_perform {action : Action} {outcome : Except Panic Reply} (hinner : IsCalling inner)
    (h : perform inner action hub = some (hub', outcome)) : Called hub hub' := by
  unfold perform at h
  cases action with
  | call c =>
    simp only [Option.some.injEq, Prod.mk.injEq] at h
    obtain ⟨rfl, -⟩ := h
    exact called_call hub c
  | dispatch kind payload =>
    cases hk : Envelope.ofKind kind payload with
    | error e =>
      simp only [hk, Option.some.injEq, Prod.mk.injEq] at h
      obtain ⟨rfl, -⟩ := h
      exact called_refl _
    | ok e =>
      simp only [hk, Option.map_eq_some_iff, Prod.mk.injEq, Prod.exists] at h
      obtain ⟨hub₁, n, hn, rfl, -⟩ := h
      exact hinner e hub hub₁ n hn
  | panic p =>
    simp only [Option.some.injEq, Prod.mk.injEq] at h
    obtain ⟨rfl, -⟩ := h
    exact called_refl _

lemma called_runBody {actions : List Action} {panic : Option Panic} (hinner : IsCalling inner)
    (h : runBody inner actions hub = some (hub', panic)) : Called hub hub' := by
  induction actions generalizing hub with
  | nil =>
    simp only [runBody, Option.some.injEq, Prod.mk.injEq] at h
    obtain ⟨rfl, -⟩ := h
    exact called_refl _
  | cons action rest ih =>
    unfold runBody at h
    split at h
    case h_1 => cases h
    case h_2 hub₁ p hp =>
      simp only [Option.some.injEq, Prod.mk.injEq] at h
      obtain ⟨rfl, -⟩ := h
      exact called_perform hinner hp
    case h_3 hub₁ reply hp =>
      have h₁ := called_perform hinner hp
      have h₂ := called_note hub₁ (.performed action reply) trivial
      exact called_trans h₁ (called_trans h₂ (ih h))

lemma called_invoke {e : Envelope} {callback : Callback} {panic : Option Panic}
    (hinner : IsCalling inner) (h : invoke inner e callback hub = some (hub', panic)) :
    Called hub hub' := by
  cases callback with
  | body tag actions =>
    have hn := called_note hub (.called tag e.kind e.payload) trivial
    exact called_trans hn (called_runBody hinner h)
  | feed number role =>
    simp only [invoke, Option.some.injEq, Prod.mk.injEq] at h
    obtain ⟨rfl, -⟩ := h
    exact called_receive hub number role e.payload

lemma called_invokeAll {e : Envelope} {callbacks : List Callback} (hinner : IsCalling inner)
    (h : invokeAll inner e callbacks hub = some hub') : Called hub hub' := by
  induction callbacks generalizing hub with
  | nil =>
    obtain rfl := Option.some.inj h
    exact called_refl _
  | cons callback rest ih =>
    unfold invokeAll at h
    split at h
    case h_1 => cases h
    case h_2 hub₁ panic hp =>
      have h₁ := called_invoke hinner hp
      have h₂ := called_report hub₁ e.kind panic
      exact called_trans h₁ (called_trans h₂ (ih h))

/-- Dispatch is calling, however deep it nests. -/
theorem dispatch_calling (depth : Nat) : IsCalling (dispatch depth) := by
  induction depth with
  | zero =>
    intro e hub hub' n h
    cases h
  | succ depth ih =>
    intro e hub hub' n h
    simp only [dispatch, Option.map_eq_some_iff, Prod.mk.injEq] at h
    obtain ⟨hub₁, h₁, rfl, -⟩ := h
    exact called_invokeAll ih h₁

theorem called_deliver (hub : Hub) (e : Envelope) : Called hub (hub.deliver e) := by
  unfold deliver
  split
  case h_1 hub₁ n h => exact dispatch_calling nestingLimit e hub hub₁ n h
  case h_2 => exact called_refl hub

lemma allHandles_congr (hh : b.handles = a.handles)
    (hf : b.feeds.map MetricsFeed.handles = a.feeds.map MetricsFeed.handles) :
    b.allHandles = a.allHandles := by
  have hfold (feeds : List MetricsFeed) :
      feeds.foldr (fun feed n => feed.handles + n) 0 =
        (feeds.map MetricsFeed.handles).foldr (· + ·) 0 := by
    rw [List.foldr_map]
  unfold allHandles
  rw [hfold, hfold, hh, hf]

lemma called_allHandles (h : Called a b) : b.allHandles = a.allHandles :=
  allHandles_congr h.handles h.feeds

end Called

end SteadyLink.Proofs
