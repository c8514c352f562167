import SteadyLink.Client.Task
import SteadyLink.Proofs.Callbacks
import SteadyLink.Proofs.Lifecycle

/-!
# What a client shares with its supervisor

`Follows` says what everybody but the supervisor can do to the parts of a client that the supervisor
shares with them, and what the effects of a turn do there. `HubFollows` is the same of a hub alone.
-/

namespace SteadyLink.Proofs

/-! What can be seen of the supervisor -/

def shownChange? (e : Event) : Option (Option ConnectionState × Option ConnectionState) :=
  if e.kind = .stateChanged then some (e.source, e.target) else none

/-- The transitions that were published, the earliest first. -/
def published (s : Client) : List (Option ConnectionState × Option ConnectionState) :=
  (s.hub.journal.events.filterMap fun entry => shownChange? entry.2).reverse

/-- Dispatch and observers publish events of these kinds, the supervisor those of the others. -/
def isForeign : EventKind → Bool
  | .subscriberPanicked => true
  | .observerPanicked => true
  | .observerOverflow => true
  | _ => false

/-- An event of the supervisor, without its number. -/
def ownEvent? (e : Event) : Option Event := if isForeign e.kind then none else some { e with seq := 0 }

/-- The events that the supervisor has published, the earliest first. -/
def ownEvents (s : Client) : List Event :=
  (s.hub.journal.events.filterMap fun entry => ownEvent? entry.2).reverse

def shown (change : ConnectionState × ConnectionState) :
    Option ConnectionState × Option ConnectionState := (some change.1, some change.2)

/-- The transitions that wait for a hook. -/
def queueOf (h : Hook) : List (ConnectionState × ConnectionState) :=
  match h.source with
  | .transitions queue => queue
  | .faults _ => []

def waitingFor (s : Client) (hook : Nat) : List (ConnectionState × ConnectionState) :=
  ((s.hooks[hook]?).map queueOf).getD []

/-- All transitions that a hook was given, those it was called with and those that wait. -/
def received (s : Client) (hook : Nat) : List (ConnectionState × ConnectionState) :=
  (s.hub.journal.transitions hook).reverse ++ waitingFor s hook

/-- A hook for transitions that has not ended. -/
def IsLive (s : Client) (hook : Nat) : Prop :=
  ∃ h queue, s.hooks[hook]? = some h ∧ h.source = .transitions queue ∧ h.running = true

/-- What happens around the effects of the supervisor, if there are any. -/
structure Follows (s : Client) (es : List Effect) (s' : Client) : Prop where
  config : s'.config = s.config
  state : s'.hub.state = es.foldl track s.hub.state
  accepting : s'.hub.accepting = s.hub.accepting
  /-- Requests come in behind the others, and only from those who hold a handle. -/
  mailbox : ∃ posts, s'.hub.mailbox = s.hub.mailbox ++ posts ∧
    (posts ≠ [] → s.hub.accepting = true ∧ s.hub.allHandles ≠ 0)
  unheld : s.hub.allHandles = 0 → s'.hub.allHandles = 0
  published : published s' = published s ++ (moves es).map shown
  events : ownEvents s' = ownEvents s ++ (es.filterMap Effect.event?).filterMap ownEvent?
  length : s.hooks.length ≤ s'.hooks.length
  hooks : ∀ i < s.hooks.length, IsLive s' i → IsLive s i ∧ received s' i = received s i ++ moves es

section Follows

variable {s s' s'' : Client} {es fs : List Effect}

lemma follows_refl (s : Client) : Follows s [] s where
  config := rfl
  state := rfl
  accepting := rfl
  mailbox := ⟨[], by simp⟩
  unheld := id
  published := by simp
  events := by simp
  length := Nat.le_refl _
  hooks := by
    intro i _ hi
    exact ⟨hi, by simp⟩

lemma follows_trans (h : Follows s es s') (h' : Follows s' fs s'') : Follows s (es ++ fs) s'' := by
  obtain ⟨posts, hp, hopen⟩ := h.mailbox
  obtain ⟨posts', hp', hopen'⟩ := h'.mailbox
  constructor
  · rw [h'.config, h.config]
  · rw [h'.state, h.state, List.foldl_append]
  · rw [h'.accepting, h.accepting]
  · refine ⟨posts ++ posts', by rw [hp', hp, List.append_assoc], ?_⟩
    intro hne
    by_cases hempty : posts = []
    · rw [hempty, List.nil_append] at hne
      obtain ⟨ha, hh⟩ := hopen' hne
      rw [h.accepting] at ha
      exact ⟨ha, fun h0 => hh (h.unheld h0)⟩
    · exact hopen hempty
  · exact fun h0 => h'.unheld (h.unheld h0)
  · rw [h'.published, h.published, moves_append, List.map_append, List.append_assoc]
  · rw [h'.events, h.events, List.filterMap_append, List.filterMap_append, List.append_assoc]
  · exact Nat.le_trans h.length h'.length
  · intro i hi hlive
    obtain ⟨hlive', hr'⟩ := h'.hooks i (Nat.lt_of_lt_of_le hi h.length) hlive
    obtain ⟨hlive, hr⟩ := h.hooks i hi hlive'
    refine ⟨hlive, ?_⟩
    rw [hr', hr, moves_append, List.append_assoc]

end Follows

/-! Steps beside the supervisor -/

/-- Neither an event of the supervisor nor a call of a hook for transitions. -/
def IsSilent : Happening → Prop
  | .published e => isForeign e.kind = true
  | .stateHookCalled .. => False
  | _ => True

/-- The second hub comes from the first one without a turn of the supervisor. -/
structure HubFollows (a b : Hub) : Prop where
  state : b.state = a.state
  accepting : b.accepting = a.accepting
  mailbox : ∃ posts, b.mailbox = a.mailbox ++ posts ∧
    (posts ≠ [] → a.accepting = true ∧ a.allHandles ≠ 0)
  unheld : a.allHandles = 0 → b.allHandles = 0
  journal : ∃ notes, b.journal = notes ++ a.journal ∧ ∀ n ∈ notes, IsSilent n.2

lemma allHandles_eq_zero_iff (hub : Hub) :
    hub.allHandles = 0 ↔ hub.handles = 0 ∧ ∀ f ∈ hub.feeds, f.handles = 0 := by
  have hfold (feeds : List MetricsFeed) :
      feeds.foldr (fun feed n => feed.handles + n) 0 = 0 ↔ ∀ f ∈ feeds, f.handles = 0 := by
    induction feeds with
    | nil => simp
    | cons f feeds ih =>
      rw [List.foldr_cons, Nat.add_eq_zero_iff, ih, List.forall_mem_cons]
  unfold Hub.allHandles
  rw [Nat.add_eq_zero_iff, hfold]

section Hubs

variable {a b : Hub}

lemma hubFollows_called (h : Called a b) : HubFollows a b := by
  obtain ⟨posts, hp, hopen⟩ := h.mailbox
  obtain ⟨notes, hn, hcall⟩ := h.journal
  refine ⟨h.state, h.accepting, ⟨posts, hp, ?_⟩, ?_, notes, hn, ?_⟩
  · intro hne
    obtain ⟨ha, hh⟩ := hopen hne
    exact ⟨ha, fun h0 => hh ((allHandles_eq_zero_iff a).mp h0).1⟩
  · rw [called_allHandles h]
    exact id
  · intro n hmem
    have hcn := hcall n hmem
    cases hk : n.2 with
    | published e =>
      rw [hk] at hcn
      simp only [IsCallNote] at hcn
      simp [IsSilent, isForeign, hcn]
    | stateHookCalled hook source target =>
      rw [hk] at hcn
      exact hcn
    | _ => trivial

lemma hubFollows_bus (hub : Hub) (bus : Bus) : HubFollows hub { hub with bus } :=
  ⟨rfl, rfl, ⟨[], by simp⟩, id, [], by simp⟩

lemma hubFollows_note (hub : Hub) (h : Happening) (hh : IsSilent h) :
    HubFollows hub (hub.note h) :=
  ⟨rfl, rfl, ⟨[], by simp [Hub.note]⟩, id, [(hub.now, h)], rfl, by simpa using hh⟩

lemma hubFollows_publish (hub : Hub) (e : Event) (he : isForeign e.kind = true) :
    HubFollows hub (hub.publish e) :=
  ⟨rfl, rfl, ⟨[], by simp [Hub.publish, Hub.note]⟩, id,
    [(hub.now, .published (hub.bus.stamp e))], rfl, by simpa [IsSilent, Bus.stamp] using he⟩

lemma hubFollows_post (hub : Hub) (c : Control) (hh : hub.allHandles ≠ 0) :
    HubFollows hub (hub.post c).1 := by
  unfold Hub.post
  by_cases ha : hub.accepting = true
  · rw [if_pos ha]
    exact ⟨rfl, rfl, ⟨[c], rfl, fun _ => ⟨ha, hh⟩⟩, id, [], by simp⟩
  · rw [if_neg ha]
    exact ⟨rfl, rfl, ⟨[], by simp⟩, id, [], by simp⟩

lemma hubFollows_feeds (hub : Hub) (feeds : List MetricsFeed)
    (hf : hub.allHandles = 0 → ∀ f ∈ feeds, f.handles = 0) : HubFollows hub { hub with feeds } := by
  refine ⟨rfl, rfl, ⟨[], by simp⟩, ?_, [], by simp⟩
  intro h0
  rw [allHandles_eq_zero_iff] at h0 ⊢
  exact ⟨h0.1, hf ((allHandles_eq_zero_iff hub).mpr h0)⟩

lemma hubFollows_setFeed (hub : Hub) (number : Nat) (f f' : MetricsFeed)
    (hf : hub.feeds[number]? = some f) (hh : f'.handles ≤ f.handles) :
    HubFollows hub { hub with feeds := hub.feeds.set number f' } := by
  refine hubFollows_feeds hub _ ?_
  intro h0 g hg
  have hall := ((allHandles_eq_zero_iff hub).mp h0).2
  rcases List.mem_or_eq_of_mem_set hg with hg | rfl
  · exact hall g hg
  · have hf0 := hall f (List.mem_of_getElem? hf)
    omega

lemma hubFollows_trans {d : Hub} (h : HubFollows a b) (h' : HubFollows b d) : HubFollows a d := by
  obtain ⟨posts, hp, hopen⟩ := h.mailbox
  obtain ⟨posts', hp', hopen'⟩ := h'.mailbox
  obtain ⟨notes, hn, hsilent⟩ := h.journal
  obtain ⟨notes', hn', hsilent'⟩ := h'.journal
  refine ⟨by rw [h'.state, h.state], by rw [h'.accepting, h.accepting],
    ⟨posts ++ posts', by rw [hp', hp, List.append_assoc], ?_⟩, fun h0 => h'.unheld (h.unheld h0),
    notes' ++ notes, by rw [hn', hn, List.append_assoc], ?_⟩
  · intro hne
    by_cases hempty : posts = []
    · rw [hempty, List.nil_append] at hne
      obtain ⟨ha, hh⟩ := hopen' hne
      rw [h.accepting] at ha
      exact ⟨ha, fun h0 => hh (h.unheld h0)⟩
    · exact hopen hempty
  · intro n hmem
    rcases List.mem_append.mp hmem with hmem | hmem
    · exact hsilent' n hmem
    · exact hsilent n hmem

end Hubs

section Journals

lemma events_append {α : Type} (f : Event → Option α) (notes j : Journal) :
    ((notes ++ j : Journal).events.filterMap fun entry => f entry.2).reverse =
      (j.events.filterMap fun entry => f entry.2).reverse ++
        (notes.events.filterMap fun entry => f entry.2).reverse := by
  unfold Journal.events
  rw [List.filterMap_append, List.filterMap_append, List.reverse_append]

lemma published_append {s s' : Client} {notes : Journal}
    (h : s'.hub.journal = notes ++ s.hub.journal) :
    published s' =
      published s ++ (notes.events.filterMap fun entry => shownChange? entry.2).reverse := by
  unfold published
  rw [h, events_append]

lemma ownEvents_append {s s' : Client} {notes : Journal}
    (h : s'.hub.journal = notes ++ s.hub.journal) :
    ownEvents s' =
      ownEvents s ++ (notes.events.filterMap fun entry => ownEvent? entry.2).reverse := by
  unfold ownEvents
  rw [h, events_append]

lemma silent_events {α : Type} {f : Event → Option α} {notes : Journal}
    (hf : ∀ e, isForeign e.kind = true → f e = none) (h : ∀ n ∈ notes, IsSilent n.2) :
    notes.events.filterMap (fun entry => f entry.2) = [] := by
  unfold Journal.events
  rw [List.filterMap_filterMap, List.filterMap_eq_nil_iff]
  intro n hn
  have hs := h n hn
  cases hk : n.2 with
  | published e =>
    rw [hk] at hs
    exact hf e hs
  | _ => rfl

lemma shownChange?_foreign (e : Event) (he : isForeign e.kind = true) : shownChange? e = none := by
  unfold shownChange?
  split
  case isTrue hk =>
    rw [hk] at he
    cases he
  case isFalse => rfl

lemma ownEvent?_foreign (e : Event) (he : isForeign e.kind = true) : ownEvent? e = none := if_pos he

lemma silent_transitions {notes : Journal} (h : ∀ n ∈ notes, IsSilent n.2) (hook : Nat) :
    notes.transitions hook = [] := by
  unfold Journal.transitions
  rw [List.filterMap_eq_nil_iff]
  intro n hn
  have hs := h n hn
  cases hk : n.2 with
  | stateHookCalled i source target =>
    rw [hk] at hs
    cases hs
  | _ => rfl

lemma transitions_append (notes j : Journal) (hook : Nat) :
    Journal.transitions (notes ++ j) hook = notes.transitions hook ++ j.transitions hook :=
  List.filterMap_append

end Journals

section Steps

variable {s s' : Client}

/-- The hub and the hooks change, and no hook for transitions is called. -/
lemma follows_silent (hconfig : s'.config = s.config) (h : HubFollows s.hub s'.hub)
    (hlength : s.hooks.length ≤ s'.hooks.length)
    (hhooks : ∀ i < s.hooks.length, IsLive s' i → IsLive s i ∧ waitingFor s' i = waitingFor s i) :
    Follows s [] s' := by
  obtain ⟨notes, hn, hsilent⟩ := h.journal
  refine ⟨hconfig, h.state, h.accepting, h.mailbox, h.unheld, ?_, ?_, hlength, ?_⟩
  · rw [published_append hn, silent_events shownChange?_foreign hsilent]
    rfl
  · rw [ownEvents_append hn, silent_events ownEvent?_foreign hsilent]
    rfl
  · intro i hi hlive
    obtain ⟨hlive, hw⟩ := hhooks i hi hlive
    refine ⟨hlive, ?_⟩
    unfold received
    rw [hw, hn, transitions_append, silent_transitions hsilent, List.nil_append, moves_nil,
      List.append_nil]

lemma isLive_of_hooks (hh : s'.hooks = s.hooks) {i : Nat} (h : IsLive s' i) : IsLive s i := by
  unfold IsLive at h ⊢
  rw [← hh]
  exact h

lemma waitingFor_of_hooks (hh : s'.hooks = s.hooks) (i : Nat) :
    waitingFor s' i = waitingFor s i := by
  unfold waitingFor
  rw [hh]

lemma follows_hub (hconfig : s'.config = s.config) (hh : s'.hooks = s.hooks)
    (h : HubFollows s.hub s'.hub) : Follows s [] s' := by
  refine follows_silent hconfig h (Nat.le_of_eq (congrArg List.length hh.symm)) ?_
  intro i _ hlive
  exact ⟨isLive_of_hooks hh hlive, waitingFor_of_hooks hh i⟩

lemma follows_setHook {number : Nat} {h h' : Hook} (hh : s.hooks[number]? = some h)
    (hsource : h'.source = h.source) (hrunning : h'.running = true → h.running = true) :
    Follows s [] (s.setHook number h') := by
  have hget (i : Nat) : (s.setHook number h').hooks[i]? =
      if number = i then some h' else s.hooks[i]? := by
    obtain ⟨hlt, -⟩ := List.getElem?_eq_some_iff.mp hh
    show (s.hooks.set number h')[i]? = _
    rw [List.getElem?_set, if_pos hlt]
  refine follows_silent rfl
    ⟨rfl, rfl, ⟨[], by simp [Client.setHook]⟩, id, [], by simp [Client.setHook]⟩
    (Nat.le_of_eq (List.length_set).symm) ?_
  intro i _ hlive
  obtain ⟨g, queue, hg, hqueue, hrun⟩ := hlive
  rw [hget] at hg
  by_cases hi : number = i
  · rw [if_pos hi] at hg
    obtain rfl := Option.some.inj hg
    rw [← hi]
    refine ⟨⟨h, queue, hh, hsource ▸ hqueue, hrunning hrun⟩, ?_⟩
    unfold waitingFor queueOf
    rw [hget, if_pos rfl, hh, Option.map_some, Option.map_some, hsource]
  · rw [if_neg hi] at hg
    refine ⟨⟨g, queue, hg, hqueue, hrun⟩, ?_⟩
    unfold waitingFor
    rw [hget, if_neg hi]

end Steps

end SteadyLink.Proofs
