import SteadyLink.Proofs.ClientRuns

/-!
# The views of the state

The state of a connection as the supervisor has it, as it is shown to everybody, as events tell of
it, and as hooks are given it. All of them agree whenever the supervisor waits, and the events follow
the edges of the lifecycle from the beginning on.
-/

namespace SteadyLink.Proofs

/-- Transitions as events show them: each an edge of the lifecycle, from where the last one ended. -/
inductive Leads : ConnectionState → List (Option ConnectionState × Option ConnectionState) →
    ConnectionState → Prop
  | stays (state : ConnectionState) : Leads state [] state
  | goes {state next last : ConnectionState}
      {rest : List (Option ConnectionState × Option ConnectionState)}
      (edge : state.canTransitionTo next = true) (onward : Leads next rest last) :
    Leads state ((some state, some next) :: rest) last

section Leads

variable {first last : ConnectionState} {es : List Effect}
variable {shownSo : List (Option ConnectionState × Option ConnectionState)}

lemma leads_of_chained (h : Chained first es last) : Leads first ((moves es).map shown) last := by
  induction h with
  | stays => exact Leads.stays _
  | moves edge rest ih => exact Leads.goes edge ih
  | begins agrees rest ih => exact ih
  | @passes state last e es plain rest ih =>
    cases e with
    | moved => cases plain
    | _ => exact ih

lemma leads_last (h : Leads first shownSo last) :
    shownSo = [] ∧ last = first ∨ ∃ source, shownSo.getLast? = some (source, some last) := by
  induction h with
  | stays => exact Or.inl ⟨rfl, rfl⟩
  | @goes state next last rest edge onward ih =>
    refine Or.inr ?_
    rcases ih with ⟨rfl, rfl⟩ | ⟨source, hlast⟩
    · exact ⟨some state, rfl⟩
    · refine ⟨source, ?_⟩
      rw [List.getLast?_cons, hlast]
      rfl

end Leads

lemma moves_last {first last : ConnectionState} {es : List Effect} (h : Chained first es last)
    (hne : moves es ≠ []) : (moves es).getLast?.map Prod.snd = some last := by
  rcases leads_last (leads_of_chained h) with ⟨hnil, -⟩ | ⟨source, hlast⟩
  · exact absurd (List.map_eq_nil_iff.mp hnil) hne
  · rw [List.getLast?_map] at hlast
    obtain ⟨change, hc, hs⟩ := Option.map_eq_some_iff.mp hlast
    rw [hc, Option.map_some]
    exact (Prod.mk.inj hs).2

section Views

variable {s₀ s₁ s : Client} {h : History}

/-- Along a course, the state shown goes on as the effects say. -/
theorem clientCourse_views (ha : Aligned s₀.supervisor) (hc : ClientCourse s₀ h s) :
    s.hub.state = (effects h).foldl track s₀.hub.state ∧
      published s = published s₀ ++ (moves (effects h)).map shown := by
  refine clientCourse_invariant (P := fun h s =>
    s.hub.state = (effects h).foldl track s₀.hub.state ∧
      published s = published s₀ ++ (moves (effects h)).map shown) ha ?_ ?_ ?_ hc
  · simp
  · intro h s s' ih hw
    rw [hw.follows.state, hw.follows.published]
    simpa using ih
  · intro h s draw stimulus s' es ih _ _ ht
    rw [ht.state, ht.published, ih.1, ih.2]
    simp

/-- Along a course, a hook that has not ended is given every transition. -/
theorem clientCourse_received (ha : Aligned s₀.supervisor) (hc : ClientCourse s₀ h s) :
    s₀.hooks.length ≤ s.hooks.length ∧ ∀ i < s₀.hooks.length, IsLive s i →
      IsLive s₀ i ∧ received s i = received s₀ i ++ moves (effects h) := by
  refine clientCourse_invariant (P := fun h s =>
    s₀.hooks.length ≤ s.hooks.length ∧ ∀ i < s₀.hooks.length, IsLive s i →
      IsLive s₀ i ∧ received s i = received s₀ i ++ moves (effects h)) ha ?_ ?_ ?_ hc
  · refine ⟨Nat.le_refl _, ?_⟩
    intro i _ hl
    exact ⟨hl, by simp⟩
  · intro h s s' ih hw
    refine ⟨Nat.le_trans ih.1 hw.follows.length, ?_⟩
    intro i hi hl
    obtain ⟨hl', hr'⟩ := hw.follows.hooks i (Nat.lt_of_lt_of_le hi ih.1) hl
    obtain ⟨hl, hr⟩ := ih.2 i hi hl'
    refine ⟨hl, ?_⟩
    rw [hr', hr, moves_nil, List.append_nil]
  · intro h s draw stimulus s' es ih _ _ ht
    refine ⟨Nat.le_trans ih.1 ht.length, ?_⟩
    intro i hi hl
    obtain ⟨hl', hr'⟩ := ht.hooks i (Nat.lt_of_lt_of_le hi ih.1) hl
    obtain ⟨hl, hr⟩ := ih.2 i hi hl'
    refine ⟨hl, ?_⟩
    rw [hr', hr, effects_append, effects_singleton, moves_append, List.append_assoc]

end Views

/-- The lifecycle of a client, and how it is seen. -/
structure LifecycleLaw (c : Config) (observers : List Observer) (h : History) (s : Client) :
    Prop where
  /-- Each stage of the loop is taken up in its own state. -/
  stages : ∀ pre stage post own, effects h = pre ++ .began stage :: post →
    stageState? stage = some own → pre.foldl track .idle = own
  refused : ∀ source target, .refused source target ∉ effects h
  /-- The published transitions are a path of the lifecycle from the beginning to the state. -/
  path : Leads .idle (published s) s.supervisor.state
  phase : ∀ own, phaseState? s.supervisor.phase = some own → s.supervisor.state = own
  watched : s.hub.state = s.supervisor.state
  told : ((published s).getLast?.bind Prod.snd).getD .idle = s.supervisor.state
  /-- Whatever hook was there before the last transition, and has not ended, was given it last. -/
  hooked : ∀ h₁ s₁ h₂ i, ClientRun c observers h₁ s₁ → ClientCourse s₁ h₂ s →
    i < s₁.hooks.length → IsLive s i → moves (effects h₂) ≠ [] →
      (received s i).getLast?.map Prod.snd = some s.supervisor.state

/-- The lifecycle is kept, and everybody sees the same state. -/
theorem state_views_agree {c : Config} {observers : List Observer} {h : History} {s : Client}
    (r : ClientRun c observers h s) : LifecycleLaw c observers h s := by
  obtain ⟨-, hrun⟩ := clientRun_run r
  obtain ⟨-, -, hstate, hjournal⟩ := fresh_client c observers
  have ha := fresh_client_aligned c observers
  have hchain : Chained .idle (effects h) s.supervisor.state :=
    course_chained (fresh_aligned c) hrun
  obtain ⟨hview, hpub⟩ := clientCourse_views ha r
  have hnone : published (Client.fresh c observers) = [] := by
    unfold published
    rw [hjournal]
    rfl
  rw [hnone, List.nil_append] at hpub
  have hpath : Leads .idle (published s) s.supervisor.state := by
    rw [hpub]
    exact leads_of_chained hchain
  constructor
  · intro pre stage post own hes hown
    rw [hes] at hchain
    exact chained_began pre hchain hown
  · exact chained_not_refused hchain
  · exact hpath
  · exact course_aligned (fresh_aligned c) hrun
  · rw [hview, hstate]
    exact chained_track hchain
  · rcases leads_last hpath with ⟨hnil, hidle⟩ | ⟨source, hlast⟩
    · rw [hnil, hidle]
      rfl
    · rw [hlast]
      rfl
  · intro h₁ s₁ h₂ i r₁ hc hi hl hne
    have ha₁ := clientCourse_aligned ha r₁
    obtain ⟨-, hr⟩ := (clientCourse_received ha₁ hc).2 i hi hl
    have hchain₁ := course_chained ha₁ (clientCourse_course ha₁ hc).2
    obtain ⟨change, hc, hs⟩ := Option.map_eq_some_iff.mp (moves_last hchain₁ hne)
    rw [hr, List.getLast?_append, hc, Option.some_or, Option.map_some, hs]

/-- A client with a hook is asked to start. -/
theorem state_views_agree_started :
    ∃ h s, ClientRun .standard [] h s ∧ LifecycleLaw .standard [] h s ∧
      s.supervisor.state = .connecting ∧ IsLive s 0 ∧ received s 0 = [(.idle, .connecting)] := by
  have r₀ : ClientRun .standard [] [] (.fresh .standard []) := ClientCourse.start
  have r₁ := ClientCourse.step r₀ (ClientStep.acts (.onState none))
  have r₂ := ClientCourse.step r₁ (ClientStep.acts (.call .start))
  have r₃ := ClientCourse.step r₂ (ClientStep.takes 0 _ _ rfl)
  exact ⟨_, _, r₃, state_views_agree r₃, rfl, ⟨_, _, rfl, rfl, rfl⟩, rfl⟩

end SteadyLink.Proofs
