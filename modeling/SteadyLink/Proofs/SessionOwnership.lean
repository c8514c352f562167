import SteadyLink.Proofs.ClientRuns
import SteadyLink.Proofs.SessionEnds

/-!
# The sessions of a client

A client holds one session at a time, uses it in order, and either drops it when it has failed or
shuts it down. When its supervisor ends, nothing is held any more, and every request from before the
last handle was given up has been taken.
-/

namespace SteadyLink.Proofs

open Supervisor

/-- The requests that were taken, the earliest first. -/
def requests (h : History) : List Control := h.filterMap fun o => request? o.stimulus

/-- Nobody waits for a supervisor that has ended, or that ends when the session held is shut. -/
structure Drained (s : Client) : Prop where
  gone : s.supervisor.isGone = true → s.hub.mailbox = [] ∧ s.hub.accepting = false
  leaving : ∀ k giveUpAt, s.supervisor.phase = .closing k giveUpAt .terminal →
    s.hub.mailbox = [] ∧ s.hub.allHandles = 0

section Requests

variable {s₀ s₁ s s' : Client} {h : History}

lemma requests_append (h : History) (o : Occurrence) :
    requests (h ++ [o]) = requests h ++ (request? o.stimulus).toList :=
  filterMap_snoc (fun o : Occurrence => request? o.stimulus) h o

lemma worked_drained (hs : Drained s) (hw : Worked s s') : Drained s' := by
  obtain ⟨posts, hposts, hopen⟩ := hw.follows.mailbox
  constructor
  · rw [hw.supervisor]
    intro hg
    obtain ⟨hempty, hshut⟩ := hs.gone hg
    have hnone : posts = [] := by
      by_cases hp : posts = []
      · exact hp
      · rw [hshut] at hopen
        cases (hopen hp).1
    rw [hposts, hempty, hnone, hw.follows.accepting]
    exact ⟨rfl, hshut⟩
  · rw [hw.supervisor]
    intro k giveUpAt hp
    obtain ⟨hempty, hunheld⟩ := hs.leaving k giveUpAt hp
    have hnone : posts = [] := by
      by_cases hp : posts = []
      · exact hp
      · exact absurd hunheld (hopen hp).2
    rw [hposts, hempty, hnone]
    exact ⟨rfl, hw.follows.unheld hunheld⟩

lemma turnTaken_drained {draw : Nat} {stimulus : Stimulus} {es : List Effect}
    (ha : Aligned s.supervisor) (ht : TurnTaken s draw stimulus es s') : Drained s' := by
  refine ⟨ht.gone, ?_⟩
  intro k giveUpAt hp
  have hpresent : s'.supervisor.isGone = false := by simp [isGone, hp]
  obtain ⟨-, -, hnone⟩ := turned_closing (step_turned ha ht.step) hp
  have hmail := hnone rfl
  obtain ⟨hhead, hunheld⟩ := ht.mail none hmail
  have hempty : s.hub.mailbox = [] := List.head?_eq_none_iff.mp hhead
  obtain ⟨-, posts, hposts, hopen⟩ := ht.mailbox hpresent
  rw [hmail, hempty] at hposts
  refine ⟨?_, ht.unheld (hunheld rfl)⟩
  by_cases hp : posts = []
  · rw [hp] at hposts
    exact hposts
  · exact absurd (hunheld rfl) (hopen hp).2

lemma clientCourse_drained (ha : Aligned s₀.supervisor) (hs : Drained s₀)
    (hc : ClientCourse s₀ h s) : Drained s := by
  refine clientCourse_invariant (P := fun _ s => Drained s) ha hs ?_ ?_ hc
  · intro h s s' ih hw
    exact worked_drained ih hw
  · intro h s draw stimulus s' es _ _ ha ht
    exact turnTaken_drained ha ht

lemma fresh_drained (c : Config) (observers : List Observer) :
    Drained (Client.fresh c observers) := by
  have hsup := (fresh_client c observers).1
  constructor
  · rw [hsup]
    exact nofun
  · rw [hsup]
    exact nofun

lemma drained_exit {draw : Nat} {stimulus : Stimulus} {es : List Effect} (hs : Drained s)
    (ha : Aligned s.supervisor) (ht : TurnTaken s draw stimulus es s')
    (hx : s'.supervisor.phase = .exited) : s.hub.mailbox = [] := by
  obtain ⟨hlast | ⟨k, giveUpAt, hp⟩, -⟩ := turned_exits ha (step_turned ha ht.step) hx
  · exact List.head?_eq_none_iff.mp (ht.mail none hlast).1
  · exact (hs.leaving k giveUpAt hp).1

/-- Requests are taken in their order, and all of them before the supervisor ends. -/
theorem clientCourse_requests (ha : Aligned s₁.supervisor) (hs : Drained s₁)
    (hc : ClientCourse s₁ h s) :
    (s.supervisor.isGone = false →
      ∃ posts, requests h ++ s.hub.mailbox = s₁.hub.mailbox ++ posts) ∧
      (s.supervisor.phase = .exited → s₁.hub.mailbox <+: requests h) := by
  refine (clientCourse_invariant (P := fun h s => Drained s ∧
    (s.supervisor.isGone = false →
      ∃ posts, requests h ++ s.hub.mailbox = s₁.hub.mailbox ++ posts) ∧
      (s.supervisor.phase = .exited → s₁.hub.mailbox <+: requests h)) ha ?_ ?_ ?_ hc).2
  · refine ⟨hs, fun _ => ⟨[], by simp [requests]⟩, ?_⟩
    intro hx
    have hgone : s₁.supervisor.isGone = true := by simp [isGone, hx]
    rw [(hs.gone hgone).1]
    exact List.nil_prefix
  · rintro h s s' ⟨hd, ih, ihx⟩ hw
    refine ⟨worked_drained hd hw, ?_, ?_⟩
    · rw [hw.supervisor]
      intro hg
      obtain ⟨posts, hposts⟩ := ih hg
      obtain ⟨more, hmore, -⟩ := hw.follows.mailbox
      refine ⟨posts ++ more, ?_⟩
      rw [hmore, ← List.append_assoc, hposts, List.append_assoc]
    · rw [hw.supervisor]
      exact ihx
  · rintro h s draw stimulus s' es ⟨hd, ih, -⟩ - ha ht
    obtain ⟨posts, hposts⟩ := ih (step_present ht.step)
    refine ⟨turnTaken_drained ha ht, ?_, ?_⟩
    · intro hg
      obtain ⟨-, more, hmore, -⟩ := ht.mailbox hg
      refine ⟨posts ++ more, ?_⟩
      rw [requests_append, List.append_assoc, hmore, ← List.append_assoc, hposts,
        List.append_assoc]
    · intro hx
      rw [drained_exit hd ha ht hx, List.append_nil] at hposts
      rw [requests_append, hposts, List.append_assoc]
      exact List.prefix_append _ _

end Requests

/-- The sessions of a client, and how its supervisor ends. -/
structure OwnershipLaw (c : Config) (observers : List Observer) (h : History) (s : Client) :
    Prop where
  /-- At no moment are there two sessions that were opened and not dropped. -/
  single : ∀ pre post, transportLog h = pre ++ post → (alive pre).length ≤ 1
  connects : ∀ pre post, transportLog h = pre ++ .connect :: post → alive pre = []
  /-- The calls on each session come in order, and have led to where it stands. -/
  orders : ∀ k, (life k (transportLog h)).foldlM Standing.after .unopened =
    some (standing s.supervisor k)
  lives : ∀ k, Lived (life k (transportLog h)) (standing s.supervisor k)
  /-- Only a supervisor that has crashed leaves a session that has neither failed nor been shut
  down, and only the last one. -/
  abandons : ∀ k, standing s.supervisor k = .abandoned ↔
    s.supervisor.phase = .crashed ∧ k + 1 = s.supervisor.sessions
  /-- A crash comes from a heartbeat beyond the end of the clock, the first one of a session or one
  that follows on a tick, and from nothing else. -/
  crashes : s.supervisor.phase = .crashed ↔
    ∃ o ∈ h, .began .opened ∈ o.effects ∧ BeyondClock c o.now ∨
      TakesLastTick o.before o.stimulus o.now
  shuts : ∀ o ∈ h, .moved .opened .closing ∈ o.effects ↔ LeavesOpen c o.before o.stimulus
  closes : ∀ o ∈ h, ∀ k, .close k ∈ o.effects ↔
    heldSession? o.before.phase = some k ∧ LeavesOpen c o.before o.stimulus
  /-- A shutdown is given up once it has lasted as long as it may, or at once without a limit. -/
  givesUp : ∀ h₁ o h₂, h = h₁ ++ o :: h₂ → o.stimulus = .closeGivenUp →
    ∃ b ∈ h₁, ∃ k, heldSession? o.before.phase = some k ∧ .close k ∈ b.effects ∧
      ∀ limit, c.closeTimeout? = some limit → b.now + limit.nanos ≤ o.now
  ended : s.supervisor.isGone = true → alive (transportLog h) = []
  rests : s.supervisor.phase = .exited →
    s.supervisor.state = .idle ∨ s.supervisor.state = .terminal
  /-- Whatever waited in the mailbox at any time is taken before the supervisor ends. -/
  answers : s.supervisor.phase = .exited → ∀ h₁ s₁ h₂, ClientRun c observers h₁ s₁ →
    ClientCourse s₁ h₂ s → s₁.hub.mailbox <+: requests h₂

/-- One session at a time is held, and each is used and let go in order. -/
theorem session_ownership {c : Config} {observers : List Observer} {h : History} {s : Client}
    (r : ClientRun c observers h s) : OwnershipLaw c observers h s := by
  obtain ⟨-, hrun⟩ := clientRun_run r
  have hin := run_inOrder hrun
  constructor
  · intro pre post hlog
    have howner := hin.owner
    rw [hlog] at howner
    exact owned_single howner
  · intro pre post hlog
    have howner := hin.owner
    rw [hlog] at howner
    exact owned_connect howner
  · exact hin.lives
  · exact fun k => lived_of_inOrder (hin.lives k)
  · exact standing_abandoned s.supervisor
  · exact run_crashed_iff hrun
  · intro o ho
    obtain ⟨ha, ht⟩ := run_occurrence hrun ho
    exact (turned_closes_iff ha ht).1
  · intro o ho
    obtain ⟨ha, ht⟩ := run_occurrence hrun ho
    exact (turned_closes_iff ha ht).2
  · rintro h₁ o h₂ rfl hgave
    exact run_gaveUp hrun hgave
  · intro hg
    have hfree : heldSession? s.supervisor.phase = none := gone_heldSession? hg
    have halive : alive (transportLog h) = (heldSession? s.supervisor.phase).toList :=
      ownedAll_alive hin.owner
    rw [halive, hfree]
    rfl
  · exact run_exited hrun
  · intro hx h₁ s₁ h₂ r₁ hc
    have ha := fresh_client_aligned c observers
    have hd := clientCourse_drained ha (fresh_drained c observers) r₁
    exact (clientCourse_requests (clientCourse_aligned ha r₁) hd hc).2 hx

/-- A configuration whose first heartbeat is later than any clock can show. -/
def lateHeartbeat : Config :=
  { Config.standard with heartbeat := ⟨Duration.maxNanos, Nat.le_refl _⟩ }

/-- A configuration with one heartbeat in half of the clock's range. -/
def rareHeartbeat : Config := { Config.standard with heartbeat := .ofSecs 4611686018427387904 }

/-- A client that leaves while its session is served, and two that are not served to the end: the
first heartbeat of the one and the second of the other, of which the first is taken 6 ms late, are
later than any clock can show. -/
theorem session_ownership_ends :
    (∃ h s, ClientRun .standard [] h s ∧ OwnershipLaw .standard [] h s ∧
      s.supervisor.phase = .exited ∧ requests h = [.start] ∧
      life 0 (transportLog h) =
        [.opened, .receiveBegun, .closeBegun, .closeEnded, .dropped]) ∧
      (∃ h s, ClientRun lateHeartbeat [] h s ∧ OwnershipLaw lateHeartbeat [] h s ∧
        life 0 (transportLog h) = [.opened, .dropped] ∧
        standing s.supervisor 0 = .abandoned) ∧
      ∃ h s, ClientRun rareHeartbeat [] h s ∧ OwnershipLaw rareHeartbeat [] h s ∧
        life 0 (transportLog h) = [.opened, .receiveBegun, .dropped] ∧
        standing s.supervisor 0 = .abandoned := by
  refine ⟨?_, ?_, ?_⟩
  · have r₀ : ClientRun .standard [] [] (.fresh .standard []) := ClientCourse.start
    have r₁ := ClientCourse.step r₀ (ClientStep.acts (.call .start))
    have r₂ := ClientCourse.step r₁ (ClientStep.takes 0 _ _ rfl)
    have r₃ := ClientCourse.step r₂ (ClientStep.meets 0 .attemptBegun _ _ nofun rfl)
    have r₄ := ClientCourse.step r₃ (ClientStep.meets 0 .connected _ _ nofun rfl)
    have r₅ := ClientCourse.step r₄ (ClientStep.acts .dropHandle)
    have r₆ := ClientCourse.step r₅ (ClientStep.takes 0 _ _ rfl)
    have r₇ := ClientCourse.step r₆ (ClientStep.meets 0 .closeFinished _ _ nofun rfl)
    exact ⟨_, _, r₇, session_ownership r₇, rfl, rfl, rfl⟩
  · have r₀ : ClientRun lateHeartbeat [] [] (.fresh lateHeartbeat []) := ClientCourse.start
    have r₁ := ClientCourse.step r₀ (ClientStep.acts (.call .start))
    have r₂ := ClientCourse.step r₁ (ClientStep.takes 0 _ _ rfl)
    have r₃ := ClientCourse.step r₂ (ClientStep.meets 0 .attemptBegun _ _ nofun rfl)
    have r₄ := ClientCourse.step r₃ (ClientStep.meets 0 .connected _ _ nofun rfl)
    exact ⟨_, _, r₄, session_ownership r₄, by decide +kernel, by decide +kernel⟩
  · have r₀ : ClientRun rareHeartbeat [] [] (.fresh rareHeartbeat []) := ClientCourse.start
    have r₁ := ClientCourse.step r₀ (ClientStep.acts (.call .start))
    have r₂ := ClientCourse.step r₁ (ClientStep.takes 0 _ _ rfl)
    have r₃ := ClientCourse.step r₂ (ClientStep.meets 0 .attemptBegun _ _ nofun rfl)
    have r₄ := ClientCourse.step r₃ (ClientStep.meets 0 .connected _ _ nofun rfl)
    have r₅ := ClientCourse.step r₄ (ClientStep.passes 4611686018427387904000000006000000)
    have r₆ := ClientCourse.step r₅ (ClientStep.meets 0 .heartbeatDue _ _ nofun rfl)
    exact ⟨_, _, r₆, session_ownership r₆, by decide +kernel, by decide +kernel⟩

end SteadyLink.Proofs
