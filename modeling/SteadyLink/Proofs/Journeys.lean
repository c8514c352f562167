import SteadyLink.Proofs.ClientRuns

/-!
# Journeys

Courses of a client in which it can be seen who has done what. Whatever a client can go on with is a
choice that somebody makes, and a trail keeps the choices together with the clients in which they
were made. Journeys and courses are the same ways to get from one client to another.
-/

namespace SteadyLink.Proofs

/-- What happens next, and who does it. -/
inductive Choice where
  | deed (d : Deed)
  | pass (now : Instant)
  | work (t : Task)
  /-- The supervisor takes a request, or learns that no handle is left. -/
  | take (draw : Nat)
  | meet (draw : Nat) (stimulus : Stimulus)

/-- The client after a choice; none if the choice is not open. -/
def next? (s : Client) : Choice → Option Client
  | .deed d => some (act s d)
  | .pass now => some (s.pass now)
  | .work t => s.stepTask t
  | .take draw => (s.takeMail draw).map Prod.fst
  | .meet _ (.mail _) => none
  | .meet draw stimulus => (s.turn draw stimulus).map Prod.fst

/-- What the supervisor meets with, if the turn is its. -/
def stimulusOf? (s : Client) : Choice → Option Stimulus
  | .take _ => some (.mail s.hub.mailbox.head?)
  | .meet _ stimulus => some stimulus
  | _ => none

/-- A client whose supervisor has taken its step; the effects have not come about yet. -/
def stepped (s : Client) (rest : List Control) (supervisor : Supervisor) : Client :=
  { s.onHub ({ · with mailbox := rest }) with supervisor }

/-- A choice that was made, and the client before it. -/
structure Move where
  before : Client
  choice : Choice

abbrev Trail := List Move

/-- The trail leads from the first client to the second. -/
inductive Journey (s₀ : Client) : Trail → Client → Prop
  | start : Journey s₀ [] s₀
  | step {trail : Trail} {s s' : Client} (choice : Choice) (past : Journey s₀ trail s)
      (taken : next? s choice = some s') : Journey s₀ (trail ++ [⟨s, choice⟩]) s'

section Steps

variable {s s' : Client}

lemma clientStep_next {h : History} (hs : ClientStep s h s') : ∃ choice, next? s choice = some s' := by
  cases hs with
  | acts d => exact ⟨.deed d, rfl⟩
  | passes now => exact ⟨.pass now, rfl⟩
  | works t s' worked => exact ⟨.work t, worked⟩
  | takes draw s' es taken =>
    refine ⟨.take draw, ?_⟩
    simp only [next?, taken, Option.map_some]
  | meets draw stimulus s' es other met =>
    refine ⟨.meet draw stimulus, ?_⟩
    cases stimulus with
    | mail request => exact absurd rfl (other request)
    | _ => simp only [next?, met, Option.map_some]

lemma next_clientStep {choice : Choice} (h : next? s choice = some s') : ∃ g, ClientStep s g s' := by
  cases choice with
  | deed d =>
    obtain rfl := Option.some.inj h
    exact ⟨_, .acts d⟩
  | pass now =>
    obtain rfl := Option.some.inj h
    exact ⟨_, .passes now⟩
  | work t => exact ⟨_, .works t s' h⟩
  | take draw =>
    obtain ⟨⟨s', es⟩, taken, rfl⟩ := Option.map_eq_some_iff.mp h
    exact ⟨_, .takes draw s' es taken⟩
  | meet draw stimulus =>
    cases stimulus with
    | mail request => cases h
    | _ =>
      obtain ⟨⟨s', es⟩, met, rfl⟩ := Option.map_eq_some_iff.mp h
      exact ⟨_, .meets draw _ s' es (by simp) met⟩

/-- A turn of the supervisor: it takes a step, and its effects come about. A request that it takes has
left the mailbox before. -/
lemma next_turn {choice : Choice} {stimulus : Stimulus} (hst : stimulusOf? s choice = some stimulus)
    (h : next? s choice = some s') : ∃ draw rest supervisor es,
      s.supervisor.step s.config s.hub.now draw stimulus = some (supervisor, es) ∧
        (request? stimulus).toList ++ rest = s.hub.mailbox ∧
        s' = (es.foldl Client.apply (stepped s rest supervisor)).settleEnd := by
  have turned {draw : Nat} {stimulus : Stimulus} {rest : List Control} {es : List Effect}
      (ht : (s.onHub ({ · with mailbox := rest })).turn draw stimulus = some (s', es)) :
      ∃ supervisor, s.supervisor.step s.config s.hub.now draw stimulus = some (supervisor, es) ∧
        s' = (es.foldl Client.apply (stepped s rest supervisor)).settleEnd := by
    unfold Client.turn at ht
    split at ht
    case h_1 => cases ht
    case h_2 supervisor effects hstep =>
      simp only [Option.some.injEq, Prod.mk.injEq] at ht
      obtain ⟨rfl, rfl⟩ := ht
      exact ⟨supervisor, hstep, rfl⟩
  cases choice with
  | deed d => cases hst
  | pass now => cases hst
  | work t => cases hst
  | take draw =>
    obtain rfl := Option.some.inj hst
    obtain ⟨⟨s', es⟩, ht, rfl⟩ := Option.map_eq_some_iff.mp h
    unfold Client.takeMail at ht
    split at ht
    case h_1 request rest hm =>
      rw [hm]
      obtain ⟨supervisor, hstep, hs⟩ := turned ht
      exact ⟨draw, rest, supervisor, es, hstep, rfl, hs⟩
    case h_2 hm =>
      split at ht
      case isTrue =>
        have hself : (s.onHub ({ · with mailbox := [] })) = s := by
          show { s with hub := { s.hub with mailbox := [] } } = s
          rw [← hm]
        rw [← hself] at ht
        obtain ⟨supervisor, hstep, hs⟩ := turned ht
        rw [hm]
        exact ⟨draw, [], supervisor, es, hstep, rfl, hs⟩
      case isFalse => cases ht
  | meet draw stimulus =>
    obtain rfl := Option.some.inj hst
    cases stimulus with
    | mail request => cases h
    | _ =>
      obtain ⟨⟨s', es⟩, ht, rfl⟩ := Option.map_eq_some_iff.mp h
      have ht : (s.onHub ({ · with mailbox := s.hub.mailbox })).turn draw _ = some (s', es) := ht
      obtain ⟨supervisor, hstep, hs⟩ := turned ht
      exact ⟨draw, s.hub.mailbox, supervisor, es, hstep, rfl, hs⟩

end Steps

section Journeys

variable {s₀ s₁ s : Client} {trail : Trail}

theorem journey_iff_course :
    (∃ trail, Journey s₀ trail s) ↔ ∃ h, ClientCourse s₀ h s := by
  constructor
  · rintro ⟨trail, p⟩
    induction p with
    | start => exact ⟨[], .start⟩
    | step choice past taken ih =>
      obtain ⟨h, hc⟩ := ih
      obtain ⟨g, hs⟩ := next_clientStep taken
      exact ⟨_, .step hc hs⟩
  · rintro ⟨h, hc⟩
    induction hc with
    | start => exact ⟨[], .start⟩
    | step past taken ih =>
      obtain ⟨trail, p⟩ := ih
      obtain ⟨choice, hn⟩ := clientStep_next taken
      exact ⟨_, .step choice p hn⟩

lemma journey_append {later : Trail} (p : Journey s₀ trail s₁) (q : Journey s₁ later s) :
    Journey s₀ (trail ++ later) s := by
  induction q with
  | start => simpa using p
  | step choice past taken ih =>
    rw [← List.append_assoc]
    exact .step choice ih taken

/-- Makes these choices one after another, if they are open. -/
def travel (s : Client) : List Choice → Option (Trail × Client)
  | [] => some ([], s)
  | choice :: choices =>
    (next? s choice).bind fun s' => (travel s' choices).map fun r => (⟨s, choice⟩ :: r.1, r.2)

lemma travel_journey {choices : List Choice} (h : travel s₀ choices = some (trail, s)) :
    Journey s₀ trail s := by
  induction choices generalizing s₀ trail with
  | nil =>
    obtain ⟨rfl, rfl⟩ := Prod.mk.inj (Option.some.inj h)
    exact .start
  | cons choice choices ih =>
    obtain ⟨s₁, taken, h⟩ := Option.bind_eq_some_iff.mp h
    obtain ⟨⟨later, s₂⟩, onward, hend⟩ := Option.map_eq_some_iff.mp h
    obtain ⟨rfl, rfl⟩ := Prod.mk.inj hend
    exact journey_append (.step choice .start taken) (ih onward)

/-- What can be seen of choices that are made is seen of a journey. -/
lemma travel_shows (choices : List Choice) {p : Trail → Client → Prop}
    [∀ trail s, Decidable (p trail s)]
    (h : (travel s₀ choices).any (fun r => decide (p r.1 r.2)) = true) :
    ∃ trail s, Journey s₀ trail s ∧ p trail s := by
  cases hr : travel s₀ choices with
  | none =>
    rw [hr] at h
    cases h
  | some r =>
    rw [hr] at h
    exact ⟨r.1, r.2, travel_journey hr, of_decide_eq_true h⟩

/-- From wherever a journey has led, another one sets out with a deed. -/
lemma journey_onward (_ : Journey s₀ trail s) (d : Deed) : Journey (act s d) [] (act s d) := .start

end Journeys

end SteadyLink.Proofs
