import SteadyLink.Proofs.Runs

/-!
# Lifecycle

The transitions of a supervisor. `Chained` follows a state through a list of effects: transitions
go on where the last one ended, along the edges of the lifecycle, and each stage of the loop is taken
up in the state that belongs to it. Every turn chains the state before it to the state after it.
-/

namespace SteadyLink.Proofs

open Supervisor

def moves (es : List Effect) : List (ConnectionState × ConnectionState) :=
  es.filterMap fun e =>
    match e with
    | .moved source target => some (source, target)
    | _ => none

@[simp] lemma moves_nil : moves [] = [] := rfl

@[simp] lemma moves_append (es fs : List Effect) : moves (es ++ fs) = moves es ++ moves fs :=
  List.filterMap_append

/-- The state that belongs to a stage of the loop; none where the loop ends. -/
def stageState? : Stage → Option ConnectionState
  | .idle => some .idle
  | .connecting => some .connecting
  | .opened => some .opened
  | .retrying => some .retrying
  | .closing => some .closing
  | .terminal => some .terminal
  | .exit => none

/-- The effect has no bearing on the lifecycle. -/
def IsPlain : Effect → Prop
  | .moved .. => False
  | .refused .. => False
  | .began _ => False
  | .publish e => e.kind ≠ .stateChanged
  | _ => True

/-- The state after an effect. -/
def track (state : ConnectionState) : Effect → ConnectionState
  | .moved _ target => target
  | _ => state

/-- The effects lead from the first state to the second, and no transition is refused. -/
inductive Chained : ConnectionState → List Effect → ConnectionState → Prop
  | stays (state : ConnectionState) : Chained state [] state
  | moves {state next last : ConnectionState} {es : List Effect}
      (edge : state.canTransitionTo next = true) (rest : Chained next es last) :
    Chained state (.moved state next :: es) last
  | begins {state last : ConnectionState} {stage : Stage} {es : List Effect}
      (agrees : ∀ own, stageState? stage = some own → own = state) (rest : Chained state es last) :
    Chained state (.began stage :: es) last
  | passes {state last : ConnectionState} {e : Effect} {es : List Effect} (plain : IsPlain e)
      (rest : Chained state es last) : Chained state (e :: es) last

section Chains

variable {first middle last : ConnectionState} {es fs : List Effect}

lemma chained_append (h : Chained first es middle) (h' : Chained middle fs last) :
    Chained first (es ++ fs) last := by
  induction h with
  | stays => exact h'
  | moves edge rest ih => exact Chained.moves edge (ih h')
  | begins agrees rest ih => exact Chained.begins agrees (ih h')
  | passes plain rest ih => exact Chained.passes plain (ih h')

lemma chained_plain (h : ∀ e ∈ es, IsPlain e) : Chained first es first := by
  induction es with
  | nil => exact Chained.stays first
  | cons e es ih =>
    refine Chained.passes (h e List.mem_cons_self) (ih ?_)
    intro e he
    exact h e (List.mem_cons_of_mem _ he)

lemma chained_begins {stage : Stage} (hstage : stageState? stage = some first)
    (h : Chained first es last) : Chained first (.began stage :: es) last := by
  refine Chained.begins ?_ h
  intro own hown
  rw [hstage] at hown
  exact (Option.some.inj hown).symm

lemma chained_track (h : Chained first es last) : es.foldl track first = last := by
  induction h with
  | stays => rfl
  | moves edge rest ih => exact ih
  | begins agrees rest ih => exact ih
  | @passes state last e es plain rest ih =>
    cases e with
    | moved => cases plain
    | _ => exact ih

lemma chained_not_refused (h : Chained first es last) (source target : ConnectionState) :
    .refused source target ∉ es := by
  induction h with
  | stays => simp
  | moves edge rest ih => simpa using ih
  | begins agrees rest ih => simpa using ih
  | @passes state last e es plain rest ih =>
    intro hm
    rcases List.mem_cons.mp hm with rfl | hm
    · exact plain
    · exact ih hm

lemma chained_publish {e : Event} (h : Chained first es last) (he : .publish e ∈ es) :
    e.kind ≠ .stateChanged := by
  induction h with
  | stays => cases he
  | moves edge rest ih => exact ih (by simpa using he)
  | begins agrees rest ih => exact ih (by simpa using he)
  | passes plain rest ih =>
    rcases List.mem_cons.mp he with rfl | he
    · exact plain
    · exact ih he

/-- A chain can be cut anywhere, and the state there is the one that was tracked. -/
lemma chained_split (pre : List Effect) (h : Chained first (pre ++ es) last) :
    Chained first pre (pre.foldl track first) ∧ Chained (pre.foldl track first) es last := by
  induction pre generalizing first with
  | nil => exact ⟨Chained.stays first, h⟩
  | cons e pre ih =>
    cases h with
    | moves edge rest =>
      obtain ⟨hpre, hes⟩ := ih rest
      exact ⟨Chained.moves edge hpre, hes⟩
    | begins agrees rest =>
      obtain ⟨hpre, hes⟩ := ih rest
      exact ⟨Chained.begins agrees hpre, hes⟩
    | passes plain rest =>
      have he : track first e = first := by
        cases e with
        | moved => cases plain
        | _ => rfl
      obtain ⟨hpre, hes⟩ := ih rest
      rw [List.foldl_cons, he]
      exact ⟨Chained.passes plain hpre, hes⟩

lemma chained_began {stage : Stage} {own : ConnectionState} (pre : List Effect)
    (h : Chained first (pre ++ .began stage :: es) last) (hown : stageState? stage = some own) :
    pre.foldl track first = own := by
  obtain ⟨-, hes⟩ := chained_split pre h
  cases hes with
  | begins agrees rest => exact (agrees own hown).symm
  | passes plain rest => cases plain

end Chains

section Turns

variable {c : Config} {now : Instant} {draw : Nat} {s s' : Supervisor} {es : List Effect}

lemma retryTurn_chained (h : RetryTurn c now draw s (s', es)) (hs : s.state = .retrying) :
    Chained .retrying es s'.state := by
  cases h with
  | waits allowed =>
    show Chained .retrying _ s.state
    rw [hs]
    exact chained_begins rfl (chained_plain (by simp [IsPlain]))
  | givesUp spent =>
    refine chained_begins rfl (Chained.moves rfl (Chained.passes (by simp [IsPlain]) ?_))
    exact chained_begins rfl (Chained.stays _)

lemma endTurn_chained {after : AfterClose} (h : EndTurn c now draw s after (s', es)) :
    Chained .closing es s'.state := by
  cases h with
  | rests => exact Chained.moves rfl (chained_begins rfl (Chained.stays _))
  | leaves =>
    refine Chained.moves rfl (Chained.begins ?_ (Chained.stays _))
    intro own hown
    cases hown
  | retries u retried => exact Chained.moves rfl (retryTurn_chained retried rfl)

lemma flushNotes_plain (sent : Nat) : ∀ e ∈ flushNotes sent, IsPlain e := by
  intro e he
  unfold flushNotes at he
  by_cases h0 : sent = 0
  · simp [h0] at he
    rw [he]
    simp [IsPlain]
  · simp [h0] at he
    rcases he with rfl | rfl <;> simp [IsPlain]

lemma flushTurn_chained {session sent : Nat} (h : FlushTurn c now session sent s (s', es))
    (hs : s.state = .opened) : Chained .opened es s'.state := by
  have hnotes : Chained .opened (flushNotes sent) .opened := chained_plain (flushNotes_plain sent)
  cases h with
  | writes item rest items =>
    show Chained .opened _ s.state
    rw [hs]
    exact Chained.passes trivial (Chained.stays _)
  | serves ticker items first =>
    show Chained .opened _ s.state
    rw [hs]
    exact chained_append hnotes (chained_begins rfl (Chained.stays _))
  | crashes every items interval unshown =>
    show Chained .opened _ s.state
    rw [hs]
    exact chained_append hnotes
      (chained_begins rfl (Chained.passes trivial (Chained.stays _)))

lemma queued_plain {command : Command} (h : Queued now command s (s', es)) :
    ∀ e ∈ es, IsPlain e := by
  cases h <;> simp [IsPlain]

lemma shutCause_plain {stimulus : Stimulus} {after : AfterClose} {notes : List Effect}
    (h : ShutCause c stimulus after notes) : ∀ e ∈ notes, IsPlain e := by
  cases h <;> simp [IsPlain]

lemma interrupted_plain {stimulus : Stimulus} {session : Nat} {e : TransportError}
    (h : Interrupted now s stimulus session e (s', es)) : ∀ e ∈ es, IsPlain e := by
  cases h with
  | flushing => simp
  | receiving => simp
  | sending session ticker command e u phase queued => exact queued_plain queued
  | pinging => simp

/-- A turn takes transitions of the lifecycle only, one from where another ended. -/
theorem turned_chained {stimulus : Stimulus} (hs : Aligned s)
    (h : Turned c now draw s stimulus (s', es)) : Chained s.state es s'.state := by
  have ho {p : Phase} {state : ConnectionState} (hp : s.phase = p)
      (hstate : phaseState? p = some state) : s.state = state := hs state (by rw [hp]; exact hstate)
  cases h with
  | starts parked =>
    have hedge : s.state.canTransitionTo .connecting = true := by
      rcases parked with hp | hp
      · rw [ho hp rfl]
        rfl
      · rw [ho hp rfl]
        rfl
    exact Chained.moves hedge (chained_begins rfl (Chained.stays _))
  | ignores => exact Chained.stays _
  | keeps envelope u free queued =>
    have hu : s'.state = s.state := (queued_sameCounts queued).state
    rw [hu]
    exact chained_plain (queued_plain queued)
  | leaves =>
    refine Chained.begins ?_ (Chained.stays _)
    intro own hown
    cases hown
  | calls => exact Chained.passes trivial (Chained.stays _)
  | cancels request after u unconnected asked ended =>
    exact Chained.moves (closing_edge s hs unconnected)
      (chained_begins rfl (endTurn_chained ended))
  | opens deadline u phase flushed =>
    rw [ho phase rfl]
    refine Chained.moves rfl (chained_append (chained_plain ?_) (flushTurn_chained flushed rfl))
    intro e he
    obtain ⟨command, -, rfl⟩ := List.mem_map.mp he
    trivial
  | fails deadline stimulus e u phase failure retried =>
    rw [ho phase rfl]
    refine Chained.passes (by simp [IsPlain]) (Chained.moves rfl ?_)
    exact retryTurn_chained retried rfl
  | flushesOn session item sent u phase flushed =>
    rw [ho phase rfl]
    exact Chained.passes trivial (flushTurn_chained flushed (ho phase rfl))
  | loses stimulus session e u v interrupted retried =>
    have hopen : s.state = .opened := by
      cases interrupted with
      | flushing session item sent e phase => exact ho phase rfl
      | receiving session ticker e phase => exact ho phase rfl
      | sending session ticker command e u phase queued => exact ho phase rfl
      | pinging session ticker e phase => exact ho phase rfl
    rw [hopen]
    refine chained_append (chained_plain (interrupted_plain interrupted)) ?_
    refine Chained.passes (by simp [IsPlain]) (Chained.moves rfl (Chained.passes trivial ?_))
    exact retryTurn_chained retried rfl
  | shuts session ticker stimulus after notes phase cause =>
    rw [ho phase rfl]
    refine chained_append (chained_plain (shutCause_plain cause)) (Chained.moves rfl ?_)
    exact chained_begins rfl (Chained.passes trivial (Chained.stays _))
  | skipsFrame => exact Chained.passes (by simp [IsPlain]) (Chained.stays _)
  | dispatches => exact Chained.passes trivial (Chained.stays _)
  | sends => exact Chained.passes trivial (Chained.stays _)
  | pings => exact Chained.passes trivial (Chained.stays _)
  | overruns => exact Chained.passes trivial (Chained.stays _)
  | sent => exact Chained.passes trivial (Chained.stays _)
  | pinged => exact Chained.passes trivial (Chained.stays _)
  | wakes wakeAt phase due =>
    rw [ho phase rfl]
    exact Chained.moves rfl (chained_begins rfl (Chained.stays _))
  | closes session giveUpAt stimulus after u phase finished ended =>
    rw [ho phase rfl]
    exact Chained.passes trivial (endTurn_chained ended)

end Turns

/-- The effects of a course chain the state at its start to the state at its end. -/
theorem course_chained {c : Config} {s₀ s : Supervisor} {h : History} (hs : Aligned s₀)
    (hc : Course c s₀ h s) : Chained s₀.state (effects h) s.state := by
  refine course_invariant (P := fun h s => Chained s₀.state (effects h) s.state) hs
    (Chained.stays _) ?_ hc
  intro h s now draw stimulus s' es ih ha ht
  rw [effects_append, effects_singleton]
  exact chained_append ih (turned_chained ha ht)

/-- A step publishes its transitions by moving, and none beside. -/
lemma step_plain {stimulus : Stimulus} (hs : Aligned s)
    (h : s.step c now draw stimulus = some (s', es)) (event : Event) (he : .publish event ∈ es) :
    event.kind ≠ .stateChanged :=
  chained_publish (turned_chained hs (step_turned hs h)) he

end SteadyLink.Proofs
