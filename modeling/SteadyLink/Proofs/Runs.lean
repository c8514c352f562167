import SteadyLink.Proofs.Turns

/-!
# Runs of the supervisor

A history lists the turns that were taken, the earliest first. `Course` relates the supervisor before
a history to the one after it, and a `Run` is a course from the very beginning. Nothing is assumed
about what a supervisor meets: requests, outcomes, times and random numbers come in any order.
-/

namespace SteadyLink.Proofs

/-- One turn that was taken. -/
structure Occurrence where
  before : Supervisor
  now : Instant
  draw : Nat
  stimulus : Stimulus
  effects : List Effect
  after : Supervisor

abbrev History := List Occurrence

/-- All effects of a history, in the order in which they happened. -/
def effects (h : History) : List Effect := h.flatMap Occurrence.effects

/-- The history leads from the first supervisor to the second. -/
inductive Course (c : Config) (s₀ : Supervisor) : History → Supervisor → Prop
  | start : Course c s₀ [] s₀
  | turn {h : History} {s : Supervisor} (now : Instant) (draw : Nat) (stimulus : Stimulus)
      (t : Turn) (past : Course c s₀ h s) (taken : s.step c now draw stimulus = some t) :
    Course c s₀ (h ++ [⟨s, now, draw, stimulus, t.2, t.1⟩]) t.1

/-- A history of a supervisor from its beginning, and where it has led. -/
def Run (c : Config) : History → Supervisor → Prop := Course c (.fresh c)

@[simp] lemma effects_nil : effects [] = [] := rfl

@[simp] lemma effects_append (h₁ h₂ : History) : effects (h₁ ++ h₂) = effects h₁ ++ effects h₂ :=
  List.flatMap_append

@[simp] lemma effects_singleton (o : Occurrence) : effects [o] = o.effects := by
  simp [effects]

lemma effects_cons (o : Occurrence) (h : History) : effects (o :: h) = o.effects ++ effects h :=
  List.flatMap_cons

/-- A course of two parts passes through a supervisor between them. -/
theorem course_split {c : Config} {s₀ s : Supervisor} (h₁ h₂ : History)
    (hc : Course c s₀ (h₁ ++ h₂) s) : ∃ s₁, Course c s₀ h₁ s₁ ∧ Course c s₁ h₂ s := by
  generalize hh : h₁ ++ h₂ = h at hc
  induction hc generalizing h₂ with
  | start =>
    obtain ⟨rfl, rfl⟩ := List.append_eq_nil_iff.mp hh
    exact ⟨s₀, Course.start, Course.start⟩
  | @turn h s now draw stimulus t past taken ih =>
    rcases List.eq_nil_or_concat h₂ with rfl | ⟨h₂, o, rfl⟩
    · rw [List.append_nil] at hh
      rw [hh]
      exact ⟨t.1, Course.turn now draw stimulus t past taken, Course.start⟩
    · rw [List.concat_eq_append, ← List.append_assoc] at hh
      obtain ⟨rfl, ho⟩ := List.append_inj' hh rfl
      obtain ⟨s₁, hc₁, hc₂⟩ := ih h₂ rfl
      rw [(List.cons.inj ho).1, List.concat_eq_append]
      exact ⟨s₁, hc₁, Course.turn now draw stimulus t hc₂ taken⟩

lemma course_nil {c : Config} {s₀ s : Supervisor} (hc : Course c s₀ [] s) : s = s₀ := by
  generalize hn : ([] : History) = h at hc
  cases hc with
  | start => rfl
  | turn => simp at hn

lemma course_last {c : Config} {s₀ s : Supervisor} {h : History} {o : Occurrence}
    (hc : Course c s₀ (h ++ [o]) s) : Course c s₀ h o.before ∧ s = o.after := by
  generalize hg : h ++ [o] = g at hc
  cases hc with
  | start => simp at hg
  | turn now draw stimulus t past taken =>
    obtain ⟨rfl, ho⟩ := List.append_inj' hg rfl
    rw [(List.cons.inj ho).1]
    exact ⟨past, rfl⟩

lemma course_head {c : Config} {s₀ s : Supervisor} {o : Occurrence} {h : History}
    (hc : Course c s₀ (o :: h) s) : o.before = s₀ := by
  obtain ⟨s₁, hc₁, -⟩ := course_split [o] h hc
  have hlast : Course c s₀ ([] ++ [o]) s₁ := hc₁
  exact course_nil (course_last hlast).1

theorem course_append {c : Config} {s₀ s₁ s₂ : Supervisor} {h₁ h₂ : History}
    (hc₁ : Course c s₀ h₁ s₁) (hc₂ : Course c s₁ h₂ s₂) : Course c s₀ (h₁ ++ h₂) s₂ := by
  induction hc₂ with
  | start => simpa using hc₁
  | turn now draw stimulus t past taken ih =>
    rw [← List.append_assoc]
    exact Course.turn now draw stimulus t ih taken

/-- A run up to one of its turns. -/
lemma run_until {c : Config} {s : Supervisor} {h later : History} {o : Occurrence}
    (r : Run c (h ++ o :: later) s) : Run c h o.before := by
  obtain ⟨s₁, r₁, rest⟩ := course_split h (o :: later) r
  rw [course_head rest]
  exact r₁

lemma fresh_aligned (c : Config) : Aligned (.fresh c) := by
  intro _ h
  exact Option.some.inj h

section Alignment

variable {c : Config} {now : Instant} {draw : Nat} {s : Supervisor}

lemma retryTurn_aligned {u : Turn} (h : RetryTurn c now draw s u) (hs : s.state = .retrying) :
    Aligned u.1 := by
  cases h with
  | waits => intro _ h; exact hs.trans (Option.some.inj h)
  | givesUp => intro _ h; exact Option.some.inj h

lemma endTurn_aligned {after : AfterClose} {s' : Supervisor} {es : List Effect}
    (h : EndTurn c now draw s after (s', es)) : Aligned s' := by
  cases h with
  | rests => intro _ h; exact Option.some.inj h
  | leaves => intro _ h; cases h
  | retries u retried =>
    exact retryTurn_aligned retried rfl

lemma flushTurn_aligned {session sent : Nat} {u : Turn} (h : FlushTurn c now session sent s u)
    (hs : s.state = .opened) : Aligned u.1 := by
  cases h with
  | writes => intro _ h; exact hs.trans (Option.some.inj h)
  | serves => intro _ h; exact hs.trans (Option.some.inj h)
  | crashes => intro _ h; exact hs.trans (Option.some.inj h)

lemma queued_aligned {command : Command} {u : Turn} (h : Queued now command s u)
    (hs : Aligned s) : Aligned u.1 := by
  cases h <;> exact hs

theorem turned_aligned {stimulus : Stimulus} {s' : Supervisor} {es : List Effect} (hs : Aligned s)
    (h : Turned c now draw s stimulus (s', es)) : Aligned s' := by
  have ho {p : Phase} {state : ConnectionState} (hp : s.phase = p)
      (hstate : phaseState? p = some state) : s.state = state := hs state (by rw [hp]; exact hstate)
  cases h with
  | starts => intro _ h; exact Option.some.inj h
  | ignores => exact hs
  | keeps e u free queued => exact queued_aligned queued hs
  | leaves => intro _ h; cases h
  | calls phase => intro _ h; exact (ho phase rfl).trans (Option.some.inj h)
  | cancels request after u unconnected asked ended =>
    exact endTurn_aligned ended
  | opens deadline u phase flushed =>
    exact flushTurn_aligned flushed rfl
  | fails deadline stimulus e u phase failure retried =>
    exact retryTurn_aligned retried rfl
  | flushesOn session item sent u phase flushed =>
    exact flushTurn_aligned flushed (ho phase rfl)
  | loses stimulus session e u v interrupted retried =>
    exact retryTurn_aligned retried rfl
  | shuts => intro _ h; exact Option.some.inj h
  | skipsFrame => exact hs
  | dispatches => exact hs
  | sends session ticker e phase => intro _ h; exact (ho phase rfl).trans (Option.some.inj h)
  | pings session ticker next phase => intro _ h; exact (ho phase rfl).trans (Option.some.inj h)
  | overruns session ticker phase => intro _ h; exact (ho phase rfl).trans (Option.some.inj h)
  | sent session ticker command phase =>
    intro _ h; exact (ho phase rfl).trans (Option.some.inj h)
  | pinged session ticker phase => intro _ h; exact (ho phase rfl).trans (Option.some.inj h)
  | wakes => intro _ h; exact Option.some.inj h
  | closes session giveUpAt stimulus after u phase finished ended =>
    exact endTurn_aligned ended

end Alignment

theorem course_aligned {c : Config} {s₀ s : Supervisor} {h : History} (hs : Aligned s₀)
    (hc : Course c s₀ h s) : Aligned s := by
  induction hc with
  | start => exact hs
  | turn now draw stimulus t past taken ih => exact turned_aligned ih (step_turned ih taken)

/-- What holds at the start of a course and is kept by every turn holds all along. -/
theorem course_invariant {c : Config} {s₀ s : Supervisor} {h : History}
    {P : History → Supervisor → Prop} (hs : Aligned s₀) (start : P [] s₀)
    (turn : ∀ h s now draw stimulus s' es, P h s → Aligned s →
      Turned c now draw s stimulus (s', es) → P (h ++ [⟨s, now, draw, stimulus, es, s'⟩]) s')
    (hc : Course c s₀ h s) : P h s := by
  induction hc with
  | start => exact start
  | turn now draw stimulus t past taken ih =>
    have ha := course_aligned hs past
    exact turn _ _ now draw stimulus t.1 t.2 ih ha (step_turned ha taken)

/-- What holds of a fresh supervisor and is kept by every turn holds of every supervisor of a run. -/
theorem run_keeps {c : Config} {s : Supervisor} {h : History} {I : Supervisor → Prop}
    (fresh : I (.fresh c))
    (turn : ∀ s now draw stimulus s' es, I s → Aligned s →
      Turned c now draw s stimulus (s', es) → I s')
    (r : Run c h s) : I s ∧ ∀ o ∈ h, I o.before := by
  refine course_invariant (P := fun h s => I s ∧ ∀ o ∈ h, I o.before) (fresh_aligned c) ?_ ?_ r
  · exact ⟨fresh, by simp⟩
  · intro h s now draw stimulus s' es ih ha ht
    refine ⟨turn s now draw stimulus s' es ih.1 ha ht, ?_⟩
    intro o ho
    rcases List.mem_append.mp ho with ho | ho
    · exact ih.2 o ho
    · rw [List.mem_singleton.mp ho]
      exact ih.1

/-- Whatever is true of all turns of aligned supervisors is true of each turn of a run. -/
theorem run_occurrence {c : Config} {s : Supervisor} {h : History} {o : Occurrence}
    (r : Run c h s) (ho : o ∈ h) :
    Aligned o.before ∧ Turned c o.now o.draw o.before o.stimulus (o.after, o.effects) := by
  refine course_invariant (P := fun h _ => ∀ o ∈ h, Aligned o.before ∧
    Turned c o.now o.draw o.before o.stimulus (o.after, o.effects)) (fresh_aligned c) ?_ ?_ r o ho
  · intro o ho
    cases ho
  · intro h s now draw stimulus s' es ih ha ht o ho
    rcases List.mem_append.mp ho with ho | ho
    · exact ih o ho
    · obtain rfl := List.mem_singleton.mp ho
      exact ⟨ha, ht⟩

end SteadyLink.Proofs
