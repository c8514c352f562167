import SteadyLink.Proofs.RetryPolicy

/-!
# The time between two attempts

A transport is called again only after a fresh start, or after one wait: the wait was told of once,
and its whole delay has gone by. How the attempt before it came to its end makes no difference.
-/

namespace SteadyLink.Proofs

open Supervisor

/-- The clock never goes back. -/
def Onward (h : History) : Prop := h.Pairwise fun o p => o.now ≤ p.now

instance (h : History) : Decidable (Onward h) :=
  inferInstanceAs (Decidable (h.Pairwise fun o p => o.now ≤ p.now))

/-- The events that announce a wait. -/
def announcements (es : List Effect) : List Event :=
  (es.filterMap Effect.event?).filter fun e => e.kind = .backoffScheduled

/-- A turn announces a wait whose delay is drawn for the attempts that have failed in a row by then,
those of the turn itself included. -/
structure Announced (c : Config) (past : History) (o : Occurrence) (event : Event)
    (delay : Duration) : Prop where
  published : .publish event ∈ o.effects
  attempt : event.attempt = some (min (failures (past ++ [o])) failureLimit)
  drawn : delay = c.backoff.next (max (min (failures (past ++ [o])) failureLimit) 1 - 1) o.draw
  millis : event.delayMillis = some (min delay.millis eventNumberLimit)

/-- Between two points in a run one wait is announced, and it lasts until the given time. -/
inductive Waits (c : Config) (past between : History) (wakeAt : Instant) : Prop
  | intro (before after : History) (o : Occurrence) (event : Event) (delay : Duration)
      (split : between = before ++ o :: after)
      (announced : Announced c (past ++ before) o event delay)
      (once : announcements (effects between) = [event])
      (least : c.backoff.floor ≤ delay) (positive : .ofMillis 1 ≤ c.backoff.floor)
      (wake : wakeAt = o.now + delay.nanos)

/-- What lies between two calls of the transport, of which the second is made at the given time. -/
inductive Gap (c : Config) (past between : History) (next : Instant) : Prop
  | restarted (o : Occurrence) (among : o ∈ between) (start : IsStart o)
  | waited (wakeAt : Instant) (waits : Waits c past between wakeAt) (elapsed : wakeAt ≤ next)

/-- Where a supervisor has come to since the last call of the transport, unless it was started
afresh. -/
def SinceCall (c : Config) (past between : History) (s : Supervisor) : Prop :=
  match s.phase with
  | .idle => True
  | .terminal => True
  | .exited => True
  | .crashed => True
  | .retrying wakeAt => Waits c past between wakeAt
  | .connecting => ∃ wakeAt, Waits c past between wakeAt ∧ ∃ o ∈ between, wakeAt ≤ o.now
  | _ => announcements (effects between) = []

section Announcements

variable {c : Config} {past between : History} {o : Occurrence} {es fs : List Effect}

lemma announcements_append (es fs : List Effect) :
    announcements (es ++ fs) = announcements es ++ announcements fs := by
  unfold announcements
  rw [List.filterMap_append, List.filter_append]

lemma announcements_retryNotes (es : List Effect) :
    announcements es = (retryNotes es).filter fun e => e.kind = .backoffScheduled := by
  unfold announcements retryNotes
  rw [List.filter_filter]
  refine List.filter_congr ?_
  intro e _
  by_cases h : e.kind = .backoffScheduled <;> simp [h]

lemma away_unannounced (h : IsAway es) : announcements es = [] := by
  rw [announcements_retryNotes, h.2]
  rfl

lemma announcements_turn (ho : announcements o.effects = []) :
    announcements (effects (between ++ [o])) = announcements (effects between) := by
  rw [effects_append, effects_singleton, announcements_append, ho, List.append_nil]

lemma waits_later {wakeAt : Instant} (h : Waits c past between wakeAt)
    (ho : announcements o.effects = []) : Waits c past (between ++ [o]) wakeAt := by
  cases h with
  | intro before after p event delay split announced once least positive wake =>
    refine .intro before (after ++ [o]) p event delay ?_ announced ?_ least positive wake
    · rw [split, List.append_assoc, List.cons_append]
    · rw [announcements_turn ho, once]

end Announcements

section Turns

variable {c : Config} {past between : History} {now : Instant} {draw : Nat}
  {s s' : Supervisor} {es fs : List Effect}

lemma sinceCall_kept {o : Occurrence} (h : SinceCall c past between s) (hp : s'.phase = s.phase)
    (ho : announcements o.effects = []) : SinceCall c past (between ++ [o]) s' := by
  unfold SinceCall at h ⊢
  rw [hp]
  revert h
  cases s.phase with
  | idle => exact id
  | terminal => exact id
  | exited => exact id
  | crashed => exact id
  | retrying wakeAt => exact fun h => waits_later h ho
  | connecting =>
    rintro ⟨wakeAt, waits, p, hmem, hle⟩
    exact ⟨wakeAt, waits_later waits ho, p, List.mem_append_left _ hmem, hle⟩
  | _ => exact fun h => (announcements_turn ho).trans h

/-- A supervisor that holds a session, or waits for one, has announced nothing since the call. -/
lemma sinceCall_unannounced (h : SinceCall c past between s)
    (hp : (∃ deadline, s.phase = .attempting deadline) ∨ ∃ k, heldSession? s.phase = some k) :
    announcements (effects between) = [] := by
  unfold SinceCall at h
  rcases hp with ⟨deadline, hp⟩ | ⟨k, hk⟩
  · rw [hp] at h
    exact h
  · revert h hk
    cases s.phase with
    | flushing => exact fun h _ => h
    | serving => exact fun h _ => h
    | sending => exact fun h _ => h
    | pinging => exact fun h _ => h
    | closing => exact fun h _ => h
    | _ => exact fun _ hk => nomatch hk

lemma sinceCall_held {o : Occurrence} {k k' : Nat} (h : SinceCall c past between s)
    (hk : heldSession? s.phase = some k) (hk' : heldSession? s'.phase = some k')
    (ho : announcements o.effects = []) : SinceCall c past (between ++ [o]) s' := by
  have hg := (announcements_turn ho).trans (sinceCall_unannounced h (Or.inr ⟨k, hk⟩))
  unfold SinceCall
  revert hk'
  cases s'.phase with
  | flushing => exact fun _ => hg
  | serving => exact fun _ => hg
  | sending => exact fun _ => hg
  | pinging => exact fun _ => hg
  | closing => exact fun _ => hg
  | _ => exact fun hk' => nomatch hk'

lemma flushTurn_sinceCall {t : Supervisor} {session sent : Nat} {o : Occurrence}
    (h : FlushTurn c now session sent t (s', fs)) (ho : announcements o.effects = [])
    (hg : announcements (effects between) = []) : SinceCall c past (between ++ [o]) s' := by
  have hall := (announcements_turn ho).trans hg
  cases h with
  | writes => exact hall
  | serves => exact hall
  | crashes => trivial

/-- A wait that begins is announced, for the attempts that have failed by then. -/
lemma retryTurn_sinceCall {t : Supervisor} {o : Occurrence} (es : List Effect)
    (h : RetryTurn c o.now o.draw t (s', fs)) (ho : o.effects = es ++ fs) (hes : announcements es = [])
    (hg : announcements (effects between) = [])
    (hk : s'.attempts = min (failures (past ++ (between ++ [o]))) failureLimit) :
    SinceCall c past (between ++ [o]) s' := by
  cases h with
  | givesUp => trivial
  | waits =>
    have hall : announcements (effects (between ++ [o])) = announcements
        [.began .retrying, .publish (.backoffScheduled t.attempts
          (c.backoff.next (t.attempts - 1) o.draw))] := by
      rw [effects_append, effects_singleton, announcements_append, hg, ho, announcements_append, hes]
      rfl
    have hcount : t.attempts = min (failures (past ++ between ++ [o])) failureLimit := by
      rw [List.append_assoc]
      exact hk
    have hindex : t.attempts - 1 = max t.attempts 1 - 1 := by omega
    refine Waits.intro between [] o (.backoffScheduled t.attempts _) _ rfl ?_ hall
      (c.backoff.floor_le_next _ _) c.backoff.millisecond_le_floor rfl
    constructor
    · rw [ho]
      exact List.mem_append_right es (List.mem_cons_of_mem _ List.mem_cons_self)
    · rw [← hcount]
      rfl
    · rw [← hcount, ← hindex]
    · rfl

/-- What a turn makes of the way since the last call, if it neither calls nor starts afresh. -/
theorem turned_sinceCall {stimulus : Stimulus} (hs : SinceCall c past between s)
    (h : Turned c now draw s stimulus (s', es))
    (hk : s'.attempts =
      min (failures (past ++ (between ++ [⟨s, now, draw, stimulus, es, s'⟩]))) failureLimit)
    (hcall : .connect ∉ es) (hstart : ¬ IsStart ⟨s, now, draw, stimulus, es, s'⟩) :
    SinceCall c past (between ++ [⟨s, now, draw, stimulus, es, s'⟩]) s' := by
  have busy {k : Nat} (hk : heldSession? s.phase = some k) :
      announcements (effects between) = [] := sinceCall_unannounced hs (Or.inr ⟨k, hk⟩)
  cases h with
  | starts parked => exact absurd ⟨rfl, parked⟩ hstart
  | ignores => exact sinceCall_kept hs rfl rfl
  | keeps e u free queued =>
    have hp := queued_phase queued
    exact sinceCall_kept hs hp (away_unannounced (queued_away queued))
  | leaves => trivial
  | calls => exact absurd List.mem_cons_self hcall
  | cancels request after u unconnected asked ended =>
    cases asked with
    | stop =>
      cases ended with
      | rests => trivial
    | lastHandle =>
      cases ended with
      | leaves => trivial
  | opens deadline u phase flushed =>
    have hg := sinceCall_unannounced hs (Or.inl ⟨deadline, phase⟩)
    have hopened : IsAway [.moved .connecting .opened] := ⟨rfl, rfl⟩
    have hflush := (flushTurn_away flushed).1
    have hall := away_append hopened (away_append (away_expired (expired now s.queue)) hflush)
    exact flushTurn_sinceCall flushed (away_unannounced hall) hg
  | fails deadline stimulus e u phase failure retried =>
    have hg := sinceCall_unannounced hs (Or.inl ⟨deadline, phase⟩)
    exact retryTurn_sinceCall [.publish _, .moved .connecting .retrying] retried rfl rfl hg hk
  | flushesOn session item sent u phase flushed =>
    have hwrote : IsAway [.wrote session (some item.command) (c.frame (some item.command))] :=
      ⟨rfl, rfl⟩
    have hall := away_append hwrote (flushTurn_away flushed).1
    exact flushTurn_sinceCall flushed (away_unannounced hall) (busy (by rw [phase]; rfl))
  | loses stimulus session e u v interrupted retried =>
    have hu := away_unannounced (interrupted_away interrupted)
    have hg := busy (interrupted_heldSession? interrupted)
    refine retryTurn_sinceCall (u.2 ++ [.publish (.connectionLost (.transport e)),
      .moved .opened .retrying, .drop session]) retried ?_ ?_ hg hk
    · rw [List.append_assoc]
      rfl
    · rw [announcements_append, hu]
      rfl
  | shuts session ticker stimulus after notes phase cause =>
    have hnotes : announcements notes = [] := by cases cause <;> rfl
    have hes : announcements (notes ++ [.moved .opened .closing, .began .closing,
        .close session]) = [] := by
      rw [announcements_append, hnotes]
      rfl
    exact sinceCall_held hs (by rw [phase]; rfl) rfl hes
  | skipsFrame => exact sinceCall_kept hs rfl rfl
  | dispatches => exact sinceCall_kept hs rfl rfl
  | sends session ticker e phase => exact sinceCall_held hs (by rw [phase]; rfl) rfl rfl
  | pings session ticker next phase => exact sinceCall_held hs (by rw [phase]; rfl) rfl rfl
  | overruns => trivial
  | sent session ticker command phase => exact sinceCall_held hs (by rw [phase]; rfl) rfl rfl
  | pinged session ticker phase => exact sinceCall_held hs (by rw [phase]; rfl) rfl rfl
  | wakes wakeAt phase due =>
    unfold SinceCall at hs
    rw [phase] at hs
    exact ⟨wakeAt, waits_later hs rfl, _, List.mem_append_right between List.mem_cons_self, due⟩
  | closes session giveUpAt stimulus after u phase finished ended =>
    cases ended with
    | rests => trivial
    | leaves => trivial
    | retries v retried =>
      have hg := busy (by rw [phase]; rfl)
      exact retryTurn_sinceCall [.drop session, .moved .closing .retrying] retried rfl rfl hg hk

lemma quiet_uncalled (h : ∀ e ∈ es, IsQuiet e) : .connect ∉ es := by
  intro hc
  rcases h .connect hc with ⟨stage, he⟩ | ⟨source, target, he⟩ | ⟨event, he, -⟩ <;> cases he

lemma queued_uncalled {command : Command} (h : Queued now command s (s', es)) :
    .connect ∉ es := by
  cases h <;> simp

lemma flushTurn_uncalled {session sent : Nat} (h : FlushTurn c now session sent s (s', es)) :
    .connect ∉ es := by
  have hnotes := quiet_uncalled (flushNotes_quiet sent)
  cases h with
  | writes => simp
  | serves => simp [hnotes]
  | crashes => simp [hnotes]

/-- The transport is called in a turn of its own, and its answer is waited for. -/
lemma turned_connect {stimulus : Stimulus} (h : Turned c now draw s stimulus (s', es))
    (hc : .connect ∈ es) :
    es = [.connect] ∧ s.phase = .connecting ∧ ∃ deadline, s'.phase = .attempting deadline := by
  cases h with
  | calls phase => exact ⟨rfl, phase, _, rfl⟩
  | keeps e u free queued => exact absurd hc (queued_uncalled queued)
  | cancels request after u unconnected asked ended =>
    have hend := quiet_uncalled (endTurn_quiet ended)
    exact absurd hc (by simp [hend])
  | opens deadline u phase flushed =>
    have hflush := flushTurn_uncalled flushed
    exact absurd hc (by simp [hflush])
  | fails deadline stimulus e u phase failure retried =>
    have hretry := quiet_uncalled (retryTurn_quiet retried)
    exact absurd hc (by simp [hretry])
  | flushesOn session item sent u phase flushed =>
    have hflush := flushTurn_uncalled flushed
    exact absurd hc (by simp [hflush])
  | loses stimulus session e u v interrupted retried =>
    have hretry := quiet_uncalled (retryTurn_quiet retried)
    have hput : .connect ∉ u.2 := by
      cases interrupted with
      | sending session ticker command e u phase queued => exact queued_uncalled queued
      | _ => exact List.not_mem_nil
    exact absurd hc (by simp [hretry, hput])
  | shuts session ticker stimulus after notes phase cause =>
    have hnotes := quiet_uncalled (shutCause_quiet cause)
    exact absurd hc (by simp [hnotes])
  | closes session giveUpAt stimulus after u phase finished ended =>
    have hend := quiet_uncalled (endTurn_quiet ended)
    exact absurd hc (by simp [hend])
  | _ => exact absurd hc (by simp)

end Turns

/-- The way since the last call, turn by turn, as long as nobody starts afresh. -/
theorem course_sinceCall {c : Config} {past between : History} {s₁ s : Supervisor}
    (r : Run c past s₁) (hs : ∃ deadline, s₁.phase = .attempting deadline)
    (hc : Course c s₁ between s) (hcall : ∀ o ∈ between, .connect ∉ o.effects)
    (hstart : ∀ o ∈ between, ¬ IsStart o) : SinceCall c past between s := by
  have ha := course_aligned (fresh_aligned c) r
  induction hc with
  | start =>
    unfold SinceCall
    obtain ⟨deadline, hp⟩ := hs
    rw [hp]
    rfl
  | turn now draw stimulus t way taken ih =>
    have hsince := ih (fun o ho => hcall o (List.mem_append_left _ ho))
      fun o ho => hstart o (List.mem_append_left _ ho)
    have hturned := step_turned (course_aligned ha way) taken
    have hcount := run_attempts (course_append r (Course.turn now draw stimulus t way taken))
    exact turned_sinceCall hsince hturned hcount
      (hcall _ (List.mem_append_right _ List.mem_cons_self))
      (hstart _ (List.mem_append_right _ List.mem_cons_self))

/-- Between two calls of the transport in a row there is a fresh start or one whole wait, whatever
has become of the first of them. -/
theorem calls_apart {c : Config} {h past between rest : History} {first next : Occurrence}
    {s : Supervisor} (r : Run c h s) (onward : Onward h)
    (split : h = past ++ first :: (between ++ next :: rest)) (called : .connect ∈ first.effects)
    (again : .connect ∈ next.effects) (uncalled : ∀ o ∈ between, .connect ∉ o.effects) :
    first.effects = [.connect] ∧ next.effects = [.connect] ∧
      Gap c (past ++ [first]) between next.now := by
  have hfirst := turned_connect (run_occurrence r (by simp [split])).2 called
  have hnext := turned_connect (run_occurrence r (by simp [split])).2 again
  refine ⟨hfirst.1, hnext.1, ?_⟩
  by_cases hstart : ∃ o ∈ between, IsStart o
  · obtain ⟨o, among, start⟩ := hstart
    exact Gap.restarted o among start
  · have unstarted : ∀ o ∈ between, ¬ IsStart o := fun o ho start => hstart ⟨o, ho, start⟩
    have hsplit : h = (past ++ [first]) ++ between ++ next :: rest := by
      simp [split]
    rw [hsplit] at r
    obtain ⟨s₂, r₂, hc₂⟩ := course_split ((past ++ [first]) ++ between) (next :: rest) r
    obtain ⟨s₁, r₁, hc₁⟩ := course_split (past ++ [first]) between r₂
    have hbegin : s₁ = first.after := (course_last r₁).2
    have hend : next.before = s₂ := course_head hc₂
    have hsince := course_sinceCall r₁ (hbegin ▸ hfirst.2.2) hc₁ uncalled unstarted
    unfold SinceCall at hsince
    rw [← hend, hnext.2.1] at hsince
    obtain ⟨wakeAt, waits, o, among, woken⟩ := hsince
    have hclock : o.now ≤ next.now := by
      unfold Onward at onward
      rw [hsplit] at onward
      exact (List.pairwise_append.mp onward).2.2 o (List.mem_append_right _ among) next
        List.mem_cons_self
    exact Gap.waited wakeAt waits (Nat.le_trans woken hclock)

/-- A wait that is over can be ended. -/
lemma step_wakes {c : Config} {now wakeAt : Instant} {draw : Nat} {s : Supervisor}
    (hp : s.phase = .retrying wakeAt) (hs : s.state = .retrying) (due : wakeAt ≤ now) :
    s.step c now draw .timerElapsed =
      some ({ s with state := .connecting, phase := .connecting },
        [.moved .retrying .connecting, .began .connecting]) := by
  have hedge : s.state.canTransitionTo .connecting = true := by
    rw [hs]
    rfl
  unfold step
  rw [hp]
  dsimp only
  rw [if_pos due, moveTo_edge s .connecting hedge, hs]
  rfl

/-- A session that is lost while the first command is written: no attempt has failed, and the next
one comes after the first delay. -/
theorem calls_apart_lost :
    ∃ past first between next s,
      Run Config.standard (past ++ first :: (between ++ next :: [])) s ∧
      Onward (past ++ first :: (between ++ next :: [])) ∧ .connect ∈ first.effects ∧
      .connect ∈ next.effects ∧ (∀ o ∈ between, .connect ∉ o.effects) ∧
      (first.effects = [.connect] ∧ next.effects = [.connect] ∧
        Gap Config.standard (past ++ [first]) between next.now) ∧
      announcements (effects between) = [.backoffScheduled 0 (.ofSecs 5)] := by
  have r₀ : Run Config.standard [] (.fresh Config.standard) := Course.start
  have r₁ := Course.turn 1 3 (.mail (some (.send Envelope.ping))) _ r₀ rfl
  have r₂ := Course.turn 2 3 (.mail (some .start)) _ r₁ rfl
  have r₃ := Course.turn 2 3 .attemptBegun _ r₂ rfl
  have r₄ := Course.turn 4 3 .connected _ r₃ rfl
  have r₅ := Course.turn 6 3 (.writeFailed (.io "reset")) _ r₄ rfl
  have r₆ := Course.turn 5000000006 3 .timerElapsed _ r₅
    (step_wakes (by decide +kernel : _ = Phase.retrying 5000000006) rfl (by decide))
  have r₇ := Course.turn 5000000008 3 .attemptBegun _ r₆ rfl
  exact ⟨[_, _], _, [_, _, _], _, _, r₇, by decide, List.mem_cons_self, List.mem_cons_self,
    by decide, calls_apart r₇ (by decide) rfl List.mem_cons_self List.mem_cons_self (by decide),
    by decide +kernel⟩

end SteadyLink.Proofs
