import SteadyLink.Proofs.Lifecycle

/-!
# Failed attempts

How a supervisor counts the attempts that fail in a row, and what it does with the count whenever it
comes to the stage between two attempts: it waits, or it gives up.
-/

namespace SteadyLink.Proofs

open Supervisor

/-! The count -/

/-- The count starts anew: a session has opened, or a request to start is followed. -/
def resets (p : Phase) : Stimulus → Bool
  | .connected => true
  | .mail (some .start) => p = .idle ∨ p = .terminal
  | _ => false

def isFailure : Stimulus → Bool
  | .connectFailed _ => true
  | .connectTimedOut => true
  | _ => false

def Occurrence.resets (o : Occurrence) : Bool := Proofs.resets o.before.phase o.stimulus

/-- The attempts that failed in a history. -/
def failed (h : History) : Nat := h.countP fun o => isFailure o.stimulus

/-- The attempts that failed since the count last started anew. -/
def failures (h : History) : Nat := failed (h.reverse.takeWhile fun o => !o.resets)

section Counting

variable {h g : History} {o : Occurrence}

lemma failed_append (h g : History) : failed (h ++ g) = failed h + failed g := List.countP_append

lemma failed_singleton (o : Occurrence) :
    failed [o] = if isFailure o.stimulus = true then 1 else 0 := by
  unfold failed
  rw [List.countP_singleton]

lemma failures_turn (h : History) (o : Occurrence) :
    failures (h ++ [o]) = if o.resets = true then 0 else failures h + failed [o] := by
  unfold failures
  rw [List.reverse_append, List.reverse_singleton, List.singleton_append, List.takeWhile_cons]
  by_cases hr : o.resets = true
  · rw [if_pos hr, hr]
    rfl
  · rw [if_neg hr, if_pos (by simpa using hr)]
    have hsplit := failed_append [o] (h.reverse.takeWhile fun o => !o.resets)
    rw [List.singleton_append] at hsplit
    rw [hsplit, Nat.add_comm]

/-- While the count does not start anew, every failure is added to it. -/
lemma failures_append (hg : ∀ o ∈ g, o.resets = false) :
    failures (h ++ g) = failures h + failed g := by
  induction g generalizing h with
  | nil =>
    rw [List.append_nil]
    rfl
  | cons o g ih =>
    have ho : o.resets = false := hg o List.mem_cons_self
    have hrest : ∀ p ∈ g, p.resets = false := fun p hp => hg p (List.mem_cons_of_mem o hp)
    have hsplit := failed_append [o] g
    rw [List.singleton_append] at hsplit
    rw [List.append_cons, ih hrest, failures_turn, if_neg (by rw [ho]; exact Bool.false_ne_true),
      hsplit, Nat.add_assoc]

end Counting

def countAfter (s : Supervisor) (stimulus : Stimulus) : Nat :=
  if resets s.phase stimulus = true then 0
  else if isFailure stimulus = true then min (s.attempts + 1) failureLimit
  else s.attempts

section Turns

variable {c : Config} {now : Instant} {draw : Nat} {s s' : Supervisor} {es : List Effect}

lemma start_resets (p : Phase) : resets p (.mail (some .start)) = true ↔ IsParked p := by
  simp [resets, IsParked]

/-- A turn other than a start, an opening and a failure leaves the count as it is. -/
lemma countAfter_same {stimulus : Stimulus} (hr : resets s.phase stimulus = false)
    (hf : isFailure stimulus = false) : countAfter s stimulus = s.attempts := by
  unfold countAfter
  rw [hr, hf]
  rfl

lemma interrupted_uncounted {stimulus : Stimulus} {session : Nat} {e : TransportError} {u : Turn}
    (h : Interrupted now s stimulus session e u) :
    resets s.phase stimulus = false ∧ isFailure stimulus = false := by
  cases h <;> exact ⟨rfl, rfl⟩

/-- Only a start, an opening and a failed attempt change the count. -/
theorem turned_attempts {stimulus : Stimulus} (h : Turned c now draw s stimulus (s', es)) :
    s'.attempts = countAfter s stimulus := by
  have same (hr : resets s.phase stimulus = false) (hf : isFailure stimulus = false)
      (ha : s'.attempts = s.attempts) : s'.attempts = countAfter s stimulus := by
    rw [countAfter_same hr hf, ha]
  cases h with
  | starts parked =>
    unfold countAfter
    rw [if_pos ((start_resets s.phase).mpr parked)]
  | ignores request idle =>
    rcases idle with ⟨-, rfl⟩ | ⟨hp | ⟨deadline, hp⟩ | ⟨wakeAt, hp⟩, rfl⟩ |
      ⟨⟨session, ticker, hp⟩, rfl⟩
    · exact same rfl rfl rfl
    all_goals exact same (by rw [hp]; rfl) rfl rfl
  | keeps e u free queued => exact same rfl rfl (queued_sameCounts queued).attempts
  | leaves => exact same rfl rfl rfl
  | calls => exact same rfl rfl rfl
  | cancels request after u unconnected asked ended =>
    have ha := (endTurn_sameWork ended).attempts
    cases asked with
    | stop => exact same rfl rfl ha
    | lastHandle => exact same rfl rfl ha
  | opens deadline u phase flushed => exact (flushTurn_sameCounts flushed).attempts
  | fails deadline stimulus e u phase failure retried =>
    have ha := (retryTurn_sameWork retried).attempts
    cases failure with
    | refused => exact ha
    | timedOut => exact ha
  | flushesOn session item sent u phase flushed =>
    exact same rfl rfl (flushTurn_sameCounts flushed).attempts
  | loses stimulus session e u v interrupted retried =>
    obtain ⟨hr, hf⟩ := interrupted_uncounted interrupted
    have hu := (interrupted_sameCounts interrupted).attempts
    exact same hr hf ((retryTurn_sameWork retried).attempts.trans hu)
  | shuts session ticker stimulus after notes phase cause =>
    cases cause with
    | asked request after asked =>
      cases asked with
      | stop => exact same rfl rfl rfl
      | lastHandle => exact same rfl rfl rfl
    | unreadable => exact same rfl rfl rfl
  | skipsFrame => exact same rfl rfl rfl
  | dispatches => exact same rfl rfl rfl
  | sends => exact same rfl rfl rfl
  | pings => exact same rfl rfl rfl
  | overruns => exact same rfl rfl rfl
  | sent => exact same rfl rfl rfl
  | pinged => exact same rfl rfl rfl
  | wakes => exact same rfl rfl rfl
  | closes session giveUpAt stimulus after u phase finished ended =>
    have ha := (endTurn_sameWork ended).attempts
    rcases finished with rfl | ⟨rfl, -⟩
    · exact same rfl rfl ha
    · exact same rfl rfl ha

end Turns

lemma turn_attempts {c : Config} {h : History} {o : Occurrence}
    (hs : o.before.attempts = min (failures h) failureLimit)
    (ht : Turned c o.now o.draw o.before o.stimulus (o.after, o.effects)) :
    o.after.attempts = min (failures (h ++ [o])) failureLimit := by
  rw [turned_attempts ht, failures_turn, failed_singleton]
  unfold countAfter Occurrence.resets
  by_cases hr : resets o.before.phase o.stimulus = true
  · rw [if_pos hr, if_pos hr]
    rfl
  · rw [if_neg hr, if_neg hr]
    by_cases hf : isFailure o.stimulus = true
    · rw [if_pos hf, if_pos hf, hs]
      omega
    · rw [if_neg hf, if_neg hf]
      exact hs

/-- The count is the number of attempts that failed since it started anew, up to the largest
number. -/
theorem run_attempts {c : Config} {h : History} {s : Supervisor} (r : Run c h s) :
    s.attempts = min (failures h) failureLimit := by
  refine course_invariant (P := fun h s => s.attempts = min (failures h) failureLimit)
    (fresh_aligned c) rfl ?_ r
  intro h s now draw stimulus s' es ih _ ht
  exact turn_attempts (o := ⟨s, now, draw, stimulus, es, s'⟩) ih ht

/-! The stage between two attempts -/

/-- As many attempts have failed as may fail in a row. -/
def IsSpent (c : Config) (attempts : Nat) : Prop :=
  ∃ n hn, c.maxAttempts = .atMost n hn ∧ n ≤ attempts

/-- The transitions that lead to the stage between two attempts. -/
def entries (es : List Effect) : List (ConnectionState × ConnectionState) :=
  (moves es).filter (·.2 = .retrying)

/-- The events of that stage. -/
def retryNotes (es : List Effect) : List Event :=
  (es.filterMap Effect.event?).filter fun e =>
    e.kind = .backoffScheduled || e.kind = .policyExhausted

/-- How the stage goes: it waits with one timer, or everything ends at once. -/
inductive Passed (c : Config) (now : Instant) (draw : Nat) (s' : Supervisor) (es : List Effect) :
    Prop
  | waits (allowed : ¬ IsSpent c s'.attempts)
      (phase : s'.phase = .retrying (now + (c.backoff.next (s'.attempts - 1) draw).nanos))
      (state : s'.state = .retrying)
      (notes : retryNotes es =
        [.backoffScheduled s'.attempts (c.backoff.next (s'.attempts - 1) draw)])
  | givesUp (spent : IsSpent c s'.attempts) (phase : s'.phase = .terminal)
      (state : s'.state = .terminal) (moved : (.retrying, .terminal) ∈ moves es)
      (notes : retryNotes es = [.policyExhausted s'.attempts])

/-- A turn comes to the stage between two attempts once, or stays away from it: then it arms no
timer of its own, gives nothing up, and tells of neither. -/
inductive Passage (c : Config) (now : Instant) (draw : Nat) (s s' : Supervisor)
    (es : List Effect) : Prop
  | through (source : ConnectionState) (entered : entries es = [(source, .retrying)])
      (passed : Passed c now draw s' es)
  | around (entered : entries es = []) (notes : retryNotes es = [])
      (timer : ∀ wakeAt, s'.phase = .retrying wakeAt → s.phase = .retrying wakeAt)
      (lasting : s'.phase = .terminal → s.phase = .terminal)

section Stage

variable {c : Config} {now : Instant} {draw : Nat} {s s' : Supervisor} {es fs : List Effect}

lemma spent_iff {attempts : Nat} : IsSpent c attempts ↔ c.maxAttempts.allows attempts = false := by
  unfold IsSpent
  cases c.maxAttempts with
  | unbounded => simp [AttemptLimit.allows]
  | atMost n hn => simpa [AttemptLimit.allows] using fun _ => hn

lemma entries_append (es fs : List Effect) : entries (es ++ fs) = entries es ++ entries fs := by
  unfold entries
  rw [moves_append, List.filter_append]

lemma retryNotes_append (es fs : List Effect) :
    retryNotes (es ++ fs) = retryNotes es ++ retryNotes fs := by
  unfold retryNotes
  rw [List.filterMap_append, List.filter_append]

/-- Effects that have nothing to do with the stage between two attempts. -/
def IsAway (es : List Effect) : Prop := entries es = [] ∧ retryNotes es = []

lemma away_append (h : IsAway es) (h' : IsAway fs) : IsAway (es ++ fs) := by
  unfold IsAway
  rw [entries_append, retryNotes_append, h.1, h.2, h'.1, h'.2]
  exact ⟨rfl, rfl⟩

lemma away_expired (commands : List Command) :
    IsAway (commands.map (Effect.evicted · .expired)) := by
  unfold IsAway entries moves retryNotes
  rw [List.filterMap_map, List.filterMap_map]
  simp [Function.comp_def, Effect.event?]

lemma away_flushNotes (sent : Nat) : IsAway (flushNotes sent) := by
  unfold flushNotes
  by_cases h0 : sent = 0
  · simp [h0, IsAway, entries, moves, retryNotes, Effect.event?]
  · simp [h0, IsAway, entries, moves, retryNotes, Effect.event?]

lemma queued_away {command : Command} (h : Queued now command s (s', es)) : IsAway es := by
  cases h <;> simp [IsAway, entries, moves, retryNotes, Effect.event?]

lemma interrupted_away {stimulus : Stimulus} {session : Nat} {e : TransportError}
    (h : Interrupted now s stimulus session e (s', es)) : IsAway es := by
  cases h with
  | sending session ticker command e u phase queued => exact queued_away queued
  | _ => exact ⟨rfl, rfl⟩

/-- No attempt is waited for, and none is given up. -/
def IsElsewhere (p : Phase) : Prop := (∀ wakeAt, p ≠ .retrying wakeAt) ∧ p ≠ .terminal

lemma flushTurn_away {session sent : Nat} (h : FlushTurn c now session sent s (s', es)) :
    IsAway es ∧ IsElsewhere s'.phase := by
  cases h with
  | writes => exact ⟨⟨rfl, rfl⟩, nofun, nofun⟩
  | serves => exact ⟨away_append (away_flushNotes sent) ⟨rfl, rfl⟩, nofun, nofun⟩
  | crashes => exact ⟨away_append (away_flushNotes sent) ⟨rfl, rfl⟩, nofun, nofun⟩

lemma passage_around (h : IsAway es) (hp : IsElsewhere s'.phase) :
    Passage c now draw s s' es :=
  .around h.1 h.2 (fun wakeAt h => absurd h (hp.1 wakeAt)) (fun h => absurd h hp.2)

lemma passage_kept (h : IsAway es) (hp : s'.phase = s.phase) : Passage c now draw s s' es := by
  refine .around h.1 h.2 ?_ ?_
  · intro wakeAt h
    exact hp ▸ h
  · intro h
    exact hp ▸ h

lemma passage_through {t : Supervisor} (source : ConnectionState) (fs : List Effect)
    (hr : RetryTurn c now draw t (s', es)) (ht : t.state = .retrying)
    (he : entries fs = [(source, .retrying)]) (hn : retryNotes fs = []) :
    Passage c now draw s s' (fs ++ es) := by
  cases hr with
  | waits allowed =>
    refine .through source ?_ (.waits ?_ rfl ht ?_)
    · rw [entries_append, he]
      rfl
    · rw [spent_iff, allowed]
      exact nofun
    · rw [retryNotes_append, hn]
      rfl
  | givesUp spent =>
    refine .through source ?_ (.givesUp (spent_iff.mpr spent) rfl rfl ?_ ?_)
    · rw [entries_append, he]
      rfl
    · rw [moves_append]
      exact List.mem_append_right _ List.mem_cons_self
    · rw [retryNotes_append, hn]
      rfl

/-- Every turn comes to the stage between two attempts at most once, and passes it as the limit on
attempts says. -/
theorem turned_passage {stimulus : Stimulus} (h : Turned c now draw s stimulus (s', es)) :
    Passage c now draw s s' es := by
  cases h with
  | starts => exact passage_around ⟨rfl, rfl⟩ ⟨nofun, nofun⟩
  | ignores => exact passage_kept ⟨rfl, rfl⟩ rfl
  | keeps e u free queued =>
    have hp := queued_phase queued
    exact passage_kept (queued_away queued) hp
  | leaves => exact passage_around ⟨rfl, rfl⟩ ⟨nofun, nofun⟩
  | calls => exact passage_around ⟨rfl, rfl⟩ ⟨nofun, nofun⟩
  | cancels request after u unconnected asked ended =>
    cases asked with
    | stop =>
      cases ended with
      | rests => exact passage_around ⟨rfl, rfl⟩ ⟨nofun, nofun⟩
    | lastHandle =>
      cases ended with
      | leaves => exact passage_around ⟨rfl, rfl⟩ ⟨nofun, nofun⟩
  | opens deadline u phase flushed =>
    obtain ⟨hu, hp⟩ := flushTurn_away flushed
    have hopened : IsAway [.moved .connecting .opened] := ⟨rfl, rfl⟩
    have hall := away_append hopened (away_append (away_expired (expired now s.queue)) hu)
    exact passage_around hall hp
  | fails deadline stimulus e u phase failure retried =>
    exact passage_through .connecting [.publish _, .moved .connecting .retrying] retried rfl rfl rfl
  | flushesOn session item sent u phase flushed =>
    obtain ⟨hu, hp⟩ := flushTurn_away flushed
    have hwrote : IsAway [.wrote session (some item.command) (c.frame (some item.command))] :=
      ⟨rfl, rfl⟩
    exact passage_around (away_append hwrote hu) hp
  | loses stimulus session e u v interrupted retried =>
    obtain ⟨hentries, hnotes⟩ := interrupted_away interrupted
    have hp := passage_through (s := s) .opened (u.2 ++
      [.publish (.connectionLost (.transport e)), .moved .opened .retrying, .drop session])
      retried rfl ?_ ?_
    · rwa [List.append_assoc] at hp
    · rw [entries_append, hentries]
      rfl
    · rw [retryNotes_append, hnotes]
      rfl
  | shuts session ticker stimulus after notes phase cause =>
    refine passage_around (away_append ?_ ⟨rfl, rfl⟩) ⟨nofun, nofun⟩
    cases cause with
    | asked => exact ⟨rfl, rfl⟩
    | unreadable => exact ⟨rfl, rfl⟩
  | skipsFrame => exact passage_kept ⟨rfl, rfl⟩ rfl
  | dispatches => exact passage_kept ⟨rfl, rfl⟩ rfl
  | sends => exact passage_around ⟨rfl, rfl⟩ ⟨nofun, nofun⟩
  | pings => exact passage_around ⟨rfl, rfl⟩ ⟨nofun, nofun⟩
  | overruns => exact passage_around ⟨rfl, rfl⟩ ⟨nofun, nofun⟩
  | sent => exact passage_around ⟨rfl, rfl⟩ ⟨nofun, nofun⟩
  | pinged => exact passage_around ⟨rfl, rfl⟩ ⟨nofun, nofun⟩
  | wakes => exact passage_around ⟨rfl, rfl⟩ ⟨nofun, nofun⟩
  | closes session giveUpAt stimulus after u phase finished ended =>
    cases ended with
    | rests => exact passage_around ⟨rfl, rfl⟩ ⟨nofun, nofun⟩
    | leaves => exact passage_around ⟨rfl, rfl⟩ ⟨nofun, nofun⟩
    | retries v retried =>
      exact passage_through .closing [.drop session, .moved .closing .retrying] retried rfl rfl rfl

end Stage

end SteadyLink.Proofs
