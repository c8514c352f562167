import SteadyLink.Proofs.Attempts
import SteadyLink.Proofs.SessionOwnership

/-!
# The limit on attempts

What the limit comes to over a whole run: how many attempts fail between two fresh starts of the
count, what a transport that refuses every call is asked for, and when a client gives up.
-/

namespace SteadyLink.Proofs

open Supervisor

/-- An attempt is made, or waited for, only while the limit allows another one. -/
structure Within (c : Config) (s : Supervisor) : Prop where
  tries : s.phase = .connecting ∨ (∃ deadline, s.phase = .attempting deadline) →
    s.attempts = 0 ∨ ¬ IsSpent c s.attempts
  waits : ∀ wakeAt, s.phase = .retrying wakeAt → ¬ IsSpent c s.attempts

section Limits

variable {c : Config} {now : Instant} {draw : Nat} {s s' : Supervisor} {es : List Effect}

lemma within_phase (hc : s.phase ≠ .connecting) (ha : ∀ deadline, s.phase ≠ .attempting deadline)
    (hr : ∀ wakeAt, s.phase ≠ .retrying wakeAt) : Within c s := by
  refine ⟨?_, fun wakeAt hp => absurd hp (hr wakeAt)⟩
  rintro (hp | ⟨deadline, hp⟩)
  · exact absurd hp hc
  · exact absurd hp (ha deadline)

lemma within_kept (hs : Within c s) (hp : s'.phase = s.phase) (ha : s'.attempts = s.attempts) :
    Within c s' := by
  constructor
  · rw [hp, ha]
    exact hs.tries
  · rw [hp, ha]
    exact hs.waits

lemma retryTurn_within {t : Supervisor} (h : RetryTurn c now draw t (s', es)) : Within c s' := by
  cases h with
  | waits allowed =>
    refine ⟨?_, ?_⟩
    · rintro (hp | ⟨deadline, hp⟩) <;> cases hp
    · intro wakeAt _
      rw [spent_iff, allowed]
      exact nofun
  | givesUp => exact within_phase nofun nofun nofun

lemma endTurn_within {t : Supervisor} {after : AfterClose}
    (h : EndTurn c now draw t after (s', es)) : Within c s' := by
  cases h with
  | rests => exact within_phase nofun nofun nofun
  | leaves => exact within_phase nofun nofun nofun
  | retries u retried => exact retryTurn_within retried

lemma flushTurn_within {t : Supervisor} {session sent : Nat}
    (h : FlushTurn c now session sent t (s', es)) : Within c s' := by
  cases h <;> exact within_phase nofun nofun nofun

theorem turned_within {stimulus : Stimulus} (hs : Within c s)
    (h : Turned c now draw s stimulus (s', es)) : Within c s' := by
  cases h with
  | starts => exact ⟨fun _ => Or.inl rfl, nofun⟩
  | ignores => exact hs
  | keeps e u free queued =>
    have hp := queued_phase queued
    exact within_kept hs hp (queued_sameCounts queued).attempts
  | leaves => exact within_phase nofun nofun nofun
  | calls phase => exact ⟨fun _ => hs.tries (Or.inl phase), nofun⟩
  | cancels request after u unconnected asked ended => exact endTurn_within ended
  | opens deadline u phase flushed => exact flushTurn_within flushed
  | fails deadline stimulus e u phase failure retried => exact retryTurn_within retried
  | flushesOn session item sent u phase flushed => exact flushTurn_within flushed
  | loses stimulus session e u v interrupted retried => exact retryTurn_within retried
  | shuts => exact within_phase nofun nofun nofun
  | skipsFrame => exact hs
  | dispatches => exact hs
  | sends => exact within_phase nofun nofun nofun
  | pings => exact within_phase nofun nofun nofun
  | overruns => exact within_phase nofun nofun nofun
  | sent => exact within_phase nofun nofun nofun
  | pinged => exact within_phase nofun nofun nofun
  | wakes wakeAt phase due => exact ⟨fun _ => Or.inr (hs.waits wakeAt phase), nofun⟩
  | closes session giveUpAt stimulus after u phase finished ended => exact endTurn_within ended

lemma run_within {h : History} (r : Run c h s) : Within c s := by
  have hfresh : Within c (.fresh c) := within_phase nofun nofun nofun
  refine (run_keeps (I := Within c) hfresh ?_ r).1
  intro s now draw stimulus s' es hs _ ht
  exact turned_within hs ht

lemma turned_failing {stimulus : Stimulus} (h : Turned c now draw s stimulus (s', es))
    (hf : isFailure stimulus = true) : ∃ deadline, s.phase = .attempting deadline := by
  cases h with
  | fails deadline stimulus e u phase => exact ⟨deadline, phase⟩
  | loses stimulus session e u v interrupted =>
    rw [(interrupted_uncounted interrupted).2] at hf
    cases hf
  | shuts session ticker stimulus after notes phase cause => cases cause <;> cases hf
  | closes session giveUpAt stimulus after u phase finished =>
    rcases finished with rfl | ⟨rfl, -⟩ <;> cases hf
  | _ => cases hf

lemma unspent_lt {n : Nat} {hn : n ≤ failureLimit} (hl : c.maxAttempts = .atMost n hn)
    {attempts : Nat} (h : ¬ IsSpent c attempts) : attempts < n := by
  rw [spent_iff, hl] at h
  simpa [AttemptLimit.allows] using h

/-- Before the count starts anew, no more attempts fail than the limit says; one may fail always. -/
theorem run_failures_le {n : Nat} {hn : n ≤ failureLimit} {h : History}
    (hl : c.maxAttempts = .atMost n hn) (r : Run c h s) : failures h ≤ max n 1 := by
  refine (course_invariant (P := fun h s => Within c s ∧
    s.attempts = min (failures h) failureLimit ∧ failures h ≤ max n 1)
    (fresh_aligned c) ?_ ?_ r).2.2
  · exact ⟨within_phase nofun nofun nofun, rfl, Nat.zero_le _⟩
  · rintro h s now draw stimulus s' es ⟨hw, hcount, hle⟩ - ht
    have hcount' : s'.attempts = min (failures (h ++ [⟨s, now, draw, stimulus, es, s'⟩]))
        failureLimit := turn_attempts (o := ⟨s, now, draw, stimulus, es, s'⟩) hcount ht
    refine ⟨turned_within hw ht, hcount', ?_⟩
    rw [failures_turn, failed_singleton]
    split
    · exact Nat.zero_le _
    · split
      case isTrue hf =>
        have htries := hw.tries (Or.inr (turned_failing ht hf))
        unfold failureLimit at hcount hn
        rcases htries with h0 | hunspent
        · omega
        · have hlt := unspent_lt hl hunspent
          omega
      case isFalse => omega

end Limits

/-! Transports that refuse -/

/-- A request to start that is followed. -/
def IsStart (o : Occurrence) : Prop := o.stimulus = .mail (some .start) ∧ IsParked o.before.phase

/-- No session opens, and nobody asks for a fresh start, a stop or the end. -/
def IsRefusing (h : History) : Prop :=
  ∀ o ∈ h, o.resets = false ∧ o.stimulus ≠ .mail (some .stop) ∧ o.stimulus ≠ .mail none

def connects (es : List Effect) : Nat := es.count .connect

/-- After a start every call is refused, and another one follows each wait. -/
inductive Refused (c : Config) (s : Supervisor) (calls fails : Nat) : Prop
  | due (phase : s.phase = .connecting) (even : calls = fails)
  | asked (deadline : Option Instant) (phase : s.phase = .attempting deadline)
      (ahead : calls = fails + 1)
  | waits (wakeAt : Instant) (phase : s.phase = .retrying wakeAt) (even : calls = fails)
  | ends (phase : s.phase = .terminal) (even : calls = fails) (tried : 1 ≤ fails)
      (spent : IsSpent c s.attempts)

section Refusals

variable {c : Config} {now : Instant} {draw : Nat} {s s' : Supervisor} {es fs : List Effect}

lemma connects_append (es fs : List Effect) : connects (es ++ fs) = connects es + connects fs :=
  List.count_append

lemma refused_free {calls fails : Nat} (h : Refused c s calls fails) :
    heldSession? s.phase = none := by
  cases h with
  | due phase => rw [phase]; rfl
  | asked deadline phase => rw [phase]; rfl
  | waits wakeAt phase => rw [phase]; rfl
  | ends phase => rw [phase]; rfl

lemma refused_kept {calls fails : Nat} (h : Refused c s calls fails) (hp : s'.phase = s.phase)
    (ha : s'.attempts = s.attempts) : Refused c s' calls fails := by
  cases h with
  | due phase even => exact Refused.due (hp.trans phase) even
  | asked deadline phase ahead => exact Refused.asked deadline (hp.trans phase) ahead
  | waits wakeAt phase even => exact Refused.waits wakeAt (hp.trans phase) even
  | ends phase even tried spent => exact Refused.ends (hp.trans phase) even tried (ha ▸ spent)

lemma retryTurn_refused {t : Supervisor} (fails : Nat) (h : RetryTurn c now draw t (s', es)) :
    connects es = 0 ∧ Refused c s' (fails + 1) (fails + 1) := by
  cases h with
  | waits allowed => exact ⟨rfl, Refused.waits _ rfl rfl⟩
  | givesUp spent =>
    exact ⟨rfl, Refused.ends rfl rfl (Nat.le_add_left 1 fails) (spent_iff.mpr spent)⟩

lemma turned_start {t : Turn} (hp : IsParked s.phase)
    (h : Turned c now draw s (.mail (some .start)) t) : t.1.phase = .connecting := by
  cases h with
  | starts => rfl
  | ignores request idle =>
    rcases idle with ⟨-, hstop⟩ | ⟨hf | ⟨deadline, hf⟩ | ⟨wakeAt, hf⟩, -⟩ |
      ⟨⟨session, ticker, hf⟩, -⟩
    · cases hstop
    all_goals rcases hp with hp | hp <;> (rw [hp] at hf; cases hf)
  | cancels request after u unconnected asked => cases asked
  | fails deadline stimulus e u phase failure => cases failure
  | loses stimulus session e u v interrupted => cases interrupted
  | shuts session ticker stimulus after notes phase cause =>
    cases cause with
    | asked request after asked => cases asked
  | closes session giveUpAt stimulus after u phase finished =>
    rcases finished with h | ⟨h, -⟩ <;> cases h

theorem turned_refused {stimulus : Stimulus} {calls fails : Nat} (hs : Refused c s calls fails)
    (h : Turned c now draw s stimulus (s', es)) (hreset : resets s.phase stimulus = false)
    (hstop : stimulus ≠ .mail (some .stop)) (hnone : stimulus ≠ .mail none) :
    Refused c s' (calls + connects es) (fails + if isFailure stimulus = true then 1 else 0) := by
  have held {session : Nat} (hp : heldSession? s.phase = some session) :
      Refused c s' (calls + connects es) (fails + if isFailure stimulus = true then 1 else 0) := by
    rw [refused_free hs] at hp
    cases hp
  cases h with
  | starts parked =>
    rw [(start_resets s.phase).mpr parked] at hreset
    cases hreset
  | ignores => exact hs
  | keeps e u free queued =>
    have hc : connects es = 0 := by cases queued <;> rfl
    have hp := queued_phase queued
    rw [hc]
    exact refused_kept hs hp (queued_sameCounts queued).attempts
  | leaves => exact absurd rfl hnone
  | calls phase =>
    cases hs with
    | due _ even => exact Refused.asked _ rfl (congrArg (· + 1) even)
    | asked deadline phase' => rw [phase] at phase'; cases phase'
    | waits wakeAt phase' => rw [phase] at phase'; cases phase'
    | ends phase' => rw [phase] at phase'; cases phase'
  | cancels request after u unconnected asked ended =>
    cases asked with
    | stop => exact absurd rfl hstop
    | lastHandle => exact absurd rfl hnone
  | opens => cases hreset
  | fails deadline stimulus e u phase failure retried =>
    have hf : isFailure stimulus = true := by cases failure <;> rfl
    rw [if_pos hf]
    cases hs with
    | asked _ _ ahead =>
      obtain ⟨hc, hr⟩ := retryTurn_refused fails retried
      have hcalls : connects (.publish (.attemptFailed (min (s.attempts + 1) failureLimit)
          (.transport e)) :: .moved .connecting .retrying :: u.2) = connects u.2 := rfl
      rw [hcalls, hc, ahead]
      exact hr
    | due phase' => rw [phase] at phase'; cases phase'
    | waits wakeAt phase' => rw [phase] at phase'; cases phase'
    | ends phase' => rw [phase] at phase'; cases phase'
  | flushesOn session item sent u phase => exact held (by rw [phase]; rfl)
  | loses stimulus session e u v interrupted => exact held (interrupted_heldSession? interrupted)
  | shuts session ticker stimulus after notes phase => exact held (by rw [phase]; rfl)
  | skipsFrame session ticker f e phase => exact held (by rw [phase]; rfl)
  | dispatches session ticker f e phase => exact held (by rw [phase]; rfl)
  | sends session ticker e phase => exact held (by rw [phase]; rfl)
  | pings session ticker next phase => exact held (by rw [phase]; rfl)
  | overruns session ticker phase => exact held (by rw [phase]; rfl)
  | sent session ticker command phase => exact held (by rw [phase]; rfl)
  | pinged session ticker phase => exact held (by rw [phase]; rfl)
  | wakes wakeAt phase due =>
    cases hs with
    | waits _ _ even => exact Refused.due rfl even
    | due phase' => rw [phase] at phase'; cases phase'
    | asked deadline phase' => rw [phase] at phase'; cases phase'
    | ends phase' => rw [phase] at phase'; cases phase'
  | closes session giveUpAt stimulus after u phase => exact held (by rw [phase]; rfl)

/-- From a start on, a transport that refuses every call is called once for each failure, and once
more while it is being asked. -/
theorem run_refused {h g : History} {o : Occurrence} (r : Run c (h ++ o :: g) s)
    (hstart : IsStart o) (hg : IsRefusing g) : Refused c s (connects (effects g)) (failed g) := by
  rw [List.append_cons] at r
  obtain ⟨s₁, r₁, hc⟩ := course_split (h ++ [o]) g r
  have ha₁ := course_aligned (fresh_aligned c) r₁
  have hphase : s₁.phase = .connecting := by
    obtain ⟨-, ht⟩ := run_occurrence r₁ (List.mem_append_right h (List.mem_singleton_self o))
    rw [hstart.1] at ht
    rw [(course_last r₁).2]
    exact turned_start hstart.2 ht
  refine course_invariant (P := fun g s => IsRefusing g →
    Refused c s (connects (effects g)) (failed g)) ha₁ ?_ ?_ hc hg
  · intro _
    exact Refused.due hphase rfl
  · intro g s now draw stimulus s' es ih _ ht hg
    have hpast : IsRefusing g := fun p hp => hg p (List.mem_append_left _ hp)
    obtain ⟨hreset, hstop, hnone⟩ := hg _ (List.mem_append_right g (List.mem_singleton_self _))
    rw [effects_append, effects_singleton, connects_append, failed_append, failed_singleton]
    exact turned_refused (ih hpast) ht hreset hstop hnone

/-- Such a transport is given up once as many calls as the limit says have failed. -/
theorem run_given_up {n : Nat} {hn : n ≤ failureLimit} {h g : History} {o : Occurrence}
    (hl : c.maxAttempts = .atMost n hn) (r : Run c (h ++ o :: g) s) (hstart : IsStart o)
    (hg : IsRefusing g) :
    (s.state = .terminal ↔ failed g = max n 1) ∧
      (s.state = .terminal → connects (effects g) = max n 1) := by
  have hrefused := run_refused r hstart hg
  have haligned := course_aligned (fresh_aligned c) r
  have hwithin := run_within r
  have hle := run_failures_le hl r
  have hcount := run_attempts r
  have hreset : o.resets = true := by
    unfold Occurrence.resets
    rw [hstart.1]
    exact (start_resets _).mpr hstart.2
  have hfailures : failures (h ++ o :: g) = failed g := by
    rw [List.append_cons, failures_append fun p hp => (hg p hp).1, failures_turn, if_pos hreset,
      Nat.zero_add]
  rw [hfailures] at hle hcount
  -- While there is another attempt to come, fewer have failed.
  have open_ (hstate : s.state ≠ .terminal) (hless : s.attempts = 0 ∨ ¬ IsSpent c s.attempts) :
      (s.state = .terminal ↔ failed g = max n 1) ∧
        (s.state = .terminal → connects (effects g) = max n 1) := by
    refine ⟨⟨fun h => absurd h hstate, ?_⟩, fun h => absurd h hstate⟩
    intro hfull
    unfold failureLimit at hcount hn
    rcases hless with h0 | hunspent
    · omega
    · have hlt := unspent_lt hl hunspent
      omega
  cases hrefused with
  | due phase =>
    exact open_ (by rw [haligned .connecting (by rw [phase]; rfl)]; exact nofun)
      (hwithin.tries (Or.inl phase))
  | asked deadline phase =>
    exact open_ (by rw [haligned .connecting (by rw [phase]; rfl)]; exact nofun)
      (hwithin.tries (Or.inr ⟨deadline, phase⟩))
  | waits wakeAt phase =>
    exact open_ (by rw [haligned .retrying (by rw [phase]; rfl)]; exact nofun)
      (Or.inr (hwithin.waits wakeAt phase))
  | ends phase even tried spent =>
    have hstate : s.state = .terminal := haligned .terminal (by rw [phase]; rfl)
    have hspent : n ≤ s.attempts := by
      rw [spent_iff, hl] at spent
      simpa [AttemptLimit.allows] using spent
    have hfull : failed g = max n 1 := by
      unfold failureLimit at hcount
      omega
    exact ⟨⟨fun _ => hfull, fun _ => hstate⟩, fun _ => even.trans hfull⟩

end Refusals

/-! Clients without a limit -/

section Unlimited

variable {c : Config} {now : Instant} {draw : Nat} {s s' : Supervisor} {es : List Effect}

lemma retryTurn_goes_on {t : Supervisor} (hu : c.maxAttempts = .unbounded)
    (h : RetryTurn c now draw t (s', es)) (ht : t.state = .retrying) : s'.state ≠ .terminal := by
  cases h with
  | waits =>
    show t.state ≠ .terminal
    rw [ht]
    exact nofun
  | givesUp spent =>
    rw [hu] at spent
    cases spent

/-- Without a limit, only the end of the last handle leads to the end of all attempts. -/
theorem turned_lasting {stimulus : Stimulus} (hu : c.maxAttempts = .unbounded)
    (h : Turned c now draw s stimulus (s', es)) (hs' : s'.state = .terminal) :
    s.state = .terminal ∨ stimulus = .mail none ∨
      ∃ k giveUpAt, s.phase = .closing k giveUpAt .terminal := by
  cases h with
  | ignores => exact Or.inl hs'
  | keeps e u free queued =>
    have hstate := (queued_sameCounts queued).state
    exact Or.inl (hstate ▸ hs')
  | leaves => exact Or.inr (Or.inl rfl)
  | calls => exact Or.inl hs'
  | cancels request after u unconnected asked ended =>
    cases asked with
    | stop =>
      cases ended with
      | rests => cases hs'
    | lastHandle => exact Or.inr (Or.inl rfl)
  | opens deadline u phase flushed =>
    rw [(flushTurn_sameCounts flushed).state] at hs'
    cases hs'
  | fails deadline stimulus e u phase failure retried =>
    exact absurd hs' (retryTurn_goes_on hu retried rfl)
  | flushesOn session item sent u phase flushed =>
    exact Or.inl ((flushTurn_sameCounts flushed).state ▸ hs')
  | loses stimulus session e u v interrupted retried =>
    exact absurd hs' (retryTurn_goes_on hu retried rfl)
  | skipsFrame => exact Or.inl hs'
  | dispatches => exact Or.inl hs'
  | sends => exact Or.inl hs'
  | pings => exact Or.inl hs'
  | overruns => exact Or.inl hs'
  | sent => exact Or.inl hs'
  | pinged => exact Or.inl hs'
  | closes session giveUpAt stimulus after u phase finished ended =>
    cases ended with
    | rests => cases hs'
    | leaves => exact Or.inr (Or.inr ⟨session, giveUpAt, phase⟩)
    | retries v retried => exact absurd hs' (retryTurn_goes_on hu retried rfl)
  | _ => cases hs'

end Unlimited

/-- A client without a limit has given up only if nobody holds a handle any more. -/
theorem clientRun_lasting {c : Config} {observers : List Observer} {h : History} {s : Client}
    (hu : c.maxAttempts = .unbounded) (r : ClientRun c observers h s)
    (hs : s.supervisor.state = .terminal) : s.hub.allHandles = 0 := by
  have hfresh := fresh_client c observers
  have ha := fresh_client_aligned c observers
  refine (clientCourse_invariant (P := fun _ s => Drained s ∧
    (s.supervisor.state = .terminal → s.hub.allHandles = 0)) ha ?_ ?_ ?_ r).2 hs
  · refine ⟨fresh_drained c observers, ?_⟩
    rw [hfresh.1]
    exact nofun
  · rintro h s s' ⟨hd, ih⟩ hw
    refine ⟨worked_drained hd hw, ?_⟩
    rw [hw.supervisor]
    exact fun hstate => hw.follows.unheld (ih hstate)
  · rintro h s draw stimulus s' es ⟨hd, ih⟩ hconfig ha ht
    refine ⟨turnTaken_drained ha ht, ?_⟩
    intro hstate
    have hu' : s.config.maxAttempts = .unbounded := by
      rw [hconfig, hfresh.2.1]
      exact hu
    refine ht.unheld ?_
    rcases turned_lasting hu' (step_turned ha ht.step) hstate with hbefore | hlast |
      ⟨k, giveUpAt, hp⟩
    · exact ih hbefore
    · exact (ht.mail none hlast).2 rfl
    · exact (hd.leaving k giveUpAt hp).2

/-- The limit on attempts, over the whole run of a client. -/
structure RetryLaw (c : Config) (h : History) (s : Client) : Prop where
  /-- The count is that of the attempts that failed since a session opened or a start was
  followed. -/
  counts : s.supervisor.attempts = min (failures h) failureLimit
  passes : ∀ o ∈ h, Passage c o.now o.draw o.before o.after o.effects
  bounds : ∀ n hn, c.maxAttempts = .atMost n hn → ∀ h₁ g h₂, h = h₁ ++ g ++ h₂ →
    (∀ o ∈ g, o.resets = false) → failed g ≤ max n 1
  /-- A transport that refuses everything is given up after exactly as many failures as the limit
  says, and was called as often. -/
  refuses : ∀ n hn, c.maxAttempts = .atMost n hn → ∀ h₁ o g, h = h₁ ++ o :: g → IsStart o →
    IsRefusing g → (s.supervisor.state = .terminal ↔ failed g = max n 1) ∧
      (s.supervisor.state = .terminal → connects (effects g) = max n 1)
  lasts : c.maxAttempts = .unbounded → s.supervisor.state = .terminal → s.hub.allHandles = 0

/-- Attempts are counted, and the limit on them is kept, exactly. -/
theorem retry_limit_exact {c : Config} {observers : List Observer} {h : History} {s : Client}
    (r : ClientRun c observers h s) : RetryLaw c h s := by
  obtain ⟨-, hrun⟩ := clientRun_run r
  constructor
  · exact run_attempts hrun
  · intro o ho
    exact turned_passage (run_occurrence hrun ho).2
  · rintro n hn hl h₁ g h₂ rfl hg
    obtain ⟨s₁, r₁, -⟩ := course_split (h₁ ++ g) h₂ hrun
    have hle := run_failures_le hl r₁
    rw [failures_append hg] at hle
    exact Nat.le_trans (Nat.le_add_left _ _) hle
  · rintro n hn hl h₁ o g rfl hstart hg
    exact run_given_up hl hrun hstart hg
  · exact fun hu hs => clientRun_lasting hu r hs

/-- A configuration that allows no failure at all. -/
def impatient : Config := { Config.standard with maxAttempts := .atMost 0 (Nat.zero_le _) }

/-- One attempt is made all the same, and its failure is the end. -/
theorem retry_limit_exact_impatient :
    ∃ h s, ClientRun impatient [] h s ∧ RetryLaw impatient h s ∧
      s.supervisor.state = .terminal ∧ failures h = 1 ∧ connects (effects h) = 1 ∧
      retryNotes (effects h) = [.policyExhausted 1] := by
  have r₀ : ClientRun impatient [] [] (.fresh impatient []) := ClientCourse.start
  have r₁ := ClientCourse.step r₀ (ClientStep.acts (.call .start))
  have r₂ := ClientCourse.step r₁ (ClientStep.takes 0 _ _ rfl)
  have r₃ := ClientCourse.step r₂ (ClientStep.meets 0 .attemptBegun _ _ nofun rfl)
  have r₄ := ClientCourse.step r₃
    (ClientStep.meets 0 (.connectFailed (.io "refused")) _ _ nofun rfl)
  exact ⟨_, _, r₄, retry_limit_exact r₄, rfl, rfl, rfl, rfl⟩

end SteadyLink.Proofs
