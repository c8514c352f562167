import SteadyLink.Proofs.Pings

/-!
# Heartbeats

While a session is served, pings are written to it. When the next one is due follows from the time at
which the session was taken up and the times at which its earlier pings were begun. Requests, frames
and slow writes come between the pings in any number, and do not move them.
-/

namespace SteadyLink.Proofs

open Supervisor

/-- The ticker of a session that was taken up at the given time, after pings at the given times. -/
def tickerAfter? (c : Config) (start : Instant) (begun : List Instant) : Option Ticker :=
  c.heartbeat?.map fun every => ⟨dueAfter every start begun, every⟩

/-- What follows on a session being taken up at the given time, as long as no other one is. -/
structure Paced (c : Config) (start : Instant) (since : History) (s : Supervisor) : Prop where
  kept : ∀ ticker, keptTicker? s.phase = some ticker →
    ticker = tickerAfter? c start (pingTimes since)
  punctual : Punctual c.heartbeat start (pingTimes since)

/-- The history ends while a session is in service: it was taken up, and no stage of the loop has
followed. -/
def InService (h : History) : Prop :=
  ∃ before first since, h = before ++ first :: since ∧ .began .opened ∈ first.effects ∧
    ∀ o ∈ since, ∀ stage, .began stage ∉ o.effects

section Courses

variable {c : Config} {start : Instant} {h since later : History} {o first : Occurrence}
  {s : Supervisor}

lemma heartbeat_eq {every : Duration} (on : c.heartbeat? = some every) : every = c.heartbeat := by
  unfold Config.heartbeat? Duration.nonZero at on
  split at on
  case isTrue => cases on
  case isFalse => exact (Option.some.inj on).symm

lemma pingTimes_append (h g : History) : pingTimes (h ++ g) = pingTimes h ++ pingTimes g := by
  unfold pingTimes
  rw [List.filter_append, List.map_append]

lemma pingTimes_still (still : o.pings = false) : pingTimes (h ++ [o]) = pingTimes h := by
  have none : pingTimes [o] = [] := by simp [pingTimes, still]
  rw [pingTimes_append, none, List.append_nil]

lemma pingTimes_pings (pings : o.pings = true) : pingTimes (h ++ [o]) = pingTimes h ++ [o.now] := by
  have one : pingTimes [o] = [o.now] := by simp [pingTimes, pings]
  rw [pingTimes_append, one]

lemma firstTick_after {ticker : Option Ticker} (first : FirstTick c start ticker) :
    ticker = tickerAfter? c start [] := by
  unfold tickerAfter?
  cases first with
  | off off =>
    rw [off]
    rfl
  | after every ticker interval shown =>
    unfold Ticker.after? at shown
    split at shown
    case isTrue =>
      rw [interval, ← Option.some.inj shown]
      rfl
    case isFalse => cases shown

lemma run_pulse (r : Run c (h ++ o :: later) s) : Pulse c o.now o.before o.after o.effects :=
  turned_pulse (run_occurrence r (List.mem_append_right h List.mem_cons_self)).2

/-- A session is served only in the service that it was taken up for. -/
theorem run_inService (r : Run c h s) {ticker : Option Ticker}
    (kept : keptTicker? s.phase = some ticker) : InService h := by
  refine course_invariant (P := fun h s => ∀ ticker, keptTicker? s.phase = some ticker →
    InService h) (fresh_aligned c) nofun ?_ r ticker kept
  intro h s now draw stimulus s' es ih _ ht ticker kept
  have goesOn (hs : InService h) (unbegun : ∀ stage, .began stage ∉ es) :
      InService (h ++ [⟨s, now, draw, stimulus, es, s'⟩]) := by
    obtain ⟨before, first, since, rfl, opened, quiet⟩ := hs
    refine ⟨before, first, since ++ [_], List.append_assoc .., opened, ?_⟩
    exact List.forall_mem_append.mpr ⟨quiet, List.forall_mem_singleton.mpr unbegun⟩
  cases turned_pulse ht with
  | takesUp unkept opened => exact ⟨h, _, [], rfl, opened, List.forall_mem_nil _⟩
  | goesOn unbegun silent idle same => exact goesOn (ih ticker (same.symm.trans kept)) unbegun
  | ticks session tick phase due effects after =>
    have hs := ih (some tick) (by rw [phase]; rfl)
    exact goesOn hs (by simp [effects])
  | lands session tick phase effects after =>
    have hs := ih tick (by rw [phase]; rfl)
    exact goesOn hs (by simp [effects])
  | leaves unopened silent unkept => exact absurd (unkept.symm.trans kept) nofun

/-- The pace is kept from turn to turn. -/
lemma pulse_paced {s s' : Supervisor} {now : Instant} {draw : Nat} {stimulus : Stimulus}
    {es : List Effect} (hs : Paced c start h s) (pulse : Pulse c now s s' es)
    (unopened : .began .opened ∉ es) :
    Paced c start (h ++ [⟨s, now, draw, stimulus, es, s'⟩]) s' := by
  have goesOn (still : Occurrence.pings ⟨s, now, draw, stimulus, es, s'⟩ = false)
      (same : keptTicker? s'.phase = keptTicker? s.phase) :
      Paced c start (h ++ [⟨s, now, draw, stimulus, es, s'⟩]) s' := by
    constructor
    · rw [pingTimes_still still, same]
      exact hs.kept
    · rw [pingTimes_still still]
      exact hs.punctual
  cases pulse with
  | takesUp unkept opened => exact absurd opened unopened
  | goesOn unbegun silent idle same => exact goesOn (silent_begins silent) same
  | lands session ticker phase effects after =>
    exact goesOn (by simp [Occurrence.pings, effects, beginsPing]) (by rw [after, phase]; rfl)
  | leaves unopened silent unkept =>
    constructor
    · intro ticker kept
      cases unkept.symm.trans kept
    · rw [pingTimes_still (silent_begins silent)]
      exact hs.punctual
  | ticks session ticker phase due effects after =>
    have another : pingTimes (h ++ [⟨s, now, draw, stimulus, es, s'⟩]) = pingTimes h ++ [now] :=
      pingTimes_pings (by simp [Occurrence.pings, effects, beginsPing])
    have kept := hs.kept (some ticker) (by rw [phase]; rfl)
    obtain ⟨every, on, rfl⟩ := Option.map_eq_some_iff.mp kept.symm
    obtain rfl := heartbeat_eq on
    rw [← dueAfter_concat] at after
    constructor
    · intro ticker' kept'
      rw [after] at kept'
      rw [← Option.some.inj kept', another]
      unfold tickerAfter?
      rw [on]
      rfl
    · rw [another]
      exact punctual_concat hs.punctual due

/-- From when a session is taken up until another one is, the next ping is due as the pings since
then say. -/
theorem run_paced (r : Run c (h ++ first :: since) s) (opened : .began .opened ∈ first.effects)
    (unopened : ∀ o ∈ since, .began .opened ∉ o.effects) : Paced c first.now since s := by
  rw [List.append_cons] at r
  obtain ⟨s₁, r₁, rest⟩ := course_split (h ++ [first]) since r
  obtain ⟨-, rfl⟩ := course_last r₁
  have begins : Paced c first.now [] first.after := by
    refine ⟨?_, fun earlier t later split => absurd split (by simp [pingTimes])⟩
    intro ticker kept
    cases run_pulse r₁ with
    | takesUp unkept opened silent idle tick => exact firstTick_after (tick ticker kept)
    | goesOn unbegun => exact absurd opened (unbegun .opened)
    | ticks session ticker phase due effects =>
      rw [effects] at opened
      simp at opened
    | lands session ticker phase effects =>
      rw [effects] at opened
      simp at opened
    | leaves unopened => exact absurd opened unopened
  -- By induction on the turns since, of which none takes up another session.
  refine course_invariant (P := fun since s => (∀ o ∈ since, .began .opened ∉ o.effects) →
    Paced c first.now since s) (course_aligned (fresh_aligned c) r₁) (fun _ => begins) ?_ rest
    unopened
  intro g s now draw stimulus s' es ih _ ht unopened
  obtain ⟨hpast, hlast⟩ := List.forall_mem_append.mp unopened
  exact pulse_paced (ih hpast) (turned_pulse ht) (hlast _ (List.mem_singleton_self _))

/-- The ticker that is kept has the period of the configuration. -/
lemma run_period (r : Run c h s) {ticker : Ticker}
    (kept : keptTicker? s.phase = some (some ticker)) : ticker.period = c.heartbeat := by
  obtain ⟨before, first, since, rfl, opened, quiet⟩ := run_inService r kept
  have paced := run_paced r opened fun p hp => quiet p hp .opened
  obtain ⟨every, on, rfl⟩ := Option.map_eq_some_iff.mp (paced.kept _ kept).symm
  exact heartbeat_eq on

lemma run_ready (r : Run c h s) {session : Nat} {ticker : Option Ticker} {now : Instant} {draw : Nat}
    (phase : s.phase = .serving session ticker) :
    (∃ t, s.step c now draw .heartbeatDue = some t ∧
      t.2 = [.write session none (c.frame none)]) ↔
      ∃ due, pendingPing? s.phase = some due ∧ due ≤ now ∧ ¬Overruns c.heartbeat due now := by
  rw [step_pings_iff phase]
  unfold pendingPing?
  constructor
  · rintro ⟨kept, rfl, due, fits⟩
    have period : kept.period = c.heartbeat := run_period r (by rw [phase]; rfl)
    exact ⟨kept.next, by rw [phase]; rfl, due, period ▸ fits⟩
  · rintro ⟨due, pending, hdue, fits⟩
    rw [phase] at pending
    obtain ⟨kept, hkept, rfl⟩ := Option.map_eq_some_iff.mp pending
    obtain rfl : ticker = some kept := hkept
    have period : kept.period = c.heartbeat := run_period r (by rw [phase]; rfl)
    exact ⟨kept, rfl, hdue, period ▸ fits⟩

/-- A ping is begun only in service, when it is due and nothing else is being done. -/
lemma run_pings (r : Run c (h ++ o :: later) s) (pings : o.pings = true) :
    ∃ session ticker, o.before.phase = .serving session (some ticker) ∧
      ticker.period = c.heartbeat ∧ ticker.next ≤ o.now ∧
      o.effects = [.write session none (c.frame none)] ∧
      o.after = { o.before with
        phase := .pinging session
          (some ⟨nextDue ticker.period ticker.next o.now, ticker.period⟩) } ∧ InService h := by
  obtain ⟨session, ticker, phase, due, effects, after⟩ := pulse_begins (run_pulse r) pings
  have kept : keptTicker? o.before.phase = some (some ticker) := by
    rw [phase]
    rfl
  exact ⟨session, ticker, phase, run_period (run_until r) kept, due, effects, after,
    run_inService (run_until r) kept⟩

/-- The next ping is moved by a ping being begun, and by nothing else. -/
lemma run_steady (r : Run c (h ++ o :: later) s) {due due' : Instant}
    (pending : pendingPing? o.before.phase = some due)
    (pending' : pendingPing? o.after.phase = some due') :
    if o.pings = true then due ≤ o.now ∧ due' = nextDue c.heartbeat due o.now else due' = due := by
  split
  case isTrue pings =>
    obtain ⟨session, ticker, phase, period, hdue, -, after, -⟩ := run_pings r pings
    rw [phase] at pending
    rw [after, period] at pending'
    obtain rfl : ticker.next = due := Option.some.inj pending
    exact ⟨hdue, (Option.some.inj pending').symm⟩
  case isFalse pings =>
    unfold pendingPing? at pending pending'
    cases run_pulse r with
    | takesUp unkept =>
      rw [unkept] at pending
      cases pending
    | goesOn unbegun silent idle same =>
      rw [same] at pending'
      exact Option.some.inj (pending'.symm.trans pending)
    | lands session ticker phase effects after =>
      rw [after] at pending'
      rw [phase] at pending
      exact Option.some.inj (pending'.symm.trans pending)
    | ticks session ticker phase hdue effects after =>
      exact absurd (by simp [Occurrence.pings, effects, beginsPing]) pings
    | leaves unopened silent unkept =>
      rw [unkept] at pending'
      cases pending'

/-- After a ping comes its outcome. If that is a failure, the session is lost, and the commands that
wait are those that waited before the ping. -/
lemma run_answers {p : Occurrence} (r : Run c (h ++ o :: p :: later) s) (pings : o.pings = true) :
    p.stimulus = .written ∨
      ∃ e, p.stimulus = .writeFailed e ∧ LostBare o.before p.after e p.effects := by
  obtain ⟨session, ticker, phase, -, -, -, after, -⟩ := run_pings r pings
  rw [List.append_cons] at r
  obtain ⟨-, hafter⟩ := course_last (run_until r)
  rw [after] at hafter
  have among : p ∈ (h ++ [o]) ++ p :: later := List.mem_append_right _ List.mem_cons_self
  rcases turned_pinging (by rw [hafter]) (run_occurrence r among).2 with
    written | ⟨e, failed, bare⟩
  · exact Or.inl written
  · rw [hafter] at bare
    obtain ⟨k, rest, held, told⟩ := bare.told
    exact Or.inr ⟨e, failed, ⟨k, rest, by rw [phase]; exact held, told⟩, bare.unheld, bare.queue,
      bare.accepted⟩

/-- A ping that is written out was begun in the turn before. -/
lemma run_lands {session : Nat} {frame : String} (r : Run c (h ++ o :: later) s)
    (wrote : .wrote session none frame ∈ o.effects) :
    ∃ earlier p, h = earlier ++ [p] ∧ p.pings = true := by
  have pinging := pulse_lands (run_pulse r) wrote
  have past := run_until r
  rcases List.eq_nil_or_concat h with rfl | ⟨earlier, p, rfl⟩
  · obtain ⟨k, ticker, hp⟩ := pinging
    rw [course_nil past] at hp
    cases hp
  · rw [List.concat_eq_append] at past
    rw [(course_last past).2] at pinging
    exact ⟨earlier, p, List.concat_eq_append, pulse_pinging (run_pulse past) pinging⟩

end Courses

/-- The pings of a supervisor, over a whole run. -/
structure HeartbeatLaw (c : Config) (h : History) (s : Supervisor) : Prop where
  /-- In a session taken up at `first`, the ping after `k` others is not begun before `k + 1` periods
  have gone by. -/
  paced : ∀ before first since rest, h = before ++ first :: (since ++ rest) →
    .began .opened ∈ first.effects → (∀ o ∈ since, .began .opened ∉ o.effects) →
      ∀ k t, (pingTimes since)[k]? = some t → first.now + (k + 1) * c.heartbeat.nanos ≤ t
  /-- When the next ping is due is settled by the time of `first` and those of the pings since. -/
  scheduled : ∀ before first since, h = before ++ first :: since →
    .began .opened ∈ first.effects → (∀ o ∈ since, .began .opened ∉ o.effects) →
      ∀ ticker, keptTicker? s.phase = some ticker →
        ticker = c.heartbeat?.map fun every => ⟨dueAfter every first.now (pingTimes since), every⟩
  /-- A ping that is begun when due moves the next one, and nothing else does. -/
  steady : ∀ o ∈ h, ∀ due due', pendingPing? o.before.phase = some due →
    pendingPing? o.after.phase = some due' →
      if o.pings = true then due ≤ o.now ∧ due' = nextDue c.heartbeat due o.now else due' = due
  /-- Whenever the session is free, a ping can be begun exactly if it is due and the clock can show
  when the next one is. -/
  ready : ∀ session ticker, s.phase = .serving session ticker → ∀ now draw,
    (∃ t, s.step c now draw .heartbeatDue = some t ∧
      t.2 = [.write session none (c.frame none)]) ↔
      ∃ due, pendingPing? s.phase = some due ∧ due ≤ now ∧ ¬Overruns c.heartbeat due now
  /-- No ping is begun but in the service that its session was taken up for. -/
  confined : ∀ before o later, h = before ++ o :: later → o.pings = true →
    (∃ session ticker, o.before.phase = .serving session (some ticker) ∧ ticker.next ≤ o.now ∧
      o.effects = [.write session none (c.frame none)]) ∧ InService before
  /-- A ping is written out only in the turn after the one that began it. -/
  written : ∀ before o later session frame, h = before ++ o :: later →
    .wrote session none frame ∈ o.effects → ∃ earlier p, before = earlier ++ [p] ∧ p.pings = true
  /-- A ping that fails ends the session as lost, and leaves the queue as it was. -/
  answered : ∀ before o p later, h = before ++ o :: p :: later → o.pings = true →
    p.stimulus = .written ∨
      ∃ e, p.stimulus = .writeFailed e ∧ LostBare o.before p.after e p.effects

/-- Pings keep their pace whatever else goes on, and a failed one is never kept for later. -/
theorem heartbeat_keeps_pace {c : Config} {h : History} {s : Supervisor} (r : Run c h s) :
    HeartbeatLaw c h s := by
  constructor
  · rintro before first since rest rfl opened unopened k t found
    rw [← List.cons_append, ← List.append_assoc] at r
    obtain ⟨s₁, r₁, -⟩ := course_split _ rest r
    exact punctual_paced (run_paced r₁ opened unopened).punctual found
  · rintro before first since rfl opened unopened ticker kept
    exact (run_paced r opened unopened).kept ticker kept
  · intro o among due due' pending pending'
    obtain ⟨before, later, rfl⟩ := List.append_of_mem among
    exact run_steady r pending pending'
  · intro session ticker phase now draw
    exact run_ready r phase
  · rintro before o later rfl pings
    obtain ⟨session, ticker, phase, -, due, effects, -, service⟩ := run_pings r pings
    exact ⟨⟨session, ticker, phase, due, effects⟩, service⟩
  · rintro before o later session frame rfl wrote
    exact run_lands r wrote
  · rintro before o p later rfl pings
    exact run_answers r pings

/-- A client that pings every 30 seconds. -/
def beating : Config := { Config.standard with heartbeat := .ofSecs 30 }

/-- A slow write makes the first ping 39 seconds late, frames and requests come before the second
one, and that one fails. -/
theorem heartbeat_keeps_pace_late :
    ∃ h s, Run beating h s ∧ HeartbeatLaw beating h s ∧
      pingTimes h = [70000000000, 100000000000] ∧ s.state = .retrying ∧ s.queue.items = [] := by
  have r₀ : Run beating [] (.fresh beating) := Course.start
  have r₁ := Course.turn 0 0 (.mail (some .start)) _ r₀ rfl
  have r₂ := Course.turn 0 0 .attemptBegun _ r₁ rfl
  have r₃ := Course.turn 1000000000 0 .connected _ r₂ rfl
  have r₄ := Course.turn 10000000000 0 (.mail (some (.send .ping))) _ r₃ rfl
  have r₅ := Course.turn 70000000000 0 .written _ r₄ rfl
  -- The ping that was due at 31 s waits for the write, so that the next one is due at 100 s.
  have r₆ := Course.turn 70000000000 0 .heartbeatDue _ r₅
    (step_pings (by decide +kernel : _ = Phase.serving 0 (some ⟨31000000000, .ofSecs 30⟩))
      (by decide) (by decide))
  have r₇ := Course.turn 72000000000 0 .written _ r₆ rfl
  have r₈ := Course.turn 80000000000 0 (.received (.text "?")) _ r₇ rfl
  have r₉ := Course.turn 90000000000 0 (.mail (some .start)) _ r₈ rfl
  have r₁₀ := Course.turn 100000000000 0 .heartbeatDue _ r₉
    (step_pings (by decide +kernel : _ = Phase.serving 0 (some ⟨100000000000, .ofSecs 30⟩))
      (by decide) (by decide))
  have r₁₁ := Course.turn 101000000000 0 (.writeFailed (.io "broken pipe")) _ r₁₀ rfl
  exact ⟨_, _, r₁₁, heartbeat_keeps_pace r₁₁, by decide +kernel, by decide +kernel,
    by decide +kernel⟩

end SteadyLink.Proofs
