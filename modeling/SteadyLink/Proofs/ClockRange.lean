import SteadyLink.Proofs.FeedRequests
import SteadyLink.Proofs.Heartbeats
import SteadyLink.Proofs.SessionOwnership
import SteadyLink.Proofs.StateViews

/-!
# The range of the clock

A deadline is a configured duration from now, and the clock comes to an end. The first heartbeat of
a session and the first tick of a feed have to be shown by the clock, and so has the one that follows on
a tick that is taken late: a duration that reaches beyond the clock's end aborts the task that computes the
deadline. No other duration does.
-/

namespace SteadyLink.Proofs

/-- The task of the feed runs for the first time. -/
def IsFirstRun (k : Nat) (m : Move) : Prop :=
  m.choice = .work (.feed k) ∧ m.before.hub.feeds[k]?.map MetricsFeed.task = some .starting

/-- The task of the feed runs because a tick is due, on which no other can follow. -/
def IsLastTick (k : Nat) (refresh : Duration) (m : Move) : Prop :=
  m.choice = .work (.feed k) ∧ ∃ f ticker, m.before.hub.feeds[k]? = some f ∧
    f.task = .waiting m.before.hub.stateChanges (some ticker) ∧ ticker.next ≤ m.before.hub.now ∧
    Overruns refresh ticker.next m.before.hub.now

/-- The refresh of the feed was out of range when its task first ran or took a tick. -/
def RefreshedLate (k : Nat) (refresh : Duration) (trail : Trail) : Prop :=
  ∃ m ∈ trail, IsFirstRun k m ∧ OutOfRange refresh m.before.hub.now ∨ IsLastTick k refresh m

section Ranges

variable {c : Config} {now : Instant} {h : History} {s : Supervisor} {o : Occurrence}

lemma beyondClock_iff (c : Config) : BeyondClock c now ↔ OutOfRange c.heartbeat now := by
  unfold BeyondClock OutOfRange Config.heartbeat?
  rcases nonZero_cases c.heartbeat with ⟨off, hnone⟩ | ⟨on, hsome⟩
  · rw [hnone]
    exact ⟨nofun, fun late => absurd off late.1⟩
  · rw [hsome]
    constructor
    · rintro ⟨every, hevery, late⟩
      obtain rfl := Option.some.inj hevery
      exact ⟨on, after_none_iff.mp late⟩
    · rintro ⟨-, late⟩
      exact ⟨c.heartbeat, rfl, after_none_iff.mpr late⟩

/-- The tick that the supervisor takes last is a ping that was due. -/
lemma takesLastTick_iff (r : Run c h s) (among : o ∈ h) :
    TakesLastTick o.before o.stimulus o.now ↔ o.stimulus = .heartbeatDue ∧
      ∃ due, pendingPing? o.before.phase = some due ∧ Overruns c.heartbeat due o.now := by
  obtain ⟨before, later, rfl⟩ := List.append_of_mem among
  have period {session : Nat} {ticker : Ticker}
      (phase : o.before.phase = .serving session (some ticker)) : ticker.period = c.heartbeat :=
    run_period (run_until r) (by rw [phase]; rfl)
  refine and_congr_right fun tick => ?_
  constructor
  · rintro ⟨session, ticker, phase, beyond⟩
    exact ⟨ticker.next, by rw [phase]; rfl, period phase ▸ beyond⟩
  · rintro ⟨due, pending, beyond⟩
    obtain ⟨-, turned⟩ := run_occurrence r among
    rw [tick] at turned
    obtain ⟨session, ticker, phase, -⟩ := turned_tick turned
    rw [phase] at pending
    obtain rfl : ticker.next = due := Option.some.inj pending
    exact ⟨session, ticker, phase, period phase ▸ beyond⟩

end Ranges

section Feeds

variable {s₁ s s' : Client} {choice : Choice} {k : Nat} {f : MetricsFeed} {trail : Trail}
variable {category : MetricsCategory} {refresh : Duration}

/-- What has become of the task of a feed. -/
inductive Tended (k : Nat) (refresh : Duration) (trail : Trail) (s : Client) (f : MetricsFeed) :
    Prop
  | runs (alive : f.task ≠ .ended) (shown : ¬RefreshedLate k refresh trail)
      (rhythm : ∀ seen ticker, f.task = .waiting seen (some ticker) → ticker.period = refresh)
  | aborted (ended : f.task = .ended) (late : RefreshedLate k refresh trail)
  | parted (ended : f.task = .ended) (cause : f.attached = false ∨ s.supervisor.isGone = true)

lemma refreshedLate_snoc {m : Move} : RefreshedLate k refresh (trail ++ [m]) ↔
    RefreshedLate k refresh trail ∨
      (IsFirstRun k m ∧ OutOfRange refresh m.before.hub.now ∨ IsLastTick k refresh m) := by
  simp only [RefreshedLate, List.mem_append, List.mem_singleton, or_and_right, exists_or,
    exists_eq_left]

/-- A supervisor that is gone does not come back. -/
lemma next_gone (w : Wired s) (taken : next? s choice = some s')
    (gone : s.supervisor.isGone = true) : s'.supervisor.isGone = true := by
  cases hst : stimulusOf? s choice with
  | none => rw [(next_worked hst taken).supervisor, gone]
  | some stimulus =>
    obtain ⟨es, a⟩ := next_aired w taken
    exact absurd (gone.symm.trans (turn_present a hst)) nofun

lemma tended_other {f' : MetricsFeed} (w : Wired s) (t : Tended k refresh trail s f)
    (other : feedRunner? choice ≠ some k) (taken : next? s choice = some s')
    (spared : Spared f f') : Tended k refresh (trail ++ [⟨s, choice⟩]) s' f' := by
  have same : RefreshedLate k refresh (trail ++ [⟨s, choice⟩]) ↔ RefreshedLate k refresh trail := by
    rw [refreshedLate_snoc]
    have own (runs : choice = .work (.feed k)) : False := other (by rw [runs]; rfl)
    exact or_iff_left fun late => late.elim (fun first => own first.1.1) fun last => own last.1
  cases t with
  | runs alive shown rhythm =>
    exact .runs (spared.task ▸ alive) (mt same.mp shown) (spared.task ▸ rhythm)
  | aborted ended late => exact .aborted (spared.task ▸ ended) (same.mpr late)
  | parted ended cause =>
    refine .parted (spared.task ▸ ended) ?_
    rcases cause with left | gone
    · left
      by_contra alive
      exact absurd (left.symm.trans (spared.attached (by simpa using alive))) nofun
    · right
      exact next_gone w taken gone

/-- When a task that was in time so far is late. -/
lemma refreshedLate_own (shown : ¬RefreshedLate k refresh trail) (hf : s.hub.feeds[k]? = some f) :
    RefreshedLate k refresh (trail ++ [⟨s, .work (.feed k)⟩]) ↔
      f.task = .starting ∧ OutOfRange refresh s.hub.now ∨
        ∃ ticker, f.task = .waiting s.hub.stateChanges (some ticker) ∧ ticker.next ≤ s.hub.now ∧
          Overruns refresh ticker.next s.hub.now := by
  rw [refreshedLate_snoc, or_iff_right shown]
  simp [IsFirstRun, IsLastTick, hf]

lemma tended_own {asks : Bool} {task : FeedTask} (t : Tended k f.refresh trail s f)
    (hf : s.hub.feeds[k]? = some f) (turn : FeedTurn s f asks task) :
    Tended k f.refresh (trail ++ [⟨s, .work (.feed k)⟩]) (afterFeed s k f asks task)
      { f with task } := by
  have running := feedTurn_running turn
  cases t with
  | aborted ended => exact absurd ended running
  | parted ended => exact absurd ended running
  | runs alive shown rhythm =>
    have late := refreshedLate_own shown hf
    cases turn with
    | starts first =>
      have now : RefreshedLate k f.refresh (trail ++ [⟨s, .work (.feed k)⟩]) ↔
          OutOfRange f.refresh s.hub.now := by
        rw [late]
        simp [first]
      rcases startedTask_cases s f with ⟨out, ended⟩ | ⟨out, ticker, started, period⟩
      · exact .aborted ended (now.mpr out)
      · refine .runs (fun ended => ?_) (mt now.mp out) ?_
        · cases started.symm.trans ended
        · intro seen ticker' waiting
          obtain ⟨-, rfl⟩ : s.hub.stateChanges = seen ∧ ticker = some ticker' := by
            simpa using started.symm.trans waiting
          exact (period ticker' rfl).1
    | leaves waiting left => exact .parted rfl (Or.inl left)
    | @looks seen ticker waiting alive news =>
      refine .runs nofun ?_ ?_
      · rw [late, waiting]
        simp [news]
      · rintro _ _ ⟨⟩
        exact rhythm _ _ waiting
    | mourns waiting alive gone => exact .parted rfl (Or.inr gone)
    | ticks waiting alive there due shown =>
      have period := rhythm _ _ waiting
      obtain ⟨fits, rfl⟩ := tick_some shown
      refine .runs nofun ?_ ?_
      · rw [late, waiting]
        rintro (⟨first, -⟩ | ⟨ticker, same, -, beyond⟩)
        · cases first
        · cases same
          exact fits (period ▸ beyond)
      · rintro _ _ ⟨⟩
        exact period
    | @overruns ticker waiting alive there due unshown =>
      have period := rhythm _ _ waiting
      refine .aborted rfl (late.mpr (Or.inr ⟨ticker, waiting, of_decide_eq_true due, ?_⟩))
      rw [← period]
      exact tick_none_iff.mp unshown

/-- The task of a feed from the moment on when it was attached. -/
theorem journey_tended (h : Watchable s₁) (held : s₁.hub.handles ≠ 0)
    (j : Journey (act s₁ (.attachFeed category refresh)) trail s) :
    ∃ f, s.hub.feeds[s₁.hub.feeds.length]? = some f ∧ f.refresh = refresh ∧
      Tended s₁.hub.feeds.length refresh trail s f := by
  obtain ⟨hattached, -⟩ := next_watchable h (next_deed s₁ (.attachFeed category refresh))
  obtain ⟨subscriptions, hf⟩ := attach_starting category refresh held
  refine journey_feed (P := fun trail s f => f.refresh = refresh ∧
    Tended s₁.hub.feeds.length refresh trail s f) hattached hf ?_ ?_ ?_ j
  · refine ⟨rfl, .runs nofun ?_ nofun⟩
    rintro ⟨m, hm, -⟩
    cases hm
  · rintro trail s choice s' f f' past ⟨rfl, t⟩ other taken - spared
    have w := (journey_watchable hattached past).1.wired
    exact ⟨spared.refresh, tended_other w t other taken spared⟩
  · rintro trail s f asks task - ⟨rfl, t⟩ hf turn -
    exact ⟨rfl, tended_own t hf turn⟩

end Feeds

/-- What durations do to the tasks that wait for them. -/
structure ClockLaw (c : Config) (observers : List Observer) : Prop where
  /-- The supervisor is aborted exactly if a session was taken up to be served at a time from which
  the first heartbeat is out of range, or a heartbeat was taken on which no other can follow. -/
  supervisor : ∀ h s, ClientRun c observers h s → (s.supervisor.phase = .crashed ↔
    ∃ o ∈ h, .began .opened ∈ o.effects ∧ OutOfRange c.heartbeat o.now ∨
      o.stimulus = .heartbeatDue ∧
        ∃ due, pendingPing? o.before.phase = some due ∧ Overruns c.heartbeat due o.now)
  /-- From then on the connection is shown as open, and nobody takes requests. -/
  mute : ∀ h s, ClientRun c observers h s → s.supervisor.phase = .crashed →
    s.hub.state = .opened ∧ s.hub.accepting = false
  /-- The task of a feed that is not given up ends before the supervisor exactly if it first ran at
  a time from which the first tick is out of range, or took a tick on which no other can follow. -/
  feed : ∀ before s₁ category refresh trail s f, Journey (.fresh c observers) before s₁ →
    s₁.hub.handles ≠ 0 → Journey (act s₁ (.attachFeed category refresh)) trail s →
      s.hub.feeds[s₁.hub.feeds.length]? = some f → f.attached = true →
        s.supervisor.isGone = false →
          (f.task = .ended ↔ RefreshedLate s₁.hub.feeds.length refresh trail)

/-- A heartbeat or a refresh that is out of range aborts its task, and no other duration aborts
any. -/
theorem clock_range (c : Config) (observers : List Observer) : ClockLaw c observers := by
  have aligned := fresh_client_aligned c observers
  constructor
  · intro h s r
    obtain ⟨-, hrun⟩ := clientRun_run r
    rw [run_crashed_iff hrun]
    refine exists_congr fun o => and_congr_right fun among => ?_
    rw [beyondClock_iff, takesLastTick_iff hrun among]
  · intro h s r crashed
    have ha : Aligned s.supervisor := clientCourse_aligned aligned r
    have hopen : s.supervisor.state = .opened := ha .opened (by rw [crashed]; rfl)
    have hchain : Chained .idle (effects h) s.supervisor.state :=
      course_chained (fresh_aligned c) (clientRun_run r).2
    have hview : s.hub.state = s.supervisor.state := by
      rw [(clientCourse_views aligned r).1, (fresh_client c observers).2.2.1]
      exact chained_track hchain
    refine ⟨hview.trans hopen, ?_⟩
    have drained := clientCourse_drained aligned (fresh_drained c observers) r
    exact (drained.gone (by simp [Supervisor.isGone, crashed])).2
  · intro before s₁ category refresh trail s f past held j hf alive there
    obtain ⟨watchable, -⟩ := journey_watchable (fresh_watchable c observers) past
    obtain ⟨g, hg, -, tended⟩ := journey_tended watchable held j
    obtain rfl : g = f := Option.some.inj (hg.symm.trans hf)
    cases tended with
    | runs running shown => exact ⟨fun ended => absurd ended running, fun late => absurd late shown⟩
    | aborted ended late => exact ⟨fun _ => late, fun _ => ended⟩
    | parted ended cause => simp_all

/-- A refresh of half the clock's range. -/
def rareRefresh : Duration := .ofSecs 4611686018427387904

/-- With the longest heartbeat the supervisor is aborted when its first session is open, and with
the longest refresh the task of a feed when it first runs. With one half as long as the clock's range it is
aborted when it takes its first tick 6 ms late. -/
theorem clock_range_longest :
    (∃ h s, ClientRun lateHeartbeat [] h s ∧ s.supervisor.phase = .crashed ∧
      s.hub.state = .opened) ∧
    (∃ trail s, Journey (act (.fresh .standard [])
        (.attachFeed .all ⟨Duration.maxNanos, Nat.le_refl _⟩)) trail s ∧
      s.hub.feeds.map (fun f => (f.attached, f.task)) = [(true, .ended)] ∧
      s.supervisor.isGone = false) ∧
    ∃ trail s, Journey (act (.fresh .standard []) (.attachFeed .all rareRefresh)) trail s ∧
      s.hub.feeds.map (fun f => (f.attached, f.task)) = [(true, .ended)] ∧
      s.supervisor.isGone = false := by
  refine ⟨?_, ?_, ?_⟩
  · have r₀ : ClientRun lateHeartbeat [] [] (.fresh lateHeartbeat []) := ClientCourse.start
    have r₁ := ClientCourse.step r₀ (ClientStep.acts (.call .start))
    have r₂ := ClientCourse.step r₁ (ClientStep.takes 0 _ _ rfl)
    have r₃ := ClientCourse.step r₂ (ClientStep.meets 0 .attemptBegun _ _ nofun rfl)
    have r₄ := ClientCourse.step r₃ (ClientStep.meets 0 .connected _ _ nofun rfl)
    exact ⟨_, _, r₄, by decide +kernel, by decide +kernel⟩
  · exact travel_shows [.work (.feed 0)] (by decide +kernel)
  · exact travel_shows [.work (.feed 0), .pass 4611686018427387904000000006000000, .work (.feed 0)]
      (by decide +kernel)

end SteadyLink.Proofs
