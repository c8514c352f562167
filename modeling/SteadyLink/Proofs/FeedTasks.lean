import SteadyLink.Proofs.ListenerRuns

/-!
# The tasks of feeds

A feed has a task that watches the state and asks for snapshots. No step but its own has a part in the
task, and the state that the task watches changes as the published transitions say.
-/

namespace SteadyLink.Proofs

open Hub

/-! ## The state that is watched -/

/-- What is shown of the state is what was published of it. -/
structure Watched (s : Client) : Prop where
  changes : s.hub.stateChanges = (published s).length
  latest : s.hub.state = ((published s).getLast?.bind Prod.snd).getD .idle

/-- A feed after something that its task has no part in. -/
structure Spared (f f' : MetricsFeed) : Prop where
  category : f'.category = f.category
  refresh : f'.refresh = f.refresh
  task : f'.task = f.task
  attached : f'.attached = true → f.attached = true

/-- Feeds keep their numbers, and their tasks have no part in what happens. -/
def SparesFeeds (a b : Hub) : Prop :=
  ∀ (k : Nat) f, a.feeds[k]? = some f → ∃ f', b.feeds[k]? = some f' ∧ Spared f f'

/-- The number of the feed whose task takes the step. -/
def feedRunner? : Choice → Option Nat
  | .work (.feed k) => some k
  | _ => none

section Hubs

variable {a b d : Hub}

lemma spared_refl (f : MetricsFeed) : Spared f f := ⟨rfl, rfl, rfl, id⟩

lemma spared_receive (f : MetricsFeed) (role : SnapshotRole) (payload : Json) :
    Spared f (f.receive role payload) := by
  unfold MetricsFeed.receive
  split
  · exact spared_refl f
  · exact ⟨rfl, rfl, rfl, id⟩

lemma spares_same (h : b.feeds = a.feeds) : SparesFeeds a b :=
  fun k f hf => ⟨f, by rw [h, hf], spared_refl f⟩

lemma spares_trans (h : SparesFeeds a b) (h' : SparesFeeds b d) : SparesFeeds a d := by
  intro k f hf
  obtain ⟨g, hg, spared⟩ := h k f hf
  obtain ⟨g', hg', spared'⟩ := h' k g hg
  exact ⟨g', hg', spared'.category.trans spared.category, spared'.refresh.trans spared.refresh,
    spared'.task.trans spared.task, spared.attached ∘ spared'.attached⟩

lemma spares_modify (hub : Hub) (number : Nat) {g : MetricsFeed → MetricsFeed}
    (hg : ∀ f, Spared f (g f)) :
    SparesFeeds hub { hub with feeds := hub.feeds.modify number g } := by
  intro k f hf
  show ∃ f', (hub.feeds.modify number g)[k]? = some f' ∧ _
  rw [List.getElem?_modify, hf]
  by_cases hk : number = k
  · exact ⟨g f, by simp [hk], hg f⟩
  · exact ⟨f, by simp [hk], spared_refl f⟩

lemma spares_set {hub : Hub} {number : Nat} {g g' : MetricsFeed} (hg : hub.feeds[number]? = some g)
    (spared : Spared g g') : SparesFeeds hub { hub with feeds := hub.feeds.set number g' } := by
  obtain ⟨hlt, -⟩ := List.getElem?_eq_some_iff.mp hg
  intro k f hf
  show ∃ f', (hub.feeds.set number g')[k]? = some f' ∧ _
  rw [List.getElem?_set, if_pos hlt]
  by_cases hk : number = k
  · subst hk
    obtain rfl := Option.some.inj (hg.symm.trans hf)
    exact ⟨g', if_pos rfl, spared⟩
  · exact ⟨f, by rw [if_neg hk, hf], spared_refl f⟩

lemma post_feeds (hub : Hub) (c : Control) : (hub.post c).1.feeds = hub.feeds := by
  unfold post
  split <;> rfl

lemma call_feeds (hub : Hub) (c : Call) : (hub.call c).1.feeds = hub.feeds := by
  have posts (r : Except ClientError Envelope) : (hub.postEnvelope r).1.feeds = hub.feeds := by
    cases r with
    | ok e => exact post_feeds hub _
    | error e => rfl
  unfold call
  by_cases hh : hub.handles = 0
  · rw [if_pos hh]
  · rw [if_neg hh]
    cases c with
    | start | stop | ping | requestMetrics => exact post_feeds hub _
    | send | sendEnvelope | chat => exact posts _
    | subscribe kind tag body => by_cases hk : Text.isBlank kind = true <;> simp [subscribe, hk]
    | unsubscribe | count | state => rfl

lemma spares_replay (mark : Mark) (hub : Hub) : SparesFeeds hub (mark.replay hub) := by
  cases mark with
  | called callback e =>
    cases callback with
    | body tag actions => exact spares_same rfl
    | feed number role => exact spares_modify hub number fun f => spared_receive f role e.payload
  | performed action reply =>
    cases action with
    | call c => exact spares_same (call_feeds hub c)
    | dispatch => exact spares_same rfl
    | panic => exact spares_same rfl
  | panicked => exact spares_same rfl

/-- Callbacks bring feeds up to date and leave their tasks alone. -/
lemma spares_deliver (hub : Hub) (e : Envelope) (listed : Listed hub) :
    SparesFeeds hub (hub.deliver e) :=
  deliver_keeps e listed (spares_same rfl) fun hub mark h => spares_trans h (spares_replay mark hub)

end Hubs

/-! ## Steps that others take -/

section Steps

variable {s s' : Client} {choice : Choice}

lemma act_spares (s : Client) (d : Deed) : SparesFeeds s.hub (act s d).hub := by
  have grows {hub : Hub} (f : MetricsFeed) (h : hub.feeds = s.hub.feeds ++ [f]) :
      SparesFeeds s.hub hub := by
    intro k g hg
    obtain ⟨hlt, -⟩ := List.getElem?_eq_some_iff.mp hg
    exact ⟨g, by rw [h, List.getElem?_append_left hlt, hg], spared_refl g⟩
  cases d with
  | call c => exact spares_same (call_feeds s.hub c)
  | attachFeed category refresh =>
    by_cases hh : s.hub.handles = 0
    · simp only [act, if_pos hh]
      exact spares_same rfl
    · simp only [act, if_neg hh]
      exact grows _ rfl
  | seed number snapshot =>
    simp only [act]
    split
    case h_1 f hf =>
      refine spares_set (attachedFeed_eq s hf).1 ?_
      unfold MetricsFeed.seed
      split <;> exact ⟨rfl, rfl, rfl, id⟩
    case h_2 => exact spares_same rfl
  | latest number =>
    simp only [act]
    split
    case h_1 f hf => exact spares_set (attachedFeed_eq s hf).1 ⟨rfl, rfl, rfl, id⟩
    case h_2 => exact spares_same rfl
  | requestNow number =>
    simp only [act]
    split
    case h_1 => exact spares_same (post_feeds s.hub _)
    case h_2 => exact spares_same rfl
  | dropFeed number =>
    simp only [act, Client.onHub, dropFeed]
    split
    case h_1 => exact spares_same rfl
    case h_2 f hf => exact spares_set hf ⟨rfl, rfl, rfl, fun alive => absurd alive Bool.false_ne_true⟩
  | _ =>
    simp only [act]
    first
    | exact spares_same rfl
    | split <;> exact spares_same rfl

lemma applyAll_spares (es : List Effect) (s : Client) (listed : Listed s.hub)
    (plain : ∀ event, .publish event ∈ es → event.kind ≠ .stateChanged) :
    SparesFeeds s.hub (es.foldl Client.apply s).hub := by
  refine applyAll_keeps listed plain (spares_same rfl) fun s e listed h => spares_trans h ?_
  cases e with
  | dispatch m => exact spares_deliver s.hub m listed
  | _ => exact spares_same rfl

lemma applyAll_changes (es : List Effect) (s : Client) :
    (es.foldl Client.apply s).hub.stateChanges = s.hub.stateChanges + (moves es).length := by
  induction es generalizing s with
  | nil => rfl
  | cons e es ih =>
    rw [List.foldl_cons, ih]
    cases e with
    | moved source target =>
      show s.hub.stateChanges + 1 + (moves es).length = s.hub.stateChanges + ((moves es).length + 1)
      omega
    | dispatch m =>
      show (s.hub.deliver m).stateChanges + _ = _
      rw [(called_deliver s.hub m).stateChanges]
      rfl
    | _ => rfl

lemma track_moves (es : List Effect) (state : ConnectionState) :
    es.foldl track state = ((moves es).getLast?.map Prod.snd).getD state := by
  induction es generalizing state with
  | nil => rfl
  | cons e es ih =>
    rw [List.foldl_cons, ih]
    cases e with
    | moved source target =>
      show _ = (((source, target) :: moves es).getLast?.map Prod.snd).getD state
      rw [List.getLast?_cons]
      cases (moves es).getLast? <;> rfl
    | _ => rfl

end Steps

/-! ## The task of a feed -/

section Tasks

variable {s s' : Client} {f : MetricsFeed} {k : Nat}

/-- The feed itself after a step of its task. -/
lemma afterFeed_self {asks : Bool} {task : FeedTask} (hf : s.hub.feeds[k]? = some f) :
    (afterFeed s k f asks task).hub.feeds[k]? = some { f with task } := by
  show (s.hub.feeds.modify k _)[k]? = _
  rw [List.getElem?_modify, hf]
  simp

lemma runs_feed (taken : next? s (.work (.feed k)) = some s') :
    ∃ f, s.hub.feeds[k]? = some f ∧ s.stepFeed k f = some s' := by
  have hs : s.stepTask (.feed k) = some s' := taken
  unfold Client.stepTask at hs
  simp only at hs
  split at hs
  case h_1 f hf => exact ⟨f, hf, hs⟩
  case h_2 => cases hs

end Tasks

/-! ## All steps -/

/-- The feeds, the registrations, and how often the state was shown, are as before. -/
def Aside (a b : Hub) : Prop :=
  b.feeds = a.feeds ∧ b.registry = a.registry ∧ b.stateChanges = a.stateChanges

section Asides

variable {s s' : Client} {k : Nat}

lemma emit_aside (s : Client) (e : Event) : Aside s.hub (s.emit e).hub := by
  have publishes (events : List Event) (s : Client) :
      Aside s.hub (events.foldl Client.publish s).hub := by
    induction events generalizing s with
    | nil => exact ⟨rfl, rfl, rfl⟩
    | cons e events ih => exact ih (s.publish e)
  exact publishes _ _

lemma receive_published (bus : Bus) (id : Nat) : (bus.receive id).2.published = bus.published := by
  unfold Bus.receive
  split <;> rfl

lemma endHook_hub (s : Client) (i : Nat) (h : Hook) : ∃ bus : Bus,
    (s.endHook i h).hub = { s.hub with bus } ∧ bus.published = s.hub.bus.published := by
  unfold Client.endHook
  split
  · exact ⟨s.hub.bus, rfl, rfl⟩
  · exact ⟨_, rfl, rfl⟩

/-- A hook reads from the bus and is called, and does nothing else. -/
lemma hook_hub {i : Nat} {h : Hook} (hs : s.stepHook i h = some s') :
    ∃ (bus : Bus) (notes : Journal),
      s'.hub = { s.hub with bus, journal := notes ++ s.hub.journal } ∧
        bus.published = s.hub.bus.published := by
  have ends : ∃ (bus : Bus) (notes : Journal),
      (s.endHook i h).hub = { s.hub with bus, journal := notes ++ s.hub.journal } ∧
        bus.published = s.hub.bus.published := by
    obtain ⟨bus, hhub, hpublished⟩ := endHook_hub s i h
    exact ⟨bus, [], hhub, hpublished⟩
  cases stepHook_run hs with
  | calls source target =>
    exact ⟨s.hub.bus, [(s.hub.now, .stateHookCalled i source target)], rfl, rfl⟩
  | tells id e fault =>
    exact ⟨_, [(s.hub.now, .errorHookCalled i fault)], rfl, receive_published s.hub.bus id⟩
  | skips id => exact ⟨_, [], rfl, receive_published s.hub.bus id⟩
  | finds | rests | wakes => exact ⟨s.hub.bus, [], rfl, rfl⟩
  | leaves | parts => exact ends

lemma listener_aside (hs : s.stepListener = some s') : Aside s.hub s'.hub := by
  cases stepListener_run hs with
  | hears id e =>
    exact emit_aside (s.onHub fun hub => { hub with bus := (s.hub.bus.receive id).2 }) e
  | _ => exact ⟨rfl, rfl, rfl⟩

lemma worker_aside {number : Nat} {w : Worker} (hs : s.stepWorker number w = some s') :
    Aside s.hub s'.hub := by
  unfold Client.stepWorker at hs
  split at hs
  case h_1 =>
    simp only at hs
    split at hs <;> obtain rfl := Option.some.inj hs <;> split <;> exact ⟨rfl, rfl, rfl⟩
  case h_2 =>
    obtain ⟨w', -, rfl⟩ := Option.map_eq_some_iff.mp hs
    exact ⟨rfl, rfl, rfl⟩

/-- The tasks of hooks, of the listener and of observers have no part in feeds. -/
lemma task_aside {t : Task} (hs : s.stepTask t = some s') (other : ∀ k, t ≠ .feed k) :
    Aside s.hub s'.hub := by
  unfold Client.stepTask at hs
  split at hs
  case h_1 =>
    split at hs
    · split at hs
      · obtain ⟨bus, notes, hhub, -⟩ := hook_hub hs
        rw [hhub]
        exact ⟨rfl, rfl, rfl⟩
      · cases hs
    · cases hs
  case h_2 k => exact absurd rfl (other k)
  case h_3 => exact listener_aside hs
  case h_4 =>
    split at hs
    · exact worker_aside hs
    · cases hs

/-- A deed does not count as a change of the state, and publishes nothing. -/
lemma act_counts (s : Client) (d : Deed) : (act s d).hub.stateChanges = s.hub.stateChanges ∧
    (act s d).hub.bus.published = s.hub.bus.published := by
  have posts (c : Control) : (s.hub.post c).1.stateChanges = s.hub.stateChanges ∧
      (s.hub.post c).1.bus.published = s.hub.bus.published := by
    unfold post
    split <;> exact ⟨rfl, rfl⟩
  cases d with
  | call c =>
    exact ⟨(called_call s.hub c).stateChanges, congrArg Bus.published (call_shows s.hub c).2⟩
  | requestNow number =>
    simp only [act]
    split
    case h_1 => exact posts _
    case h_2 => exact ⟨rfl, rfl⟩
  | dropFeed number =>
    simp only [act, Client.onHub, dropFeed]
    split <;> exact ⟨rfl, rfl⟩
  | read id =>
    simp only [act]
    split
    case isTrue => exact ⟨rfl, rfl⟩
    case isFalse => exact ⟨rfl, receive_published s.hub.bus id⟩
  | removeHook | dropHandle => exact ⟨rfl, rfl⟩
  | _ => simp only [act]; split <;> exact ⟨rfl, rfl⟩

end Asides

section All

variable {s s' : Client} {choice : Choice} {k : Nat} {f : MetricsFeed}

/-- The state is shown anew only when the supervisor takes a turn. -/
lemma next_changes (hst : stimulusOf? s choice = none) (taken : next? s choice = some s') :
    s'.hub.stateChanges = s.hub.stateChanges := by
  cases choice with
  | take => cases hst
  | meet => cases hst
  | pass now =>
    obtain rfl := Option.some.inj taken
    rfl
  | deed d =>
    obtain rfl := Option.some.inj taken
    exact (act_counts s d).1
  | work t =>
    by_cases feed : ∃ k, t = .feed k
    · obtain ⟨k, rfl⟩ := feed
      obtain ⟨f, -, hs⟩ := runs_feed taken
      obtain ⟨asks, task, -, rfl⟩ := feed_turn hs
      rfl
    · exact (task_aside taken fun k hk => feed ⟨k, hk⟩).2.2

/-- Whoever takes a step, the tasks of other feeds have no part in it. -/
theorem next_spares (w : Wired s) (taken : next? s choice = some s')
    (other : feedRunner? choice ≠ some k) (hf : s.hub.feeds[k]? = some f) :
    ∃ f', s'.hub.feeds[k]? = some f' ∧ Spared f f' := by
  cases hst : stimulusOf? s choice with
  | some stimulus =>
    obtain ⟨draw, rest, supervisor, es, hstep, -, rfl⟩ := next_turn hst taken
    have spares := applyAll_spares es (stepped s rest supervisor) w.listed
      (step_plain w.aligned hstep)
    have settles (s : Client) : SparesFeeds s.hub s.settleEnd.hub := by
      unfold Client.settleEnd
      split <;> exact spares_same rfl
    exact spares_trans spares (settles _) k f hf
  | none =>
    cases choice with
    | take => cases hst
    | meet => cases hst
    | pass now =>
      obtain rfl := Option.some.inj taken
      exact spares_same rfl k f hf
    | deed d =>
      obtain rfl := Option.some.inj taken
      exact act_spares s d k f hf
    | work t =>
      by_cases feed : ∃ j, t = .feed j
      · obtain ⟨j, rfl⟩ := feed
        have apart : j ≠ k := fun h => other (congrArg some h)
        obtain ⟨g, -, hs⟩ := runs_feed taken
        obtain ⟨asks, task, -, rfl⟩ := feed_turn hs
        refine ⟨f, ?_, spared_refl f⟩
        show (s.hub.feeds.modify j _)[k]? = _
        rw [List.getElem?_modify, hf]
        simp [apart]
      · exact spares_same (task_aside taken fun k hk => feed ⟨k, hk⟩).1 k f hf

lemma next_worked (hst : stimulusOf? s choice = none) (taken : next? s choice = some s') :
    Worked s s' := by
  cases choice with
  | take => cases hst
  | meet => cases hst
  | pass now =>
    obtain rfl := Option.some.inj taken
    exact worked_hub s _ ⟨rfl, rfl, ⟨[], by simp⟩, id, [], by simp⟩
  | deed d =>
    obtain rfl := Option.some.inj taken
    exact ⟨act_supervisor s d, follows_act s d⟩
  | work t => exact worked_task taken

/-- What is published of the state, and how it changes for those who watch it. -/
lemma next_shown (w : Wired s) (taken : next? s choice = some s') :
    ∃ changes : List (ConnectionState × ConnectionState),
      published s' = published s ++ changes.map shown ∧
        s'.hub.stateChanges = s.hub.stateChanges + changes.length ∧
        s'.hub.state = (changes.getLast?.map Prod.snd).getD s.hub.state := by
  cases hst : stimulusOf? s choice with
  | none =>
    have worked := (next_worked hst taken).follows
    exact ⟨[], worked.published, next_changes hst taken, worked.state⟩
  | some stimulus =>
    obtain ⟨draw, rest, supervisor, es, hstep, -, rfl⟩ := next_turn hst taken
    have follows := follows_applyAll es (stepped s rest supervisor) (step_plain w.aligned hstep)
    have changes := applyAll_changes es (stepped s rest supervisor)
    generalize es.foldl Client.apply (stepped s rest supervisor) = mid at follows changes
    obtain ⟨-, -, -, hstate, hjournal, -⟩ := settleEnd_rest mid
    have hchanges : mid.settleEnd.hub.stateChanges = mid.hub.stateChanges := by
      unfold Client.settleEnd
      split <;> rfl
    refine ⟨moves es, ?_, hchanges.trans changes, ?_⟩
    · unfold published at *
      rw [hjournal]
      exact follows.published
    · rw [hstate, follows.state]
      exact track_moves es s.hub.state

/-- Requests are taken as long as there is a supervisor. -/
lemma next_accepting (w : Wired s) (taken : next? s choice = some s')
    (accepting : s.supervisor.isGone = false → s.hub.accepting = true)
    (there : s'.supervisor.isGone = false) : s'.hub.accepting = true := by
  obtain ⟨h, hs⟩ := next_clientStep taken
  rcases clientStep_cases w.aligned hs with ⟨-, worked⟩ | ⟨draw, stimulus, es, -, turn⟩
  · rw [worked.follows.accepting]
    exact accepting (worked.supervisor ▸ there)
  · rw [(turn.mailbox there).1]
    exact accepting (step_present turn.step)

end All

/-! ## Along a journey -/

/-- What can be relied on in a client that feeds run in. -/
structure Watchable (s : Client) : Prop where
  wired : Wired s
  watched : Watched s
  accepting : s.supervisor.isGone = false → s.hub.accepting = true

section Journeys

variable {s₀ s₁ s s' : Client} {trail : Trail} {choice : Choice}

lemma next_watchable (h : Watchable s) (taken : next? s choice = some s') :
    Watchable s' ∧ published s <+: published s' := by
  obtain ⟨changes, hpublished, hchanges, hstate⟩ := next_shown h.wired taken
  obtain ⟨es, a⟩ := next_aired h.wired taken
  refine ⟨⟨wired_aired h.wired taken a, ⟨?_, ?_⟩, next_accepting h.wired taken h.accepting⟩, ?_⟩
  · rw [hchanges, hpublished, h.watched.changes, List.length_append, List.length_map]
  · rw [hstate, hpublished, h.watched.latest, List.getLast?_append, List.getLast?_map]
    cases changes.getLast? <;> rfl
  · exact hpublished ▸ List.prefix_append _ _

lemma fresh_watchable (c : Config) (observers : List Observer) :
    Watchable (.fresh c observers) := by
  obtain ⟨-, -, hstate, hjournal⟩ := fresh_client c observers
  have hnone : published (.fresh c observers) = [] := by
    unfold published
    rw [hjournal]
    rfl
  have hhub : (Client.fresh c observers).hub.stateChanges = 0 ∧
      (Client.fresh c observers).hub.accepting = true := by
    unfold Client.fresh
    split <;> exact ⟨rfl, rfl⟩
  refine ⟨fresh_wired c observers, ⟨?_, ?_⟩, fun _ => hhub.2⟩
  · rw [hnone, hhub.1]
    rfl
  · rw [hnone, hstate]
    rfl

theorem journey_watchable (h : Watchable s₀) (j : Journey s₀ trail s) :
    Watchable s ∧ published s₀ <+: published s := by
  induction j with
  | start => exact ⟨h, List.prefix_rfl⟩
  | step choice past taken ih =>
    obtain ⟨h', grows⟩ := next_watchable ih.1 taken
    exact ⟨h', ih.2.trans grows⟩

/-- What holds of a feed, and is kept by the steps of its task and by those of others, holds all
along. -/
theorem journey_feed {P : Trail → Client → MetricsFeed → Prop} {k : Nat} {f₀ : MetricsFeed}
    (h : Watchable s₀) (hf₀ : s₀.hub.feeds[k]? = some f₀) (start : P [] s₀ f₀)
    (other : ∀ trail s choice s' f f', Journey s₀ trail s → P trail s f →
      feedRunner? choice ≠ some k → next? s choice = some s' → s'.hub.feeds[k]? = some f' →
        Spared f f' → P (trail ++ [⟨s, choice⟩]) s' f')
    (own : ∀ trail s f asks task, Journey s₀ trail s → P trail s f → s.hub.feeds[k]? = some f →
      FeedTurn s f asks task →
        next? s (.work (.feed k)) = some (afterFeed s k f asks task) →
          P (trail ++ [⟨s, .work (.feed k)⟩]) (afterFeed s k f asks task) { f with task })
    (j : Journey s₀ trail s) : ∃ f, s.hub.feeds[k]? = some f ∧ P trail s f := by
  induction j with
  | start => exact ⟨f₀, hf₀, start⟩
  | @step trail s s' choice past taken ih =>
    obtain ⟨f, hf, holds⟩ := ih
    by_cases runs : feedRunner? choice = some k
    · obtain rfl : choice = .work (.feed k) := by
        cases choice with
        | work t =>
          cases t with
          | feed i => exact congrArg (fun i => Choice.work (.feed i)) (Option.some.inj runs)
          | _ => cases runs
        | _ => cases runs
      obtain ⟨g, hg, hs⟩ := runs_feed taken
      obtain rfl : g = f := Option.some.inj (hg.symm.trans hf)
      obtain ⟨asks, task, turn, rfl⟩ := feed_turn hs
      exact ⟨_, afterFeed_self hf, own trail s g asks task past holds hf turn taken⟩
    · obtain ⟨f', hf', spared⟩ := next_spares (journey_watchable h past).1.wired taken runs hf
      exact ⟨f', hf', other trail s choice s' f f' past holds runs taken hf' spared⟩

lemma next_deed (s : Client) (d : Deed) : next? s (.deed d) = some (act s d) := rfl

/-- A feed that was just attached has its task about to run. -/
lemma attach_starting (category : MetricsCategory) (refresh : Duration)
    (held : s.hub.handles ≠ 0) : ∃ subscriptions,
    (act s (.attachFeed category refresh)).hub.feeds[s.hub.feeds.length]? =
      some (.starting category refresh subscriptions) := by
  simp only [act, if_neg held]
  exact ⟨_, List.getElem?_concat_length⟩

end Journeys

end SteadyLink.Proofs
