import SteadyLink.Proofs.FeedReadings
import SteadyLink.Proofs.FeedTasks

/-!
# What reaches a feed

A feed in a client is called with the messages of two kinds, and the kind decides what a snapshot in
one of them is to the feed. So the history that the readings of a feed follow is told by the messages
that are dispatched after the feed was attached and by what its owner supplies.
-/

namespace SteadyLink.Proofs

open Hub

/-! ## Kinds and roles -/

/-- What a snapshot is to a feed if it comes in a message of this kind. -/
def roleOf? (kind : String) : Option SnapshotRole :=
  if kind = initialMetricsKind then some .initial
  else if kind = metricsUpdateKind then some .update
  else none

/-- What a call brings to a feed, as the kind of the message tells. -/
def fedBy? (k : Nat) : Mark → Option FeedInput
  | .called (.feed number _) e =>
    if number = k then (roleOf? e.kind).map (.event · e.payload) else none
  | _ => none

def fedIn (k : Nat) (marks : List Mark) : List FeedInput := marks.filterMap (fedBy? k)

/-- Whoever is registered for a feed is registered for a kind that has the role. -/
def ByKind (roll : Roll Callback) : Prop :=
  ∀ r ∈ roll.entries, ∀ number role, r.handler = .feed number role → roleOf? r.kind = some role

/-- Whoever is called for a feed is called with a message whose kind has the role. -/
def CalledByKind (marks : List Mark) : Prop :=
  ∀ number role e, .called (.feed number role) e ∈ marks → roleOf? e.kind = some role

section Kinds

variable {roll : Roll Callback} {handles n : Nat} {e : Envelope} {marks later : List Mark}

lemma byKind_insert (h : ByKind roll) {kind : String} {callback : Callback}
    (proper : ∀ number role, callback = .feed number role → roleOf? kind = some role) :
    ByKind (roll.insert kind callback).2 := by
  intro r hr
  rcases List.mem_append.mp hr with old | new
  · exact h r old
  · obtain rfl := List.mem_singleton.mp new
    exact proper

lemma byKind_remove (h : ByKind roll) (id : Nat) : ByKind (roll.remove id).2 :=
  fun r hr => h r (List.mem_filter.mp hr).1

/-- What callbacks register is not for feeds. -/
lemma byKind_after (h : ByKind roll) (marks : List Mark) : ByKind (roll.after marks) := by
  induction marks generalizing roll with
  | nil => exact h
  | cons mark marks ih =>
    have split : roll.after (mark :: marks) = (roll.after [mark]).after marks :=
      after_append roll [mark] marks
    rw [split]
    apply ih
    show ByKind (changeAll Change.onRoll (changes [mark]) roll).2
    rcases hc : mark.change? with _ | change
    · rw [changes, List.filterMap_cons_none hc]
      exact h
    · rw [changes, List.filterMap_cons_some hc]
      cases change with
      | insert kind callback =>
        refine byKind_insert h ?_
        rintro number role rfl
        unfold Mark.change? at hc
        split at hc <;> cases hc
      | remove id => exact byKind_remove h id

lemma calledByKind_append (h : CalledByKind marks) (h' : CalledByKind later) :
    CalledByKind (marks ++ later) :=
  fun number role e hm => (List.mem_append.mp hm).elim (h number role e) (h' number role e)

/-- A mark that is no call has no bearing. -/
lemma calledByKind_cons {mark : Mark} (other : ∀ callback e, mark ≠ .called callback e)
    (h : CalledByKind marks) : CalledByKind (mark :: marks) := by
  intro number role e hm
  rcases List.mem_cons.mp hm with rfl | hm
  · exact absurd rfl (other _ _)
  · exact h number role e hm

/-- However deep a dispatch nests, each callback is called with messages of the kind it is registered
for. -/
theorem dispatched_byKind (h : Dispatched handles roll e n marks) (proper : ByKind roll) :
    CalledByKind marks := by
  refine @Dispatched.rec handles
    (fun roll _ _ marks _ => ByKind roll → CalledByKind marks)
    (fun roll e callbacks marks _ => ByKind roll →
      (∀ number role, .feed number role ∈ callbacks → roleOf? e.kind = some role) →
        CalledByKind marks)
    (fun roll _ marks _ _ => ByKind roll → CalledByKind marks)
    ?intro ?nil ?cons ?finished ?panicked ?called ?refused ?dispatched roll e n marks h proper
  case intro =>
    intro roll e marks visited ih proper
    refine ih proper ?_
    intro number role hm
    obtain ⟨r, hr, hhandler⟩ := List.mem_map.mp hm
    obtain ⟨there, hkind⟩ := List.mem_filter.mp hr
    rw [← of_decide_eq_true hkind]
    exact proper r there number role hhandler
  case nil => exact fun _ _ => nofun
  case cons =>
    intro roll e callback rest own later panic ran visited own_ih later_ih proper called
    have others : CalledByKind (own ++ (told e.kind panic ++ later)) := by
      refine calledByKind_append (own_ih proper) (calledByKind_append ?_ ?_)
      · cases panic with
        | none => exact nofun
        | some p => exact calledByKind_cons nofun nofun
      · refine later_ih (byKind_after proper own) ?_
        exact fun number role hm => called number role (List.mem_cons_of_mem _ hm)
    intro number role e' hm
    rcases List.mem_cons.mp hm with first | hm
    · obtain ⟨rfl, rfl⟩ := Mark.called.inj first
      exact called number role List.mem_cons_self
    · exact others number role e' hm
  case finished => exact fun _ => nofun
  case panicked => exact fun _ => nofun
  case called =>
    intro roll c r rest later panic answered ran ih proper
    exact calledByKind_cons nofun (ih (byKind_after proper _))
  case refused =>
    intro roll kind payload error rest later panic blank ran ih proper
    exact calledByKind_cons nofun (ih proper)
  case dispatched =>
    intro roll kind payload e n rest inner later panic ok dispatched ran inner_ih later_ih proper
    refine calledByKind_append (inner_ih proper) (calledByKind_cons nofun ?_)
    exact later_ih (byKind_after proper inner)

/-- All callbacks that a dispatch has found are called. -/
lemma visited_called {callbacks : List Callback} (h : Visited handles roll e callbacks marks)
    {callback : Callback} (there : callback ∈ callbacks) : .called callback e ∈ marks := by
  induction callbacks generalizing roll marks with
  | nil => cases there
  | cons first rest ih =>
    cases h with
    | cons ran visited =>
      rcases List.mem_cons.mp there with rfl | there
      · exact List.mem_cons_self
      · refine List.mem_cons_of_mem _ (List.mem_append_right _ (List.mem_append_right _ ?_))
        exact ih visited there

end Kinds

/-! ## Hubs -/

/-- The callbacks of all feeds are registered for the kinds that have their roles. -/
def FeedsByKind (hub : Hub) : Prop := ∃ roll, Represents hub.registry roll ∧ ByKind roll

/-- The feed shows what this history calls for. -/
def FeedShows (k : Nat) (hub : Hub) (history : List FeedInput) : Prop :=
  ∃ f, hub.feeds[k]? = some f ∧ f.reading = expected history

section Hubs

variable {k : Nat} {hub hub' : Hub} {history : List FeedInput}

lemma feedsByKind_insert (h : FeedsByKind hub) {kind : String} {callback : Callback}
    (byKind : ∀ number role, callback = .feed number role → roleOf? kind = some role) :
    FeedsByKind { hub with registry := (hub.registry.insert kind callback).2 } := by
  obtain ⟨roll, known, proper⟩ := h
  exact ⟨_, (represents_insert known kind callback).2, byKind_insert proper byKind⟩

lemma feedsByKind_unsubscribe (h : FeedsByKind hub) (id : Nat) : FeedsByKind (hub.unsubscribe id).2 := by
  obtain ⟨roll, known, proper⟩ := h
  exact ⟨_, (represents_remove known id).2, byKind_remove proper id⟩

lemma feedsByKind_call (h : FeedsByKind hub) (c : Call) : FeedsByKind (hub.call c).1 := by
  obtain ⟨roll, known, proper⟩ := h
  have represents := (represents_changeAll known (changes [.performed (.call c) (hub.call c).2])).2
  rw [← (call_shows hub c).1] at represents
  exact ⟨_, represents, byKind_after proper [.performed (.call c) (hub.call c).2]⟩

lemma feedsByKind_attach (h : FeedsByKind hub) (category : MetricsCategory) (refresh : Duration) :
    FeedsByKind (hub.attachFeed category refresh).2 := by
  have initial : FeedsByKind { hub with registry :=
      (hub.registry.insert initialMetricsKind (.feed hub.feeds.length .initial)).2 } := by
    refine feedsByKind_insert h ?_
    intro number role same
    obtain ⟨-, rfl⟩ := Callback.feed.inj same
    rfl
  have both : FeedsByKind { hub with registry :=
      ((hub.registry.insert initialMetricsKind (.feed hub.feeds.length .initial)).2.insert
        metricsUpdateKind (.feed hub.feeds.length .update)).2 } := by
    refine feedsByKind_insert initial ?_
    intro number role same
    obtain ⟨-, rfl⟩ := Callback.feed.inj same
    rfl
  exact both

lemma feedShows_modify (h : FeedShows k hub history) (number : Nat) (g : MetricsFeed → MetricsFeed)
    (kept : ∀ f, (g f).reading = f.reading) :
    FeedShows k { hub with feeds := hub.feeds.modify number g } history := by
  obtain ⟨f, hf, reads⟩ := h
  unfold FeedShows
  rw [List.getElem?_modify, hf]
  by_cases same : number = k
  · exact ⟨g f, by simp [same], (kept f).trans reads⟩
  · exact ⟨f, by simp [same], reads⟩

lemma feedShows_set (h : FeedShows k hub history) {number : Nat} {g g' : MetricsFeed}
    (there : hub.feeds[number]? = some g) (kept : number = k → g'.reading = g.reading) :
    FeedShows k { hub with feeds := hub.feeds.set number g' } history := by
  obtain ⟨f, hf, reads⟩ := h
  unfold FeedShows
  rw [List.getElem?_set, if_pos (List.getElem?_eq_some_iff.mp there).1]
  by_cases same : number = k
  · rw [if_pos same]
    obtain rfl := Option.some.inj ((same ▸ there).symm.trans hf)
    exact ⟨g', rfl, (kept same).trans reads⟩
  · rw [if_neg same]
    exact ⟨f, hf, reads⟩

/-- A feed takes in what a mark brings to it, if the mark is by its kind. -/
lemma feedShows_replay (h : FeedShows k hub history) {mark : Mark} (byKind : CalledByKind [mark]) :
    FeedShows k (mark.replay hub) (history ++ (fedBy? k mark).toList) := by
  have still {hub' : Hub} (same : hub'.feeds = hub.feeds) : FeedShows k hub' (history ++ []) := by
    rw [List.append_nil]
    unfold FeedShows
    rw [same]
    exact h
  cases mark with
  | called callback e =>
    cases callback with
    | body tag actions => exact still rfl
    | feed number role =>
      have role : roleOf? e.kind = some role := byKind number role e List.mem_cons_self
      simp only [fedBy?, role, Option.map_some]
      by_cases same : number = k
      · subst same
        obtain ⟨f, hf, reads⟩ := h
        rw [if_pos rfl]
        refine ⟨_, ?_, reading_step reads (.event _ e.payload)⟩
        show (hub.feeds.modify number _)[number]? = _
        rw [List.getElem?_modify, hf]
        simp [feedAfter]
      · rw [if_neg same]
        obtain ⟨f, hf, reads⟩ := h
        rw [Option.toList_none, List.append_nil]
        refine ⟨f, ?_, reads⟩
        show (hub.feeds.modify number _)[k]? = _
        rw [List.getElem?_modify, hf]
        simp [same]
  | performed a r =>
    cases a with
    | call c => exact still (call_feeds hub c)
    | dispatch kind payload => exact still rfl
    | panic p => exact still rfl
  | panicked kind p => exact still rfl

lemma feedShows_replayAll {marks : List Mark} (h : FeedShows k hub history) (byKind : CalledByKind marks) :
    FeedShows k (marks.foldl Mark.replay hub) (history ++ fedIn k marks) := by
  induction marks generalizing hub history with
  | nil =>
    rw [fedIn, List.filterMap_nil, List.append_nil]
    exact h
  | cons mark marks ih =>
    have first : CalledByKind [mark] := fun number role e hm =>
      byKind number role e (List.mem_singleton.mp hm ▸ List.mem_cons_self)
    have rest : CalledByKind marks := fun number role e hm =>
      byKind number role e (List.mem_cons_of_mem _ hm)
    have whole := ih (feedShows_replay h first) rest
    rw [List.append_assoc] at whole
    cases hm : fedBy? k mark with
    | none =>
      rw [fedIn, List.filterMap_cons_none hm]
      rwa [hm] at whole
    | some input =>
      rw [fedIn, List.filterMap_cons_some hm]
      rwa [hm] at whole

/-- Feeds take in what callbacks are called with in the course of a delivery. -/
theorem deliver_feeds (h : FeedsByKind hub) (e : Envelope) : ∃ marks, Delivered hub e marks ∧
    FeedsByKind (hub.deliver e) ∧
      ∀ k history, FeedShows k hub history → FeedShows k (hub.deliver e) (history ++ fedIn k marks) := by
  unfold deliver
  split
  case h_1 hub' n came =>
    obtain ⟨roll, known, proper⟩ := h
    obtain ⟨marks, dispatched, traced⟩ := dispatch_faithful nestingLimit e hub hub' n roll known came
    refine ⟨marks, .ends known came dispatched traced.replayed, ?_, ?_⟩
    · exact ⟨_, traced_represents known traced, byKind_after proper marks⟩
    · intro k history reads
      rw [traced.replayed]
      exact feedShows_replayAll reads (dispatched_byKind dispatched proper)
  case h_2 none =>
    refine ⟨[], .endless none, h, ?_⟩
    intro k history reads
    rwa [fedIn, List.filterMap_nil, List.append_nil]

/-- A feed that was just attached is called with two kinds of messages, after those who were
registered before, and with no others. -/
theorem attach_listens (listed : Listed hub) (category : MetricsCategory) (refresh : Duration)
    (kind : String) : (hub.attachFeed category refresh).2.registry.snapshot kind =
      hub.registry.snapshot kind ++ ((roleOf? kind).map (.feed hub.feeds.length)).toList := by
  obtain ⟨roll, known⟩ := listed
  have initial := (represents_insert known initialMetricsKind (.feed hub.feeds.length .initial)).2
  have update := (represents_insert initial metricsUpdateKind (.feed hub.feeds.length .update)).2
  show ((hub.registry.insert _ _).2.insert _ _).2.snapshot kind = _
  rw [represents_snapshot update, represents_snapshot known]
  have apart : initialMetricsKind ≠ metricsUpdateKind := by decide
  by_cases hi : initialMetricsKind = kind
  · subst hi
    simp [Roll.ofKind, Roll.insert, roleOf?, apart.symm]
  · by_cases hu : metricsUpdateKind = kind
    · subst hu
      simp [Roll.ofKind, Roll.insert, roleOf?, apart, apart.symm]
    · simp [Roll.ofKind, Roll.insert, roleOf?, hi, hu, Ne.symm hi, Ne.symm hu]

/-- A delivery that comes to its end brings the message to every feed that is registered for its
kind. -/
theorem delivered_reaches {e : Envelope} {marks : List Mark} {role : SnapshotRole} (h : FeedsByKind hub)
    (delivered : Delivered hub e marks) (ends : hub.dispatch nestingLimit e ≠ none)
    (there : .feed k role ∈ hub.registry.snapshot e.kind) : .event role e.payload ∈ fedIn k marks := by
  have hrole : roleOf? e.kind = some role := by
    obtain ⟨roll, known, proper⟩ := h
    rw [represents_snapshot known] at there
    obtain ⟨r, hr, hhandler⟩ := List.mem_map.mp there
    obtain ⟨entry, hkind⟩ := List.mem_filter.mp hr
    rw [← of_decide_eq_true hkind]
    exact proper r entry k role hhandler
  cases delivered with
  | endless none => exact absurd none ends
  | ends known came dispatched replayed =>
    rw [represents_snapshot known] at there
    cases dispatched with
    | intro visited =>
      refine List.mem_filterMap.mpr ⟨_, visited_called visited there, ?_⟩
      simp only [fedBy?, if_true, hrole, Option.map_some]

end Hubs

/-! ## Turns -/

/-- What goes on in deliveries while the effects of a turn come about, one after another. -/
inductive DeliveredAll : Client → List Effect → List Mark → Prop
  | nil {s : Client} : DeliveredAll s [] []
  | dispatch {s : Client} {e : Envelope} {es : List Effect} {marks later : List Mark}
      (delivered : Delivered s.hub e marks) (rest : DeliveredAll (s.apply (.dispatch e)) es later) :
    DeliveredAll s (.dispatch e :: es) (marks ++ later)
  | other {s : Client} {e : Effect} {es : List Effect} {marks : List Mark}
      (other : ∀ m, e ≠ .dispatch m) (rest : DeliveredAll (s.apply e) es marks) :
    DeliveredAll s (e :: es) marks

/-- What reaches a feed when a choice is made. -/
inductive Reaches (k : Nat) (s : Client) : Choice → List FeedInput → Prop
  | turn {choice : Choice} {stimulus : Stimulus} {draw : Nat} {rest : List Control}
      {supervisor : Supervisor} {es : List Effect} {marks : List Mark}
      (meets : stimulusOf? s choice = some stimulus)
      (step : s.supervisor.step s.config s.hub.now draw stimulus = some (supervisor, es))
      (mail : (request? stimulus).toList ++ rest = s.hub.mailbox)
      (delivered : DeliveredAll (stepped s rest supervisor) es marks) :
    Reaches k s choice (fedIn k marks)
  | seed {f : MetricsFeed} {snapshot : MetricsSnapshot} (there : attachedFeed? s k = some f) :
    Reaches k s (.deed (.seed k snapshot)) [.seed snapshot]
  | other {choice : Choice} (quiet : stimulusOf? s choice = none)
      (other : ∀ snapshot, choice = .deed (.seed k snapshot) → attachedFeed? s k = none) :
    Reaches k s choice []

/-- What has reached a feed on a trail. -/
inductive FedAlong (k : Nat) : Trail → List FeedInput → Prop
  | start : FedAlong k [] []
  | step {trail : Trail} {history inputs : List FeedInput} {s : Client} {choice : Choice}
      (past : FedAlong k trail history) (reaches : Reaches k s choice inputs) :
    FedAlong k (trail ++ [⟨s, choice⟩]) (history ++ inputs)

section Turns

variable {s s' : Client} {choice : Choice} {k : Nat} {history : List FeedInput}

/-- Of the effects only a dispatch has a part in registrations and feeds. -/
lemma apply_beside (s : Client) {e : Effect} (other : ∀ m, e ≠ .dispatch m) :
    (s.apply e).hub.feeds = s.hub.feeds ∧ (s.apply e).hub.registry = s.hub.registry := by
  cases e with
  | dispatch m => exact absurd rfl (other m)
  | _ => exact ⟨rfl, rfl⟩

lemma feedsByKind_same {a b : Hub} (h : FeedsByKind a) (same : b.registry = a.registry) :
    FeedsByKind b := by
  unfold FeedsByKind
  rwa [same]

lemma feedShows_same {a b : Hub} (h : FeedShows k a history) (same : b.feeds = a.feeds) :
    FeedShows k b history := by
  unfold FeedShows
  rwa [same]

lemma applyAll_feeds (es : List Effect) (h : FeedsByKind s.hub) : ∃ marks, DeliveredAll s es marks ∧
    FeedsByKind (es.foldl Client.apply s).hub ∧ ∀ k history, FeedShows k s.hub history →
      FeedShows k (es.foldl Client.apply s).hub (history ++ fedIn k marks) := by
  induction es generalizing s with
  | nil =>
    refine ⟨[], .nil, h, ?_⟩
    intro k history shows
    rwa [fedIn, List.filterMap_nil, List.append_nil]
  | cons e es ih =>
    by_cases dispatches : ∃ m, e = .dispatch m
    · obtain ⟨m, rfl⟩ := dispatches
      obtain ⟨marks, delivered, byKind, shows⟩ := deliver_feeds h m
      obtain ⟨later, rest, byKind', shows'⟩ := ih (s := s.apply (.dispatch m)) byKind
      refine ⟨marks ++ later, .dispatch delivered rest, byKind', ?_⟩
      intro k history reads
      rw [fedIn, List.filterMap_append, ← List.append_assoc]
      exact shows' k _ (shows k history reads)
    · have other (m : Envelope) : e ≠ .dispatch m := fun same => dispatches ⟨m, same⟩
      obtain ⟨hfeeds, hregistry⟩ := apply_beside s other
      obtain ⟨marks, rest, byKind, shows⟩ := ih (feedsByKind_same h hregistry)
      refine ⟨marks, .other other rest, byKind, ?_⟩
      exact fun k history reads => shows k history (feedShows_same reads hfeeds)

lemma feedShows_attach {hub : Hub} (h : FeedShows k hub history) (category : MetricsCategory)
    (refresh : Duration) : FeedShows k (hub.attachFeed category refresh).2 history := by
  obtain ⟨f, hf, reads⟩ := h
  refine ⟨f, ?_, reads⟩
  show (hub.feeds ++ _)[k]? = _
  rw [List.getElem?_append_left (List.getElem?_eq_some_iff.mp hf).1, hf]

/-- Whatever owners do, callbacks for feeds stay registered by kind, and feeds show what they did,
unless a snapshot is supplied. -/
lemma act_beside (h : FeedsByKind s.hub) (d : Deed)
    (other : ∀ number snapshot, d ≠ .seed number snapshot) : FeedsByKind (act s d).hub ∧
    ∀ k history, FeedShows k s.hub history → FeedShows k (act s d).hub history := by
  have still : FeedsByKind s.hub ∧
      ∀ k history, FeedShows k s.hub history → FeedShows k s.hub history := ⟨h, fun _ _ => id⟩
  cases d with
  | seed number snapshot => exact absurd rfl (other number snapshot)
  | call c =>
    exact ⟨feedsByKind_call h c, fun k history shows => feedShows_same shows (call_feeds s.hub c)⟩
  | attachFeed category refresh =>
    simp only [act]
    split
    · exact still
    · refine ⟨feedsByKind_attach h category refresh, ?_⟩
      exact fun k history shows => feedShows_attach shows category refresh
  | latest number =>
    simp only [act]
    split
    case h_1 f there =>
      refine ⟨h, fun k history shows => ?_⟩
      exact feedShows_set shows (attachedFeed_eq s there).1 fun _ => rfl
    case h_2 => exact still
  | requestNow number =>
    simp only [act]
    split
    case h_1 =>
      refine ⟨feedsByKind_same h (post_kept s.hub _).1, ?_⟩
      exact fun k history shows => feedShows_same shows (post_feeds s.hub _)
    case h_2 => exact still
  | dropFeed number =>
    simp only [act, Client.onHub, dropFeed]
    split
    case h_1 => exact still
    case h_2 f there =>
      refine ⟨feedsByKind_unsubscribe (feedsByKind_unsubscribe h _) _, fun k history shows => ?_⟩
      exact feedShows_set shows there fun _ => rfl
  | removeHook | dropHandle => exact still
  | _ =>
    simp only [act]
    split <;> exact still

lemma act_feeds (h : FeedsByKind s.hub) (d : Deed) : FeedsByKind (act s d).hub ∧
    ∀ k history, FeedShows k s.hub history → ∃ inputs, Reaches k s (.deed d) inputs ∧
      FeedShows k (act s d).hub (history ++ inputs) := by
  have quiet {k : Nat} {history : List FeedInput} {hub : Hub}
      (other : ∀ snapshot, d = .seed k snapshot → attachedFeed? s k = none)
      (shows : FeedShows k hub history) :
      ∃ inputs, Reaches k s (.deed d) inputs ∧ FeedShows k hub (history ++ inputs) :=
    ⟨[], .other rfl fun snapshot same => other snapshot (Choice.deed.inj same),
      (List.append_nil history).symm ▸ shows⟩
  by_cases seeds : ∃ number snapshot, d = .seed number snapshot
  · obtain ⟨number, snapshot, rfl⟩ := seeds
    simp only [act]
    split
    case h_1 f there =>
      refine ⟨h, fun k history shows => ?_⟩
      obtain ⟨hf, -⟩ := attachedFeed_eq s there
      by_cases own : number = k
      · subst own
        refine ⟨_, .seed there, ?_⟩
        obtain ⟨f', hf', reads⟩ := shows
        obtain rfl := Option.some.inj (hf.symm.trans hf')
        refine ⟨_, ?_, reading_step reads (.seed snapshot)⟩
        exact List.getElem?_set_self (List.getElem?_eq_some_iff.mp hf).1
      · refine quiet ?_ (feedShows_set shows hf fun same => absurd same own)
        intro snapshot' same
        exact absurd (Deed.seed.inj same).1 own
    case h_2 none =>
      refine ⟨h, fun k history shows => quiet ?_ shows⟩
      intro snapshot' same
      exact (Deed.seed.inj same).1 ▸ none
  · have other (number : Nat) (snapshot : MetricsSnapshot) : d ≠ .seed number snapshot :=
      fun same => seeds ⟨number, snapshot, same⟩
    obtain ⟨byKind, shows⟩ := act_beside h d other
    refine ⟨byKind, fun k history reads => quiet ?_ (shows k history reads)⟩
    exact fun snapshot same => absurd same (other k snapshot)

/-- Each step keeps callbacks for feeds registered by kind, and each feed takes in what reaches it. -/
theorem next_feeds (h : FeedsByKind s.hub) (taken : next? s choice = some s') :
    FeedsByKind s'.hub ∧ ∀ k history, FeedShows k s.hub history → ∃ inputs,
      Reaches k s choice inputs ∧ FeedShows k s'.hub (history ++ inputs) := by
  cases hst : stimulusOf? s choice with
  | some stimulus =>
    obtain ⟨draw, rest, supervisor, es, hstep, hrest, rfl⟩ := next_turn hst taken
    obtain ⟨marks, delivered, byKind, shows⟩ := applyAll_feeds (s := stepped s rest supervisor) es h
    generalize es.foldl Client.apply (stepped s rest supervisor) = mid at byKind shows
    have settled : mid.settleEnd.hub.feeds = mid.hub.feeds ∧
        mid.settleEnd.hub.registry = mid.hub.registry := by
      unfold Client.settleEnd
      split <;> exact ⟨rfl, rfl⟩
    refine ⟨feedsByKind_same byKind settled.2, fun k history reads => ?_⟩
    exact ⟨_, .turn hst hstep hrest delivered, feedShows_same (shows k history reads) settled.1⟩
  | none =>
    have quiet (other : ∀ k snapshot, choice ≠ .deed (.seed k snapshot)) (k : Nat)
        (history : List FeedInput) (shows : FeedShows k s'.hub history) :
        ∃ inputs, Reaches k s choice inputs ∧ FeedShows k s'.hub (history ++ inputs) :=
      ⟨[], .other hst fun snapshot same => absurd same (other k snapshot),
        (List.append_nil history).symm ▸ shows⟩
    cases choice with
    | take => cases hst
    | meet => cases hst
    | deed d =>
      obtain rfl := Option.some.inj taken
      exact act_feeds h d
    | pass now =>
      obtain rfl := Option.some.inj taken
      exact ⟨h, quiet nofun⟩
    | work t =>
      by_cases feed : ∃ k, t = .feed k
      · obtain ⟨number, rfl⟩ := feed
        obtain ⟨f, -, hs⟩ := runs_feed taken
        obtain ⟨asks, task, -, rfl⟩ := feed_turn hs
        refine ⟨h, fun k history shows => quiet nofun k history ?_⟩
        exact feedShows_same (feedShows_modify shows number ({ · with task }) fun _ => rfl) rfl
      · obtain ⟨hfeeds, hregistry, -⟩ := task_aside taken fun k hk => feed ⟨k, hk⟩
        refine ⟨feedsByKind_same h hregistry, fun k history shows => quiet nofun k history ?_⟩
        exact feedShows_same shows hfeeds

end Turns

/-! ## Along a journey -/

section Journeys

variable {s₀ s₁ s : Client} {past trail : Trail} {k : Nat}

lemma fresh_byKind (c : Config) (observers : List Observer) :
    FeedsByKind (Client.fresh c observers).hub := by
  have none : FeedsByKind (.fresh c.codec c.busLimit) := ⟨_, represents_empty, nofun⟩
  unfold Client.fresh
  split
  · exact none
  · exact feedsByKind_same none rfl

lemma journey_byKind (h : FeedsByKind s₀.hub) (j : Journey s₀ trail s) : FeedsByKind s.hub := by
  induction j with
  | start => exact h
  | step choice past taken ih => exact (next_feeds ih taken).1

lemma journey_shows (h : FeedsByKind s₀.hub) (start : FeedShows k s₀.hub [])
    (j : Journey s₀ trail s) : ∃ history, FedAlong k trail history ∧ FeedShows k s.hub history := by
  induction j with
  | start => exact ⟨[], .start, start⟩
  | step choice past taken ih =>
    obtain ⟨history, along, shows⟩ := ih
    obtain ⟨inputs, reaches, shows'⟩ := (next_feeds (journey_byKind h past) taken).2 k history shows
    exact ⟨_, .step along reaches, shows'⟩

/-- Whenever a feed is attached, its readings follow the history that the kinds of the dispatched
messages and the snapshots of its owner make up from then on. -/
theorem attached_feed_follows {c : Config} {observers : List Observer} {category : MetricsCategory}
    {refresh : Duration} (before : Journey (.fresh c observers) past s₁) (held : s₁.hub.handles ≠ 0)
    (j : Journey (act s₁ (.attachFeed category refresh)) trail s) :
    ∃ f history, s.hub.feeds[s₁.hub.feeds.length]? = some f ∧
      FedAlong s₁.hub.feeds.length trail history ∧ ReadingLaw f history := by
  have byKind := journey_byKind (fresh_byKind c observers) before
  obtain ⟨subscriptions, attached⟩ := attach_starting (s := s₁) category refresh held
  have start : FeedShows s₁.hub.feeds.length (act s₁ (.attachFeed category refresh)).hub [] :=
    ⟨_, attached, rfl⟩
  obtain ⟨history, along, f, hf, reads⟩ := journey_shows (act_feeds byKind _).1 start j
  exact ⟨f, history, hf, along, reading_law reads⟩

end Journeys

end SteadyLink.Proofs
