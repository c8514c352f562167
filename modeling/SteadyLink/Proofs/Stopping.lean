import SteadyLink.Proofs.Commands
import SteadyLink.Proofs.Reconnects

/-!
# Stopping

What a request to stop leads to. The session, the attempt or the wait that it finds comes to an end,
nothing begins before the next request to start, and meanwhile commands only join the queue.
-/

namespace SteadyLink.Proofs

open Supervisor

/-- A request to stop that finds an attempt, a session or a wait. -/
structure IsStop (o : Occurrence) : Prop where
  asked : o.stimulus = .mail (some .stop)
  found : o.before.state = .connecting ∨ o.before.state = .opened ∨ o.before.state = .retrying

/-- No request to start is taken. -/
def Unstarted (h : History) : Prop := ∀ o ∈ h, o.stimulus ≠ .mail (some .start)

instance (h : History) : Decidable (Unstarted h) :=
  inferInstanceAs (Decidable (∀ o ∈ h, o.stimulus ≠ .mail (some .start)))

/-- Nothing goes on, and nothing will before a request to start; the last session may still be shut
down. -/
def IsStill (p : Phase) : Prop :=
  p = .idle ∨ p = .exited ∨ ∃ session giveUpAt, p = .closing session giveUpAt .idle

/-- The turns of a supervisor that was stopped. -/
inductive StillTurn (now : Instant) (s : Supervisor) : Stimulus → Turn → Prop
  | keeps (e : Envelope) (u : Turn) (idle : s.phase = .idle)
      (queued : Queued now ⟨s.accepted + 1, e⟩ { s with accepted := s.accepted + 1 } u) :
    StillTurn now s (.mail (some (.send e))) u
  | ignores (idle : s.phase = .idle) : StillTurn now s (.mail (some .stop)) (s, [])
  | leaves (idle : s.phase = .idle) :
    StillTurn now s (.mail none) ({ s with phase := .exited }, [.began .exit])
  | ends (session : Nat) (giveUpAt : Option Instant) (stimulus : Stimulus)
      (phase : s.phase = .closing session giveUpAt .idle)
      (finished : CloseEnded now giveUpAt stimulus) :
    StillTurn now s stimulus
      ({ s with state := .idle, phase := .idle },
        [.drop session, .moved .closing .idle, .began .idle])

/-- The command that a turn takes from the mailbox, as it waits in the queue. -/
def Occurrence.post? (o : Occurrence) : Option (Pending Command) :=
  (takenEnvelope? o.stimulus).map fun e => ⟨⟨o.before.accepted + 1, e⟩, o.now⟩

def posts (h : History) : List (Pending Command) := h.filterMap Occurrence.post?

/-- The commands that are given up, each with the cause. -/
def evictions (es : List Effect) : List (Command × Eviction) :=
  es.filterMap fun e =>
    match e with
    | .evicted command cause => some (command, cause)
    | _ => none

/-- Items join a queue in order. To make room for them the oldest ones are given up, and no more of
them than must be; all others stay as they are. -/
inductive Joined (q : CommandQueue Command) (new : List (Pending Command)) :
    List (Command × Eviction) → CommandQueue Command → Prop
  | intro (old kept : List (Pending Command)) (items : q.items ++ new = old ++ kept)
      (least : old.length = (q.items ++ new).length - q.capacity) :
    Joined q new (old.map fun item => (item.command, .overflow)) { q with items := kept }

/-- A deal that does nothing but end a session. -/
def IsFarewell (deal : Deal) : Prop :=
  ∃ session, deal = .on session .closeBegun ∨ deal = .on session .closeEnded ∨
    deal = .on session .dropped

/-- What a request to stop has led to, as long as no request to start is taken. -/
structure Stopped (c : Config) (o : Occurrence) (since : History) (s : Supervisor) : Prop where
  still : IsStill s.phase
  /-- There are two transitions, of which the second waits for the shutdown of a session. -/
  moved : (s.state = .idle ∧
      moves (effects (o :: since)) = [(o.before.state, .closing), (.closing, .idle)]) ∨
    since = [] ∧ o.before.state = .opened ∧ moves (effects (o :: since)) = [(.opened, .closing)] ∧
      ∃ session giveUpAt, s.phase = .closing session giveUpAt .idle ∧
        ∀ now draw, (∀ limit, giveUpAt = some limit → limit ≤ now) →
          ∃ t, s.step c now draw .closeGivenUp = some t
  /-- No session is called for, written to or read. -/
  farewells : ∀ deal ∈ transportLog (o :: since), IsFarewell deal
  undispatched : ∀ e, .dispatch e ∉ effects (o :: since)
  /-- Neither the answer to a call for a session nor the end of a wait is taken. -/
  unanswered : ∀ p ∈ since, (∃ request, p.stimulus = .mail request) ∨
    p.stimulus = .closeFinished ∨ p.stimulus = .closeGivenUp
  queue : Joined o.before.queue (posts since) (evictions (effects (o :: since))) s.queue

section Queues

variable {q q' q'' : CommandQueue Command} {new new' : List (Pending Command)}
  {gone gone' : List (Command × Eviction)}

lemma posts_append (g h : History) : posts (g ++ h) = posts g ++ posts h :=
  List.filterMap_append

lemma evictions_append (es fs : List Effect) :
    evictions (es ++ fs) = evictions es ++ evictions fs :=
  List.filterMap_append

lemma joined_none (h : q.items.length ≤ q.capacity) : Joined q [] [] q := by
  refine Joined.intro [] q.items (List.append_nil _) ?_
  rw [List.append_nil, List.length_nil]
  omega

/-- Items that join one after another might have joined at once. -/
lemma joined_trans (h : Joined q new gone q') (h' : Joined q' new' gone' q'') :
    Joined q (new ++ new') (gone ++ gone') q'' := by
  cases h with
  | intro old kept items least =>
    cases h' with
    | intro old' kept' items' least' =>
      have hitems : kept ++ new' = old' ++ kept' := items'
      have hleast : old'.length = (kept ++ new').length - q.capacity := least'
      have hcount := congrArg List.length items
      simp only [List.length_append] at hcount hleast least
      rw [← List.map_append]
      refine Joined.intro (old ++ old') kept' ?_ ?_
      · rw [← List.append_assoc, items, List.append_assoc, hitems, List.append_assoc]
      · simp only [List.length_append]
        omega

lemma queued_joined {now : Instant} {command : Command} {s s' : Supervisor} {es : List Effect}
    (hleast : 1 ≤ s.queue.capacity) (hlength : s.queue.items.length ≤ s.queue.capacity)
    (h : Queued now command s (s', es)) :
    Joined s.queue [⟨command, now⟩] (evictions es) s'.queue := by
  cases h with
  | fits room =>
    refine Joined.intro [] _ rfl ?_
    rw [List.length_append, List.length_singleton, List.length_nil]
    rcases room with hroom | hempty
    · omega
    · rw [hempty, List.length_nil]
      omega
  | evicts old rest items full =>
    refine Joined.intro [old] _ ?_ ?_
    · rw [items]
      rfl
    · rw [List.length_append, List.length_singleton, List.length_singleton]
      omega

end Queues

section Turns

variable {c : Config} {now : Instant} {draw : Nat} {s s' : Supervisor} {es : List Effect}

/-- A supervisor that was stopped only keeps what is sent, and comes to the end of its shutdown. -/
theorem turned_still {stimulus : Stimulus} (hp : IsStill s.phase)
    (h : Turned c now draw s stimulus (s', es)) (hstart : stimulus ≠ .mail (some .start)) :
    StillTurn now s stimulus (s', es) := by
  rcases or_assoc.mpr hp with hp | ⟨session, giveUpAt, hp⟩
  case inr =>
    obtain ⟨finished, fs, rfl, ended⟩ := turned_from_closing hp h
    cases ended with
    | rests => exact StillTurn.ends session giveUpAt stimulus hp finished
  have idle (hf : IsParked s.phase ∨ IsUnconnected s.phase) : s.phase = .idle := by
    rcases hp with hp | hp
    · exact hp
    · rw [hp] at hf
      rcases hf with (hf | hf) | hf | ⟨deadline, hf⟩ | ⟨wakeAt, hf⟩ <;> cases hf
  have away {p : Phase} (phase : s.phase = p) (hi : p ≠ .idle) (hx : p ≠ .exited) :
      StillTurn now s stimulus (s', es) := by
    rcases hp with hp | hp
    · exact absurd (phase.symm.trans hp) hi
    · exact absurd (phase.symm.trans hp) hx
  cases h with
  | starts => exact absurd rfl hstart
  | ignores request unasked =>
    rcases unasked with ⟨hf, rfl⟩ | ⟨-, rfl⟩ | ⟨-, rfl⟩
    · exact StillTurn.ignores (idle (Or.inl hf))
    · exact absurd rfl hstart
    · exact absurd rfl hstart
  | keeps e u free queued => exact StillTurn.keeps e _ (idle free) queued
  | leaves parked => exact StillTurn.leaves (idle (Or.inl parked))
  | calls phase => exact away phase nofun nofun
  | cancels request after u unconnected =>
    rcases unconnected with phase | ⟨deadline, phase⟩ | ⟨wakeAt, phase⟩ <;>
      exact away phase nofun nofun
  | opens deadline u phase => exact away phase nofun nofun
  | fails deadline stimulus e u phase => exact away phase nofun nofun
  | flushesOn session item sent u phase => exact away phase nofun nofun
  | loses stimulus session e u v interrupted =>
    cases interrupted with
    | flushing session item sent e phase => exact away phase nofun nofun
    | receiving session ticker e phase => exact away phase nofun nofun
    | sending session ticker command e u phase => exact away phase nofun nofun
    | pinging session ticker e phase => exact away phase nofun nofun
  | shuts session ticker stimulus after notes phase => exact away phase nofun nofun
  | skipsFrame session ticker f e phase => exact away phase nofun nofun
  | dispatches session ticker f e phase => exact away phase nofun nofun
  | sends session ticker e phase => exact away phase nofun nofun
  | pings session ticker next phase => exact away phase nofun nofun
  | overruns session ticker phase => exact away phase nofun nofun
  | sent session ticker command phase => exact away phase nofun nofun
  | pinged session ticker phase => exact away phase nofun nofun
  | wakes wakeAt phase => exact away phase nofun nofun
  | closes session giveUpAt stimulus after u phase => exact away phase nofun nofun

lemma closeEnded_farewell {giveUpAt : Option Instant} {stimulus : Stimulus} {session : Nat}
    (h : CloseEnded now giveUpAt stimulus) (hp : heldSession? s.phase = some session) :
    ∀ deal ∈ outcomes s stimulus, IsFarewell deal := by
  obtain ⟨ds, hds, rfl | rfl⟩ := closeEnded_deals h hp
  · rw [hds]
    exact nofun
  · rw [hds]
    simp [IsFarewell]

lemma outcomes_mail (s : Supervisor) (request : Option Control) :
    outcomes s (.mail request) = [] :=
  outcomes_none (by simp) rfl

lemma stillTurn_farewell {stimulus : Stimulus} (h : StillTurn now s stimulus (s', es)) :
    ∀ deal ∈ turnDeals s stimulus es s', IsFarewell deal := by
  unfold turnDeals
  cases h with
  | keeps e u idle queued =>
    have hphase := queued_phase queued
    rw [outcomes_mail, queued_dealless queued, hphase]
    show ∀ deal ∈ awaited s.phase, IsFarewell deal
    rw [idle]
    exact nofun
  | ignores idle =>
    rw [outcomes_mail, idle]
    exact nofun
  | leaves idle =>
    rw [outcomes_mail]
    exact nofun
  | ends session giveUpAt stimulus phase finished =>
    have hout := closeEnded_farewell finished (by rw [phase]; rfl : _ = some session)
    intro deal hd
    rcases List.mem_append.mp hd with hd | hd
    · rcases List.mem_append.mp hd with hd | hd
      · exact hout deal hd
      · have hdeal : deal = .on session .dropped := by simpa [effectDeal?] using hd
        exact ⟨session, Or.inr (Or.inr hdeal)⟩
    · cases hd

lemma stillTurn_undispatched {stimulus : Stimulus} (h : StillTurn now s stimulus (s', es))
    (e : Envelope) : .dispatch e ∉ es := by
  cases h with
  | keeps e u idle queued => cases queued <;> simp
  | _ => simp

lemma stillTurn_stimulus {stimulus : Stimulus} (h : StillTurn now s stimulus (s', es)) :
    (∃ request, stimulus = .mail request) ∨ stimulus = .closeFinished ∨
      stimulus = .closeGivenUp := by
  cases h with
  | ends session giveUpAt stimulus phase finished =>
    rcases finished with rfl | ⟨rfl, -⟩
    · exact Or.inr (Or.inl rfl)
    · exact Or.inr (Or.inr rfl)
  | _ => exact Or.inl ⟨_, rfl⟩

lemma stillTurn_joined (draw : Nat) {stimulus : Stimulus} (hleast : 1 ≤ s.queue.capacity)
    (hlength : s.queue.items.length ≤ s.queue.capacity)
    (h : StillTurn now s stimulus (s', es)) :
    Joined s.queue (posts [⟨s, now, draw, stimulus, es, s'⟩]) (evictions es) s'.queue := by
  cases h with
  | keeps e u idle queued =>
    exact queued_joined (s := { s with accepted := s.accepted + 1 }) hleast hlength queued
  | ignores => exact joined_none hlength
  | leaves => exact joined_none hlength
  | ends session giveUpAt stimulus phase finished =>
    rcases finished with rfl | ⟨rfl, -⟩
    · exact joined_none hlength
    · exact joined_none hlength

/-- The request ends what it finds. -/
theorem stop_stopped (ha : Aligned s)
    (found : s.state = .connecting ∨ s.state = .opened ∨ s.state = .retrying)
    (hlength : s.queue.items.length ≤ s.queue.capacity)
    (h : Turned c now draw s (.mail (some .stop)) (s', es)) :
    Stopped c ⟨s, now, draw, .mail (some .stop), es, s'⟩ [] s' := by
  have unparked : ¬ IsParked s.phase := by
    rintro (hp | hp)
    · rw [ha .idle (by rw [hp]; rfl)] at found
      simp at found
    · rw [ha .terminal (by rw [hp]; rfl)] at found
      simp at found
  have hclosed := turned_asked h CloseAsked.stop unparked
  have farewells (hdeals : ∀ deal ∈ turnDeals s (.mail (some .stop)) es s', IsFarewell deal) :
      ∀ deal ∈ transportLog [⟨s, now, draw, .mail (some .stop), es, s'⟩], IsFarewell deal := by
    simpa [transportLog] using hdeals
  cases hclosed with
  | cancels u unconnected ended =>
    cases ended with
    | rests =>
      have hdeals : turnDeals s (.mail (some .stop)) [.moved s.state .closing, .began .closing,
          .moved .closing .idle, .began .idle] { s with state := .idle, phase := .idle } = [] := by
        unfold turnDeals
        rw [outcomes_mail]
        rfl
      refine ⟨Or.inl rfl, Or.inl ⟨rfl, rfl⟩, farewells ?_, by simp, by simp, joined_none hlength⟩
      exact hdeals ▸ fun deal hd => absurd hd List.not_mem_nil
  | shuts session ticker phase =>
    have hopened : s.state = .opened := ha .opened (by simp only [phase]; rfl)
    refine ⟨Or.inr (Or.inr ⟨session, _, rfl⟩), Or.inr ⟨rfl, hopened, rfl, session, _, rfl, ?_⟩,
      farewells ?_, by simp, by simp, joined_none hlength⟩
    · exact fun now draw hover => step_gives_up rfl hover
    · unfold turnDeals
      rw [outcomes_mail]
      intro deal hd
      have hdeal : .on session .closeBegun = deal := by simpa [effectDeal?, awaited] using hd
      exact ⟨session, Or.inl hdeal.symm⟩

lemma stillTurn_moved {stimulus : Stimulus} (h : StillTurn now s stimulus (s', es)) :
    (s.phase = .idle ∧ moves es = [] ∧ s'.state = s.state ∧ IsStill s'.phase) ∨
      (∃ session giveUpAt, s.phase = .closing session giveUpAt .idle) ∧
        moves es = [(.closing, .idle)] ∧ s'.state = .idle ∧ s'.phase = .idle := by
  cases h with
  | keeps e u idle queued =>
    have hphase := (queued_phase queued).trans idle
    have hes : moves es = [] := by cases queued <;> rfl
    exact Or.inl ⟨idle, hes, (queued_sameCounts queued).state, Or.inl hphase⟩
  | ignores idle => exact Or.inl ⟨idle, rfl, rfl, Or.inl idle⟩
  | leaves idle => exact Or.inl ⟨idle, rfl, rfl, Or.inr (Or.inl rfl)⟩
  | ends session giveUpAt stimulus phase finished =>
    exact Or.inr ⟨⟨session, giveUpAt, phase⟩, rfl, rfl, rfl⟩

/-- Every turn that follows leaves things as they are, or brings them to rest. -/
theorem stopped_turn {o : Occurrence} {since : History} {stimulus : Stimulus}
    (hs : Stopped c o since s) (ha : Aligned s) (hkept : QueueKept c s)
    (h : StillTurn now s stimulus (s', es)) :
    Stopped c o (since ++ [⟨s, now, draw, stimulus, es, s'⟩]) s' := by
  have heffects : effects (o :: (since ++ [⟨s, now, draw, stimulus, es, s'⟩])) =
      effects (o :: since) ++ es := by
    rw [← List.cons_append, effects_append, effects_singleton]
  have hleast : 1 ≤ s.queue.capacity := by
    rw [hkept.capacity]
    exact Nat.le_max_right _ 1
  constructor
  · rcases stillTurn_moved h with ⟨-, -, -, hstill⟩ | ⟨-, -, -, hidle⟩
    · exact hstill
    · exact Or.inl hidle
  · rw [heffects, moves_append]
    rcases stillTurn_moved h with ⟨hidle, hmoves, hstate, -⟩ | ⟨⟨k, limit, hp⟩, hmoves, hstate, -⟩
    · rcases hs.moved with ⟨hidle', hall⟩ | ⟨-, -, -, k, limit, hp, -⟩
      · rw [hmoves, List.append_nil]
        exact Or.inl ⟨hstate.trans hidle', hall⟩
      · cases hidle.symm.trans hp
    · rcases hs.moved with ⟨hidle, -⟩ | ⟨-, hopened, hall, -⟩
      · cases hidle.symm.trans (ha .closing (by rw [hp]; rfl))
      · rw [hall, hmoves, hopened]
        exact Or.inl ⟨hstate, rfl⟩
  · intro deal hd
    rw [← List.cons_append, transportLog_append] at hd
    rcases List.mem_append.mp hd with hd | hd
    · exact hs.farewells deal hd
    · exact stillTurn_farewell h deal hd
  · intro e hd
    rw [heffects] at hd
    rcases List.mem_append.mp hd with hd | hd
    · exact hs.undispatched e hd
    · exact stillTurn_undispatched h e hd
  · intro p hp
    rcases List.mem_append.mp hp with hp | hp
    · exact hs.unanswered p hp
    · rw [List.mem_singleton.mp hp]
      exact stillTurn_stimulus h
  · have hjoined := stillTurn_joined draw hleast hkept.length_le h
    rw [heffects, posts_append, evictions_append]
    exact joined_trans hs.queue hjoined

end Turns

/-- From a request to stop to the next request to start nothing goes on. -/
theorem run_stopped {c : Config} {h since : History} {o : Occurrence} {s : Supervisor}
    (r : Run c (h ++ o :: since) s) (stop : IsStop o) (unstarted : Unstarted since) :
    Stopped c o since s := by
  rw [List.append_cons] at r
  obtain ⟨s₁, r₁, hc⟩ := course_split (h ++ [o]) since r
  obtain ⟨ha, ht⟩ := run_occurrence r₁ (List.mem_append_right h List.mem_cons_self)
  have hkept := run_queueKept r₁
  have hstop : Stopped c o [] s₁ := by
    have hlength := (hkept.2 o (List.mem_append_right h List.mem_cons_self)).length_le
    rw [(course_last r₁).2]
    obtain ⟨s, now, draw, stimulus, es, s'⟩ := o
    obtain ⟨rfl, found⟩ := stop
    exact stop_stopped ha found hlength ht
  refine (course_invariant (P := fun since s => Unstarted since →
    Stopped c o since s ∧ QueueKept c s) (course_aligned (fresh_aligned c) r₁) ?_ ?_ hc unstarted).1
  · exact fun _ => ⟨hstop, hkept.1⟩
  · intro g s now draw stimulus s' es ih ha ht hg
    obtain ⟨hs, hq⟩ := ih fun p hp => hg p (List.mem_append_left _ hp)
    have hstart := hg _ (List.mem_append_right g List.mem_cons_self)
    exact ⟨stopped_turn hs ha hq (turned_still hs.still ht hstart), turned_queueKept hq ht⟩

/-! What was pending -/

/-- An answer to a call for a session. -/
def IsAnswer (stimulus : Stimulus) : Prop := stimulus = .connected ∨ isFailure stimulus = true

section Pending

variable {c : Config} {now : Instant} {draw : Nat} {s s' : Supervisor} {es : List Effect}

lemma turned_answer {stimulus : Stimulus} (h : Turned c now draw s stimulus (s', es))
    (ha : IsAnswer stimulus) : ∃ deadline, s.phase = .attempting deadline := by
  rcases ha with rfl | hf
  · cases h with
    | opens deadline u phase => exact ⟨deadline, phase⟩
    | fails deadline stimulus e u phase => exact ⟨deadline, phase⟩
    | loses stimulus session e u v interrupted => cases interrupted
    | shuts session ticker stimulus after notes phase cause => cases cause
    | closes session giveUpAt stimulus after u phase finished =>
      rcases finished with hc | ⟨hc, -⟩ <;> cases hc
  · exact turned_failing h hf

lemma turned_elapsed (h : Turned c now draw s .timerElapsed (s', es)) :
    ∃ wakeAt, s.phase = .retrying wakeAt := by
  cases h with
  | wakes wakeAt phase => exact ⟨wakeAt, phase⟩
  | fails deadline stimulus e u phase failure => cases failure
  | loses stimulus session e u v interrupted => cases interrupted
  | shuts session ticker stimulus after notes phase cause => cases cause
  | closes session giveUpAt stimulus after u phase finished =>
    rcases finished with hc | ⟨hc, -⟩ <;> cases hc

/-- An attempt under way was under way before, or has been made by a call of the transport. -/
lemma turned_attempting {stimulus : Stimulus} {deadline : Option Instant}
    (h : Turned c now draw s stimulus (s', es)) (hp : s'.phase = .attempting deadline) :
    .connect ∈ es ∨ s.phase = .attempting deadline := by
  have resting (hr : IsResting s'.phase) : .connect ∈ es ∨ s.phase = .attempting deadline := by
    rw [hp] at hr
    rcases hr with (hr | hr) | hr | ⟨wakeAt, hr⟩ <;> cases hr
  have flushed {t : Supervisor} {session sent : Nat} {fs : List Effect}
      (hf : FlushTurn c now session sent t (s', fs)) :
      .connect ∈ es ∨ s.phase = .attempting deadline := by
    cases hf <;> cases hp
  cases h with
  | calls => exact Or.inl List.mem_cons_self
  | ignores => exact Or.inr hp
  | skipsFrame => exact Or.inr hp
  | dispatches => exact Or.inr hp
  | keeps e u free queued => exact Or.inr ((queued_phase queued).symm.trans hp)
  | cancels request after u unconnected asked ended => exact resting (endTurn_resting ended)
  | opens deadline u phase flush => exact flushed flush
  | fails deadline stimulus e u phase failure retried => exact resting (retryTurn_resting retried)
  | flushesOn session item sent u phase flush => exact flushed flush
  | loses stimulus session e u v interrupted retried => exact resting (retryTurn_resting retried)
  | closes session giveUpAt stimulus after u phase finished ended =>
    exact resting (endTurn_resting ended)
  | _ => cases hp

/-- The answer to a call is one to a call since then, and the wait that ends is one announced since
then. -/
structure Renewed (since : History) (s : Supervisor) : Prop where
  attempt : ∀ deadline, s.phase = .attempting deadline → .connect ∈ effects since
  wait : ∀ wakeAt, s.phase = .retrying wakeAt → announcements (effects since) ≠ []

lemma turned_renewed {since : History} {stimulus : Stimulus} (hs : Renewed since s)
    (h : Turned c now draw s stimulus (s', es)) :
    Renewed (since ++ [⟨s, now, draw, stimulus, es, s'⟩]) s' := by
  constructor
  · intro deadline hp
    rw [effects_append, effects_singleton]
    rcases turned_attempting h hp with hcall | hbefore
    · exact List.mem_append_right _ hcall
    · exact List.mem_append_left _ (hs.attempt deadline hbefore)
  · intro wakeAt hp hnone
    rw [effects_append, effects_singleton, announcements_append, List.append_eq_nil_iff] at hnone
    cases turned_passage h with
    | around entered notes timer => exact hs.wait wakeAt (timer wakeAt hp) hnone.1
    | through source entered passed =>
      cases passed with
      | waits allowed phase state notes =>
        have hes := announcements_retryNotes es
        rw [notes] at hes
        cases hes.symm.trans hnone.2
      | givesUp spent phase => cases phase.symm.trans hp

end Pending

/-- Nothing that was pending when the request came is seen later: whatever is answered was asked
for, and whatever wait ends was announced, since then. -/
theorem run_renewed {c : Config} {h since later : History} {o p : Occurrence} {s : Supervisor}
    (r : Run c (h ++ o :: (since ++ p :: later)) s) (stop : IsStop o) :
    (IsAnswer p.stimulus → .connect ∈ effects since) ∧
      (p.stimulus = .timerElapsed → announcements (effects since) ≠ []) := by
  have hsplit : h ++ o :: (since ++ p :: later) = (h ++ [o]) ++ since ++ p :: later := by simp
  rw [hsplit] at r
  obtain ⟨s₂, r₂, hc₂⟩ := course_split ((h ++ [o]) ++ since) (p :: later) r
  obtain ⟨s₁, r₁, hc₁⟩ := course_split (h ++ [o]) since r₂
  have hnone : Unstarted [] := fun p hp => absurd hp List.not_mem_nil
  have hstill : IsStill s₁.phase := (run_stopped r₁ stop hnone).still
  have hrenewed : Renewed since s₂ := by
    refine course_invariant (P := Renewed) (course_aligned (fresh_aligned c) r₁) ?_ ?_ hc₁
    · constructor
      · intro deadline hp
        rcases hstill with hi | hi | ⟨session, giveUpAt, hi⟩ <;> cases hp.symm.trans hi
      · intro wakeAt hp
        rcases hstill with hi | hi | ⟨session, giveUpAt, hi⟩ <;> cases hp.symm.trans hi
    · intro g s now draw stimulus s' es ih _ ht
      exact turned_renewed ih ht
  have ht := (run_occurrence (o := p) r (by simp)).2
  rw [course_head hc₂] at ht
  constructor
  · intro ha
    obtain ⟨deadline, hp⟩ := turned_answer ht ha
    exact hrenewed.attempt deadline hp
  · intro he
    rw [he] at ht
    obtain ⟨wakeAt, hp⟩ := turned_elapsed ht
    exact hrenewed.wait wakeAt hp

/-- A request to stop ends the session, the attempt or the wait that it finds, and nothing of what
was pending then is seen again. -/
theorem stop_cancels {c : Config} {h since : History} {o : Occurrence} {s : Supervisor}
    (r : Run c (h ++ o :: since) s) (stop : IsStop o) :
    (Unstarted since → Stopped c o since s) ∧
      ∀ between p later, since = between ++ p :: later →
        (IsAnswer p.stimulus → .connect ∈ effects between) ∧
          (p.stimulus = .timerElapsed → announcements (effects between) ≠ []) := by
  refine ⟨run_stopped r stop, ?_⟩
  rintro between p later rfl
  exact run_renewed r stop

/-- A client with room for one command. -/
def cramped : Config := { Config.standard with queueCapacity := 1 }

/-- A session is shut down, and then two commands are sent where there is room for one. -/
theorem stop_cancels_cramped :
    ∃ h o since s, Run cramped (h ++ o :: since) s ∧ IsStop o ∧ Unstarted since ∧
      ((Unstarted since → Stopped cramped o since s) ∧
        ∀ between p later, since = between ++ p :: later →
          (IsAnswer p.stimulus → .connect ∈ effects between) ∧
            (p.stimulus = .timerElapsed → announcements (effects between) ≠ [])) ∧
      moves (effects (o :: since)) = [(.opened, .closing), (.closing, .idle)] ∧
      evictions (effects (o :: since)) = [(⟨1, Envelope.ping⟩, .overflow)] ∧
      s.queue.items = [⟨⟨2, Envelope.ping⟩, 8⟩] := by
  have r₀ : Run cramped [] (.fresh cramped) := Course.start
  have r₁ := Course.turn 1 0 (.mail (some .start)) _ r₀ rfl
  have r₂ := Course.turn 2 0 .attemptBegun _ r₁ rfl
  have r₃ := Course.turn 3 0 .connected _ r₂ rfl
  have r₄ := Course.turn 4 0 (.mail (some .stop)) _ r₃ rfl
  have r₅ := Course.turn 5 0 .closeFinished _ r₄ rfl
  have r₆ := Course.turn 7 0 (.mail (some (.send Envelope.ping))) _ r₅ rfl
  have r₇ := Course.turn 8 0 (.mail (some (.send Envelope.ping))) _ r₆ rfl
  have r : Run cramped ([_, _, _] ++ _ :: [_, _, _]) _ := r₇
  exact ⟨_, _, _, _, r, ⟨rfl, Or.inr (Or.inl rfl)⟩, by decide,
    stop_cancels r ⟨rfl, Or.inr (Or.inl rfl)⟩, rfl, rfl, rfl⟩

end SteadyLink.Proofs
