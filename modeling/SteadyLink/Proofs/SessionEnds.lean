import SteadyLink.Proofs.Deadlines
import SteadyLink.Proofs.Sessions

/-!
# How sessions end

When a supervisor begins to shut a session down, how long that may take, and when a supervisor ends
without having done so.
-/

namespace SteadyLink.Proofs

open Supervisor

/-- A live session is asked to end: by a request to stop, by the end of all handles, or by a frame
that cannot be read on from. -/
def LeavesOpen (c : Config) (s : Supervisor) (stimulus : Stimulus) : Prop :=
  (∃ session ticker, s.phase = .serving session ticker) ∧
    (stimulus = .mail (some .stop) ∨ stimulus = .mail none ∨
      ∃ f e, stimulus = .received f ∧ c.codec.decode f = .error e ∧ e.isFatal = true)

/-- The effect begins the shutdown of a live session. -/
def IsShut (e : Effect) : Prop := (∃ session, e = .close session) ∨ e = .moved .opened .closing

section Shutting

variable {c : Config} {now : Instant} {draw : Nat} {s s' : Supervisor} {es fs : List Effect}

lemma retryTurn_unshut (h : RetryTurn c now draw s (s', es)) : ∀ e ∈ es, ¬ IsShut e := by
  cases h <;> simp [IsShut]

lemma endTurn_unshut {after : AfterClose} (h : EndTurn c now draw s after (s', es)) :
    ∀ e ∈ es, ¬ IsShut e := by
  cases h with
  | rests => simp [IsShut]
  | leaves => simp [IsShut]
  | retries u retried =>
    rw [List.forall_mem_cons]
    exact ⟨by simp [IsShut], retryTurn_unshut retried⟩

lemma flushNotes_unshut (sent : Nat) : ∀ e ∈ flushNotes sent, ¬ IsShut e := by
  intro e he
  unfold flushNotes at he
  by_cases h0 : sent = 0
  · simp [h0] at he
    simp [he, IsShut]
  · simp [h0] at he
    rcases he with rfl | rfl <;> simp [IsShut]

lemma unshut_append (h : ∀ e ∈ es, ¬ IsShut e) (h' : ∀ e ∈ fs, ¬ IsShut e) :
    ∀ e ∈ es ++ fs, ¬ IsShut e := by
  intro e he
  rcases List.mem_append.mp he with he | he
  · exact h e he
  · exact h' e he

lemma flushTurn_unshut {session sent : Nat} (h : FlushTurn c now session sent s (s', es)) :
    ∀ e ∈ es, ¬ IsShut e := by
  cases h with
  | writes => simp [IsShut]
  | serves => exact unshut_append (flushNotes_unshut sent) (by simp [IsShut])
  | crashes => exact unshut_append (flushNotes_unshut sent) (by simp [IsShut])

lemma queued_unshut {command : Command} (h : Queued now command s (s', es)) :
    ∀ e ∈ es, ¬ IsShut e := by
  cases h <;> simp [IsShut]

lemma interrupted_unshut {stimulus : Stimulus} {session : Nat} {e : TransportError}
    (h : Interrupted now s stimulus session e (s', es)) : ∀ e ∈ es, ¬ IsShut e := by
  cases h with
  | flushing => simp
  | receiving => simp
  | sending session ticker command e u phase queued => exact queued_unshut queued
  | pinging => simp

lemma not_leaves_phase {stimulus : Stimulus}
    (hp : ∀ session ticker, s.phase ≠ .serving session ticker) : ¬ LeavesOpen c s stimulus := by
  rintro ⟨⟨session, ticker, h⟩, -⟩
  exact hp session ticker h

lemma not_leaves_free {stimulus : Stimulus} (h : IsParked s.phase ∨ IsUnconnected s.phase) :
    ¬ LeavesOpen c s stimulus := by
  rintro ⟨⟨session, ticker, hp⟩, -⟩
  have hh := free_heldSession? h
  rw [hp] at hh
  cases hh

/-- A turn begins the shutdown of the session being served, or of none, and does so if it is asked
to. -/
theorem turned_shut {stimulus : Stimulus} (hs : Aligned s)
    (h : Turned c now draw s stimulus (s', es)) :
    ((∀ e ∈ es, ¬ IsShut e) ∧ ¬ LeavesOpen c s stimulus) ∨
      ∃ session notes, heldSession? s.phase = some session ∧ LeavesOpen c s stimulus ∧
        (∀ e ∈ notes, ¬ IsShut e) ∧
        es = notes ++ [.moved .opened .closing, .began .closing, .close session] := by
  cases h with
  | starts parked =>
    refine Or.inl ⟨?_, not_leaves_free (Or.inl parked)⟩
    simp [IsShut]
  | ignores request idle =>
    refine Or.inl ⟨by simp, ?_⟩
    rcases idle with ⟨hp, -⟩ | ⟨hp, -⟩ | ⟨-, rfl⟩
    · exact not_leaves_free (Or.inl hp)
    · exact not_leaves_free (Or.inr hp)
    · rintro ⟨-, h | h | ⟨f, e, h, -⟩⟩ <;> cases h
  | keeps envelope u free queued =>
    exact Or.inl ⟨queued_unshut queued, not_leaves_free free⟩
  | leaves parked =>
    refine Or.inl ⟨?_, not_leaves_free (Or.inl parked)⟩
    simp [IsShut]
  | calls phase =>
    refine Or.inl ⟨?_, not_leaves_phase (by rw [phase]; exact nofun)⟩
    simp [IsShut]
  | cancels request after u unconnected asked ended =>
    refine Or.inl ⟨?_, not_leaves_free (Or.inr unconnected)⟩
    have hstate : s.state ≠ .opened := by
      rcases unconnected with hp | ⟨deadline, hp⟩ | ⟨wakeAt, hp⟩
      · rw [hs .connecting (by rw [hp]; rfl)]
        exact nofun
      · rw [hs .connecting (by rw [hp]; rfl)]
        exact nofun
      · rw [hs .retrying (by rw [hp]; rfl)]
        exact nofun
    rw [List.forall_mem_cons, List.forall_mem_cons]
    exact ⟨by simp [IsShut, hstate], by simp [IsShut], endTurn_unshut ended⟩
  | opens deadline u phase flushed =>
    refine Or.inl ⟨?_, not_leaves_phase (by rw [phase]; exact nofun)⟩
    rw [List.forall_mem_cons]
    refine ⟨by simp [IsShut], unshut_append ?_ (flushTurn_unshut flushed)⟩
    simp [IsShut]
  | fails deadline stimulus e u phase failure retried =>
    refine Or.inl ⟨?_, not_leaves_phase (by rw [phase]; exact nofun)⟩
    rw [List.forall_mem_cons, List.forall_mem_cons]
    exact ⟨by simp [IsShut], by simp [IsShut], retryTurn_unshut retried⟩
  | flushesOn session item sent u phase flushed =>
    refine Or.inl ⟨?_, not_leaves_phase (by rw [phase]; exact nofun)⟩
    rw [List.forall_mem_cons]
    exact ⟨by simp [IsShut], flushTurn_unshut flushed⟩
  | loses stimulus session e u v interrupted retried =>
    refine Or.inl ⟨unshut_append (interrupted_unshut interrupted) ?_, ?_⟩
    · rw [List.forall_mem_cons, List.forall_mem_cons, List.forall_mem_cons]
      exact ⟨by simp [IsShut], by simp [IsShut], by simp [IsShut], retryTurn_unshut retried⟩
    · cases interrupted with
      | flushing session item sent e phase =>
        exact not_leaves_phase (by rw [phase]; exact nofun)
      | receiving => rintro ⟨-, h | h | ⟨f, e, h, -⟩⟩ <;> cases h
      | sending session ticker command e u phase queued =>
        exact not_leaves_phase (by rw [phase]; exact nofun)
      | pinging session ticker e phase => exact not_leaves_phase (by rw [phase]; exact nofun)
  | shuts session ticker stimulus after notes phase cause =>
    refine Or.inr ⟨session, notes, by rw [phase]; rfl, ⟨⟨session, ticker, phase⟩, ?_⟩, ?_, rfl⟩
    · cases cause with
      | asked request after asked =>
        cases asked with
        | stop => exact Or.inl rfl
        | lastHandle => exact Or.inr (Or.inl rfl)
      | unreadable f e unread fatal => exact Or.inr (Or.inr ⟨f, e, rfl, unread, fatal⟩)
    · cases cause with
      | asked => simp
      | unreadable => simp [IsShut]
  | skipsFrame session ticker f e phase unread harmless =>
    refine Or.inl ⟨by simp [IsShut], ?_⟩
    rintro ⟨-, h | h | ⟨g, e', h, hread, hfatal⟩⟩
    · cases h
    · cases h
    · obtain rfl := Stimulus.received.inj h
      rw [unread] at hread
      obtain rfl := Except.error.inj hread
      rw [harmless] at hfatal
      cases hfatal
  | dispatches session ticker f e phase read =>
    refine Or.inl ⟨by simp [IsShut], ?_⟩
    rintro ⟨-, h | h | ⟨g, e', h, hread, -⟩⟩
    · cases h
    · cases h
    · obtain rfl := Stimulus.received.inj h
      rw [read] at hread
      cases hread
  | sends =>
    refine Or.inl ⟨by simp [IsShut], ?_⟩
    rintro ⟨-, h | h | ⟨f, e, h, -⟩⟩ <;> cases h
  | pings =>
    refine Or.inl ⟨by simp [IsShut], ?_⟩
    rintro ⟨-, h | h | ⟨f, e, h, -⟩⟩ <;> cases h
  | overruns =>
    refine Or.inl ⟨by simp [IsShut], ?_⟩
    rintro ⟨-, h | h | ⟨f, e, h, -⟩⟩ <;> cases h
  | sent session ticker command phase =>
    exact Or.inl ⟨by simp [IsShut], not_leaves_phase (by rw [phase]; exact nofun)⟩
  | pinged session ticker phase =>
    exact Or.inl ⟨by simp [IsShut], not_leaves_phase (by rw [phase]; exact nofun)⟩
  | wakes wakeAt phase due =>
    exact Or.inl ⟨by simp [IsShut], not_leaves_phase (by rw [phase]; exact nofun)⟩
  | closes session giveUpAt stimulus after u phase finished ended =>
    refine Or.inl ⟨?_, not_leaves_phase (by rw [phase]; exact nofun)⟩
    rw [List.forall_mem_cons]
    exact ⟨by simp [IsShut], endTurn_unshut ended⟩

/-- A session is closed exactly if it is served and asked to end. -/
theorem turned_closes_iff {stimulus : Stimulus} (hs : Aligned s)
    (h : Turned c now draw s stimulus (s', es)) :
    (.moved .opened .closing ∈ es ↔ LeavesOpen c s stimulus) ∧
      ∀ k, .close k ∈ es ↔ heldSession? s.phase = some k ∧ LeavesOpen c s stimulus := by
  rcases turned_shut hs h with ⟨hes, hstays⟩ | ⟨session, notes, hheld, hleaves, hnotes, rfl⟩
  · refine ⟨⟨fun hm => absurd (Or.inr rfl) (hes _ hm), fun hl => absurd hl hstays⟩, ?_⟩
    intro k
    exact ⟨fun hm => absurd (Or.inl ⟨k, rfl⟩) (hes _ hm), fun hl => absurd hl.2 hstays⟩
  · refine ⟨⟨fun _ => hleaves, fun _ => by simp⟩, ?_⟩
    intro k
    constructor
    · intro hm
      rcases List.mem_append.mp hm with hm | hm
      · exact absurd (Or.inl ⟨k, rfl⟩) (hnotes _ hm)
      · simp only [List.mem_cons, reduceCtorEq, Effect.close.injEq, List.not_mem_nil, or_false,
          false_or] at hm
        rw [hm]
        exact ⟨hheld, hleaves⟩
    · rintro ⟨hk, -⟩
      rw [hheld] at hk
      obtain rfl := Option.some.inj hk
      simp

end Shutting

/-- A request to close, where there is something to be closed: an attempt under way or due, or the
session being served. -/
inductive Closed (c : Config) (now : Instant) (draw : Nat) (s : Supervisor) (after : AfterClose) :
    Turn → Prop
  | cancels (u : Turn) (unconnected : IsUnconnected s.phase)
      (ended : EndTurn c now draw { s with state := .closing } after u) :
    Closed c now draw s after (u.1, .moved s.state .closing :: .began .closing :: u.2)
  | shuts (session : Nat) (ticker : Option Ticker) (phase : s.phase = .serving session ticker) :
    Closed c now draw s after
      ({ s with
        state := .closing
        phase := .closing session (c.closeTimeout?.map fun limit => now + limit.nanos) after },
        [.moved .opened .closing, .began .closing, .close session])

section Asking

variable {c : Config} {now : Instant} {draw : Nat} {s : Supervisor}

lemma closeAsked_unique {request : Option Control} {after after' : AfterClose}
    (h : CloseAsked request after) (h' : CloseAsked request after') : after' = after := by
  cases h <;> cases h' <;> rfl

/-- Such a request is followed at once. -/
theorem turned_asked {request : Option Control} {after : AfterClose} {t : Turn}
    (h : Turned c now draw s (.mail request) t) (asked : CloseAsked request after)
    (unparked : ¬ IsParked s.phase) : Closed c now draw s after t := by
  cases h with
  | starts parked => exact absurd parked unparked
  | ignores request idle =>
    rcases idle with ⟨hp, -⟩ | ⟨-, rfl⟩ | ⟨-, rfl⟩
    · exact absurd hp unparked
    · cases asked
    · cases asked
  | keeps => cases asked
  | leaves parked => exact absurd parked unparked
  | cancels request after' u unconnected asked' ended =>
    obtain rfl := closeAsked_unique asked asked'
    exact Closed.cancels u unconnected ended
  | fails deadline stimulus e u phase failure => cases failure
  | loses stimulus session e u v interrupted => cases interrupted
  | shuts session ticker stimulus after' notes phase cause =>
    cases cause with
    | asked request after' asked' =>
      obtain rfl := closeAsked_unique asked asked'
      exact Closed.shuts session ticker phase
  | sends => cases asked
  | closes session giveUpAt stimulus after' u phase finished =>
    rcases finished with hf | ⟨hf, -⟩ <;> cases hf

end Asking

/-! The end of the clock -/

/-- The session is to be served at a time from which the clock cannot show the first heartbeat. -/
def BeyondClock (c : Config) (now : Instant) : Prop :=
  ∃ every, c.heartbeat? = some every ∧ Ticker.after? now every = none

/-- The supervisor takes a tick on which no other can follow. -/
def TakesLastTick (s : Supervisor) (stimulus : Stimulus) (now : Instant) : Prop :=
  stimulus = .heartbeatDue ∧ ∃ session ticker, s.phase = .serving session (some ticker) ∧
    Overruns ticker.period ticker.next now

section Crashes

variable {c : Config} {now : Instant} {draw : Nat} {s s' : Supervisor} {es : List Effect}

lemma retryTurn_unopened (h : RetryTurn c now draw s (s', es)) : .began .opened ∉ es := by
  cases h <;> simp

lemma endTurn_unopened {after : AfterClose} (h : EndTurn c now draw s after (s', es)) :
    .began .opened ∉ es := by
  cases h with
  | rests => simp
  | leaves => simp
  | retries u retried => simpa using retryTurn_unopened retried

lemma flushTurn_crashes {session sent : Nat} (h : FlushTurn c now session sent s (s', es)) :
    s'.phase = .crashed ↔ .began .opened ∈ es ∧ BeyondClock c now := by
  cases h with
  | writes => simp
  | serves ticker items first =>
    refine ⟨nofun, ?_⟩
    rintro ⟨-, every, hevery, hnone⟩
    cases first with
    | off off =>
      rw [off] at hevery
      cases hevery
    | after every' ticker interval shown =>
      rw [interval] at hevery
      obtain rfl := Option.some.inj hevery
      rw [shown] at hnone
      cases hnone
  | crashes every items interval unshown =>
    exact ⟨fun _ => ⟨by simp, every, interval, unshown⟩, fun _ => rfl⟩

lemma interrupted_unopened {stimulus : Stimulus} {session : Nat} {e : TransportError}
    (h : Interrupted now s stimulus session e (s', es)) : .began .opened ∉ es := by
  cases h with
  | flushing => simp
  | receiving => simp
  | sending session ticker command e u phase queued => cases queued <;> simp
  | pinging => simp

/-- A tick is taken when it is due: a ping is begun, or the clock cannot show the next tick. -/
lemma turned_tick (h : Turned c now draw s .heartbeatDue (s', es)) :
    ∃ session ticker, s.phase = .serving session (some ticker) ∧ ticker.next ≤ now ∧
      ((∃ next, ticker.tick? now = some next ∧
          s' = { s with phase := .pinging session (some next) } ∧
          es = [.write session none (c.frame none)]) ∨
        ticker.tick? now = none ∧ s' = { s with phase := .crashed } ∧ es = [.drop session]) := by
  cases h with
  | pings session ticker next phase due shown =>
    exact ⟨session, ticker, phase, of_decide_eq_true due, Or.inl ⟨next, shown, rfl, rfl⟩⟩
  | overruns session ticker phase due unshown =>
    exact ⟨session, ticker, phase, of_decide_eq_true due, Or.inr ⟨unshown, rfl, rfl⟩⟩
  | fails deadline stimulus e u phase failure => cases failure
  | loses stimulus session e u v interrupted => cases interrupted
  | shuts session ticker stimulus after notes phase cause => cases cause
  | closes session giveUpAt stimulus after u phase finished =>
    rcases finished with hf | ⟨hf, -⟩ <;> cases hf

/-- Beside the ticks, a turn ends in a crash exactly if it takes a session up to serve it and the
clock cannot show its first heartbeat. -/
lemma turned_opening_crashes {stimulus : Stimulus} (untimed : stimulus ≠ .heartbeatDue)
    (h : Turned c now draw s stimulus (s', es)) : s.phase ≠ .crashed ∧
      (s'.phase = .crashed ↔ .began .opened ∈ es ∧ BeyondClock c now) := by
  have not {P : Prop} (hc : s'.phase ≠ .crashed) (hes : .began .opened ∉ es) :
      s'.phase = .crashed ↔ .began .opened ∈ es ∧ P :=
    ⟨fun h => absurd h hc, fun h => absurd h.1 hes⟩
  have hphase {p : Phase} (hp : s.phase = p) (hc : p ≠ .crashed) : s.phase ≠ .crashed := by
    rw [hp]
    exact hc
  cases h with
  | starts parked => exact ⟨free_not_crashed (Or.inl parked), not nofun (by simp)⟩
  | ignores request idle =>
    have hc : s.phase ≠ .crashed := by
      rcases idle with ⟨hp, -⟩ | ⟨hp, -⟩ | ⟨⟨session, ticker, hp⟩, -⟩
      · exact free_not_crashed (Or.inl hp)
      · exact free_not_crashed (Or.inr hp)
      · exact hphase hp nofun
    exact ⟨hc, not hc (by simp)⟩
  | keeps envelope u free queued =>
    have hp := queued_phase queued
    have hes : .began .opened ∉ es := by cases queued <;> simp
    have hc := free_not_crashed free
    have hc' : s'.phase ≠ .crashed := by
      rw [hp]
      exact hc
    exact ⟨hc, not hc' hes⟩
  | leaves parked => exact ⟨free_not_crashed (Or.inl parked), not nofun (by simp)⟩
  | calls phase => exact ⟨hphase phase nofun, not nofun (by simp)⟩
  | cancels request after u unconnected asked ended =>
    refine ⟨free_not_crashed (Or.inr unconnected),
      not (resting_not_crashed (endTurn_resting ended)) ?_⟩
    simpa using endTurn_unopened ended
  | opens deadline u phase flushed =>
    refine ⟨hphase phase nofun, (flushTurn_crashes flushed).trans ?_⟩
    simp
  | fails deadline stimulus e u phase failure retried =>
    refine ⟨hphase phase nofun, not (resting_not_crashed (retryTurn_resting retried)) ?_⟩
    simpa using retryTurn_unopened retried
  | flushesOn session item sent u phase flushed =>
    refine ⟨hphase phase nofun, (flushTurn_crashes flushed).trans ?_⟩
    simp
  | loses stimulus session e u v interrupted retried =>
    have hc : s.phase ≠ .crashed := by
      cases interrupted with
      | flushing session item sent e phase => exact hphase phase nofun
      | receiving session ticker e phase => exact hphase phase nofun
      | sending session ticker command e u phase queued => exact hphase phase nofun
      | pinging session ticker e phase => exact hphase phase nofun
    refine ⟨hc, not (resting_not_crashed (retryTurn_resting retried)) ?_⟩
    simp [interrupted_unopened interrupted, retryTurn_unopened retried]
  | shuts session ticker stimulus after notes phase cause =>
    refine ⟨hphase phase nofun, not nofun ?_⟩
    cases cause <;> simp
  | skipsFrame session ticker f e phase =>
    exact ⟨hphase phase nofun, not (hphase phase nofun) (by simp)⟩
  | dispatches session ticker f e phase =>
    exact ⟨hphase phase nofun, not (hphase phase nofun) (by simp)⟩
  | sends session ticker e phase => exact ⟨hphase phase nofun, not nofun (by simp)⟩
  | pings => exact absurd rfl untimed
  | overruns => exact absurd rfl untimed
  | sent session ticker command phase => exact ⟨hphase phase nofun, not nofun (by simp)⟩
  | pinged session ticker phase => exact ⟨hphase phase nofun, not nofun (by simp)⟩
  | wakes wakeAt phase => exact ⟨hphase phase nofun, not nofun (by simp)⟩
  | closes session giveUpAt stimulus after u phase finished ended =>
    refine ⟨hphase phase nofun, not (resting_not_crashed (endTurn_resting ended)) ?_⟩
    simpa using endTurn_unopened ended

/-- A turn ends in a crash exactly if the clock cannot show a heartbeat: the first one of a session
that is taken up, or the one after a tick that is taken. -/
theorem turned_crashes_iff {stimulus : Stimulus} (h : Turned c now draw s stimulus (s', es)) :
    s.phase ≠ .crashed ∧ (s'.phase = .crashed ↔
      .began .opened ∈ es ∧ BeyondClock c now ∨ TakesLastTick s stimulus now) := by
  by_cases tick : stimulus = .heartbeatDue
  · subst tick
    obtain ⟨session, ticker, phase, -, ⟨next, shown, rfl, rfl⟩ | ⟨unshown, rfl, rfl⟩⟩ :=
      turned_tick h
    · refine ⟨by simp [phase], iff_of_false nofun ?_⟩
      rintro (⟨opened, -⟩ | ⟨-, other, ticker', phase', beyond⟩)
      · simp at opened
      · cases phase.symm.trans phase'
        exact (tick_some shown).1 beyond
    · have last : TakesLastTick s .heartbeatDue now :=
        ⟨rfl, session, ticker, phase, tick_none_iff.mp unshown⟩
      exact ⟨by simp [phase], iff_of_true rfl (Or.inr last)⟩
  · rw [or_iff_left fun last => tick last.1]
    exact turned_opening_crashes tick h

/-- A supervisor has crashed exactly if it took a session up, or a tick, beyond the end of the
clock. -/
theorem run_crashed_iff {h : History} (r : Run c h s) :
    s.phase = .crashed ↔ ∃ o ∈ h, .began .opened ∈ o.effects ∧ BeyondClock c o.now ∨
      TakesLastTick o.before o.stimulus o.now := by
  refine course_invariant (P := fun h s => s.phase = .crashed ↔
    ∃ o ∈ h, .began .opened ∈ o.effects ∧ BeyondClock c o.now ∨
      TakesLastTick o.before o.stimulus o.now) (fresh_aligned c) ?_ ?_ r
  · refine ⟨nofun, ?_⟩
    rintro ⟨o, ho, -⟩
    cases ho
  · intro h s now draw stimulus s' es ih _ ht
    obtain ⟨hc, hiff⟩ := turned_crashes_iff ht
    rw [hiff]
    constructor
    · intro hbeyond
      exact ⟨_, List.mem_append_right h (List.mem_singleton_self _), hbeyond⟩
    · rintro ⟨o, ho, hbeyond⟩
      rcases List.mem_append.mp ho with ho | ho
      · exact absurd (ih.mpr ⟨o, ho, hbeyond⟩) hc
      · rw [List.mem_singleton.mp ho] at hbeyond
        exact hbeyond

end Crashes

/-! Shutdowns that are given up -/

section GivingUp

variable {c : Config} {now : Instant} {draw : Nat} {s s' : Supervisor} {es : List Effect}

lemma resting_not_closing {p : Phase} (h : IsResting p) (k : Nat) (giveUpAt : Option Instant)
    (after : AfterClose) : p ≠ .closing k giveUpAt after := by
  unfold IsResting IsParked at h
  rcases h with (rfl | rfl) | rfl | ⟨wakeAt, rfl⟩ <;> exact nofun

lemma free_not_closing {p : Phase} (h : IsParked p ∨ IsUnconnected p) (k : Nat)
    (giveUpAt : Option Instant) (after : AfterClose) : p ≠ .closing k giveUpAt after := by
  intro hp
  have hh := free_heldSession? h
  rw [hp] at hh
  cases hh

lemma flushTurn_not_closing {session sent : Nat} (h : FlushTurn c now session sent s (s', es))
    (k : Nat) (giveUpAt : Option Instant) (after : AfterClose) :
    s'.phase ≠ .closing k giveUpAt after := by
  cases h <;> exact nofun

/-- A shutdown begins with the call to close, and may take as long as it may take from then on. -/
lemma turned_closing {stimulus : Stimulus} {k : Nat} {giveUpAt : Option Instant}
    {after : AfterClose} (h : Turned c now draw s stimulus (s', es))
    (hp : s'.phase = .closing k giveUpAt after) :
    .close k ∈ es ∧ (giveUpAt = c.closeTimeout?.map fun limit => now + limit.nanos) ∧
      (after = .terminal → stimulus = .mail none) := by
  cases h with
  | ignores request idle =>
    rcases idle with ⟨hf, -⟩ | ⟨hf, -⟩ | ⟨⟨session, ticker, hf⟩, -⟩
    · exact absurd hp (free_not_closing (Or.inl hf) _ _ _)
    · exact absurd hp (free_not_closing (Or.inr hf) _ _ _)
    · rw [hf] at hp
      cases hp
  | keeps envelope u free queued =>
    rw [queued_phase queued] at hp
    exact absurd hp (free_not_closing free _ _ _)
  | cancels request after' u unconnected asked ended =>
    exact absurd hp (resting_not_closing (endTurn_resting ended) _ _ _)
  | opens deadline u phase flushed => exact absurd hp (flushTurn_not_closing flushed _ _ _)
  | fails deadline stimulus e u phase failure retried =>
    exact absurd hp (resting_not_closing (retryTurn_resting retried) _ _ _)
  | flushesOn session item sent u phase flushed =>
    exact absurd hp (flushTurn_not_closing flushed _ _ _)
  | loses stimulus session e u v interrupted retried =>
    exact absurd hp (resting_not_closing (retryTurn_resting retried) _ _ _)
  | shuts session ticker stimulus after' notes phase cause =>
    obtain ⟨rfl, rfl, rfl⟩ := Phase.closing.inj hp
    refine ⟨by simp, rfl, ?_⟩
    cases cause with
    | asked request after asked =>
      cases asked with
      | stop => exact nofun
      | lastHandle => exact fun _ => rfl
    | unreadable => exact nofun
  | skipsFrame session ticker f e phase =>
    rw [phase] at hp
    cases hp
  | dispatches session ticker f e phase =>
    rw [phase] at hp
    cases hp
  | closes session giveUpAt' stimulus after' u phase finished ended =>
    exact absurd hp (resting_not_closing (endTurn_resting ended) _ _ _)
  | _ => cases hp

lemma interrupted_not_closing {stimulus : Stimulus} {session : Nat} {e : TransportError} {u : Turn}
    (h : Interrupted now s stimulus session e u) (k : Nat) (giveUpAt : Option Instant)
    (after : AfterClose) : s.phase ≠ .closing k giveUpAt after := by
  intro hp
  cases h with
  | flushing session item sent e phase => cases hp.symm.trans phase
  | receiving session ticker e phase => cases hp.symm.trans phase
  | sending session ticker command e u phase => cases hp.symm.trans phase
  | pinging session ticker e phase => cases hp.symm.trans phase

/-- While a session is shut down there is nothing else to do: the next turn ends the shutdown. -/
lemma turned_from_closing {stimulus : Stimulus} {k : Nat} {giveUpAt : Option Instant}
    {after : AfterClose} (hp : s.phase = .closing k giveUpAt after)
    (h : Turned c now draw s stimulus (s', es)) :
    CloseEnded now giveUpAt stimulus ∧
      ∃ fs, es = .drop k :: fs ∧ EndTurn c now draw s after (s', fs) := by
  cases h with
  | closes session giveUpAt' stimulus after' u phase finished ended =>
    obtain ⟨rfl, rfl, rfl⟩ := Phase.closing.inj (hp.symm.trans phase)
    exact ⟨finished, u.2, rfl, ended⟩
  | starts parked => exact absurd hp (free_not_closing (Or.inl parked) _ _ _)
  | ignores request idle =>
    rcases idle with ⟨hf, -⟩ | ⟨hf, -⟩ | ⟨⟨session, ticker, hf⟩, -⟩
    · exact absurd hp (free_not_closing (Or.inl hf) _ _ _)
    · exact absurd hp (free_not_closing (Or.inr hf) _ _ _)
    · cases hp.symm.trans hf
  | keeps envelope u free => exact absurd hp (free_not_closing free _ _ _)
  | leaves parked => exact absurd hp (free_not_closing (Or.inl parked) _ _ _)
  | calls phase => cases hp.symm.trans phase
  | cancels request after' u unconnected =>
    exact absurd hp (free_not_closing (Or.inr unconnected) _ _ _)
  | opens deadline u phase => cases hp.symm.trans phase
  | fails deadline stimulus e u phase => cases hp.symm.trans phase
  | flushesOn session item sent u phase => cases hp.symm.trans phase
  | loses stimulus session e u v interrupted =>
    exact absurd hp (interrupted_not_closing interrupted _ _ _)
  | shuts session ticker stimulus after' notes phase => cases hp.symm.trans phase
  | skipsFrame session ticker f e phase => cases hp.symm.trans phase
  | dispatches session ticker f e phase => cases hp.symm.trans phase
  | sends session ticker e phase => cases hp.symm.trans phase
  | pings session ticker next phase => cases hp.symm.trans phase
  | overruns session ticker phase => cases hp.symm.trans phase
  | sent session ticker command phase => cases hp.symm.trans phase
  | pinged session ticker phase => cases hp.symm.trans phase
  | wakes wakeAt phase => cases hp.symm.trans phase

/-- A shutdown can always be ended, once its time is over. -/
lemma step_gives_up {k : Nat} {giveUpAt : Option Instant} {after : AfterClose}
    (hp : s.phase = .closing k giveUpAt after) (hover : ∀ limit, giveUpAt = some limit → limit ≤ now) :
    ∃ t, s.step c now draw .closeGivenUp = some t := by
  unfold step
  rw [hp]
  dsimp only
  cases giveUpAt with
  | none => exact ⟨_, rfl⟩
  | some limit =>
    have hpast : isPast now (some limit) = true := by
      simpa [isPast] using hover limit rfl
    rw [if_pos (by rw [hpast, Bool.or_true])]
    exact ⟨_, rfl⟩

lemma run_closing {h : History} {k : Nat} {giveUpAt : Option Instant} {after : AfterClose}
    (r : Run c h s) (hp : s.phase = .closing k giveUpAt after) :
    ∃ o ∈ h, .close k ∈ o.effects ∧
      giveUpAt = c.closeTimeout?.map fun limit => o.now + limit.nanos := by
  cases r with
  | start => cases hp
  | turn now draw stimulus t past taken =>
    have ht := step_turned (course_aligned (fresh_aligned c) past) taken
    obtain ⟨hclose, hgive, -⟩ := turned_closing ht hp
    exact ⟨_, List.mem_append_right _ (List.mem_singleton_self _), hclose, hgive⟩

/-- A shutdown is given up only when it has taken as long as it may take, or at once if it is not to
be waited for. -/
theorem run_gaveUp {h₁ h₂ : History} {o : Occurrence} (r : Run c (h₁ ++ o :: h₂) s)
    (hgave : o.stimulus = .closeGivenUp) :
    ∃ b ∈ h₁, ∃ k, heldSession? o.before.phase = some k ∧ .close k ∈ b.effects ∧
      ∀ limit, c.closeTimeout? = some limit → b.now + limit.nanos ≤ o.now := by
  obtain ⟨-, ht⟩ := run_occurrence r (List.mem_append_right h₁ List.mem_cons_self)
  rw [hgave] at ht
  generalize hto : (o.after, o.effects) = t at ht
  cases ht with
  | fails deadline stimulus e u phase failure retried => cases failure
  | loses stimulus session e u v interrupted retried => cases interrupted
  | shuts session ticker stimulus after notes phase cause => cases cause
  | closes session giveUpAt stimulus after u phase finished ended =>
    obtain ⟨b, hb, hclose, hgive⟩ := run_closing (run_until r) phase
    refine ⟨b, hb, session, by rw [phase]; rfl, hclose, ?_⟩
    intro limit hlimit
    rw [hlimit, Option.map_some] at hgive
    rcases finished with h | ⟨-, h | h⟩
    · cases h
    · rw [h] at hgive
      cases hgive
    · rw [hgive] at h
      simpa [isPast] using h

end GivingUp

/-! The end of the supervisor -/

section Exits

variable {c : Config} {now : Instant} {draw : Nat} {s s' : Supervisor} {es : List Effect}

lemma step_present {stimulus : Stimulus} {t : Turn} (h : s.step c now draw stimulus = some t) :
    s.isGone = false := by
  cases hp : s.phase with
  | exited => simp [step, hp] at h
  | crashed => simp [step, hp] at h
  | _ => simp [isGone, hp]

lemma retryTurn_stays (h : RetryTurn c now draw s (s', es)) : s'.phase ≠ .exited := by
  cases h <;> exact nofun

lemma endTurn_exits {after : AfterClose} (h : EndTurn c now draw s after (s', es))
    (hx : s'.phase = .exited) : after = .terminal ∧ s'.state = .terminal := by
  cases h with
  | rests => cases hx
  | leaves => exact ⟨rfl, rfl⟩
  | retries u retried => exact absurd hx (retryTurn_stays retried)

lemma flushTurn_stays {session sent : Nat} (h : FlushTurn c now session sent s (s', es)) :
    s'.phase ≠ .exited := by
  cases h <;> exact nofun

/-- The loop ends when nobody is left to ask for anything, at once or after the session held has
been shut down. -/
theorem turned_exits {stimulus : Stimulus} (hs : Aligned s)
    (h : Turned c now draw s stimulus (s', es)) (hx : s'.phase = .exited) :
    (stimulus = .mail none ∨ ∃ k giveUpAt, s.phase = .closing k giveUpAt .terminal) ∧
      (s'.state = .idle ∨ s'.state = .terminal) := by
  cases h with
  | ignores request idle =>
    rcases idle with ⟨hp | hp, -⟩ | ⟨hp | ⟨deadline, hp⟩ | ⟨wakeAt, hp⟩, -⟩ |
      ⟨⟨session, ticker, hp⟩, -⟩ <;> (rw [hp] at hx; cases hx)
  | keeps envelope u free queued =>
    rw [queued_phase queued] at hx
    rcases free with (hp | hp) | hp | ⟨deadline, hp⟩ | ⟨wakeAt, hp⟩ <;>
      (rw [hp] at hx; cases hx)
  | leaves parked =>
    refine ⟨Or.inl rfl, ?_⟩
    rcases parked with hp | hp
    · exact Or.inl (hs .idle (by rw [hp]; rfl))
    · exact Or.inr (hs .terminal (by rw [hp]; rfl))
  | cancels request after u unconnected asked ended =>
    obtain ⟨rfl, hstate⟩ := endTurn_exits ended hx
    cases asked with
    | lastHandle => exact ⟨Or.inl rfl, Or.inr hstate⟩
  | opens deadline u phase flushed => exact absurd hx (flushTurn_stays flushed)
  | fails deadline stimulus e u phase failure retried => exact absurd hx (retryTurn_stays retried)
  | flushesOn session item sent u phase flushed => exact absurd hx (flushTurn_stays flushed)
  | loses stimulus session e u v interrupted retried => exact absurd hx (retryTurn_stays retried)
  | skipsFrame session ticker f e phase =>
    rw [phase] at hx
    cases hx
  | dispatches session ticker f e phase =>
    rw [phase] at hx
    cases hx
  | closes session giveUpAt stimulus after u phase finished ended =>
    obtain ⟨rfl, hstate⟩ := endTurn_exits ended hx
    exact ⟨Or.inr ⟨session, giveUpAt, phase⟩, Or.inr hstate⟩
  | _ => cases hx

/-- A loop that has ended has left the state where nothing is under way. -/
theorem run_exited {h : History} (r : Run c h s) (hx : s.phase = .exited) :
    s.state = .idle ∨ s.state = .terminal := by
  cases r with
  | start => cases hx
  | turn now draw stimulus t past taken =>
    have ha := course_aligned (fresh_aligned c) past
    exact (turned_exits ha (step_turned ha taken) hx).2

end Exits

end SteadyLink.Proofs
