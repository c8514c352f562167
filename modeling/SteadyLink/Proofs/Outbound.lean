import Mathlib.Data.List.Nodup
import SteadyLink.Proofs.CommandLedger
import SteadyLink.Proofs.CommandPasses

/-!
# Outbound commands

What becomes of the commands that a supervisor takes over, along a whole run: none is lost, none is
written twice, and they are written in the order of their acceptance.
-/

namespace SteadyLink.Proofs

open Supervisor

/-! Frames and reports -/

/-- What is written is the text of the command or ping, and no event passes for the report of an
eviction. -/
def Proper (c : Config) : Effect → Prop
  | .write _ command frame => frame = c.frame command
  | .wrote _ command frame => frame = c.frame command
  | .publish e => e.kind ≠ .commandEvicted
  | _ => True

lemma quiet_proper (c : Config) {e : Effect} (h : IsQuiet e) : Proper c e := by
  rcases h with ⟨stage, rfl⟩ | ⟨source, target, rfl⟩ | ⟨event, rfl, hk⟩
  · trivial
  · trivial
  · exact hk

section Proper

variable {c : Config} {now : Instant} {draw : Nat} {s s' : Supervisor} {es : List Effect}

lemma flushTurn_proper {session sent : Nat} (h : FlushTurn c now session sent s (s', es)) :
    ∀ e ∈ es, Proper c e := by
  have hnotes : ∀ e ∈ flushNotes sent, Proper c e :=
    fun e he => quiet_proper c (flushNotes_quiet sent e he)
  cases h with
  | writes item rest items => simp [Proper]
  | serves ticker items first =>
    intro e he
    rcases List.mem_append.mp he with he | he
    · exact hnotes e he
    · rw [List.mem_singleton.mp he]
      trivial
  | crashes every items interval unshown =>
    intro e he
    rcases List.mem_append.mp he with he | he
    · exact hnotes e he
    · simp at he
      rcases he with rfl | rfl <;> trivial

lemma queued_proper {command : Command} (h : Queued now command s (s', es)) :
    ∀ e ∈ es, Proper c e := by
  cases h <;> simp [Proper]

lemma interrupted_proper {stimulus : Stimulus} {session : Nat} {e : TransportError}
    (h : Interrupted now s stimulus session e (s', es)) : ∀ e ∈ es, Proper c e := by
  cases h with
  | flushing => simp
  | receiving => simp
  | sending session ticker command e u phase queued => exact queued_proper queued
  | pinging => simp

theorem turned_proper {stimulus : Stimulus} (h : Turned c now draw s stimulus (s', es)) :
    ∀ e ∈ es, Proper c e := by
  have quiet {es : List Effect} (hq : ∀ e ∈ es, IsQuiet e) : ∀ e ∈ es, Proper c e :=
    fun e he => quiet_proper c (hq e he)
  cases h with
  | starts => simp [Proper]
  | ignores => simp
  | keeps envelope u free queued => exact queued_proper queued
  | leaves => simp [Proper]
  | calls => simp [Proper]
  | cancels request after u unconnected asked ended =>
    simpa [Proper] using quiet (endTurn_quiet ended)
  | opens deadline u phase flushed =>
    intro e he
    rcases List.mem_cons.mp he with rfl | he
    · trivial
    · rcases List.mem_append.mp he with he | he
      · obtain ⟨command, -, rfl⟩ := List.mem_map.mp he
        trivial
      · exact flushTurn_proper flushed e he
  | fails deadline stimulus e u phase failure retried =>
    simpa [Proper] using quiet (retryTurn_quiet retried)
  | flushesOn session item sent u phase flushed =>
    simpa [Proper] using flushTurn_proper flushed
  | loses stimulus session e u v interrupted retried =>
    intro e he
    rcases List.mem_append.mp he with he | he
    · exact interrupted_proper interrupted e he
    · simp only [List.mem_cons] at he
      rcases he with rfl | rfl | rfl | he
      · simp [Proper]
      · trivial
      · trivial
      · exact quiet (retryTurn_quiet retried) e he
  | shuts session ticker stimulus after notes phase cause =>
    intro e he
    rcases List.mem_append.mp he with he | he
    · exact quiet (shutCause_quiet cause) e he
    · simp only [List.mem_cons, List.not_mem_nil, or_false] at he
      rcases he with rfl | rfl | rfl <;> trivial
  | skipsFrame => simp [Proper]
  | dispatches => simp [Proper]
  | sends => simp [Proper]
  | pings => simp [Proper]
  | overruns => simp [Proper]
  | sent => simp [Proper]
  | pinged => simp [Proper]
  | wakes => simp [Proper]
  | closes session giveUpAt stimulus after u phase finished ended =>
    simpa [Proper] using quiet (endTurn_quiet ended)

end Proper

/-- Of all events of a list of proper effects, those of the kind `commandEvicted` are the reports
that are due. -/
lemma proper_reports {c : Config} {es : List Effect} (h : ∀ e ∈ es, Proper c e) :
    (es.filterMap Effect.event?).filter (·.kind = .commandEvicted) =
      es.filterMap evictionReport? := by
  induction es with
  | nil => rfl
  | cons e es ih =>
    rw [filterMap_cons_toList, filterMap_cons_toList, List.filter_append,
      ih fun e he => h e (List.mem_cons_of_mem _ he)]
    congr 1
    have he := h e List.mem_cons_self
    cases e with
    | publish event => simpa [Effect.event?, evictionReport?, Proper] using he
    | _ => simp [Effect.event?, evictionReport?]

/-! The whole run -/

section Run

variable {c : Config} {now : Instant} {draw : Nat} {s s' : Supervisor} {es : List Effect}

lemma accepted_append (h : History) (o : Occurrence)
    (hn : o.before.accepted = (accepted h).length) :
    accepted (h ++ [o]) = accepted h ++ taken o.before o.stimulus := by
  unfold accepted at hn ⊢
  unfold taken
  rw [List.length_map, List.length_zipIdx] at hn
  rw [List.filterMap_append, List.zipIdx_append, List.map_append, hn]
  congr 1
  cases ho : takenEnvelope? o.stimulus with
  | none => simp [ho]
  | some e => simp [ho, Nat.add_comm]

lemma accepted_nodup (h : History) : (accepted h).Nodup := by
  unfold accepted
  refine List.Nodup.map ?_ ?_
  · rintro ⟨e, n⟩ ⟨e', n'⟩ heq
    simpa [and_comm] using heq
  · refine List.Nodup.of_map Prod.snd ?_
    rw [List.zipIdx_map_snd]
    exact List.nodup_range'

lemma turned_accepted {stimulus : Stimulus} (h : Turned c now draw s stimulus (s', es)) :
    s'.accepted = s.accepted + (taken s stimulus).length := by
  have same (ht : takenEnvelope? stimulus = none) (ha : s'.accepted = s.accepted) :
      s'.accepted = s.accepted + (taken s stimulus).length := by
    rw [taken_nil ht, ha]
    rfl
  cases h with
  | starts => rfl
  | ignores request idle =>
    refine same ?_ rfl
    rcases idle with ⟨-, rfl⟩ | ⟨-, rfl⟩ | ⟨-, rfl⟩ <;> rfl
  | keeps envelope u free queued => exact (queued_sameCounts queued).accepted
  | leaves => rfl
  | calls => rfl
  | cancels request after u unconnected asked ended =>
    refine same ?_ (endTurn_sameWork ended).accepted
    cases asked <;> rfl
  | opens deadline u phase flushed =>
    exact (flushTurn_sameCounts flushed).accepted
  | fails deadline stimulus e u phase failure retried =>
    exact same (attemptFailure_taken failure) (retryTurn_sameWork retried).accepted
  | flushesOn session item sent u phase flushed => exact (flushTurn_sameCounts flushed).accepted
  | loses stimulus session e u v interrupted retried =>
    have hv := (retryTurn_sameWork retried).accepted
    have hu := (interrupted_sameCounts interrupted).accepted
    exact same (interrupted_taken interrupted) (hv.trans hu)
  | shuts session ticker stimulus after notes phase cause => exact same (shutCause_taken cause) rfl
  | skipsFrame => rfl
  | dispatches => rfl
  | sends => rfl
  | pings => rfl
  | overruns => rfl
  | sent => rfl
  | pinged => rfl
  | wakes => rfl
  | closes session giveUpAt stimulus after u phase finished ended =>
    exact same (closeEnded_taken finished) (endTurn_sameWork ended).accepted

lemma turned_wrote {stimulus : Stimulus} {session : Nat} {command : Command} {frame : String}
    (h : Turned c now draw s stimulus (s', es))
    (hw : .wrote session (some command) frame ∈ es) :
    heldSession? s.phase = some session ∧ command ∈ inHand s.phase := by
  have hnone {es : List Effect} (hes : written es = []) :
      .wrote session (some command) frame ∉ es := by
    intro hm
    have hx : command ∈ written es := List.mem_filterMap.mpr ⟨_, hm, rfl⟩
    rw [hes] at hx
    cases hx
  have hflush {session sent : Nat} {s : Supervisor} {u : Turn}
      (hf : FlushTurn c now session sent s u) : written u.2 = [] := by
    cases hf with
    | writes => rfl
    | serves => simp [quiet_written (flushNotes_quiet sent), writtenCommand?]
    | crashes => simp [quiet_written (flushNotes_quiet sent), writtenCommand?]
  cases h with
  | keeps envelope u free queued => cases queued <;> simp at hw
  | cancels request after u unconnected asked ended =>
    refine absurd hw (hnone ?_)
    simpa [writtenCommand?] using quiet_written (endTurn_quiet ended)
  | opens deadline u phase flushed =>
    refine absurd hw (hnone ?_)
    simpa [writtenCommand?, written_expired] using hflush flushed
  | fails deadline stimulus e u phase failure retried =>
    refine absurd hw (hnone ?_)
    simpa [writtenCommand?] using quiet_written (retryTurn_quiet retried)
  | flushesOn session' item sent u phase flushed =>
    rcases List.mem_cons.mp hw with heq | hw
    · simp only [Effect.wrote.injEq, Option.some.injEq] at heq
      obtain ⟨rfl, rfl, -⟩ := heq
      rw [phase]
      exact ⟨rfl, List.mem_singleton_self _⟩
    · exact absurd hw (hnone (hflush flushed))
  | loses stimulus session' e u v interrupted retried =>
    refine absurd hw (hnone ?_)
    have hu : written u.2 = [] := by
      cases interrupted with
      | sending session ticker command e u phase queued => cases queued <;> rfl
      | _ => rfl
    simp [hu, writtenCommand?, quiet_written (retryTurn_quiet retried)]
  | shuts session' ticker stimulus after notes phase cause =>
    refine absurd hw (hnone ?_)
    simp [quiet_written (shutCause_quiet cause), writtenCommand?]
  | sent session' ticker command' phase =>
    simp only [List.mem_singleton, Effect.wrote.injEq, Option.some.injEq] at hw
    obtain ⟨rfl, rfl, -⟩ := hw
    rw [phase]
    exact ⟨rfl, List.mem_singleton_self _⟩
  | closes session' giveUpAt stimulus after u phase finished ended =>
    refine absurd hw (hnone ?_)
    simpa [writtenCommand?] using quiet_written (endTurn_quiet ended)
  | _ => simp at hw

/-- What a run has done with the commands it accepted. -/
structure Tally (c : Config) (h : History) (s : Supervisor) : Prop where
  kept : QueueKept c s
  count : s.accepted = (accepted h).length
  ledger : Ledger (accepted h) (written (effects h)) (evicted (effects h)) (inHand s.phase)
    (waiting s)
  passes : Passes (accepted h) (fun session => passedTo session (effects h)) s
  wrote : ∀ session command frame, .wrote session (some command) frame ∈ effects h →
    command ∈ passedTo session (effects h)
  proper : ∀ e ∈ effects h, Proper c e

lemma fresh_tally (c : Config) : Tally c [] (.fresh c) where
  kept := fresh_queueKept c
  count := rfl
  ledger := ledger_empty
  passes := by
    constructor
    · intro session
      exact List.Sublist.refl _
    · intro session h
      cases h
    · intro session _
      rfl
  wrote := by simp
  proper := by simp

lemma waiting_sublist {a w e i q : List Command} (h : Ledger a w e i q) : q.Sublist a :=
  (List.sublist_append_right _ _).trans h.order

lemma turned_tally {stimulus : Stimulus} {h : History} (ht : Tally c h s)
    (hu : Turned c now draw s stimulus (s', es)) :
    Tally c (h ++ [⟨s, now, draw, stimulus, es, s'⟩]) s' := by
  have ha := accepted_append h ⟨s, now, draw, stimulus, es, s'⟩ ht.count
  have hp := turned_passes ht.kept (waiting_sublist ht.ledger) ht.passes hu
  constructor
  · exact turned_queueKept ht.kept hu
  · rw [ha, List.length_append, ← ht.count]
    exact turned_accepted hu
  · rw [ha]
    simpa using turned_ledger ht.kept ht.ledger hu
  · rw [ha]
    simpa using hp
  · intro session command frame hw
    simp only [effects_append, effects_singleton, List.mem_append] at hw
    rw [effects_append, passedTo_append, List.mem_append]
    refine Or.inl ?_
    rcases hw with hw | hw
    · exact ht.wrote session command frame hw
    · obtain ⟨hheld, hin⟩ := turned_wrote hu hw
      exact (ht.passes.held session hheld).2.2 hin
  · intro e he
    simp only [effects_append, effects_singleton, List.mem_append] at he
    rcases he with he | he
    · exact ht.proper e he
    · exact turned_proper hu e he

theorem run_tally {h : History} (r : Run c h s) : Tally c h s := by
  refine course_invariant (P := Tally c) (fresh_aligned c) (fresh_tally c) ?_ r
  intro h s now draw stimulus s' es ht _ hu
  exact turned_tally ht hu

end Run

/-- What becomes of outbound commands. -/
structure OutboundLaw (c : Config) (h : History) (s : Supervisor) : Prop where
  distinct : (accepted h).Nodup
  /-- Each accepted command is written, given up, in hand, or waits: one of these, and once. -/
  places : (written (effects h) ++ evicted (effects h) ++ inHand s.phase ++ waiting s).Perm
    (accepted h)
  /-- Across all sessions, commands are written in the order in which they were accepted. -/
  order : (written (effects h)).Sublist (accepted h)
  /-- No session is given a command twice, and each is given commands in order. -/
  passed_once : ∀ session, (passedTo session (effects h)).Nodup ∧
    (passedTo session (effects h)).Sublist (accepted h)
  /-- What is written to a session was given to it. -/
  passed : ∀ session command frame, .wrote session (some command) frame ∈ effects h →
    command ∈ passedTo session (effects h)
  /-- Only commands and pings are written, as the codec shows them. -/
  frames : ∀ session command frame,
    .write session command frame ∈ effects h ∨ .wrote session command frame ∈ effects h →
      frame = c.codec.encode ((command.map Command.envelope).getD Envelope.ping)
  /-- Each command given up is reported by one event, with its reason. -/
  reports : ((effects h).filterMap Effect.event?).filter (·.kind = .commandEvicted) =
    (effects h).filterMap evictionReport?
  bounded : (waiting s).length ≤ max 1 c.queueCapacity ∧
    ∀ o ∈ h, (waiting o.before).length ≤ max 1 c.queueCapacity
  /-- A failed write puts its command back before those that wait, and gives nothing up. -/
  restored : ∀ o ∈ h, ∀ e, o.stimulus = .writeFailed e →
    waiting o.after = inHand o.before.phase ++ waiting o.before ∧ evicted o.effects = []

lemma queueKept_bounded {c : Config} {s : Supervisor} (hs : QueueKept c s) :
    (waiting s).length ≤ max 1 c.queueCapacity := by
  have hcap := hs.capacity
  have hlen := hs.length_le
  unfold waiting
  rw [List.length_map]
  omega

lemma turned_restored {c : Config} {now : Instant} {draw : Nat} {s s' : Supervisor}
    {es : List Effect} {e : TransportError} (hs : QueueKept c s)
    (h : Turned c now draw s (.writeFailed e) (s', es)) :
    waiting s' = inHand s.phase ++ waiting s ∧ evicted es = [] := by
  cases h with
  | fails deadline stimulus e u phase failure retried => cases failure
  | loses stimulus session e u v interrupted retried =>
    obtain ⟨hu, hw⟩ := interrupted_returns interrupted hs
    refine ⟨?_, ?_⟩
    · rw [waiting_of_queue (retryTurn_sameWork retried).queue]
      exact hw
    · simp [hu, evictedCommand?, quiet_evicted (retryTurn_quiet retried)]
  | shuts session ticker stimulus after notes phase cause => cases cause
  | closes session giveUpAt stimulus after u phase finished ended =>
    rcases finished with h | ⟨h, -⟩ <;> cases h

/-- Commands are conserved, never written twice, and written in the order of their acceptance. -/
theorem outbound_conservation {c : Config} {h : History} {s : Supervisor} (r : Run c h s) :
    OutboundLaw c h s := by
  have ht := run_tally r
  have hd := accepted_nodup h
  constructor
  · exact hd
  · exact ht.ledger.places
  · refine List.Sublist.trans ?_ ht.ledger.order
    rw [List.append_assoc]
    exact List.sublist_append_left _ _
  · intro session
    exact ⟨(ht.passes.order session).nodup hd, ht.passes.order session⟩
  · exact ht.wrote
  · rintro session command frame (hf | hf)
    · exact ht.proper _ hf
    · exact ht.proper _ hf
  · exact proper_reports ht.proper
  · refine ⟨queueKept_bounded ht.kept, ?_⟩
    intro o ho
    exact queueKept_bounded ((run_queueKept r).2 o ho)
  · intro o ho e he
    obtain ⟨-, hu⟩ := run_occurrence r ho
    rw [he] at hu
    exact turned_restored ((run_queueKept r).2 o ho) hu

/-- A message that waits for the first session and is written to it; the write fails. -/
theorem outbound_conservation_failed_write :
    ∃ h s, Run .standard h s ∧ OutboundLaw .standard h s ∧ accepted h = [⟨1, .ping⟩] ∧
      passedTo 0 (effects h) = [⟨1, .ping⟩] ∧ written (effects h) = [] ∧
      waiting s = [⟨1, .ping⟩] := by
  have r₀ : Run .standard [] (.fresh .standard) := Course.start
  have r₁ := Course.turn 0 0 (.mail (some (.send .ping))) _ r₀ rfl
  have r₂ := Course.turn 0 0 (.mail (some .start)) _ r₁ rfl
  have r₃ := Course.turn 0 0 .attemptBegun _ r₂ rfl
  have r₄ := Course.turn 0 0 .connected _ r₃ rfl
  have r₅ := Course.turn 0 0 (.writeFailed (.io "broken pipe")) _ r₄ rfl
  exact ⟨_, _, r₅, outbound_conservation r₅, rfl, rfl, rfl, rfl⟩

end SteadyLink.Proofs
