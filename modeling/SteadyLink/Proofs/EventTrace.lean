import Mathlib.Data.List.Basic
import SteadyLink.Proofs.ClientRuns
import SteadyLink.Proofs.Commands

/-!
# The trace of events

The events that a supervisor publishes, with the commands that it writes among them. They come in
episodes, which follow one another in any order but are each complete in themselves; only the flush
of a new session can be under way.
-/

namespace SteadyLink.Proofs

/-! ## Episodes -/

def isShown : Effect → Bool
  | .moved .. => true
  | .publish _ => true
  | .evicted .. => true
  | .wrote _ command _ => command.isSome
  | _ => false

/-- The events and the written commands. -/
def trace (es : List Effect) : List Effect := es.filter isShown

/-- How the wait between two attempts is told of, after so many failures: with its length, or with the
end of all attempts. -/
inductive WaitTold (attempts : Nat) : List Effect → Prop
  | waits (delay : Duration) : WaitTold attempts [.publish (.backoffScheduled attempts delay)]
  | givesUp : WaitTold attempts
      [.moved .retrying .terminal, .publish (.policyExhausted attempts)]

inductive LossTold : List Effect → Prop
  | intro (e : TransportError) (attempts : Nat) {later : List Effect}
      (wait : WaitTold attempts later) :
    LossTold (.publish (.connectionLost (.transport e)) :: .moved .opened .retrying :: later)

/-- What comes after the last command that a flush has written: the session is ready, or lost. -/
inductive FlushTold (written : Nat) : List Effect → Prop
  | unused (empty : written = 0) : FlushTold written [.publish (.ofKind .connected)]
  | used (filled : 1 ≤ written) :
    FlushTold written [.publish (.queueFlushed written), .publish (.ofKind .connected)]
  | lost {later : List Effect} (loss : LossTold later) : FlushTold written later

/-- A session opens. Commands that are too old are given up, others are written to it. -/
def opening (session : Nat) (expired : List Command) (written : List (Command × String)) :
    List Effect :=
  .moved .connecting .opened :: (expired.map (.evicted · .expired) ++
    written.map fun w => .wrote session (some w.1) w.2)

/-- The effect is an episode of its own. -/
def StandsAlone : Effect → Prop
  | .moved source target =>
    target = .connecting ∨ target = .closing ∨
      source = .closing ∧ (target = .idle ∨ target = .terminal)
  | .publish event => ∃ e : DecodeError, event = .decodeFailed (.decode e) ∧ e.isFatal = false
  | .evicted _ cause => cause = .overflow
  | .wrote _ command _ => command.isSome
  | _ => False

inductive Episode : List Effect → Prop
  | single (e : Effect) (alone : StandsAlone e) : Episode [e]
  | failed (attempts : Nat) (e : TransportError) {later : List Effect}
      (wait : WaitTold attempts later) :
    Episode (.publish (.attemptFailed attempts (.transport e)) ::
      .moved .connecting .retrying :: later)
  | opened (session : Nat) (expired : List Command) (written : List (Command × String))
      {later : List Effect} (ending : FlushTold written.length later) :
    Episode (opening session expired written ++ later)
  | lost {later : List Effect} (loss : LossTold later) : Episode later
  | refused (e : DecodeError) (fatal : e.isFatal = true) :
    Episode [.publish (.decodeFailed (.decode e)), .moved .opened .closing]
  | closed (attempts : Nat) {later : List Effect} (wait : WaitTold attempts later) :
    Episode (.moved .closing .retrying :: later)

/-- Episodes one after another. -/
inductive Story : List Effect → Prop
  | begins : Story []
  | goesOn {es fs : List Effect} (story : Story es) (episode : Episode fs) : Story (es ++ fs)

/-- What has been told in a phase. A flush that is under way has told of the commands written. -/
def ToldIn (p : Phase) (es : List Effect) : Prop :=
  match p with
  | .flushing session _ sent => ∃ before expired written, Story before ∧
      written.length = sent ∧ es = before ++ opening session expired written
  | _ => Story es

/-! ## Turns -/

section Turns

variable {c : Config} {now : Instant} {draw : Nat} {s s' : Supervisor} {es fs : List Effect}

@[simp] lemma trace_append (es fs : List Effect) : trace (es ++ fs) = trace es ++ trace fs :=
  List.filter_append ..

lemma opening_snoc (session : Nat) (expired : List Command) (written : List (Command × String))
    (w : Command × String) : opening session expired (written ++ [w]) =
      opening session expired written ++ [.wrote session (some w.1) w.2] := by
  simp [opening]

lemma story_single {e : Effect} (story : Story es) (alone : StandsAlone e) : Story (es ++ [e]) :=
  .goesOn story (.single e alone)

lemma toldIn_iff {p : Phase} (h : ∀ session item sent, p ≠ .flushing session item sent) :
    ToldIn p es ↔ Story es := by
  cases p with
  | flushing session item sent => exact absurd rfl (h session item sent)
  | _ => exact Iff.rfl

lemma retryTurn_told (h : RetryTurn c now draw s (s', es)) : WaitTold s.attempts (trace es) := by
  cases h with
  | waits => exact .waits _
  | givesUp => exact .givesUp

lemma endTurn_told {after : AfterClose} (story : Story es)
    (h : EndTurn c now draw s after (s', fs)) : ToldIn s'.phase (es ++ trace fs) := by
  rw [toldIn_iff (resting_not_flushing (endTurn_resting h))]
  cases h with
  | rests => exact story_single story (Or.inr (Or.inr ⟨rfl, Or.inl rfl⟩))
  | leaves => exact story_single story (Or.inr (Or.inr ⟨rfl, Or.inr rfl⟩))
  | retries u retried => exact .goesOn story (.closed _ (retryTurn_told retried))

lemma flushNotes_told (sent : Nat) : FlushTold sent (trace (flushNotes sent)) := by
  cases sent with
  | zero => exact .unused rfl
  | succ sent => exact .used (Nat.succ_le_succ (Nat.zero_le sent))

/-- A flush goes on with the next command, or its episode ends. -/
lemma flushTurn_told {session : Nat} (expired : List Command) (written : List (Command × String))
    (story : Story es) (h : FlushTurn c now session written.length s (s', fs)) :
    ToldIn s'.phase (es ++ (opening session expired written ++ trace fs)) := by
  have ready (rest : List Effect) (quiet : trace rest = []) :
      Story (es ++ (opening session expired written ++ trace (flushNotes written.length ++ rest))) := by
    rw [trace_append, quiet, List.append_nil]
    exact .goesOn story (.opened session expired written (flushNotes_told written.length))
  cases h with
  | writes item rest items =>
    refine ⟨es, expired, written, story, rfl, ?_⟩
    rw [show trace _ = [] from rfl, List.append_nil]
  | serves => exact ready [.began .opened] rfl
  | crashes => exact ready [.began .opened, .drop session] rfl

lemma queued_told {command : Command} (story : Story es) (h : Queued now command s (s', fs)) :
    Story (es ++ trace fs) := by
  cases h with
  | fits =>
    rw [show trace [] = [] from rfl, List.append_nil]
    exact story
  | evicts => exact story_single story rfl

/-- A failure of the session ends the flush, or is told of after a command that had to make room. -/
lemma interrupted_told {stimulus : Stimulus} {session : Nat} {e : TransportError} {later : List Effect}
    (told : ToldIn s.phase es) (h : Interrupted now s stimulus session e (s', fs))
    (loss : LossTold later) : Story (es ++ (trace fs ++ later)) := by
  have alone {gs : List Effect} (story : Story gs) : Story (gs ++ later) :=
    .goesOn story (.lost loss)
  cases h with
  | flushing session item sent e phase =>
    rw [phase] at told
    obtain ⟨before, expired, written, story, -, rfl⟩ := told
    rw [List.append_assoc]
    exact .goesOn story (.opened session expired written (.lost loss))
  | receiving session ticker e phase =>
    rw [phase] at told
    exact alone told
  | sending session ticker command e u phase queued =>
    rw [phase] at told
    rw [← List.append_assoc]
    exact alone (queued_told told queued)
  | pinging session ticker e phase =>
    rw [phase] at told
    exact alone told

theorem toldIn_turned {stimulus : Stimulus} (told : ToldIn s.phase es)
    (h : Turned c now draw s stimulus (s', fs)) : ToldIn s'.phase (es ++ trace fs) := by
  have quiet {p : Phase} (told : ToldIn p es) : ToldIn p (es ++ []) := by
    rwa [List.append_nil]
  have unused (hp : IsParked s.phase ∨ IsUnconnected s.phase) : Story es :=
    (toldIn_iff (free_not_flushing hp)).mp told
  have story {p : Phase} (hp : s.phase = p)
      (other : ∀ session item sent, p ≠ .flushing session item sent) : Story es :=
    (toldIn_iff (hp ▸ other)).mp told
  cases h with
  | starts parked => exact story_single (unused (Or.inl parked)) (Or.inl rfl)
  | ignores => exact quiet told
  | keeps e u free queued =>
    rw [queued_phase queued, toldIn_iff (free_not_flushing free)]
    exact queued_told (unused free) queued
  | leaves parked => exact quiet (unused (Or.inl parked))
  | calls phase => exact quiet (story phase nofun)
  | cancels request after u unconnected asked ended =>
    have alone : StandsAlone (.moved s.state .closing) := Or.inr (Or.inl rfl)
    have ends := endTurn_told (story_single (unused (Or.inr unconnected)) alone) ended
    rwa [List.append_assoc] at ends
  | opens deadline u phase flushed =>
    have begun := flushTurn_told (expired now s.queue) [] (story phase nofun) flushed
    have shown : trace ((expired now s.queue).map (.evicted · .expired)) =
        (expired now s.queue).map (.evicted · .expired) := by
      rw [trace, List.filter_eq_self]
      intro e he
      obtain ⟨command, -, rfl⟩ := List.mem_map.mp he
      rfl
    rw [opening, List.map_nil, List.append_nil, ← shown, List.cons_append, ← trace_append] at begun
    exact begun
  | fails deadline stimulus e u phase failure retried =>
    rw [toldIn_iff (resting_not_flushing (retryTurn_resting retried))]
    exact .goesOn (story phase nofun) (.failed _ e (retryTurn_told retried))
  | flushesOn session item sent u phase flushed =>
    rw [phase] at told
    obtain ⟨before, expired, written, earlier, rfl, rfl⟩ := told
    have goesOn := flushTurn_told expired (written ++ [(item.command, c.frame (some item.command))])
      earlier (by rwa [List.length_append])
    rw [opening_snoc, List.append_assoc, ← List.append_assoc] at goesOn
    exact goesOn
  | loses stimulus session e u v interrupted retried =>
    rw [toldIn_iff (resting_not_flushing (retryTurn_resting retried)), trace_append]
    have wait := retryTurn_told retried
    exact interrupted_told told interrupted (.intro e _ wait)
  | shuts session ticker stimulus after notes phase cause =>
    cases cause with
    | asked request after asked => exact story_single (story phase nofun) (Or.inr (Or.inl rfl))
    | unreadable f e unread fatal => exact .goesOn (story phase nofun) (.refused e fatal)
  | skipsFrame session ticker f e phase unread harmless =>
    have alone : StandsAlone (.publish (.decodeFailed (.decode e))) := ⟨e, rfl, harmless⟩
    rw [toldIn_iff (phase ▸ nofun)]
    exact story_single (story phase nofun) alone
  | dispatches => exact quiet told
  | sends session ticker e phase => exact quiet (story phase nofun)
  | pings session ticker next phase => exact quiet (story phase nofun)
  | overruns session ticker phase => exact quiet (story phase nofun)
  | sent session ticker command phase => exact story_single (story phase nofun) rfl
  | pinged session ticker phase => exact quiet (story phase nofun)
  | wakes wakeAt phase => exact story_single (story phase nofun) (Or.inl rfl)
  | closes session giveUpAt stimulus after u phase finished ended =>
    have ends := endTurn_told (story phase nofun) ended
    exact ends

end Turns

/-! ## Runs -/

section Runs

variable {es : List Effect}

/-- A flush that is under way can come to a good end. -/
lemma toldIn_prefix {p : Phase} (told : ToldIn p es) : ∃ later, Story (es ++ later) := by
  by_cases hp : ∃ session item sent, p = .flushing session item sent
  · obtain ⟨session, item, sent, rfl⟩ := hp
    obtain ⟨before, expired, written, story, -, rfl⟩ := told
    refine ⟨trace (flushNotes written.length), ?_⟩
    rw [List.append_assoc]
    exact .goesOn story (.opened session expired written (flushNotes_told written.length))
  · refine ⟨[], ?_⟩
    rw [List.append_nil]
    exact (toldIn_iff fun session item sent h => hp ⟨session, item, sent, h⟩).mp told

/-- What is published comes from the supervisor and has no number yet. -/
def IsOwn : Effect → Prop
  | .publish event => ownEvent? event = some event
  | _ => True

lemma waitTold_own {attempts : Nat} (h : WaitTold attempts es) : ∀ e ∈ es, IsOwn e := by
  cases h with
  | waits => exact List.forall_mem_singleton.mpr rfl
  | givesUp => exact List.forall_mem_cons.mpr ⟨trivial, List.forall_mem_singleton.mpr rfl⟩

lemma lossTold_own (h : LossTold es) : ∀ e ∈ es, IsOwn e := by
  cases h with
  | intro e attempts wait =>
    exact List.forall_mem_cons.mpr ⟨rfl, List.forall_mem_cons.mpr ⟨trivial, waitTold_own wait⟩⟩

lemma flushTold_own {written : Nat} (h : FlushTold written es) : ∀ e ∈ es, IsOwn e := by
  cases h with
  | unused => exact List.forall_mem_singleton.mpr rfl
  | used => exact List.forall_mem_cons.mpr ⟨rfl, List.forall_mem_singleton.mpr rfl⟩
  | lost loss => exact lossTold_own loss

lemma opening_own (session : Nat) (expired : List Command) (written : List (Command × String)) :
    ∀ e ∈ opening session expired written, IsOwn e := by
  refine List.forall_mem_cons.mpr ⟨trivial, List.forall_mem_append.mpr ⟨?_, ?_⟩⟩
  · exact List.forall_mem_map.mpr fun _ _ => trivial
  · exact List.forall_mem_map.mpr fun _ _ => trivial

lemma episode_own (h : Episode es) : ∀ e ∈ es, IsOwn e := by
  cases h with
  | single e alone =>
    refine List.forall_mem_singleton.mpr ?_
    cases e with
    | publish event =>
      obtain ⟨error, rfl, -⟩ := alone
      rfl
    | _ => trivial
  | failed attempts e wait =>
    exact List.forall_mem_cons.mpr ⟨rfl, List.forall_mem_cons.mpr ⟨trivial, waitTold_own wait⟩⟩
  | opened session expired written ending =>
    exact List.forall_mem_append.mpr ⟨opening_own session expired written, flushTold_own ending⟩
  | lost loss => exact lossTold_own loss
  | refused e fatal => exact List.forall_mem_cons.mpr ⟨rfl, List.forall_mem_singleton.mpr trivial⟩
  | closed attempts wait => exact List.forall_mem_cons.mpr ⟨trivial, waitTold_own wait⟩

lemma story_own (h : Story es) : ∀ e ∈ es, IsOwn e := by
  induction h with
  | begins => exact List.forall_mem_nil _
  | goesOn story episode ih => exact List.forall_mem_append.mpr ⟨ih, episode_own episode⟩

end Runs

end SteadyLink.Proofs
