import SteadyLink.Proofs.Runs

/-!
# Commands

The commands of a supervisor by what happens to them, and the queue that they wait in. The queue is
empty while a session is served, so that a command put back at either end stands before all others.
-/

namespace SteadyLink.Proofs

open Supervisor

def writtenCommand? : Effect → Option Command
  | .wrote _ (some command) _ => some command
  | _ => none

def evictedCommand? : Effect → Option Command
  | .evicted command _ => some command
  | _ => none

/-- The command whose writing begins on the given session. -/
def passedCommand? (session : Nat) : Effect → Option Command
  | .write other (some command) _ => if other = session then some command else none
  | _ => none

def written (es : List Effect) : List Command := es.filterMap writtenCommand?

def evicted (es : List Effect) : List Command := es.filterMap evictedCommand?

def evictionReport? : Effect → Option Event
  | .evicted command cause => some (.commandEvicted command.envelope.kind cause.reason)
  | _ => none

def passedTo (session : Nat) (es : List Effect) : List Command :=
  es.filterMap (passedCommand? session)

/-- The message that is taken over from the mailbox. -/
def takenEnvelope? : Stimulus → Option Envelope
  | .mail (some (.send e)) => some e
  | _ => none

/-- The messages taken over, numbered from one. -/
def accepted (h : History) : List Command :=
  ((h.filterMap fun o => takenEnvelope? o.stimulus).zipIdx 1).map fun taken => ⟨taken.2, taken.1⟩

/-- The command that is being written. -/
def inHand : Phase → List Command
  | .flushing _ item _ => [item.command]
  | .sending _ _ command => [command]
  | _ => []

def waiting (s : Supervisor) : List Command := s.queue.items.map (·.command)

/-- The command that a stimulus brings. -/
def taken (s : Supervisor) (stimulus : Stimulus) : List Command :=
  ((takenEnvelope? stimulus).map fun e => ⟨s.accepted + 1, e⟩).toList

lemma quiet_written {es : List Effect} (h : ∀ e ∈ es, IsQuiet e) : written es = [] := by
  refine filterMap_quiet ?_ h
  rintro e (⟨stage, rfl⟩ | ⟨source, target, rfl⟩ | ⟨event, rfl, -⟩) <;> rfl

lemma quiet_evicted {es : List Effect} (h : ∀ e ∈ es, IsQuiet e) : evicted es = [] := by
  refine filterMap_quiet ?_ h
  rintro e (⟨stage, rfl⟩ | ⟨source, target, rfl⟩ | ⟨event, rfl, -⟩) <;> rfl

lemma quiet_passedTo {es : List Effect} (session : Nat) (h : ∀ e ∈ es, IsQuiet e) :
    passedTo session es = [] := by
  refine filterMap_quiet ?_ h
  rintro e (⟨stage, rfl⟩ | ⟨source, target, rfl⟩ | ⟨event, rfl, -⟩) <;> rfl

@[simp] lemma written_nil : written [] = [] := rfl

@[simp] lemma evicted_nil : evicted [] = [] := rfl

@[simp] lemma passedTo_nil (session : Nat) : passedTo session [] = [] := rfl

@[simp] lemma written_cons (x : Effect) (es : List Effect) :
    written (x :: es) = (writtenCommand? x).toList ++ written es :=
  filterMap_cons_toList writtenCommand? x es

@[simp] lemma evicted_cons (x : Effect) (es : List Effect) :
    evicted (x :: es) = (evictedCommand? x).toList ++ evicted es :=
  filterMap_cons_toList evictedCommand? x es

@[simp] lemma passedTo_cons (session : Nat) (x : Effect) (es : List Effect) :
    passedTo session (x :: es) = (passedCommand? session x).toList ++ passedTo session es :=
  filterMap_cons_toList (passedCommand? session) x es

@[simp] lemma written_append (es fs : List Effect) :
    written (es ++ fs) = written es ++ written fs := List.filterMap_append

@[simp] lemma evicted_append (es fs : List Effect) :
    evicted (es ++ fs) = evicted es ++ evicted fs := List.filterMap_append

@[simp] lemma passedTo_append (session : Nat) (es fs : List Effect) :
    passedTo session (es ++ fs) = passedTo session es ++ passedTo session fs :=
  List.filterMap_append

lemma evicted_expired (commands : List Command) :
    evicted (commands.map (.evicted · .expired)) = commands := by
  unfold evicted
  rw [List.filterMap_map]
  exact List.filterMap_some

lemma written_expired (commands : List Command) :
    written (commands.map (.evicted · .expired)) = [] := by
  unfold written
  rw [List.filterMap_map]
  simp [Function.comp_def, writtenCommand?]

lemma passedTo_expired (session : Nat) (commands : List Command) :
    passedTo session (commands.map (.evicted · .expired)) = [] := by
  unfold passedTo
  rw [List.filterMap_map]
  simp [Function.comp_def, passedCommand?]

lemma resting_inHand {p : Phase} (h : IsResting p) : inHand p = [] := by
  unfold IsResting IsParked at h
  rcases h with (rfl | rfl) | rfl | ⟨wakeAt, rfl⟩ <;> rfl

lemma free_inHand {p : Phase} (h : IsParked p ∨ IsUnconnected p) : inHand p = [] := by
  unfold IsParked IsUnconnected at h
  rcases h with (rfl | rfl) | rfl | ⟨deadline, rfl⟩ | ⟨wakeAt, rfl⟩ <;> rfl

lemma waiting_of_queue {s s' : Supervisor} (h : s'.queue = s.queue) : waiting s' = waiting s := by
  unfold waiting
  rw [h]

section Stimuli

variable {c : Config} {now : Instant} {s : Supervisor}

lemma taken_nil {stimulus : Stimulus} (h : takenEnvelope? stimulus = none) :
    taken s stimulus = [] := by
  unfold taken
  rw [h]
  rfl

lemma shutCause_taken {stimulus : Stimulus} {after : AfterClose} {notes : List Effect}
    (h : ShutCause c stimulus after notes) : takenEnvelope? stimulus = none := by
  cases h with
  | asked request after asked => cases asked <;> rfl
  | unreadable => rfl

lemma interrupted_taken {stimulus : Stimulus} {session : Nat} {e : TransportError} {u : Turn}
    (h : Interrupted now s stimulus session e u) : takenEnvelope? stimulus = none := by
  cases h <;> rfl

lemma closeEnded_taken {giveUpAt : Option Instant} {stimulus : Stimulus}
    (h : CloseEnded now giveUpAt stimulus) : takenEnvelope? stimulus = none := by
  rcases h with rfl | ⟨rfl, -⟩ <;> rfl

lemma attemptFailure_taken {deadline : Option Instant} {stimulus : Stimulus} {e : TransportError}
    (h : AttemptFailure c now deadline stimulus e) : takenEnvelope? stimulus = none := by
  cases h <;> rfl

end Stimuli

/-! The queue -/

/-- A session is live and its queue has been flushed. -/
def IsServing (p : Phase) : Prop :=
  (∃ session ticker, p = .serving session ticker) ∨
    (∃ session ticker command, p = .sending session ticker command) ∨
    ∃ session ticker, p = .pinging session ticker

/-- The queue stays within its limit, keeps a place for a command taken out of it, and is empty
while a session is served. -/
structure QueueKept (c : Config) (s : Supervisor) : Prop where
  capacity : s.queue.capacity = max c.queueCapacity 1
  length_le : s.queue.items.length ≤ s.queue.capacity
  length_lt : ∀ session item sent, s.phase = .flushing session item sent →
    s.queue.items.length < s.queue.capacity
  serving : IsServing s.phase → s.queue.items = []

lemma resting_not_serving {p : Phase} (h : IsResting p) : ¬ IsServing p := by
  unfold IsResting IsParked at h
  unfold IsServing
  rcases h with (rfl | rfl) | rfl | ⟨wakeAt, rfl⟩ <;> simp

lemma resting_not_flushing {p : Phase} (h : IsResting p) (session : Nat)
    (item : Pending Command) (sent : Nat) : p ≠ .flushing session item sent := by
  unfold IsResting IsParked at h
  rcases h with (rfl | rfl) | rfl | ⟨wakeAt, rfl⟩ <;> simp

section Queue

variable {c : Config} {now : Instant} {draw : Nat} {s s' : Supervisor} {es : List Effect}

lemma resting_queueKept (hq : s'.queue = s.queue) (hr : IsResting s'.phase)
    (hcap : s.queue.capacity = max c.queueCapacity 1)
    (hlen : s.queue.items.length ≤ s.queue.capacity) : QueueKept c s' := by
  constructor
  · rw [hq]; exact hcap
  · rw [hq]; exact hlen
  · intro session item sent hp
    exact absurd hp (resting_not_flushing hr session item sent)
  · intro hp
    exact absurd hp (resting_not_serving hr)

lemma flushTurn_queueKept {session sent : Nat} (h : FlushTurn c now session sent s (s', es))
    (hcap : s.queue.capacity = max c.queueCapacity 1)
    (hlen : s.queue.items.length ≤ s.queue.capacity) : QueueKept c s' := by
  cases h with
  | writes item rest items =>
    rw [items, List.length_cons] at hlen
    constructor
    · exact hcap
    · show rest.length ≤ s.queue.capacity
      omega
    · intro _ _ _ _
      show rest.length < s.queue.capacity
      omega
    · simp [IsServing]
  | serves ticker items first => exact ⟨hcap, hlen, by simp, fun _ => items⟩
  | crashes every items interval unshown => exact ⟨hcap, hlen, by simp, by simp [IsServing]⟩

lemma queued_length {command : Command} (h : Queued now command s (s', es))
    (hcap : 1 ≤ s.queue.capacity) (hlen : s.queue.items.length ≤ s.queue.capacity) :
    s'.queue.capacity = s.queue.capacity ∧ s'.queue.items.length ≤ s.queue.capacity := by
  cases h with
  | fits room =>
    refine ⟨rfl, ?_⟩
    show (s.queue.items ++ [_]).length ≤ s.queue.capacity
    rw [List.length_append, List.length_singleton]
    rcases room with room | room
    · omega
    · rw [room]; simpa using hcap
  | evicts old rest items full =>
    refine ⟨rfl, ?_⟩
    rw [items, List.length_cons] at hlen
    show (rest ++ [_]).length ≤ s.queue.capacity
    rw [List.length_append, List.length_singleton]
    exact hlen

lemma free_not_serving {p : Phase} (h : IsParked p ∨ IsUnconnected p) : ¬ IsServing p := by
  unfold IsParked IsUnconnected at h
  unfold IsServing
  rcases h with (rfl | rfl) | rfl | ⟨deadline, rfl⟩ | ⟨wakeAt, rfl⟩ <;> simp

lemma free_not_flushing {p : Phase} (h : IsParked p ∨ IsUnconnected p) (session : Nat)
    (item : Pending Command) (sent : Nat) : p ≠ .flushing session item sent := by
  unfold IsParked IsUnconnected at h
  rcases h with (rfl | rfl) | rfl | ⟨deadline, rfl⟩ | ⟨wakeAt, rfl⟩ <;> simp

lemma interrupted_length {stimulus : Stimulus} {session : Nat} {e : TransportError}
    (h : Interrupted now s stimulus session e (s', es)) (hs : QueueKept c s) :
    s'.queue.capacity = s.queue.capacity ∧ s'.queue.items.length ≤ s.queue.capacity := by
  have hcap := hs.capacity
  cases h with
  | flushing session item sent e phase =>
    refine ⟨rfl, ?_⟩
    show ((item :: s.queue.items).take s.queue.capacity).length ≤ s.queue.capacity
    exact List.length_take_le _ _
  | receiving => exact ⟨rfl, hs.length_le⟩
  | sending session ticker command e u phase queued =>
    exact queued_length queued (by omega) hs.length_le
  | pinging => exact ⟨rfl, hs.length_le⟩

/-- A failed session gives the command in hand back to the queue and nothing up. -/
lemma interrupted_returns {stimulus : Stimulus} {session : Nat} {e : TransportError}
    (h : Interrupted now s stimulus session e (s', es)) (hs : QueueKept c s) :
    es = [] ∧ waiting s' = inHand s.phase ++ waiting s := by
  cases h with
  | flushing session item sent e phase =>
    have hlt := hs.length_lt session item sent phase
    refine ⟨rfl, ?_⟩
    rw [phase]
    show ((item :: s.queue.items).take s.queue.capacity).map _ = _
    rw [List.take_of_length_le (by rw [List.length_cons]; omega)]
    rfl
  | receiving session ticker e phase =>
    rw [phase]
    exact ⟨rfl, rfl⟩
  | sending session ticker command e u phase queued =>
    have hempty := hs.serving (Or.inr (Or.inl ⟨session, ticker, command, phase⟩))
    have hw : waiting s = [] := by unfold waiting; rw [hempty]; rfl
    rw [phase, hw]
    cases queued with
    | fits room =>
      refine ⟨rfl, ?_⟩
      show (s.queue.items ++ [_]).map _ = _
      rw [hempty]
      rfl
    | evicts old rest items full =>
      rw [hempty] at items
      cases items
  | pinging session ticker e phase =>
    rw [phase]
    exact ⟨rfl, rfl⟩

theorem turned_queueKept {stimulus : Stimulus} (hs : QueueKept c s)
    (h : Turned c now draw s stimulus (s', es)) : QueueKept c s' := by
  have hcap := hs.capacity
  have hlen := hs.length_le
  cases h with
  | starts => exact ⟨hcap, hlen, by simp, by simp [IsServing]⟩
  | ignores => exact hs
  | keeps e u free queued =>
    obtain ⟨hc, hl⟩ := queued_length queued (by rw [hcap]; omega) hlen
    refine ⟨hc.trans hcap, Nat.le_trans hl (Nat.le_of_eq hc.symm), ?_, ?_⟩
    · intro session item sent hp
      exact absurd ((queued_phase queued).symm.trans hp) (free_not_flushing free session item sent)
    · intro hp
      rw [queued_phase queued] at hp
      exact absurd hp (free_not_serving free)
  | leaves => exact ⟨hcap, hlen, by simp, by simp [IsServing]⟩
  | calls => exact ⟨hcap, hlen, by simp, by simp [IsServing]⟩
  | cancels request after u unconnected asked ended =>
    exact resting_queueKept (endTurn_sameWork ended).queue (endTurn_resting ended) hcap hlen
  | opens deadline u phase flushed =>
    have hf : (unexpired now s.queue).length ≤ s.queue.capacity :=
      Nat.le_trans (List.length_filter_le _ _) hlen
    exact flushTurn_queueKept flushed hcap hf
  | fails deadline stimulus e u phase failure retried =>
    exact resting_queueKept (retryTurn_sameWork retried).queue (retryTurn_resting retried) hcap hlen
  | flushesOn session item sent u phase flushed => exact flushTurn_queueKept flushed hcap hlen
  | loses stimulus session e u v interrupted retried =>
    obtain ⟨hc, hl⟩ := interrupted_length interrupted hs
    exact resting_queueKept (retryTurn_sameWork retried).queue (retryTurn_resting retried)
      (hc.trans hcap) (Nat.le_trans hl (Nat.le_of_eq hc.symm))
  | shuts => exact ⟨hcap, hlen, by simp, by simp [IsServing]⟩
  | skipsFrame => exact hs
  | dispatches => exact hs
  | sends session ticker e phase =>
    exact ⟨hcap, hlen, by simp, fun _ => hs.serving (Or.inl ⟨session, ticker, phase⟩)⟩
  | pings session ticker next phase =>
    exact ⟨hcap, hlen, by simp, fun _ => hs.serving (Or.inl ⟨session, _, phase⟩)⟩
  | overruns => exact ⟨hcap, hlen, by simp, by simp [IsServing]⟩
  | sent session ticker command phase =>
    exact ⟨hcap, hlen, by simp,
      fun _ => hs.serving (Or.inr (Or.inl ⟨session, ticker, command, phase⟩))⟩
  | pinged session ticker phase =>
    exact ⟨hcap, hlen, by simp, fun _ => hs.serving (Or.inr (Or.inr ⟨session, ticker, phase⟩))⟩
  | wakes => exact ⟨hcap, hlen, by simp, by simp [IsServing]⟩
  | closes session giveUpAt stimulus after u phase finished ended =>
    exact resting_queueKept (endTurn_sameWork ended).queue (endTurn_resting ended) hcap hlen

end Queue

lemma fresh_queueKept (c : Config) : QueueKept c (.fresh c) := by
  constructor
  · show max (max c.queueCapacity 1) 1 = max c.queueCapacity 1
    omega
  · exact Nat.zero_le _
  · intro session item sent hp
    cases hp
  · intro _
    rfl

lemma run_queueKept {c : Config} {h : History} {s : Supervisor} (r : Run c h s) :
    QueueKept c s ∧ ∀ o ∈ h, QueueKept c o.before :=
  run_keeps (fresh_queueKept c) (fun _ _ _ _ _ _ hs _ ht => turned_queueKept hs ht) r

end SteadyLink.Proofs
