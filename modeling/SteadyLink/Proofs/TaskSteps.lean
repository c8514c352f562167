import Mathlib.Tactic.Lemma
import SteadyLink.Client.Task

/-!
# The steps of tasks

`HookRun`, `ListenerRun` and `FeedTurn` list every step of a hook, of the listener and of the task of a
feed. A hook or listener that finds nothing to read takes another step to see whether it shall end, and
others may come in between: what it is to read last may have come after it has looked.
-/

namespace SteadyLink.Proofs

/-- There is nothing to read for the hook. -/
def FindsNothing (s : Client) (h : Hook) : Prop :=
  h.source = .transitions [] ∨
    ∃ id, h.source = .faults id ∧ (s.hub.bus.receive id).1 = .empty

/-- The steps of a hook. -/
inductive HookRun (s : Client) (i : Nat) (h : Hook) : Client → Prop
  | calls (source target : ConnectionState) (rest : List (ConnectionState × ConnectionState))
      (reading : h.pass = .reading) (queue : h.source = .transitions ((source, target) :: rest)) :
    HookRun s i h ((s.setHook i { h with source := .transitions rest }).onHub
      (·.note (.stateHookCalled i source target)))
  | tells (id : Nat) (e : Event) (fault : Fault) (reading : h.pass = .reading)
      (source : h.source = .faults id) (found : (s.hub.bus.receive id).1 = .event e)
      (shown : e.fault = some fault) :
    HookRun s i h ((s.onHub fun hub => { hub with bus := (s.hub.bus.receive id).2 }).onHub
      (·.note (.errorHookCalled i fault)))
  | skips (id : Nat) (reading : h.pass = .reading) (source : h.source = .faults id)
      (found : (∃ e, (s.hub.bus.receive id).1 = .event e ∧ e.fault = none) ∨
        ∃ n, (s.hub.bus.receive id).1 = .lagged n) :
    HookRun s i h (s.onHub fun hub => { hub with bus := (s.hub.bus.receive id).2 })
  | finds (reading : h.pass = .reading) (nothing : FindsNothing s h) :
    HookRun s i h (s.setHook i { h with pass := .checking })
  | rests (checking : h.pass = .checking) (kept : h.removed = false) (goesOn : s.shutdown = false) :
    HookRun s i h (s.setHook i { h with pass := .waiting })
  | wakes (waiting : h.pass = .waiting)
      (cause : h.removed = true ∨ s.shutdown = true ∨ ¬FindsNothing s h) :
    HookRun s i h (s.setHook i { h with pass := .reading })
  | leaves (checking : h.pass = .checking) (cause : h.removed = true ∨ s.shutdown = true) :
    HookRun s i h (s.endHook i h)
  /-- Nobody is left to publish anything. -/
  | parts (id : Nat) (reading : h.pass = .reading) (source : h.source = .faults id)
      (found : (s.hub.bus.receive id).1 = .closed) : HookRun s i h (s.endHook i h)

/-- The steps of the listener. -/
inductive ListenerRun (s : Client) : Client → Prop
  | hears (id : Nat) (e : Event) (there : s.listener = some id) (reading : s.listening = .reading)
      (found : (s.hub.bus.receive id).1 = .event e) :
    ListenerRun s ((s.onHub fun hub => { hub with bus := (s.hub.bus.receive id).2 }).emit e)
  | skips (id n : Nat) (there : s.listener = some id) (reading : s.listening = .reading)
      (found : (s.hub.bus.receive id).1 = .lagged n) :
    ListenerRun s (s.onHub fun hub => { hub with bus := (s.hub.bus.receive id).2 })
  | finds (id : Nat) (there : s.listener = some id) (reading : s.listening = .reading)
      (nothing : (s.hub.bus.receive id).1 = .empty) :
    ListenerRun s { s with listening := .checking }
  | rests (id : Nat) (there : s.listener = some id) (checking : s.listening = .checking)
      (goesOn : s.shutdown = false) : ListenerRun s { s with listening := .waiting }
  | wakes (id : Nat) (there : s.listener = some id) (waiting : s.listening = .waiting)
      (cause : s.shutdown = true ∨ (s.hub.bus.receive id).1 ≠ .empty) :
    ListenerRun s { s with listening := .reading }
  | leaves (id : Nat) (there : s.listener = some id) (checking : s.listening = .checking)
      (cause : s.shutdown = true) : ListenerRun s { s with listener := none }
  /-- Nobody is left to publish anything. -/
  | parts (id : Nat) (there : s.listener = some id) (reading : s.listening = .reading)
      (found : (s.hub.bus.receive id).1 = .closed) : ListenerRun s { s with listener := none }

/-- A step of a feed's task: whether it asks for a snapshot, should the connection be open, and what
the task does next. -/
inductive FeedTurn (s : Client) (f : MetricsFeed) : Bool → FeedTask → Prop
  | starts (first : f.task = .starting) : FeedTurn s f true (s.startedTask f)
  | leaves {seen : Nat} {ticker : Option Ticker} (waiting : f.task = .waiting seen ticker)
      (left : f.attached = false) : FeedTurn s f false .ended
  | looks {seen : Nat} {ticker : Option Ticker} (waiting : f.task = .waiting seen ticker)
      (alive : f.attached = true) (news : seen ≠ s.hub.stateChanges) :
    FeedTurn s f true (.waiting s.hub.stateChanges ticker)
  | mourns {ticker : Option Ticker} (waiting : f.task = .waiting s.hub.stateChanges ticker)
      (alive : f.attached = true) (gone : s.supervisor.isGone = true) : FeedTurn s f false .ended
  | ticks {ticker next : Ticker} (waiting : f.task = .waiting s.hub.stateChanges (some ticker))
      (alive : f.attached = true) (there : s.supervisor.isGone = false)
      (due : ticker.isDue s.hub.now = true) (shown : ticker.tick? s.hub.now = some next) :
    FeedTurn s f true (.waiting s.hub.stateChanges (some next))
  | overruns {ticker : Ticker} (waiting : f.task = .waiting s.hub.stateChanges (some ticker))
      (alive : f.attached = true) (there : s.supervisor.isGone = false)
      (due : ticker.isDue s.hub.now = true) (unshown : ticker.tick? s.hub.now = none) :
    FeedTurn s f false .ended

/-- What comes into the mailbox when the feed asks. -/
def asked (s : Client) (f : MetricsFeed) : List Control :=
  if s.hub.state = .opened ∧ s.hub.accepting = true then
    [.send (Envelope.requestMetrics f.category)]
  else []

/-- The client after a step of the task of a feed. -/
def afterFeed (s : Client) (k : Nat) (f : MetricsFeed) (asks : Bool) (task : FeedTask) : Client :=
  { s with
    hub := { s.hub with
      mailbox := s.hub.mailbox ++ if asks then asked s f else []
      feeds := s.hub.feeds.modify k ({ · with task }) } }

section Steps

variable {s s' : Client} {i : Nat} {h : Hook} {f : MetricsFeed} {k : Nat}

lemma hasNews_iff : s.hasNews h = true ↔ ¬FindsNothing s h := by
  unfold Client.hasNews FindsNothing
  cases hsource : h.source with
  | transitions queue => cases queue <;> simp
  | faults id => simp

lemma readHook_run (reading : h.pass = .reading) : HookRun s i h (s.readHook i h) := by
  unfold Client.readHook
  split
  case h_1 source target rest hsource => exact .calls source target rest reading hsource
  case h_2 hsource => exact .finds reading (Or.inl hsource)
  case h_3 id hsource =>
    simp only
    split
    case h_1 e found =>
      split
      case h_1 fault shown => exact .tells id e fault reading hsource found shown
      case h_2 unshown => exact .skips id reading hsource (Or.inl ⟨e, found, unshown⟩)
    case h_2 n found => exact .skips id reading hsource (Or.inr ⟨n, found⟩)
    case h_3 nothing => exact .finds reading (Or.inr ⟨id, hsource, nothing⟩)
    case h_4 found => exact .parts id reading hsource found

/-- There are no other steps of a hook. -/
theorem stepHook_run (taken : s.stepHook i h = some s') : HookRun s i h s' := by
  unfold Client.stepHook at taken
  split at taken
  case h_1 reading =>
    obtain rfl := Option.some.inj taken
    exact readHook_run reading
  case h_2 checking =>
    split at taken
    case isTrue cause =>
      obtain rfl := Option.some.inj taken
      exact .leaves checking (by simpa using cause)
    case isFalse goesOn =>
      obtain rfl := Option.some.inj taken
      obtain ⟨kept, unending⟩ : h.removed = false ∧ s.shutdown = false := by simpa using goesOn
      exact .rests checking kept unending
  case h_3 waiting =>
    split at taken
    case isTrue cause =>
      obtain rfl := Option.some.inj taken
      refine .wakes waiting ?_
      rwa [Bool.or_eq_true, Bool.or_eq_true, hasNews_iff, or_assoc] at cause
    case isFalse => cases taken

/-- There are no other steps of the listener. -/
theorem stepListener_run (taken : s.stepListener = some s') : ListenerRun s s' := by
  unfold Client.stepListener at taken
  split at taken
  case h_1 => cases taken
  case h_2 id there =>
    split at taken
    case h_1 reading =>
      obtain rfl := Option.some.inj taken
      unfold Client.readListener
      simp only
      split
      case h_1 e found => exact .hears id e there reading found
      case h_2 n found => exact .skips id n there reading found
      case h_3 nothing => exact .finds id there reading nothing
      case h_4 found => exact .parts id there reading found
    case h_2 checking =>
      split at taken
      case isTrue cause =>
        obtain rfl := Option.some.inj taken
        exact .leaves id there checking cause
      case isFalse goesOn =>
        obtain rfl := Option.some.inj taken
        exact .rests id there checking (Bool.eq_false_iff.mpr goesOn)
    case h_3 waiting =>
      split at taken
      case isTrue cause =>
        obtain rfl := Option.some.inj taken
        exact .wakes id there waiting (by simpa using cause)
      case isFalse => cases taken

lemma requestIfOpen_eq (s : Client) (f : MetricsFeed) :
    s.requestIfOpen f = { s with hub := { s.hub with mailbox := s.hub.mailbox ++ asked s f } } := by
  have hopen : s.hub.state.isOpen = true ↔ s.hub.state = .opened := by
    cases s.hub.state <;> simp [ConnectionState.isOpen]
  unfold Client.requestIfOpen asked
  by_cases ho : s.hub.state = .opened
  · rw [if_pos (hopen.mpr ho)]
    show { s with hub := (s.hub.post _).1 } = _
    unfold Hub.post
    by_cases ha : s.hub.accepting = true
    · rw [if_pos ha, if_pos ⟨ho, ha⟩]
    · rw [if_neg ha, if_neg (fun both => ha both.2), List.append_nil]
  · rw [if_neg (fun h => ho (hopen.mp h)), if_neg (fun both => ho both.1), List.append_nil]

lemma setFeedTask_eq (s : Client) (k : Nat) (f : MetricsFeed) (task : FeedTask) :
    s.setFeedTask k task = afterFeed s k f false task := by
  simp [Client.setFeedTask, Client.onHub, afterFeed]

lemma requested_eq (s : Client) (k : Nat) (f : MetricsFeed) (task : FeedTask) :
    (s.requestIfOpen f).setFeedTask k task = afterFeed s k f true task := by
  simp [requestIfOpen_eq, Client.setFeedTask, Client.onHub, afterFeed]

/-- Every step of a feed's task is one of those that there are. -/
theorem feed_turn (hs : s.stepFeed k f = some s') :
    ∃ asks task, FeedTurn s f asks task ∧ s' = afterFeed s k f asks task := by
  unfold Client.stepFeed at hs
  split at hs
  case h_1 first =>
    obtain rfl := Option.some.inj hs
    exact ⟨true, _, .starts first, requested_eq s k f _⟩
  case h_2 seen ticker waiting =>
    by_cases left : f.attached = true
    · rw [if_neg (by simpa using left)] at hs
      by_cases news : seen ≠ s.hub.stateChanges
      · rw [if_pos news] at hs
        obtain rfl := Option.some.inj hs
        exact ⟨true, _, .looks waiting left news, requested_eq s k f _⟩
      · obtain rfl := Decidable.of_not_not news
        rw [if_neg news] at hs
        by_cases gone : s.supervisor.isGone = true
        · rw [if_pos gone] at hs
          obtain rfl := Option.some.inj hs
          exact ⟨false, _, .mourns waiting left gone, setFeedTask_eq s k f _⟩
        · rw [if_neg gone] at hs
          cases ticker with
          | none => cases hs
          | some ticker =>
            simp only at hs
            split at hs
            case isTrue due =>
              have there : s.supervisor.isGone = false := by simpa using gone
              split at hs
              case h_1 next shown =>
                obtain rfl := Option.some.inj hs
                exact ⟨true, _, .ticks waiting left there due shown, requested_eq s k f _⟩
              case h_2 unshown =>
                obtain rfl := Option.some.inj hs
                exact ⟨false, _, .overruns waiting left there due unshown, setFeedTask_eq s k f _⟩
            case isFalse => cases hs
    · rw [if_pos (by simpa using left)] at hs
      obtain rfl := Option.some.inj hs
      exact ⟨false, _, .leaves waiting (by simpa using left), setFeedTask_eq s k f _⟩
  case h_3 => cases hs

/-- A task that takes a step has not ended. -/
lemma feedTurn_running {asks : Bool} {task : FeedTask} (turn : FeedTurn s f asks task) :
    f.task ≠ .ended := by
  cases turn with
  | starts first => rw [first]; exact nofun
  | leaves waiting => rw [waiting]; exact nofun
  | looks waiting => rw [waiting]; exact nofun
  | mourns waiting => rw [waiting]; exact nofun
  | ticks waiting => rw [waiting]; exact nofun
  | overruns waiting => rw [waiting]; exact nofun

end Steps

end SteadyLink.Proofs
