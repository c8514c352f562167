import Mathlib.Tactic.Lemma
import SteadyLink.Connection.Supervisor.Step

/-!
# The turns of the supervisor, one by one

`Turned` lists every turn that a supervisor takes while its phase and its state agree: when the turn
is taken, which supervisor it leaves behind and which effects it has. `step_turned` says that there
are no others, so that statements about runs are proved by cases on `Turned` and never open `step`.
-/

namespace SteadyLink.Proofs

open Supervisor

/-- The state that belongs to a phase; none once the loop has come to its end. -/
def phaseState? : Phase → Option ConnectionState
  | .idle => some .idle
  | .terminal => some .terminal
  | .connecting => some .connecting
  | .attempting _ => some .connecting
  | .flushing .. => some .opened
  | .serving .. => some .opened
  | .sending .. => some .opened
  | .pinging .. => some .opened
  | .retrying _ => some .retrying
  | .closing .. => some .closing
  | .exited => none
  | .crashed => some .opened

/-- The session that is held in a phase. -/
def heldSession? : Phase → Option Nat
  | .flushing session _ _ => some session
  | .serving session _ => some session
  | .sending session _ _ => some session
  | .pinging session _ => some session
  | .closing session _ _ => some session
  | _ => none

/-- The phase of a supervisor and its state agree. -/
def Aligned (s : Supervisor) : Prop := ∀ state, phaseState? s.phase = some state → s.state = state

/-- No attempt or session is under way, and none will be before a request to start. -/
def IsParked (p : Phase) : Prop := p = .idle ∨ p = .terminal

/-- An attempt is under way or due, and no session is held. -/
def IsUnconnected (p : Phase) : Prop :=
  p = .connecting ∨ (∃ deadline, p = .attempting deadline) ∨ ∃ wakeAt, p = .retrying wakeAt

/-- What a request to close leads to. -/
inductive CloseAsked : Option Control → AfterClose → Prop
  | stop : CloseAsked (some .stop) .idle
  | lastHandle : CloseAsked none .terminal

/-- A shutdown under way ends: it is finished, or it is given up, which is allowed once its time is
over or if it is not waited for. -/
def CloseEnded (now : Instant) (giveUpAt : Option Instant) (stimulus : Stimulus) : Prop :=
  stimulus = .closeFinished ∨
    stimulus = .closeGivenUp ∧ (giveUpAt = none ∨ isPast now giveUpAt = true)

/-- The items that have not waited too long. -/
def unexpired (now : Instant) (q : CommandQueue Command) : List (Pending Command) :=
  q.items.filter fun item => !q.isExpired now item

/-- The commands that have waited too long. -/
def expired (now : Instant) (q : CommandQueue Command) : List Command :=
  (q.items.filter (q.isExpired now)).map (·.command)

/-- How a command joins the queue. -/
inductive Queued (now : Instant) (command : Command) (s : Supervisor) : Turn → Prop
  | fits (room : s.queue.items.length < s.queue.capacity ∨ s.queue.items = []) :
    Queued now command s
      ({ s with queue := { s.queue with items := s.queue.items ++ [⟨command, now⟩] } }, [])
  | evicts (old : Pending Command) (rest : List (Pending Command))
      (items : s.queue.items = old :: rest) (full : s.queue.capacity ≤ s.queue.items.length) :
    Queued now command s
      ({ s with queue := { s.queue with items := rest ++ [⟨command, now⟩] } },
        [.evicted old.command .overflow])

/-- How the stage between two attempts begins: with a wait, or with the end of all attempts. -/
inductive RetryTurn (c : Config) (now : Instant) (draw : Nat) (s : Supervisor) : Turn → Prop
  | waits (allowed : c.maxAttempts.allows s.attempts = true) :
    RetryTurn c now draw s
      ({ s with phase := .retrying (now + (c.backoff.next (s.attempts - 1) draw).nanos) },
        [.began .retrying,
         .publish (.backoffScheduled s.attempts (c.backoff.next (s.attempts - 1) draw))])
  | givesUp (spent : c.maxAttempts.allows s.attempts = false) :
    RetryTurn c now draw s
      ({ s with phase := .terminal, state := .terminal },
        [.began .retrying, .moved .retrying .terminal, .publish (.policyExhausted s.attempts),
         .began .terminal])

/-- How the stage of shutting down ends. -/
inductive EndTurn (c : Config) (now : Instant) (draw : Nat) (s : Supervisor) :
    AfterClose → Turn → Prop
  | rests : EndTurn c now draw s .idle
      ({ s with state := .idle, phase := .idle }, [.moved .closing .idle, .began .idle])
  | leaves : EndTurn c now draw s .terminal
      ({ s with state := .terminal, phase := .exited }, [.moved .closing .terminal, .began .exit])
  | retries (u : Turn) (retried : RetryTurn c now draw { s with state := .retrying } u) :
    EndTurn c now draw s .retry (u.1, .moved .closing .retrying :: u.2)

/-- What is told when a flush has come to its end. -/
def flushNotes (sent : Nat) : List Effect :=
  (if sent = 0 then [] else [.publish (.queueFlushed sent)]) ++ [.publish (.ofKind .connected)]

/-- The ticker of a session that is served from now on. -/
inductive FirstTick (c : Config) (now : Instant) : Option Ticker → Prop
  | off (off : c.heartbeat? = none) : FirstTick c now none
  | after (every : Duration) (ticker : Ticker) (interval : c.heartbeat? = some every)
      (shown : Ticker.after? now every = some ticker) : FirstTick c now (some ticker)

/-- How a flush goes on: with the next command, or with the session being served. A heartbeat that
the clock cannot show is the end of the supervisor. -/
inductive FlushTurn (c : Config) (now : Instant) (session sent : Nat) (s : Supervisor) :
    Turn → Prop
  | writes (item : Pending Command) (rest : List (Pending Command))
      (items : s.queue.items = item :: rest) :
    FlushTurn c now session sent s
      ({ s with queue := { s.queue with items := rest }, phase := .flushing session item sent },
        [.write session (some item.command) (c.frame (some item.command))])
  | serves (ticker : Option Ticker) (items : s.queue.items = []) (first : FirstTick c now ticker) :
    FlushTurn c now session sent s
      ({ s with phase := .serving session ticker }, flushNotes sent ++ [.began .opened])
  | crashes (every : Duration) (items : s.queue.items = []) (interval : c.heartbeat? = some every)
      (unshown : Ticker.after? now every = none) :
    FlushTurn c now session sent s
      ({ s with phase := .crashed }, flushNotes sent ++ [.began .opened, .drop session])

/-- A failure of a live session, and the turn that puts back the command being written. -/
inductive Interrupted (now : Instant) (s : Supervisor) :
    Stimulus → Nat → TransportError → Turn → Prop
  | flushing (session : Nat) (item : Pending Command) (sent : Nat) (e : TransportError)
      (phase : s.phase = .flushing session item sent) :
    Interrupted now s (.writeFailed e) session e ({ s with queue := s.queue.pushFront item }, [])
  | receiving (session : Nat) (ticker : Option Ticker) (e : TransportError)
      (phase : s.phase = .serving session ticker) :
    Interrupted now s (.receiveFailed e) session e (s, [])
  | sending (session : Nat) (ticker : Option Ticker) (command : Command) (e : TransportError)
      (u : Turn) (phase : s.phase = .sending session ticker command)
      (queued : Queued now command s u) : Interrupted now s (.writeFailed e) session e u
  | pinging (session : Nat) (ticker : Option Ticker) (e : TransportError)
      (phase : s.phase = .pinging session ticker) :
    Interrupted now s (.writeFailed e) session e (s, [])

/-- Why a live session is shut down, and what is told of it. -/
inductive ShutCause (c : Config) : Stimulus → AfterClose → List Effect → Prop
  | asked (request : Option Control) (after : AfterClose) (asked : CloseAsked request after) :
    ShutCause c (.mail request) after []
  | unreadable (f : Frame) (e : DecodeError) (unread : c.codec.decode f = .error e)
      (fatal : e.isFatal = true) :
    ShutCause c (.received f) .retry [.publish (.decodeFailed (.decode e))]

/-- A failure of the attempt under way. -/
inductive AttemptFailure (c : Config) (now : Instant) (deadline : Option Instant) :
    Stimulus → TransportError → Prop
  | refused (e : TransportError) : AttemptFailure c now deadline (.connectFailed e) e
  | timedOut (past : isPast now deadline = true) :
    AttemptFailure c now deadline .connectTimedOut (.timeout c.connectTimeout)

/-- The turns of a supervisor whose phase and state agree. -/
inductive Turned (c : Config) (now : Instant) (draw : Nat) (s : Supervisor) :
    Stimulus → Turn → Prop
  | starts (parked : IsParked s.phase) :
    Turned c now draw s (.mail (some .start))
      ({ s with attempts := 0, state := .connecting, phase := .connecting },
        [.moved s.state .connecting, .began .connecting])
  | ignores (request : Control)
      (idle : IsParked s.phase ∧ request = .stop ∨ IsUnconnected s.phase ∧ request = .start ∨
        (∃ session ticker, s.phase = .serving session ticker) ∧ request = .start) :
    Turned c now draw s (.mail (some request)) (s, [])
  | keeps (e : Envelope) (u : Turn) (free : IsParked s.phase ∨ IsUnconnected s.phase)
      (queued : Queued now ⟨s.accepted + 1, e⟩ { s with accepted := s.accepted + 1 } u) :
    Turned c now draw s (.mail (some (.send e))) u
  | leaves (parked : IsParked s.phase) :
    Turned c now draw s (.mail none) ({ s with phase := .exited }, [.began .exit])
  | calls (phase : s.phase = .connecting) :
    Turned c now draw s .attemptBegun
      ({ s with phase := .attempting (c.connectTimeout?.map fun limit => now + limit.nanos) },
        [.connect])
  | cancels (request : Option Control) (after : AfterClose) (u : Turn)
      (unconnected : IsUnconnected s.phase) (asked : CloseAsked request after)
      (ended : EndTurn c now draw { s with state := .closing } after u) :
    Turned c now draw s (.mail request)
      (u.1, .moved s.state .closing :: .began .closing :: u.2)
  | opens (deadline : Option Instant) (u : Turn) (phase : s.phase = .attempting deadline)
      (flushed : FlushTurn c now s.sessions 0
        { s with
          attempts := 0, sessions := s.sessions + 1, state := .opened
          queue := { s.queue with items := unexpired now s.queue } } u) :
    Turned c now draw s .connected
      (u.1, .moved .connecting .opened :: ((expired now s.queue).map (.evicted · .expired) ++ u.2))
  | fails (deadline : Option Instant) (stimulus : Stimulus) (e : TransportError) (u : Turn)
      (phase : s.phase = .attempting deadline)
      (failure : AttemptFailure c now deadline stimulus e)
      (retried : RetryTurn c now draw
        { s with attempts := min (s.attempts + 1) failureLimit, state := .retrying } u) :
    Turned c now draw s stimulus
      (u.1, .publish (.attemptFailed (min (s.attempts + 1) failureLimit) (.transport e)) ::
        .moved .connecting .retrying :: u.2)
  | flushesOn (session : Nat) (item : Pending Command) (sent : Nat) (u : Turn)
      (phase : s.phase = .flushing session item sent)
      (flushed : FlushTurn c now session (sent + 1) s u) :
    Turned c now draw s .written
      (u.1, .wrote session (some item.command) (c.frame (some item.command)) :: u.2)
  | loses (stimulus : Stimulus) (session : Nat) (e : TransportError) (u v : Turn)
      (interrupted : Interrupted now s stimulus session e u)
      (retried : RetryTurn c now draw { u.1 with state := .retrying } v) :
    Turned c now draw s stimulus
      (v.1, u.2 ++ .publish (.connectionLost (.transport e)) :: .moved .opened .retrying ::
        .drop session :: v.2)
  | shuts (session : Nat) (ticker : Option Ticker) (stimulus : Stimulus) (after : AfterClose)
      (notes : List Effect) (phase : s.phase = .serving session ticker)
      (cause : ShutCause c stimulus after notes) :
    Turned c now draw s stimulus
      ({ s with
        state := .closing
        phase := .closing session (c.closeTimeout?.map fun limit => now + limit.nanos) after },
        notes ++ [.moved .opened .closing, .began .closing, .close session])
  | skipsFrame (session : Nat) (ticker : Option Ticker) (f : Frame) (e : DecodeError)
      (phase : s.phase = .serving session ticker) (unread : c.codec.decode f = .error e)
      (harmless : e.isFatal = false) :
    Turned c now draw s (.received f) (s, [.publish (.decodeFailed (.decode e))])
  | dispatches (session : Nat) (ticker : Option Ticker) (f : Frame) (e : Envelope)
      (phase : s.phase = .serving session ticker) (read : c.codec.decode f = .ok e) :
    Turned c now draw s (.received f) (s, [.dispatch e])
  | sends (session : Nat) (ticker : Option Ticker) (e : Envelope)
      (phase : s.phase = .serving session ticker) :
    Turned c now draw s (.mail (some (.send e)))
      ({ s with
        accepted := s.accepted + 1
        phase := .sending session ticker ⟨s.accepted + 1, e⟩ },
        [.write session (some ⟨s.accepted + 1, e⟩) (c.frame (some ⟨s.accepted + 1, e⟩))])
  | pings (session : Nat) (ticker next : Ticker)
      (phase : s.phase = .serving session (some ticker)) (due : ticker.isDue now = true)
      (shown : ticker.tick? now = some next) :
    Turned c now draw s .heartbeatDue
      ({ s with phase := .pinging session (some next) }, [.write session none (c.frame none)])
  | overruns (session : Nat) (ticker : Ticker) (phase : s.phase = .serving session (some ticker))
      (due : ticker.isDue now = true) (unshown : ticker.tick? now = none) :
    Turned c now draw s .heartbeatDue ({ s with phase := .crashed }, [.drop session])
  | sent (session : Nat) (ticker : Option Ticker) (command : Command)
      (phase : s.phase = .sending session ticker command) :
    Turned c now draw s .written
      ({ s with phase := .serving session ticker },
        [.wrote session (some command) (c.frame (some command))])
  | pinged (session : Nat) (ticker : Option Ticker) (phase : s.phase = .pinging session ticker) :
    Turned c now draw s .written
      ({ s with phase := .serving session ticker }, [.wrote session none (c.frame none)])
  | wakes (wakeAt : Instant) (phase : s.phase = .retrying wakeAt) (due : wakeAt ≤ now) :
    Turned c now draw s .timerElapsed
      ({ s with state := .connecting, phase := .connecting },
        [.moved .retrying .connecting, .began .connecting])
  | closes (session : Nat) (giveUpAt : Option Instant) (stimulus : Stimulus) (after : AfterClose)
      (u : Turn) (phase : s.phase = .closing session giveUpAt after)
      (finished : CloseEnded now giveUpAt stimulus) (ended : EndTurn c now draw s after u) :
    Turned c now draw s stimulus (u.1, .drop session :: u.2)

/-! The parts of a turn -/

section Parts

variable (c : Config) (now : Instant) (draw : Nat) (s : Supervisor)

lemma emit_andThen (e : Effect) (f : Supervisor → Turn) :
    (s.emit e).andThen f = ((f s).1, e :: (f s).2) := rfl

lemma nil_andThen (f : Supervisor → Turn) : Turn.andThen (s, []) f = f s := rfl

lemma moveTo_edge (target : ConnectionState) (h : s.state.canTransitionTo target = true) :
    s.moveTo target = ({ s with state := target }, [.moved s.state target]) := by
  unfold moveTo
  rw [if_pos h]

lemma beginRetrying_turn (h : s.state = .retrying) :
    RetryTurn c now draw s (s.beginRetrying c now draw) := by
  unfold beginRetrying
  rw [emit_andThen]
  by_cases ha : c.maxAttempts.allows s.attempts = true
  · simp only [if_pos ha]
    exact RetryTurn.waits ha
  · simp only [if_neg ha]
    rw [moveTo_edge s .terminal (by rw [h]; rfl), h]
    exact RetryTurn.givesUp (by simpa using ha)

lemma endClosing_turn (after : AfterClose) (h : s.state = .closing) :
    EndTurn c now draw s after (s.endClosing c now draw after) := by
  cases after with
  | idle =>
    unfold endClosing
    rw [moveTo_edge s .idle (by rw [h]; rfl), h]
    exact EndTurn.rests
  | retry =>
    unfold endClosing
    rw [moveTo_edge s .retrying (by rw [h]; rfl), h]
    exact EndTurn.retries _ (beginRetrying_turn c now draw { s with state := .retrying } rfl)
  | terminal =>
    unfold endClosing
    rw [moveTo_edge s .terminal (by rw [h]; rfl), h]
    exact EndTurn.leaves

lemma enqueue_turn (command : Command) : Queued now command s (s.enqueue now command) := by
  unfold enqueue CommandQueue.push
  by_cases hfull : s.queue.capacity ≤ s.queue.items.length
  · rw [if_pos hfull]
    cases hi : s.queue.items with
    | nil =>
      have hq : Queued now command s _ := Queued.fits (Or.inr hi)
      rw [hi] at hq
      exact hq
    | cons old rest => exact Queued.evicts old rest hi hfull
  · rw [if_neg hfull]
    exact Queued.fits (Or.inl (by omega))

lemma serve_turn (session sent : Nat) (h : s.queue.items = []) :
    FlushTurn c now session sent s
      ((s.serve c now session).1, flushNotes sent ++ (s.serve c now session).2) := by
  unfold serve
  rw [emit_andThen]
  cases hb : c.heartbeat? with
  | none => exact FlushTurn.serves none h (FirstTick.off hb)
  | some every =>
    cases ht : Ticker.after? now every with
    | some ticker =>
      simp only [ht]
      exact FlushTurn.serves (some ticker) h (FirstTick.after every ticker hb ht)
    | none =>
      simp only [ht]
      exact FlushTurn.crashes every h hb ht

lemma flush_turn (session sent : Nat) :
    FlushTurn c now session sent s (s.flush c now session sent) := by
  unfold flush CommandQueue.pop?
  cases hi : s.queue.items with
  | nil =>
    have hs := serve_turn c now s session sent hi
    by_cases h0 : sent = 0
    · simpa [h0, flushNotes, stay, emit, Turn.andThen] using hs
    · simpa [h0, flushNotes, emit, Turn.andThen] using hs
  | cons item rest => exact FlushTurn.writes item rest hi

lemma lose_eq (session : Nat) (e : TransportError) (h : s.state = .opened) :
    s.lose c now draw session e =
      ((beginRetrying c now draw { s with state := .retrying }).1,
        .publish (.connectionLost (.transport e)) :: .moved .opened .retrying :: .drop session ::
          (beginRetrying c now draw { s with state := .retrying }).2) := by
  unfold lose
  simp only [emit, Turn.andThen, moveTo_edge s .retrying (by rw [h]; rfl), h]
  rfl

lemma takeParked_turned (request : Option Control) (hs : Aligned s) (hp : IsParked s.phase) :
    Turned c now draw s (.mail request) (s.takeParked now request) := by
  have hedge : s.state.canTransitionTo .connecting = true := by
    rcases hp with hp | hp
    · rw [hs .idle (by rw [hp]; rfl)]; rfl
    · rw [hs .terminal (by rw [hp]; rfl)]; rfl
  match request with
  | some .start =>
    unfold takeParked
    rw [moveTo_edge { s with attempts := 0 } .connecting hedge]
    exact Turned.starts hp
  | some .stop => exact Turned.ignores .stop (Or.inl ⟨hp, rfl⟩)
  | some (.send e) => exact Turned.keeps e _ (Or.inl hp) (enqueue_turn now _ _)
  | none => exact Turned.leaves hp

lemma closing_edge (hs : Aligned s) (hp : IsUnconnected s.phase) :
    s.state.canTransitionTo .closing = true := by
  rcases hp with hp | ⟨deadline, hp⟩ | ⟨wakeAt, hp⟩
  · rw [hs .connecting (by rw [hp]; rfl)]; rfl
  · rw [hs .connecting (by rw [hp]; rfl)]; rfl
  · rw [hs .retrying (by rw [hp]; rfl)]; rfl

lemma closeUnconnected_turned (request : Option Control) (after : AfterClose) (hs : Aligned s)
    (hp : IsUnconnected s.phase) (hr : CloseAsked request after) :
    Turned c now draw s (.mail request) (s.closeUnconnected c now draw after) := by
  unfold closeUnconnected
  rw [moveTo_edge s .closing (closing_edge s hs hp)]
  exact Turned.cancels request after _ hp hr
    (endClosing_turn c now draw { s with state := .closing } after rfl)

lemma takeUnconnected_turned (request : Option Control) (hs : Aligned s)
    (hp : IsUnconnected s.phase) :
    Turned c now draw s (.mail request) (s.takeUnconnected c now draw request) := by
  match request with
  | some .start => exact Turned.ignores .start (Or.inr (Or.inl ⟨hp, rfl⟩))
  | some .stop => exact closeUnconnected_turned c now draw s _ .idle hs hp CloseAsked.stop
  | some (.send e) => exact Turned.keeps e _ (Or.inr hp) (enqueue_turn now _ _)
  | none => exact closeUnconnected_turned c now draw s _ .terminal hs hp CloseAsked.lastHandle

lemma closeSession_eq (session : Nat) (after : AfterClose) (h : s.state = .opened) :
    s.closeSession c now session after =
      ({ s with
        state := .closing
        phase := .closing session (c.closeTimeout?.map fun limit => now + limit.nanos) after },
        [.moved .opened .closing, .began .closing, .close session]) := by
  unfold closeSession
  rw [moveTo_edge s .closing (by rw [h]; rfl), h]
  rfl

lemma takeServing_turned (session : Nat) (ticker : Option Ticker) (request : Option Control)
    (hs : Aligned s) (hp : s.phase = .serving session ticker) :
    Turned c now draw s (.mail request) (s.takeServing c now session ticker request) := by
  have ho : s.state = .opened := hs .opened (by rw [hp]; rfl)
  match request with
  | some .start => exact Turned.ignores .start (Or.inr (Or.inr ⟨⟨session, ticker, hp⟩, rfl⟩))
  | some .stop =>
    unfold takeServing
    rw [closeSession_eq c now s session .idle ho]
    exact Turned.shuts session ticker _ .idle [] hp (ShutCause.asked _ _ CloseAsked.stop)
  | some (.send e) => exact Turned.sends session ticker e hp
  | none =>
    unfold takeServing
    rw [closeSession_eq c now s session .terminal ho]
    exact Turned.shuts session ticker _ .terminal [] hp (ShutCause.asked _ _ CloseAsked.lastHandle)

lemma receive_turned (session : Nat) (ticker : Option Ticker) (f : Frame) (hs : Aligned s)
    (hp : s.phase = .serving session ticker) :
    Turned c now draw s (.received f) (s.receive c now session f) := by
  have ho : s.state = .opened := hs .opened (by rw [hp]; rfl)
  unfold receive
  cases hd : c.codec.decode f with
  | ok e => exact Turned.dispatches session ticker f e hp hd
  | error e =>
    by_cases hf : e.isFatal = true
    · simp only [if_pos hf]
      rw [emit_andThen, closeSession_eq c now s session .retry ho]
      exact Turned.shuts session ticker _ .retry [.publish (.decodeFailed (.decode e))] hp
        (ShutCause.unreadable f e hd hf)
    · simp only [if_neg hf]
      exact Turned.skipsFrame session ticker f e hp hd (by simpa using hf)

lemma failAttempt_turned (deadline : Option Instant) (stimulus : Stimulus) (e : TransportError)
    (hs : Aligned s) (hp : s.phase = .attempting deadline)
    (hf : AttemptFailure c now deadline stimulus e) :
    Turned c now draw s stimulus (s.failAttempt c now draw e) := by
  have ho : s.state = .connecting := hs .connecting (by rw [hp]; rfl)
  unfold failAttempt
  simp only [emit_andThen]
  rw [moveTo_edge { s with attempts := min (s.attempts + 1) failureLimit } .retrying
    (by rw [ho]; rfl), ho]
  exact Turned.fails deadline stimulus e _ hp hf (beginRetrying_turn c now draw _ rfl)

lemma openSession_turned (deadline : Option Instant) (hs : Aligned s)
    (hp : s.phase = .attempting deadline) :
    Turned c now draw s .connected (s.openSession c now) := by
  have ho : s.state = .connecting := hs .connecting (by rw [hp]; rfl)
  unfold openSession
  simp only
  rw [moveTo_edge { s with attempts := 0, sessions := s.sessions + 1 } .opened
    (by rw [ho]; rfl), ho]
  have hf := flush_turn c now
    { s with
      attempts := 0, sessions := s.sessions + 1, state := .opened
      queue := { s.queue with items := unexpired now s.queue } } s.sessions 0
  have ht : Turned c now draw s .connected _ := Turned.opens deadline _ hp hf
  simpa [Turn.andThen, expire, CommandQueue.takeExpired, expired, unexpired] using ht

lemma lose_turned (stimulus : Stimulus) (session : Nat) (e : TransportError) (u : Turn)
    (hi : Interrupted now s stimulus session e u) (ho : u.1.state = .opened) :
    Turned c now draw s stimulus (u.andThen (lose c now draw session e)) := by
  unfold Turn.andThen
  rw [lose_eq c now draw u.1 session e ho]
  exact Turned.loses stimulus session e u _ hi (beginRetrying_turn c now draw _ rfl)

lemma lose_turned_at_once (stimulus : Stimulus) (session : Nat) (e : TransportError)
    (s' : Supervisor) (hi : Interrupted now s stimulus session e (s', []))
    (ho : s'.state = .opened) :
    Turned c now draw s stimulus (s'.lose c now draw session e) := by
  have ht := lose_turned c now draw s stimulus session e (s', []) hi ho
  rwa [nil_andThen] at ht

lemma endClosing_turned (session : Nat) (giveUpAt : Option Instant) (after : AfterClose)
    (stimulus : Stimulus) (hs : Aligned s) (hp : s.phase = .closing session giveUpAt after)
    (hf : CloseEnded now giveUpAt stimulus) :
    Turned c now draw s stimulus
      ((s.emit (.drop session)).andThen (endClosing c now draw after)) := by
  have ho : s.state = .closing := hs .closing (by rw [hp]; rfl)
  rw [emit_andThen]
  exact Turned.closes session giveUpAt stimulus after _ hp hf
    (endClosing_turn c now draw s after ho)

end Parts

/-! What the parts of a turn leave alone -/

/-- The effect has to do with no session and no command. -/
def IsQuiet (e : Effect) : Prop :=
  (∃ stage, e = .began stage) ∨ (∃ source target, e = .moved source target) ∨
    ∃ event, e = .publish event ∧ event.kind ≠ .commandEvicted

lemma filterMap_quiet {α : Type} {f : Effect → Option α} {es : List Effect}
    (hf : ∀ e, IsQuiet e → f e = none) (h : ∀ e ∈ es, IsQuiet e) : es.filterMap f = [] := by
  rw [List.filterMap_eq_nil_iff]
  intro e he
  exact hf e (h e he)

lemma filterMap_cons_toList {α β : Type} (f : α → Option β) (x : α) (l : List α) :
    (x :: l).filterMap f = (f x).toList ++ l.filterMap f := by
  cases h : f x with
  | none => rw [List.filterMap_cons_none h]; rfl
  | some y => rw [List.filterMap_cons_some h]; rfl

lemma filterMap_snoc {α β : Type} (f : α → Option β) (l : List α) (x : α) :
    (l ++ [x]).filterMap f = l.filterMap f ++ (f x).toList := by
  rw [List.filterMap_append, filterMap_cons_toList, List.filterMap_nil, List.append_nil]

/-- Two supervisors differ in nothing but their phase and state. -/
structure SameWork (s s' : Supervisor) : Prop where
  queue : s'.queue = s.queue
  attempts : s'.attempts = s.attempts
  accepted : s'.accepted = s.accepted
  sessions : s'.sessions = s.sessions

/-- Two supervisors agree in their state and in everything they count. -/
structure SameCounts (s s' : Supervisor) : Prop where
  state : s'.state = s.state
  attempts : s'.attempts = s.attempts
  accepted : s'.accepted = s.accepted
  sessions : s'.sessions = s.sessions

/-- No session is held, and none will be before another attempt. -/
def IsResting (p : Phase) : Prop := IsParked p ∨ p = .exited ∨ ∃ wakeAt, p = .retrying wakeAt

lemma resting_heldSession? {p : Phase} (h : IsResting p) : heldSession? p = none := by
  unfold IsResting IsParked at h
  rcases h with (rfl | rfl) | rfl | ⟨wakeAt, rfl⟩ <;> rfl

lemma free_heldSession? {p : Phase} (h : IsParked p ∨ IsUnconnected p) : heldSession? p = none := by
  unfold IsParked IsUnconnected at h
  rcases h with (rfl | rfl) | rfl | ⟨deadline, rfl⟩ | ⟨wakeAt, rfl⟩ <;> rfl

lemma gone_heldSession? {s : Supervisor} (h : s.isGone = true) : heldSession? s.phase = none := by
  have hp : s.phase = .exited ∨ s.phase = .crashed := by simpa [Supervisor.isGone] using h
  rcases hp with hp | hp <;> (rw [hp]; rfl)

section Frames

variable {c : Config} {now : Instant} {draw : Nat} {s s' : Supervisor} {es : List Effect}

lemma retryTurn_sameWork (h : RetryTurn c now draw s (s', es)) : SameWork s s' := by
  cases h <;> exact ⟨rfl, rfl, rfl, rfl⟩

lemma retryTurn_resting (h : RetryTurn c now draw s (s', es)) : IsResting s'.phase := by
  cases h with
  | waits => exact Or.inr (Or.inr ⟨_, rfl⟩)
  | givesUp => exact Or.inl (Or.inr rfl)

lemma retryTurn_quiet (h : RetryTurn c now draw s (s', es)) : ∀ e ∈ es, IsQuiet e := by
  cases h <;> simp [IsQuiet]

lemma endTurn_sameWork {after : AfterClose} (h : EndTurn c now draw s after (s', es)) :
    SameWork s s' := by
  cases h with
  | rests => exact ⟨rfl, rfl, rfl, rfl⟩
  | leaves => exact ⟨rfl, rfl, rfl, rfl⟩
  | retries u retried =>
    have hw := retryTurn_sameWork retried
    exact ⟨hw.queue, hw.attempts, hw.accepted, hw.sessions⟩

lemma endTurn_resting {after : AfterClose} (h : EndTurn c now draw s after (s', es)) :
    IsResting s'.phase := by
  cases h with
  | rests => exact Or.inl (Or.inl rfl)
  | leaves => exact Or.inr (Or.inl rfl)
  | retries u retried => exact retryTurn_resting retried

lemma endTurn_quiet {after : AfterClose} (h : EndTurn c now draw s after (s', es)) :
    ∀ e ∈ es, IsQuiet e := by
  cases h with
  | rests => simp [IsQuiet]
  | leaves => simp [IsQuiet]
  | retries u retried =>
    intro e he
    rcases List.mem_cons.mp he with rfl | he
    · exact Or.inr (Or.inl ⟨_, _, rfl⟩)
    · exact retryTurn_quiet retried e he

lemma shutCause_quiet {stimulus : Stimulus} {after : AfterClose} {notes : List Effect}
    (h : ShutCause c stimulus after notes) : ∀ e ∈ notes, IsQuiet e := by
  cases h <;> simp [IsQuiet]

lemma flushNotes_quiet (sent : Nat) : ∀ e ∈ flushNotes sent, IsQuiet e := by
  intro e he
  unfold flushNotes at he
  by_cases h0 : sent = 0
  · rw [if_pos h0] at he
    simp at he
    exact Or.inr (Or.inr ⟨_, he, by simp⟩)
  · rw [if_neg h0] at he
    simp at he
    rcases he with he | he
    · exact Or.inr (Or.inr ⟨_, he, by simp⟩)
    · exact Or.inr (Or.inr ⟨_, he, by simp⟩)

lemma queued_sameCounts {command : Command} (h : Queued now command s (s', es)) :
    SameCounts s s' := by
  cases h <;> exact ⟨rfl, rfl, rfl, rfl⟩

lemma queued_phase {command : Command} (h : Queued now command s (s', es)) :
    s'.phase = s.phase := by
  cases h <;> rfl

lemma flushTurn_sameCounts {session sent : Nat} (h : FlushTurn c now session sent s (s', es)) :
    SameCounts s s' := by
  cases h <;> exact ⟨rfl, rfl, rfl, rfl⟩

lemma interrupted_sameCounts {stimulus : Stimulus} {session : Nat} {e : TransportError}
    (h : Interrupted now s stimulus session e (s', es)) : SameCounts s s' := by
  cases h with
  | sending session ticker command e u phase queued => exact queued_sameCounts queued
  | _ => exact ⟨rfl, rfl, rfl, rfl⟩

lemma interrupted_heldSession? {stimulus : Stimulus} {session : Nat} {e : TransportError}
    (h : Interrupted now s stimulus session e (s', es)) :
    heldSession? s.phase = some session := by
  cases h with
  | flushing session item sent e phase => rw [phase]; rfl
  | receiving session ticker e phase => rw [phase]; rfl
  | sending session ticker command e u phase => rw [phase]; rfl
  | pinging session ticker e phase => rw [phase]; rfl

end Frames

/-- Every turn of a supervisor whose phase and state agree is one of the list. -/
theorem step_turned {c : Config} {now : Instant} {draw : Nat} {s : Supervisor}
    {stimulus : Stimulus} {t : Turn} (hs : Aligned s)
    (h : s.step c now draw stimulus = some t) : Turned c now draw s stimulus t := by
  have ho (p : Phase) (hp : s.phase = p) (hstate : phaseState? p = some .opened) :
      s.state = .opened := hs .opened (by rw [hp]; exact hstate)
  unfold step at h
  split at h
  case h_1 request hp =>
    obtain rfl := Option.some.inj h
    exact takeParked_turned c now draw s request hs (Or.inl hp)
  case h_2 request hp =>
    obtain rfl := Option.some.inj h
    exact takeParked_turned c now draw s request hs (Or.inr hp)
  case h_3 request hp =>
    obtain rfl := Option.some.inj h
    exact takeUnconnected_turned c now draw s request hs (Or.inl hp)
  case h_4 hp =>
    obtain rfl := Option.some.inj h
    exact Turned.calls hp
  case h_5 deadline request hp =>
    obtain rfl := Option.some.inj h
    exact takeUnconnected_turned c now draw s request hs (Or.inr (Or.inl ⟨deadline, hp⟩))
  case h_6 deadline hp =>
    obtain rfl := Option.some.inj h
    exact openSession_turned c now draw s deadline hs hp
  case h_7 deadline e hp =>
    obtain rfl := Option.some.inj h
    exact failAttempt_turned c now draw s deadline _ e hs hp (AttemptFailure.refused e)
  case h_8 deadline hp =>
    split at h
    · obtain rfl := Option.some.inj h
      exact failAttempt_turned c now draw s deadline _ _ hs hp (AttemptFailure.timedOut ‹_›)
    · cases h
  case h_9 session item sent hp =>
    obtain rfl := Option.some.inj h
    exact Turned.flushesOn session item sent _ hp (flush_turn c now s session (sent + 1))
  case h_10 session item sent e hp =>
    obtain rfl := Option.some.inj h
    exact lose_turned_at_once c now draw s _ session e _
      (Interrupted.flushing session item sent e hp) (ho _ hp rfl)
  case h_11 session ticker request hp =>
    obtain rfl := Option.some.inj h
    exact takeServing_turned c now draw s session ticker request hs hp
  case h_12 session ticker f hp =>
    obtain rfl := Option.some.inj h
    exact receive_turned c now draw s session ticker f hs hp
  case h_13 session ticker e hp =>
    obtain rfl := Option.some.inj h
    exact lose_turned_at_once c now draw s _ session e _
      (Interrupted.receiving session ticker e hp) (ho _ hp rfl)
  case h_14 session ticker hp =>
    split at h
    case isTrue due =>
      split at h
      case h_1 next shown =>
        obtain rfl := Option.some.inj h
        exact Turned.pings session ticker next hp due shown
      case h_2 unshown =>
        obtain rfl := Option.some.inj h
        exact Turned.overruns session ticker hp due unshown
    case isFalse => cases h
  case h_15 session ticker command hp =>
    obtain rfl := Option.some.inj h
    exact Turned.sent session ticker command hp
  case h_16 session ticker command e hp =>
    obtain rfl := Option.some.inj h
    have hq := enqueue_turn now s command
    exact lose_turned c now draw s _ session e _
      (Interrupted.sending session ticker command e _ hp hq)
      ((queued_sameCounts hq).state.trans (ho _ hp rfl))
  case h_17 session ticker hp =>
    obtain rfl := Option.some.inj h
    exact Turned.pinged session ticker hp
  case h_18 session ticker e hp =>
    obtain rfl := Option.some.inj h
    exact lose_turned_at_once c now draw s _ session e _
      (Interrupted.pinging session ticker e hp) (ho _ hp rfl)
  case h_19 wakeAt request hp =>
    obtain rfl := Option.some.inj h
    exact takeUnconnected_turned c now draw s request hs (Or.inr (Or.inr ⟨wakeAt, hp⟩))
  case h_20 wakeAt hp =>
    split at h
    · obtain rfl := Option.some.inj h
      rw [moveTo_edge s .connecting (by rw [hs .retrying (by rw [hp]; rfl)]; rfl),
        hs .retrying (by rw [hp]; rfl)]
      exact Turned.wakes wakeAt hp ‹_›
    · cases h
  case h_21 session giveUpAt after hp =>
    obtain rfl := Option.some.inj h
    exact endClosing_turned c now draw s session giveUpAt after _ hs hp (Or.inl rfl)
  case h_22 session giveUpAt after hp =>
    split at h
    · rename_i hg
      obtain rfl := Option.some.inj h
      exact endClosing_turned c now draw s session giveUpAt after _ hs hp
        (Or.inr ⟨rfl, by simpa using hg⟩)
    · cases h
  case h_23 => cases h

end SteadyLink.Proofs
