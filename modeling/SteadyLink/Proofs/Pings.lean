import Mathlib.Data.List.Induction
import SteadyLink.Proofs.SessionEnds

/-!
# Pings

When the next ping of a session is due, given when it was taken up and when its earlier pings were
begun, and what a single turn does to that time. `turned_pulse` says that a turn leaves it as it is,
unless it takes a session up, lets one go or begins a ping.
-/

namespace SteadyLink.Proofs

open Supervisor

/-! ## When pings are due -/

/-- When the next ping is due in a session that was taken up at the given time and whose pings so
far were begun at the times listed. -/
def dueAfter (every : Duration) (start : Instant) (begun : List Instant) : Instant :=
  begun.foldl (nextDue every) (start + every.nanos)

/-- No ping was begun before it was due. -/
def Punctual (every : Duration) (start : Instant) (begun : List Instant) : Prop :=
  ∀ earlier t later, begun = earlier ++ t :: later → dueAfter every start earlier ≤ t

section Schedule

variable (every : Duration) (start : Instant) {begun : List Instant} {t : Instant}

lemma dueAfter_concat (begun : List Instant) (t : Instant) :
    dueAfter every start (begun ++ [t]) = nextDue every (dueAfter every start begun) t := by
  unfold dueAfter
  rw [List.foldl_append, List.foldl_cons, List.foldl_nil]

lemma le_nextDue (due begun : Instant) : due + every.nanos ≤ nextDue every due begun := by
  unfold nextDue
  split
  case isTrue late =>
    have later : due ≤ begun := Nat.le_of_lt (Nat.lt_of_le_of_lt (Nat.le_add_right due _) late)
    exact Nat.add_le_add_right later _
  case isFalse => exact Nat.le_refl _

/-- A late ping delays those that follow, and nothing brings one forward. -/
lemma le_dueAfter (begun : List Instant) :
    start + (begun.length + 1) * every.nanos ≤ dueAfter every start begun := by
  induction begun using List.reverseRecOn with
  | nil =>
    rw [List.length_nil, Nat.zero_add, Nat.one_mul]
    exact Nat.le_refl _
  | append_singleton begun t ih =>
    rw [dueAfter_concat, List.length_append, List.length_singleton]
    calc
      start + (begun.length + 1 + 1) * every.nanos
          = start + (begun.length + 1) * every.nanos + every.nanos := by
        rw [Nat.succ_mul (begun.length + 1), Nat.add_assoc]
      _ ≤ dueAfter every start begun + every.nanos := Nat.add_le_add_right ih _
      _ ≤ nextDue every (dueAfter every start begun) t := le_nextDue every _ _

variable {every start}

lemma punctual_concat (h : Punctual every start begun) (due : dueAfter every start begun ≤ t) :
    Punctual every start (begun ++ [t]) := by
  intro earlier u later split
  rcases List.eq_nil_or_concat later with rfl | ⟨later, v, rfl⟩
  · obtain ⟨rfl, last⟩ := List.append_inj' split rfl
    obtain rfl := (List.cons.inj last).1
    exact due
  · rw [List.concat_eq_append, ← List.cons_append, ← List.append_assoc] at split
    exact h earlier u later (List.append_inj' split rfl).1

lemma punctual_paced {k : Nat} (h : Punctual every start begun) (found : begun[k]? = some t) :
    start + (k + 1) * every.nanos ≤ t := by
  obtain ⟨bound, rfl⟩ := List.getElem?_eq_some_iff.mp found
  have split : begun = begun.take k ++ begun[k] :: begun.drop (k + 1) := by
    rw [← List.drop_eq_getElem_cons bound, List.take_append_drop]
  have early := le_dueAfter every start (begun.take k)
  rw [List.length_take_of_le (Nat.le_of_lt bound)] at early
  exact Nat.le_trans early (h _ _ _ split)

end Schedule

/-! ## What a turn does to the next ping -/

/-- The ticker that is kept while a session is served, if pings are on. -/
def keptTicker? : Phase → Option (Option Ticker)
  | .serving _ ticker => some ticker
  | .sending _ ticker _ => some ticker
  | .pinging _ ticker => some ticker
  | _ => none

/-- When the next ping is due; none if no session is served, or pings are off. -/
def pendingPing? (p : Phase) : Option Instant := (keptTicker? p).join.map Ticker.next

/-- The effect begins the writing of a ping. -/
def beginsPing : Effect → Bool
  | .write _ none _ => true
  | _ => false

/-- The turn begins a ping. -/
def Occurrence.pings (o : Occurrence) : Bool := o.effects.any beginsPing

/-- The times at which the pings of a history were begun. -/
def pingTimes (h : History) : List Instant := (h.filter Occurrence.pings).map Occurrence.now

/-- The effect has to do with a ping, of which the writing begins or has succeeded. -/
def isPing : Effect → Bool
  | .write _ command _ => command.isNone
  | .wrote _ command _ => command.isNone
  | _ => false

def Silent (es : List Effect) : Prop := ∀ e ∈ es, isPing e = false

def IsPinging (p : Phase) : Prop := ∃ session ticker, p = .pinging session ticker

/-- What a turn does to the ping that is due next. -/
inductive Pulse (c : Config) (now : Instant) (s s' : Supervisor) (es : List Effect) : Prop
  | takesUp (unkept : keptTicker? s.phase = none) (opened : .began .opened ∈ es)
      (silent : Silent es) (idle : ¬IsPinging s'.phase)
      (first : ∀ ticker, keptTicker? s'.phase = some ticker → FirstTick c now ticker)
  | goesOn (unbegun : ∀ stage, .began stage ∉ es) (silent : Silent es)
      (idle : ¬IsPinging s'.phase) (same : keptTicker? s'.phase = keptTicker? s.phase)
  | ticks (session : Nat) (ticker : Ticker) (phase : s.phase = .serving session (some ticker))
      (due : ticker.next ≤ now) (effects : es = [.write session none (c.frame none)])
      (after : s' = { s with
        phase := .pinging session
          (some ⟨nextDue ticker.period ticker.next now, ticker.period⟩) })
  | lands (session : Nat) (ticker : Option Ticker) (phase : s.phase = .pinging session ticker)
      (effects : es = [.wrote session none (c.frame none)])
      (after : s'.phase = .serving session ticker)
  | leaves (unopened : .began .opened ∉ es) (silent : Silent es)
      (unkept : keptTicker? s'.phase = none)

/-- The session held is lost, and nothing is kept to be written later. -/
structure LostBare (s s' : Supervisor) (e : TransportError) (es : List Effect) : Prop where
  told : ∃ session rest, heldSession? s.phase = some session ∧
    es = .publish (.connectionLost (.transport e)) :: .moved .opened .retrying ::
      .drop session :: rest
  unheld : heldSession? s'.phase = none
  queue : s'.queue = s.queue
  accepted : s'.accepted = s.accepted

section Turns

variable {c : Config} {now : Instant} {draw : Nat} {s s' : Supervisor} {es fs : List Effect}

@[simp] lemma silent_nil : Silent [] := List.forall_mem_nil _

@[simp] lemma silent_cons (e : Effect) (es : List Effect) :
    Silent (e :: es) ↔ isPing e = false ∧ Silent es := List.forall_mem_cons

@[simp] lemma silent_append (es fs : List Effect) :
    Silent (es ++ fs) ↔ Silent es ∧ Silent fs := List.forall_mem_append

lemma quiet_silent (h : ∀ e ∈ es, IsQuiet e) : Silent es := by
  intro e he
  rcases h e he with ⟨stage, rfl⟩ | ⟨source, target, rfl⟩ | ⟨event, rfl, -⟩ <;> rfl

lemma queued_silent {command : Command} (h : Queued now command s (s', es)) : Silent es := by
  cases h <;> simp [isPing]

lemma queued_unbegun {command : Command} (h : Queued now command s (s', es)) (stage : Stage) :
    .began stage ∉ es := by
  cases h <;> simp

lemma interrupted_silent {stimulus : Stimulus} {session : Nat} {e : TransportError}
    (h : Interrupted now s stimulus session e (s', es)) : Silent es := by
  cases h with
  | sending session ticker command e u phase queued => exact queued_silent queued
  | _ => exact silent_nil

lemma resting_unkept {p : Phase} (h : IsResting p) : keptTicker? p = none := by
  unfold IsResting IsParked at h
  rcases h with (rfl | rfl) | rfl | ⟨wakeAt, rfl⟩ <;> rfl

lemma free_not_pinging {p : Phase} (h : IsParked p ∨ IsUnconnected p) : ¬IsPinging p := by
  rintro ⟨session, ticker, rfl⟩
  have hheld := free_heldSession? h
  cases hheld

lemma serving_not_pinging {session : Nat} {ticker : Option Ticker} {p : Phase}
    (h : p = .serving session ticker) : ¬IsPinging p := by
  rintro ⟨k, t, hp⟩
  cases h.symm.trans hp

lemma flushTurn_pulse {t : Supervisor} {session sent : Nat}
    (h : FlushTurn c now session sent t (s', fs)) (unkept : keptTicker? s.phase = none)
    (silent : Silent es) (unopened : .began .opened ∉ es) : Pulse c now s s' (es ++ fs) := by
  have notes := quiet_silent (flushNotes_quiet sent)
  cases h with
  | writes item rest items => exact .leaves (by simp [unopened]) (by simp [silent, isPing]) rfl
  | serves ticker items first =>
    refine .takesUp unkept (by simp) (by simp [silent, notes, isPing]) (serving_not_pinging rfl) ?_
    intro ticker' kept
    obtain rfl := Option.some.inj kept
    exact first
  | crashes every items interval unshown =>
    exact .takesUp unkept (by simp) (by simp [silent, notes, isPing]) (by simp [IsPinging]) nofun

/-- Every turn leaves the next ping as it is, unless a session is taken up or let go, or the ping is
begun. -/
theorem turned_pulse {stimulus : Stimulus} (h : Turned c now draw s stimulus (s', es)) :
    Pulse c now s s' es := by
  cases h with
  | starts => exact .leaves (by simp) (by simp [isPing]) rfl
  | ignores request idle =>
    refine .goesOn (fun _ => List.not_mem_nil) silent_nil ?_ rfl
    rcases idle with ⟨hf, -⟩ | ⟨hf, -⟩ | ⟨⟨session, ticker, hp⟩, -⟩
    · exact free_not_pinging (Or.inl hf)
    · exact free_not_pinging (Or.inr hf)
    · exact serving_not_pinging hp
  | keeps e u free queued =>
    have hp := queued_phase queued
    refine .goesOn (queued_unbegun queued) (queued_silent queued) ?_ (congrArg keptTicker? hp)
    exact hp ▸ free_not_pinging free
  | leaves => exact .leaves (by simp) (by simp [isPing]) rfl
  | calls => exact .leaves (by simp) (by simp [isPing]) rfl
  | cancels request after u unconnected asked ended =>
    have hend := quiet_silent (endTurn_quiet ended)
    exact .leaves (by simpa using endTurn_unopened ended) (by simp [hend, isPing])
      (resting_unkept (endTurn_resting ended))
  | opens deadline u phase flushed =>
    rw [← List.cons_append]
    exact flushTurn_pulse flushed (by rw [phase]; rfl) (by simp [Silent, isPing]) (by simp)
  | fails deadline stimulus e u phase failure retried =>
    have hretry := quiet_silent (retryTurn_quiet retried)
    exact .leaves (by simpa using retryTurn_unopened retried) (by simp [hretry, isPing])
      (resting_unkept (retryTurn_resting retried))
  | flushesOn session item sent u phase flushed =>
    rw [← List.singleton_append]
    exact flushTurn_pulse flushed (by rw [phase]; rfl) (by simp [isPing]) (by simp)
  | loses stimulus session e u v interrupted retried =>
    have hput := interrupted_silent interrupted
    have hretry := quiet_silent (retryTurn_quiet retried)
    refine .leaves ?_ (by simp [hput, hretry, isPing]) (resting_unkept (retryTurn_resting retried))
    simp [interrupted_unopened interrupted, retryTurn_unopened retried]
  | shuts session ticker stimulus after notes phase cause =>
    have hnotes := quiet_silent (shutCause_quiet cause)
    exact .leaves (by cases cause <;> simp) (by simp [hnotes, isPing]) rfl
  | skipsFrame session ticker f e phase =>
    exact .goesOn (by simp) (by simp [isPing]) (serving_not_pinging phase) rfl
  | dispatches session ticker f e phase =>
    exact .goesOn (by simp) (by simp [isPing]) (serving_not_pinging phase) rfl
  | sends session ticker e phase =>
    exact .goesOn (by simp) (by simp [isPing]) (by simp [IsPinging]) (by rw [phase]; rfl)
  | pings session ticker next phase due shown =>
    obtain ⟨-, rfl⟩ := tick_some shown
    exact .ticks session ticker phase (of_decide_eq_true due) rfl rfl
  | overruns => exact .leaves (by simp) (by simp [isPing]) rfl
  | sent session ticker command phase =>
    exact .goesOn (by simp) (by simp [isPing]) (serving_not_pinging rfl) (by rw [phase]; rfl)
  | pinged session ticker phase => exact .lands session ticker phase rfl rfl
  | wakes => exact .leaves (by simp) (by simp [isPing]) rfl
  | closes session giveUpAt stimulus after u phase finished ended =>
    have hend := quiet_silent (endTurn_quiet ended)
    exact .leaves (by simpa using endTurn_unopened ended) (by simp [hend, isPing])
      (resting_unkept (endTurn_resting ended))

lemma silent_begins (silent : Silent es) : es.any beginsPing = false := by
  rw [List.any_eq_false]
  intro e he begins
  have quiet := silent e he
  unfold beginsPing at begins
  split at begins
  · cases quiet
  · cases begins

lemma pulse_begins (h : Pulse c now s s' es) (begins : es.any beginsPing = true) :
    ∃ session ticker, s.phase = .serving session (some ticker) ∧ ticker.next ≤ now ∧
      es = [.write session none (c.frame none)] ∧
      s' = { s with
        phase := .pinging session
          (some ⟨nextDue ticker.period ticker.next now, ticker.period⟩) } := by
  have loud (silent : Silent es) : False := absurd ((silent_begins silent).symm.trans begins) nofun
  cases h with
  | ticks session ticker phase due effects after =>
    exact ⟨session, ticker, phase, due, effects, after⟩
  | takesUp unkept opened silent => exact (loud silent).elim
  | goesOn unbegun silent => exact (loud silent).elim
  | leaves unopened silent => exact (loud silent).elim
  | lands session ticker phase effects => simp [effects, beginsPing] at begins

lemma pulse_lands {session : Nat} {frame : String} (h : Pulse c now s s' es)
    (wrote : .wrote session none frame ∈ es) : IsPinging s.phase := by
  have loud (silent : Silent es) : False := absurd (silent _ wrote) nofun
  cases h with
  | lands session' ticker phase => exact ⟨session', ticker, phase⟩
  | takesUp unkept opened silent => exact (loud silent).elim
  | goesOn unbegun silent => exact (loud silent).elim
  | leaves unopened silent => exact (loud silent).elim
  | ticks session' ticker phase due effects => simp [effects] at wrote

lemma pulse_pinging (h : Pulse c now s s' es) (pinging : IsPinging s'.phase) :
    es.any beginsPing = true := by
  cases h with
  | ticks session ticker phase due effects => simp [effects, beginsPing]
  | takesUp unkept opened silent idle => exact absurd pinging idle
  | goesOn unbegun silent idle => exact absurd pinging idle
  | lands session ticker phase effects after => exact absurd pinging (serving_not_pinging after)
  | leaves unopened silent unkept =>
    obtain ⟨session, ticker, hp⟩ := pinging
    rw [hp] at unkept
    cases unkept

/-- While a ping is written there is nothing else to do: the next turn brings its outcome. -/
lemma turned_pinging {stimulus : Stimulus} {session : Nat} {ticker : Option Ticker}
    (hp : s.phase = .pinging session ticker) (h : Turned c now draw s stimulus (s', es)) :
    stimulus = .written ∨ ∃ e, stimulus = .writeFailed e ∧ LostBare s s' e es := by
  have free (hf : IsParked s.phase ∨ IsUnconnected s.phase) : False :=
    free_not_pinging hf ⟨session, ticker, hp⟩
  cases h with
  | pinged => exact Or.inl rfl
  | loses stimulus session' e u v interrupted retried =>
    cases interrupted with
    | pinging session' ticker' e phase =>
      have work := retryTurn_sameWork retried
      refine Or.inr ⟨e, rfl, ⟨session', v.2, by rw [phase]; rfl, rfl⟩, ?_, work.queue, work.accepted⟩
      exact resting_heldSession? (retryTurn_resting retried)
    | flushing session' item sent e phase => cases hp.symm.trans phase
    | receiving session' ticker' e phase => cases hp.symm.trans phase
    | sending session' ticker' command e u phase => cases hp.symm.trans phase
  | starts parked => exact (free (Or.inl parked)).elim
  | ignores request idle =>
    rcases idle with ⟨hf, -⟩ | ⟨hf, -⟩ | ⟨⟨session', ticker', hf⟩, -⟩
    · exact (free (Or.inl hf)).elim
    · exact (free (Or.inr hf)).elim
    · cases hp.symm.trans hf
  | keeps envelope u hf => exact (free hf).elim
  | leaves parked => exact (free (Or.inl parked)).elim
  | cancels request after u unconnected => exact (free (Or.inr unconnected)).elim
  | calls phase => cases hp.symm.trans phase
  | opens deadline u phase => cases hp.symm.trans phase
  | fails deadline stimulus e u phase => cases hp.symm.trans phase
  | flushesOn session' item sent u phase => cases hp.symm.trans phase
  | shuts session' ticker' stimulus after notes phase => cases hp.symm.trans phase
  | skipsFrame session' ticker' f e phase => cases hp.symm.trans phase
  | dispatches session' ticker' f e phase => cases hp.symm.trans phase
  | sends session' ticker' e phase => cases hp.symm.trans phase
  | pings session' ticker' next' phase => cases hp.symm.trans phase
  | overruns session' ticker' phase => cases hp.symm.trans phase
  | sent session' ticker' command phase => cases hp.symm.trans phase
  | wakes wakeAt phase => cases hp.symm.trans phase
  | closes session' giveUpAt stimulus after u phase => cases hp.symm.trans phase

lemma step_pings {session : Nat} {ticker : Ticker}
    (hp : s.phase = .serving session (some ticker)) (due : ticker.next ≤ now)
    (fits : ¬Overruns ticker.period ticker.next now) :
    s.step c now draw .heartbeatDue =
      some ({ s with
        phase := .pinging session
          (some ⟨nextDue ticker.period ticker.next now, ticker.period⟩) },
        [.write session none (c.frame none)]) := by
  have hdue : ticker.isDue now = true := decide_eq_true due
  unfold step
  rw [hp]
  simp only [hdue, if_true, tick_fits fits]
  rfl

/-- A ping is begun as soon as it is due and nothing else is being done with the session, and not
before; the clock has to show the next one. -/
lemma step_pings_iff {session : Nat} {ticker : Option Ticker}
    (hp : s.phase = .serving session ticker) :
    (∃ t, s.step c now draw .heartbeatDue = some t ∧
      t.2 = [.write session none (c.frame none)]) ↔
      ∃ kept, ticker = some kept ∧ kept.next ≤ now ∧ ¬Overruns kept.period kept.next now := by
  constructor
  · rintro ⟨t, taken, begun⟩
    cases ticker with
    | none =>
      unfold step at taken
      rw [hp] at taken
      cases taken
    | some ticker =>
      refine ⟨ticker, rfl, ?_⟩
      unfold step at taken
      rw [hp] at taken
      simp only at taken
      split at taken
      case isFalse => cases taken
      case isTrue due =>
        refine ⟨of_decide_eq_true due, ?_⟩
        split at taken
        case h_1 next shown => exact (tick_some shown).1
        case h_2 =>
          obtain rfl := Option.some.inj taken
          cases begun
  · rintro ⟨kept, rfl, due, fits⟩
    exact ⟨_, step_pings hp due fits, rfl⟩

end Turns

end SteadyLink.Proofs
