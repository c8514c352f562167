import SteadyLink.Proofs.ObserverViews

/-!
# Observers to the end

After the supervisor has left, the listener hands out what is left and ends, and the workers come to
rest. An observer whose queue was never full, behind a listener that never lagged, has been told by then
of everything that was published before the listener looked last. Between that look and the next step of
the listener the supervisor can publish its last transitions and leave: those are missed.
-/

namespace SteadyLink.Proofs

/-! ## The end of the listener -/

/-- How often the listener can run before it finds nothing. Each report that comes of an event is
one more for it to read, and may cost it an event in a ring that is full. -/
def listenerLoad (s : Client) : Nat :=
  match s.listener.bind s.hub.bus.receivers.get? with
  | some r => 2 * stock s.observers.length s + r.pending.length + r.missed
  | none => 0

section Listener

variable {s s' : Client} {id : Nat} {r : Receiver}

lemma acceptAll_load (ring : Nat) (es : List Event) (r : Receiver) :
    (acceptAll ring es r).pending.length + (acceptAll ring es r).missed ≤
      r.pending.length + r.missed + 2 * es.length := by
  have accepts (r : Receiver) (e : Event) :
      (r.accept ring e).pending.length + (r.accept ring e).missed ≤
        r.pending.length + r.missed + 2 := by
    unfold Receiver.accept
    split
    · simp only [List.length_append, List.length_singleton]
      omega
    · simp only [List.length_append, List.length_tail, List.length_singleton]
      omega
  induction es generalizing r with
  | nil => exact Nat.le_refl _
  | cons e es ih =>
    have first := accepts r e
    have rest := ih (r.accept ring e)
    rw [List.length_cons]
    show (acceptAll ring es (r.accept ring e)).pending.length +
      (acceptAll ring es (r.accept ring e)).missed ≤ _
    omega

lemma listenerLoad_eq (hl : s.listener = some id) (hr : s.hub.bus.receivers.get? id = some r) :
    listenerLoad s = 2 * stock s.observers.length s + r.pending.length + r.missed := by
  unfold listenerLoad
  rw [hl, Option.bind_some, hr]

/-- A listener that has something to read runs, and has less to do then. -/
lemma listener_reads_less (w : Wired s) (hl : s.listener = some id)
    (listening : s.listening = .reading) (hr : s.hub.bus.receivers.get? id = some r)
    (more : 0 < r.missed ∨ r.pending ≠ []) : ∃ s', next? s (.work .listener) = some s' ∧
      s'.listening = .reading ∧ listenerLoad s' < listenerLoad s := by
  by_cases behind : 0 < r.missed
  · refine ⟨_, listener_catches_up hl listening hr behind, listening, ?_⟩
    have hr' := reading_receiver s id { r with missed := 0 }
    have hl' : (reading s id { r with missed := 0 }).listener = some id := hl
    have same : stock s.observers.length (reading s id { r with missed := 0 }) =
        stock s.observers.length s := by
      rw [stock, stock, unread_listener hl' hr', unread_listener hl hr]
      rfl
    rw [listenerLoad_eq hl' hr', listenerLoad_eq hl hr]
    show 2 * stock s.observers.length _ + r.pending.length + 0 < _
    omega
  · have whole := Nat.eq_zero_of_not_pos behind
    obtain ⟨e, rest, pending⟩ := List.exists_cons_of_ne_nil (more.resolve_left behind)
    have taken := listener_reads hl listening hr whole pending
    obtain ⟨es, hannounced, -, -, hl', listening', hr'⟩ :=
      emit_airs (s := reading s id { r with pending := rest }) e hl (reading_receiver s id _)
        (w.known id (List.mem_append_left _ (by simp [hl])))
    refine ⟨_, taken, listening'.trans listening, ?_⟩
    obtain ⟨es', a⟩ := next_aired w taken
    obtain ⟨es'', d⟩ := next_draws w taken
    obtain rfl : es' = es := List.append_cancel_left (a.hub.announced.symm.trans hannounced)
    obtain rfl : es'' = es' := List.append_cancel_left (d.announced.symm.trans hannounced)
    generalize (reading s id { r with pending := rest }).emit e = s' at *
    have reports : reportCount es'' = es''.length := List.countP_eq_length.mpr (work_reports a)
    have originals : originalCount es'' = 0 := by
      refine List.countP_eq_zero.mpr fun e he => ?_
      simp [work_reports a e he]
    have drawn := d.stock
    have relapse : isRelapse s (.work .listener) = false := rfl
    rw [reports, originals, relapse] at drawn
    have length : s'.observers.length = s.observers.length := by
      simpa using congrArg List.length d.observers
    have kept := acceptAll_load s.hub.bus.ring es'' { r with pending := rest }
    have fewer : r.pending.length = rest.length + 1 := by rw [pending, List.length_cons]
    have before : (reading s id { r with pending := rest }).hub.bus.ring = s.hub.bus.ring := rfl
    rw [listenerLoad_eq hl' hr', listenerLoad_eq hl hr, length, before]
    simp only [Nat.mul_zero, Nat.add_zero, Bool.toNat_false] at drawn
    simp only at kept
    omega

/-- A listener that has looked sees that the supervisor has left. -/
lemma listener_leaves (hl : s.listener = some id) (checking : s.listening = .checking)
    (ended : s.shutdown = true) :
    next? s (.work .listener) = some { s with listener := none } := by
  show s.stepListener = _
  unfold Client.stepListener
  simp only [hl, checking, ended, if_true]

/-- A listener that waits looks again once the supervisor has left. -/
lemma listener_wakes (hl : s.listener = some id) (waiting : s.listening = .waiting)
    (ended : s.shutdown = true) :
    next? s (.work .listener) = some { s with listening := .reading } := by
  show s.stepListener = _
  unfold Client.stepListener
  simp only [hl, waiting, ended, Bool.true_or, if_true]

/-- After the supervisor has left, a listener that reads hands out what there is and ends. -/
lemma reading_stops (w : Wired s) (ended : s.shutdown = true) (hl : s.listener = some id)
    (listening : s.listening = .reading) : ∃ later s', Journey s later s' ∧ s'.listener = none := by
  induction hn : listenerLoad s using Nat.strong_induction_on generalizing s id with
  | h n ih =>
    have next := next_reads hl listening
    by_cases parts : (s.hub.bus.receive id).1 = .closed
    · refine ⟨_, _, .step _ .start next, ?_⟩
      unfold Client.readListener
      simp only [parts]
    obtain ⟨r, hr⟩ := receive_there parts
    by_cases more : 0 < r.missed ∨ r.pending ≠ []
    · obtain ⟨s', taken, listening', less⟩ := listener_reads_less w hl listening hr more
      obtain ⟨es, a⟩ := next_aired w taken
      have ended' : s'.shutdown = true := (a.still rfl).2.trans ended
      cases hl' : s'.listener with
      | none => exact ⟨_, s', .step _ .start taken, hl'⟩
      | some id' =>
        obtain ⟨later, s'', j, gone⟩ :=
          ih _ (hn ▸ less) (wired_aired w taken a) ended' hl' listening' rfl
        exact ⟨_, s'', journey_append (.step _ .start taken) j, gone⟩
    · obtain ⟨whole, pending⟩ : r.missed = 0 ∧ r.pending = [] := by simpa using more
      have finds : s.readListener id = { s with listening := .checking } := by
        unfold Client.readListener
        simp only [receive_nothing hr whole pending w.publishers]
      have j : Journey s [⟨s, .work .listener⟩] { s with listening := .checking } :=
        .step _ .start (finds ▸ next)
      exact ⟨_, _, j.step _ (listener_leaves hl rfl ended), rfl⟩

theorem listener_ends (w : Wired s) (ended : s.shutdown = true) :
    ∃ later s', Journey s later s' ∧ s'.listener = none := by
  cases hl : s.listener with
  | none => exact ⟨[], s, .start, hl⟩
  | some id =>
    cases listening : s.listening with
    | reading => exact reading_stops w ended hl listening
    | checking => exact ⟨_, _, .step _ .start (listener_leaves hl listening ended), rfl⟩
    | waiting =>
      have j : Journey s [⟨s, .work .listener⟩] { s with listening := .reading } :=
        .step _ .start (listener_wakes hl listening ended)
      obtain ⟨later, s', j', gone⟩ := reading_stops (journey_wired w j) ended hl rfl
      exact ⟨_, s', journey_append j j', gone⟩

end Listener

/-! ## The end of the workers -/

/-- How often a worker has to run until nothing is left for it. -/
def workerLoad (v : Worker) : Nat := 2 * v.waiting.length + v.current.toList.length

section Workers

variable {s : Client} {k : Nat} {v : Worker}

lemma finish_less {now : Instant} {e : Event} {v' : Worker} (hf : v.finish? now = some (e, v')) :
    workerLoad v' < workerLoad v := by
  unfold Worker.finish? at hf
  split at hf
  case h_1 current =>
    split at hf
    · obtain ⟨-, rfl⟩ := Prod.mk.inj (Option.some.inj hf)
      simp [workerLoad, current]
    · cases hf
  case h_2 => cases hf

lemma begin_less {now : Instant} {v' : Worker} (hb : v.begin? now = some v') :
    workerLoad v' < workerLoad v := by
  unfold Worker.begin? at hb
  split at hb
  case h_1 e rest current waiting =>
    obtain rfl := Option.some.inj hb
    simp only [workerLoad, current, waiting, List.length_cons, Option.toList_some,
      Option.toList_none, List.length_nil]
    omega
  case h_2 => cases hb

/-- A worker that is not at rest finishes what it handles, in time, or begins with what waits. -/
lemma busy_open (busy : v.isIdle = false) (now : Instant) : ∃ later,
    (v.finish? later).isSome = true ∨ (v.begin? later).isSome = true := by
  cases current : v.current with
  | some handling =>
    obtain ⟨e, ready⟩ := handling
    refine ⟨ready, Or.inl ?_⟩
    simp [Worker.finish?, current]
  | none =>
    cases waiting : v.waiting with
    | nil => simp [Worker.isIdle, current, waiting] at busy
    | cons e rest =>
      refine ⟨now, Or.inr ?_⟩
      simp [Worker.begin?, current, waiting]

/-- A worker that is not at rest can go on, if need be after some time. -/
lemma worker_goes_on (hv : s.observers[k]? = some v) (busy : v.isIdle = false) :
    ∃ now s' v', next? (s.pass now) (.work (.worker k)) = some s' ∧ s'.listener = s.listener ∧
      s'.observers = s.observers.set k v' ∧ workerLoad v' < workerLoad v := by
  obtain ⟨now, step⟩ := busy_open busy s.hub.now
  obtain ⟨s', hs⟩ : ∃ s', (s.pass now).stepWorker k v = some s' := by
    have clock : (s.pass now).hub.now = now := rfl
    unfold Client.stepWorker
    rw [clock]
    split
    case h_1 => simp only; split <;> exact ⟨_, rfl⟩
    case h_2 none =>
      rw [none] at step
      obtain ⟨v', hb⟩ := Option.isSome_iff_exists.mp (step.resolve_left nofun)
      rw [hb]
      exact ⟨_, rfl⟩
  have taken : next? (s.pass now) (.work (.worker k)) = some s' :=
    (worker_taken (s := s.pass now) hv).trans hs
  obtain ⟨turn, same, -⟩ := worker_observers hs
  rcases turn with ⟨e, v', hf, ho⟩ | ⟨v', hf, hb, ho⟩
  · exact ⟨now, s', v', taken, same, ho, finish_less hf⟩
  · exact ⟨now, s', v', taken, same, ho, begin_less hb⟩

/-- Workers come to rest, if they are not given anything more. -/
theorem workers_rest (gone : s.listener = none) :
    ∃ later s', Journey s later s' ∧ s'.listener = none ∧ s'.observers.isIdle = true := by
  induction hn : (s.observers.map workerLoad).sum using Nat.strong_induction_on generalizing s with
  | h n ih =>
    by_cases idle : s.observers.isIdle = true
    · exact ⟨[], s, .start, gone, idle⟩
    · have busy : ∃ v ∈ s.observers, v.isIdle = false := by
        simpa [ObserverSet.isIdle] using idle
      obtain ⟨v, hmem, hbusy⟩ := busy
      obtain ⟨k, hv⟩ := List.getElem?_of_mem hmem
      obtain ⟨now, s', v', taken, same, ho, less⟩ := worker_goes_on hv hbusy
      have hsum := sum_set workerLoad hv v'
      obtain ⟨later, s'', j, gone', rest⟩ :=
        ih _ (by rw [ho]; omega) (same.trans gone) rfl
      have passes : Journey s [⟨s, .pass now⟩] (s.pass now) := .step (.pass now) .start rfl
      exact ⟨_, s'', journey_append (passes.step _ taken) j, gone', rest⟩

end Workers

/-- The events of the supervisor and of the callbacks. -/
def originals (es : List Event) : List Event := es.filter (!isReport ·)

section Originals

variable {s₁ s : Client} {trail : Trail} {es fs : List Event}

lemma originals_append (es fs : List Event) : originals (es ++ fs) = originals es ++ originals fs :=
  List.filter_append ..

lemma originals_reports (h : ∀ e ∈ es, isReport e = true) : originals es = [] :=
  List.filter_eq_nil_iff.mpr fun e he => by simp [h e he]

/-- After the supervisor has left, nothing is published along a journey but reports. -/
lemma exited_announces (w : Wired s₁) (exited : s₁.supervisor.phase = .exited)
    (j : Journey s₁ trail s) : ∀ e ∈ publishedSince s₁ s, isReport e = true := by
  induction j with
  | start =>
    rw [publishedSince_refl]
    exact List.forall_mem_nil _
  | step choice past taken ih =>
    obtain ⟨es, a⟩ := next_aired (journey_wired w past) taken
    rw [publishedSince_step w past a.hub.announced]
    exact List.forall_mem_append.mpr ⟨ih, exited_reports (exited_silent w exited past).1 a⟩

end Originals

/-- What an observer is told of in the course of a client. -/
structure ObserverLaw (s₁ : Client) (k : Nat) (trail : Trail) (s : Client) : Prop where
  /-- The observer is told of what was published, from the first event on. -/
  inOrder : observedBy k trail <+: announced s.hub
  /-- The events of the supervisor and of the callbacks come to it in the order of their numbers, each
  once. -/
  numbered : ((originals (observedBy k trail)).map Event.seq).Pairwise (· < ·)
  /-- The listener ends after the supervisor only. -/
  outlasts : s.listener = none → s.supervisor.phase = .exited
  /-- When the listener has ended and the worker is at rest, the observer has been told of everything
  that was published before the listener looked last; so it has been told of all events of the supervisor
  and of the callbacks if and only if there was none between that look and the listener's next step. -/
  complete : s.listener = none → (s.observers[k]?).all Worker.isIdle = true →
    ∃ before gap after found mid, trail = before ++ gap ++ ⟨mid, .work .listener⟩ :: after ∧
      Journey s₁ before found ∧ LastHearing found gap mid ∧ mid.supervisor.phase = .exited ∧
      observedBy k trail = announced found.hub ∧
      (originals (observedBy k trail) = originals (announced s.hub) ↔
        originals (publishedSince found mid) = [])
  /-- After the supervisor has left, this can be reached. -/
  ends : s.supervisor.phase = .exited →
    ∃ later s', Journey s later s' ∧ s'.listener = none ∧ s'.observers.isIdle = true

/-- Behind a listener that never lags, an observer whose queue is never full sees the client up to the last
look of the listener. -/
theorem observers_see_all {c : Config} {observers : List Observer} {trail : Trail} {s : Client}
    {k : Nat} (j : Journey (.fresh c observers) trail s) (hk : k < observers.length)
    (never : NeverLags trail s) (room : NeverFull k trail) :
    ObserverLaw (.fresh c observers) k trail s := by
  have w₁ := fresh_wired c observers
  have w := journey_wired w₁ j
  obtain ⟨v, hv, whereabouts⟩ := journey_whereabouts j hk never room
  have inOrder : observedBy k trail <+: announced s.hub := by
    cases whereabouts with
    | listening id r listener there all => exact ⟨_, by rw [all, List.append_assoc]⟩
    | left past last later gone all =>
      have onward := journey_announced (journey_wired w₁ past) (journey_append last.journey later)
      rw [onward, all]
      exact (List.prefix_append _ v.waiting).trans (List.prefix_append _ _)
  refine ⟨inOrder, ?_, ?_, ?_, ?_⟩
  · have numbers := journey_numbered j
    have among : ((originals (observedBy k trail)).map Event.seq).Sublist
        ((announced s.hub).map Event.seq) :=
      (List.filter_sublist.trans inOrder.sublist).map _
    rw [numbers] at among
    exact (List.pairwise_lt_range' _).sublist among
  · intro gone
    cases whereabouts with
    | listening id r listener => rw [gone] at listener; cases listener
    | left past last later =>
      have wmid := journey_wired (journey_wired w₁ past) last.journey
      exact (exited_silent wmid (wmid.ended.mp last.asked.2) later).1
  · intro gone idle
    have empty : v.waiting = [] := by
      have rests : v.isIdle = true := by simpa [hv] using idle
      simpa [Worker.isIdle] using (Bool.and_eq_true_iff.mp rests).2
    cases whereabouts with
    | listening id r listener => rw [gone] at listener; cases listener
    | @left before gap after found mid _ past last later _ all =>
      rw [empty, List.append_nil] at all
      have wfound := journey_wired w₁ past
      have wmid := journey_wired wfound last.journey
      have exited := wmid.ended.mp last.asked.2
      refine ⟨before, gap, after, found, mid, rfl, past, last, exited, all.symm, ?_⟩
      have after := originals_reports (exited_announces wmid exited later)
      rw [← all, journey_announced wfound (journey_append last.journey later),
        publishedSince_trans wfound last.journey later, originals_append, originals_append, after,
        List.append_nil]
      exact List.self_eq_append_right
  · intro exited
    obtain ⟨later, mid, j₁, gone⟩ := listener_ends w (w.ended.mpr exited)
    obtain ⟨last, s', j₂, gone', rest⟩ := workers_rest gone
    exact ⟨_, s', journey_append j₁ j₂, gone', rest⟩

/-- An observer that fails whenever it is told of a transition. -/
def startled (name : String) : Observer :=
  ⟨name, 8, .zero, Observer.failsOn .stateChanged .other, true⟩

/-- The only handle is dropped while a session is served, after the first observer has failed once;
it fails again before the listener ends, and twice after that. -/
def departure : List Choice :=
  [.deed (.call .start), .take 0, .meet 0 .attemptBegun, .meet 0 .connected, .work .listener] ++
    List.replicate 2 (.work (.worker 0)) ++
    [.deed .dropHandle, .take 0, .meet 0 .closeFinished] ++ List.replicate 5 (.work .listener) ++
    List.replicate 2 (.work (.worker 0)) ++ List.replicate 3 (.work .listener) ++
    List.replicate 10 (.work (.worker 0)) ++ List.replicate 14 (.work (.worker 1))

/-- Two observers that fail are told of all transitions, the last one included, and of the two
reports that came in time. -/
theorem observers_see_all_departure : ∃ trail s,
    Journey (.fresh .standard [startled "first", startled "second"]) trail s ∧
      1 < [startled "first", startled "second"].length ∧ NeverLags trail s ∧ NeverFull 1 trail ∧
      ObserverLaw (.fresh .standard [startled "first", startled "second"]) 1 trail s ∧
      s.listener = none ∧ s.observers.isIdle = true ∧
      (observedBy 1 trail).map Event.kind = [.stateChanged, .stateChanged, .connected,
        .observerPanicked, .stateChanged, .stateChanged, .observerPanicked] ∧
      (announced s.hub).length = 13 := by
  have there : 1 < [startled "first", startled "second"].length := by decide
  obtain ⟨trail, s, j, never, room, rest⟩ : ∃ trail s,
      Journey (.fresh .standard [startled "first", startled "second"]) trail s ∧
        NeverLags trail s ∧ NeverFull 1 trail ∧ s.listener = none ∧ s.observers.isIdle = true ∧
        (observedBy 1 trail).map Event.kind = [.stateChanged, .stateChanged, .connected,
          .observerPanicked, .stateChanged, .stateChanged, .observerPanicked] ∧
        (announced s.hub).length = 13 :=
    travel_shows departure (by decide +kernel)
  exact ⟨trail, s, j, there, never, room, observers_see_all j there never room, rest⟩

/-- An observer that never fails. -/
def calm : Observer := ⟨"calm", 8, .zero, fun _ => none, true⟩

/-- The listener finds nothing more; then the last handle is dropped and the supervisor leaves, before the
listener looks whether it shall end. -/
def lateDeparture : List Choice :=
  [.deed (.call .start), .take 0, .work .listener, .work .listener, .deed .dropHandle, .take 0,
    .work .listener, .work (.worker 0), .work (.worker 0)]

/-- Behind a listener that never lagged, an observer whose queue was never full is at rest in the end, and
was told of none of the transitions of the shutdown. -/
theorem observers_see_all_missed : ∃ trail s, Journey (.fresh .standard [calm]) trail s ∧
    NeverLags trail s ∧ NeverFull 0 trail ∧ s.listener = none ∧ s.observers.isIdle = true ∧
    (observedBy 0 trail).filterMap transition? = [(.idle, .connecting)] ∧
    (announced s.hub).filterMap transition? =
      [(.idle, .connecting), (.connecting, .closing), (.closing, .terminal)] :=
  travel_shows lateDeparture (by decide +kernel)

end SteadyLink.Proofs
