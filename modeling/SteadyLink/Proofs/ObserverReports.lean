import SteadyLink.Proofs.ObserverPipeline

/-!
# How many reports on observers there can be

The reports on observers are bounded by the events of the supervisor and of the callbacks, if no
observer panics on a report. One that panics on every event is told of its own panics and panics on
them, without end.
-/

namespace SteadyLink.Proofs

/-- What the number of reports depends on. -/
structure ReportLaw (c : Config) (observers : List Observer) : Prop where
  /-- An event leads to a number of reports, and a panic on a report to one more on each observer,
  besides the report on itself. -/
  bounded : ∀ trail s, Journey (.fresh c observers) trail s → reportCount (announced s.hub) ≤
    observers.length * (observers.length + 1) * originalCount (announced s.hub) +
      (observers.length + 1) * relapses trail
  /-- If observers do not panic on reports, the events alone bound the reports. -/
  calm : (∀ o ∈ observers, ∀ e, isReport e = true → o.panics e = none) →
    ∀ trail s, Journey (.fresh c observers) trail s → reportCount (announced s.hub) ≤
      observers.length * (observers.length + 1) * originalCount (announced s.hub)
  /-- If one panics on whatever it is told, a single event can lead to any number of reports. -/
  endless : ∀ o ∈ observers, (∀ e, (o.panics e).isSome = true) → ∀ bound, ∃ trail s,
    Journey (.fresh c observers) trail s ∧ originalCount (announced s.hub) = 1 ∧
      bound ≤ reportCount (announced s.hub)

/-! ## Observers that are calm -/

lemma calm_relapse {s : Client} (calm : ∀ w ∈ s.observers, ∀ e, isReport e = true →
    w.observer.panics e = none) (choice : Choice) : isRelapse s choice = false := by
  unfold isRelapse
  split
  case h_2 => rfl
  case h_1 number =>
    cases hw : s.observers[number]? with
    | none => rfl
    | some w =>
      rw [Option.bind_some]
      cases hf : w.finish? s.hub.now with
      | none => rfl
      | some done =>
        have hobserver := (finish_due 0 hf).1
        cases hreport : isReport done.1 with
        | false => simp [hreport]
        | true =>
          have hnone := calm w (List.mem_of_getElem? hw) done.1 hreport
          simp [Worker.report?, hobserver, hnone]

lemma calm_relapses {c : Config} {observers : List Observer} {trail : Trail} {s : Client}
    (calm : ∀ o ∈ observers, ∀ e, isReport e = true → o.panics e = none)
    (j : Journey (.fresh c observers) trail s) : relapses trail = 0 := by
  induction j with
  | start => rfl
  | @step trail s s' choice past taken ih =>
    have hobservers := (journey_draws past).1
    have hcalm : isRelapse s choice = false := by
      refine calm_relapse (fun w hw => calm w.observer ?_) choice
      rw [← hobservers]
      exact List.mem_map_of_mem hw
    rw [relapses_step, ih, hcalm]
    rfl

/-! ## An observer that panics on everything -/

/-- A client gets to another one without any event of the supervisor or of a callback. -/
structure Churns (s s' : Client) : Prop where
  journey : ∃ later, Journey s later s'
  originals : originalCount (announced s'.hub) = originalCount (announced s.hub)
  reports : reportCount (announced s.hub) ≤ reportCount (announced s'.hub)

/-- The listener has something to read, and the observer has nothing to do. -/
structure Primed (o : Observer) (k : Nat) (s : Client) : Prop where
  wired : Wired s
  idle : s.observers[k]? = some (.idle o)
  listening : s.listening = .reading
  unread : ∃ id r, s.listener = some id ∧ s.hub.bus.receivers.get? id = some r ∧ r.pending ≠ []

section Churning

variable {s s' s'' : Client} {o : Observer} {k : Nat}

lemma churns_trans (h : Churns s s') (h' : Churns s' s'') : Churns s s'' where
  journey := by
    obtain ⟨later, j⟩ := h.journey
    obtain ⟨later', j'⟩ := h'.journey
    exact ⟨_, journey_append j j'⟩
  originals := h'.originals.trans h.originals
  reports := Nat.le_trans h.reports h'.reports

/-- Whatever a task publishes is a report. -/
lemma work_reports {t : Task} {es : List Event} (a : Aired s (.work t) es s') :
    ∀ e ∈ es, isReport e = true := by
  intro e he
  have hmem : unnumbered e ∈ taskReports s t := a.work t rfl ▸ List.mem_map_of_mem he
  rcases taskReports_kind s t hmem with hk | hk
  · exact (Bool.or_eq_true ..).mpr (Or.inl (decide_eq_true hk))
  · exact (Bool.or_eq_true ..).mpr (Or.inr (decide_eq_true hk))

lemma churns_work (w : Wired s) {t : Task} (taken : next? s (.work t) = some s') : Churns s s' := by
  obtain ⟨es, a⟩ := next_aired w taken
  have hnone : originalCount es = 0 := by
    refine List.countP_eq_zero.mpr fun e he => ?_
    simp [work_reports a e he]
  refine ⟨⟨_, .step _ .start taken⟩, ?_, ?_⟩
  · rw [a.hub.announced, originalCount_append, hnone]
    rfl
  · rw [a.hub.announced, reportCount_append]
    exact Nat.le_add_right _ _

lemma churns_pass (s : Client) (now : Instant) : Churns s (s.pass now) :=
  ⟨⟨_, .step (.pass now) .start rfl⟩, rfl, Nat.le_refl _⟩

/-! ### One round -/

lemma next_reads {id : Nat} (hl : s.listener = some id) (listening : s.listening = .reading) :
    next? s (.work .listener) = some (s.readListener id) := by
  show s.stepListener = _
  unfold Client.stepListener
  simp only [hl, listening]

lemma listener_catches_up {id : Nat} {r : Receiver} (hl : s.listener = some id)
    (listening : s.listening = .reading) (hr : s.hub.bus.receivers.get? id = some r)
    (behind : 0 < r.missed) :
    next? s (.work .listener) = some (reading s id { r with missed := 0 }) := by
  have hreads := receive_reads hr
  rw [next_reads hl listening]
  unfold Client.readListener
  generalize s.hub.bus.receive id = read at hreads
  cases hreads with
  | lagged behind => rfl
  | event e rest whole pending => omega
  | nothing whole pending => omega

lemma listener_reads {id : Nat} {r : Receiver} {e : Event} {rest : List Event}
    (hl : s.listener = some id) (listening : s.listening = .reading)
    (hr : s.hub.bus.receivers.get? id = some r) (whole : r.missed = 0)
    (pending : r.pending = e :: rest) :
    next? s (.work .listener) = some ((reading s id { r with pending := rest }).emit e) := by
  have hreads := receive_reads hr
  rw [next_reads hl listening]
  unfold Client.readListener
  generalize s.hub.bus.receive id = read at hreads
  cases hreads with
  | lagged behind => omega
  | event e' rest' whole pending' =>
    obtain ⟨rfl, rfl⟩ := List.cons.inj (pending'.symm.trans pending)
    rfl
  | nothing whole pending' =>
    rw [pending] at pending'
    cases pending'

lemma offerAll_workers (e : Event) (ws : ObserverSet) :
    (ObserverSet.offerAll e ws).2 = ws.map fun w => (w.offer e).2 := by
  induction ws with
  | nil => rfl
  | cons w ws ih => rw [offerAll_cons, ih, List.map_cons]

lemma idle_accepts (o : Observer) (e : Event) :
    ((Worker.idle o).offer e).2 = { Worker.idle o with waiting := [e] } := by
  have hroom : (Worker.idle o).waiting.length < (Worker.idle o).observer.limit :=
    Nat.lt_of_lt_of_le Nat.one_pos (Nat.le_max_right _ _)
  unfold Worker.offer
  rw [if_pos hroom]
  rfl

/-- The listener reads on and the observer takes the event. -/
lemma primed_reads (h : Primed o k s) : ∃ s' e, Churns s s' ∧ Wired s' ∧
    s'.observers[k]? = some { Worker.idle o with waiting := [e] } ∧ s'.listening = .reading ∧
    ∃ id r, s'.listener = some id ∧ s'.hub.bus.receivers.get? id = some r := by
  have reads {s : Client} (w : Wired s) (idle : s.observers[k]? = some (.idle o))
      (listening : s.listening = .reading) {id : Nat} {r : Receiver} (hl : s.listener = some id)
      (hr : s.hub.bus.receivers.get? id = some r) (whole : r.missed = 0) (hp : r.pending ≠ []) :
      ∃ s' e, Churns s s' ∧ Wired s' ∧
        s'.observers[k]? = some { Worker.idle o with waiting := [e] } ∧ s'.listening = .reading ∧
        ∃ id r, s'.listener = some id ∧ s'.hub.bus.receivers.get? id = some r := by
    obtain ⟨e, rest, pending⟩ := List.exists_cons_of_ne_nil hp
    have taken := listener_reads hl listening hr whole pending
    obtain ⟨es, -, -, ho, hlistener, hlistening, hreceiver⟩ :=
      emit_airs (s := reading s id { r with pending := rest }) e hl (reading_receiver s id _)
        (w.known id (List.mem_append_left _ (by simp [hl])))
    obtain ⟨later, j⟩ := (churns_work w taken).journey
    refine ⟨_, e, churns_work w taken, journey_wired w j, ?_, hlistening.trans listening, id, _,
      hlistener, hreceiver⟩
    rw [ho]
    show (ObserverSet.offerAll e s.observers).2[k]? = _
    rw [offerAll_workers, List.getElem?_map, idle, Option.map_some, idle_accepts]
  obtain ⟨id, r, hl, hr, hp⟩ := h.unread
  by_cases behind : 0 < r.missed
  · have taken := listener_catches_up hl h.listening hr behind
    have caught := churns_work h.wired taken
    obtain ⟨later, j⟩ := caught.journey
    obtain ⟨s', e, churned, rest⟩ := reads (journey_wired h.wired j) h.idle h.listening hl
      (reading_receiver s id _) rfl hp
    exact ⟨s', e, churns_trans caught churned, rest⟩
  · exact reads h.wired h.idle h.listening hl hr (Nat.eq_zero_of_not_pos behind) hp

lemma worker_taken {w : Worker} (hw : s.observers[k]? = some w) :
    next? s (.work (.worker k)) = s.stepWorker k w := by
  show s.stepTask (.worker k) = _
  simp only [Client.stepTask, hw]

lemma accept_pending (ring : Nat) (r : Receiver) (e : Event) : (r.accept ring e).pending ≠ [] := by
  unfold Receiver.accept
  split <;> simp

/-- A worker is done with an event that its observer panics on: the report goes over the bus. -/
lemma worker_panics {e : Event} {ready : Instant} {id : Nat} {r : Receiver} (w : Wired s)
    (hw : s.observers[k]? = some ⟨o, [], some (e, ready)⟩) (ended : ready ≤ s.hub.now)
    (panics : (o.panics e).isSome = true) (listening : s.listening = .reading)
    (hl : s.listener = some id) (hr : s.hub.bus.receivers.get? id = some r) :
    ∃ s', Churns s s' ∧ Primed o k s' ∧
      reportCount (announced s.hub) < reportCount (announced s'.hub) := by
  obtain ⟨p, hp⟩ := Option.isSome_iff_exists.mp panics
  have hf : (⟨o, [], some (e, ready)⟩ : Worker).finish? s.hub.now = some (e, .idle o) := if_pos ended
  have hreport : (Worker.idle o).report? e = some (.observerPanicked o.name p.info) := by
    rw [Worker.report?]
    exact congrArg _ hp
  obtain ⟨seen, hseen, hbus, hannounced, hobservers, hlistener, hlistening⟩ : ∃ seen : Client, seen =
      (if o.isVisible then (s.setWorker k (.idle o)).onHub (·.note (.observed k e.kind))
        else s.setWorker k (.idle o)) ∧ seen.hub.bus = s.hub.bus ∧
      announced seen.hub = announced s.hub ∧ seen.observers = s.observers.set k (.idle o) ∧
      seen.listener = s.listener ∧ seen.listening = s.listening := by
    by_cases hv : o.isVisible = true
    · exact ⟨_, (if_pos hv).symm, rfl, rfl, rfl, rfl, rfl⟩
    · exact ⟨_, (if_neg hv).symm, rfl, rfl, rfl, rfl, rfl⟩
  have taken : next? s (.work (.worker k)) = some (seen.publish (.observerPanicked o.name p.info)) := by
    rw [worker_taken hw, Client.stepWorker, hf]
    simp only [hreport]
    exact congrArg (fun seen => some (Client.publish seen _)) hseen.symm
  have churned := churns_work w taken
  obtain ⟨later, j⟩ := churned.journey
  obtain ⟨hlt, -⟩ := List.getElem?_eq_some_iff.mp hw
  have hairs : Airs (fun _ => True) (fun _ => True) seen.hub _
      (seen.publish (.observerPanicked o.name p.info)).hub := airs_publish seen.hub _
  have known : id < seen.hub.bus.subscribed := hbus ▸ w.known id (List.mem_append_left _ (by simp [hl]))
  have hreceiver := hairs.receivers id known trivial
  rw [hbus, hr, Option.map_some] at hreceiver
  refine ⟨_, churned, ⟨journey_wired w j, ?_, hlistening.trans listening, id, _,
    hlistener.trans hl, hreceiver, accept_pending _ _ _⟩, ?_⟩
  · exact (congrArg (·[k]?) hobservers).trans (List.getElem?_set_self hlt)
  · rw [hairs.announced, hannounced, reportCount_append]
    exact Nat.lt_succ_self _

/-- Whatever the observer is told leads to a report that it is told in turn. -/
lemma primed_again (h : Primed o k s) (panics : ∀ e, (o.panics e).isSome = true) :
    ∃ s', Churns s s' ∧ Primed o k s' ∧
      reportCount (announced s.hub) < reportCount (announced s'.hub) := by
  obtain ⟨s₁, e, told, w₁, hw, listening, id, r, hl, hr⟩ := primed_reads h
  let begun := s₁.setWorker k ⟨o, [], some (e, s₁.hub.now + o.pace.nanos)⟩
  have taken : next? s₁ (.work (.worker k)) = some begun := worker_taken hw
  have begins := churns_work w₁ taken
  have passes := churns_pass begun (s₁.hub.now + o.pace.nanos)
  obtain ⟨later, j⟩ := (churns_trans begins passes).journey
  obtain ⟨hlt, -⟩ := List.getElem?_eq_some_iff.mp hw
  obtain ⟨s', ends, primed, more⟩ := worker_panics (journey_wired w₁ j)
    (List.getElem?_set_self hlt) (Nat.le_refl _) (panics e) listening hl hr
  have before := churns_trans told (churns_trans begins passes)
  exact ⟨s', churns_trans before ends, primed, Nat.lt_of_le_of_lt before.reports more⟩

end Churning

/-- The first transition of a client is an event for its observers. -/
lemma first_primed (c : Config) {observers : List Observer} {k : Nat} {o : Observer}
    (ho : observers[k]? = some o) : ∃ trail s, Journey (.fresh c observers) trail s ∧
      Primed o k s ∧ originalCount (announced s.hub) = 1 := by
  cases observers with
  | nil => cases ho
  | cons first rest =>
    have j₀ : Journey (.fresh c (first :: rest)) [] _ := .start
    have j₁ := j₀.step (.deed (.call .start)) rfl
    have j₂ := j₁.step (.take 0) rfl
    have idle : (ObserverSet.ofList (first :: rest))[k]? = some (.idle o) := by
      show ((first :: rest).map Worker.idle)[k]? = _
      rw [List.getElem?_map, ho, Option.map_some]
    have wired := journey_wired (fresh_wired c _) j₂
    exact ⟨_, _, j₂, ⟨wired, idle, rfl, 0, _, rfl, rfl, accept_pending _ _ _⟩, rfl⟩

/-- Observers have a bounded number of reports made on them, unless one panics on reports. -/
theorem observer_reports_bounded (c : Config) (observers : List Observer) :
    ReportLaw c observers where
  bounded := fun _ _ j => Nat.le_trans (Nat.le_add_right _ _) (journey_draws j).2
  calm := by
    intro calm trail s j
    have hpaid := (journey_draws j).2
    rw [calm_relapses calm j] at hpaid
    exact Nat.le_trans (Nat.le_add_right _ _) hpaid
  endless := by
    intro o ho panics bound
    obtain ⟨k, hk⟩ := List.getElem?_of_mem ho
    obtain ⟨trail, s₀, j, primed, one⟩ := first_primed c hk
    have grows : ∃ s, Churns s₀ s ∧ Primed o k s ∧ bound ≤ reportCount (announced s.hub) := by
      induction bound with
      | zero => exact ⟨s₀, ⟨⟨[], .start⟩, rfl, Nat.le_refl _⟩, primed, Nat.zero_le _⟩
      | succ bound ih =>
        obtain ⟨s, churned, primed, many⟩ := ih
        obtain ⟨s', again, primed', more⟩ := primed_again primed panics
        exact ⟨s', churns_trans churned again, primed', Nat.lt_of_le_of_lt many more⟩
    obtain ⟨s, churned, -, many⟩ := grows
    obtain ⟨later, j'⟩ := churned.journey
    exact ⟨_, s, journey_append j j', churned.originals.trans one, many⟩

end SteadyLink.Proofs
