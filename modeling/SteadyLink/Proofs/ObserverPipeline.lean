import Mathlib.Algebra.BigOperators.Group.List.Basic
import Mathlib.Algebra.GroupWithZero.Nat
import SteadyLink.Proofs.ListenerRuns

/-!
# Reports on observers

An observer that refuses an event or panics on it is reported, and the report goes over the bus to all
observers. What the events under way can still lead to is a stock of reports. It grows by what the
supervisor and the callbacks publish and by observers that panic on reports; everything else draws on it.
-/

namespace SteadyLink.Proofs

/-- The event reports on an observer. -/
def isReport (e : Event) : Bool := e.kind = .observerPanicked || e.kind = .observerOverflow

def reportCount (es : List Event) : Nat := es.countP isReport

/-- How many of the events come from the supervisor and from the callbacks. -/
def originalCount (es : List Event) : Nat := es.countP (!isReport ·)

/-- An observer panics now, on a report. -/
def isRelapse (s : Client) : Choice → Bool
  | .work (.worker number) =>
    ((s.observers[number]?).bind (Worker.finish? · s.hub.now)).any fun done =>
      isReport done.1 && (done.2.report? done.1).isSome
  | _ => false

def relapses (trail : Trail) : Nat := trail.countP fun m => isRelapse m.before m.choice

/-! ## The stock of reports -/

/-- How many reports come of an event that `n` observers have not been given yet, if none of them
panics on a report. Each may refuse the event; or it panics on it, and then all may refuse the report
on that. -/
def debt (n : Nat) (e : Event) : Nat :=
  if e.kind = .observerOverflow then 0
  else if e.kind = .observerPanicked then n
  else n * (n + 1)

/-- How many reports come of an event that one of `n` observers has accepted. -/
def due (n : Nat) (e : Event) : Nat := if isReport e then 0 else n + 1

def debtOf (n : Nat) (es : List Event) : Nat := (es.map (debt n)).sum

/-- The events that an observer has accepted and is not done with. -/
def entrusted (w : Worker) : List Event := w.current.toList.map Prod.fst ++ w.waiting

def dueOf (n : Nat) (w : Worker) : Nat := ((entrusted w).map (due n)).sum

def workload (n : Nat) (ws : ObserverSet) : Nat := (ws.map (dueOf n)).sum

lemma workload_cons (n : Nat) (w : Worker) (ws : ObserverSet) :
    workload n (w :: ws) = dueOf n w + workload n ws := rfl

/-- The events that the listener has not read. -/
def unread (s : Client) : List Event :=
  match s.listener.bind s.hub.bus.receivers.get? with
  | some r => r.pending
  | none => []

/-- How many reports come of the events under way. -/
def stock (n : Nat) (s : Client) : Nat := debtOf n (unread s) + workload n s.observers

section Counts

variable {n : Nat} {e : Event} {es fs : List Event}

lemma reportCount_append (es fs : List Event) :
    reportCount (es ++ fs) = reportCount es + reportCount fs := List.countP_append

lemma originalCount_append (es fs : List Event) :
    originalCount (es ++ fs) = originalCount es + originalCount fs := List.countP_append

lemma debtOf_append (n : Nat) (es fs : List Event) : debtOf n (es ++ fs) = debtOf n es + debtOf n fs := by
  rw [debtOf, List.map_append, List.sum_append]
  rfl

lemma debtOf_suffix (h : es <:+ fs) : debtOf n es ≤ debtOf n fs := by
  obtain ⟨lost, rfl⟩ := h
  rw [debtOf_append]
  exact Nat.le_add_left _ _

lemma debt_le (n : Nat) (e : Event) : debt n e ≤ n * (n + 1) := by
  unfold debt
  split
  · exact Nat.zero_le _
  · split
    · exact Nat.le_mul_of_pos_right n (Nat.succ_pos n)
    · exact Nat.le_refl _

/-- Events that are no reports. -/
lemma originals_counted (h : ∀ e ∈ es, isReport e = false) :
    reportCount es = 0 ∧ debtOf n es ≤ n * (n + 1) * originalCount es := by
  induction es with
  | nil => exact ⟨rfl, Nat.le_refl _⟩
  | cons e es ih =>
    obtain ⟨he, hes⟩ := List.forall_mem_cons.mp h
    obtain ⟨hnone, hdebt⟩ := ih hes
    have hle := debt_le n e
    have hcount : originalCount (e :: es) = originalCount es + 1 :=
      List.countP_cons_of_pos (by simp [he])
    have hsum : debtOf n (e :: es) = debt n e + debtOf n es := rfl
    refine ⟨(List.countP_cons_of_neg (by simp [he])).trans hnone, ?_⟩
    rw [hcount, hsum, Nat.mul_succ]
    omega

/-- Events that report on an observer that was full. -/
lemma overflows_counted (h : ∀ e ∈ es, e.kind = .observerOverflow) :
    reportCount es = es.length ∧ debtOf n es = 0 := by
  constructor
  · refine List.countP_eq_length.mpr fun e he => ?_
    simp [isReport, h e he]
  · refine List.sum_eq_zero fun m hm => ?_
    obtain ⟨e, he, rfl⟩ := List.mem_map.mp hm
    exact if_pos (h e he)

end Counts

/-! ## The listener -/

section Listener

variable {n : Nat} {ws : ObserverSet} {e : Event}

lemma offer_workload (n : Nat) (w : Worker) (e : Event) : dueOf n (w.offer e).2 =
    if (w.offer e).1 then dueOf n w + due n e else dueOf n w := by
  unfold Worker.offer
  by_cases hroom : w.waiting.length < w.observer.limit
  · simp only [if_pos hroom, if_true, dueOf, entrusted, ← List.append_assoc, List.map_append,
      List.sum_append, List.map_cons, List.map_nil, List.sum_singleton]
  · simp [hroom]

lemma offer_observer (w : Worker) (e : Event) : (w.offer e).2.observer = w.observer := by
  unfold Worker.offer
  split <;> rfl

lemma offerAll_cons (e : Event) (w : Worker) (ws : ObserverSet) :
    ObserverSet.offerAll e (w :: ws) =
      (if (w.offer e).1 then (ObserverSet.offerAll e ws).1
        else (w.offer e).2.observer.name :: (ObserverSet.offerAll e ws).1,
        (w.offer e).2 :: (ObserverSet.offerAll e ws).2) := rfl

/-- Whoever does not refuse an event has accepted it. -/
lemma offerAll_workload (n : Nat) (e : Event) (ws : ObserverSet) :
    (ObserverSet.offerAll e ws).2.map Worker.observer = ws.map Worker.observer ∧
      (ObserverSet.offerAll e ws).1.length ≤ ws.length ∧
      workload n (ObserverSet.offerAll e ws).2 + (ObserverSet.offerAll e ws).1.length * due n e =
        workload n ws + ws.length * due n e := by
  induction ws with
  | nil => exact ⟨rfl, Nat.le_refl _, rfl⟩
  | cons w ws ih =>
    obtain ⟨hsame, hrefused, hwork⟩ := ih
    have hoffer := offer_workload n w e
    rw [offerAll_cons, workload_cons, workload_cons]
    refine ⟨by rw [List.map_cons, offer_observer, hsame, List.map_cons], ?_, ?_⟩
    · split
      · exact Nat.le_succ_of_le hrefused
      · exact Nat.succ_le_succ hrefused
    · cases haccepted : (w.offer e).1 with
      | true =>
        rw [haccepted, if_pos rfl] at hoffer
        simp only [if_true, List.length_cons, Nat.succ_mul, hoffer]
        omega
      | false =>
        rw [haccepted, if_neg nofun] at hoffer
        simp only [Bool.false_eq_true, if_false, List.length_cons, Nat.succ_mul, hoffer]
        omega

/-- The listener gives an event to all observers, and draws on the stock for what they refuse. -/
lemma emit_stock (ws : ObserverSet) (e : Event) :
    (ws.emit e).2.map Worker.observer = ws.map Worker.observer ∧
      (ws.emit e).1.length + workload ws.length (ws.emit e).2 ≤
        workload ws.length ws + debt ws.length e := by
  obtain ⟨hsame, hrefused, hwork⟩ := offerAll_workload ws.length e ws
  unfold ObserverSet.emit Event.isObserverOverflow
  generalize ObserverSet.offerAll e ws = offered at *
  refine ⟨hsame, ?_⟩
  by_cases ho : e.kind = .observerOverflow
  · have hdue : due ws.length e = 0 := by simp [due, isReport, ho]
    rw [hdue] at hwork
    simp only [ho, decide_true, if_true, List.length_nil, debt]
    omega
  · simp only [ho, decide_false, Bool.false_eq_true, if_false, List.length_map, debt]
    by_cases hp : e.kind = .observerPanicked
    · have hdue : due ws.length e = 0 := by simp [due, isReport, hp]
      rw [hdue] at hwork
      simp only [hp, if_true]
      omega
    · have hdue : due ws.length e = ws.length + 1 := by simp [due, isReport, ho, hp]
      rw [hdue] at hwork
      have hmore : offered.1.length ≤ offered.1.length * (ws.length + 1) :=
        Nat.le_mul_of_pos_right _ (Nat.succ_pos _)
      simp only [hp, if_false]
      omega

end Listener

/-! ## Steps -/

/-- The observers, and the listener with what it is about, are as before. -/
structure Unobserved (s s' : Client) : Prop where
  observers : s'.observers = s.observers
  listener : s'.listener = s.listener
  listening : s'.listening = s.listening

/-- A step that draws on the stock for what it publishes. -/
structure Draws (n : Nat) (s : Client) (choice : Choice) (es : List Event) (s' : Client) : Prop where
  announced : announced s'.hub = announced s.hub ++ es
  observers : s'.observers.map Worker.observer = s.observers.map Worker.observer
  stock : reportCount es + stock n s' ≤
    stock n s + n * (n + 1) * originalCount es + (n + 1) * (isRelapse s choice).toNat

section Steps

variable {s s' : Client} {choice : Choice} {es : List Event}

lemma hook_observers {i : Nat} {h : Hook} (hs : s.stepHook i h = some s') : Unobserved s s' := by
  have ends : Unobserved s (s.endHook i h) := by
    unfold Client.endHook
    split <;> exact ⟨rfl, rfl, rfl⟩
  cases stepHook_run hs with
  | leaves | parts => exact ends
  | _ => exact ⟨rfl, rfl, rfl⟩

/-- Who observes and who listens is no matter of others. -/
lemma next_observers (taken : next? s choice = some s') (hl : choice ≠ .work .listener)
    (hw : ∀ number, choice ≠ .work (.worker number)) :
    Unobserved s s' := by
  cases hst : stimulusOf? s choice with
  | some stimulus =>
    obtain ⟨draw, rest, supervisor, effects, -, -, rfl⟩ := next_turn hst taken
    obtain ⟨hl, hp, ho, -⟩ := applyAll_rest effects (stepped s rest supervisor)
    obtain ⟨hl', hp', ho', -⟩ :=
      settleEnd_tasks (effects.foldl Client.apply (stepped s rest supervisor))
    exact ⟨ho'.trans ho, hl'.trans hl, hp'.trans hp⟩
  | none =>
    cases choice with
    | take => cases hst
    | meet => cases hst
    | pass now =>
      obtain rfl := Option.some.inj taken
      exact ⟨rfl, rfl, rfl⟩
    | deed d =>
      obtain rfl := Option.some.inj taken
      cases d with
      | call | dropFeed | removeHook | dropHandle => exact ⟨rfl, rfl, rfl⟩
      | _ => simp only [act]; split <;> exact ⟨rfl, rfl, rfl⟩
    | work t =>
      cases t with
      | listener => exact absurd rfl hl
      | worker number => exact absurd rfl (hw number)
      | hook i =>
        obtain ⟨h, -, -, hs⟩ := runner_there taken rfl
        exact hook_observers hs
      | feed i =>
        have hs : s.stepTask (.feed i) = some s' := taken
        unfold Client.stepTask at hs
        simp only at hs
        split at hs
        case h_1 f hf =>
          obtain ⟨asks, task, -, rfl⟩ := feed_turn hs
          exact ⟨rfl, rfl, rfl⟩
        case h_2 => cases hs

/-- Nobody else reads what is there for the listener. -/
lemma listener_hears (w : Wired s) (a : Aired s choice es s') (hl : choice ≠ .work .listener) {id : Nat}
    (hlistener : s.listener = some id) : s'.hub.bus.receivers.get? id =
      (s.hub.bus.receivers.get? id).map (acceptAll s.hub.bus.ring es) := by
  have hown : id ∈ ownReceivers s := List.mem_append_left _ (by simp [hlistener])
  have hapart : reader? s choice ≠ some id := by
    cases choice with
    | work t =>
      cases t with
      | listener => exact absurd rfl hl
      | hook j =>
        intro hj
        obtain ⟨g, hg, hgr⟩ := Option.bind_eq_some_iff.mp hj
        have hdistinct : (s.listener.toList ++ s.hooks.filterMap receiverOf?).Nodup := w.distinct
        obtain ⟨-, -, hapart⟩ := List.nodup_append.mp hdistinct
        refine hapart id (by simp [hlistener]) id ?_ rfl
        exact List.mem_filterMap.mpr ⟨g, List.mem_of_getElem? hg, hgr⟩
      | _ => exact nofun
    | _ => exact nofun
  exact a.hub.receivers id (w.known id hown) ⟨hown, hapart⟩

lemma unread_heard (w : Wired s) (a : Aired s choice es s') (hl : choice ≠ .work .listener)
    (same : s'.listener = s.listener) : unread s' <:+ unread s ++ es := by
  unfold unread
  rw [same]
  cases hlistener : s.listener with
  | none => exact List.nil_suffix
  | some id =>
    rw [Option.bind_some, Option.bind_some, listener_hears w a hl hlistener]
    cases s.hub.bus.receivers.get? id with
    | none => exact List.nil_suffix
    | some r => exact (acceptAll_kept s.hub.bus.ring r es).1

/-- The supervisor and the callbacks make no reports on observers. -/
lemma tells_originals {effects : List Effect} (h : TellsAll s effects es)
    (own : ∀ e ∈ effects, IsOwn e) : ∀ e ∈ es, isReport e = false := by
  induction h with
  | nil => exact List.forall_mem_nil _
  | @cons s e rest es fs tells later ih =>
    obtain ⟨he, hrest⟩ := List.forall_mem_cons.mp own
    refine List.forall_mem_append.mpr ⟨?_, ih hrest⟩
    cases tells with
    | @event _ event shown =>
      refine List.forall_mem_singleton.mpr ?_
      cases e with
      | moved source target =>
        obtain rfl := Option.some.inj shown
        rfl
      | publish event' =>
        obtain rfl := Option.some.inj shown
        have hforeign : isForeign event'.kind = false := by
          have he : ownEvent? event' = some event' := he
          unfold ownEvent? at he
          split at he
          case isTrue => cases he
          case isFalse hf => exact Bool.eq_false_iff.mpr hf
        unfold isForeign at hforeign
        unfold isReport
        show (decide (event'.kind = _) || decide (event'.kind = _)) = false
        cases hk : event'.kind <;> simp_all
      | evicted command cause =>
        obtain rfl := Option.some.inj shown
        rfl
      | _ => cases shown
    | @dispatch _ marks delivered =>
      intro r hr
      simp [isReport, reports_kind marks hr]
    | nothing => exact List.forall_mem_nil _

/-- A turn tells of nothing that the supervisor has not to tell. -/
lemma turned_own {c : Config} {now : Instant} {draw : Nat} {t t' : Supervisor} {stimulus : Stimulus}
    {effects : List Effect} (h : Turned c now draw t stimulus (t', effects)) :
    ∀ e ∈ effects, IsOwn e := by
  have htold : ∃ es, ToldIn t.phase es := by
    by_cases hp : ∃ session item sent, t.phase = .flushing session item sent
    · obtain ⟨session, item, sent, hp⟩ := hp
      rw [hp]
      exact ⟨_, [], [], List.replicate sent (item.command, ""), .begins, List.length_replicate, rfl⟩
    · exact ⟨[], (toldIn_iff fun session item sent h => hp ⟨session, item, sent, h⟩).mpr .begins⟩
  obtain ⟨es, told⟩ := htold
  obtain ⟨later, story⟩ := toldIn_prefix (toldIn_turned told h)
  have hown := story_own story
  intro e he
  cases e with
  | publish event =>
    refine hown _ (List.mem_append_left _ (List.mem_append_right _ ?_))
    exact List.mem_filter.mpr ⟨he, rfl⟩
  | _ => trivial

/-- Others make no reports on observers. -/
lemma others_originals (w : Wired s) (a : Aired s choice es s') (hl : choice ≠ .work .listener)
    (hw : ∀ number, choice ≠ .work (.worker number)) : ∀ e ∈ es, isReport e = false := by
  have hunnumbered (h : ∀ e ∈ es.map unnumbered, isReport e = false) (e : Event) (he : e ∈ es) :
      isReport e = false :=
    h (unnumbered e) (List.mem_map_of_mem he)
  cases hst : stimulusOf? s choice with
  | some stimulus =>
    obtain ⟨draw, effects, rest, hstep, -, tells⟩ := a.turn stimulus hst
    exact hunnumbered (tells_originals tells (turned_own (step_turned w.aligned hstep)))
  | none =>
    obtain rfl : es = [] := by
      by_cases htask : ∃ t, choice = .work t
      · obtain ⟨t, rfl⟩ := htask
        refine List.map_eq_nil_iff.mp ((a.work t rfl).trans ?_)
        cases t with
        | listener => exact absurd rfl hl
        | worker number => exact absurd rfl (hw number)
        | _ => rfl
      · exact a.rest (fun t h => htask ⟨t, h⟩) hst
    exact List.forall_mem_nil _

/-- A step of others adds to the stock what the supervisor and the callbacks publish in it. -/
lemma draws_others (w : Wired s) (taken : next? s choice = some s') (hl : choice ≠ .work .listener)
    (hw : ∀ number, choice ≠ .work (.worker number)) (n : Nat) : ∃ es, Draws n s choice es s' := by
  obtain ⟨es, a⟩ := next_aired w taken
  obtain ⟨ho, hlistener, -⟩ := next_observers taken hl hw
  obtain ⟨hnone, hdebt⟩ := originals_counted (n := n) (others_originals w a hl hw)
  have hunread := debtOf_suffix (n := n) (unread_heard w a hl hlistener)
  rw [debtOf_append] at hunread
  refine ⟨es, a.hub.announced, congrArg _ ho, ?_⟩
  rw [hnone, stock, stock, ho]
  omega

/-- What is summed up over all workers changes by what one of them has more or less. -/
lemma sum_set (weight : Worker → Nat) {ws : ObserverSet} {k : Nat} {w : Worker}
    (hw : ws[k]? = some w) (w' : Worker) :
    ((ws.set k w').map weight).sum + weight w = (ws.map weight).sum + weight w' := by
  induction ws generalizing k with
  | nil => cases hw
  | cons v ws ih =>
    cases k with
    | zero =>
      obtain rfl := Option.some.inj hw
      rw [List.set_cons_zero, List.map_cons, List.map_cons, List.sum_cons, List.sum_cons]
      omega
    | succ k =>
      have hrest := ih hw
      rw [List.set_cons_succ, List.map_cons, List.map_cons, List.sum_cons, List.sum_cons]
      omega

lemma workload_set (n : Nat) {ws : ObserverSet} {k : Nat} {w : Worker} (hw : ws[k]? = some w)
    (w' : Worker) : workload n (ws.set k w') + dueOf n w = workload n ws + dueOf n w' :=
  sum_set (dueOf n) hw w'

lemma worker_observers {number : Nat} {v : Worker} (hs : s.stepWorker number v = some s') :
    ((∃ e v', v.finish? s.hub.now = some (e, v') ∧ s'.observers = s.observers.set number v') ∨
      (∃ v', v.finish? s.hub.now = none ∧ v.begin? s.hub.now = some v' ∧
        s'.observers = s.observers.set number v')) ∧
      s'.listener = s.listener ∧ s'.listening = s.listening := by
  unfold Client.stepWorker at hs
  split at hs
  case h_1 e v' hf =>
    simp only at hs
    split at hs
    all_goals
      obtain rfl := Option.some.inj hs
      split <;> exact ⟨Or.inl ⟨e, v', hf, rfl⟩, rfl, rfl⟩
  case h_2 hf =>
    obtain ⟨v', hb, rfl⟩ := Option.map_eq_some_iff.mp hs
    exact ⟨Or.inr ⟨v', hf, hb, rfl⟩, rfl, rfl⟩

lemma finish_due {now : Instant} {v v' : Worker} {e : Event} (n : Nat)
    (hf : v.finish? now = some (e, v')) :
    v'.observer = v.observer ∧ dueOf n v = due n e + dueOf n v' := by
  unfold Worker.finish? at hf
  split at hf
  case h_1 f ready hcurrent =>
    split at hf
    · obtain ⟨rfl, rfl⟩ := Prod.mk.inj (Option.some.inj hf)
      exact ⟨rfl, by simp [dueOf, entrusted, hcurrent]⟩
    · cases hf
  case h_2 => cases hf

lemma begin_due {now : Instant} {v v' : Worker} (n : Nat) (hb : v.begin? now = some v') :
    v'.observer = v.observer ∧ dueOf n v' = dueOf n v := by
  unfold Worker.begin? at hb
  split at hb
  case h_1 e rest hcurrent hwaiting =>
    obtain rfl := Option.some.inj hb
    exact ⟨rfl, by simp [dueOf, entrusted, hcurrent, hwaiting]⟩
  case h_2 => cases hb

/-- A worker draws on the stock for the report on its panic, unless it has panicked on a report. -/
lemma draws_worker (w : Wired s) {number : Nat} (taken : next? s (.work (.worker number)) = some s')
    (n : Nat) : ∃ es, Draws n s (.work (.worker number)) es s' := by
  obtain ⟨es, a⟩ := next_aired w taken
  have hreports := a.work _ rfl
  have hs : s.stepTask (.worker number) = some s' := taken
  unfold Client.stepTask at hs
  simp only at hs
  split at hs
  case h_2 => cases hs
  case h_1 v hv =>
    obtain ⟨turn, same, -⟩ := worker_observers hs
    have hless : debtOf n (unread s') ≤ debtOf n (unread s) + debtOf n es := by
      rw [← debtOf_append]
      exact debtOf_suffix (unread_heard w a nofun same)
    rw [taskReports, hv, Option.bind_some, workerReport?] at hreports
    have hsame (v' : Worker) (hv' : v'.observer = v.observer) :
        (s.observers.set number v').map Worker.observer = s.observers.map Worker.observer := by
      obtain ⟨hlt, hget⟩ := List.getElem?_eq_some_iff.mp
        ((List.getElem?_map (f := Worker.observer)).trans (congrArg _ hv))
      rw [List.map_set, hv', ← hget, List.set_getElem_self]
    refine ⟨es, a.hub.announced, ?_, ?_⟩
    · rcases turn with ⟨_, v', hf, ho⟩ | ⟨v', -, hb, ho⟩
      · rw [ho, hsame v' (finish_due n hf).1]
      · rw [ho, hsame v' (begin_due n hb).1]
    rw [stock, stock]
    rcases turn with ⟨e, v', hf, ho⟩ | ⟨v', hf, hb, ho⟩
    · have hwork := workload_set n hv v'
      rw [(finish_due n hf).2] at hwork
      have hrelapse : isRelapse s (.work (.worker number)) =
          (isReport e && (v'.report? e).isSome) := by
        simp [isRelapse, hv, hf]
      rw [ho, hrelapse]
      rw [hf, Option.bind_some] at hreports
      cases hr : v'.report? e with
      | none =>
        rw [hr] at hreports
        obtain rfl : es = [] := List.map_eq_nil_iff.mp hreports
        have hnone : debtOf n [] = 0 := rfl
        show 0 + _ ≤ _
        omega
      | some r =>
        rw [hr] at hreports
        obtain ⟨f, rfl, hf⟩ := List.map_eq_singleton_iff.mp hreports
        have hkind : f.kind = .observerPanicked := by
          obtain ⟨p, -, rfl⟩ := Option.map_eq_some_iff.mp hr
          exact congrArg Event.kind hf
        have hone : reportCount [f] = 1 := by simp [reportCount, isReport, hkind]
        have hdebt : debtOf n [f] = n := by simp [debtOf, debt, hkind]
        rw [hone]
        cases hreport : isReport e with
        | true =>
          simp only [due, hreport, if_true, Option.isSome_some, Bool.and_true, Bool.toNat_true] at hwork ⊢
          omega
        | false =>
          simp only [due, hreport, Bool.false_eq_true, if_false] at hwork
          omega
    · have hwork := workload_set n hv v'
      rw [(begin_due n hb).2] at hwork
      rw [hf] at hreports
      obtain rfl : es = [] := List.map_eq_nil_iff.mp hreports
      have hnone : debtOf n [] = 0 := rfl
      rw [ho]
      show 0 + _ ≤ _
      omega

lemma unread_listener {id : Nat} {r : Receiver} (hl : s.listener = some id)
    (hr : s.hub.bus.receivers.get? id = some r) : unread s = r.pending := by
  unfold unread
  rw [hl, Option.bind_some, hr]

/-- The client with this in place of a receiver. -/
def reading (s : Client) (id : Nat) (r : Receiver) : Client :=
  s.onHub fun hub => { hub with bus := { hub.bus with receivers := hub.bus.receivers.insert id r } }

lemma reading_receiver (s : Client) (id : Nat) (r : Receiver) :
    (reading s id r).hub.bus.receivers.get? id = some r := by
  show (s.hub.bus.receivers.insert id r).get? id = some r
  rw [Table.get?_insert, if_pos rfl]

/-- The reports that come of handing an event to all observers go over the bus. -/
lemma emit_airs (e : Event) {id : Nat} {r : Receiver} (hl : s.listener = some id)
    (hr : s.hub.bus.receivers.get? id = some r) (known : id < s.hub.bus.subscribed) :
    ∃ es, announced (s.emit e).hub = announced s.hub ++ es ∧
      es.map unnumbered = (s.observers.emit e).1 ∧ (s.emit e).observers = (s.observers.emit e).2 ∧
      (s.emit e).listener = some id ∧ (s.emit e).listening = s.listening ∧
      (s.emit e).hub.bus.receivers.get? id = some (acceptAll s.hub.bus.ring es r) := by
  obtain ⟨es, hairs, hes⟩ : ∃ es, Airs (fun _ => True) (fun _ => True) s.hub es (s.emit e).hub ∧
      es.map unnumbered = (s.observers.emit e).1.map unnumbered :=
    airs_publishAll (s.observers.emit e).1 { s with observers := (s.observers.emit e).2 }
  obtain ⟨-, ho, hlistener, hlistening, -⟩ :=
    publishAll_rest (s.observers.emit e).1 { s with observers := (s.observers.emit e).2 }
  rw [emit_unnumbered] at hes
  refine ⟨es, hairs.announced, hes, ho, hlistener.trans hl, hlistening, ?_⟩
  rw [hairs.receivers id known trivial, hr, Option.map_some]

/-- The listener draws on the stock for the reports on observers that are full. -/
lemma draws_emit (w : Wired s) {id : Nat} {r : Receiver} {e : Event} {rest : List Event}
    (hl : s.listener = some id) (hr : s.hub.bus.receivers.get? id = some r)
    (pending : r.pending = e :: rest) : ∃ es, Draws s.observers.length s (.work .listener) es
      ((reading s id { r with pending := rest }).emit e) := by
  obtain ⟨hsame, hstock⟩ := emit_stock s.observers e
  obtain ⟨es, hannounced, hes, ho, hlistener, -, hreceiver⟩ :=
    emit_airs (s := reading s id { r with pending := rest }) e hl (reading_receiver s id _)
      (w.known id (List.mem_append_left _ (by simp [hl])))
  generalize (reading s id { r with pending := rest }).emit e = s' at *
  have hkind (f : Event) (hf : f ∈ es) : f.kind = .observerOverflow := by
    have hmem : unnumbered f ∈ (s.observers.emit e).1 := hes ▸ List.mem_map_of_mem hf
    obtain ⟨name, hname⟩ := emit_reports hmem
    exact congrArg Event.kind hname
  obtain ⟨hcount, hfree⟩ := overflows_counted (n := s.observers.length) hkind
  have hreports : es.length = (s.observers.emit e).1.length := by
    rw [← List.length_map (f := unnumbered), hes]
    rfl
  have hdebt : debtOf s.observers.length (unread s') ≤ debtOf s.observers.length (rest ++ es) := by
    rw [unread_listener hlistener hreceiver]
    exact debtOf_suffix (acceptAll_kept _ _ es).1
  rw [debtOf_append, hfree] at hdebt
  have hread : debtOf s.observers.length (unread s) =
      debt s.observers.length e + debtOf s.observers.length rest := by
    rw [unread_listener hl hr, pending, debtOf, List.map_cons, List.sum_cons]
    rfl
  refine ⟨es, hannounced, ho ▸ hsame, ?_⟩
  rw [stock, stock, ho, hcount, hreports, hread]
  show _ + (_ + workload s.observers.length (s.observers.emit e).2) ≤ _
  omega

lemma draws_listener (w : Wired s) (taken : next? s (.work .listener) = some s') :
    ∃ es, Draws s.observers.length s (.work .listener) es s' := by
  have quiet {s' : Client} (hannounced : announced s'.hub = announced s.hub)
      (ho : s'.observers = s.observers) (hunread : unread s' <:+ unread s) :
      ∃ es, Draws s.observers.length s (.work .listener) es s' := by
    have hdebt := debtOf_suffix (n := s.observers.length) hunread
    refine ⟨[], hannounced.trans (List.append_nil _).symm, congrArg _ ho, ?_⟩
    rw [stock, stock, ho]
    show 0 + _ ≤ _
    omega
  have leaves : ∃ es, Draws s.observers.length s (.work .listener) es { s with listener := none } :=
    quiet rfl rfl List.nil_suffix
  cases stepListener_run taken with
  | hears id e there _ found =>
    obtain ⟨r, hr⟩ := receive_there (found.trans_ne nofun)
    obtain ⟨rest, -, pending, hbus⟩ := receive_event hr found
    rw [hbus]
    exact draws_emit w there hr pending
  | skips id n there _ found =>
    obtain ⟨r, hr⟩ := receive_there (found.trans_ne nofun)
    obtain ⟨-, hbus⟩ := receive_lagged hr found
    have hunread := unread_listener (s := reading s id { r with missed := 0 }) there
      (reading_receiver s id _)
    rw [hbus]
    exact quiet rfl rfl ⟨[], hunread.trans (unread_listener there hr).symm⟩
  | finds | rests | wakes => exact quiet rfl rfl List.suffix_rfl
  | leaves | parts => exact leaves

theorem next_draws (w : Wired s) (taken : next? s choice = some s') :
    ∃ es, Draws s.observers.length s choice es s' := by
  by_cases hl : choice = .work .listener
  · subst hl
    exact draws_listener w taken
  · by_cases hw : ∃ number, choice = .work (.worker number)
    · obtain ⟨number, rfl⟩ := hw
      exact draws_worker w taken _
    · exact draws_others w taken hl (fun number h => hw ⟨number, h⟩) _

end Steps

/-! ## Journeys -/

section Journeys

variable {c : Config} {observers : List Observer} {s : Client} {trail : Trail}

lemma fresh_stock (c : Config) (observers : List Observer) (n : Nat) :
    announced (Client.fresh c observers).hub = [] ∧
      (Client.fresh c observers).observers.map Worker.observer = observers ∧
      stock n (.fresh c observers) = 0 := by
  have hobservers : (Client.fresh c observers).observers = .ofList observers := by
    unfold Client.fresh
    split <;> rfl
  have hidle : workload n (.ofList observers) = 0 := by
    refine List.sum_eq_zero fun m hm => ?_
    obtain ⟨w, hw, rfl⟩ := List.mem_map.mp hm
    obtain ⟨o, -, rfl⟩ := List.mem_map.mp hw
    rfl
  refine ⟨?_, ?_, ?_⟩
  · unfold Client.fresh
    split <;> rfl
  · rw [hobservers]
    exact List.map_map.trans (List.map_id _)
  · rw [stock, hobservers, hidle]
    unfold Client.fresh
    split <;> rfl

lemma relapses_step (trail : Trail) (s : Client) (choice : Choice) :
    relapses (trail ++ [⟨s, choice⟩]) = relapses trail + (isRelapse s choice).toNat := by
  rw [relapses, List.countP_append]
  cases hr : isRelapse s choice <;> simp [relapses, hr]

/-- All reports that were made, and those that are to come, are paid for. -/
theorem journey_draws (j : Journey (.fresh c observers) trail s) :
    s.observers.map Worker.observer = observers ∧
      reportCount (announced s.hub) + stock observers.length s ≤
        observers.length * (observers.length + 1) * originalCount (announced s.hub) +
          (observers.length + 1) * relapses trail := by
  induction j with
  | start =>
    obtain ⟨hnone, hobservers, hstock⟩ := fresh_stock c observers observers.length
    refine ⟨hobservers, ?_⟩
    rw [hnone, hstock]
    exact Nat.zero_le _
  | @step trail s s' choice past taken ih =>
    obtain ⟨hobservers, hpaid⟩ := ih
    obtain ⟨es, d⟩ := next_draws (journey_wired (fresh_wired c observers) past) taken
    have hlength : s.observers.length = observers.length := by
      rw [← hobservers, List.length_map]
    have hstock := d.stock
    rw [hlength] at hstock
    refine ⟨d.observers.trans hobservers, ?_⟩
    rw [d.announced, reportCount_append, originalCount_append, relapses_step,
      Nat.mul_add (observers.length * (observers.length + 1)), Nat.mul_add (observers.length + 1)]
    omega

end Journeys

end SteadyLink.Proofs
