import SteadyLink.Proofs.Inbound
import SteadyLink.Proofs.StateHooks

/-!
# Failures

What goes wrong along a journey, told from what a client meets with and not from what it publishes:
attempts and sessions that fail, frames that cannot be read, attempts that come to an end, callbacks and
observers that panic. The faults that are published in a step are the failures of that step, one for
one.
-/

namespace SteadyLink.Proofs

/-! ## What goes wrong in a step -/

/-- The end of all attempts, if there were too many. -/
def exhaustion (c : Config) (attempts : Nat) : List Fault :=
  if c.maxAttempts.allows attempts then [] else [.exhausted attempts]

/-- What goes wrong for the supervisor itself when it meets with something. -/
def mishaps (c : Config) (s : Supervisor) (stimulus : Stimulus) : List Fault :=
  match s.phase, stimulus with
  | .attempting _, .connectFailed e =>
    .transport e :: exhaustion c (min (s.attempts + 1) failureLimit)
  | .attempting _, .connectTimedOut =>
    .transport (.timeout c.connectTimeout) :: exhaustion c (min (s.attempts + 1) failureLimit)
  | .flushing .., .writeFailed e => .transport e :: exhaustion c s.attempts
  | .serving .., .receiveFailed e => .transport e :: exhaustion c s.attempts
  | .sending .., .writeFailed e => .transport e :: exhaustion c s.attempts
  | .pinging .., .writeFailed e => .transport e :: exhaustion c s.attempts
  | .serving .., .received f =>
    match c.codec.decode f with
    | .ok _ => []
    | .error e => [.decode e]
  | .closing _ _ .retry, .closeFinished => exhaustion c s.attempts
  | .closing _ _ .retry, .closeGivenUp => exhaustion c s.attempts
  | _, _ => []

/-- The message that goes to the callbacks when the supervisor meets with something. -/
def handed? (c : Config) (s : Supervisor) (stimulus : Stimulus) : Option Envelope :=
  match s.phase, stimulus with
  | .serving .., .received f => (c.codec.decode f).toOption
  | _, _ => none

/-- A callback that panics. -/
def Mark.fault? : Mark → Option Fault
  | panicked kind p => some (.subscriber kind p.info)
  | _ => none

/-- The panic of an observer that is done with an event. -/
def observerFault? (now : Instant) (w : Worker) : Option Fault :=
  (w.finish? now).bind fun done =>
    (w.observer.panics done.1).map fun p => .observer w.observer.name p.info

/-- The failures that come with a step, in the order in which they happen. -/
inductive Befalls (s : Client) : Choice → List Fault → Prop
  | supervisor {choice : Choice} {stimulus : Stimulus} (met : stimulusOf? s choice = some stimulus)
      (unhanded : handed? s.config s.supervisor stimulus = none) :
    Befalls s choice (mishaps s.config s.supervisor stimulus)
  | callbacks {choice : Choice} {stimulus : Stimulus} {e : Envelope} {marks : List Mark}
      (met : stimulusOf? s choice = some stimulus)
      (handed : handed? s.config s.supervisor stimulus = some e)
      (delivered : Delivered s.hub e marks) : Befalls s choice (marks.filterMap Mark.fault?)
  | observer (number : Nat) : Befalls s (.work (.worker number))
      ((s.observers[number]?).bind (observerFault? s.hub.now)).toList
  /-- Deeds, time, hooks, feeds and the listener do not fail. -/
  | nothing {choice : Choice} (unmet : stimulusOf? s choice = none)
      (other : ∀ number, choice ≠ .work (.worker number)) : Befalls s choice []

/-- The failures along a trail. -/
inductive BefallsAlong : Trail → List Fault → Prop
  | start : BefallsAlong [] []
  | step {trail : Trail} {m : Move} {faults more : List Fault} (past : BefallsAlong trail faults)
      (now : Befalls m.before m.choice more) : BefallsAlong (trail ++ [m]) (faults ++ more)

/-! ## Faults of effects -/

def faultOf? (e : Effect) : Option Fault := e.event?.bind Event.fault

def faultsOf (es : List Effect) : List Fault := es.filterMap faultOf?

section Effects

variable {c : Config} {now : Instant} {draw : Nat} {s s' : Supervisor} {es fs : List Effect}

lemma faultsOf_append (es fs : List Effect) : faultsOf (es ++ fs) = faultsOf es ++ faultsOf fs :=
  List.filterMap_append

lemma retryTurn_faults (h : RetryTurn c now draw s (s', es)) :
    faultsOf es = exhaustion c s.attempts := by
  unfold exhaustion
  cases h with
  | waits allowed =>
    rw [if_pos allowed]
    rfl
  | givesUp spent =>
    rw [if_neg (by simp [spent])]
    rfl

lemma endTurn_faults {after : AfterClose} (h : EndTurn c now draw s after (s', es)) :
    faultsOf es = if after = .retry then exhaustion c s.attempts else [] := by
  cases h with
  | rests => rfl
  | leaves => rfl
  | retries u retried =>
    have hrest := retryTurn_faults retried
    exact hrest

lemma flushTurn_faults {session sent : Nat} (h : FlushTurn c now session sent s (s', es)) :
    faultsOf es = [] := by
  have hnotes : faultsOf (flushNotes sent) = [] := by
    unfold flushNotes
    by_cases h0 : sent = 0
    · rw [if_pos h0]
      rfl
    · rw [if_neg h0]
      rfl
  cases h with
  | writes => rfl
  | serves =>
    rw [faultsOf_append, hnotes]
    rfl
  | crashes =>
    rw [faultsOf_append, hnotes]
    rfl

lemma queued_faults {command : Command} (h : Queued now command s (s', es)) : faultsOf es = [] := by
  cases h <;> rfl

lemma mishaps_mail (c : Config) (s : Supervisor) (request : Option Control) :
    mishaps c s (.mail request) = [] := by
  unfold mishaps
  split <;> simp_all

/-- The faults that a turn publishes are what goes wrong in it. -/
theorem turned_faults {stimulus : Stimulus} (h : Turned c now draw s stimulus (s', es)) :
    faultsOf es = mishaps c s stimulus := by
  cases h with
  | starts => exact (mishaps_mail c s _).symm
  | ignores => exact (mishaps_mail c s _).symm
  | keeps e u free queued =>
    rw [mishaps_mail]
    exact queued_faults queued
  | leaves => exact (mishaps_mail c s _).symm
  | calls phase => simp [mishaps, phase, faultsOf, faultOf?, Effect.event?]
  | cancels request after u unconnected asked ended =>
    rw [mishaps_mail]
    show faultsOf u.2 = []
    rw [endTurn_faults ended]
    cases asked <;> rfl
  | opens deadline u phase flushed =>
    have hexpired : faultsOf ((expired now s.queue).map (.evicted · .expired)) = [] := by
      unfold faultsOf
      rw [List.filterMap_map, List.filterMap_eq_nil_iff]
      intro command _
      rfl
    show faultsOf ((expired now s.queue).map (.evicted · .expired) ++ u.2) = _
    rw [faultsOf_append, hexpired, flushTurn_faults flushed]
    simp [mishaps, phase]
  | fails deadline stimulus e u phase failure retried =>
    show .transport e :: faultsOf u.2 = _
    rw [retryTurn_faults retried]
    cases failure <;> simp only [mishaps, phase]
  | flushesOn session item sent u phase flushed =>
    show faultsOf u.2 = _
    rw [flushTurn_faults flushed]
    simp [mishaps, phase]
  | loses stimulus session e u v interrupted retried =>
    have hquiet : faultsOf u.2 = [] := by
      cases interrupted with
      | sending session ticker command e u phase queued => exact queued_faults queued
      | _ => rfl
    rw [faultsOf_append, hquiet]
    show .transport e :: faultsOf v.2 = _
    rw [retryTurn_faults retried]
    show .transport e :: exhaustion c u.1.attempts = _
    rw [(interrupted_sameCounts interrupted).attempts]
    cases interrupted with
    | flushing session item sent e phase => simp only [mishaps, phase]
    | receiving session ticker e phase => simp only [mishaps, phase]
    | sending session ticker command e u phase queued => simp only [mishaps, phase]
    | pinging session ticker e phase => simp only [mishaps, phase]
  | shuts session ticker stimulus after notes phase cause =>
    rw [faultsOf_append]
    cases cause with
    | asked request after asked => exact (mishaps_mail c s _).symm
    | unreadable f e unread fatal =>
      simp only [mishaps, phase, unread]
      rfl
  | skipsFrame session ticker f e phase unread harmless =>
    simp only [mishaps, phase, unread]
    rfl
  | dispatches session ticker f e phase read =>
    simp only [mishaps, phase, read]
    rfl
  | sends => exact (mishaps_mail c s _).symm
  | pings session ticker next phase => simp [mishaps, phase, faultsOf, faultOf?, Effect.event?]
  | overruns session ticker phase => simp [mishaps, phase, faultsOf, faultOf?, Effect.event?]
  | sent session ticker command phase => simp [mishaps, phase, faultsOf, faultOf?, Effect.event?]
  | pinged session ticker phase => simp [mishaps, phase, faultsOf, faultOf?, Effect.event?]
  | wakes wakeAt phase due =>
    simp [mishaps, phase, faultsOf, faultOf?, Effect.event?, Event.stateChanged, Event.ofKind]
  | closes session giveUpAt stimulus after u phase finished ended =>
    show faultsOf u.2 = _
    rw [endTurn_faults ended]
    rcases finished with rfl | ⟨rfl, -⟩
    · cases after <;> simp [mishaps, phase]
    · cases after <;> simp [mishaps, phase]

lemma received_serving {f : Frame} (h : Turned c now draw s (.received f) (s', es)) :
    ∃ session ticker, s.phase = .serving session ticker := by
  cases h with
  | fails deadline stimulus e u phase failure => cases failure
  | loses stimulus session e u v interrupted => cases interrupted
  | shuts session ticker stimulus after notes phase => exact ⟨session, ticker, phase⟩
  | skipsFrame session ticker f e phase => exact ⟨session, ticker, phase⟩
  | dispatches session ticker f e phase => exact ⟨session, ticker, phase⟩
  | closes session giveUpAt stimulus after u phase finished =>
    rcases finished with hother | ⟨hother, -⟩ <;> cases hother

/-- A turn hands a message on and does nothing else, or it hands nothing on. -/
lemma turned_handed {stimulus : Stimulus} (h : Turned c now draw s stimulus (s', es)) :
    (∀ e, handed? c s stimulus = some e → es = [.dispatch e]) ∧
      (handed? c s stimulus = none → ∀ e, .dispatch e ∉ es) := by
  rcases turned_heard h with ⟨session, f, arrived, heard⟩ | ⟨absent, ordinary⟩
  · obtain rfl : stimulus = .received f := by
      unfold Occurrence.arrival? at arrived
      split at arrived
      case h_1 g _ hg =>
        have hg : stimulus = .received _ := hg
        rw [hg, (Prod.mk.inj (Option.some.inj arrived)).2]
      case h_2 => cases arrived
    obtain ⟨session, ticker, phase⟩ := received_serving h
    have hhanded : handed? c s (.received f) = (c.codec.decode f).toOption := by
      simp only [handed?, phase]
    rw [hhanded]
    cases heard with
    | dispatched e read harmless effects same =>
      rw [read]
      exact ⟨fun m hm => Option.some.inj hm ▸ effects, nofun⟩
    | skipped e unread harmless effects same =>
      have effects : es = _ := effects
      rw [unread, effects]
      exact ⟨nofun, by simp⟩
    | refused e unread hostile effects shutting =>
      have effects : es = _ := effects
      rw [unread, effects]
      exact ⟨nofun, by simp⟩
  · refine ⟨?_, fun _ e he => ordinary _ he⟩
    intro e handed
    unfold handed? at handed
    split at handed
    case h_1 session ticker f phase =>
      rw [arrival?_eq (by simp only [phase]; rfl) rfl] at absent
      cases absent
    case h_2 => cases handed

end Effects

/-! ## Faults of steps -/

section Steps

variable {s s' : Client} {choice : Choice} {effects : List Effect} {es : List Event}

lemma faults_unnumbered (es : List Event) :
    (es.map unnumbered).filterMap Event.fault = es.filterMap Event.fault := by
  rw [List.filterMap_map]
  rfl

lemma reports_faults (marks : List Mark) :
    (reports marks).filterMap Event.fault = marks.filterMap Mark.fault? := by
  rw [reports, List.filterMap_filterMap]
  refine List.filterMap_congr fun mark _ => ?_
  cases mark <;> rfl

lemma tellsAll_faults (h : TellsAll s effects es) (unhanded : ∀ e, .dispatch e ∉ effects) :
    es.filterMap Event.fault = faultsOf effects := by
  induction h with
  | nil => rfl
  | @cons s e rest es fs tells later ih =>
    have hrest := ih fun m hm => unhanded m (List.mem_cons_of_mem _ hm)
    have hsplit : faultsOf (e :: rest) = (faultOf? e).toList ++ faultsOf rest := by
      cases hf : faultOf? e <;> simp [faultsOf, hf]
    rw [List.filterMap_append, hrest, hsplit]
    congr 1
    cases tells with
    | @event _ event shown =>
      have hfault : faultOf? e = event.fault := by rw [faultOf?, shown, Option.bind_some]
      have hsame : (unnumbered event).fault = event.fault := rfl
      rw [hfault]
      cases hf : event.fault <;> simp [hsame, hf]
    | dispatch => exact absurd List.mem_cons_self (unhanded _)
    | nothing unshown => rw [faultOf?, unshown]; rfl

lemma tellsAll_handed {e : Envelope} (h : TellsAll s [.dispatch e] es) :
    ∃ marks, Delivered s.hub e marks ∧ es = reports marks := by
  cases h with
  | cons tells later =>
    cases later
    cases tells with
    | event shown => cases shown
    | dispatch delivered => exact ⟨_, delivered, List.append_nil _⟩
    | nothing _ other => exact absurd rfl (other e)

lemma workerReport_fault (now : Instant) (w : Worker) :
    (workerReport? now w).bind Event.fault = observerFault? now w := by
  unfold workerReport? observerFault?
  cases hf : w.finish? now with
  | none => rfl
  | some done =>
    have hobserver : done.2.observer = w.observer := by
      unfold Worker.finish? at hf
      split at hf
      · split at hf
        · obtain rfl := Option.some.inj hf
          rfl
        · cases hf
      · cases hf
    rw [Option.bind_some, Option.bind_some, Worker.report?, hobserver]
    cases w.observer.panics done.1 <;> rfl

/-- Only an observer can fail in the step of a task. -/
lemma taskReports_faults (s : Client) (t : Task) :
    (taskReports s t).filterMap Event.fault =
      match t with
      | .worker number => ((s.observers[number]?).bind (observerFault? s.hub.now)).toList
      | _ => [] := by
  cases t with
  | listener =>
    refine List.filterMap_eq_nil_iff.mpr fun e he => ?_
    unfold taskReports at he
    simp only at he
    split at he
    case isTrue =>
      split at he
      case h_1 =>
        obtain ⟨name, rfl⟩ := emit_reports he
        rfl
      case h_2 => cases he
    case isFalse => cases he
  | worker number =>
    show (((s.observers[number]?).bind (workerReport? s.hub.now)).toList).filterMap Event.fault =
      ((s.observers[number]?).bind (observerFault? s.hub.now)).toList
    cases s.observers[number]? with
    | none => rfl
    | some w =>
      rw [Option.bind_some, Option.bind_some, ← workerReport_fault]
      cases workerReport? s.hub.now w with
      | none => rfl
      | some e => cases hf : e.fault <;> simp [hf]
  | hook number => rfl
  | feed number => rfl

/-- The faults that are published in a step are what goes wrong in it. -/
theorem befalls_aired (w : Wired s) (a : Aired s choice es s') :
    Befalls s choice (es.filterMap Event.fault) := by
  rw [← faults_unnumbered]
  cases hst : stimulusOf? s choice with
  | some stimulus =>
    obtain ⟨draw, effects, rest, hstep, hrest, tells⟩ := a.turn stimulus hst
    have turned := step_turned w.aligned hstep
    obtain ⟨hands, hides⟩ := turned_handed turned
    cases handed : handed? s.config s.supervisor stimulus with
    | none =>
      rw [tellsAll_faults tells (hides handed), turned_faults turned]
      exact .supervisor hst handed
    | some e =>
      rw [hands e handed] at tells
      obtain ⟨marks, delivered, hes⟩ := tellsAll_handed tells
      have hmailbox : rest = s.hub.mailbox := by
        unfold handed? at handed
        split at handed
        · exact hrest
        · cases handed
      subst hmailbox
      rw [hes, reports_faults]
      exact .callbacks hst handed delivered
  | none =>
    by_cases hwork : ∃ number, choice = .work (.worker number)
    · obtain ⟨number, rfl⟩ := hwork
      rw [a.work _ rfl, taskReports_faults]
      exact .observer number
    · have hnone : (es.map unnumbered).filterMap Event.fault = [] := by
        by_cases htask : ∃ t, choice = .work t
        · obtain ⟨t, rfl⟩ := htask
          rw [a.work t rfl, taskReports_faults]
          cases t with
          | worker number => exact absurd ⟨number, rfl⟩ hwork
          | _ => rfl
        · rw [a.rest (fun t h => htask ⟨t, h⟩) hst]
          rfl
      rw [hnone]
      exact .nothing hst fun number h => hwork ⟨number, h⟩

/-! ## Only one account -/

lemma delivered_reports {hub : Hub} {e : Envelope} {marks other : List Mark}
    (h : Delivered hub e marks) (h' : Delivered hub e other) : reports marks = reports other := by
  cases h with
  | @ends _ n _ hub₁ _ came _ replayed =>
    cases h' with
    | @ends _ n' _ hub₂ _ came' _ replayed' =>
      obtain ⟨rfl, -⟩ := Prod.mk.inj (Option.some.inj (came.symm.trans came'))
      obtain ⟨es, ha, hes⟩ := airs_replayAll (fun _ => True) (fun _ => True) marks hub
      obtain ⟨fs, hb, hfs⟩ := airs_replayAll (fun _ => True) (fun _ => True) other hub
      have hsame := ha.announced.symm.trans ((replayed.symm.trans replayed') ▸ hb.announced)
      rw [← hes, ← hfs, List.append_cancel_left hsame]
    | endless none =>
      rw [none] at came
      cases came
  | endless none =>
    cases h' with
    | ends _ came =>
      rw [none] at came
      cases came
    | endless => rfl

/-- What goes wrong in a step is settled by the client and by what happens. -/
theorem befalls_unique {faults other : List Fault} (h : Befalls s choice faults)
    (h' : Befalls s choice other) : faults = other := by
  cases h with
  | @supervisor _ stimulus met unhanded =>
    cases h' with
    | supervisor met' => rw [Option.some.inj (met.symm.trans met')]
    | callbacks met' handed =>
      obtain rfl := Option.some.inj (met.symm.trans met')
      rw [unhanded] at handed
      cases handed
    | observer => cases met
    | nothing unmet =>
      rw [unmet] at met
      cases met
  | @callbacks _ stimulus e marks met handed delivered =>
    cases h' with
    | supervisor met' unhanded =>
      obtain rfl := Option.some.inj (met.symm.trans met')
      rw [unhanded] at handed
      cases handed
    | callbacks met' handed' delivered' =>
      obtain rfl := Option.some.inj (met.symm.trans met')
      obtain rfl := Option.some.inj (handed.symm.trans handed')
      rw [← reports_faults, ← reports_faults, delivered_reports delivered delivered']
    | observer => cases met
    | nothing unmet =>
      rw [unmet] at met
      cases met
  | observer number =>
    cases h' with
    | supervisor met => cases met
    | callbacks met => cases met
    | observer => rfl
    | nothing _ other => exact absurd rfl (other number)
  | nothing unmet other =>
    cases h' with
    | supervisor met =>
      rw [unmet] at met
      cases met
    | callbacks met =>
      rw [unmet] at met
      cases met
    | observer number => exact absurd rfl (other number)
    | nothing => rfl

end Steps

/-! ## Along a journey -/

section Journeys

variable {s₁ s : Client} {trail : Trail} {faults other : List Fault}

theorem befallsAlong_unique (h : BefallsAlong trail faults) (h' : BefallsAlong trail other) :
    faults = other := by
  induction h generalizing other with
  | start =>
    generalize hn : ([] : Trail) = trail at h'
    cases h' with
    | start => rfl
    | step => simp at hn
  | @step trail m faults more past now ih =>
    generalize hn : trail ++ [m] = whole at h'
    cases h' with
    | start => simp at hn
    | @step trail' m' faults' more' past' now' =>
      obtain ⟨rfl, hm⟩ := List.append_inj' hn rfl
      obtain rfl := List.singleton_inj.mp hm
      rw [ih past', befalls_unique now now']

/-- The faults that are published along a journey are what goes wrong along it. -/
theorem befalls_published (w : Wired s₁) (j : Journey s₁ trail s) :
    BefallsAlong trail ((publishedSince s₁ s).filterMap Event.fault) := by
  induction j with
  | start =>
    rw [publishedSince_refl]
    exact .start
  | @step trail s s' choice past taken ih =>
    have w' := journey_wired w past
    obtain ⟨es, a⟩ := next_aired w' taken
    rw [publishedSince_step w past a.hub.announced, List.filterMap_append]
    exact .step ih (befalls_aired w' a)

/-- After the supervisor has left, only observers can fail. -/
lemma exited_befalls (w : Wired s₁) (exited : s₁.supervisor.phase = .exited)
    (j : Journey s₁ trail s) (h : BefallsAlong trail faults) :
    ∀ f ∈ faults, ∃ name info, f = .observer name info := by
  induction j generalizing faults with
  | start =>
    rw [befallsAlong_unique h .start]
    exact List.forall_mem_nil _
  | @step trail s s' choice past taken ih =>
    have w' := journey_wired w past
    obtain ⟨es, a⟩ := next_aired w' taken
    have before := befalls_published w past
    rw [befallsAlong_unique h (.step before (befalls_aired w' a))]
    refine List.forall_mem_append.mpr ⟨ih before, ?_⟩
    have hst : stimulusOf? s choice = none := exited_still (exited_silent w exited past).1 a
    generalize es.filterMap Event.fault = more, befalls_aired w' a = now
    cases now with
    | supervisor met =>
      rw [hst] at met
      cases met
    | callbacks met =>
      rw [hst] at met
      cases met
    | observer number =>
      intro f hf
      obtain ⟨worker, -, hw⟩ := Option.bind_eq_some_iff.mp (Option.mem_toList.mp hf)
      obtain ⟨done, -, hdone⟩ := Option.bind_eq_some_iff.mp hw
      obtain ⟨p, -, rfl⟩ := Option.map_eq_some_iff.mp hdone
      exact ⟨_, _, rfl⟩
    | nothing => exact List.forall_mem_nil _

end Journeys

end SteadyLink.Proofs
