import SteadyLink.Proofs.SessionOwnership

/-!
# Inbound frames

What becomes of the frames that a session brings: each one is read once, in the order of arrival, and
its message is dispatched or its fault told of before the next one is taken. A frame that nobody
could have meant ends the session, and callbacks that panic change nothing.
-/

namespace SteadyLink.Proofs

open Supervisor

/-- What is learned of a frame: its message, or the event that says why there is none. -/
def tell (c : Config) (f : Frame) : Except Event Envelope :=
  match c.codec.decode f with
  | .ok e => .ok e
  | .error e => .error (.decodeFailed (.decode e))

/-- The messages that are dispatched and the faults of frames that are told of, in order. -/
def heard (es : List Effect) : List (Except Event Envelope) :=
  es.filterMap fun e =>
    match e with
    | .dispatch envelope => some (.ok envelope)
    | .publish event => if event.kind = .decodeFailed then some (.error event) else none
    | _ => none

/-- The frame that a turn takes, and the session that brought it. -/
def Occurrence.arrival? (o : Occurrence) : Option (Nat × Frame) :=
  match heldSession? o.before.phase, o.stimulus with
  | some session, .received f => some (session, f)
  | _, _ => none

def arrivals (h : History) : List (Nat × Frame) := h.filterMap Occurrence.arrival?

/-- The frame is too long, or is no text at all. -/
def IsHostile (c : Config) (f : Frame) : Prop :=
  c.codec.maxFrameLen ≠ 0 ∧ c.codec.maxFrameLen < f.len ∨
    ∃ body, f = .binary body ∧ String.fromUTF8? body = none

/-- A turn takes a frame of a session: its message is dispatched, its fault is told of and nothing
else happens, or its fault is told of and the session is shut down. -/
inductive Heard (c : Config) (o : Occurrence) (session : Nat) (f : Frame) : Prop
  | dispatched (e : Envelope) (read : c.codec.decode f = .ok e) (harmless : ¬ IsHostile c f)
      (effects : o.effects = [.dispatch e]) (same : o.after = o.before)
  | skipped (e : DecodeError) (unread : c.codec.decode f = .error e) (harmless : ¬ IsHostile c f)
      (effects : o.effects = [.publish (.decodeFailed (.decode e))]) (same : o.after = o.before)
  | refused (e : DecodeError) (unread : c.codec.decode f = .error e) (hostile : IsHostile c f)
      (effects : o.effects = [.publish (.decodeFailed (.decode e)), .moved .opened .closing,
        .began .closing, .close session])
      (shutting : ∃ giveUpAt, o.after.phase = .closing session giveUpAt .retry)

/-- What ends the use of a session. -/
inductive Parting (c : Config) : Stimulus → Prop
  | hostile (f : Frame) (hostile : IsHostile c f) : Parting c (.received f)
  | receiveFailed (e : TransportError) : Parting c (.receiveFailed e)
  | writeFailed (e : TransportError) : Parting c (.writeFailed e)
  | asked (request : Option Control) (after : AfterClose) (asked : CloseAsked request after) :
    Parting c (.mail request)

/-- The effect has to do with no frame and no callback. -/
def IsOrdinary : Effect → Prop
  | .dispatch _ => False
  | .publish e => e.kind ≠ .decodeFailed ∧ e.kind ≠ .subscriberPanicked
  | _ => True

section Frames

variable {c : Config} {f : Frame} {e : DecodeError}

lemma text?_eq_none_iff (f : Frame) :
    f.text? = none ↔ ∃ body, f = .binary body ∧ String.fromUTF8? body = none := by
  cases f with
  | text body => simp [Frame.text?]
  | binary body => simp [Frame.text?]

lemma ofJson_harmless {v : Json} (h : Codec.ofJson v = .error e) : e.isFatal = false := by
  unfold Codec.ofJson at h
  split at h
  · split at h
    · split at h
      · cases h
      · cases h
        rfl
    · cases h
      rfl
  · cases h
    rfl

lemma ofText_harmless {body : String} (h : Codec.ofText body = .error e) : e.isFatal = false := by
  unfold Codec.ofText at h
  split at h
  · cases h
    rfl
  · exact ofJson_harmless h

/-- The fatal faults are those of hostile frames. -/
theorem fatal_iff_hostile (h : c.codec.decode f = .error e) :
    e.isFatal = true ↔ IsHostile c f := by
  unfold IsHostile
  rw [← text?_eq_none_iff]
  unfold Codec.decode at h
  by_cases hlen : 0 < c.codec.maxFrameLen ∧ c.codec.maxFrameLen < f.len
  · rw [if_pos hlen] at h
    cases h
    exact iff_of_true rfl (Or.inl ⟨Nat.ne_of_gt hlen.1, hlen.2⟩)
  · rw [if_neg hlen] at h
    have hshort : ¬ (c.codec.maxFrameLen ≠ 0 ∧ c.codec.maxFrameLen < f.len) :=
      fun hl => hlen ⟨Nat.pos_of_ne_zero hl.1, hl.2⟩
    cases ht : f.text? with
    | none =>
      rw [ht] at h
      cases h
      exact iff_of_true rfl (Or.inr rfl)
    | some body =>
      rw [ht] at h
      have hf := ofText_harmless h
      simp [hf, hshort]

lemma read_harmless {envelope : Envelope} (h : c.codec.decode f = .ok envelope) :
    ¬ IsHostile c f := by
  unfold IsHostile
  rw [← text?_eq_none_iff]
  unfold Codec.decode at h
  rintro (⟨hlimit, hlen⟩ | htext)
  · rw [if_pos ⟨Nat.pos_of_ne_zero hlimit, hlen⟩] at h
    cases h
  · rw [htext] at h
    split at h <;> cases h

end Frames

section Turns

variable {c : Config} {now : Instant} {draw : Nat} {s s' : Supervisor} {es fs : List Effect}

lemma arrival?_eq {o : Occurrence} {session : Nat} {f : Frame}
    (hh : heldSession? o.before.phase = some session) (hf : o.stimulus = .received f) :
    o.arrival? = some (session, f) := by
  unfold Occurrence.arrival?
  rw [hh, hf]

lemma arrival?_eq_none {o : Occurrence} (h : ∀ f, o.stimulus ≠ .received f) :
    o.arrival? = none := by
  unfold Occurrence.arrival?
  split
  case h_1 f _ hf => exact absurd hf (h f)
  case h_2 => rfl

lemma arrival?_some {o : Occurrence} {session : Nat} {f : Frame}
    (h : o.arrival? = some (session, f)) :
    heldSession? o.before.phase = some session ∧ o.stimulus = .received f := by
  unfold Occurrence.arrival? at h
  split at h
  case h_1 hh hf =>
    cases h
    exact ⟨hh, hf⟩
  case h_2 => cases h

lemma ordinary_cons {e : Effect} (he : IsOrdinary e) (h : ∀ x ∈ es, IsOrdinary x) :
    ∀ x ∈ e :: es, IsOrdinary x :=
  List.forall_mem_cons.mpr ⟨he, h⟩

lemma ordinary_append (h : ∀ e ∈ es, IsOrdinary e) (h' : ∀ e ∈ fs, IsOrdinary e) :
    ∀ e ∈ es ++ fs, IsOrdinary e := by
  intro e he
  rcases List.mem_append.mp he with he | he
  · exact h e he
  · exact h' e he

lemma retryTurn_ordinary (h : RetryTurn c now draw s (s', es)) : ∀ e ∈ es, IsOrdinary e := by
  cases h <;> simp [IsOrdinary]

lemma endTurn_ordinary {after : AfterClose} (h : EndTurn c now draw s after (s', es)) :
    ∀ e ∈ es, IsOrdinary e := by
  cases h with
  | rests => simp [IsOrdinary]
  | leaves => simp [IsOrdinary]
  | retries u retried => exact ordinary_cons trivial (retryTurn_ordinary retried)

lemma queued_ordinary {command : Command} (h : Queued now command s (s', es)) :
    ∀ e ∈ es, IsOrdinary e := by
  cases h <;> simp [IsOrdinary]

lemma flushNotes_ordinary (sent : Nat) : ∀ e ∈ flushNotes sent, IsOrdinary e := by
  unfold flushNotes
  by_cases h0 : sent = 0
  · simp [h0, IsOrdinary]
  · simp [h0, IsOrdinary]

lemma flushTurn_ordinary {session sent : Nat} (h : FlushTurn c now session sent s (s', es)) :
    ∀ e ∈ es, IsOrdinary e := by
  have hnotes := flushNotes_ordinary sent
  cases h with
  | writes => simp [IsOrdinary]
  | serves => exact ordinary_append hnotes (by simp [IsOrdinary])
  | crashes => exact ordinary_append hnotes (by simp [IsOrdinary])

lemma interrupted_ordinary {stimulus : Stimulus} {session : Nat} {e : TransportError}
    (h : Interrupted now s stimulus session e (s', es)) :
    (∀ f, stimulus ≠ .received f) ∧ ∀ e ∈ es, IsOrdinary e := by
  cases h with
  | sending session ticker command e u phase queued => exact ⟨nofun, queued_ordinary queued⟩
  | _ => exact ⟨nofun, by simp⟩

/-- A turn takes one frame, or has to do with none. -/
theorem turned_heard {stimulus : Stimulus} (h : Turned c now draw s stimulus (s', es)) :
    (∃ session f, Occurrence.arrival? ⟨s, now, draw, stimulus, es, s'⟩ = some (session, f) ∧
      Heard c ⟨s, now, draw, stimulus, es, s'⟩ session f) ∨
    Occurrence.arrival? ⟨s, now, draw, stimulus, es, s'⟩ = none ∧ ∀ e ∈ es, IsOrdinary e := by
  have idle (hf : ∀ f, stimulus ≠ .received f) (he : ∀ e ∈ es, IsOrdinary e) :
      Occurrence.arrival? ⟨s, now, draw, stimulus, es, s'⟩ = none ∧ ∀ e ∈ es, IsOrdinary e :=
    ⟨arrival?_eq_none hf, he⟩
  cases h with
  | skipsFrame session ticker f e phase unread harmless =>
    refine Or.inl ⟨session, f, arrival?_eq (by simp only [phase]; rfl) rfl, ?_⟩
    refine Heard.skipped e unread ?_ rfl rfl
    rw [← fatal_iff_hostile unread, harmless]
    exact Bool.false_ne_true
  | dispatches session ticker f e phase read =>
    refine Or.inl ⟨session, f, arrival?_eq (by simp only [phase]; rfl) rfl, ?_⟩
    exact Heard.dispatched e read (read_harmless read) rfl rfl
  | shuts session ticker stimulus after notes phase cause =>
    cases cause with
    | asked => exact Or.inr (idle nofun (by simp [IsOrdinary]))
    | unreadable f e unread fatal =>
      refine Or.inl ⟨session, f, arrival?_eq (by simp only [phase]; rfl) rfl, ?_⟩
      exact Heard.refused e unread ((fatal_iff_hostile unread).mp fatal) rfl ⟨_, rfl⟩
  | keeps e u free queued => exact Or.inr (idle nofun (queued_ordinary queued))
  | cancels request after u unconnected asked ended =>
    have hend := endTurn_ordinary ended
    exact Or.inr (idle nofun (ordinary_cons trivial (ordinary_cons trivial hend)))
  | opens deadline u phase flushed =>
    have hexpired : ∀ e ∈ (expired now s.queue).map (Effect.evicted · .expired), IsOrdinary e := by
      simp [IsOrdinary]
    have hall := ordinary_append hexpired (flushTurn_ordinary flushed)
    exact Or.inr (idle nofun (ordinary_cons trivial hall))
  | fails deadline stimulus e u phase failure retried =>
    have hf : ∀ f, stimulus ≠ .received f := by cases failure <;> exact nofun
    have hfailed : IsOrdinary (.publish (.attemptFailed (min (s.attempts + 1) failureLimit)
        (.transport e))) := ⟨by simp, by simp⟩
    have hretry := retryTurn_ordinary retried
    exact Or.inr (idle hf (ordinary_cons hfailed (ordinary_cons trivial hretry)))
  | flushesOn session item sent u phase flushed =>
    have hflush := flushTurn_ordinary flushed
    exact Or.inr (idle nofun (ordinary_cons trivial hflush))
  | loses stimulus session e u v interrupted retried =>
    obtain ⟨hf, hput⟩ := interrupted_ordinary interrupted
    have hlost : ∀ x ∈ [.publish (.connectionLost (.transport e)), .moved .opened .retrying,
        .drop session], IsOrdinary x := by simp [IsOrdinary]
    have hall := ordinary_append hput (ordinary_append hlost (retryTurn_ordinary retried))
    exact Or.inr (idle hf hall)
  | closes session giveUpAt stimulus after u phase finished ended =>
    have hf : ∀ f, stimulus ≠ .received f := by
      rcases finished with rfl | ⟨rfl, -⟩ <;> exact nofun
    have hend := endTurn_ordinary ended
    exact Or.inr (idle hf (ordinary_cons trivial hend))
  | _ => exact Or.inr (idle nofun (by simp [IsOrdinary]))

/-- What is heard in a turn is what there is to tell of the frame it takes. -/
lemma turned_told {o : Occurrence}
    (h : Turned c o.now o.draw o.before o.stimulus (o.after, o.effects)) :
    heard o.effects = (o.arrival?.map fun a => tell c a.2).toList := by
  rcases turned_heard h with ⟨session, f, ha, hheard⟩ | ⟨ha, hordinary⟩
  · rw [ha]
    unfold tell
    cases hheard with
    | dispatched e read harmless effects =>
      rw [effects]
      simp [heard, read]
    | skipped e unread harmless effects =>
      rw [effects]
      simp [heard, unread]
    | refused e unread hostile effects =>
      rw [effects]
      simp [heard, unread]
  · rw [ha]
    unfold heard
    rw [List.filterMap_eq_nil_iff.mpr]
    · rfl
    · intro e he
      have ho := hordinary e he
      cases e with
      | dispatch => cases ho
      | publish event => exact if_neg ho.1
      | _ => rfl

end Turns

/-! Whole runs -/

section Runs

variable {c : Config} {s : Supervisor}

lemma heard_append (es fs : List Effect) : heard (es ++ fs) = heard es ++ heard fs :=
  List.filterMap_append

/-- Over a run, what is heard is what there is to tell of the frames in the order in which they
came. -/
theorem run_heard {h : History} (r : Run c h s) :
    heard (effects h) = (arrivals h).map fun a => tell c a.2 := by
  refine course_invariant (P := fun h _ => heard (effects h) =
    (arrivals h).map fun a => tell c a.2) (fresh_aligned c) rfl ?_ r
  intro h s now draw stimulus s' es ih _ ht
  have htold := turned_told (o := ⟨s, now, draw, stimulus, es, s'⟩) ht
  unfold arrivals at ih ⊢
  rw [effects_append, effects_singleton, heard_append, ih, htold, List.filterMap_append,
    List.map_append]
  cases ha : Occurrence.arrival? ⟨s, now, draw, stimulus, es, s'⟩ with
  | none => rw [List.filterMap_cons_none ha]; rfl
  | some a => rw [List.filterMap_cons_some ha]; rfl

lemma endTurn_retries {now : Instant} {draw : Nat} {s' : Supervisor} {es : List Effect}
    (h : EndTurn c now draw s .retry (s', es)) :
    ∃ fs, es = .moved .closing .retrying :: fs := by
  cases h with
  | retries u retried => exact ⟨u.2, rfl⟩

/-- After a hostile frame the session is shut down, and then comes the next attempt. -/
theorem run_refuses {h₁ h₂ : History} {o : Occurrence} {session : Nat} {f : Frame}
    (r : Run c (h₁ ++ o :: h₂) s) (ha : o.arrival? = some (session, f)) (hostile : IsHostile c f) :
    (∃ e, o.effects.filterMap Effect.event? =
        [.decodeFailed (.decode e), .stateChanged .opened .closing] ∧
      c.codec.decode f = .error e) ∧
    (h₂ = [] ∧ (∃ giveUpAt, s.phase = .closing session giveUpAt .retry ∧
        ∀ now draw, (∀ limit, giveUpAt = some limit → limit ≤ now) →
          ∃ t, s.step c now draw .closeGivenUp = some t) ∨
      ∃ later, moves (effects (o :: h₂)) =
        (.opened, .closing) :: (.closing, .retrying) :: later) := by
  have ht := (run_occurrence (o := o) r (by simp)).2
  rcases turned_heard ht with ⟨k, g, hk, hheard⟩ | ⟨hnone, -⟩
  case inr => rw [ha] at hnone; cases hnone
  obtain ⟨rfl, rfl⟩ := Prod.mk.inj (Option.some.inj (ha.symm.trans hk))
  cases hheard with
  | dispatched e read harmless => exact absurd hostile harmless
  | skipped e unread harmless => exact absurd hostile harmless
  | refused e unread _ effects shutting =>
    refine ⟨⟨e, by rw [effects]; rfl, unread⟩, ?_⟩
    rw [List.append_cons] at r
    obtain ⟨s₁, r₁, hc⟩ := course_split (h₁ ++ [o]) h₂ r
    have hafter : s₁ = o.after := (course_last r₁).2
    cases h₂ with
    | nil =>
      have hend : s = s₁ := course_nil hc
      obtain ⟨giveUpAt, hp⟩ := shutting
      rw [hend, hafter]
      exact Or.inl ⟨rfl, giveUpAt, hp, fun now draw hover => step_gives_up hp hover⟩
    | cons p h₂ =>
      right
      obtain ⟨giveUpAt, hp⟩ := shutting
      have hbefore : p.before = o.after := (course_head hc).trans hafter
      rw [← hbefore] at hp
      have htp := (run_occurrence (o := p) r (by simp)).2
      obtain ⟨-, fs, hfs, ended⟩ := turned_from_closing hp htp
      obtain ⟨rest, hrest⟩ := endTurn_retries ended
      refine ⟨moves rest ++ moves (Proofs.effects h₂), ?_⟩
      rw [effects_cons, effects_cons, effects, hfs, hrest]
      simp only [moves_append]
      rfl

lemma closed_closes {now : Instant} {draw k : Nat} {after : AfterClose} {t : Turn}
    (h : Closed c now draw s after t) (hk : heldSession? s.phase = some k) : .close k ∈ t.2 := by
  cases h with
  | cancels u unconnected =>
    rw [free_heldSession? (Or.inr unconnected)] at hk
    cases hk
  | shuts session ticker phase =>
    rw [phase] at hk
    obtain rfl := Option.some.inj hk
    simp

/-- A turn that parts with a session is an ending for it. -/
lemma parting_ends {now : Instant} {draw k : Nat} {stimulus : Stimulus} {s' : Supervisor}
    {es : List Effect} (h : Turned c now draw s stimulus (s', es))
    (hk : heldSession? s.phase = some k) (hp : Parting c stimulus) :
    ∃ d, IsEnding d ∧ .on k d ∈ turnDeals s stimulus es s' := by
  have outcome {d : Dealing} (hd : outcome? stimulus = some d) :
      .on k d ∈ turnDeals s stimulus es s' := by
    unfold turnDeals
    rw [outcomes_held hk hd]
    simp
  have closes (hc : .close k ∈ es) : .on k .closeBegun ∈ turnDeals s stimulus es s' := by
    unfold turnDeals
    have hmem := List.mem_filterMap.mpr ⟨_, hc, (rfl : effectDeal? _ = some (.on k .closeBegun))⟩
    exact List.mem_append_left _ (List.mem_append_right _ hmem)
  have hclose : IsEnding .closeBegun := by simp [IsEnding, IsUse]
  cases hp with
  | hostile f hostile =>
    have ha : Occurrence.arrival? ⟨s, now, draw, .received f, es, s'⟩ = some (k, f) :=
      arrival?_eq hk rfl
    rcases turned_heard h with ⟨session, g, ha', hheard⟩ | ⟨hnone, -⟩
    · obtain ⟨rfl, rfl⟩ := Prod.mk.inj (Option.some.inj (ha.symm.trans ha'))
      cases hheard with
      | dispatched e read harmless => exact absurd hostile harmless
      | skipped e unread harmless => exact absurd hostile harmless
      | refused e unread _ effects =>
        have heffects : es = _ := effects
        exact ⟨.closeBegun, hclose, closes (by rw [heffects]; simp)⟩
    · cases ha.symm.trans hnone
  | receiveFailed e => exact ⟨.receiveFailed, by simp [IsEnding, IsUse], outcome rfl⟩
  | writeFailed e => exact ⟨.sendFailed, by simp [IsEnding, IsUse], outcome rfl⟩
  | asked request after asked =>
    have hparked : ¬ IsParked s.phase := by
      intro hparked
      rw [free_heldSession? (Or.inl hparked)] at hk
      cases hk
    have hclosed := turned_asked h asked hparked
    exact ⟨.closeBegun, hclose, closes (closed_closes hclosed hk)⟩

/-- A session that was parted with brings no frame any more. -/
theorem run_deaf {h₁ h₂ : History} {o : Occurrence} {k : Nat} (r : Run c (h₁ ++ o :: h₂) s)
    (hk : heldSession? o.before.phase = some k) (hp : Parting c o.stimulus) (f : Frame) :
    (k, f) ∉ arrivals h₂ := by
  intro hmem
  obtain ⟨p, hp₂, ha⟩ := List.mem_filterMap.mp hmem
  obtain ⟨hheld, hstimulus⟩ := arrival?_some ha
  obtain ⟨d, hending, hd⟩ := parting_ends (run_occurrence (o := o) r (by simp)).2 hk hp
  have hlog : .on k d ∈ transportLog (h₁ ++ [o]) := mem_transportLog (by simp) hd
  have hread : .on k .received ∈ transportLog h₂ := by
    refine mem_transportLog hp₂ ?_
    unfold turnDeals
    rw [outcomes_held hheld (by rw [hstimulus]; rfl)]
    simp
  rw [List.append_cons] at r
  have hused := run_ended r hlog hending hread
  simp [IsEnding, IsUse] at hused

end Runs

/-! Callbacks that panic -/

/-- How many panics of callbacks for messages were published. -/
def panics (s : Client) : Nat :=
  s.hub.journal.events.countP fun entry => entry.2.kind = .subscriberPanicked

/-- Nothing has happened to the connection, and nobody was told of a transition. -/
structure Unmoved (s s' : Client) : Prop where
  supervisor : s'.supervisor = s.supervisor
  state : s'.hub.state = s.hub.state
  published : published s' = published s
  hooks : ∀ i < s.hooks.length, IsLive s' i → IsLive s i ∧ received s' i = received s i

section Panics

variable {s s' : Client} {draw : Nat} {stimulus : Stimulus} {es : List Effect}

lemma panics_publish (s : Client) (e : Event) (he : e.kind ≠ .subscriberPanicked) :
    panics (s.publish e) = panics s := by
  have hstamp : (s.hub.bus.stamp e).kind ≠ .subscriberPanicked := he
  have hevents : (s.publish e).hub.journal.events =
      (s.hub.now, s.hub.bus.stamp e) :: s.hub.journal.events := rfl
  unfold panics
  rw [hevents, List.countP_cons_of_neg (by simpa using hstamp)]

/-- Only a dispatch can have a callback panic. -/
lemma panics_apply (s : Client) (e : Effect) (hd : ∀ envelope, e ≠ .dispatch envelope)
    (he : ∀ event, e = .publish event → event.kind ≠ .subscriberPanicked) :
    panics (s.apply e) = panics s := by
  cases e with
  | moved source target => exact panics_publish { s with hooks := _, hub := _ } _ (by simp)
  | dispatch envelope => exact absurd rfl (hd envelope)
  | publish event => exact panics_publish s event (he event rfl)
  | evicted command cause => exact panics_publish s _ (by simp)
  | _ => rfl

lemma panics_applyAll (es : List Effect) (s : Client) (hd : ∀ envelope, .dispatch envelope ∉ es)
    (he : ∀ event, .publish event ∈ es → event.kind ≠ .subscriberPanicked) :
    panics (es.foldl Client.apply s) = panics s := by
  induction es generalizing s with
  | nil => rfl
  | cons e es ih =>
    rw [List.foldl_cons, ih]
    · refine panics_apply s e ?_ ?_
      · rintro envelope rfl
        exact hd envelope List.mem_cons_self
      · rintro event rfl
        exact he event List.mem_cons_self
    · exact fun envelope hm => hd envelope (List.mem_cons_of_mem e hm)
    · exact fun event hm => he event (List.mem_cons_of_mem e hm)

lemma turn_panics (hd : ∀ envelope, .dispatch envelope ∉ es)
    (he : ∀ event, .publish event ∈ es → event.kind ≠ .subscriberPanicked)
    (h : s.turn draw stimulus = some (s', es)) : panics s' = panics s := by
  unfold Client.turn at h
  split at h
  case h_1 => cases h
  case h_2 supervisor effects hstep =>
    simp only [Option.some.injEq, Prod.mk.injEq] at h
    obtain ⟨rfl, rfl⟩ := h
    obtain ⟨-, -, -, -, hjournal, -⟩ :=
      settleEnd_rest (effects.foldl Client.apply { s with supervisor })
    have hsettled : panics (effects.foldl Client.apply { s with supervisor }).settleEnd =
        panics (effects.foldl Client.apply { s with supervisor }) := by
      unfold panics
      rw [hjournal]
    rw [hsettled, panics_applyAll effects _ hd he]
    rfl

/-- A turn in which a callback panics is one that dispatches. -/
lemma clientStep_panics {g : History} (hs : ClientStep s g s') (hg : g ≠ [])
    (hd : ∀ o ∈ g, ∀ envelope, .dispatch envelope ∉ o.effects)
    (he : ∀ o ∈ g, ∀ event, .publish event ∈ o.effects → event.kind ≠ .subscriberPanicked) :
    panics s' = panics s := by
  cases hs with
  | acts => exact absurd rfl hg
  | passes => exact absurd rfl hg
  | works => exact absurd rfl hg
  | takes draw s' es taken =>
    have hd' := hd _ List.mem_cons_self
    have he' := he _ List.mem_cons_self
    unfold Client.takeMail at taken
    split at taken
    case h_1 request rest hm => exact turn_panics (s := s.onHub _) hd' he' taken
    case h_2 =>
      split at taken
      · exact turn_panics hd' he' taken
      · cases taken
  | meets draw stimulus s' es other met =>
    exact turn_panics (hd _ List.mem_cons_self) (he _ List.mem_cons_self) met

lemma worked_unmoved (h : Worked s s') : Unmoved s s' := by
  refine ⟨h.supervisor, h.follows.state, ?_, ?_⟩
  · rw [h.follows.published, moves_nil, List.map_nil, List.append_nil]
  · intro i hi hlive
    obtain ⟨hbefore, hreceived⟩ := h.follows.hooks i hi hlive
    rw [moves_nil, List.append_nil] at hreceived
    exact ⟨hbefore, hreceived⟩

/-- A step with a dispatch, or with a panic of a callback, is no step of the connection. -/
theorem clientStep_unmoved {g : History} (ha : Aligned s.supervisor) (hs : ClientStep s g s')
    (h : panics s' ≠ panics s ∨ ∃ o ∈ g, ∃ e, .dispatch e ∈ o.effects) : Unmoved s s' := by
  rcases clientStep_cases ha hs with ⟨rfl, hw⟩ | ⟨draw, stimulus, es, rfl, taken⟩
  · exact worked_unmoved hw
  · have ht := step_turned ha taken.step
    have unmoved (hsame : s'.supervisor = s.supervisor) (hmoves : moves es = [])
        (htrack : es.foldl track s.hub.state = s.hub.state) : Unmoved s s' := by
      refine ⟨hsame, taken.state.trans htrack, ?_, ?_⟩
      · rw [taken.published, hmoves, List.map_nil, List.append_nil]
      · intro i hi hlive
        obtain ⟨hbefore, hreceived⟩ := taken.hooks i hi hlive
        rw [hmoves, List.append_nil] at hreceived
        exact ⟨hbefore, hreceived⟩
    -- Without a dispatch among the effects there is nothing to show.
    have absent (hd : ∀ envelope, .dispatch envelope ∉ es)
        (he : ∀ event, .publish event ∈ es → event.kind ≠ .subscriberPanicked) : Unmoved s s' := by
      rcases h with hpanic | ⟨o, ho, e, he⟩
      · refine absurd (clientStep_panics hs (List.cons_ne_nil _ _) ?_ ?_) hpanic
        · rintro o ho
          rw [List.mem_singleton.mp ho]
          exact hd
        · rintro o ho
          rw [List.mem_singleton.mp ho]
          exact he
      · rw [List.mem_singleton.mp ho] at he
        exact absurd he (hd e)
    rcases turned_heard ht with ⟨session, f, -, hheard⟩ | ⟨-, hordinary⟩
    · cases hheard with
      | dispatched e read harmless effects same =>
        have heffects : es = _ := effects
        exact unmoved same (by rw [heffects]; rfl) (by rw [heffects]; rfl)
      | skipped e unread harmless effects same =>
        have heffects : es = _ := effects
        exact unmoved same (by rw [heffects]; rfl) (by rw [heffects]; rfl)
      | refused e unread hostile effects =>
        have heffects : es = _ := effects
        exact absent (by simp [heffects]) (by simp [heffects])
    · refine absent ?_ ?_
      · exact fun envelope hm => hordinary _ hm
      · exact fun event hm => (hordinary _ hm).2

end Panics

/-- What becomes of inbound frames, over the whole run of a client and in its next step. -/
structure InboundLaw (c : Config) (h : History) (s : Client) : Prop where
  /-- At every moment, what was heard is what there was to tell of the frames taken so far. -/
  faithful : ∀ h₁ h₂, h = h₁ ++ h₂ → heard (effects h₁) = (arrivals h₁).map fun a => tell c a.2
  /-- Each frame is dealt with in a turn of its own, and no other turn has to do with frames. -/
  turns : ∀ o ∈ h, (∃ k f, o.arrival? = some (k, f) ∧ Heard c o k f) ∨
    o.arrival? = none ∧ ∀ e ∈ o.effects, IsOrdinary e
  /-- A hostile frame is told of once, and its session is shut down to be followed by the next. -/
  refuses : ∀ h₁ o h₂ k f, h = h₁ ++ o :: h₂ → o.arrival? = some (k, f) → IsHostile c f →
    (∃ e, o.effects.filterMap Effect.event? =
        [.decodeFailed (.decode e), .stateChanged .opened .closing] ∧
      c.codec.decode f = .error e) ∧
    (h₂ = [] ∧ (∃ giveUpAt, s.supervisor.phase = .closing k giveUpAt .retry ∧
        ∀ now draw, (∀ limit, giveUpAt = some limit → limit ≤ now) →
          ∃ t, s.supervisor.step c now draw .closeGivenUp = some t) ∨
      ∃ later, moves (effects (o :: h₂)) =
        (.opened, .closing) :: (.closing, .retrying) :: later)
  /-- After a hostile frame, a failed call or a request to close, a session brings no frame. -/
  deaf : ∀ h₁ o h₂ k f, h = h₁ ++ o :: h₂ → heldSession? o.before.phase = some k →
    Parting c o.stimulus → (k, f) ∉ arrivals h₂
  /-- Neither a dispatch nor a callback that panics moves the connection. -/
  isolated : ∀ g s', ClientStep s g s' →
    (panics s' ≠ panics s ∨ ∃ o ∈ g, ∃ e, .dispatch e ∈ o.effects) → Unmoved s s'

/-- Inbound frames are read faithfully, and faults in them or in callbacks are contained. -/
theorem inbound_faithful {c : Config} {observers : List Observer} {h : History} {s : Client}
    (r : ClientRun c observers h s) : InboundLaw c h s := by
  obtain ⟨-, hrun⟩ := clientRun_run r
  constructor
  · rintro h₁ h₂ rfl
    obtain ⟨s₁, r₁, -⟩ := course_split h₁ h₂ hrun
    exact run_heard r₁
  · intro o ho
    exact turned_heard (run_occurrence hrun ho).2
  · rintro h₁ o h₂ k f rfl ha hostile
    exact run_refuses hrun ha hostile
  · rintro h₁ o h₂ k f rfl hk hp
    exact run_deaf hrun hk hp f
  · intro g s' hs hpanic
    exact clientStep_unmoved (course_aligned (fresh_aligned c) hrun) hs hpanic

lemma step_reads {c : Config} {now : Instant} {draw k : Nat} {ticker : Option Ticker}
    {s : Supervisor} {f : Frame} {e : Envelope} (hp : s.phase = .serving k ticker)
    (read : c.codec.decode f = .ok e) :
    s.step c now draw (.received f) = some (s, [.dispatch e]) := by
  unfold step receive
  rw [hp]
  dsimp only
  rw [read]
  rfl

lemma turn_eq {s : Client} {draw : Nat} {stimulus : Stimulus} {t : Turn}
    (h : s.supervisor.step s.config s.hub.now draw stimulus = some t) :
    s.turn draw stimulus =
      some ((t.2.foldl Client.apply { s with supervisor := t.1 }).settleEnd, t.2) := by
  unfold Client.turn
  rw [h]

lemma ok_of_toOption {ε α : Type} {x : Except ε α} {a : α} (h : x.toOption = some a) :
    x = .ok a := by
  cases x with
  | error e => cases h
  | ok b => rw [Option.some.inj h]

/-- A client that reads only short frames. -/
def terse : Config := { Config.standard with maxFrameLen := 16 }

/-- A callback panics, and then a frame comes that is too long. -/
theorem inbound_faithful_panic :
    ∃ h s, ClientRun terse [] h s ∧ InboundLaw terse h s ∧ panics s = 1 ∧
      (arrivals h).length = 2 ∧ moves (effects h) =
        [(.idle, .connecting), (.connecting, .opened), (.opened, .closing)] := by
  have r₀ : ClientRun terse [] [] (.fresh terse []) := ClientCourse.start
  have r₁ := ClientCourse.step r₀
    (ClientStep.acts (.call (.subscribe "note" "tag" [.panic (.text "no")])))
  have r₂ := ClientCourse.step r₁ (ClientStep.acts (.call .start))
  have r₃ := ClientCourse.step r₂ (ClientStep.takes 0 _ _ rfl)
  have r₄ := ClientCourse.step r₃ (ClientStep.meets 0 .attemptBegun _ _ nofun rfl)
  have r₅ := ClientCourse.step r₄ (ClientStep.meets 0 .connected _ _ nofun rfl)
  have read : terse.codec.decode (.text "\x7b\"type\":\"note\"\x7d") =
      .ok ⟨"note", .null, none, by decide⟩ := ok_of_toOption (by decide +kernel)
  have r₆ := ClientCourse.step r₅
    (ClientStep.meets 0 (.received _) _ _ nofun (turn_eq (step_reads rfl read)))
  have r₇ := ClientCourse.step r₆
    (ClientStep.meets 0 (.received (.text "0123456789abcdefg")) _ _ nofun rfl)
  exact ⟨_, _, r₇, inbound_faithful r₇, by decide +kernel, rfl, rfl⟩

end SteadyLink.Proofs
