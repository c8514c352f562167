import SteadyLink.Proofs.Commands

/-!
# The commands of a session

Which commands are passed to which session. A session is given commands in the order of acceptance,
and none of them twice.
-/

namespace SteadyLink.Proofs

open Supervisor

/-- The commands passed to each session so far stand in the order of acceptance. The queue goes on
where those passed to the session now held end, and what is in hand was passed to it. -/
structure Passes (a : List Command) (passed : Nat → List Command) (s : Supervisor) : Prop where
  order : ∀ session, (passed session).Sublist a
  held : ∀ session, heldSession? s.phase = some session →
    session < s.sessions ∧ (passed session ++ waiting s).Sublist a ∧
      inHand s.phase ⊆ passed session
  unopened : ∀ session, s.sessions ≤ session → passed session = []

section Passes

variable {c : Config} {now : Instant} {draw : Nat} {s s' : Supervisor} {es : List Effect}
variable {a : List Command} {passed : Nat → List Command}

lemma passes_released (hp : Passes a passed s) (more : List Command)
    (hes : ∀ session, passedTo session es = []) (hh : heldSession? s'.phase = none)
    (hn : s'.sessions = s.sessions) :
    Passes (a ++ more) (fun session => passed session ++ passedTo session es) s' := by
  constructor
  · intro session
    rw [hes, List.append_nil]
    exact (hp.order session).trans (List.sublist_append_left a more)
  · intro session h
    rw [hh] at h
    cases h
  · intro session h
    rw [hes, List.append_nil]
    exact hp.unopened session (by omega)

lemma passes_kept (hp : Passes a passed s) (hes : ∀ session, passedTo session es = [])
    (hh : heldSession? s'.phase = heldSession? s.phase) (hi : inHand s'.phase ⊆ inHand s.phase)
    (hn : s'.sessions = s.sessions) (hq : s'.queue = s.queue) :
    Passes a (fun session => passed session ++ passedTo session es) s' := by
  constructor
  · intro session
    rw [hes, List.append_nil]
    exact hp.order session
  · intro session h
    rw [hh] at h
    obtain ⟨hlt, hsub, hin⟩ := hp.held session h
    rw [hes, List.append_nil, hn, waiting_of_queue hq]
    exact ⟨hlt, hsub, fun x hx => hin (hi hx)⟩
  · intro session h
    rw [hes, List.append_nil]
    exact hp.unopened session (by omega)

lemma flushTurn_passes {session sent : Nat} (h : FlushTurn c now session sent s (s', es))
    (horder : ∀ other, (passed other).Sublist a) (hlt : session < s.sessions)
    (hsub : (passed session ++ waiting s).Sublist a)
    (hopen : ∀ other, s.sessions ≤ other → passed other = []) :
    Passes a (fun other => passed other ++ passedTo other es) s' := by
  have hnotes (other : Nat) : passedTo other (flushNotes sent) = [] :=
    quiet_passedTo other (flushNotes_quiet sent)
  cases h with
  | writes item rest items =>
    unfold waiting at hsub
    rw [items, List.map_cons] at hsub
    have hpassed : passedTo session
        [.write session (some item.command) (c.frame (some item.command))] = [item.command] := by
      simp [passedCommand?]
    have hother (other : Nat) (ho : session ≠ other) : passedTo other
        [.write session (some item.command) (c.frame (some item.command))] = [] := by
      simp [passedCommand?, ho]
    constructor
    · intro other
      by_cases ho : session = other
      · rw [← ho, hpassed]
        refine List.Sublist.trans ?_ hsub
        exact (List.Sublist.refl _).append (List.singleton_sublist.mpr List.mem_cons_self)
      · rw [hother other ho, List.append_nil]
        exact horder other
    · intro other h
      obtain rfl := Option.some.inj h
      rw [hpassed]
      refine ⟨hlt, ?_, ?_⟩
      · rw [List.append_assoc]
        exact hsub
      · exact List.subset_append_right _ _
    · intro other h
      rw [hother other (by show session ≠ other; change s.sessions ≤ other at h; omega),
        hopen other h, List.append_nil]
  | serves ticker items first =>
    constructor
    · intro other
      simpa [hnotes, passedCommand?] using horder other
    · intro other h
      obtain rfl := Option.some.inj h
      simpa [hnotes, passedCommand?, inHand] using ⟨hlt, hsub⟩
    · intro other h
      simpa [hnotes, passedCommand?] using hopen other h
  | crashes every items interval unshown =>
    constructor
    · intro other
      simpa [hnotes, passedCommand?] using horder other
    · intro other h
      cases h
    · intro other h
      simpa [hnotes, passedCommand?] using hopen other h

lemma sends_passes {session : Nat} {ticker : Option Ticker} {e : Envelope} (hp : Passes a passed s)
    (hserving : s.phase = .serving session ticker) (hq : s.queue.items = []) :
    Passes (a ++ [⟨s.accepted + 1, e⟩])
      (fun other => passed other ++ passedTo other
        [.write session (some ⟨s.accepted + 1, e⟩) (c.frame (some ⟨s.accepted + 1, e⟩))])
      { s with
        accepted := s.accepted + 1
        phase := .sending session ticker ⟨s.accepted + 1, e⟩ } := by
  obtain ⟨hlt, -, -⟩ := hp.held session (by rw [hserving]; rfl)
  constructor
  · intro other
    by_cases ho : session = other
    · simpa [passedCommand?, ho] using hp.order other
    · simpa [passedCommand?, ho] using (hp.order other).trans (List.sublist_append_left a _)
  · intro other h
    obtain rfl := Option.some.inj h
    refine ⟨hlt, ?_, ?_⟩
    · simpa [passedCommand?, waiting, hq] using hp.order session
    · simp [passedCommand?, inHand]
  · intro other h
    change s.sessions ≤ other at h
    have ho : session ≠ other := by omega
    simpa [passedCommand?, ho] using hp.unopened other h

theorem turned_passes {stimulus : Stimulus} (hs : QueueKept c s) (hw : (waiting s).Sublist a)
    (hp : Passes a passed s) (h : Turned c now draw s stimulus (s', es)) :
    Passes (a ++ taken s stimulus) (fun session => passed session ++ passedTo session es) s' := by
  have kept {stimulus : Stimulus} {s' : Supervisor} {es : List Effect}
      (ht : takenEnvelope? stimulus = none) (hes : ∀ session, passedTo session es = [])
      (hh : heldSession? s'.phase = heldSession? s.phase) (hi : inHand s'.phase ⊆ inHand s.phase)
      (hn : s'.sessions = s.sessions) (hq : s'.queue = s.queue) :
      Passes (a ++ taken s stimulus) (fun session => passed session ++ passedTo session es) s' := by
    rw [taken_nil ht, List.append_nil]
    exact passes_kept hp hes hh hi hn hq
  cases h with
  | starts parked => exact passes_released hp _ (fun _ => rfl) rfl rfl
  | ignores request idle =>
    refine kept ?_ (fun _ => rfl) rfl (List.Subset.refl _) rfl rfl
    rcases idle with ⟨-, rfl⟩ | ⟨-, rfl⟩ | ⟨-, rfl⟩ <;> rfl
  | keeps envelope u free queued =>
    refine passes_released hp _ ?_ ?_ ?_
    · intro session
      cases queued <;> rfl
    · rw [queued_phase queued]
      exact free_heldSession? free
    · cases queued <;> rfl
  | leaves parked => exact passes_released hp _ (fun _ => rfl) rfl rfl
  | calls phase => exact passes_released hp _ (fun _ => rfl) rfl rfl
  | cancels request after u unconnected asked ended =>
    refine passes_released hp _ ?_ (resting_heldSession? (endTurn_resting ended))
      (endTurn_sameWork ended).sessions
    intro session
    simpa [passedCommand?] using quiet_passedTo session (endTurn_quiet ended)
  | opens deadline u phase flushed =>
    have hu := flushTurn_passes flushed hp.order (Nat.lt_succ_self _)
      (by
        rw [hp.unopened _ (Nat.le_refl _)]
        exact (List.filter_sublist.map _).trans hw)
      (fun other h => hp.unopened other (by
        change s.sessions + 1 ≤ other at h
        omega))
    simpa [taken, takenEnvelope?, passedCommand?, passedTo_expired] using hu
  | fails deadline stimulus e u phase failure retried =>
    refine passes_released hp _ ?_ (resting_heldSession? (retryTurn_resting retried))
      (retryTurn_sameWork retried).sessions
    intro session
    simpa [passedCommand?] using quiet_passedTo session (retryTurn_quiet retried)
  | flushesOn session item sent u phase flushed =>
    obtain ⟨hlt, hsub, -⟩ := hp.held session (by rw [phase]; rfl)
    have hu := flushTurn_passes flushed hp.order hlt hsub hp.unopened
    simpa [taken, takenEnvelope?, passedCommand?] using hu
  | loses stimulus session e u v interrupted retried =>
    refine passes_released hp _ ?_ (resting_heldSession? (retryTurn_resting retried)) ?_
    · intro session
      rw [(interrupted_returns interrupted hs).1]
      simpa [passedCommand?] using quiet_passedTo session (retryTurn_quiet retried)
    · have hn := (interrupted_sameCounts interrupted).sessions
      exact (retryTurn_sameWork retried).sessions.trans hn
  | shuts session ticker stimulus after notes phase cause =>
    refine kept (shutCause_taken cause) ?_ (by rw [phase]; rfl) (by simp [inHand]) rfl rfl
    intro session
    simp [quiet_passedTo session (shutCause_quiet cause), passedCommand?]
  | skipsFrame => exact kept rfl (fun _ => rfl) rfl (List.Subset.refl _) rfl rfl
  | dispatches => exact kept rfl (fun _ => rfl) rfl (List.Subset.refl _) rfl rfl
  | sends session ticker envelope phase =>
    exact sends_passes hp phase (hs.serving (Or.inl ⟨session, ticker, phase⟩))
  | pings session ticker next phase =>
    exact kept rfl (fun _ => rfl) (by rw [phase]; rfl) (by simp [inHand]) rfl rfl
  | overruns => exact passes_released hp _ (fun _ => rfl) rfl rfl
  | sent session ticker command phase =>
    exact kept rfl (fun _ => rfl) (by rw [phase]; rfl) (by simp [inHand]) rfl rfl
  | pinged session ticker phase =>
    exact kept rfl (fun _ => rfl) (by rw [phase]; rfl) (by simp [inHand]) rfl rfl
  | wakes wakeAt phase due => exact passes_released hp _ (fun _ => rfl) rfl rfl
  | closes session giveUpAt stimulus after u phase finished ended =>
    refine passes_released hp _ ?_ (resting_heldSession? (endTurn_resting ended))
      (endTurn_sameWork ended).sessions
    intro session
    simpa [passedCommand?] using quiet_passedTo session (endTurn_quiet ended)

end Passes

end SteadyLink.Proofs
