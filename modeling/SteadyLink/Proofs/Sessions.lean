import SteadyLink.Proofs.Runs
import SteadyLink.Proofs.SessionCalls

/-!
# Sessions

What a supervisor does with the sessions it is given. Every turn keeps to the order of calls on a
session, and to one session at a time.
-/

namespace SteadyLink.Proofs

open Supervisor

/-- The outcome that a stimulus brings to the session held. -/
def outcome? : Stimulus → Option Dealing
  | .written => some .sent
  | .writeFailed _ => some .sendFailed
  | .received _ => some .received
  | .receiveFailed _ => some .receiveFailed
  | .closeFinished => some .closeEnded
  | _ => none

/-- What a stimulus has to do with the transport. -/
def outcomes (s : Supervisor) (stimulus : Stimulus) : List Deal :=
  if stimulus = .connected then [.on s.sessions .opened]
  else ((heldSession? s.phase).bind fun session => (outcome? stimulus).map (.on session)).toList

/-- What an effect has to do with the transport. -/
def effectDeal? : Effect → Option Deal
  | .connect => some .connect
  | .write session _ _ => some (.on session .sendBegun)
  | .close session => some (.on session .closeBegun)
  | .drop session => some (.on session .dropped)
  | _ => none

/-- A session that is served is asked for its next frame. -/
def awaited : Phase → List Deal
  | .serving session _ => [.on session .receiveBegun]
  | _ => []

/-- What a turn has to do with the transport, in order. -/
def turnDeals (s : Supervisor) (stimulus : Stimulus) (es : List Effect) (s' : Supervisor) :
    List Deal :=
  outcomes s stimulus ++ es.filterMap effectDeal? ++ awaited s'.phase

def transportLog (h : History) : List Deal :=
  h.flatMap fun o => turnDeals o.before o.stimulus o.effects o.after

/-- What is being done with the session held. -/
def use : Phase → Standing
  | .flushing .. => .sending
  | .serving .. => .receiving
  | .sending .. => .sending
  | .pinging .. => .sending
  | .closing .. => .closing
  | _ => .dropped

/-- Where a session stands with a supervisor. -/
def standing (s : Supervisor) (session : Nat) : Standing :=
  if s.sessions ≤ session then .unopened
  else if heldSession? s.phase = some session then use s.phase
  else if s.phase = .crashed ∧ session + 1 = s.sessions then .abandoned
  else .dropped

/-- The session held is the one that was opened last. -/
def Latest (s : Supervisor) : Prop :=
  ∀ session, heldSession? s.phase = some session → session + 1 = s.sessions

/-- The dealings of a turn: a call for a session while none is held, or dealings with one session
that are in order. -/
inductive Dealt (s s' : Supervisor) : List Deal → Prop
  | connects (unheld : heldSession? s.phase = none) (unheld' : heldSession? s'.phase = none)
      (same : ∀ k, standing s' k = standing s k) : Dealt s s' [.connect]
  | deals (session : Nat) (ds : List Dealing)
      (keeps : (ds.map (.on session)).foldlM owned (heldSession? s.phase) =
        some (heldSession? s'.phase))
      (others : ∀ k, k ≠ session → standing s' k = standing s k)
      (goes : ds.foldlM Standing.after (standing s session) = some (standing s' session)) :
    Dealt s s' (ds.map (.on session))

section Standing

variable {s s' : Supervisor} {session k : Nat}

lemma standing_held (hl : session + 1 = s.sessions) (hh : heldSession? s.phase = some session) :
    standing s session = use s.phase := by
  unfold standing
  rw [if_neg (by omega), if_pos hh]

lemma standing_other (hl : Latest s) (hk : k + 1 ≠ s.sessions) :
    standing s k = if s.sessions ≤ k then .unopened else .dropped := by
  unfold standing
  by_cases hn : s.sessions ≤ k
  · rw [if_pos hn, if_pos hn]
  · have hh : heldSession? s.phase ≠ some k := fun h => hk (hl k h)
    rw [if_neg hn, if_neg hn, if_neg hh, if_neg fun h => hk h.2]

lemma standing_free (hh : heldSession? s.phase = none) (hc : s.phase ≠ .crashed) :
    standing s k = if s.sessions ≤ k then .unopened else .dropped := by
  unfold standing
  by_cases hn : s.sessions ≤ k
  · rw [if_pos hn, if_pos hn]
  · have hk : heldSession? s.phase ≠ some k := by
      simp [hh]
    rw [if_neg hn, if_neg hn, if_neg hk, if_neg fun h => hc h.1]

/-- Only the session of a supervisor that has crashed is left behind in good order. -/
lemma standing_abandoned (s : Supervisor) (k : Nat) :
    standing s k = .abandoned ↔ s.phase = .crashed ∧ k + 1 = s.sessions := by
  unfold standing
  by_cases hn : s.sessions ≤ k
  · rw [if_pos hn]
    exact iff_of_false (by simp) fun h => absurd h.2 (by omega)
  · rw [if_neg hn]
    by_cases hh : heldSession? s.phase = some k
    · rw [if_pos hh]
      constructor
      · intro huse
        cases hp : s.phase <;> (rw [hp] at huse; cases huse)
      · rintro ⟨hc, -⟩
        rw [hc] at hh
        cases hh
    · rw [if_neg hh]
      by_cases hc : s.phase = .crashed ∧ k + 1 = s.sessions
      · rw [if_pos hc]
        exact ⟨fun _ => hc, fun _ => rfl⟩
      · rw [if_neg hc]
        exact iff_of_false (by simp) hc

lemma standing_crashed (hm : session + 1 = s.sessions) :
    standing { s with phase := .crashed } session = .abandoned :=
  (standing_abandoned _ session).mpr ⟨rfl, hm⟩

lemma latest_free (hh : heldSession? s.phase = none) : Latest s := by
  intro session h
  rw [hh] at h
  cases h

lemma latest_held {m : Nat} (hh : heldSession? s.phase = some m) (hm : m + 1 = s.sessions) :
    Latest s := by
  intro session h
  rw [hh] at h
  obtain rfl := Option.some.inj h
  exact hm

lemma dealt_nothing (hh : heldSession? s.phase = none) (hc : s.phase ≠ .crashed)
    (hh' : heldSession? s'.phase = none) (hc' : s'.phase ≠ .crashed)
    (hn : s'.sessions = s.sessions) : Dealt s s' [] := by
  have hsame (k : Nat) : standing s' k = standing s k := by
    rw [standing_free hh hc, standing_free hh' hc', hn]
  refine Dealt.deals 0 [] ?_ (fun k _ => hsame k) ?_
  · rw [hh, hh']
    rfl
  · rw [hsame]
    rfl

lemma dealt_held (ds : List Dealing) (hh : heldSession? s.phase = some session)
    (hm : session + 1 = s.sessions) (hn : s'.sessions = s.sessions) (hl' : Latest s')
    (hkeeps : (ds.map (.on session)).foldlM owned (some session) = some (heldSession? s'.phase))
    (hgoes : ds.foldlM Standing.after (use s.phase) = some (standing s' session)) :
    Dealt s s' (ds.map (.on session)) := by
  refine Dealt.deals session ds (by rw [hh]; exact hkeeps) ?_ ?_
  · intro k hk
    rw [standing_other (latest_held hh hm) (by omega), standing_other hl' (by omega), hn]
  · rw [standing_held hm hh]
    exact hgoes

lemma dealt_goes_on (ds : List Dealing) (hh : heldSession? s.phase = some session)
    (hm : session + 1 = s.sessions) (hn : s'.sessions = s.sessions)
    (hh' : heldSession? s'.phase = some session)
    (hkeeps : (ds.map (.on session)).foldlM owned (some session) = some (some session))
    (hgoes : ds.foldlM Standing.after (use s.phase) = some (use s'.phase)) :
    Dealt s s' (ds.map (.on session)) := by
  have hm' : session + 1 = s'.sessions := hm.trans hn.symm
  refine dealt_held ds hh hm hn (latest_held hh' hm') (by rw [hh']; exact hkeeps) ?_
  rw [standing_held hm' hh']
  exact hgoes

lemma dealt_drops (ds : List Dealing) (hh : heldSession? s.phase = some session)
    (hm : session + 1 = s.sessions) (hn : s'.sessions = s.sessions)
    (hh' : heldSession? s'.phase = none) (hc' : s'.phase ≠ .crashed)
    (hkeeps : (ds.map (.on session)).foldlM owned (some session) = some none)
    (hgoes : ds.foldlM Standing.after (use s.phase) = some .dropped) :
    Dealt s s' (ds.map (.on session)) := by
  refine dealt_held ds hh hm hn (latest_free hh') (by rw [hh']; exact hkeeps) ?_
  rw [standing_free hh' hc', if_neg (by omega)]
  exact hgoes

end Standing

section Turns

variable {c : Config} {now : Instant} {draw : Nat} {s s' : Supervisor} {es : List Effect}

lemma quiet_dealless (h : ∀ e ∈ es, IsQuiet e) : es.filterMap effectDeal? = [] := by
  refine filterMap_quiet ?_ h
  rintro e (⟨stage, rfl⟩ | ⟨source, target, rfl⟩ | ⟨event, rfl, -⟩) <;> rfl

lemma dropped_deals (session : Nat) (es : List Effect) :
    (Effect.drop session :: es).filterMap effectDeal? =
      .on session .dropped :: es.filterMap effectDeal? := rfl

lemma queued_dealless {command : Command} (h : Queued now command s (s', es)) :
    es.filterMap effectDeal? = [] := by
  cases h <;> rfl

lemma resting_awaited {p : Phase} (h : IsResting p) : awaited p = [] := by
  unfold IsResting IsParked at h
  rcases h with (rfl | rfl) | rfl | ⟨wakeAt, rfl⟩ <;> rfl

lemma resting_not_crashed {p : Phase} (h : IsResting p) : p ≠ .crashed := by
  unfold IsResting IsParked at h
  rcases h with (rfl | rfl) | rfl | ⟨wakeAt, rfl⟩ <;> simp

lemma free_awaited {p : Phase} (h : IsParked p ∨ IsUnconnected p) : awaited p = [] := by
  unfold IsParked IsUnconnected at h
  rcases h with (rfl | rfl) | rfl | ⟨deadline, rfl⟩ | ⟨wakeAt, rfl⟩ <;> rfl

lemma free_not_crashed {p : Phase} (h : IsParked p ∨ IsUnconnected p) : p ≠ .crashed := by
  unfold IsParked IsUnconnected at h
  rcases h with (rfl | rfl) | rfl | ⟨deadline, rfl⟩ | ⟨wakeAt, rfl⟩ <;> simp

lemma outcomes_held {stimulus : Stimulus} {session : Nat} {d : Dealing}
    (hh : heldSession? s.phase = some session) (hd : outcome? stimulus = some d) :
    outcomes s stimulus = [.on session d] := by
  have hc : stimulus ≠ .connected := by
    rintro rfl
    cases hd
  unfold outcomes
  rw [if_neg hc, hh, Option.bind_some, hd]
  rfl

lemma outcomes_none {stimulus : Stimulus} (hc : stimulus ≠ .connected)
    (hd : outcome? stimulus = none) : outcomes s stimulus = [] := by
  unfold outcomes
  rw [if_neg hc, hd]
  cases heldSession? s.phase <;> rfl

lemma flushTurn_deals {session sent : Nat} (h : FlushTurn c now session sent s (s', es))
    (hm : session + 1 = s.sessions) :
    s'.sessions = s.sessions ∧ Latest s' ∧ ∃ ds : List Dealing,
      es.filterMap effectDeal? ++ awaited s'.phase = ds.map (.on session) ∧
      (ds.map (.on session)).foldlM owned (some session) = some (heldSession? s'.phase) ∧
      ds.foldlM Standing.after .ready = some (standing s' session) := by
  have hnotes := quiet_dealless (flushNotes_quiet sent)
  cases h with
  | writes item rest items =>
    refine ⟨rfl, latest_held rfl hm, [.sendBegun], rfl, ?_, ?_⟩
    · simp [owned, heldSession?]
    · symm
      exact congrArg some (standing_held hm rfl)
  | serves ticker items first =>
    refine ⟨rfl, latest_held rfl hm, [.receiveBegun], ?_, ?_, ?_⟩
    · rw [List.filterMap_append, hnotes]
      rfl
    · simp [owned, heldSession?]
    · symm
      exact congrArg some (standing_held hm rfl)
  | crashes every items interval unshown =>
    refine ⟨rfl, latest_free rfl, [.dropped], ?_, ?_, ?_⟩
    · rw [List.filterMap_append, hnotes]
      rfl
    · simp [owned, heldSession?]
    · rw [standing_crashed hm]
      rfl

lemma latest_session {session : Nat} (hl : Latest s) {p : Phase} (hp : s.phase = p)
    (hh : heldSession? p = some session) :
    heldSession? s.phase = some session ∧ session + 1 = s.sessions := by
  rw [← hp] at hh
  exact ⟨hh, hl session hh⟩

lemma closeEnded_deals {giveUpAt : Option Instant} {stimulus : Stimulus} {session : Nat}
    (h : CloseEnded now giveUpAt stimulus) (hh : heldSession? s.phase = some session) :
    ∃ ds : List Dealing, outcomes s stimulus = ds.map (.on session) ∧
      (ds = [] ∨ ds = [.closeEnded]) := by
  rcases h with rfl | ⟨rfl, -⟩
  · exact ⟨[.closeEnded], outcomes_held hh rfl, Or.inr rfl⟩
  · exact ⟨[], outcomes_none (by simp) rfl, Or.inl rfl⟩

lemma interrupted_deals {stimulus : Stimulus} {session : Nat} {e : TransportError}
    (h : Interrupted now s stimulus session e (s', es)) :
    es.filterMap effectDeal? = [] ∧
      ∃ d, outcome? stimulus = some d ∧ (use s.phase).after d = some .failed ∧
        (d = .sendFailed ∨ d = .receiveFailed) := by
  cases h with
  | flushing session item sent e phase =>
    rw [phase]
    exact ⟨rfl, .sendFailed, rfl, rfl, Or.inl rfl⟩
  | receiving session ticker e phase =>
    rw [phase]
    exact ⟨rfl, .receiveFailed, rfl, rfl, Or.inr rfl⟩
  | sending session ticker command e u phase queued =>
    rw [phase]
    exact ⟨queued_dealless queued, .sendFailed, rfl, rfl, Or.inl rfl⟩
  | pinging session ticker e phase =>
    rw [phase]
    exact ⟨rfl, .sendFailed, rfl, rfl, Or.inl rfl⟩

/-- A turn that keeps the session: what came back from it, and then what is asked of it next. -/
lemma keeps_dealt {stimulus : Stimulus} {session : Nat} {p : Phase} {o : Option Dealing}
    (next : List Dealing) (hl : Latest s) (hp : s.phase = p) (hh : heldSession? p = some session)
    (hc : stimulus ≠ .connected) (ho : outcome? stimulus = o)
    (hes : es.filterMap effectDeal? ++ awaited s'.phase = next.map (.on session))
    (hn : s'.sessions = s.sessions) (hh' : heldSession? s'.phase = some session)
    (hkeeps : ((o.toList ++ next).map (.on session)).foldlM owned (some session) =
      some (some session))
    (hgoes : (o.toList ++ next).foldlM Standing.after (use p) = some (use s'.phase)) :
    Latest s' ∧ Dealt s s' (turnDeals s stimulus es s') := by
  obtain ⟨hheld, hm⟩ := latest_session hl hp hh
  have hout : outcomes s stimulus = o.toList.map (.on session) := by
    cases o with
    | none => exact outcomes_none hc ho
    | some d => exact outcomes_held hheld ho
  have hdeals : turnDeals s stimulus es s' = (o.toList ++ next).map (.on session) := by
    unfold turnDeals
    rw [hout, List.append_assoc, hes, List.map_append]
  refine ⟨latest_held hh' (hm.trans hn.symm), ?_⟩
  rw [hdeals]
  exact dealt_goes_on _ hheld hm hn hh' hkeeps (by rw [hp]; exact hgoes)

/-- Every turn deals with sessions in order, and with one at a time. -/
theorem turned_dealt {stimulus : Stimulus} (hl : Latest s)
    (h : Turned c now draw s stimulus (s', es)) :
    Latest s' ∧ Dealt s s' (turnDeals s stimulus es s') := by
  have nothing (ho : outcomes s stimulus = []) (he : es.filterMap effectDeal? = [])
      (ha : awaited s'.phase = []) (hh : heldSession? s.phase = none) (hc : s.phase ≠ .crashed)
      (hh' : heldSession? s'.phase = none) (hc' : s'.phase ≠ .crashed)
      (hn : s'.sessions = s.sessions) : Latest s' ∧ Dealt s s' (turnDeals s stimulus es s') := by
    unfold turnDeals
    rw [ho, he, ha]
    exact ⟨latest_free hh', dealt_nothing hh hc hh' hc' hn⟩
  cases h with
  | starts parked =>
    exact nothing (outcomes_none (by simp) rfl) rfl rfl (free_heldSession? (Or.inl parked))
      (free_not_crashed (Or.inl parked)) rfl (by simp) rfl
  | ignores request idle =>
    have ho : outcomes s (.mail (some request)) = [] := outcomes_none (by simp) rfl
    have free (hf : IsParked s.phase ∨ IsUnconnected s.phase) :
        Latest s ∧ Dealt s s (turnDeals s (.mail (some request)) [] s) :=
      nothing ho rfl (free_awaited hf) (free_heldSession? hf) (free_not_crashed hf)
        (free_heldSession? hf) (free_not_crashed hf) rfl
    rcases idle with ⟨hp, -⟩ | ⟨hp, -⟩ | ⟨⟨session, ticker, hp⟩, -⟩
    · exact free (Or.inl hp)
    · exact free (Or.inr hp)
    · exact keeps_dealt [.receiveBegun] hl hp rfl (by simp) rfl (by rw [hp]; rfl) rfl
        (by rw [hp]; rfl) (by simp [owned, outcome?]) (by rw [hp]; rfl)
  | keeps envelope u free queued =>
    have hfree : IsParked s'.phase ∨ IsUnconnected s'.phase := by
      have hp := queued_phase queued
      rw [hp]
      exact free
    refine nothing (outcomes_none (by simp) rfl) (queued_dealless queued) (free_awaited hfree)
      (free_heldSession? free) (free_not_crashed free) (free_heldSession? hfree)
      (free_not_crashed hfree) (queued_sameCounts queued).sessions
  | leaves parked =>
    exact nothing (outcomes_none (by simp) rfl) rfl rfl (free_heldSession? (Or.inl parked))
      (free_not_crashed (Or.inl parked)) rfl (by simp) rfl
  | calls phase =>
    have hh : heldSession? s.phase = none := by rw [phase]; rfl
    have hc : s.phase ≠ .crashed := by simp [phase]
    refine ⟨latest_free rfl, ?_⟩
    have ho : outcomes s .attemptBegun = [] := outcomes_none (by simp) rfl
    unfold turnDeals
    rw [ho]
    refine Dealt.connects hh rfl ?_
    intro k
    rw [standing_free hh hc]
    exact standing_free rfl (by simp)
  | cancels request after u unconnected asked ended =>
    have hr := endTurn_resting ended
    refine nothing (outcomes_none (by simp) rfl) ?_ (resting_awaited hr)
      (free_heldSession? (Or.inr unconnected)) (free_not_crashed (Or.inr unconnected))
      (resting_heldSession? hr) (resting_not_crashed hr) (endTurn_sameWork ended).sessions
    simpa [effectDeal?] using quiet_dealless (endTurn_quiet ended)
  | opens deadline u phase flushed =>
    have hh : heldSession? s.phase = none := by rw [phase]; rfl
    have hc : s.phase ≠ .crashed := by simp [phase]
    obtain ⟨hn, hl', ds, hds, hkeeps, hgoes⟩ := flushTurn_deals flushed rfl
    have hn : u.1.sessions = s.sessions + 1 := hn
    have hexpired : ((expired now s.queue).map (Effect.evicted · .expired)).filterMap effectDeal? =
        [] := by
      rw [List.filterMap_map]
      simp [Function.comp_def, effectDeal?]
    have hdeals : turnDeals s .connected (.moved .connecting .opened ::
        ((expired now s.queue).map (.evicted · .expired) ++ u.2)) u.1 =
        (.opened :: ds).map (.on s.sessions) := by
      unfold turnDeals
      rw [List.filterMap_cons_none rfl, List.filterMap_append, hexpired, List.nil_append,
        List.append_assoc, hds]
      rfl
    refine ⟨hl', ?_⟩
    rw [hdeals]
    refine Dealt.deals s.sessions _ ?_ ?_ ?_
    · rw [hh]
      exact hkeeps
    · intro k hk
      rw [standing_other hl' (by rw [hn]; omega), standing_free hh hc, hn]
      by_cases hlt : s.sessions ≤ k
      · rw [if_pos hlt, if_pos (by omega)]
      · rw [if_neg hlt, if_neg (by omega)]
    · rw [standing_free hh hc, if_pos (Nat.le_refl _)]
      exact hgoes
  | fails deadline stimulus e u phase failure retried =>
    have hr := retryTurn_resting retried
    refine nothing ?_ ?_ (resting_awaited hr) (by rw [phase]; rfl) (by simp [phase])
      (resting_heldSession? hr) (resting_not_crashed hr) (retryTurn_sameWork retried).sessions
    · cases failure with
      | refused e => exact outcomes_none (by simp) rfl
      | timedOut past => exact outcomes_none (by simp) rfl
    · simpa [effectDeal?] using quiet_dealless (retryTurn_quiet retried)
  | flushesOn session item sent u phase flushed =>
    obtain ⟨hh, hm⟩ := latest_session hl phase rfl
    obtain ⟨hn, hl', ds, hds, hkeeps, hgoes⟩ := flushTurn_deals flushed hm
    have hdeals : turnDeals s .written
        (.wrote session (some item.command) (c.frame (some item.command)) :: u.2) u.1 =
        (.sent :: ds).map (.on session) := by
      unfold turnDeals
      rw [List.filterMap_cons_none rfl, outcomes_held hh rfl, List.append_assoc, hds]
      rfl
    refine ⟨hl', ?_⟩
    rw [hdeals]
    refine dealt_held _ hh hm hn hl' ?_ ?_
    · simpa [owned] using hkeeps
    · rw [phase]
      exact hgoes
  | loses stimulus session e u v interrupted retried =>
    obtain ⟨he, d, hd, hfails, hfailed⟩ := interrupted_deals interrupted
    have hh := interrupted_heldSession? interrupted
    have hr := retryTurn_resting retried
    have hn : v.1.sessions = s.sessions :=
      (retryTurn_sameWork retried).sessions.trans (interrupted_sameCounts interrupted).sessions
    have hdeals : turnDeals s stimulus (u.2 ++ .publish (.connectionLost (.transport e)) ::
        .moved .opened .retrying :: .drop session :: v.2) v.1 =
        [d, .dropped].map (.on session) := by
      unfold turnDeals
      rw [outcomes_held hh hd, resting_awaited hr, List.filterMap_append, he,
        List.filterMap_cons_none rfl, List.filterMap_cons_none rfl, dropped_deals,
        quiet_dealless (retryTurn_quiet retried)]
      rfl
    refine ⟨latest_free (resting_heldSession? hr), ?_⟩
    rw [hdeals]
    refine dealt_drops _ hh (hl session hh) hn (resting_heldSession? hr) (resting_not_crashed hr)
      ?_ ?_
    · rcases hfailed with rfl | rfl <;> simp [owned]
    · rw [List.foldlM_cons, hfails]
      rfl
  | shuts session ticker stimulus after notes phase cause =>
    have hes (told : List Effect) :
        (notes ++ told).filterMap effectDeal? = told.filterMap effectDeal? := by
      rw [List.filterMap_append, quiet_dealless (shutCause_quiet cause), List.nil_append]
    cases cause with
    | asked request after asked =>
      exact keeps_dealt [.closeBegun] hl phase rfl (by simp) rfl (by rw [hes]; rfl) rfl rfl
        (by simp [owned, outcome?]) rfl
    | unreadable f e unread fatal =>
      exact keeps_dealt [.closeBegun] hl phase rfl (by simp) rfl (by rw [hes]; rfl) rfl rfl
        (by simp [owned, outcome?]) rfl
  | skipsFrame session ticker f e phase unread harmless =>
    exact keeps_dealt [.receiveBegun] hl phase rfl (by simp) rfl (by rw [phase]; rfl) rfl
      (by rw [phase]; rfl) (by simp [owned, outcome?]) (by rw [phase]; rfl)
  | dispatches session ticker f e phase read =>
    exact keeps_dealt [.receiveBegun] hl phase rfl (by simp) rfl (by rw [phase]; rfl) rfl
      (by rw [phase]; rfl) (by simp [owned, outcome?]) (by rw [phase]; rfl)
  | sends session ticker envelope phase =>
    exact keeps_dealt [.sendBegun] hl phase rfl (by simp) rfl rfl rfl rfl
      (by simp [owned, outcome?]) rfl
  | pings session ticker next phase =>
    exact keeps_dealt [.sendBegun] hl phase rfl (by simp) rfl rfl rfl rfl
      (by simp [owned, outcome?]) rfl
  | overruns session ticker phase =>
    obtain ⟨hh, hm⟩ := latest_session hl phase rfl
    have hdeals : turnDeals s .heartbeatDue [.drop session] { s with phase := .crashed } =
        [Dealing.dropped].map (.on session) := by
      unfold turnDeals
      rw [outcomes_none (by simp) rfl]
      rfl
    rw [hdeals]
    refine ⟨latest_free rfl, dealt_held [.dropped] hh hm rfl (latest_free rfl) ?_ ?_⟩
    · simp [owned, heldSession?]
    · rw [phase, standing_crashed hm]
      rfl
  | sent session ticker command phase =>
    exact keeps_dealt [.receiveBegun] hl phase rfl (by simp) rfl rfl rfl rfl
      (by simp [owned, outcome?]) rfl
  | pinged session ticker phase =>
    exact keeps_dealt [.receiveBegun] hl phase rfl (by simp) rfl rfl rfl rfl
      (by simp [owned, outcome?]) rfl
  | wakes wakeAt phase due =>
    exact nothing (outcomes_none (by simp) rfl) rfl rfl (by rw [phase]; rfl)
      (by simp [phase]) rfl (by simp) rfl
  | closes session giveUpAt stimulus after u phase finished ended =>
    obtain ⟨hh, hm⟩ := latest_session hl phase rfl
    obtain ⟨ds, ho, hds⟩ := closeEnded_deals finished hh
    have hr := endTurn_resting ended
    have hdeals : turnDeals s stimulus (.drop session :: u.2) u.1 =
        (ds ++ [Dealing.dropped]).map (.on session) := by
      unfold turnDeals
      rw [ho, resting_awaited hr, dropped_deals,
        quiet_dealless (endTurn_quiet ended), List.map_append, List.append_nil]
      rfl
    refine ⟨latest_free (resting_heldSession? hr), ?_⟩
    rw [hdeals]
    refine dealt_drops _ hh hm (endTurn_sameWork ended).sessions (resting_heldSession? hr)
      (resting_not_crashed hr) ?_ ?_
    · rcases hds with rfl | rfl <;> simp [owned]
    · rw [phase]
      rcases hds with rfl | rfl <;> rfl

end Turns

/-! Whole runs -/

lemma transportLog_append (h : History) (o : Occurrence) :
    transportLog (h ++ [o]) =
      transportLog h ++ turnDeals o.before o.stimulus o.effects o.after := by
  simp [transportLog]

lemma transportLog_split (h₁ h₂ : History) :
    transportLog (h₁ ++ h₂) = transportLog h₁ ++ transportLog h₂ := List.flatMap_append

lemma mem_transportLog {h : History} {o : Occurrence} {deal : Deal} (ho : o ∈ h)
    (hd : deal ∈ turnDeals o.before o.stimulus o.effects o.after) : deal ∈ transportLog h :=
  List.mem_flatMap.mpr ⟨o, ho, hd⟩

lemma mem_life {k : Nat} {d : Dealing} {log : List Deal} : d ∈ life k log ↔ .on k d ∈ log := by
  unfold life
  rw [List.mem_filterMap]
  constructor
  · rintro ⟨deal, hmem, hdeal⟩
    cases deal with
    | connect => cases hdeal
    | on other d' =>
      by_cases hk : other = k
      · simp only [if_pos hk, Option.some.injEq] at hdeal
        rwa [← hk, ← hdeal]
      · simp [if_neg hk] at hdeal
  · intro hmem
    exact ⟨_, hmem, if_pos rfl⟩

/-- The dealings so far are in order, and have led to where the sessions stand now. -/
structure InOrder (h : History) (s : Supervisor) : Prop where
  latest : Latest s
  owner : (transportLog h).foldlM owned none = some (heldSession? s.phase)
  lives : ∀ k, (life k (transportLog h)).foldlM Standing.after .unopened = some (standing s k)

section Runs

variable {c : Config} {now : Instant} {draw : Nat} {s s' : Supervisor} {es : List Effect}

lemma dealt_inOrder {h : History} {o : Occurrence} (hs : InOrder h s) (hl' : Latest s')
    (hd : Dealt s s' (turnDeals o.before o.stimulus o.effects o.after)) :
    InOrder (h ++ [o]) s' := by
  refine ⟨hl', ?_, ?_⟩
  · rw [transportLog_append]
    refine foldlM_join hs.owner ?_
    generalize turnDeals o.before o.stimulus o.effects o.after = new at hd ⊢
    cases hd with
    | connects unheld unheld' same =>
      rw [unheld, unheld']
      rfl
    | deals session ds keeps others goes => exact keeps
  · intro k
    rw [transportLog_append, life_append]
    refine foldlM_join (hs.lives k) ?_
    generalize turnDeals o.before o.stimulus o.effects o.after = new at hd ⊢
    cases hd with
    | connects unheld unheld' same =>
      rw [same]
      rfl
    | deals session ds keeps others goes =>
      by_cases hk : k = session
      · rw [hk, life_same]
        exact goes
      · rw [life_other ds hk, others k hk]
        rfl

lemma fresh_inOrder (c : Config) : InOrder [] (.fresh c) := by
  have hidle : (Supervisor.fresh c).phase ≠ .crashed := by
    simp [Supervisor.fresh]
  refine ⟨latest_free rfl, rfl, ?_⟩
  intro k
  rw [standing_free rfl hidle]
  exact congrArg some (if_pos (Nat.zero_le k)).symm

theorem run_inOrder {h : History} (r : Run c h s) : InOrder h s := by
  refine course_invariant (P := InOrder) (fresh_aligned c) (fresh_inOrder c) ?_ r
  intro h s now draw stimulus s' es ih _ ht
  obtain ⟨hl', hd⟩ := turned_dealt ih.latest ht
  exact dealt_inOrder (o := ⟨s, now, draw, stimulus, es, s'⟩) ih hl' hd

/-- A session whose use has ended is not used in the rest of the run. -/
theorem run_ended {h₁ h₂ : History} {k : Nat} {d d' : Dealing} (r : Run c (h₁ ++ h₂) s)
    (hd : .on k d ∈ transportLog h₁) (hending : IsEnding d) (hd' : .on k d' ∈ transportLog h₂) :
    IsEnding d' := by
  have hlife := (run_inOrder r).lives k
  rw [transportLog_split, life_append] at hlife
  exact ending_lasts hending (mem_life.mpr hd) hlife d' (mem_life.mpr hd')

end Runs

end SteadyLink.Proofs
