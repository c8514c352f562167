import Mathlib.Data.List.Perm.Basic
import SteadyLink.Proofs.Commands

/-!
# The ledger of commands

`Ledger` says that the commands written, given up, in hand and in the queue are together the accepted
ones, and that those not given up stand in the order of acceptance. Each way a command can take keeps
it.
-/

namespace SteadyLink.Proofs

open Supervisor

/-- Every accepted command is in one of the four places, and those not given up keep their order. -/
structure Ledger (accepted written evicted inHand waiting : List Command) : Prop where
  places : (written ++ evicted ++ inHand ++ waiting).Perm accepted
  order : (written ++ inHand ++ waiting).Sublist accepted

section Ledger

variable {a w e i q : List Command} {x : Command}

lemma ledger_empty : Ledger [] [] [] [] [] := ⟨List.Perm.refl _, List.Sublist.refl _⟩

lemma ledger_accept_waiting (h : Ledger a w e [] q) : Ledger (a ++ [x]) w e [] (q ++ [x]) := by
  constructor
  · rw [← List.append_assoc]
    exact h.places.append_right [x]
  · rw [← List.append_assoc]
    exact h.order.append (List.Sublist.refl [x])

lemma ledger_accept_inHand (h : Ledger a w e [] []) : Ledger (a ++ [x]) w e [x] [] := by
  have hq := ledger_accept_waiting (x := x) h
  constructor
  · simpa using hq.places
  · simpa using hq.order

/-- Commands in the queue are given up, and the others keep their order. -/
lemma ledger_give_up {lost rest : List Command} (h : Ledger a w e i q)
    (hperm : (lost ++ rest).Perm q) (hsub : rest.Sublist q) : Ledger a w (e ++ lost) i rest := by
  constructor
  · refine List.Perm.trans ?_ h.places
    refine List.Perm.trans ?_ (List.Perm.append_left (w ++ e ++ i) hperm)
    simp only [List.append_assoc]
    refine List.Perm.append_left w (List.Perm.append_left e ?_)
    rw [← List.append_assoc, ← List.append_assoc]
    exact List.Perm.append_right rest List.perm_append_comm
  · refine List.Sublist.trans ?_ h.order
    exact (List.Sublist.refl _).append hsub

lemma ledger_pop (h : Ledger a w e [] (x :: q)) : Ledger a w e [x] q := by
  constructor
  · simpa using h.places
  · simpa using h.order

lemma ledger_return (h : Ledger a w e i q) : Ledger a w e [] (i ++ q) := by
  constructor
  · simpa using h.places
  · simpa using h.order

lemma ledger_write (h : Ledger a w e [x] q) : Ledger a (w ++ [x]) e [] q := by
  constructor
  · refine List.Perm.trans ?_ h.places
    simp only [List.append_assoc, List.append_nil]
    refine List.Perm.append_left w ?_
    rw [← List.append_assoc, ← List.append_assoc]
    exact List.Perm.append_right q List.perm_append_comm
  · simpa using h.order

end Ledger

section Turns

variable {c : Config} {now : Instant} {draw : Nat} {s s' : Supervisor} {es : List Effect}
variable {a w e : List Command}

lemma flushTurn_ledger {session sent : Nat} (h : FlushTurn c now session sent s (s', es))
    (hl : Ledger a w e [] (waiting s)) :
    Ledger a (w ++ written es) (e ++ evicted es) (inHand s'.phase) (waiting s') := by
  cases h with
  | writes item rest items =>
    unfold waiting at hl
    rw [items] at hl
    simpa [inHand, waiting, writtenCommand?, evictedCommand?] using ledger_pop hl
  | serves ticker items first =>
    have hq : ∀ e ∈ flushNotes sent ++ [.began .opened], IsQuiet e := by
      intro e he
      rcases List.mem_append.mp he with he | he
      · exact flushNotes_quiet sent e he
      · exact Or.inl ⟨_, List.mem_singleton.mp he⟩
    rw [quiet_written hq, quiet_evicted hq, List.append_nil, List.append_nil]
    exact hl
  | crashes every items interval unshown =>
    rw [written_append, evicted_append, quiet_written (flushNotes_quiet sent),
      quiet_evicted (flushNotes_quiet sent)]
    simpa [inHand, waiting, writtenCommand?, evictedCommand?] using hl

lemma expire_ledger (now : Instant) {i : List Command} (hl : Ledger a w e i (waiting s)) :
    Ledger a w (e ++ expired now s.queue) i ((unexpired now s.queue).map (·.command)) := by
  refine ledger_give_up hl ?_ ?_
  · unfold expired unexpired waiting
    rw [← List.map_append]
    exact (List.filter_append_perm _ _).map _
  · exact List.filter_sublist.map _

lemma queued_ledger {command : Command} (h : Queued now command s (s', es))
    (hl : Ledger a w e [] (waiting s)) :
    Ledger (a ++ [command]) (w ++ written es) (e ++ evicted es) [] (waiting s') := by
  cases h with
  | fits room =>
    simpa [waiting] using ledger_accept_waiting (x := command) hl
  | evicts old rest items full =>
    unfold waiting at hl
    rw [items] at hl
    simpa [waiting, writtenCommand?, evictedCommand?] using
      ledger_accept_waiting (x := command)
        (ledger_give_up  hl (List.Perm.refl _) (List.sublist_cons_self _ _))

lemma ledger_kept {stimulus : Stimulus} (hl : Ledger a w e (inHand s.phase) (waiting s))
    (ht : takenEnvelope? stimulus = none) (hw : written es = []) (he : evicted es = [])
    (hi : inHand s'.phase = inHand s.phase) (hq : s'.queue = s.queue) :
    Ledger (a ++ taken s stimulus) (w ++ written es) (e ++ evicted es) (inHand s'.phase)
      (waiting s') := by
  unfold taken
  rw [ht, hw, he, hi, waiting_of_queue hq]
  simpa using hl

theorem turned_ledger {stimulus : Stimulus} (hs : QueueKept c s)
    (hl : Ledger a w e (inHand s.phase) (waiting s))
    (h : Turned c now draw s stimulus (s', es)) :
    Ledger (a ++ taken s stimulus) (w ++ written es) (e ++ evicted es) (inHand s'.phase)
      (waiting s') := by
  cases h with
  | starts parked => exact ledger_kept hl rfl rfl rfl (free_inHand (Or.inl parked)).symm rfl
  | ignores request idle =>
    refine ledger_kept hl ?_ rfl rfl rfl rfl
    rcases idle with ⟨-, rfl⟩ | ⟨-, rfl⟩ | ⟨-, rfl⟩ <;> rfl
  | keeps envelope u free queued =>
    rw [free_inHand free] at hl
    rw [queued_phase queued, free_inHand free]
    exact queued_ledger queued hl
  | leaves parked => exact ledger_kept hl rfl rfl rfl (free_inHand (Or.inl parked)).symm rfl
  | calls phase => exact ledger_kept hl rfl rfl rfl (by rw [phase]; rfl) rfl
  | cancels request after u unconnected asked ended =>
    refine ledger_kept hl ?_ ?_ ?_ ?_ (endTurn_sameWork ended).queue
    · cases asked <;> rfl
    · simpa [writtenCommand?] using quiet_written (endTurn_quiet ended)
    · simpa [evictedCommand?] using quiet_evicted (endTurn_quiet ended)
    · rw [resting_inHand (endTurn_resting ended), free_inHand (Or.inr unconnected)]
  | opens deadline u phase flushed =>
    rw [phase] at hl
    have hf := flushTurn_ledger flushed (expire_ledger now hl)
    simpa [taken, takenEnvelope?, writtenCommand?, evictedCommand?, written_expired,
      evicted_expired] using hf
  | fails deadline stimulus e u phase failure retried =>
    refine ledger_kept hl (attemptFailure_taken failure) ?_ ?_ ?_ (retryTurn_sameWork retried).queue
    · simpa [writtenCommand?] using quiet_written (retryTurn_quiet retried)
    · simpa [evictedCommand?] using quiet_evicted (retryTurn_quiet retried)
    · rw [resting_inHand (retryTurn_resting retried), phase]
      rfl
  | flushesOn session item sent u phase flushed =>
    rw [phase] at hl
    have hf := flushTurn_ledger flushed (ledger_write hl)
    simpa [taken, takenEnvelope?, writtenCommand?, evictedCommand?] using hf
  | loses stimulus session fault u v interrupted retried =>
    obtain ⟨hu, hw⟩ := interrupted_returns interrupted hs
    have hr : Ledger a w e [] (waiting { u.1 with state := .retrying }) := by
      show Ledger a w e [] (waiting u.1)
      rw [hw]
      exact ledger_return hl
    rw [hu, resting_inHand (retryTurn_resting retried),
      waiting_of_queue (retryTurn_sameWork retried).queue]
    simpa [taken, interrupted_taken interrupted, writtenCommand?, evictedCommand?,
      quiet_written (retryTurn_quiet retried), quiet_evicted (retryTurn_quiet retried)] using hr
  | shuts session ticker stimulus after notes phase cause =>
    refine ledger_kept hl (shutCause_taken cause) ?_ ?_ ?_ rfl
    · simp [quiet_written (shutCause_quiet cause), writtenCommand?]
    · simp [quiet_evicted (shutCause_quiet cause), evictedCommand?]
    · rw [phase]
      rfl
  | skipsFrame => exact ledger_kept hl rfl rfl rfl rfl rfl
  | dispatches => exact ledger_kept hl rfl rfl rfl rfl rfl
  | sends session ticker envelope phase =>
    have hq : waiting s = [] := by
      unfold waiting
      rw [hs.serving (Or.inl ⟨session, ticker, phase⟩)]
      rfl
    rw [phase, hq] at hl
    have ha : Ledger (a ++ [⟨s.accepted + 1, envelope⟩]) w e [⟨s.accepted + 1, envelope⟩]
        (waiting s) := by
      rw [hq]
      exact ledger_accept_inHand hl
    simpa [taken, takenEnvelope?, writtenCommand?, evictedCommand?, inHand, waiting] using ha
  | pings session ticker next phase => exact ledger_kept hl rfl rfl rfl (by rw [phase]; rfl) rfl
  | overruns session ticker phase => exact ledger_kept hl rfl rfl rfl (by rw [phase]; rfl) rfl
  | sent session ticker command phase =>
    rw [phase] at hl
    have hw := ledger_write hl
    simpa [taken, takenEnvelope?, writtenCommand?, evictedCommand?, inHand, waiting] using hw
  | pinged session ticker phase => exact ledger_kept hl rfl rfl rfl (by rw [phase]; rfl) rfl
  | wakes wakeAt phase due => exact ledger_kept hl rfl rfl rfl (by rw [phase]; rfl) rfl
  | closes session giveUpAt stimulus after u phase finished ended =>
    refine ledger_kept hl (closeEnded_taken finished) ?_ ?_ ?_ (endTurn_sameWork ended).queue
    · simpa [writtenCommand?] using quiet_written (endTurn_quiet ended)
    · simpa [evictedCommand?] using quiet_evicted (endTurn_quiet ended)
    · rw [resting_inHand (endTurn_resting ended), phase]
      rfl

end Turns

end SteadyLink.Proofs
