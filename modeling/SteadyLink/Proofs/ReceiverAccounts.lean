import Mathlib.Algebra.BigOperators.Group.List.Basic
import Mathlib.Algebra.Ring.Nat
import Mathlib.Data.List.Induction
import Mathlib.Order.Bounds.Basic
import SteadyLink.Event.Bus

/-!
# The accounts of receivers

What a receiver has obtained, what it was told to have lost and what it holds are together what was
published since it came, and it holds no more than the ring. So the numbers of the events it obtains
count all three.
-/

namespace SteadyLink.Proofs

/-! ## What is heard -/

def obtained? : Reception → Option Event
  | .event e => some e
  | _ => none

/-- How many events are reported as lost. -/
def skips : Reception → Nat
  | .lagged count => count
  | _ => 0

def obtained (heard : List Reception) : List Event := heard.filterMap obtained?

def skipped (heard : List Reception) : Nat := (heard.map skips).sum

/-- How many events a receiver is done with: those it obtained and those it lost. -/
def progress (heard : List Reception) : Nat := (obtained heard).length + skipped heard

/-- The events have the numbers from one on. -/
def Counted (sent : List Event) : Prop := sent.map Event.seq = List.range' 1 sent.length

/-- What a receiver heard that came after the first `start` of the events sent. -/
structure HeardInOrder (sent : List Event) (start : Nat) (heard : List Reception) : Prop where
  /-- The number of an event counts the events sent before the receiver came, those it has obtained,
  this one included, and those it has lost; and it is the event that was sent with this number. -/
  numbered : ∀ earlier e later, heard = earlier ++ .event e :: later →
    e.seq = start + (obtained (earlier ++ [.event e])).length + skipped earlier ∧
      sent[e.seq - 1]? = some e
  increasing : (obtained heard).Pairwise fun e e' => e.seq < e'.seq

/-- What a receiver holds: all that was sent beyond its progress, except what it does not know yet to
have lost. It loses nothing while the ring has room. -/
structure Accounted (ring : Nat) (sent : List Event) (start : Nat) (heard : List Reception)
    (held : Receiver) : Prop where
  length_le : held.pending.length ≤ ring
  pending : held.pending = sent.drop (start + progress heard + held.missed)
  whole : start + progress heard + held.missed + held.pending.length = sent.length
  full : 0 < held.missed → held.pending.length = ring

section Accounts

variable {sent : List Event} {start ring : Nat} {heard : List Reception} {x : Reception} {e : Event}
  {held : Receiver}

@[simp] lemma obtained_concat (heard : List Reception) (x : Reception) :
    obtained (heard ++ [x]) = obtained heard ++ (obtained? x).toList := by
  rw [obtained, List.filterMap_append]
  cases hx : obtained? x <;> simp [obtained, hx]

@[simp] lemma skipped_concat (heard : List Reception) (x : Reception) :
    skipped (heard ++ [x]) = skipped heard + skips x := by
  simp [skipped]

lemma progress_event (heard : List Reception) (e : Event) :
    progress (heard ++ [.event e]) = progress heard + 1 := by
  simp only [progress, obtained_concat, skipped_concat, obtained?, skips, Option.toList_some,
    List.length_append, List.length_singleton]
  omega

lemma progress_other (other : obtained? x = none) :
    progress (heard ++ [x]) = progress heard + skips x := by
  simp only [progress, obtained_concat, skipped_concat, other, Option.toList_none, List.append_nil]
  omega

lemma progress_append_le (heard later : List Reception) :
    progress heard ≤ progress (heard ++ later) := by
  simp only [progress, obtained, skipped, List.filterMap_append, List.map_append, List.length_append,
    List.sum_append]
  omega

/-! ## Numbers -/

lemma counted_nil : Counted [] := rfl

lemma counted_concat (h : Counted sent) (he : e.seq = sent.length + 1) : Counted (sent ++ [e]) := by
  unfold Counted at *
  rw [List.map_append, h, List.length_append, List.length_singleton, List.range'_concat,
    List.map_singleton, he, Nat.one_mul, Nat.add_comm]

lemma counted_seq (h : Counted sent) {k : Nat} (he : sent[k]? = some e) : e.seq = k + 1 := by
  have number : (sent.map Event.seq)[k]? = some e.seq := by rw [List.getElem?_map, he, Option.map_some]
  rw [h, List.getElem?_eq_some_iff] at number
  obtain ⟨_, number⟩ := number
  rw [← number, List.getElem_range']
  omega

/-! ## In order -/

lemma heardInOrder_nil (sent : List Event) (start : Nat) {heard : List Reception}
    (none : obtained heard = []) : HeardInOrder sent start heard where
  numbered := by
    intro earlier e later split
    rw [split, obtained, List.filterMap_append] at none
    simp [obtained?] at none
  increasing := none ▸ .nil

lemma heardInOrder_sent (h : HeardInOrder sent start heard) (es : List Event) :
    HeardInOrder (sent ++ es) start heard where
  numbered := by
    intro earlier e later split
    obtain ⟨number, there⟩ := h.numbered earlier e later split
    refine ⟨number, ?_⟩
    rw [List.getElem?_append_left (List.getElem?_eq_some_iff.1 there).1, there]
  increasing := h.increasing

/-- All that was obtained has a number up to the progress. -/
lemma heardInOrder_le (h : HeardInOrder sent start heard) (he : e ∈ obtained heard) :
    e.seq ≤ start + progress heard := by
  obtain ⟨x, hx, came⟩ := List.mem_filterMap.1 he
  obtain ⟨earlier, later, split⟩ := List.append_of_mem hx
  cases x with
  | event e' =>
    cases came
    have number := (h.numbered earlier e later split).1
    have below := progress_append_le (earlier ++ [.event e]) later
    rw [List.append_assoc, List.singleton_append, ← split] at below
    rw [progress, skipped_concat] at below
    omega
  | _ => cases came

/-- An event is in order if it is the next one that was sent beyond the progress. -/
lemma heardInOrder_event (h : HeardInOrder sent start heard) (counted : Counted sent)
    (next : sent[start + progress heard]? = some e) :
    HeardInOrder sent start (heard ++ [.event e]) where
  numbered := by
    intro earlier e' later split
    cases later using List.reverseRecOn with
    | nil =>
      obtain ⟨rfl, last⟩ := List.append_inj' split rfl
      cases last
      have number := counted_seq counted next
      constructor
      · rw [number, obtained_concat, progress]
        simp only [obtained?, Option.toList_some, List.length_append, List.length_singleton]
        omega
      · rw [number, Nat.add_sub_cancel, next]
    | append_singleton later last =>
      rw [← List.cons_append, ← List.append_assoc] at split
      exact h.numbered earlier e' later (List.append_inj' split rfl).1
  increasing := by
    rw [obtained_concat]
    refine List.pairwise_append.2 ⟨h.increasing, List.pairwise_singleton _ _, ?_⟩
    intro e' he' last hlast
    cases List.mem_singleton.1 hlast
    have below := heardInOrder_le h he'
    rw [counted_seq counted next]
    omega

/-- Whatever is not an event leaves the order as it is. -/
lemma heardInOrder_other (h : HeardInOrder sent start heard) (other : obtained? x = none) :
    HeardInOrder sent start (heard ++ [x]) where
  numbered := by
    intro earlier e later split
    cases later using List.reverseRecOn with
    | nil =>
      obtain ⟨-, last⟩ := List.append_inj' split rfl
      cases last
      cases other
    | append_singleton later last =>
      rw [← List.cons_append, ← List.append_assoc] at split
      exact h.numbered earlier e later (List.append_inj' split rfl).1
  increasing := by
    rw [obtained_concat, other, Option.toList_none, List.append_nil]
    exact h.increasing

/-! ## Accounts -/

lemma accounted_fresh (none : progress heard = 0) :
    Accounted ring sent sent.length heard .fresh where
  length_le := Nat.zero_le _
  pending := by
    rw [none]
    exact (List.drop_length).symm
  whole := by
    rw [none]
    rfl
  full := fun missed => absurd missed (Nat.lt_irrefl 0)

lemma accounted_accept (h : Accounted ring sent start heard held) (room : 0 < ring) (e : Event) :
    Accounted ring (sent ++ [e]) start heard (held.accept ring e) := by
  have whole := h.whole
  unfold Receiver.accept
  by_cases fits : held.pending.length < ring
  · rw [if_pos fits]
    refine ⟨?_, ?_, ?_, ?_⟩
    · rw [List.length_append]
      exact fits
    · dsimp only
      rw [List.drop_append_of_le_length (by omega), ← h.pending]
    · simp only [List.length_append, List.length_singleton]
      omega
    · intro missed
      exact absurd (h.full missed) (Nat.ne_of_lt fits)
  · have length := h.length_le
    rw [if_neg fits]
    refine ⟨?_, ?_, ?_, ?_⟩
    · simp only [List.length_append, List.length_tail, List.length_singleton]
      omega
    · dsimp only
      rw [← Nat.add_assoc, List.drop_append_of_le_length (by omega), h.pending, List.tail_drop]
    · simp only [List.length_append, List.length_tail, List.length_singleton]
      omega
    · intro _
      simp only [List.length_append, List.length_tail, List.length_singleton]
      omega

lemma accounted_report (h : Accounted ring sent start heard held) :
    Accounted ring sent start (heard ++ [.lagged held.missed]) { held with missed := 0 } where
  length_le := h.length_le
  pending := by
    rw [progress_other rfl, Nat.add_zero, skips, ← Nat.add_assoc]
    exact h.pending
  whole := by
    rw [progress_other rfl, Nat.add_zero, skips, ← Nat.add_assoc]
    exact h.whole
  full := fun missed => absurd missed (Nat.lt_irrefl 0)

lemma accounted_idle (h : Accounted ring sent start heard held) (other : obtained? x = none)
    (lossless : skips x = 0) : Accounted ring sent start (heard ++ [x]) held where
  length_le := h.length_le
  pending := by
    rw [progress_other other, lossless]
    exact h.pending
  whole := by
    rw [progress_other other, lossless]
    exact h.whole
  full := h.full

/-- A receiver that knows of all its losses reads the next event. -/
lemma accounted_read {rest : List Event} (h : Accounted ring sent start heard held)
    (told : held.missed = 0) (hp : held.pending = e :: rest) :
    Accounted ring sent start (heard ++ [.event e]) { held with pending := rest } ∧
      sent[start + progress heard]? = some e := by
  have length := h.length_le
  have pending := h.pending
  have whole := h.whole
  rw [hp, List.length_cons] at length
  rw [hp, told, Nat.add_zero] at pending
  rw [hp, List.length_cons] at whole
  refine ⟨⟨Nat.le_of_succ_le length, ?_, ?_, fun missed => absurd told (Nat.ne_of_gt missed)⟩, ?_⟩
  · rw [progress_event, told, Nat.add_zero, ← Nat.add_assoc, ← List.tail_drop, ← pending,
      List.tail_cons]
  · rw [progress_event]
    dsimp only
    omega
  · rw [← List.head?_drop, ← pending, List.head?_cons]

/-- What a receiver reads is the next event, or how many it has lost before it. -/
lemma accounted_receive (h : Accounted ring sent start heard held) (publishers : Nat) :
    Accounted ring sent start (heard ++ [(held.receive publishers).1]) (held.receive publishers).2 ∧
      ∀ e, (held.receive publishers).1 = .event e → sent[start + progress heard]? = some e := by
  unfold Receiver.receive
  by_cases behind : 0 < held.missed
  · rw [if_pos behind]
    exact ⟨accounted_report h, fun e he => by cases he⟩
  · rw [if_neg behind]
    cases hp : held.pending with
    | cons e rest =>
      obtain ⟨after, next⟩ := accounted_read h (Nat.eq_zero_of_not_pos behind) hp
      refine ⟨after, ?_⟩
      intro e' he
      cases he
      exact next
    | nil =>
      by_cases alone : publishers = 0
      · simp only [if_pos alone]
        exact ⟨accounted_idle h rfl rfl, fun e he => by cases he⟩
      · simp only [if_neg alone]
        exact ⟨accounted_idle h rfl rfl, fun e he => by cases he⟩

end Accounts

/-! ## The ring -/

/-- The size of the ring is the least power of two that is not below the capacity, which counts as one
if it is zero. -/
lemma powerAbove_isLeast (capacity : Nat) :
    IsLeast {c | max 1 capacity ≤ c ∧ ∃ k, c = 2 ^ k} (powerAbove (max 1 capacity)) := by
  unfold powerAbove
  by_cases one : max 1 capacity ≤ 1
  · rw [if_pos one]
    exact ⟨⟨one, 0, rfl⟩, fun c h => Nat.le_trans (Nat.le_max_left 1 capacity) h.1⟩
  · have positive : max 1 capacity - 1 ≠ 0 := by omega
    rw [if_neg one]
    refine ⟨⟨?_, _, rfl⟩, ?_⟩
    · have below := (Nat.log2_lt positive).1 (Nat.lt_succ_self _)
      exact Nat.le_of_pred_lt below
    · rintro c ⟨above, k, rfl⟩
      have exponent : Nat.log2 (max 1 capacity - 1) < k := (Nat.log2_lt positive).2 (by omega)
      exact Nat.pow_le_pow_right (Nat.zero_lt_succ 1) exponent

end SteadyLink.Proofs
