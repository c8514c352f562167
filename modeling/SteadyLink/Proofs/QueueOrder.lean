import Mathlib.Data.List.TakeWhile
import SteadyLink.Connection.CommandQueue

/-!
# The order of the queue

Commands are pushed into a queue while time goes on, items are taken out of it, put back and dropped
for their age, in any order. What stands outside, waiting to be put back, and the queue behind it are
always a part of what was pushed, in the order of the pushes. Hence the oldest items come first, and
those past their age are the beginning of the queue.
-/

namespace SteadyLink.Proofs

open CommandQueue

section Definitions

variable {α : Type}

/-- What is done with a queue. -/
inductive QueueStep (α : Type) where
  /-- Time passes. -/
  | wait (nanos : Nat)
  | push (command : α)
  | pop
  /-- The item that was taken out last and is not back is put back. -/
  | putBack
  /-- Items are dropped that are past their age at some instant, whatever the clock shows. -/
  | expire (now : Instant)

structure QueueRun (α : Type) where
  queue : CommandQueue α
  clock : Instant
  /-- The items that were taken out and are not back, the last one first. -/
  out : List (Pending α)
  /-- All that was pushed, the earliest first. -/
  pushed : List (Pending α)

namespace QueueRun

def step (r : QueueRun α) : QueueStep α → QueueRun α
  | .wait nanos => { r with clock := r.clock + nanos }
  | .push command =>
    { r with
      queue := (r.queue.push r.clock command).2
      pushed := r.pushed ++ [⟨command, r.clock⟩] }
  | .pop =>
    match r.queue.pop? with
    | some (item, queue) => { r with queue, out := item :: r.out }
    | none => r
  | .putBack =>
    match r.out with
    | item :: out => { r with queue := r.queue.pushFront item, out }
    | [] => r
  | .expire now => { r with queue := (r.queue.takeExpired now).2 }

def steps (r : QueueRun α) (schedule : List (QueueStep α)) : QueueRun α := schedule.foldl step r

def start (capacity : Nat) (ttl : Option Duration) : QueueRun α := ⟨.ofCapacity capacity ttl, 0, [], []⟩

end QueueRun

/-- At this instant the item is older than the limit. -/
def Outlived (ttl : Option Duration) (now : Instant) (item : Pending α) : Prop :=
  ∃ limit, ttl = some limit ∧ item.enqueuedAt + limit.nanos < now

def NoLater (a b : Pending α) : Prop := a.enqueuedAt ≤ b.enqueuedAt

/-- What holds of a queue of the given capacity and age limit, whatever was done with it. -/
structure KeepsOrder (capacity : Nat) (ttl : Option Duration) (r : QueueRun α) : Prop where
  length_le : r.queue.length ≤ max 1 capacity
  push_order : r.queue.items.Sublist r.pushed
  oldest_first : r.queue.items.Pairwise NoLater
  /-- A queue that is not full takes a command and gives none up. -/
  fits : r.queue.length ≠ max 1 capacity → ∀ now command,
    r.queue.push now command = (none, { r.queue with items := r.queue.items ++ [⟨command, now⟩] })
  /-- A full queue gives its head up. -/
  evicts : r.queue.length = max 1 capacity → ∃ head rest, r.queue.items = head :: rest ∧
    ∀ now command, r.queue.push now command =
      (some head.command, { r.queue with items := rest ++ [⟨command, now⟩] })
  /-- What is past its age stands before what is not, at any instant. -/
  expires : ∀ now, ∃ old young, r.queue.items = old ++ young ∧
    r.queue.takeExpired now = (old.map (·.command), { r.queue with items := young }) ∧
    (∀ item ∈ old, Outlived ttl now item) ∧ ∀ item ∈ young, ¬ Outlived ttl now item
  /-- What is taken out is the head. -/
  pops : r.queue.pop? =
    r.queue.items.head?.map fun head => (head, { r.queue with items := r.queue.items.tail })
  /-- After `k` pops the first `k` items are outside, the last one in front, and the others are left. -/
  takes : ∀ k ≤ r.queue.length, r.steps (List.replicate k .pop) =
    { r with
      queue := { r.queue with items := r.queue.items.drop k }
      out := (r.queue.items.take k).reverse ++ r.out }
  /-- Items that are taken out and put back at once stand where they were. -/
  restores : ∀ k ≤ r.queue.length,
    r.steps (List.replicate k .pop ++ List.replicate k .putBack) = r

/-- The invariant of a run: the items outside, the last one first, would stand before the queue. -/
structure QueueLine (capacity : Nat) (ttl : Option Duration) (r : QueueRun α) : Prop where
  capacity : r.queue.capacity = max 1 capacity
  ttl : r.queue.ttl = ttl
  room : r.queue.items.length ≤ r.queue.capacity
  order : (r.out.reverse ++ r.queue.items).Sublist r.pushed
  times : r.pushed.Pairwise NoLater
  past : ∀ item ∈ r.pushed, item.enqueuedAt ≤ r.clock

end Definitions

section Lists

variable {α : Type} {p : α → Bool} {l : List α}

/-- Where a property is lost once, it is lost for good. -/
lemma dropWhile_lacks (h : l.Pairwise fun a b => p b = true → p a = true) :
    ∀ a ∈ l.dropWhile p, p a = false := by
  induction l with
  | nil => exact nofun
  | cons first l ih =>
    obtain ⟨others, later⟩ := List.pairwise_cons.mp h
    by_cases hfirst : p first = true
    · rw [List.dropWhile_cons_of_pos hfirst]
      exact ih later
    · rw [List.dropWhile_cons_of_neg hfirst]
      intro a ha
      rw [← Bool.not_eq_true]
      rcases List.mem_cons.mp ha with rfl | ha
      · exact hfirst
      · exact fun has => hfirst (others a ha has)

/-- Such a property divides a list in two. -/
lemma filter_divides (h : l.Pairwise fun a b => p b = true → p a = true) :
    l.filter p = l.takeWhile p ∧ l.filter (fun a => !p a) = l.dropWhile p := by
  have front : ∀ a ∈ l.takeWhile p, p a = true := fun a => List.mem_takeWhile_imp
  have back := dropWhile_lacks h
  constructor
  · calc
      l.filter p = (l.takeWhile p ++ l.dropWhile p).filter p := by rw [List.takeWhile_append_dropWhile]
      _ = l.takeWhile p := by
        rw [List.filter_append, List.filter_eq_self.mpr front,
          List.filter_eq_nil_iff.mpr (by simpa using back), List.append_nil]
  · calc
      l.filter (fun a => !p a) = (l.takeWhile p ++ l.dropWhile p).filter (fun a => !p a) := by
        rw [List.takeWhile_append_dropWhile]
      _ = l.dropWhile p := by
        rw [List.filter_append, List.filter_eq_nil_iff.mpr (by simpa using front),
          List.filter_eq_self.mpr (by simpa using back), List.nil_append]

end Lists

section Runs

variable {α : Type} {capacity : Nat} {ttl : Option Duration} {r : QueueRun α}
  {q : CommandQueue α} {now : Instant} {item : Pending α}

/-! ## The operations -/

lemma pop_cons {rest : List (Pending α)} (h : q.items = item :: rest) :
    q.pop? = some (item, { q with items := rest }) := by
  rw [pop?, h]

lemma push_fits (h : q.length < q.capacity) (now : Instant) (command : α) :
    q.push now command = (none, { q with items := q.items ++ [⟨command, now⟩] }) :=
  if_neg (Nat.not_le_of_lt h)

lemma push_evicts {rest : List (Pending α)} (full : q.capacity ≤ q.length)
    (h : q.items = item :: rest) (now : Instant) (command : α) : q.push now command =
      (some item.command, { q with items := rest ++ [⟨command, now⟩] }) := by
  have full : q.capacity ≤ q.items.length := full
  rw [push, if_pos full, h]
  rfl

lemma isExpired_iff (h : q.ttl = ttl) : q.isExpired now item = true ↔ Outlived ttl now item := by
  unfold isExpired Outlived
  subst h
  cases q.ttl with
  | none => simp
  | some limit =>
    simp only [decide_eq_true_eq, Option.some.injEq, exists_eq_left']
    exact Nat.lt_sub_iff_add_lt'

lemma isExpired_earlier (a b : Pending α) (h : NoLater a b) (late : q.isExpired now b = true) :
    q.isExpired now a = true := by
  obtain ⟨limit, some_limit, old⟩ := (isExpired_iff rfl).mp late
  have older : a.enqueuedAt + limit.nanos < now :=
    Nat.lt_of_le_of_lt (Nat.add_le_add_right h limit.nanos) old
  exact (isExpired_iff rfl).mpr ⟨limit, some_limit, older⟩

lemma takeExpired_divides (h : q.items.Pairwise NoLater) (now : Instant) : q.takeExpired now =
    ((q.items.takeWhile (q.isExpired now)).map (·.command),
      { q with items := q.items.dropWhile (q.isExpired now) }) := by
  obtain ⟨old, young⟩ := filter_divides (p := q.isExpired now) (h.imp (isExpired_earlier _ _))
  rw [takeExpired, old, young]

/-! ## The invariant -/

theorem queueLine_start (capacity : Nat) (ttl : Option Duration) :
    QueueLine capacity ttl (.start capacity ttl : QueueRun α) where
  capacity := Nat.max_comm capacity 1
  ttl := rfl
  room := Nat.zero_le _
  order := List.Sublist.refl []
  times := List.Pairwise.nil
  past := nofun

lemma queueLine_wait (h : QueueLine capacity ttl r) (nanos : Nat) :
    QueueLine capacity ttl (r.step (.wait nanos)) :=
  { h with past := fun item hitem => Nat.le_add_right_of_le (h.past item hitem) }

lemma queueLine_push (h : QueueLine capacity ttl r) (command : α) :
    QueueLine capacity ttl (r.step (.push command)) := by
  have least := h.capacity
  obtain ⟨kept, hkept, hqueue, room⟩ : ∃ kept, kept.Sublist r.queue.items ∧
      (r.queue.push r.clock command).2 =
        { r.queue with items := kept ++ [⟨command, r.clock⟩] } ∧ kept.length < r.queue.capacity := by
    by_cases full : r.queue.capacity ≤ r.queue.items.length
    · refine ⟨r.queue.items.tail, List.tail_sublist _, by rw [push, if_pos full], ?_⟩
      have bound := h.room
      rw [List.length_tail]
      omega
    · exact ⟨r.queue.items, List.Sublist.refl _, by rw [push, if_neg full], Nat.lt_of_not_le full⟩
  constructor
  · simpa only [QueueRun.step, hqueue] using h.capacity
  · simpa only [QueueRun.step, hqueue] using h.ttl
  · simp only [QueueRun.step, hqueue, List.length_append, List.length_singleton]
    exact room
  · simp only [QueueRun.step, hqueue]
    rw [← List.append_assoc]
    apply List.Sublist.append _ (List.Sublist.refl _)
    exact ((List.Sublist.refl _).append hkept).trans h.order
  · apply List.pairwise_append.mpr
    refine ⟨h.times, List.pairwise_singleton _ _, fun item hitem last hlast => ?_⟩
    rw [List.mem_singleton.mp hlast]
    exact h.past item hitem
  · intro item hitem
    rcases List.mem_append.mp hitem with hitem | hitem
    · exact h.past item hitem
    · rw [List.mem_singleton.mp hitem]
      exact Nat.le_refl r.clock

lemma queueLine_pop (h : QueueLine capacity ttl r) : QueueLine capacity ttl (r.step .pop) := by
  cases hitems : r.queue.items with
  | nil =>
    have nothing : r.step .pop = r := by simp only [QueueRun.step, pop?, hitems]
    rw [nothing]
    exact h
  | cons item rest =>
    have taken : r.step .pop =
        { r with queue := { r.queue with items := rest }, out := item :: r.out } := by
      simp only [QueueRun.step, pop_cons hitems]
    have room := h.room
    have order := h.order
    rw [hitems] at room order
    rw [taken]
    refine { h with room := Nat.le_of_succ_le room, order := ?_ }
    simpa using order

lemma queueLine_putBack (h : QueueLine capacity ttl r) : QueueLine capacity ttl (r.step .putBack) := by
  cases hout : r.out with
  | nil =>
    have nothing : r.step .putBack = r := by simp only [QueueRun.step, hout]
    rw [nothing]
    exact h
  | cons item out =>
    have back : r.step .putBack = { r with queue := r.queue.pushFront item, out } := by
      simp only [QueueRun.step, hout]
    have order := h.order
    rw [hout, List.reverse_cons, List.append_assoc] at order
    rw [back]
    refine { h with room := List.length_take_le _ _, order := ?_ }
    exact ((List.Sublist.refl _).append (List.take_sublist _ _)).trans order

lemma queueLine_expire (h : QueueLine capacity ttl r) (now : Instant) :
    QueueLine capacity ttl (r.step (.expire now)) :=
  { h with
    room := Nat.le_trans (List.length_filter_le _ _) h.room
    order := ((List.Sublist.refl _).append List.filter_sublist).trans h.order }

theorem queueLine_step (h : QueueLine capacity ttl r) (step : QueueStep α) :
    QueueLine capacity ttl (r.step step) := by
  cases step with
  | wait nanos => exact queueLine_wait h nanos
  | push command => exact queueLine_push h command
  | pop => exact queueLine_pop h
  | putBack => exact queueLine_putBack h
  | expire now => exact queueLine_expire h now

theorem queueLine_steps (h : QueueLine capacity ttl r) (schedule : List (QueueStep α)) :
    QueueLine capacity ttl (r.steps schedule) := by
  induction schedule generalizing r with
  | nil => exact h
  | cons step schedule ih => exact ih (queueLine_step h step)

/-! ## What follows -/

lemma queueLine_oldest (h : QueueLine capacity ttl r) : r.queue.items.Pairwise NoLater :=
  h.times.sublist ((List.sublist_append_right _ _).trans h.order)

lemma queueLine_expires (h : QueueLine capacity ttl r) (now : Instant) : ∃ old young,
    r.queue.items = old ++ young ∧
    r.queue.takeExpired now = (old.map (·.command), { r.queue with items := young }) ∧
    (∀ item ∈ old, Outlived ttl now item) ∧ ∀ item ∈ young, ¬ Outlived ttl now item := by
  have oldest := queueLine_oldest h
  refine ⟨_, _, List.takeWhile_append_dropWhile.symm, takeExpired_divides oldest now, ?_, ?_⟩
  · intro item hitem
    exact (isExpired_iff h.ttl).mp (List.mem_takeWhile_imp hitem)
  · intro item hitem past
    have young := dropWhile_lacks (oldest.imp (isExpired_earlier _ _)) item hitem
    rw [(isExpired_iff h.ttl).mpr past] at young
    cases young

lemma pop_head (q : CommandQueue α) :
    q.pop? = q.items.head?.map fun head => (head, { q with items := q.items.tail }) := by
  unfold pop?
  split
  case h_1 items => rw [items]; rfl
  case h_2 items => rw [items]; rfl

lemma steps_take (k : Nat) (enough : k ≤ r.queue.length) : r.steps (List.replicate k .pop) =
    { r with
      queue := { r.queue with items := r.queue.items.drop k }
      out := (r.queue.items.take k).reverse ++ r.out } := by
  induction k generalizing r with
  | zero => rfl
  | succ k ih =>
    obtain ⟨⟨items, limit, ttl⟩, clock, out, pushed⟩ := r
    cases items with
    | nil => cases enough
    | cons item rest =>
      have later := ih (r := ⟨⟨rest, limit, ttl⟩, clock, item :: out, pushed⟩)
        (Nat.le_of_succ_le_succ enough)
      rw [List.replicate_succ, QueueRun.steps, List.foldl_cons]
      refine later.trans ?_
      simp

/-- The last pop and the first return undo each other. -/
lemma pop_putBack (room : r.queue.length ≤ r.queue.capacity) (some_item : 0 < r.queue.length) :
    (r.step .pop).queue.length + 1 = r.queue.length ∧
      (r.step .pop).queue.capacity = r.queue.capacity ∧ (r.step .pop).step .putBack = r := by
  obtain ⟨⟨items, limit, ttl⟩, clock, out, pushed⟩ := r
  cases items with
  | nil => cases some_item
  | cons item rest =>
    refine ⟨rfl, rfl, ?_⟩
    have whole : (item :: rest).take limit = item :: rest := List.take_of_length_le room
    simp only [QueueRun.step, pop?, pushFront, whole]

lemma steps_restore (k : Nat) (room : r.queue.length ≤ r.queue.capacity)
    (enough : k ≤ r.queue.length) :
    r.steps (List.replicate k .pop ++ List.replicate k .putBack) = r := by
  induction k generalizing r with
  | zero => rfl
  | succ k ih =>
    obtain ⟨shorter, same, undone⟩ := pop_putBack room (Nat.lt_of_lt_of_le (Nat.succ_pos k) enough)
    have inner := ih (r := r.step .pop) (by omega) (by omega)
    calc
      r.steps (List.replicate (k + 1) .pop ++ List.replicate (k + 1) .putBack) =
          ((r.step .pop).steps (List.replicate k .pop ++ List.replicate k .putBack)).step .putBack := by
        rw [List.replicate_succ, List.replicate_succ', QueueRun.steps, List.cons_append,
          List.foldl_cons, ← List.append_assoc, List.foldl_append]
        rfl
      _ = r := by rw [inner, undone]

/-- Whatever is done with a queue in whatever order, as time goes on: it is never too long, its items
stand in the order of the pushes, the oldest first, a push gives up the head of a full queue and
nothing else, those past their age are dropped and are the beginning of the queue, the head is what is
taken out, and items that are taken out and put back at once stand where they were. -/
theorem queue_keeps_order (capacity : Nat) (ttl : Option Duration) (schedule : List (QueueStep α)) :
    KeepsOrder capacity ttl ((QueueRun.start capacity ttl).steps schedule) := by
  have line := queueLine_steps (queueLine_start capacity ttl) schedule
  generalize (QueueRun.start capacity ttl).steps schedule = r at line
  have room : r.queue.length ≤ r.queue.capacity := line.room
  have limit := line.capacity
  constructor
  · rw [← limit]
    exact room
  · exact (List.sublist_append_right _ _).trans line.order
  · exact queueLine_oldest line
  · intro free
    apply push_fits
    omega
  · intro full
    obtain ⟨head, rest, items⟩ : ∃ head rest, r.queue.items = head :: rest := by
      apply List.exists_cons_of_length_pos
      show 0 < r.queue.length
      omega
    exact ⟨head, rest, items, push_evicts (by omega) items⟩
  · exact queueLine_expires line
  · exact pop_head r.queue
  · exact steps_take
  · exact fun k => steps_restore k room

end Runs

end SteadyLink.Proofs
