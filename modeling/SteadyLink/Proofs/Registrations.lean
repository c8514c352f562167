import SteadyLink.Proofs.RegistrySlots

/-!
# Registrations

The registry against a plain list of registrations, to which every new one is appended and from which
those that end are deleted. Rows, slots and the index are a matter of the registry alone: whatever is
asked of it, the answer is that of the list.
-/

namespace SteadyLink.Proofs

open Function (update)

variable {H : Type}

/-! ## The list -/

structure Registration (H : Type) where
  id : Nat
  kind : String
  handler : H

/-- The live registrations in order, and how many there have been. -/
structure Roll (H : Type) where
  entries : List (Registration H)
  issued : Nat

namespace Roll

def empty : Roll H := ⟨[], 0⟩

def ids (roll : Roll H) : List Nat := roll.entries.map Registration.id

def ofKind (roll : Roll H) (kind : String) : List (Registration H) :=
  roll.entries.filter (·.kind = kind)

def insert (roll : Roll H) (kind : String) (handler : H) : Nat × Roll H :=
  (roll.issued + 1, ⟨roll.entries ++ [⟨roll.issued + 1, kind, handler⟩], roll.issued + 1⟩)

def remove (roll : Roll H) (id : Nat) : Bool × Roll H :=
  (decide (id ∈ roll.ids), { roll with entries := roll.entries.filter (·.id ≠ id) })

end Roll

/-- What can be asked of a registry. -/
inductive Change (H : Type) where
  | insert (kind : String) (handler : H)
  | remove (id : Nat)

inductive Receipt where
  | inserted (id : Nat)
  | removed (wasLive : Bool)
  deriving DecidableEq

namespace Change

def onRegistry (x : Change H) (r : Registry H) : Receipt × Registry H :=
  match x with
  | insert kind handler =>
    let (id, r) := r.insert kind handler
    (.inserted id, r)
  | remove id =>
    let (wasLive, r) := r.remove id
    (.removed wasLive, r)

def onRoll (x : Change H) (roll : Roll H) : Receipt × Roll H :=
  match x with
  | insert kind handler =>
    let (id, roll) := roll.insert kind handler
    (.inserted id, roll)
  | remove id =>
    let (wasLive, roll) := roll.remove id
    (.removed wasLive, roll)

end Change

/-- Makes changes one after another; gives the answers to them and what they lead to. -/
def changeAll {S : Type} (change : Change H → S → Receipt × S) :
    List (Change H) → S → List Receipt × S
  | [], s => ([], s)
  | x :: rest, s =>
    let (receipt, s) := change x s
    let (receipts, s) := changeAll change rest s
    (receipt :: receipts, s)

lemma changeAll_append {S : Type} (change : Change H → S → Receipt × S)
    (first second : List (Change H)) (s : S) : (changeAll change (first ++ second) s).2 =
      (changeAll change second (changeAll change first s).2).2 := by
  induction first generalizing s with
  | nil => rfl
  | cons x rest ih => exact ih _

/-- What a registry has answered to changes from its beginning on, and what it is then. -/
def registryAfter (changes : List (Change H)) : List Receipt × Registry H :=
  changeAll Change.onRegistry changes .empty

/-- The same of the list. -/
def rollAfter (changes : List (Change H)) : List Receipt × Roll H :=
  changeAll Change.onRoll changes .empty

/-! ## Registry and list -/

def Registration.slot (e : Registration H) : Nat × H := (e.id, e.handler)

/-- The rows of a registry; a kind without a topic has an empty one. -/
def rowsOf (topics : Table String (Topic H)) (kind : String) : Topic H :=
  (topics.get? kind).getD .empty

/-- Rows and index hold the registrations of a list, and those only. -/
structure Matches (index : Table Nat (String × Nat)) (rows : String → Topic H) (roll : Roll H) :
    Prop where
  keyed : keys index = roll.ids
  distinct : roll.ids.Nodup
  indexed : Indexes index rows
  filled : ∀ kind, (rows kind).occupied = (roll.ofKind kind).map Registration.slot
  counted : ∀ kind, (rows kind).live = (rows kind).occupied.length

/-- The registry stands for the list. -/
structure Represents (r : Registry H) (roll : Roll H) : Prop where
  entries : Matches r.index (rowsOf r.topics) roll
  lastId : r.lastId = roll.issued
  issued : ∀ n ∈ roll.ids, n ≤ roll.issued
  dense : ∀ kind t, r.topics.get? kind = some t → t.live ≠ 0 ∧ t.gaps ≤ t.live

section Rows

variable {topics : Table String (Topic H)} {kind : String} {t : Topic H}

lemma rowsOf_insert : rowsOf (topics.insert kind t) = update (rowsOf topics) kind t := by
  funext k
  by_cases hk : k = kind
  · subst hk
    rw [rowsOf, Table.get?_insert, if_pos rfl, Function.update_self]
    rfl
  · rw [rowsOf, Table.get?_insert, if_neg hk, Function.update_of_ne hk]
    rfl

lemma rowsOf_erase : rowsOf (topics.erase kind) = update (rowsOf topics) kind .empty := by
  funext k
  by_cases hk : k = kind
  · subst hk
    rw [rowsOf, Table.get?_erase, if_pos rfl, Function.update_self]
    rfl
  · rw [rowsOf, Table.get?_erase, if_neg hk, Function.update_of_ne hk]
    rfl

lemma rowsOf_none (h : topics.get? kind = none) : rowsOf topics kind = .empty := by
  rw [rowsOf, h]
  rfl

lemma rowsOf_topic (h : topics.get? kind = some t) : rowsOf topics kind = t := by
  rw [rowsOf, h]
  rfl

end Rows

section Matches

variable {index : Table Nat (String × Nat)} {rows : String → Topic H} {roll : Roll H}
variable {number position : Nat} {kind : String} {handler : H}

lemma ids_ofKind (roll : Roll H) (kind : String) :
    ((roll.ofKind kind).map Registration.slot).map Prod.fst = (roll.ofKind kind).map (·.id) :=
  List.map_map

lemma ids_insert (roll : Roll H) (kind : String) (handler : H) :
    (roll.insert kind handler).2.ids = roll.ids ++ [roll.issued + 1] := List.map_append

lemma matches_live (h : Matches index rows roll) :
    number ∈ roll.ids ↔ ∃ kind position, index.get? number = some (kind, position) := by
  rw [← h.keyed, ← not_iff_not, ← get?_eq_none_iff_keys, Option.eq_none_iff_forall_ne_some]
  simp

lemma matches_row_distinct (h : Matches index rows roll) (kind : String) :
    ((rows kind).occupied.map Prod.fst).Nodup := by
  rw [h.filled, ids_ofKind]
  exact h.distinct.sublist (List.filter_sublist.map Registration.id)

/-- Only one row is new, and the others hold what they have to. -/
lemma matches_update {index' : Table Nat (String × Nat)} {roll' : Roll H} {t : Topic H}
    (h : Matches index rows roll) (keyed : keys index' = roll'.ids) (distinct : roll'.ids.Nodup)
    (indexed : Indexes index' (update rows kind t))
    (filled : t.occupied = (roll'.ofKind kind).map Registration.slot)
    (counted : t.live = t.occupied.length)
    (others : ∀ k, k ≠ kind → (rows k).occupied = (roll'.ofKind k).map Registration.slot) :
    Matches index' (update rows kind t) roll' where
  keyed := keyed
  distinct := distinct
  indexed := indexed
  filled := (Function.forall_update_iff rows
    fun k u => u.occupied = (roll'.ofKind k).map Registration.slot).mpr ⟨filled, others⟩
  counted := (Function.forall_update_iff rows
    fun _ u => u.live = u.occupied.length).mpr ⟨counted, fun k _ => h.counted k⟩

lemma matches_insert (h : Matches index rows roll) (issued : ∀ n ∈ roll.ids, n ≤ roll.issued)
    (kind : String) (handler : H) :
    Matches (index.insert (roll.issued + 1) (kind, (rows kind).slots.length))
      (update rows kind ((rows kind).push (roll.issued + 1) handler))
      (roll.insert kind handler).2 := by
  have new : roll.issued + 1 ∉ roll.ids := fun hm => Nat.not_succ_le_self _ (issued _ hm)
  have later (k : String) : (roll.insert kind handler).2.ofKind k =
      roll.ofKind k ++ [⟨roll.issued + 1, kind, handler⟩].filter (·.kind = k) := List.filter_append ..
  refine matches_update h ?_ ?_ ?_ ?_ ?_ ?_
  · rw [ids_insert, ← h.keyed, keys_insert, if_neg (h.keyed ▸ new)]
  · rw [ids_insert, List.nodup_append_comm]
    exact List.nodup_cons.mpr ⟨new, h.distinct⟩
  · refine indexes_push h.indexed fun k p hp => ?_
    exact new ((matches_live h).mpr ⟨k, p, (h.indexed _ _ _).mpr hp⟩)
  · rw [later]
    simp [h.filled, Registration.slot]
  · rw [occupied_push, List.length_append, ← h.counted]
    rfl
  · intro k hk
    rw [later, h.filled]
    simp [Ne.symm hk]

lemma matches_clear (h : Matches index rows roll)
    (slot : (rows kind).slots[position]? = some (some (number, handler))) :
    Matches (index.erase number) (update rows kind ((rows kind).clear position))
      (roll.remove number).2 := by
  have ids : (roll.remove number).2.ids = roll.ids.filter (· ≠ number) := by
    simp [Roll.ids, Roll.remove, List.filter_map, Function.comp_def]
  have left (k : String) : ((roll.remove number).2.ofKind k).map Registration.slot =
      (rows k).occupied.filter (·.1 ≠ number) := by
    rw [h.filled, Roll.ofKind, Roll.remove, List.filter_comm, List.filter_map]
    rfl
  obtain ⟨before, after, hocc, hclear⟩ := occupied_clear slot
  refine matches_update h ?_ ?_ (indexes_clear h.indexed slot) ?_ ?_ ?_
  · rw [ids, keys_erase, h.keyed]
  · rw [ids]
    exact h.distinct.filter _
  · have hd := matches_row_distinct h kind
    rw [hocc, List.map_append, List.map_cons, List.nodup_middle, List.nodup_cons] at hd
    rw [left, hclear, hocc, List.filter_append, List.filter_cons_of_neg (by simp),
      ← List.filter_append, eq_comm, List.filter_eq_self]
    rintro ⟨n, g⟩ hm
    have own : n ∈ (before ++ after).map Prod.fst := List.mem_map_of_mem hm
    rw [List.map_append] at own
    simpa using fun heq : n = number => hd.1 (heq ▸ own)
  · have count := h.counted kind
    rw [hocc, List.length_append, List.length_cons] at count
    rw [hclear, List.length_append]
    show (rows kind).live - 1 = _
    omega
  · intro k hk
    rw [left, eq_comm, List.filter_eq_self]
    rintro ⟨n, g⟩ hm
    obtain ⟨p, hp⟩ := mem_occupied.mp hm
    have held := (h.indexed n k p).mpr ⟨g, hp⟩
    refine decide_eq_true ?_
    rintro rfl
    rw [(h.indexed n kind position).mpr ⟨handler, slot⟩] at held
    exact hk (Prod.mk.inj (Option.some.inj held)).1.symm

lemma matches_pack (h : Matches index rows roll) (kind : String) :
    Matches (Registry.reindex kind (rows kind).occupied 0 index) (update rows kind (rows kind).pack)
      roll := by
  refine matches_update h ?_ h.distinct (indexes_pack h.indexed (matches_row_distinct h kind)) ?_ ?_
    fun k _ => h.filled k
  · rw [keys_reindex, h.keyed]
    intro n hn
    obtain ⟨p, hp⟩ := mem_ids_occupied.mp hn
    rw [h.keyed]
    exact (matches_live h).mpr ⟨kind, p, (h.indexed _ _ _).mpr hp⟩
  · rw [occupied_pack, h.filled]
  · rw [occupied_pack, ← h.counted]
    rfl

lemma matches_vacate {kind : String} (h : Matches index rows roll)
    (deserted : (rows kind).live = 0) :
    Matches index (update rows kind .empty) roll := by
  have nobody : (rows kind).occupied = [] :=
    List.length_eq_zero_iff.mp ((h.counted kind).symm.trans deserted)
  refine matches_update h h.keyed h.distinct (indexes_vacate h.indexed nobody) ?_ rfl
    fun k _ => h.filled k
  rw [← h.filled, nobody]
  rfl

end Matches

section Represents

variable {r : Registry H} {roll : Roll H} {kind : String}

lemma matches_empty : Matches (H := H) .empty (rowsOf .empty) .empty where
  keyed := rfl
  distinct := List.nodup_nil
  indexed := fun _ _ _ => iff_of_false nofun holds_empty
  filled := fun _ => rfl
  counted := fun _ => rfl

lemma represents_empty : Represents (H := H) .empty .empty where
  entries := matches_empty
  lastId := rfl
  issued := nofun
  dense := nofun

lemma represents_insert (h : Represents r roll) (kind : String) (handler : H) :
    (r.insert kind handler).1 = (roll.insert kind handler).1 ∧
      Represents (r.insert kind handler).2 (roll.insert kind handler).2 := by
  refine ⟨congrArg (· + 1) h.lastId, ?_, congrArg (· + 1) h.lastId, ?_, ?_⟩
  · have inserted := matches_insert h.entries h.issued kind handler
    rw [← h.lastId, ← rowsOf_insert] at inserted
    exact inserted
  · intro n hn
    rw [ids_insert] at hn
    rcases List.mem_append.mp hn with hn | hn
    · exact Nat.le_succ_of_le (h.issued n hn)
    · exact Nat.le_of_eq (List.mem_singleton.mp hn)
  · intro k t ht
    rw [Registry.insert, Table.get?_insert] at ht
    split at ht
    · obtain rfl := Option.some.inj ht
      have hdense : (rowsOf r.topics kind).gaps ≤ (rowsOf r.topics kind).live := by
        cases hk : r.topics.get? kind with
        | none =>
          rw [rowsOf_none hk]
          exact Nat.le_refl 0
        | some t =>
          rw [rowsOf_topic hk]
          exact (h.dense kind t hk).2
      unfold rowsOf at hdense
      simp only [Topic.push, Topic.gaps, List.length_append, List.length_singleton] at hdense ⊢
      omega
    · exact h.dense k t ht

/-- A topic that has lost a slot can be put back in any of the three ways. -/
lemma represents_settle {t : Topic H}
    (h : Matches r.index (update (rowsOf r.topics) kind t) roll) (lastId : r.lastId = roll.issued)
    (issued : ∀ n ∈ roll.ids, n ≤ roll.issued)
    (dense : ∀ kind t, r.topics.get? kind = some t → t.live ≠ 0 ∧ t.gaps ≤ t.live) :
    Represents (r.settle kind t) roll := by
  have others {u : Topic H} (hu : u.live ≠ 0 ∧ u.gaps ≤ u.live) (k : String) (v : Topic H)
      (hv : (r.topics.insert kind u).get? k = some v) : v.live ≠ 0 ∧ v.gaps ≤ v.live := by
    rw [Table.get?_insert] at hv
    split at hv
    · obtain rfl := Option.some.inj hv
      exact hu
    · exact dense k v hv
  unfold Registry.settle
  by_cases hlive : t.live = 0
  · rw [if_pos hlive]
    have empty : (update (rowsOf r.topics) kind t kind).live = 0 := by
      rw [Function.update_self, hlive]
    have vacated := matches_vacate h empty
    rw [Function.update_idem, ← rowsOf_erase] at vacated
    refine ⟨vacated, lastId, issued, fun k v hv => ?_⟩
    rw [Table.get?_erase] at hv
    split at hv
    · cases hv
    · exact dense k v hv
  · rw [if_neg hlive]
    by_cases hgaps : t.live < t.gaps
    · rw [if_pos hgaps]
      have packed := matches_pack h kind
      rw [Function.update_self, Function.update_idem, ← rowsOf_insert] at packed
      refine ⟨packed, lastId, issued, others ⟨hlive, ?_⟩⟩
      have counted := h.counted kind
      rw [Function.update_self] at counted
      simp only [Topic.pack, Topic.gaps, List.length_map]
      omega
    · rw [if_neg hgaps]
      rw [← rowsOf_insert] at h
      exact ⟨h, lastId, issued, others ⟨hlive, Nat.le_of_not_lt hgaps⟩⟩

lemma represents_remove (h : Represents r roll) (number : Nat) :
    (r.remove number).1 = (roll.remove number).1 ∧
      Represents (r.remove number).2 (roll.remove number).2 := by
  unfold Registry.remove
  split
  case h_1 hnone =>
    have dead : number ∉ roll.ids := h.entries.keyed ▸ get?_eq_none_iff_keys.mp hnone
    have same : (roll.remove number).2 = roll := by
      have all : roll.entries.filter (·.id ≠ number) = roll.entries := by
        rw [List.filter_eq_self]
        intro e he
        simpa using fun heq : e.id = number => dead (heq ▸ List.mem_map_of_mem he)
      rw [Roll.remove, all]
    rw [same]
    exact ⟨(decide_eq_false dead).symm, h⟩
  case h_2 kind position hsome =>
    have live : number ∈ roll.ids := (matches_live h.entries).mpr ⟨kind, position, hsome⟩
    obtain ⟨handler, slot⟩ := (h.entries.indexed _ _ _).mp hsome
    have cleared := matches_clear h.entries slot
    simp only
    split
    case h_1 hnone =>
      rw [rowsOf_none hnone] at slot
      cases slot
    case h_2 t ht =>
      rw [rowsOf_topic ht] at slot cleared
      rw [slot]
      refine ⟨(decide_eq_true live).symm, ?_⟩
      refine represents_settle cleared h.lastId (fun n hn => h.issued n ?_) h.dense
      exact (List.filter_sublist.map Registration.id).mem hn

/-- Every change gets the same answer from the registry as from the list, which it goes on to stand
for. -/
theorem represents_change (h : Represents r roll) (x : Change H) :
    (x.onRegistry r).1 = (x.onRoll roll).1 ∧ Represents (x.onRegistry r).2 (x.onRoll roll).2 := by
  cases x with
  | insert kind handler =>
    obtain ⟨answer, after⟩ := represents_insert h kind handler
    exact ⟨congrArg Receipt.inserted answer, after⟩
  | remove number =>
    obtain ⟨answer, after⟩ := represents_remove h number
    exact ⟨congrArg Receipt.removed answer, after⟩

theorem represents_changeAll (h : Represents r roll) (changes : List (Change H)) :
    (changeAll Change.onRegistry changes r).1 = (changeAll Change.onRoll changes roll).1 ∧
      Represents (changeAll Change.onRegistry changes r).2
        (changeAll Change.onRoll changes roll).2 := by
  induction changes generalizing r roll with
  | nil => exact ⟨rfl, h⟩
  | cons x rest ih =>
    obtain ⟨answer, after⟩ := represents_change h x
    obtain ⟨answers, last⟩ := ih after
    exact ⟨congrArg₂ List.cons answer answers, last⟩

lemma rowsOf_holds {number position : Nat} :
    Holds (rowsOf r.topics kind) position number ↔ ∃ t handler, r.topics.get? kind = some t ∧
      t.slots[position]? = some (some (number, handler)) := by
  cases ht : r.topics.get? kind with
  | none =>
    rw [rowsOf_none ht]
    exact iff_of_false holds_empty (by simp)
  | some t =>
    rw [rowsOf_topic ht]
    simp [Holds]

lemma represents_entries (h : Represents r roll) (kind : String) :
    r.entries kind = (roll.ofKind kind).map Registration.slot := by
  rw [← h.entries.filled, Registry.entries]
  cases ht : r.topics.get? kind with
  | none => rw [rowsOf_none ht]; rfl
  | some t => rw [rowsOf_topic ht]

lemma represents_snapshot (h : Represents r roll) (kind : String) :
    r.snapshot kind = (roll.ofKind kind).map (·.handler) := by
  rw [Registry.snapshot, represents_entries h, List.map_map]
  rfl

lemma represents_count (h : Represents r roll) (kind : String) :
    r.count kind = (roll.ofKind kind).length := by
  have counted := h.entries.counted kind
  rw [h.entries.filled, List.length_map] at counted
  rw [← counted, Registry.count]
  cases ht : r.topics.get? kind with
  | none => rw [rowsOf_none ht]; rfl
  | some t => rw [rowsOf_topic ht]

lemma represents_size (h : Represents r roll) : r.size = roll.entries.length := by
  have sizes := congrArg List.length h.entries.keyed
  rwa [keys, Roll.ids, List.length_map, List.length_map] at sizes

end Represents

/-- The registry gives the answers of the list, and its index and topics are in order. -/
structure RegistryLaw (r : Registry H) (roll : Roll H) : Prop where
  snapshot : ∀ kind, r.snapshot kind = (roll.ofKind kind).map (·.handler)
  count : ∀ kind, r.count kind = (roll.ofKind kind).length
  size : r.size = roll.entries.length
  isEmpty : r.isEmpty = roll.entries.isEmpty
  live : ∀ number,
    (∃ kind position, r.index.get? number = some (kind, position)) ↔ number ∈ roll.ids
  index : ∀ number kind position, r.index.get? number = some (kind, position) ↔
    ∃ t handler, r.topics.get? kind = some t ∧
      t.slots[position]? = some (some (number, handler))
  topics : ∀ kind t, r.topics.get? kind = some t →
    t.live = t.slots.countP Option.isSome ∧ t.live ≠ 0 ∧ t.slots.countP Option.isNone ≤ t.live

theorem represents_law {r : Registry H} {roll : Roll H} (h : Represents r roll) :
    RegistryLaw r roll := by
  constructor
  · exact represents_snapshot h
  · exact represents_count h
  · exact represents_size h
  · have sizes : r.index.entries.length = roll.entries.length := represents_size h
    rw [Registry.isEmpty, Table.isEmpty, Bool.eq_iff_iff, List.isEmpty_iff_length_eq_zero,
      List.isEmpty_iff_length_eq_zero, sizes]
  · exact fun number => (matches_live h.entries).symm
  · exact fun number kind position => (h.entries.indexed number kind position).trans rowsOf_holds
  · intro kind t ht
    obtain ⟨live, dense⟩ := h.dense kind t ht
    have counted := h.entries.counted kind
    rw [rowsOf_topic ht] at counted
    have slots := slots_length t
    unfold Topic.gaps at dense
    exact ⟨counted.trans (occupied_length t), live, by omega⟩

/-- Whatever changes are made to a registry, in whatever order, each is answered as the list answers
it, and the registry shows what the list holds. -/
theorem registry_refines_list (changes : List (Change H)) :
    (registryAfter changes).1 = (rollAfter changes).1 ∧
      RegistryLaw (registryAfter changes).2 (rollAfter changes).2 := by
  obtain ⟨answers, represents⟩ := represents_changeAll represents_empty changes
  exact ⟨answers, represents_law represents⟩

/-- Four of six registrations end, which packs their topic, and a topic that has gone comes back. -/
example :
    let changes : List (Change Nat) := [.insert "a" 10, .insert "a" 20, .insert "b" 30,
      .insert "a" 40, .insert "a" 50, .remove 3, .remove 1, .remove 2, .remove 2, .remove 4,
      .insert "b" 60]
    (registryAfter changes).2.snapshot "a" = [50] ∧ (registryAfter changes).2.snapshot "b" = [60] ∧
      (registryAfter changes).2.index.get? 5 = some ("a", 0) := by
  decide

end SteadyLink.Proofs
