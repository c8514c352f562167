import Mathlib.Data.List.Nodup
import Mathlib.Logic.Function.Basic
import Mathlib.Tactic.Lemma
import SteadyLink.Routing.Registry

/-!
# Rows of slots and their index

What becomes of the rows of a registry and of its index, whatever registrations they are for: a
handler gets a new slot, a slot is emptied, a row is packed, and a row goes away. Each time the index
goes on to lead to the slots that are occupied, and to no others.
-/

namespace SteadyLink.Proofs

open Function (update)

variable {H : Type}

/-! ## Keys of a table -/

section Tables

variable {κ α : Type} [DecidableEq κ] {t : Table κ α} {key : κ} {value : α}

def keys (t : Table κ α) : List κ := t.entries.map Prod.fst

lemma get?_eq_none_iff_keys : t.get? key = none ↔ key ∉ keys t := by
  obtain ⟨entries⟩ := t
  simp only [Table.get?, keys]
  induction entries with
  | nil => simp [Table.find]
  | cons entry rest ih =>
    obtain ⟨k, v⟩ := entry
    rw [Table.find, List.map_cons, List.mem_cons, not_or]
    by_cases hk : k = key
    · simp [hk]
    · rw [if_neg hk, ih]
      exact ⟨fun h => ⟨fun h' => hk h'.symm, h⟩, And.right⟩

lemma keys_insert (value : α) : keys (t.insert key value) =
    if key ∈ keys t then keys t else keys t ++ [key] := by
  obtain ⟨entries⟩ := t
  simp only [Table.insert, keys]
  induction entries with
  | nil => simp [Table.replace]
  | cons entry rest ih =>
    obtain ⟨k, v⟩ := entry
    rw [Table.replace]
    by_cases hk : k = key
    · simp [hk]
    · rw [if_neg hk, List.map_cons, ih]
      by_cases hm : key ∈ rest.map Prod.fst
      · simp [hm]
      · simp [hm, Ne.symm hk]

lemma keys_erase : keys (t.erase key) = (keys t).filter (· ≠ key) := by
  obtain ⟨entries⟩ := t
  simp only [Table.erase, keys]
  induction entries with
  | nil => rfl
  | cons entry rest ih =>
    obtain ⟨k, v⟩ := entry
    rw [Table.remove]
    by_cases hk : k = key
    · rw [if_pos hk, ih]
      simp [hk]
    · rw [if_neg hk, List.map_cons, ih]
      simp [hk]

end Tables

/-! ## Rows of slots -/

/-- The slot is occupied by the registration of this number. -/
def Holds (t : Topic H) (position id : Nat) : Prop :=
  ∃ handler, t.slots[position]? = some (some (id, handler))

section Topics

variable {t : Topic H} {number other position p : Nat} {handler : H}

lemma occupied_length (t : Topic H) : t.occupied.length = t.slots.countP Option.isSome :=
  List.length_filterMap_eq_countP

lemma slots_length (t : Topic H) :
    t.slots.length = t.occupied.length + t.slots.countP Option.isNone := by
  have hnone : (fun slot : Option (Nat × H) => decide ¬ slot.isSome = true) = Option.isNone := by
    funext slot
    cases slot <;> rfl
  rw [occupied_length, ← hnone]
  exact List.length_eq_countP_add_countP Option.isSome

lemma mem_occupied : (number, handler) ∈ t.occupied ↔
    ∃ position : Nat, t.slots[position]? = some (some (number, handler)) := by
  unfold Topic.occupied
  rw [List.mem_filterMap, ← List.mem_iff_getElem?]
  exact ⟨fun ⟨_, hm, h⟩ => h ▸ hm, fun h => ⟨_, h, rfl⟩⟩

lemma mem_ids_occupied :
    number ∈ t.occupied.map Prod.fst ↔ ∃ position, Holds t position number := by
  rw [List.mem_map]
  constructor
  · rintro ⟨⟨_, handler⟩, hm, rfl⟩
    obtain ⟨position, h⟩ := mem_occupied.mp hm
    exact ⟨position, handler, h⟩
  · rintro ⟨position, handler, h⟩
    exact ⟨(number, handler), mem_occupied.mpr ⟨position, h⟩, rfl⟩

@[simp] lemma occupied_push (t : Topic H) (number : Nat) (handler : H) :
    (t.push number handler).occupied = t.occupied ++ [(number, handler)] := by
  simp [Topic.occupied, Topic.push]

@[simp] lemma occupied_pack (t : Topic H) : t.pack.occupied = t.occupied := by
  simp [Topic.pack, Topic.occupied, List.filterMap_map]

lemma holds_push : Holds (t.push number handler) p other ↔
    Holds t p other ∨ p = t.slots.length ∧ other = number := by
  unfold Holds Topic.push
  simp only [List.getElem?_append]
  by_cases hp : p < t.slots.length
  · simp [hp, Nat.ne_of_lt hp]
  · have hnone : t.slots[p]? = none := List.getElem?_eq_none (Nat.le_of_not_lt hp)
    rw [if_neg hp, hnone, List.getElem?_singleton]
    by_cases he : p = t.slots.length
    · simp [he, eq_comm]
    · have hpos : p - t.slots.length ≠ 0 := by omega
      simp [he, hpos]

lemma holds_pack : Holds t.pack p number ↔ (t.occupied.map Prod.fst)[p]? = some number := by
  simp [Holds, Topic.pack]

lemma holds_empty : ¬ Holds (Topic.empty : Topic H) p number := by
  simp [Holds, Topic.empty]

lemma holds_clear : Holds (t.clear position) p other ↔ p ≠ position ∧ Holds t p other := by
  unfold Holds Topic.clear
  simp only [List.getElem?_set]
  by_cases hp : position = p
  · subst hp
    by_cases hlt : position < t.slots.length <;> simp [hlt]
  · simp [hp, Ne.symm hp]

/-- An emptied slot is taken out of the occupied ones, which keep their order. -/
lemma occupied_clear (h : t.slots[position]? = some (some (number, handler))) :
    ∃ before after, t.occupied = before ++ (number, handler) :: after ∧
      (t.clear position).occupied = before ++ after := by
  obtain ⟨hlt, hget⟩ := List.getElem?_eq_some_iff.mp h
  obtain ⟨front, back, hslots, -, hset⟩ :
      ∃ front back, t.slots = front ++ t.slots[position] :: back ∧ front.length = position ∧
        t.slots.set position none = front ++ none :: back := List.exists_of_set hlt
  rw [hget] at hslots
  refine ⟨front.filterMap id, back.filterMap id, ?_, ?_⟩
  · rw [Topic.occupied, hslots]
    simp
  · rw [Topic.occupied, Topic.clear, hset]
    simp

end Topics

/-! ## The index -/

/-- The index leads from each live registration to the slot that it occupies, and nowhere else. -/
def Indexes (index : Table Nat (String × Nat)) (rows : String → Topic H) : Prop :=
  ∀ number kind position,
    index.get? number = some (kind, position) ↔ Holds (rows kind) position number

section Index

variable {index : Table Nat (String × Nat)} {rows : String → Topic H} {entries : List (Nat × H)}
variable {number position : Nat} {kind : String} {handler : H}

lemma indexes_update {t : Topic H}
    (own : ∀ n p, index.get? n = some (kind, p) ↔ Holds t p n)
    (others : ∀ n k, k ≠ kind → ∀ p, index.get? n = some (k, p) ↔ Holds (rows k) p n) :
    Indexes index (update rows kind t) := by
  intro n
  exact (Function.forall_update_iff rows
    fun k u => ∀ p, index.get? n = some (k, p) ↔ Holds u p n).mpr ⟨own n, others n⟩

lemma indexes_push (h : Indexes index rows) (fresh : ∀ k p, ¬ Holds (rows k) p number) :
    Indexes (index.insert number (kind, (rows kind).slots.length))
      (update rows kind ((rows kind).push number handler)) := by
  have absent (k : String) (p : Nat) : index.get? number ≠ some (k, p) :=
    fun hi => fresh k p ((h number k p).mp hi)
  refine indexes_update (fun other p => ?_) fun other k hk p => ?_
  · rw [Table.get?_insert, holds_push, ← h]
    by_cases ho : other = number
    · subst ho
      simp [absent, eq_comm]
    · simp [ho]
  · rw [Table.get?_insert, ← h]
    by_cases ho : other = number
    · subst ho
      simp [absent, Ne.symm hk]
    · simp [ho]

lemma indexes_clear (h : Indexes index rows)
    (slot : (rows kind).slots[position]? = some (some (number, handler))) :
    Indexes (index.erase number) (update rows kind ((rows kind).clear position)) := by
  have held : index.get? number = some (kind, position) := (h _ _ _).mpr ⟨handler, slot⟩
  refine indexes_update (fun other p => ?_) fun other k hk p => ?_
  · rw [Table.get?_erase, holds_clear, ← h]
    by_cases ho : other = number
    · subst ho
      simp [held, eq_comm]
    · rw [if_neg ho]
      refine ⟨fun hp => ⟨?_, hp⟩, And.right⟩
      rintro rfl
      obtain ⟨handler', hp⟩ := (h _ _ _).mp hp
      rw [slot] at hp
      exact ho (Prod.mk.inj (Option.some.inj (Option.some.inj hp))).1.symm
  · rw [Table.get?_erase, ← h]
    by_cases ho : other = number
    · subst ho
      simp [held, Ne.symm hk]
    · simp [ho]

lemma get?_reindex_of_notMem (h : number ∉ entries.map Prod.fst) (n : Nat)
    (index : Table Nat (String × Nat)) :
    (Registry.reindex kind entries n index).get? number = index.get? number := by
  induction entries generalizing n index with
  | nil => rfl
  | cons entry entries ih =>
    obtain ⟨hne, hrest⟩ := not_or.mp (List.mem_cons.not.mp h)
    rw [Registry.reindex, ih hrest, Table.get?_insert, if_neg hne]

lemma get?_reindex_of_get {i : Nat} (hd : (entries.map Prod.fst).Nodup)
    (h : (entries.map Prod.fst)[i]? = some number) (n : Nat) (index : Table Nat (String × Nat)) :
    (Registry.reindex kind entries n index).get? number = some (kind, n + i) := by
  induction entries generalizing n i index with
  | nil => cases h
  | cons entry entries ih =>
    obtain ⟨hfirst, hrest⟩ := List.nodup_cons.mp hd
    rw [Registry.reindex]
    cases i with
    | zero =>
      obtain rfl := Option.some.inj h
      rw [get?_reindex_of_notMem hfirst, Table.get?_insert, if_pos rfl]
      rfl
    | succ i => rw [ih hrest h, Nat.add_right_comm, Nat.add_assoc]

lemma keys_reindex (h : ∀ n ∈ entries.map Prod.fst, n ∈ keys index) (n : Nat) :
    keys (Registry.reindex kind entries n index) = keys index := by
  induction entries generalizing n index with
  | nil => rfl
  | cons entry entries ih =>
    obtain ⟨hfirst, hrest⟩ := List.forall_mem_cons.mp h
    have same : keys (index.insert entry.1 (kind, n)) = keys index := by
      rw [keys_insert, if_pos hfirst]
    rw [Registry.reindex, ih (by rw [same]; exact hrest), same]

lemma indexes_pack (h : Indexes index rows) (hd : ((rows kind).occupied.map Prod.fst).Nodup) :
    Indexes (Registry.reindex kind (rows kind).occupied 0 index)
      (update rows kind (rows kind).pack) := by
  have moved {n i : Nat} (hi : ((rows kind).occupied.map Prod.fst)[i]? = some n) :
      (Registry.reindex kind (rows kind).occupied 0 index).get? n = some (kind, i) := by
    rw [get?_reindex_of_get hd hi, Nat.zero_add]
  refine indexes_update (fun n p => ?_) fun n k hk p => ?_
  · rw [holds_pack]
    refine ⟨fun hi => ?_, moved⟩
    by_cases hm : n ∈ (rows kind).occupied.map Prod.fst
    · obtain ⟨i, hget⟩ := List.mem_iff_getElem?.mp hm
      rw [moved hget] at hi
      obtain rfl := (Prod.mk.inj (Option.some.inj hi)).2
      exact hget
    · rw [get?_reindex_of_notMem hm, h] at hi
      exact absurd (mem_ids_occupied.mpr ⟨p, hi⟩) hm
  · rw [← h]
    by_cases hm : n ∈ (rows kind).occupied.map Prod.fst
    · obtain ⟨i, hget⟩ := List.mem_iff_getElem?.mp hm
      obtain ⟨q, hq⟩ := mem_ids_occupied.mp hm
      rw [moved hget, (h _ _ _).mpr hq]
      simp [Ne.symm hk]
    · rw [get?_reindex_of_notMem hm]

lemma indexes_vacate (h : Indexes index rows) (deserted : (rows kind).occupied = []) :
    Indexes index (update rows kind .empty) := by
  refine indexes_update (fun n p => ?_) fun n k _ p => h n k p
  rw [h]
  refine iff_of_false (fun hp => ?_) holds_empty
  have hm := mem_ids_occupied.mpr ⟨p, hp⟩
  rw [deserted] at hm
  cases hm

end Index

end SteadyLink.Proofs
