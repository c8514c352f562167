import Mathlib.Data.List.Sort
import SteadyLink.Proofs.JsonText

/-!
# The fields of an object

What is found in an object after fields were set, taken out or put together with those of another
object. Fields that stand in order keep their order, so that two ways to build an object can be
compared field by field.
-/

namespace SteadyLink.Proofs

open Json

section Fields

variable {name other : String} {v : Json} {fields older newer a b : Fields} {f : String × Json}

lemma get?_insertField (name other : String) (v : Json) (fields : Fields) :
    (fields.insert name v).get? other = if other = name then some v else fields.get? other := by
  induction fields with
  | nil => simp [Fields.insert, Fields.get?]
  | cons g fields ih =>
    rw [Fields.insert]
    split
    · simp [Fields.get?]
    · split
      · next he =>
        rw [Fields.get?, Fields.get?, ← he]
        by_cases ho : other = name
        · rw [if_pos ho, if_pos ho]
        · rw [if_neg ho, if_neg ho, if_neg ho]
      · next hne =>
        by_cases ho : other = g.1
        · have hn : other ≠ name := fun h => hne (h.symm.trans ho)
          rw [Fields.get?, if_pos ho, if_neg hn, Fields.get?, if_pos ho]
        · rw [Fields.get?, if_neg ho, Fields.get?, if_neg ho, ih]

lemma get?_eq_none_iff : fields.get? name = none ↔ ∀ f ∈ fields, f.1 ≠ name := by
  induction fields with
  | nil => simp [Fields.get?]
  | cons g fields ih =>
    rw [Fields.get?, List.forall_mem_cons]
    by_cases hn : name = g.1
    · simp [hn]
    · rw [if_neg hn, ih]
      exact ⟨fun h => ⟨fun h' => hn h'.symm, h⟩, And.right⟩

lemma mem_of_get? (h : fields.get? name = some v) : (name, v) ∈ fields := by
  induction fields with
  | nil => cases h
  | cons g fields ih =>
    rw [Fields.get?] at h
    split at h
    · next hn =>
      obtain rfl := Option.some.inj h
      rw [hn]
      exact List.mem_cons_self
    · exact List.mem_cons_of_mem _ (ih h)

lemma mem_union (h : f ∈ older.union newer) : f ∈ older ∨ f ∈ newer := by
  induction newer generalizing older with
  | nil => exact .inl h
  | cons g newer ih =>
    rcases ih h with hf | hf
    · rcases mem_insert hf with rfl | hf
      · exact .inr List.mem_cons_self
      · exact .inl hf
    · exact .inr (List.mem_cons_of_mem _ hf)

/-- A field that the newer object does not have is that of the older one. -/
lemma get?_union (hn : ∀ f ∈ newer, f.1 ≠ name) : (older.union newer).get? name = older.get? name := by
  induction newer generalizing older with
  | nil => rfl
  | cons g newer ih =>
    obtain ⟨hg, others⟩ := List.forall_mem_cons.mp hn
    calc
      (older.union (g :: newer)).get? name = (older.insert g.1 g.2).get? name := ih others
      _ = older.get? name := by rw [get?_insertField, if_neg (Ne.symm hg)]

/-- Fields in order are put behind those before them as they are. -/
lemma union_append (ho : Ascending (older ++ newer)) : older.union newer = older ++ newer := by
  induction newer generalizing older with
  | nil => rw [List.append_nil]; rfl
  | cons g newer ih =>
    have last : older.insert g.1 g.2 = older ++ [g] :=
      insert_last fun f hf => (List.pairwise_append.mp ho).2.2 f hf g List.mem_cons_self
    have joined : older ++ g :: newer = (older ++ [g]) ++ newer := List.append_cons ..
    calc
      older.union (g :: newer) = (older ++ [g]).union newer := by rw [← last]; rfl
      _ = older ++ g :: newer := by rw [ih (joined ▸ ho), joined]

lemma insert_first (h : ∀ f ∈ fields, name < f.1) : fields.insert name v = (name, v) :: fields := by
  cases fields with
  | nil => rfl
  | cons g fields => rw [Fields.insert, if_pos (h g List.mem_cons_self)]

/-- Taking a field out and setting another one can change places. -/
lemma erase_insert (ho : Ascending fields) (hne : name ≠ other) :
    (fields.insert other v).erase name = (fields.erase name).insert other v := by
  induction fields with
  | nil => simp [Fields.insert, Fields.erase, hne]
  | cons g fields ih =>
    obtain ⟨first, others⟩ := List.pairwise_cons.mp ho
    rw [Fields.insert]
    split
    · next hlt =>
      have hlater : ∀ f ∈ fields, other < f.1 := fun f hf => String.lt_trans hlt (first f hf)
      rw [Fields.erase, if_neg hne, Fields.erase]
      split
      · exact (insert_first hlater).symm
      · rw [Fields.insert, if_pos hlt]
    · next hnlt =>
      split
      · next he =>
        have hng : name ≠ g.1 := fun h => hne (h.trans he.symm)
        rw [Fields.erase, if_neg hne, Fields.erase, if_neg hng, Fields.insert, if_neg hnlt, if_pos he]
      · next hno =>
        rw [Fields.erase, Fields.erase]
        split
        · rfl
        · rw [Fields.insert, if_neg hnlt, if_neg hno, ih others]

lemma erase_union (ho : Ascending older) (hn : ∀ f ∈ newer, f.1 ≠ name) :
    (older.union newer).erase name = (older.erase name).union newer := by
  induction newer generalizing older with
  | nil => rfl
  | cons g newer ih =>
    obtain ⟨hg, others⟩ := List.forall_mem_cons.mp hn
    calc
      (older.union (g :: newer)).erase name = ((older.insert g.1 g.2).erase name).union newer :=
        ih (ascending_insert g.1 g.2 ho) others
      _ = (older.erase name).union (g :: newer) := by rw [erase_insert ho (Ne.symm hg)]; rfl

lemma get?_filter (p : String → Bool) (name : String) (fields : Fields) :
    Fields.get? name (fields.filter fun f => p f.1) =
      if p name then fields.get? name else none := by
  induction fields with
  | nil => exact (ite_self none).symm
  | cons f fields ih =>
    rw [List.filter_cons]
    by_cases hn : name = f.1
    · subst hn
      by_cases hp : p f.1 = true
      · simp [hp, Fields.get?]
      · simpa [hp] using ih
    · by_cases hp : p f.1 = true
      · simp [hn, hp, Fields.get?, ih]
      · simp [hn, hp, Fields.get?, ih]

lemma get?_of_mem (ho : Ascending fields) (h : (name, v) ∈ fields) : fields.get? name = some v := by
  induction fields with
  | nil => cases h
  | cons g fields ih =>
    obtain ⟨first, others⟩ := List.pairwise_cons.mp ho
    rw [Fields.get?]
    rcases List.mem_cons.mp h with rfl | h
    · rw [if_pos rfl]
    · rw [if_neg (String.ne_of_lt (first _ h)).symm]
      exact ih others h

/-- Fields in order are determined by what is found under each name. -/
theorem ascending_ext (ha : Ascending a) (hb : Ascending b)
    (h : ∀ name, a.get? name = b.get? name) : a = b := by
  have irrefl : Std.Irrefl fun f g : String × Json => f.1 < g.1 := ⟨fun f => String.lt_irrefl f.1⟩
  have antisymm : Std.Antisymm fun f g : String × Json => f.1 < g.1 :=
    ⟨fun f g before after => absurd after (String.lt_asymm before)⟩
  apply List.Pairwise.eq_of_mem_iff ha hb
  rintro ⟨name, v⟩
  constructor
  · intro hmem
    exact mem_of_get? ((h name).symm.trans (get?_of_mem ha hmem))
  · intro hmem
    exact mem_of_get? ((h name).trans (get?_of_mem hb hmem))

/-- Of two fields with one name, that of the newer object is found. -/
lemma get?_union_or (distinct : newer.Pairwise fun f g => f.1 ≠ g.1) (name : String) :
    (older.union newer).get? name = (newer.get? name).or (older.get? name) := by
  induction newer generalizing older with
  | nil => rfl
  | cons g newer ih =>
    obtain ⟨first, others⟩ := List.pairwise_cons.mp distinct
    have rest : (older.union (g :: newer)).get? name =
        (Fields.get? name newer).or ((older.insert g.1 g.2).get? name) := ih others
    rw [rest, get?_insertField, Fields.get?]
    by_cases hn : name = g.1
    · have none : Fields.get? name newer = none :=
        get?_eq_none_iff.mpr fun f hf => hn ▸ (first f hf).symm
      rw [if_pos hn, if_pos hn, none]
      rfl
    · rw [if_neg hn, if_neg hn]

lemma ascending_distinct (ho : Ascending fields) : fields.Pairwise fun f g => f.1 ≠ g.1 :=
  ho.imp fun before => String.ne_of_lt before

end Fields

end SteadyLink.Proofs
