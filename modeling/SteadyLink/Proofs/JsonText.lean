import SteadyLink.Proofs.JsonTokens

/-!
# JSON texts

What is written for a JSON value is read back as that value, as long as its numbers are integers and
its brackets nest no deeper than the reader allows.
-/

namespace SteadyLink.Proofs

open Json

/-! ## Lists and objects -/

section Brackets

variable {s rest : List Char} {item : (t : List Char) → Parsed Json t}

/-- A reader reads back what is written of a value, which starts with neither a space nor the end of
a list. -/
structure ReadsBack (item : (t : List Char) → Parsed Json t) (v : Json) : Prop where
  opens : ∃ c t, chars v = c :: t ∧ isSpace c = false ∧ c ≠ ']'
  back : ∀ rest, NumberEnds rest → Gives (item (chars v ++ rest)) v rest

lemma skipSpace_cons {c : Char} (h : isSpace c = false) : skipSpace (c :: rest) = c :: rest := by
  rw [skipSpace, List.dropWhile_cons_of_neg (by simp [h])]

lemma skipSpace_chars {v : Json} (hv : ReadsBack item v) :
    ∃ c t, skipSpace (chars v ++ rest) = c :: t ∧ c ≠ ']' := by
  obtain ⟨c, t, hc, hs, hb⟩ := hv.opens
  refine ⟨c, t ++ rest, ?_, hb⟩
  rw [hc]
  exact skipSpace_cons hs

lemma moreItems_close (read : List Json) (h : (']' :: rest).length < s.length) :
    Gives (moreItems (s := s) item read (']' :: rest) h) (.arr read.reverse) rest := by
  refine ⟨Nat.lt_of_succ_lt h, ?_⟩
  rw [moreItems]
  rfl

lemma moreItems_comma {read : List Json} {r after : List Char} {v : Json}
    (h : (',' :: r).length < s.length) (hr : ∃ c t, skipSpace r = c :: t ∧ c ≠ ']')
    (hv : Gives (item r) v after) (h' : after.length < s.length) :
    moreItems (s := s) item read (',' :: r) h = moreItems item (v :: read) after h' := by
  obtain ⟨c, t, hc, hb⟩ := hr
  obtain ⟨_, hv⟩ := hv
  rw [moreItems]
  split
  · next h => cases (skipSpace_cons (by decide)).symm.trans h
  · next h =>
    cases (skipSpace_cons (by decide)).symm.trans h
    rw [if_neg (by decide), if_pos rfl]
    simp only [hc, if_neg hb, hv]

lemma list_close (h : (']' :: rest).length < s.length) :
    Gives (list (s := s) item (']' :: rest) h) (.arr []) rest :=
  ⟨Nat.lt_of_succ_lt h, rfl⟩

lemma list_item {r after : List Char} {v : Json} (h : r.length < s.length)
    (hr : ∃ c t, skipSpace r = c :: t ∧ c ≠ ']') (hv : Gives (item r) v after)
    (h' : after.length < s.length) :
    list (s := s) item r h = moreItems item [v] after h' := by
  obtain ⟨c, t, hc, hb⟩ := hr
  obtain ⟨_, hv⟩ := hv
  unfold list
  split
  · next h => cases hc.symm.trans h
  · next h =>
    cases hc.symm.trans h
    simp only [if_neg hb, hv]

lemma numberEnds_cons {c : Char} (h : c ∈ [',', ']', '\x7d']) : NumberEnds (c :: rest) := by
  intro x hx
  cases hx
  simp only [List.mem_cons, List.not_mem_nil, or_false] at h
  rcases h with rfl | rfl | rfl <;> decide

lemma moreItems_ends (items : List Json) : NumberEnds (moreItemsChars items ++ ']' :: rest) := by
  cases items <;> exact numberEnds_cons (by decide)

lemma moreItems_chars {items : List Json} (hi : ∀ v ∈ items, ReadsBack item v) (read : List Json)
    (h : (moreItemsChars items ++ ']' :: rest).length < s.length) :
    Gives (moreItems (s := s) item read (moreItemsChars items ++ ']' :: rest) h)
      (.arr (read.reverse ++ items)) rest := by
  induction items generalizing read with
  | nil =>
    rw [List.append_nil]
    exact moreItems_close read h
  | cons v items ih =>
    have hv := hi v List.mem_cons_self
    have text : moreItemsChars (v :: items) ++ ']' :: rest =
        ',' :: (chars v ++ (moreItemsChars items ++ ']' :: rest)) := by simp [moreItemsChars]
    have h' : (moreItemsChars items ++ ']' :: rest).length < s.length := by
      rw [text] at h
      simp at h ⊢
      omega
    have step : moreItems (s := s) item read (moreItemsChars (v :: items) ++ ']' :: rest) h =
        moreItems item (v :: read) (moreItemsChars items ++ ']' :: rest) h' := by
      simp only [text] at h ⊢
      exact moreItems_comma h (skipSpace_chars hv) (hv.back _ (moreItems_ends items)) h'
    have others : ∀ w ∈ items, ReadsBack item w := fun w hw => hi w (List.mem_cons_of_mem _ hw)
    rw [step]
    simpa using ih others (v :: read) h'

theorem list_chars {items : List Json} (hi : ∀ v ∈ items, ReadsBack item v)
    (h : (itemsChars items ++ ']' :: rest).length < s.length) :
    Gives (list (s := s) item (itemsChars items ++ ']' :: rest) h) (.arr items) rest := by
  cases items with
  | nil => exact list_close h
  | cons v items =>
    have hv := hi v List.mem_cons_self
    have others : ∀ w ∈ items, ReadsBack item w := fun w hw => hi w (List.mem_cons_of_mem _ hw)
    have text : itemsChars (v :: items) ++ ']' :: rest =
        chars v ++ (moreItemsChars items ++ ']' :: rest) := by simp [itemsChars]
    have h' : (moreItemsChars items ++ ']' :: rest).length < s.length := by
      rw [text] at h
      simp at h ⊢
      omega
    simp only [text] at h ⊢
    rw [list_item h (skipSpace_chars hv) (hv.back _ (moreItems_ends items)) h']
    exact moreItems_chars others [v] h'

/-! The fields of an object. -/

lemma field_chars {k : String} {v : Json} (hv : ReadsBack item v) (hr : NumberEnds rest) :
    Gives (field item (stringChars k ++ ':' :: (chars v ++ rest))) (k, v) rest := by
  obtain ⟨_, hread⟩ := hv.back rest hr
  rw [stringChars_append]
  obtain ⟨_, hk⟩ := stringBody_text k (':' :: (chars v ++ rest))
  refine ⟨by simp; omega, ?_⟩
  unfold field
  split
  · next h => cases (skipSpace_cons (by decide)).symm.trans h
  · next h =>
    cases (skipSpace_cons (by decide)).symm.trans h
    simp only [if_pos, hk]
    split
    · next h => cases (skipSpace_cons (by decide)).symm.trans h
    · next h =>
      cases (skipSpace_cons (by decide)).symm.trans h
      simp only [if_pos, hread]

lemma moreFields_close (read : Fields) (h : ('\x7d' :: rest).length < s.length) :
    Gives (moreFields (s := s) item read ('\x7d' :: rest) h) (.obj read) rest := by
  refine ⟨Nat.lt_of_succ_lt h, ?_⟩
  rw [moreFields]
  rfl

lemma moreFields_comma {read : Fields} {r after : List Char} {k : String} {v : Json}
    (h : (',' :: r).length < s.length) (hr : ∃ c t, skipSpace r = c :: t ∧ c ≠ '\x7d')
    (hv : Gives (field item r) (k, v) after) (h' : after.length < s.length) :
    moreFields (s := s) item read (',' :: r) h = moreFields item (read.insert k v) after h' := by
  obtain ⟨c, t, hc, hb⟩ := hr
  obtain ⟨_, hv⟩ := hv
  rw [moreFields]
  split
  · next h => cases (skipSpace_cons (by decide)).symm.trans h
  · next h =>
    cases (skipSpace_cons (by decide)).symm.trans h
    rw [if_neg (by decide), if_pos rfl]
    simp only [hc, if_neg hb, hv]

lemma object_close (h : ('\x7d' :: rest).length < s.length) :
    Gives (object (s := s) item ('\x7d' :: rest) h) (.obj []) rest :=
  ⟨Nat.lt_of_succ_lt h, rfl⟩

lemma object_field {r after : List Char} {k : String} {v : Json}
    (h : r.length < s.length) (hr : ∃ c t, skipSpace r = c :: t ∧ c ≠ '\x7d')
    (hv : Gives (field item r) (k, v) after) (h' : after.length < s.length) :
    object (s := s) item r h = moreFields item (Fields.insert k v []) after h' := by
  obtain ⟨c, t, hc, hb⟩ := hr
  obtain ⟨_, hv⟩ := hv
  unfold object
  split
  · next h => cases hc.symm.trans h
  · next h =>
    cases hc.symm.trans h
    simp only [if_neg hb, hv]

lemma insert_last {k : String} {v : Json} {fields : Fields} (h : ∀ f ∈ fields, f.1 < k) :
    Fields.insert k v fields = fields ++ [(k, v)] := by
  induction fields with
  | nil => rfl
  | cons f fields ih =>
    have hf : f.1 < k := h f List.mem_cons_self
    have others := ih fun g hg => h g (List.mem_cons_of_mem _ hg)
    rw [Fields.insert, if_neg (String.lt_asymm hf), if_neg (String.ne_of_lt hf).symm, others]
    rfl

/-- The fields stand in the order of their names, and no name stands twice. -/
def Ascending (fields : Fields) : Prop := fields.Pairwise fun f g => f.1 < g.1

instance (fields : Fields) : Decidable (Ascending fields) :=
  inferInstanceAs (Decidable (fields.Pairwise fun f g => f.1 < g.1))

lemma mem_insert {k : String} {v : Json} {fields : Fields} {f : String × Json}
    (h : f ∈ Fields.insert k v fields) : f = (k, v) ∨ f ∈ fields := by
  induction fields with
  | nil => exact .inl (List.mem_singleton.mp h)
  | cons g fields ih =>
    rw [Fields.insert] at h
    split at h
    · exact List.mem_cons.mp h
    · split at h
      · exact (List.mem_cons.mp h).imp_right (List.mem_cons_of_mem _)
      · rcases List.mem_cons.mp h with rfl | h
        · exact .inr List.mem_cons_self
        · exact (ih h).imp_right (List.mem_cons_of_mem _)

theorem ascending_insert (k : String) (v : Json) {fields : Fields} (ho : Ascending fields) :
    Ascending (fields.insert k v) := by
  induction fields with
  | nil => exact List.pairwise_singleton ..
  | cons g fields ih =>
    obtain ⟨first, others⟩ := List.pairwise_cons.mp ho
    rw [Fields.insert]
    split
    · next hk =>
      refine List.pairwise_cons.mpr ⟨?_, ho⟩
      rintro f (_ | ⟨_, hf⟩)
      · exact hk
      · exact String.lt_trans hk (first f hf)
    · next hk =>
      split
      · next he =>
        subst he
        exact List.pairwise_cons.mpr ⟨first, others⟩
      · next he =>
        refine List.pairwise_cons.mpr ⟨fun f hf => ?_, ih others⟩
        rcases mem_insert hf with rfl | hf
        · exact Std.lt_of_le_of_ne (Std.not_lt.mp hk) (Ne.symm he)
        · exact first f hf

theorem ascending_union {older : Fields} (ho : Ascending older) (newer : Fields) :
    Ascending (older.union newer) := by
  induction newer generalizing older with
  | nil => exact ho
  | cons f newer ih => exact ih (ascending_insert f.1 f.2 ho)

lemma moreFields_ends (fields : Fields) :
    NumberEnds (moreFieldsChars fields ++ '\x7d' :: rest) := by
  rcases fields with _ | ⟨⟨k, v⟩, fields⟩ <;> exact numberEnds_cons (by decide)

lemma skipSpace_stringChars (k : String) :
    ∃ c t, skipSpace (stringChars k ++ rest) = c :: t ∧ c ≠ '\x7d' :=
  ⟨'"', _, by rw [stringChars_append, skipSpace_cons (by decide)], by decide⟩

lemma moreFields_chars {fields : Fields} (hi : ∀ f ∈ fields, ReadsBack item f.2) (read : Fields)
    (ho : Ascending (read ++ fields))
    (h : (moreFieldsChars fields ++ '\x7d' :: rest).length < s.length) :
    Gives (moreFields (s := s) item read (moreFieldsChars fields ++ '\x7d' :: rest) h)
      (.obj (read ++ fields)) rest := by
  induction fields generalizing read with
  | nil =>
    rw [List.append_nil]
    exact moreFields_close read h
  | cons f fields ih =>
    obtain ⟨k, v⟩ := f
    have hv : ReadsBack item v := hi (k, v) List.mem_cons_self
    have others : ∀ g ∈ fields, ReadsBack item g.2 := fun g hg => hi g (List.mem_cons_of_mem _ hg)
    have last : Fields.insert k v read = read ++ [(k, v)] := by
      apply insert_last
      intro g hg
      exact (List.pairwise_append.mp ho).2.2 g hg (k, v) List.mem_cons_self
    have text : moreFieldsChars ((k, v) :: fields) ++ '\x7d' :: rest =
        ',' :: (stringChars k ++ ':' :: (chars v ++ (moreFieldsChars fields ++ '\x7d' :: rest))) := by
      simp [moreFieldsChars]
    have h' : (moreFieldsChars fields ++ '\x7d' :: rest).length < s.length := by
      rw [text] at h
      simp at h ⊢
      omega
    have ho' : Ascending (read ++ [(k, v)] ++ fields) := by rwa [List.append_assoc]
    simp only [text] at h ⊢
    rw [moreFields_comma h (skipSpace_stringChars k) (field_chars hv (moreFields_ends fields)) h', last]
    simpa using ih others _ ho' h'

theorem object_chars {fields : Fields} (hi : ∀ f ∈ fields, ReadsBack item f.2) (ho : Ascending fields)
    (h : (fieldsChars fields ++ '\x7d' :: rest).length < s.length) :
    Gives (object (s := s) item (fieldsChars fields ++ '\x7d' :: rest) h) (.obj fields) rest := by
  cases fields with
  | nil => exact object_close h
  | cons f fields =>
    obtain ⟨k, v⟩ := f
    have hv : ReadsBack item v := hi (k, v) List.mem_cons_self
    have others : ∀ g ∈ fields, ReadsBack item g.2 := fun g hg => hi g (List.mem_cons_of_mem _ hg)
    have text : fieldsChars ((k, v) :: fields) ++ '\x7d' :: rest =
        stringChars k ++ ':' :: (chars v ++ (moreFieldsChars fields ++ '\x7d' :: rest)) := by
      simp [fieldsChars]
    have h' : (moreFieldsChars fields ++ '\x7d' :: rest).length < s.length := by
      rw [text] at h
      simp at h ⊢
      omega
    simp only [text] at h ⊢
    rw [object_field h (skipSpace_stringChars k) (field_chars hv (moreFields_ends fields)) h']
    exact moreFields_chars others [(k, v)] ho h'

end Brackets

/-! ## Plain values -/

mutual

/-- A value and all values in it. -/
def parts : Json → List Json
  | .arr items => .arr items :: itemParts items
  | .obj fields => .obj fields :: fieldParts fields
  | v => [v]

def itemParts : List Json → List Json
  | [] => []
  | v :: rest => parts v ++ itemParts rest

def fieldParts : List (String × Json) → List Json
  | [] => []
  | (_, v) :: rest => parts v ++ fieldParts rest

end

mutual

/-- How deep lists and objects nest. -/
def depth : Json → Nat
  | .arr items => itemsDepth items + 1
  | .obj fields => fieldsDepth fields + 1
  | _ => 0

def itemsDepth : List Json → Nat
  | [] => 0
  | v :: rest => max (depth v) (itemsDepth rest)

def fieldsDepth : List (String × Json) → Nat
  | [] => 0
  | (_, v) :: rest => max (depth v) (fieldsDepth rest)

end

/-- The value is no number, or an integer that stays one. -/
def isIntegral : Json → Bool
  | .int n => intRange n
  | .float _ _ => false
  | _ => true

def isOrdered : Json → Bool
  | .obj fields => decide (Ascending fields)
  | _ => true

/-- All numbers in a value are integers, its objects hold their fields in order, and brackets nest
no deeper than the limit. -/
structure Plain (limit : Nat) (v : Json) : Prop where
  integral : ∀ w ∈ parts v, isIntegral w = true
  ordered : ∀ w ∈ parts v, isOrdered w = true
  shallow : depth v ≤ limit

section Values

variable {d : Nat} {rest : List Char}

lemma mem_parts_self (v : Json) : v ∈ parts v := by
  cases v <;> exact List.mem_cons_self

lemma forall_parts_arr {p : Json → Prop} {items : List Json} :
    (∀ w ∈ parts (.arr items), p w) ↔ p (.arr items) ∧ ∀ v ∈ items, ∀ w ∈ parts v, p w := by
  have inner : (∀ w ∈ itemParts items, p w) ↔ ∀ v ∈ items, ∀ w ∈ parts v, p w := by
    induction items with
    | nil => simp [itemParts]
    | cons v items ih => rw [itemParts, List.forall_mem_append, ih, List.forall_mem_cons]
  rw [parts, List.forall_mem_cons, inner]

lemma forall_parts_obj {p : Json → Prop} {fields : Fields} :
    (∀ w ∈ parts (.obj fields), p w) ↔ p (.obj fields) ∧ ∀ f ∈ fields, ∀ w ∈ parts f.2, p w := by
  have inner : (∀ w ∈ fieldParts fields, p w) ↔ ∀ f ∈ fields, ∀ w ∈ parts f.2, p w := by
    induction fields with
    | nil => simp [fieldParts]
    | cons f fields ih => rw [fieldParts, List.forall_mem_append, ih, List.forall_mem_cons]
  rw [parts, List.forall_mem_cons, inner]

lemma itemsDepth_le {items : List Json} : itemsDepth items ≤ d ↔ ∀ v ∈ items, depth v ≤ d := by
  induction items with
  | nil => simp [itemsDepth]
  | cons v items ih => rw [itemsDepth, Nat.max_le, ih, List.forall_mem_cons]

lemma fieldsDepth_le {fields : Fields} : fieldsDepth fields ≤ d ↔ ∀ f ∈ fields, depth f.2 ≤ d := by
  induction fields with
  | nil => simp [fieldsDepth]
  | cons f fields ih => rw [fieldsDepth, Nat.max_le, ih, List.forall_mem_cons]

theorem plain_arr {items : List Json} : Plain (d + 1) (.arr items) ↔ ∀ v ∈ items, Plain d v := by
  constructor
  · intro h v hv
    have integral := (forall_parts_arr.mp h.integral).2 v hv
    have ordered := (forall_parts_arr.mp h.ordered).2 v hv
    exact ⟨integral, ordered, itemsDepth_le.mp (Nat.le_of_succ_le_succ h.shallow) v hv⟩
  · intro h
    constructor
    · exact forall_parts_arr.mpr ⟨rfl, fun v hv => (h v hv).integral⟩
    · exact forall_parts_arr.mpr ⟨rfl, fun v hv => (h v hv).ordered⟩
    · exact Nat.succ_le_succ (itemsDepth_le.mpr fun v hv => (h v hv).shallow)

theorem plain_obj {fields : Fields} :
    Plain (d + 1) (.obj fields) ↔ Ascending fields ∧ ∀ f ∈ fields, Plain d f.2 := by
  constructor
  · intro h
    obtain ⟨ho, ordered⟩ := forall_parts_obj.mp h.ordered
    have integral := (forall_parts_obj.mp h.integral).2
    refine ⟨of_decide_eq_true ho, fun f hf => ⟨integral f hf, ordered f hf, ?_⟩⟩
    exact fieldsDepth_le.mp (Nat.le_of_succ_le_succ h.shallow) f hf
  · rintro ⟨ho, h⟩
    constructor
    · exact forall_parts_obj.mpr ⟨rfl, fun f hf => (h f hf).integral⟩
    · exact forall_parts_obj.mpr ⟨decide_eq_true ho, fun f hf => (h f hf).ordered⟩
    · exact Nat.succ_le_succ (fieldsDepth_le.mpr fun f hf => (h f hf).shallow)

/-! ## Values -/

lemma digit_apart {c : Char} (h : isDigit c = true) :
    isSpace c = false ∧ c ≠ 'n' ∧ c ≠ 't' ∧ c ≠ 'f' ∧ c ≠ '-' ∧ c ≠ ']' := by
  have other : ∀ x : Char, isDigit x = false → c ≠ x := by
    rintro x hx rfl
    rw [h] at hx
    cases hx
  refine ⟨?_, other _ rfl, other _ rfl, other _ rfl, other _ rfl, other _ rfl⟩
  simp [isSpace, other ' ' rfl, other '\n' rfl, other '\t' rfl, other '\r' rfl]

lemma value_null : Gives (value d (chars .null ++ rest)) .null rest := by
  refine ⟨by simp [chars]; omega, ?_⟩
  unfold value
  rfl

lemma value_bool (b : Bool) : Gives (value d (chars (.bool b) ++ rest)) (.bool b) rest := by
  cases b <;> refine ⟨by simp [chars]; omega, ?_⟩ <;> unfold value <;> rfl

lemma value_string (t : String) : Gives (value d (stringChars t ++ rest)) (.str t) rest := by
  rw [stringChars_append]
  obtain ⟨_, ht⟩ := stringBody_text t rest
  refine ⟨by simp; omega, ?_⟩
  unfold value
  split
  · next h => cases (skipSpace_cons (by decide)).symm.trans h
  · next h =>
    cases (skipSpace_cons (by decide)).symm.trans h
    simp [isDigit, ht]

lemma value_nat {n : Nat} (hn : n ≤ significandLimit) (hr : NumberEnds rest) :
    Gives (value d (Nat.toDigits 10 n ++ rest)) (.int n) rest := by
  have hread := number_toDigits false hn hr
  obtain ⟨c, t, hc, digit, -⟩ := toDigits_shape n
  obtain ⟨hs, hn, ht, hf, hm, -⟩ := digit_apart digit
  rw [hc, List.cons_append] at hread ⊢
  obtain ⟨_, hread⟩ := hread
  refine ⟨by rw [List.length_cons, List.length_append]; omega, ?_⟩
  unfold value
  split
  · next h => cases (skipSpace_cons hs).symm.trans h
  · next h =>
    cases (skipSpace_cons hs).symm.trans h
    simp [hn, ht, hf, hm, digit, hread, integerOfParts]

lemma value_negative {n : Nat} (hn : n + 1 ≤ 9223372036854775808) (hr : NumberEnds rest) :
    Gives (value d ('-' :: (Nat.toDigits 10 (n + 1) ++ rest))) (.int (.negSucc n)) rest := by
  obtain ⟨_, hread⟩ := number_toDigits (n := n + 1) true (by simp [significandLimit]; omega) hr
  refine ⟨by rw [List.length_cons, List.length_append]; omega, ?_⟩
  have small : ¬ (n + 1 = 0 ∨ 9223372036854775808 < n + 1) := by omega
  unfold value
  split
  · next h => cases (skipSpace_cons (by decide)).symm.trans h
  · next h =>
    cases (skipSpace_cons (by decide)).symm.trans h
    simp only [Char.reduceEq, if_false, if_true, hread, integerOfParts, if_neg small]
    rfl

lemma value_int {n : Int} (hn : intRange n = true) (hr : NumberEnds rest) :
    Gives (value d (intChars n ++ rest)) (.int n) rest := by
  simp only [intRange, Bool.and_eq_true, decide_eq_true_eq] at hn
  cases n with
  | ofNat n => exact value_nat (by have h := hn.2; simp [significandLimit] at h ⊢; omega) hr
  | negSucc n => exact value_negative (by omega) hr

lemma Plain.opens {v : Json} (hp : Plain d v) :
    ∃ c t, chars v = c :: t ∧ isSpace c = false ∧ c ≠ ']' := by
  cases v with
  | null => exact ⟨_, _, rfl, by decide, by decide⟩
  | bool b => cases b <;> exact ⟨_, _, rfl, by decide, by decide⟩
  | int n =>
    cases n with
    | ofNat n =>
      obtain ⟨c, t, hc, digit, -⟩ := toDigits_shape n
      obtain ⟨hs, -, -, -, -, hb⟩ := digit_apart digit
      exact ⟨c, t, hc, hs, hb⟩
    | negSucc n => exact ⟨_, _, rfl, by decide, by decide⟩
  | float negative m => cases hp.integral _ (mem_parts_self _)
  | str s => exact ⟨_, _, rfl, by decide, by decide⟩
  | arr items => exact ⟨_, _, rfl, by decide, by decide⟩
  | obj fields => exact ⟨_, _, rfl, by decide, by decide⟩

lemma value_arr {items : List Json} (hi : ∀ v ∈ items, ReadsBack (value d) v) :
    Gives (value (d + 1) (chars (.arr items) ++ rest)) (.arr items) rest := by
  have text : chars (.arr items) ++ rest = '[' :: (itemsChars items ++ ']' :: rest) := by simp [chars]
  rw [text]
  obtain ⟨h, hread⟩ := list_chars (s := '[' :: (itemsChars items ++ ']' :: rest)) hi
    (Nat.lt_succ_self _)
  refine ⟨h, ?_⟩
  unfold value
  exact hread

lemma value_obj {fields : Fields} (hi : ∀ f ∈ fields, ReadsBack (value d) f.2) (ho : Ascending fields) :
    Gives (value (d + 1) (chars (.obj fields) ++ rest)) (.obj fields) rest := by
  have text : chars (.obj fields) ++ rest = '\x7b' :: (fieldsChars fields ++ '\x7d' :: rest) := by
    simp [chars]
  rw [text]
  obtain ⟨h, hread⟩ := object_chars (s := '\x7b' :: (fieldsChars fields ++ '\x7d' :: rest)) hi ho
    (Nat.lt_succ_self _)
  refine ⟨h, ?_⟩
  rw [value_brace (skipSpace_cons (by decide))]
  exact hread

lemma value_scalar {v : Json} (hp : Plain 0 v) (hr : NumberEnds rest) :
    Gives (value d (chars v ++ rest)) v rest := by
  cases v with
  | null => exact value_null
  | bool b => exact value_bool b
  | int n => exact value_int (hp.integral _ (mem_parts_self _)) hr
  | float negative m => cases hp.integral _ (mem_parts_self _)
  | str t => exact value_string t
  | arr items => cases hp.shallow
  | obj fields => cases hp.shallow

/-- What is written of a plain value is read back as that value. -/
theorem Plain.readsBack {v : Json} (hp : Plain d v) : ReadsBack (value d) v := by
  -- The depth that is left bounds the nesting, so the induction is on the depth and not on the value.
  induction d generalizing v with
  | zero => exact ⟨hp.opens, fun rest hr => value_scalar hp hr⟩
  | succ d ih =>
    refine ⟨hp.opens, fun rest hr => ?_⟩
    cases v with
    | arr items => exact value_arr fun w hw => ih (plain_arr.mp hp w hw)
    | obj fields =>
      obtain ⟨ho, hf⟩ := plain_obj.mp hp
      exact value_obj (fun f h => ih (hf f h)) ho
    | null | bool | int | float | str =>
      exact value_scalar ⟨hp.integral, hp.ordered, Nat.le_refl 0⟩ hr

/-- Reading a text undoes writing it. -/
theorem parse_chars {v : Json} (hp : Plain depthLimit v) : parse (chars v) = .ok v := by
  have hread := hp.readsBack.back [] (by simp [NumberEnds])
  rw [List.append_nil] at hread
  obtain ⟨_, hread⟩ := hread
  simp [parse, hread, skipSpace]

end Values

end SteadyLink.Proofs
