import SteadyLink.Metrics.Snapshot
import SteadyLink.Proofs.JsonFields

/-!
# Snapshots of metrics

A snapshot is known by what is found under each name, whichever of its fields holds it. Merging looks
a name up in the newer snapshot first, so that of payloads merged one after another the last one wins,
name by name. Null under a known name is as good as nothing, and under any other name it is a value.
-/

namespace SteadyLink.Proofs

open Json MetricsSnapshot

/-- The payload is null, or an object with its fields in order. -/
def IsGroups : Json → Prop
  | .null => True
  | .obj fields => Ascending fields
  | _ => False

instance : DecidablePred IsGroups := fun v => by
  cases v <;> unfold IsGroups <;> infer_instance

/-- Reads payloads one after another and merges them, the first one into the empty snapshot. -/
def gather (payloads : List Json) : Except ReadError MetricsSnapshot :=
  payloads.foldlM (fun s p => (ofJson p).map s.merge) empty

/-- What a payload has under a name. -/
def valueOf? (name : String) : Json → Option Json
  | .obj fields => Fields.get? name fields
  | _ => none

/-- The value under a name in the last payload where there is one that counts. -/
def lastValue (counts : Json → Bool) (name : String) (payloads : List Json) : Option Json :=
  payloads.reverse.findSome? fun p => (valueOf? name p).filter counts

/-- Under each name the snapshot holds what was written there last, and nothing else. -/
structure LastWrites (payloads : List Json) (s : MetricsSnapshot) : Prop where
  assets : s.assets = lastValue (· ≠ .null) "assets" payloads
  networks : s.networks = lastValue (· ≠ .null) "networks" payloads
  power : s.power = lastValue (· ≠ .null) "power" payloads
  others : ∀ name, s.extra.get? name =
    if name ∈ knownGroups then none else lastValue (fun _ => true) name payloads

/-- The snapshot is what some payloads come to. -/
def IsGathered (s : MetricsSnapshot) : Prop :=
  ∃ payloads, (∀ p ∈ payloads, IsGroups p) ∧ gather payloads = .ok s

/-! ## Looking names up -/

/-- What a snapshot holds under a name. -/
def group (s : MetricsSnapshot) (name : String) : Option Json :=
  if name = "assets" then s.assets
  else if name = "networks" then s.networks
  else if name = "power" then s.power
  else s.extra.get? name

/-- Null counts under names that are not known only. -/
def counted (name : String) (v : Json) : Bool := !(knownGroups.contains name && v = .null)

/-- The snapshot holds each group in its own field, and null under no known name. -/
structure ProperGroups (s : MetricsSnapshot) : Prop where
  ordered : Ascending s.extra
  apart : ∀ f ∈ s.extra, f.1 ∉ knownGroups
  present : ∀ name ∈ knownGroups, group s name ≠ some .null

section Groups

variable {s t u : MetricsSnapshot} {name : String} {p : Json} {payloads : List Json}

lemma group_other (h : name ∉ knownGroups) : group s name = s.extra.get? name := by
  simp only [knownGroups, List.mem_cons, List.not_mem_nil, or_false, not_or] at h
  simp [group, h]

lemma counted_known (known : name ∈ knownGroups) : counted name = fun v => decide (v ≠ .null) := by
  funext v
  simp [counted, known]

lemma counted_other (h : name ∉ knownGroups) : counted name = fun _ => true := by
  funext v
  simp [counted, h]

lemma extra_known (hs : ProperGroups s) (known : name ∈ knownGroups) : s.extra.get? name = none :=
  get?_eq_none_iff.mpr fun f hf same => hs.apart f hf (same ▸ known)

lemma group_counted (hs : ProperGroups s) (name : String) :
    (group s name).filter (counted name) = group s name := by
  cases held : group s name with
  | none => rfl
  | some v =>
    have counts : counted name v = true := by
      by_cases known : name ∈ knownGroups
      · have some : v ≠ .null := fun null => hs.present name known (null ▸ held)
        simp [counted, some]
      · simp [counted, known]
    rw [Option.filter_some, if_pos counts]

/-- Snapshots that hold the same under each name are the same. -/
theorem proper_ext (hs : ProperGroups s) (ht : ProperGroups t) (h : ∀ name, group s name = group t name) :
    s = t := by
  have extra : s.extra = t.extra := by
    apply ascending_ext hs.ordered ht.ordered
    intro name
    by_cases known : name ∈ knownGroups
    · rw [extra_known hs known, extra_known ht known]
    · rw [← group_other known, ← group_other known]
      exact h name
  have assets : s.assets = t.assets := h "assets"
  have networks : s.networks = t.networks := h "networks"
  have power : s.power = t.power := h "power"
  cases s
  rw [MetricsSnapshot.mk.injEq]
  exact ⟨assets, networks, power, extra⟩

lemma proper_empty : ProperGroups empty where
  ordered := List.Pairwise.nil
  apart := List.forall_mem_nil _
  present := by decide

lemma group_empty (name : String) : group empty name = none := by
  unfold group
  split_ifs <;> rfl

/-! ## Merging -/

lemma group_merge (ht : ProperGroups t) (name : String) :
    group (s.merge t) name = (group t name).or (group s name) := by
  by_cases known : name ∈ knownGroups
  · simp only [knownGroups, List.mem_cons, List.not_mem_nil, or_false] at known
    rcases known with rfl | rfl | rfl <;> rfl
  · rw [group_other known, group_other known, group_other known]
    exact get?_union_or (ascending_distinct ht.ordered) name

lemma merge_proper (hs : ProperGroups s) (ht : ProperGroups t) : ProperGroups (s.merge t) where
  ordered := ascending_union hs.ordered t.extra
  apart f hf := (mem_union hf).elim (hs.apart f) (ht.apart f)
  present name known := by
    rw [group_merge ht]
    cases held : group t name with
    | none => exact hs.present name known
    | some v =>
      rw [Option.some_or, ← held]
      exact ht.present name known

theorem merge_assoc (hs : ProperGroups s) (ht : ProperGroups t) (hu : ProperGroups u) :
    (s.merge t).merge u = s.merge (t.merge u) := by
  have htu := merge_proper ht hu
  apply proper_ext (merge_proper (merge_proper hs ht) hu) (merge_proper hs htu)
  intro name
  rw [group_merge hu, group_merge ht, group_merge htu, group_merge hu, Option.or_assoc]

lemma empty_merge (hs : ProperGroups s) : empty.merge s = s := by
  apply proper_ext (merge_proper proper_empty hs) hs
  intro name
  rw [group_merge hs, group_empty, Option.or_none]

lemma merge_empty (hs : ProperGroups s) : s.merge empty = s := by
  apply proper_ext (merge_proper hs proper_empty) hs
  intro name
  rw [group_merge proper_empty, group_empty, Option.none_or]

/-! ## Reading -/

lemma group?_eq (known : name ∈ knownGroups) (fields : Fields) :
    group? fields name = (fields.get? name).filter (counted name) := by
  unfold group?
  cases held : fields.get? name with
  | none => rfl
  | some v =>
    have counts : counted name v = !decide (v = .null) := by simp [counted, known]
    cases v <;> simp [Option.filter, counts]

/-- Fields in order are read as a snapshot that holds what counts among them. -/
lemma ofJson_obj {fields : Fields} (ho : Ascending fields) : ∃ s, ofJson (.obj fields) = .ok s ∧
    ProperGroups s ∧ ∀ name, group s name = (fields.get? name).filter (counted name) := by
  refine ⟨_, rfl, ?_⟩
  generalize read : MetricsSnapshot.mk .. = s
  have found (name : String) : group s name = (fields.get? name).filter (counted name) := by
    subst read
    by_cases known : name ∈ knownGroups
    · rw [← group?_eq known]
      simp only [knownGroups, List.mem_cons, List.not_mem_nil, or_false] at known
      rcases known with rfl | rfl | rfl <;> rfl
    · rw [group_other known]
      have kept : Fields.get? name (fields.filter fun f => !knownGroups.contains f.1) =
          fields.get? name := by
        rw [get?_filter fun name => !knownGroups.contains name]
        simp [known]
      show Fields.get? name (fields.filter fun f => !knownGroups.contains f.1) = _
      rw [kept, counted_other known]
      cases fields.get? name <;> rfl
  refine ⟨⟨?_, ?_, ?_⟩, found⟩
  · subst read
    exact ho.sublist List.filter_sublist
  · subst read
    intro f hf
    simpa using (List.mem_filter.mp hf).2
  · intro name known null
    rw [found] at null
    have counts := (Option.filter_eq_some_iff.mp null).2
    simp [counted, known] at counts

lemma ofJson_groups (hp : IsGroups p) : ∃ s, ofJson p = .ok s ∧ ProperGroups s ∧
    ∀ name, group s name = (valueOf? name p).filter (counted name) := by
  cases p with
  | null => exact ⟨empty, rfl, proper_empty, group_empty⟩
  | obj fields => exact ofJson_obj hp
  | _ => cases hp

lemma lastValue_cons (counts : Json → Bool) (name : String) (p : Json) (payloads : List Json) :
    lastValue counts name (p :: payloads) =
      (lastValue counts name payloads).or ((valueOf? name p).filter counts) := by
  unfold lastValue
  rw [List.reverse_cons, List.findSome?_append]
  simp

/-- What payloads come to, merged into a snapshot. -/
lemma gather_from (hs : ProperGroups s) (h : ∀ p ∈ payloads, IsGroups p) :
    ∃ t, payloads.foldlM (fun s p => (ofJson p).map s.merge) s = .ok t ∧ ProperGroups t ∧
      ∀ name, group t name = (lastValue (counted name) name payloads).or (group s name) := by
  -- The snapshot before stands for all payloads before: later ones win over it, name by name.
  induction payloads generalizing s with
  | nil => exact ⟨s, rfl, hs, fun name => rfl⟩
  | cons p payloads ih =>
    obtain ⟨hp, others⟩ := List.forall_mem_cons.mp h
    obtain ⟨u, read, hu, written⟩ := ofJson_groups hp
    obtain ⟨t, rest, ht, last⟩ := ih (merge_proper hs hu) others
    refine ⟨t, ?_, ht, fun name => ?_⟩
    · rw [List.foldlM_cons, read]
      exact rest
    · rw [last, group_merge hu, written, lastValue_cons, Option.or_assoc]

lemma gathered_proper (h : IsGathered s) : ProperGroups s := by
  obtain ⟨payloads, groups, gathered⟩ := h
  obtain ⟨t, gathered', ht, -⟩ := gather_from proper_empty groups
  obtain rfl := Except.ok.inj (gathered.symm.trans gathered')
  exact ht

/-! ## Writing -/

lemma get?_union_single (older : Fields) (key : String) (v : Option Json) (name : String) :
    (older.union (v.toList.map fun v => (key, v))).get? name =
      (if name = key then v else none).or (older.get? name) := by
  cases v with
  | none => simp [Fields.union]
  | some v =>
    show (older.insert key v).get? name = _
    rw [get?_insertField]
    split <;> rfl

lemma union_join (older a b : Fields) : older.union (a ++ b) = (older.union a).union b :=
  List.foldl_append

lemma get?_written (hs : ProperGroups s) (name : String) :
    Fields.get? name (Fields.ofList s.fields) = group s name := by
  unfold Fields.ofList MetricsSnapshot.fields
  rw [union_join, union_join, union_join, get?_union_or (ascending_distinct hs.ordered),
    get?_union_single, get?_union_single, get?_union_single]
  by_cases known : name ∈ knownGroups
  · rw [extra_known hs known]
    simp only [knownGroups, List.mem_cons, List.not_mem_nil, or_false] at known
    rcases known with rfl | rfl | rfl <;> simp [group, Fields.get?]
  · rw [group_other known]
    simp only [knownGroups, List.mem_cons, List.not_mem_nil, or_false, not_or] at known
    simp [known, Fields.get?]

/-- Reading a snapshot undoes writing it. -/
theorem ofJson_toJson (hs : ProperGroups s) : ofJson s.toJson = .ok s := by
  obtain ⟨t, read, ht, written⟩ := ofJson_obj (ascending_union List.Pairwise.nil s.fields)
  have same : t = s := by
    apply proper_ext ht hs
    intro name
    have held : Fields.get? name (Fields.union [] s.fields) = group s name := get?_written hs name
    rw [written, held, group_counted hs]
  exact same ▸ read

/-! ## Histories of payloads -/

lemma gathered_writes (hs : ProperGroups s)
    (last : ∀ name, group s name = lastValue (counted name) name payloads) :
    LastWrites payloads s := by
  have known (name : String) (h : name ∈ knownGroups) :
      group s name = lastValue (fun v => decide (v ≠ .null)) name payloads := by
    rw [last, counted_known h]
  refine ⟨known "assets" (by decide), known "networks" (by decide), known "power" (by decide), ?_⟩
  intro name
  split
  case isTrue h => exact extra_known hs h
  case isFalse h => rw [← group_other h, last, counted_other h]

/-- Payloads that are null or objects are read, and merged one after another they come to what was
written last under each name. Merging such snapshots is associative, the empty snapshot changes
nothing, and a snapshot that was written is read back. -/
theorem snapshots_last_write (h : ∀ p ∈ payloads, IsGroups p) :
    ∃ s, gather payloads = .ok s ∧ LastWrites payloads s ∧
      (∀ t u, IsGathered t → IsGathered u → (s.merge t).merge u = s.merge (t.merge u)) ∧
      empty.merge s = s ∧ s.merge empty = s ∧ ofJson s.toJson = .ok s := by
  obtain ⟨s, gathered, hs, last⟩ := gather_from proper_empty h
  have writes : LastWrites payloads s := by
    refine gathered_writes hs fun name => ?_
    rw [last, group_empty, Option.or_none]
  refine ⟨s, gathered, writes, ?_, empty_merge hs, merge_empty hs, ofJson_toJson hs⟩
  intro t u ht hu
  exact merge_assoc hs (gathered_proper ht) (gathered_proper hu)

end Groups

/-- Payloads in which null stands under known names and under another one. -/
def nulls : List Json :=
  [.obj [("assets", .int 1), ("racks", .int 2)], .null,
    .obj [("assets", .null), ("networks", .arr [.int 3]), ("racks", .null)],
    .obj [("power", .null), ("zones", .str "east")]]

/-- A group that is known outlasts null, and another group is overwritten with it. -/
theorem snapshots_last_write_nulls : (∀ p ∈ nulls, IsGroups p) ∧ ∃ s, gather nulls = .ok s ∧
    LastWrites nulls s ∧ s.merge empty = s ∧ ofJson s.toJson = .ok s ∧
    s = ⟨some (.int 1), some (.arr [.int 3]), none, [("racks", .null), ("zones", .str "east")]⟩ := by
  have groups : ∀ p ∈ nulls, IsGroups p := by decide
  obtain ⟨s, gathered, writes, -, -, same, back⟩ := snapshots_last_write groups
  refine ⟨groups, s, gathered, writes, same, back, ?_⟩
  have computed : gather nulls = .ok ⟨some (.int 1), some (.arr [.int 3]), none,
      [("racks", .null), ("zones", .str "east")]⟩ := by rfl
  exact Except.ok.inj (gathered.symm.trans computed)

end SteadyLink.Proofs
