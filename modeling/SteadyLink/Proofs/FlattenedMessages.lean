import SteadyLink.Proofs.JsonFields
import SteadyLink.Proofs.Messages

/-!
# Messages in the flattened layout

What becomes of a message whose payload is written beside its type. Such a text is always read, and
the type is always that of the message, but not every payload comes back.
-/

namespace SteadyLink.Proofs

open Json

/-- The payload is no object, or an object with fields that have no name of their own on the wire. -/
def ComesBack : Json → Prop
  | .obj fields => fields ≠ [] ∧ ∀ f ∈ fields, f.1 ∉ ["type", "data", "payload"]
  | _ => True

/-- The fields of a payload that are written beside the type. -/
def writtenBeside (fields : Fields) : Fields := fields.filter fun f => f.1 != Codec.typeKey

/-- The payload that is read where one was written in the flattened layout. -/
def readBeside : Json → Json
  | .obj fields => Codec.payloadOf (writtenBeside fields)
  | payload => payload

section Flattened

variable {kind : String} {payload v : Json} {fields : Fields}

lemma fields_flattened_obj (kind : String) (fields : Fields) :
    Codec.fields .flattened kind (.obj fields) =
      Fields.union [("type", .str kind)] (writtenBeside fields) := rfl

/-- What is no object is written as in the nested layout. -/
lemma fields_flattened_other (kind : String) (h : ∀ fields, payload ≠ .obj fields) :
    Codec.fields .flattened kind payload = Codec.fields .nested kind payload := by
  cases payload with
  | obj fields => exact absurd rfl (h fields)
  | _ => rfl

lemma writtenBeside_apart : ∀ f ∈ writtenBeside fields, f.1 ≠ "type" := by
  intro f hf
  simpa [Codec.typeKey] using (List.mem_filter.mp hf).2

lemma ascending_writtenBeside (ho : Ascending fields) : Ascending (writtenBeside fields) :=
  List.Pairwise.sublist List.filter_sublist ho

lemma plain_flattened (hp : Plain 126 payload) :
    Plain depthLimit (.obj (Codec.fields .flattened kind payload)) := by
  cases payload with
  | obj fields =>
    obtain ⟨-, hf⟩ := plain_obj.mp hp
    have type : Plain 126 (.str kind) := by
      constructor <;> simp [parts, isIntegral, isOrdered, depth]
    refine plain_obj.mpr ⟨ascending_fields .flattened kind _, fun f h => ?_⟩
    rw [fields_flattened_obj] at h
    rcases mem_union h with h | h
    · rw [List.mem_singleton.mp h]
      exact type
    · have own := hf f (List.mem_filter.mp h).1
      exact ⟨own.integral, own.ordered, Nat.le_succ_of_le own.shallow⟩
  | _ =>
    rw [fields_flattened_other kind (by simp)]
    exact plain_nested hp

/-- The type is found where it was written, and the fields beside it are left. -/
lemma ofJson_beside (hk : Text.isBlank kind = false) (ho : Ascending fields) :
    Codec.ofJson (.obj (Fields.union [("type", .str kind)] (writtenBeside fields))) =
      .ok ⟨kind, Codec.payloadOf (writtenBeside fields), none, hk⟩ := by
  have found : Fields.get? "type" (Fields.union [("type", .str kind)] (writtenBeside fields)) =
      some (.str kind) := by
    rw [get?_union writtenBeside_apart]
    rfl
  have left : Fields.erase "type" (Fields.union [("type", .str kind)] (writtenBeside fields)) =
      writtenBeside fields := by
    rw [erase_union (List.pairwise_singleton ..) writtenBeside_apart]
    have behind : Ascending ([] ++ writtenBeside fields) := ascending_writtenBeside ho
    exact union_append behind
  simp only [Codec.ofJson, Codec.typeKey, found, left, dif_pos hk]

lemma ofJson_flattened (e : Envelope) (hp : Plain 126 e.payload) :
    Codec.ofJson (.obj (Codec.fields .flattened e.kind e.payload)) =
      .ok ⟨e.kind, readBeside e.payload, none, e.kind_not_blank⟩ := by
  obtain ⟨kind, payload, layout, hk⟩ := e
  cases payload with
  | obj fields => exact ofJson_beside hk (plain_obj.mp hp).1
  | _ =>
    rw [fields_flattened_other kind (by exact nofun)]
    exact ofJson_nested ⟨kind, _, layout, hk⟩

/-! Which payloads come back -/

/-- No object is one of its own fields. -/
lemma field_ne_obj {name : String} (h : (name, v) ∈ fields) : v ≠ .obj fields := by
  intro heq
  have inside : depth v ≤ fieldsDepth fields := fieldsDepth_le.mp (Nat.le_refl _) (name, v) h
  rw [heq, depth] at inside
  omega

lemma payloadOf_eq_obj (h : Codec.payloadOf (writtenBeside fields) = .obj fields) :
    ComesBack (.obj fields) := by
  have own {name : String} {v : Json} (hv : (writtenBeside fields).get? name = some v) :
      v ≠ .obj fields := field_ne_obj (List.mem_filter.mp (mem_of_get? hv)).1
  unfold Codec.payloadOf at h
  split at h
  case h_1 v hv => exact absurd h (own hv)
  case h_2 nodata =>
    split at h
    case h_1 v hv => exact absurd h (own hv)
    case h_2 nopayload =>
      split at h
      case isTrue => cases h
      case isFalse hne =>
        have all : writtenBeside fields = fields := Json.obj.inj h
        rw [all] at nodata nopayload hne
        refine ⟨by simpa using hne, fun f hf => ?_⟩
        have notype : f.1 ≠ "type" := writtenBeside_apart f (all.symm ▸ hf)
        have nodata := get?_eq_none_iff.mp nodata f hf
        have nopayload := get?_eq_none_iff.mp nopayload f hf
        simpa using ⟨notype, nodata, nopayload⟩

lemma payloadOf_comesBack (h : ComesBack (.obj fields)) :
    Codec.payloadOf (writtenBeside fields) = .obj fields := by
  obtain ⟨hne, free⟩ := h
  have apart {name : String} (hn : name ∈ ["type", "data", "payload"]) : ∀ f ∈ fields, f.1 ≠ name := by
    rintro f hf rfl
    exact free f hf hn
  have all : writtenBeside fields = fields := by
    rw [writtenBeside, List.filter_eq_self]
    intro f hf
    simpa [Codec.typeKey] using apart (by simp) f hf
  have nodata : fields.get? "data" = none := get?_eq_none_iff.mpr (apart (by simp))
  have nopayload : fields.get? "payload" = none := get?_eq_none_iff.mpr (apart (by simp))
  rw [all, Codec.payloadOf]
  simp only [Codec.dataKey, Codec.payloadKey, nodata, nopayload]
  rw [if_neg (by simpa using hne)]

theorem readBeside_eq_iff : readBeside payload = payload ↔ ComesBack payload := by
  cases payload with
  | obj fields => exact ⟨payloadOf_eq_obj, payloadOf_comesBack⟩
  | _ => exact iff_of_true rfl trivial

/-- A message that is written in the flattened layout is always read, with its own type whatever
fields its payload has, and its payload comes back exactly if it is no object, or one that has fields
but none named `type`, `data` or `payload`. -/
theorem flattened_round_trip (c reader : Codec) (e : Envelope)
    (flattened : e.layout.getD c.layout = .flattened) (plain : Plain 126 e.payload)
    (unlimited : reader.maxFrameLen = 0) :
    ∀ f ∈ framesOf (c.encode e), ∃ read, reader.decode f = .ok read ∧ read.kind = e.kind ∧
      (read.payload = e.payload ↔ ComesBack e.payload) := by
  intro f hf
  have text : c.encode e = (Json.obj (Codec.fields .flattened e.kind e.payload)).render := by
    rw [Codec.encode, flattened]
  refine ⟨⟨e.kind, readBeside e.payload, none, e.kind_not_blank⟩, ?_, rfl, readBeside_eq_iff⟩
  calc
    reader.decode f = Codec.ofText (c.encode e) := decode_framesOf hf (.inl unlimited)
    _ = Codec.ofJson (.obj (Codec.fields .flattened e.kind e.payload)) := by
      rw [text, ofText_render (plain_flattened plain)]
    _ = .ok ⟨e.kind, readBeside e.payload, none, e.kind_not_blank⟩ := ofJson_flattened e plain

/-- A payload with a type of its own: the message keeps its type, and the payload does not come
back. -/
theorem flattened_round_trip_own_type :
    let e : Envelope :=
      ⟨"move", .obj [("step", .int 3), ("type", .str "halt")], some .flattened, by decide⟩
    Plain 126 e.payload ∧
      ∃ read, Codec.decode ⟨.nested, 0⟩ (.text (Codec.standard.encode e)) = .ok read ∧
        read.kind = "move" ∧ read.payload ≠ e.payload := by
  intro e
  have plain : Plain 126 e.payload := ⟨by decide, by decide, by decide⟩
  obtain ⟨read, hread, hkind, hback⟩ :=
    flattened_round_trip .standard ⟨.nested, 0⟩ e rfl plain rfl _ List.mem_cons_self
  refine ⟨plain, read, hread, hkind, fun h => ?_⟩
  obtain ⟨-, free⟩ := hback.mp h
  exact free ("type", .str "halt") (by simp) (by simp)

end Flattened

end SteadyLink.Proofs
