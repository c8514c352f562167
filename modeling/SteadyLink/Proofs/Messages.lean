import SteadyLink.Message.Codec
import SteadyLink.Proofs.JsonText

/-!
# Messages on the wire

What a codec writes for a message in the nested layout, any codec with room for it reads back as that
message.
-/

namespace SteadyLink.Proofs

open Json

/-- The frames that carry a text. -/
def framesOf (body : String) : List Frame := [.text body, .binary body.toUTF8]

section Messages

variable {c : Codec} {body : String} {f : Frame}

lemma framesOf_text? (h : f ∈ framesOf body) : f.text? = some body := by
  simp only [framesOf, List.mem_cons, List.not_mem_nil, or_false] at h
  rcases h with rfl | rfl
  · rfl
  · simp only [Frame.text?, String.fromUTF8?, String.toUTF8_eq_toByteArray, dif_pos body.isValidUTF8]
    rfl

lemma framesOf_len (h : f ∈ framesOf body) : f.len = body.utf8ByteSize := by
  simp only [framesOf, List.mem_cons, List.not_mem_nil, or_false] at h
  rcases h with rfl | rfl
  · rfl
  · exact String.size_toByteArray

lemma decode_framesOf (h : f ∈ framesOf body)
    (room : c.maxFrameLen = 0 ∨ body.utf8ByteSize ≤ c.maxFrameLen) :
    c.decode f = Codec.ofText body := by
  have short : ¬ (0 < c.maxFrameLen ∧ c.maxFrameLen < f.len) := by
    rw [framesOf_len h]
    omega
  rw [Codec.decode, if_neg short, framesOf_text? h]

lemma ofText_render {v : Json} (hp : Plain depthLimit v) : Codec.ofText v.render = Codec.ofJson v := by
  rw [Codec.ofText, render, String.toList_ofList, parse_chars hp]

lemma ascending_fields (layout : Layout) (kind : String) (payload : Json) :
    Ascending (Codec.fields layout kind payload) := by
  have base : Ascending [(Codec.typeKey, .str kind)] := List.pairwise_singleton ..
  unfold Codec.fields
  split
  · exact ascending_union base _
  · exact base
  · exact ascending_insert _ _ base

lemma fields_nested (kind : String) (payload : Json) :
    Codec.fields .nested kind payload =
      if payload = .null then [("type", .str kind)] else [("data", payload), ("type", .str kind)] := by
  cases payload <;> rfl

lemma plain_nested {kind : String} {payload : Json} (hp : Plain 126 payload) :
    Plain depthLimit (.obj (Codec.fields .nested kind payload)) := by
  have type : Plain 126 (.str kind) := by
    constructor <;> simp [parts, isIntegral, isOrdered, depth]
  refine plain_obj.mpr ⟨ascending_fields .nested kind payload, ?_⟩
  rw [fields_nested]
  split
  · rintro f (_ | ⟨_, hf⟩)
    · exact type
    · cases hf
  · rintro f (_ | ⟨_, _ | ⟨_, hf⟩⟩)
    · exact hp
    · exact type
    · cases hf

lemma ofJson_nested (e : Envelope) :
    Codec.ofJson (.obj (Codec.fields .nested e.kind e.payload)) = .ok { e with layout := none } := by
  obtain ⟨kind, payload, layout, hk⟩ := e
  rw [fields_nested]
  split
  · next h =>
    subst h
    simp [Codec.ofJson, Codec.typeKey, Fields.get?, Fields.erase, hk, Codec.payloadOf]
  · simp [Codec.ofJson, Codec.typeKey, Codec.dataKey, Fields.get?, Fields.erase, hk, Codec.payloadOf]

/-- A message that is written in the nested layout comes back from its text and from the bytes of its
text, whatever codec reads them, as long as that codec reads texts of this length. The layout that
the message asks for is not written. -/
theorem nested_round_trip (c reader : Codec) (e : Envelope) (nested : e.layout.getD c.layout = .nested)
    (plain : Plain 126 e.payload)
    (room : reader.maxFrameLen = 0 ∨ (c.encode e).utf8ByteSize ≤ reader.maxFrameLen) :
    ∀ f ∈ framesOf (c.encode e), reader.decode f = .ok { e with layout := none } := by
  intro f hf
  have text : c.encode e = (Json.obj (Codec.fields .nested e.kind e.payload)).render := by
    rw [Codec.encode, nested]
  calc
    reader.decode f = Codec.ofText (c.encode e) := decode_framesOf hf room
    _ = Codec.ofJson (.obj (Codec.fields .nested e.kind e.payload)) := by
      rw [text, ofText_render (plain_nested plain)]
    _ = .ok { e with layout := none } := ofJson_nested e

/-- A payload with what is hard to write: extreme integers, brackets within brackets, quotes, control
characters and letters of several bytes. -/
def cornerPayload : Json :=
  .obj [("", .arr [.int (-9223372036854775808), .int 18446744073709551615, .arr [], .obj []]),
    ("a\"\\/", .str "\t\u001f\u007f"), ("data", .null), ("ж", .obj [("😀", .bool false)])]

theorem nested_round_trip_corners :
    let e : Envelope := ⟨" ж\n", cornerPayload, some .nested, by decide⟩
    let body := Codec.encode ⟨.flattened, 1⟩ e
    Plain 126 e.payload ∧
      Codec.decode ⟨.flattened, 131⟩ (.text body) = .ok { e with layout := none } ∧
      Codec.decode ⟨.flattened, 131⟩ (.binary body.toUTF8) = .ok { e with layout := none } := by
  intro e body
  have plain : Plain 126 e.payload := ⟨by decide, by decide, by decide⟩
  have back := nested_round_trip ⟨.flattened, 1⟩ ⟨.flattened, 131⟩ e rfl plain (.inr (by decide +kernel))
  exact ⟨plain, back _ List.mem_cons_self, back _ (List.mem_cons_of_mem _ List.mem_cons_self)⟩

end Messages

end SteadyLink.Proofs
