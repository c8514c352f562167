import SteadyLink.Client.Hub
import SteadyLink.Proofs.JsonObjects

/-!
# Reading frames

Which frames are read, and as what. A frame is read if it is short enough, its bytes are UTF-8, the text
is a JSON object, and the object has a type that is not blank; the first of these that it misses is what
it is refused for.
-/

namespace SteadyLink.Proofs

open Json

/-! ## The format -/

def bytesOf : Frame → ByteArray
  | .text body => body.toUTF8
  | .binary body => body

/-- The bytes of the frame are those of the text. -/
def HasText (f : Frame) (body : String) : Prop := bytesOf f = body.toUTF8

/-- The frame is no longer than the codec allows. -/
def Fits (c : Codec) (f : Frame) : Prop := c.maxFrameLen = 0 ∨ (bytesOf f).size ≤ c.maxFrameLen

/-- The frame has a text that is the object with these members. -/
def HasMembers (f : Frame) (members : Fields) : Prop :=
  ∃ body, HasText f body ∧ parse body.toList = .ok (.obj members)

/-- The member `type` is a text that trimming does not leave empty. -/
def HasKind (members : Fields) (kind : String) : Prop :=
  members.get? "type" = some (.str kind) ∧ Text.trim kind ≠ ""

def besideType (members : Fields) : Fields := members.filter fun member => member.1 ≠ "type"

/-- The payload in an object: the member `data`, else the member `payload`, else all members beside the
type, and null if there are none. -/
inductive CarriesPayload (members : Fields) : Json → Prop
  | data {v : Json} (data : members.get? "data" = some v) : CarriesPayload members v
  | payload {v : Json} (no_data : members.get? "data" = none)
      (payload : members.get? "payload" = some v) : CarriesPayload members v
  | others (no_data : members.get? "data" = none) (no_payload : members.get? "payload" = none)
      (some_left : besideType members ≠ []) : CarriesPayload members (.obj (besideType members))
  | nothing (no_data : members.get? "data" = none) (no_payload : members.get? "payload" = none)
      (none_left : besideType members = []) : CarriesPayload members .null

/-- What a frame is read as. -/
def ReadAs (c : Codec) (f : Frame) (e : Envelope) : Prop :=
  e.layout = none ∧ Fits c f ∧
    ∃ members, HasMembers f members ∧ HasKind members e.kind ∧ CarriesPayload members e.payload

/-- What a frame is refused for: the first condition that it misses. -/
inductive RefusedFor (c : Codec) (f : Frame) : DecodeError → Prop
  | tooLong (long : ¬ Fits c f) : RefusedFor c f (.oversized (bytesOf f).size c.maxFrameLen)
  | noText (fits : Fits c f) (none : ∀ body, ¬ HasText f body) : RefusedFor c f .nonUtf8Binary
  | noJson {body : String} {e : ParseError} (fits : Fits c f) (text : HasText f body)
      (unreadable : parse body.toList = .error e) :
      RefusedFor c f (.malformed (e.message body.toList))
  | noObject {body : String} {v : Json} (fits : Fits c f) (text : HasText f body)
      (reads : parse body.toList = .ok v) (other : ∀ members, v ≠ .obj members) :
      RefusedFor c f .notAnObject
  | noKind {members : Fields} (fits : Fits c f) (object : HasMembers f members)
      (untyped : ∀ kind, ¬ HasKind members kind) : RefusedFor c f .missingType

/-- The law of reading. -/
structure ReadsFormat (c : Codec) (f : Frame) : Prop where
  accepts : ∀ e, c.decode f = .ok e ↔ ReadAs c f e
  refuses : ∀ fault, c.decode f = .error fault ↔ RefusedFor c f fault
  /-- A fault is fatal for the length and for the encoding, whatever else is in the frame. -/
  fatal : ∀ fault, c.decode f = .error fault →
    (fault.isFatal = true ↔ ¬ Fits c f ∨ ∀ body, ¬ HasText f body)
  /-- Of members with one name the last one that is written counts. -/
  last_counts : ∀ body members, HasText f body → parse body.toList = .ok (.obj members) →
    ∃ written, WrittenWith body.toList written ∧
      ∀ name, Fields.get? name members = lastNamed name written
  /-- Text and bytes are read alike. -/
  same_bytes : ∀ g, bytesOf g = bytesOf f → c.decode g = c.decode f
  /-- The kind that is read is one for messages and for callbacks. -/
  usable : ∀ e, c.decode f = .ok e → Envelope.ofKind e.kind e.payload = .ok e ∧
    ∀ (hub : Hub) callback, ∃ registered, hub.subscribe e.kind callback = .ok registered

section Conditions

variable {c : Codec} {f : Frame} {body : String} {members : Fields} {kind : String} {payload : Json}

lemma bytesOf_size (f : Frame) : (bytesOf f).size = f.len := by
  cases f with
  | text body => exact String.size_toByteArray
  | binary body => rfl

lemma fits_iff : Fits c f ↔ ¬ (0 < c.maxFrameLen ∧ c.maxFrameLen < f.len) := by
  rw [Fits, bytesOf_size]
  omega

lemma hasText_iff : HasText f body ↔ f.text? = some body := by
  cases f with
  | text own =>
    rw [HasText, bytesOf, String.toUTF8_eq_toByteArray, String.toUTF8_eq_toByteArray,
      String.toByteArray_inj, Frame.text?, Option.some.injEq]
  | binary bytes =>
    rw [HasText, bytesOf, String.toUTF8_eq_toByteArray, Frame.text?, String.fromUTF8?]
    constructor
    · rintro rfl
      rw [dif_pos body.isValidUTF8]
      rfl
    · intro h
      split at h
      · obtain rfl := Option.some.inj h
        rfl
      · cases h

lemma isBlank_iff (s : String) : Text.isBlank s = false ↔ Text.trim s ≠ "" := by
  rw [Text.isBlank, Text.trim, Ne, String.ofList_eq_empty_iff, Text.trimChars_eq_nil_iff,
    Bool.not_eq_true]

/-! ## Payloads -/

lemma get?_besideType (name : String) (other : name ≠ "type") :
    Fields.get? name (besideType members) = Fields.get? name members := by
  rw [besideType, get?_filter (fun name => decide (name ≠ "type")) name members,
    if_pos (decide_eq_true other)]

lemma carriesPayload_iff (ho : Ascending members) :
    CarriesPayload members payload ↔ Codec.payloadOf (Fields.erase "type" members) = payload := by
  have left : Codec.payloadOf (Fields.erase "type" members) =
      (Fields.get? "data" members).getD ((Fields.get? "payload" members).getD
        (if (besideType members).isEmpty then .null else .obj (besideType members))) := by
    rw [erase_eq_filter ho "type", ← get?_besideType "data" (by decide),
      ← get?_besideType "payload" (by decide)]
    show Codec.payloadOf (besideType members) = _
    unfold Codec.payloadOf Codec.dataKey Codec.payloadKey
    cases Fields.get? "data" (besideType members) with
    | some v => rfl
    | none => cases Fields.get? "payload" (besideType members) <;> rfl
  rw [left]
  constructor
  · intro carries
    cases carries with
    | data data => rw [data, Option.getD_some]
    | payload no_data payload => rw [no_data, Option.getD_none, payload, Option.getD_some]
    | others no_data no_payload some_left =>
      rw [no_data, no_payload]
      exact if_neg (by simpa using some_left)
    | nothing no_data no_payload none_left =>
      rw [no_data, no_payload]
      exact if_pos (by simpa using none_left)
  · rintro rfl
    cases hd : Fields.get? "data" members with
    | some v => exact .data hd
    | none =>
      cases hp : Fields.get? "payload" members with
      | some v => exact .payload hd hp
      | none =>
        rw [Option.getD_none, Option.getD_none]
        split
        · next none_left => exact .nothing hd hp (by simpa using none_left)
        · next some_left => exact .others hd hp (by simpa using some_left)

lemma hasMembers_ascending (h : HasMembers f members) : Ascending members := by
  obtain ⟨body, -, reads⟩ := h
  obtain ⟨written, -, rfl⟩ := parse_members reads
  exact ascending_ofList written

/-! ## Objects -/

lemma ofJson_typed (ho : Ascending members) (hk : HasKind members kind)
    (hp : CarriesPayload members payload) (unblank : Text.isBlank kind = false) :
    Codec.ofJson (.obj members) = .ok ⟨kind, payload, none, unblank⟩ := by
  have type : Fields.get? Codec.typeKey members = some (.str kind) := hk.1
  rw [Codec.ofJson]
  simp only [type, dif_pos unblank]
  rw [Codec.typeKey, (carriesPayload_iff ho).mp hp]

lemma ofJson_untyped (untyped : ∀ kind, ¬ HasKind members kind) :
    Codec.ofJson (.obj members) = .error .missingType := by
  rw [Codec.ofJson]
  split
  · next kind type =>
    apply dif_neg
    intro unblank
    exact untyped kind ⟨type, (isBlank_iff kind).mp unblank⟩
  · rfl

lemma ofJson_other {v : Json} (other : ∀ members, v ≠ .obj members) :
    Codec.ofJson v = .error .notAnObject := by
  cases v with
  | obj members => exact absurd rfl (other members)
  | _ => rfl

/-! ## Frames -/

lemma decode_text (fits : Fits c f) (text : HasText f body) : c.decode f = Codec.ofText body := by
  rw [Codec.decode, if_neg (fits_iff.mp fits), hasText_iff.mp text]

lemma decode_json {v : Json} (fits : Fits c f) (text : HasText f body)
    (reads : parse body.toList = .ok v) : c.decode f = Codec.ofJson v := by
  rw [decode_text fits text, Codec.ofText, reads]

lemma readAs_decode {e : Envelope} (h : ReadAs c f e) : c.decode f = .ok e := by
  obtain ⟨kind, payload, layout, unblank⟩ := e
  obtain ⟨rfl, fits, members, object, hk, hp⟩ := h
  obtain ⟨body, text, reads⟩ := object
  have ho := hasMembers_ascending ⟨body, text, reads⟩
  rw [decode_json fits text reads, ofJson_typed ho hk hp unblank]

lemma refusedFor_decode {fault : DecodeError} (h : RefusedFor c f fault) :
    c.decode f = .error fault := by
  cases h with
  | tooLong long =>
    rw [Codec.decode, if_pos (not_not.mp fun short => long (fits_iff.mpr short)), bytesOf_size]
  | noText fits none =>
    have silent : f.text? = Option.none :=
      Option.eq_none_iff_forall_ne_some.mpr fun body text => none body (hasText_iff.mpr text)
    rw [Codec.decode, if_neg (fits_iff.mp fits), silent]
  | noJson fits text unreadable => rw [decode_text fits text, Codec.ofText, unreadable]
  | noObject fits text reads other => rw [decode_json fits text reads, ofJson_other other]
  | noKind fits object untyped =>
    obtain ⟨body, text, reads⟩ := object
    rw [decode_json fits text reads, ofJson_untyped untyped]

/-- There is nothing between the frames that are read and those that are refused. -/
lemma read_or_refused (c : Codec) (f : Frame) :
    (∃ e, ReadAs c f e) ∨ ∃ fault, RefusedFor c f fault := by
  by_cases fits : Fits c f
  case neg => exact .inr ⟨_, .tooLong fits⟩
  by_cases text : ∃ body, HasText f body
  case neg => exact .inr ⟨_, .noText fits (not_exists.mp text)⟩
  obtain ⟨body, text⟩ := text
  cases reads : parse body.toList with
  | error e => exact .inr ⟨_, .noJson fits text reads⟩
  | ok v =>
    by_cases object : ∃ members, v = .obj members
    case neg => exact .inr ⟨_, .noObject fits text reads (not_exists.mp object)⟩
    obtain ⟨members, rfl⟩ := object
    have object : HasMembers f members := ⟨body, text, reads⟩
    by_cases typed : ∃ kind, HasKind members kind
    case neg => exact .inr ⟨_, .noKind fits object (not_exists.mp typed)⟩
    obtain ⟨kind, hk⟩ := typed
    have unblank := (isBlank_iff kind).mpr hk.2
    have hp := (carriesPayload_iff (hasMembers_ascending object)).mpr rfl
    exact .inl ⟨⟨kind, _, none, unblank⟩, rfl, fits, members, object, hk, hp⟩

lemma decode_ok_iff (e : Envelope) : c.decode f = .ok e ↔ ReadAs c f e := by
  constructor
  · intro came
    rcases read_or_refused c f with ⟨e', read⟩ | ⟨fault, refused⟩
    · have same := (readAs_decode read).symm.trans came
      injection same with same
      exact same ▸ read
    · cases (refusedFor_decode refused).symm.trans came
  · exact readAs_decode

lemma decode_error_iff (fault : DecodeError) : c.decode f = .error fault ↔ RefusedFor c f fault := by
  constructor
  · intro came
    rcases read_or_refused c f with ⟨e, read⟩ | ⟨fault', refused⟩
    · cases (readAs_decode read).symm.trans came
    · have same := (refusedFor_decode refused).symm.trans came
      injection same with same
      exact same ▸ refused
  · exact refusedFor_decode

lemma refusedFor_fatal {fault : DecodeError} (h : RefusedFor c f fault) :
    fault.isFatal = true ↔ ¬ Fits c f ∨ ∀ body, ¬ HasText f body := by
  have harmless (fits : Fits c f) (text : ∃ body, HasText f body) :
      ¬ (¬ Fits c f ∨ ∀ body, ¬ HasText f body) := by
    rintro (long | none)
    · exact long fits
    · exact text.elim none
  cases h with
  | tooLong long => exact iff_of_true rfl (.inl long)
  | noText fits none => exact iff_of_true rfl (.inr none)
  | noJson fits text unreadable => exact iff_of_false nofun (harmless fits ⟨_, text⟩)
  | noObject fits text reads other => exact iff_of_false nofun (harmless fits ⟨_, text⟩)
  | noKind fits object untyped =>
    exact iff_of_false nofun (harmless fits (object.imp fun body h => h.1))

lemma decode_bytes {g : Frame} (same : bytesOf g = bytesOf f) : c.decode g = c.decode f := by
  have len : g.len = f.len := by rw [← bytesOf_size, ← bytesOf_size, same]
  have text : g.text? = f.text? := by
    ext body
    rw [← hasText_iff, ← hasText_iff, HasText, HasText, same]
  rw [Codec.decode, Codec.decode, len, text]

/-- A frame is read exactly if it fits the limit, its bytes are those of a text, the text is an object
and the object has a type that is not blank. It is read with that type and the payload that it carries,
and refused for the first of the four that it misses. -/
theorem frames_read_exactly (c : Codec) (f : Frame) : ReadsFormat c f where
  accepts := decode_ok_iff
  refuses := decode_error_iff
  fatal fault refused := refusedFor_fatal ((decode_error_iff fault).mp refused)
  last_counts body members text reads := by
    obtain ⟨written, hwritten, rfl⟩ := parse_members reads
    exact ⟨written, hwritten, get?_ofList written⟩
  same_bytes g := decode_bytes
  usable e came := by
    obtain ⟨unpinned, -⟩ := (decode_ok_iff e).mp came
    obtain ⟨kind, payload, layout, unblank⟩ := e
    obtain rfl : layout = none := unpinned
    refine ⟨dif_pos unblank, fun hub callback => ⟨_, if_neg ?_⟩⟩
    rw [unblank]
    exact nofun

end Conditions

end SteadyLink.Proofs
