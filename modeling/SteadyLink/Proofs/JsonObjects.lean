import Mathlib.Data.List.Induction
import SteadyLink.Proofs.JsonFields

/-!
# Objects in texts

A text that is read as an object is one brace, members with commas between them and another brace. Of
members with one name the last one is found in the object, whose fields stand in the order of their
names.
-/

namespace SteadyLink.Proofs

open Json

/-- Members that follow others, up to the closing brace, and the text behind it. -/
inductive MoreMembers (item : (t : List Char) → Parsed Json t) :
    List Char → List (String × Json) → List Char → Prop
  | close {r rest : List Char} (closed : skipSpace r = '\x7d' :: rest) : MoreMembers item r [] rest
  | comma {r rest last : List Char} {member : String × Json} {members : List (String × Json)}
      {after : { t : List Char // t.length < rest.length }} (comma : skipSpace r = ',' :: rest)
      (first : field item rest = .ok (member, after)) (others : MoreMembers item after members last) :
      MoreMembers item r (member :: members) last

/-- Members between braces, from behind the opening one, and the text behind the closing one. -/
inductive Members (item : (t : List Char) → Parsed Json t) :
    List Char → List (String × Json) → List Char → Prop
  | close {r rest : List Char} (closed : skipSpace r = '\x7d' :: rest) : Members item r [] rest
  | first {r last : List Char} {member : String × Json} {members : List (String × Json)}
      {after : { t : List Char // t.length < r.length }} (first : field item r = .ok (member, after))
      (others : MoreMembers item after members last) : Members item r (member :: members) last

/-- The text is an object with these members, in the order in which they are written. -/
def WrittenWith (text : List Char) (members : List (String × Json)) : Prop :=
  ∃ d r rest, d + 1 = depthLimit ∧ skipSpace text = '\x7b' :: r ∧
    Members (value d) r members rest ∧ skipSpace rest = []

/-- The value of the last member of a name. -/
def lastNamed (name : String) (members : List (String × Json)) : Option Json :=
  (members.reverse.find? fun member => member.1 = name).map Prod.snd

/-- What is read, if anything is, is no object. -/
def NoObject {s : List Char} (result : Parsed Json s) : Prop :=
  ∀ fields rest, result ≠ .ok (.obj fields, rest)

section Scalars

variable {s r : List Char} {negative : Bool} {significand : Nat} {e : Int} {v : Json}
  {item : (t : List Char) → Parsed Json t}

lemma noObject_error (e : ParseError) : NoObject (.error e : Parsed Json s) := nofun

lemma noObject_ok (hv : ∀ fields, v ≠ .obj fields) (rest : { t : List Char // t.length < s.length }) :
    NoObject (.ok (v, rest)) := by
  intro fields rest' h
  injection h with h
  exact hv fields (congrArg Prod.fst h)

lemma finishFloat_noObject (h : r.length < s.length) :
    NoObject (finishFloat (s := s) negative significand e r h) := by
  unfold finishFloat floatOfParts
  cases scaleByTen (.ofNat significand) e with
  | none => exact noObject_error _
  | some m => exact noObject_ok (by exact nofun) _

lemma integerOfParts_noObject (fields : Fields) :
    integerOfParts negative significand ≠ .obj fields := by
  unfold integerOfParts
  split
  · split <;> exact nofun
  · exact nofun

lemma exponentPart_noObject (h : r.length < s.length) :
    NoObject (exponentPart (s := s) negative significand e r h) := by
  fun_cases exponentPart with
  | case1 => exact noObject_error _
  | case2 => exact noObject_error _
  | case3 => exact finishFloat_noObject _
  | case4 => exact noObject_error _
  | case5 => exact noObject_ok (by exact nofun) _

lemma fractionPart_noObject (h : r.length < s.length) :
    NoObject (fractionPart (s := s) negative significand e r h) := by
  fun_cases fractionPart with
  | case1 => exact noObject_error _
  | case2 => exact finishFloat_noObject _
  | case3 => exact exponentPart_noObject _
  | case4 => exact finishFloat_noObject _

lemma noObject_ite {p : Prop} [Decidable p] {a b : Parsed Json s} (ha : NoObject a)
    (hb : NoObject b) : NoObject (if p then a else b) := by
  split
  · exact ha
  · exact hb

lemma number_noObject (negative : Bool) (s : List Char) : NoObject (number negative s) := by
  have whole {s rest : List Char} (significand unread : Nat) (h : rest.length < s.length) :
      NoObject (if unread = 0 then .ok (integerOfParts negative significand, ⟨rest, h⟩)
        else finishFloat (s := s) negative significand unread rest h) :=
    noObject_ite (noObject_ok integerOfParts_noObject _) (finishFloat_noObject h)
  unfold number
  split
  · exact noObject_error _
  · split
    · split
      · exact noObject_ite (noObject_error _) (whole _ _ _)
      · apply noObject_ite (noObject_error _)
        apply noObject_ite (fractionPart_noObject _)
        exact noObject_ite (exponentPart_noObject _) (whole _ _ _)
    · exact noObject_error _

lemma word_noObject (hv : ∀ fields, v ≠ .obj fields) (more : List Char) (h : r.length < s.length) :
    NoObject (word (s := s) v more r h) := by
  fun_induction word with
  | case1 => exact noObject_ok hv _
  | case2 => exact noObject_error _
  | case3 _ _ _ _ ih => exact ih
  | case4 => exact noObject_error _

lemma moreItems_noObject (read : List Json) (h : r.length < s.length) :
    NoObject (moreItems (s := s) item read r h) := by
  fun_induction moreItems with
  | case2 => exact noObject_ok (by exact nofun) _
  | case6 _ _ _ _ _ _ _ _ _ _ _ _ _ _ _ ih => exact ih
  | _ => exact noObject_error _

lemma list_noObject (h : r.length < s.length) : NoObject (list (s := s) item r h) := by
  fun_cases list with
  | case1 => exact noObject_error _
  | case2 => exact noObject_ok (by exact nofun) _
  | case3 => exact noObject_error _
  | case4 => exact moreItems_noObject _ _

end Scalars

section Objects

variable {s r : List Char} {item : (t : List Char) → Parsed Json t} {fields read : Fields} {v : Json}
  {name : String} {members : List (String × Json)}

/-! ## Members -/

lemma moreFields_members (h : r.length < s.length) {rest : { t : List Char // t.length < s.length }}
    (came : moreFields (s := s) item read r h = .ok (v, rest)) :
    ∃ members, MoreMembers item r members rest ∧ v = .obj (read.union members) := by
  fun_induction moreFields with
  | case2 read r h rest hs =>
    injection came with came
    obtain ⟨rfl, rfl⟩ := Prod.mk.inj came
    exact ⟨[], .close hs, rfl⟩
  | case6 read r h rest c r' _ _ name w after _ hfield hs _ _ ih =>
    obtain ⟨members, others, hv⟩ := ih came
    exact ⟨(name, w) :: members, .comma hs hfield others, hv⟩
  | _ => cases came

lemma object_members (h : r.length < s.length) {rest : { t : List Char // t.length < s.length }}
    (came : object (s := s) item r h = .ok (v, rest)) :
    ∃ members, Members item r members rest ∧ v = .obj (Fields.ofList members) := by
  unfold object at came
  split at came
  case h_1 => cases came
  case h_2 c tail hs =>
    split at came
    case isTrue hc =>
      injection came with came
      obtain ⟨rfl, rfl⟩ := Prod.mk.inj came
      exact ⟨[], .close (hc ▸ hs), rfl⟩
    case isFalse =>
      split at came
      case h_1 => cases came
      case h_2 name w after _ hfield =>
        obtain ⟨members, others, hv⟩ := moreFields_members _ came
        exact ⟨(name, w) :: members, .first hfield others, hv⟩

/-- Only a brace begins an object. -/
lemma value_noObject (plain : ∀ r, skipSpace s ≠ '\x7b' :: r) (depth : Nat) :
    NoObject (value depth s) := by
  have kept {t : List Char} {w : Json} {sign : Bool} {after : { u : List Char // u.length < t.length }}
      (read : number sign t = .ok (w, after)) : ∀ fields, w ≠ .obj fields := by
    rintro fields rfl
    exact number_noObject sign t fields after read
  unfold value
  split
  · exact noObject_error _
  · next c r hs =>
    have other : c ≠ '\x7b' := fun brace => plain r (brace ▸ hs)
    dsimp only
    apply noObject_ite (word_noObject (by simp) _ _)
    apply noObject_ite (word_noObject (by simp) _ _)
    apply noObject_ite (word_noObject (by simp) _ _)
    apply noObject_ite
    · split
      · exact noObject_error _
      · next read => exact noObject_ok (kept read) _
    apply noObject_ite
    · split
      · exact noObject_error _
      · next read => exact noObject_ok (kept read) _
    apply noObject_ite
    · split
      · exact noObject_error _
      · exact noObject_ok (by simp) _
    apply noObject_ite
    · split
      · exact noObject_error _
      · exact list_noObject _
    rw [if_neg other]
    exact noObject_error _

lemma value_members {depth : Nat} {rest : { t : List Char // t.length < s.length }}
    (came : value depth s = .ok (.obj fields, rest)) :
    ∃ d r members, d + 1 = depth ∧ skipSpace s = '\x7b' :: r ∧ Members (value d) r members rest ∧
      fields = Fields.ofList members := by
  by_cases brace : ∃ r, skipSpace s = '\x7b' :: r
  · obtain ⟨r, hs⟩ := brace
    rw [value_brace hs] at came
    cases depth with
    | zero => cases came
    | succ d =>
      obtain ⟨members, written, hfields⟩ := object_members _ came
      exact ⟨d, r, members, rfl, hs, written, Json.obj.inj hfields⟩
  · exact absurd came (value_noObject (fun r hs => brace ⟨r, hs⟩) depth fields rest)

/-- An object that is read has the members that are written. -/
theorem parse_members {text : List Char} (came : parse text = .ok (.obj fields)) :
    ∃ members, WrittenWith text members ∧ fields = Fields.ofList members := by
  unfold parse at came
  split at came
  · cases came
  · next v rest h first =>
    split at came
    · next ends =>
      injection came with came
      subst came
      obtain ⟨d, r, members, top, hs, written, hfields⟩ := value_members first
      exact ⟨members, ⟨d, r, rest, top, hs, written, ends⟩, hfields⟩
    · cases came

/-! ## Lookup -/

lemma lastNamed_concat (member : String × Json) : lastNamed name (members ++ [member]) =
    if member.1 = name then some member.2 else lastNamed name members := by
  unfold lastNamed
  rw [List.reverse_concat, List.find?_cons]
  by_cases same : member.1 = name
  · simp [same]
  · simp [same]

lemma ofList_concat (members : List (String × Json)) (member : String × Json) :
    Fields.ofList (members ++ [member]) = (Fields.ofList members).insert member.1 member.2 :=
  List.foldl_append

/-- Of members with one name the last one counts. -/
theorem get?_ofList (members : List (String × Json)) (name : String) :
    (Fields.ofList members).get? name = lastNamed name members := by
  induction members using List.reverseRecOn with
  | nil => rfl
  | append_singleton members member ih =>
    rw [ofList_concat, get?_insertField, lastNamed_concat, ih]
    simp only [eq_comm]

theorem ascending_ofList (members : List (String × Json)) : Ascending (Fields.ofList members) :=
  ascending_union List.Pairwise.nil members

/-- Where each name is found once, taking a field out leaves those of other names. -/
lemma erase_eq_filter (ho : Ascending fields) (name : String) :
    fields.erase name = fields.filter fun field => field.1 ≠ name := by
  induction fields with
  | nil => rfl
  | cons field fields ih =>
    obtain ⟨first, others⟩ := List.pairwise_cons.mp ho
    rw [Fields.erase]
    by_cases same : name = field.1
    · have apart : ∀ f ∈ fields, f.1 ≠ name := fun f hf => same ▸ (String.ne_of_lt (first f hf)).symm
      rw [if_pos same, List.filter_cons_of_neg (by simp [same])]
      exact (List.filter_eq_self.mpr (by simpa using apart)).symm
    · rw [if_neg same, List.filter_cons_of_pos (by simpa using Ne.symm same), ih others]

end Objects

end SteadyLink.Proofs
