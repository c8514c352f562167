import SteadyLink.Text.Ranges

/-!
# White space

White space in the sense of the Unicode property, and trimming by it.
Main statement: trimming leaves nothing exactly when every character is blank.
-/

namespace SteadyLink.Text

def blankRanges : List CodeRange :=
  [⟨0x09, 0x0D⟩, ⟨0x20, 0x20⟩, ⟨0x85, 0x85⟩, ⟨0xA0, 0xA0⟩, ⟨0x1680, 0x1680⟩, ⟨0x2000, 0x200A⟩,
   ⟨0x2028, 0x2029⟩, ⟨0x202F, 0x202F⟩, ⟨0x205F, 0x205F⟩, ⟨0x3000, 0x3000⟩]

def isBlankChar (c : Char) : Bool := inRanges blankRanges c.toNat

/-- Every character of the text is white space; the empty text is blank. -/
def isBlank (s : String) : Bool := s.toList.all isBlankChar

def trimChars (s : List Char) : List Char :=
  ((s.dropWhile isBlankChar).reverse.dropWhile isBlankChar).reverse

def trim (s : String) : String := String.ofList (trimChars s.toList)

theorem dropWhile_eq_nil_iff_all (p : Char → Bool) (s : List Char) :
    s.dropWhile p = [] ↔ s.all p = true := by
  induction s with
  | nil => simp
  | cons c s ih => by_cases h : p c <;> simp_all [List.dropWhile]

theorem trimChars_eq_nil_iff (s : List Char) : trimChars s = [] ↔ s.all isBlankChar = true := by
  unfold trimChars
  rw [List.reverse_eq_nil_iff, dropWhile_eq_nil_iff_all, List.all_reverse]
  constructor
  · intro h
    by_cases hd : s.dropWhile isBlankChar = []
    · exact (dropWhile_eq_nil_iff_all _ _).mp hd
    · have hp := List.head_dropWhile_not isBlankChar hd
      obtain ⟨c, r, hc⟩ := List.exists_cons_of_ne_nil hd
      simp only [hc, List.all_cons, Bool.and_eq_true, List.head_cons] at h hp
      simp [h.1] at hp
  · intro h
    simp [(dropWhile_eq_nil_iff_all _ _).mpr h]

end SteadyLink.Text
