import Mathlib.Tactic.Lemma
import SteadyLink.Json.Parser
import SteadyLink.Json.Printer

/-!
# Strings and integers in JSON texts

What is written for a string or an integer is read back as that string or integer, whatever text
stands behind it. Behind an integer nothing may stand that would make it a longer number.
-/

namespace SteadyLink.Proofs

open Json

/-- Reading succeeds with `a` and leaves `rest`. -/
def Gives {α : Type} {s : List Char} (result : Parsed α s) (a : α) (rest : List Char) : Prop :=
  ∃ h, result = .ok (a, ⟨rest, h⟩)

/-! ## Strings -/

/-- The letters behind a backslash that stand for one character, as far as they are written. -/
def namedEscapes : List (Char × Char) :=
  [('"', '"'), ('\\', '\\'), ('b', '\x08'), ('f', '\x0c'), ('n', '\n'), ('r', '\r'), ('t', '\t')]

section Strings

variable {s : List Char} {read rest : List Char}

lemma namedEscapes_stand {x c : Char} (h : (x, c) ∈ namedEscapes) :
    escapeChar c = ['\\', x] ∧ ∀ rest, Gives (escape (x :: rest)) c rest := by
  simp only [namedEscapes, List.mem_cons, Prod.mk.injEq, List.not_mem_nil, or_false] at h
  rcases h with ⟨rfl, rfl⟩ | ⟨rfl, rfl⟩ | ⟨rfl, rfl⟩ | ⟨rfl, rfl⟩ | ⟨rfl, rfl⟩ | ⟨rfl, rfl⟩ |
    ⟨rfl, rfl⟩ <;> exact ⟨rfl, fun rest => ⟨Nat.lt_succ_self _, rfl⟩⟩

lemma fourHex_control :
    ∀ n < 32, fourHex? '0' '0' (hexDigit (n / 16)) (hexDigit (n % 16)) = some n := by
  decide

lemma hexEscape_control {n : Nat} (hn : n < 32) (rest : List Char) :
    Gives (hexEscape ('0' :: '0' :: hexDigit (n / 16) :: hexDigit (n % 16) :: rest)) n rest := by
  have hl : ¬ byteLength ('0' :: '0' :: hexDigit (n / 16) :: hexDigit (n % 16) :: rest) < 4 := by
    have h₁ := (hexDigit (n / 16)).utf8Size_pos
    have h₂ := (hexDigit (n % 16)).utf8Size_pos
    have h₃ := ('0' : Char).utf8Size_pos
    simp only [byteLength, List.foldr_cons]
    omega
  refine ⟨by simp; omega, ?_⟩
  unfold hexEscape
  rw [if_neg hl]
  simp only [fourHex_control n hn]

lemma escape_control {c : Char} (hc : c.toNat < 32) (rest : List Char) :
    Gives (escape ('u' :: '0' :: '0' :: hexDigit (c.toNat / 16) :: hexDigit (c.toNat % 16) :: rest))
      c rest := by
  obtain ⟨h, hex⟩ := hexEscape_control hc rest
  have low : isLowSurrogate c.toNat = false := by simp [isLowSurrogate]; omega
  have high : isHighSurrogate c.toNat = false := by simp [isHighSurrogate]; omega
  refine ⟨Nat.lt_succ_of_lt h, ?_⟩
  simp [escape, unicodeEscape, hex, low, high]

lemma stringBody_plain {c : Char} (h : (c :: rest).length < s.length) (hq : c ≠ '"') (hb : c ≠ '\\')
    (hc : ¬ c.toNat < 0x20) :
    stringBody (s := s) read (c :: rest) h = stringBody (c :: read) rest (Nat.lt_of_succ_lt h) := by
  rw [stringBody, if_neg hq, if_neg hb, if_neg hc]

lemma stringBody_escape {x : List Char} {c : Char} (h : ('\\' :: x).length < s.length)
    (he : Gives (escape x) c rest) (h' : rest.length < s.length) :
    stringBody (s := s) read ('\\' :: x) h = stringBody (c :: read) rest h' := by
  obtain ⟨hr, he⟩ := he
  rw [stringBody, if_neg (by decide), if_pos rfl, he]

/-- A character of a string is written as itself or as an escape that stands for it. -/
lemma escapeChar_shape (c : Char) :
    (escapeChar c = [c] ∧ c ≠ '"' ∧ c ≠ '\\' ∧ ¬ c.toNat < 0x20) ∨
      ∃ x, escapeChar c = '\\' :: x ∧ ∀ rest, Gives (escape (x ++ rest)) c rest := by
  by_cases hn : ∃ x, (x, c) ∈ namedEscapes
  · obtain ⟨x, hx⟩ := hn
    obtain ⟨hc, he⟩ := namedEscapes_stand hx
    exact .inr ⟨[x], hc, he⟩
  · have hc : escapeChar c = if c.toNat < 0x20 then
        ['\\', 'u', '0', '0', hexDigit (c.toNat / 16), hexDigit (c.toNat % 16)] else [c] := by
      simp [namedEscapes] at hn
      simp [escapeChar, hn]
    by_cases hl : c.toNat < 0x20
    · exact .inr ⟨_, by rw [hc, if_pos hl], escape_control hl⟩
    · have hq : c ≠ '"' := fun h => hn ⟨'"', by simp [namedEscapes, h]⟩
      have hb : c ≠ '\\' := fun h => hn ⟨'\\', by simp [namedEscapes, h]⟩
      exact .inl ⟨by rw [hc, if_neg hl], hq, hb, hl⟩

theorem stringBody_chars (cs : List Char) (read : List Char)
    (h : (cs.flatMap escapeChar ++ '"' :: rest).length < s.length) :
    Gives (stringBody (s := s) read (cs.flatMap escapeChar ++ '"' :: rest) h)
      (String.ofList (read.reverse ++ cs)) rest := by
  induction cs generalizing read with
  | nil =>
    refine ⟨?_, ?_⟩
    · simp at h
      omega
    · simp [stringBody]
  | cons c cs ih =>
    have hr : (cs.flatMap escapeChar ++ '"' :: rest).length < s.length := by
      simp at h ⊢
      omega
    have hread : stringBody (s := s) read ((c :: cs).flatMap escapeChar ++ '"' :: rest) h =
        stringBody (c :: read) (cs.flatMap escapeChar ++ '"' :: rest) hr := by
      simp only [List.flatMap_cons, List.append_assoc] at h ⊢
      rcases escapeChar_shape c with ⟨hc, hq, hb, hl⟩ | ⟨x, hc, hx⟩
      · simp only [hc] at h ⊢
        exact stringBody_plain h hq hb hl
      · simp only [hc] at h ⊢
        exact stringBody_escape h (hx _) hr
    rw [hread]
    simpa using ih (c :: read) hr

lemma stringChars_append (t : String) :
    stringChars t ++ rest = '"' :: (t.toList.flatMap escapeChar ++ '"' :: rest) := by
  simp [stringChars]

lemma stringBody_text (t : String) (rest : List Char) :
    Gives (stringBody (s := '"' :: (t.toList.flatMap escapeChar ++ '"' :: rest)) []
      (t.toList.flatMap escapeChar ++ '"' :: rest) (Nat.lt_succ_self _)) t rest := by
  have h := stringBody_chars (s := '"' :: (t.toList.flatMap escapeChar ++ '"' :: rest)) t.toList []
    (Nat.lt_succ_self _)
  rwa [List.reverse_nil, List.nil_append, String.ofList_toList] at h

end Strings

/-! ## Integers -/

section Integers

variable {rest : List Char}

/-- Nothing at the head of the text could be the rest of a number. -/
def NumberEnds (rest : List Char) : Prop :=
  ∀ c ∈ rest.head?, isDigit c = false ∧ c ≠ '.' ∧ isExponentLetter c = false

lemma toDigits_shape (n : Nat) :
    ∃ c t, Nat.toDigits 10 n = c :: t ∧ isDigit c = true ∧ ∀ x ∈ t, isDigit x = true := by
  obtain ⟨c, t, hc⟩ := List.exists_cons_of_ne_nil (Nat.toDigits_ne_nil (n := n) (b := 10))
  have digit : ∀ x ∈ c :: t, isDigit x = true := by
    intro x hx
    have hd := Nat.isDigit_of_mem_toDigits (by decide) (by decide) (hc ▸ hx)
    simpa [Char.isDigit, isDigit, Char.le_def] using hd
  exact ⟨c, t, hc, digit c List.mem_cons_self, fun x hx => digit x (List.mem_cons_of_mem _ hx)⟩

lemma head_toDigits_ne_zero {n : Nat} (h : 0 < n) : (Nat.toDigits 10 n).head? ≠ some '0' := by
  induction n using Nat.strongRecOn with
  | ind n ih =>
    rw [Nat.toDigits_eq_if (by decide)]
    split
    · simp only [List.head?_cons, ne_eq, Option.some.injEq, Nat.digitChar_eq_zero]
      omega
    · have hd := ih (n / 10) (by omega) (by omega)
      obtain ⟨c, t, hc, -⟩ := toDigits_shape (n / 10)
      rw [hc] at hd ⊢
      exact hd

lemma toDigits_zero_head {n : Nat} {t : List Char} (h : Nat.toDigits 10 n = '0' :: t) : t = [] := by
  rcases Nat.eq_zero_or_pos n with rfl | hn
  · simpa using h.symm
  · exact absurd (by rw [h]; rfl) (head_toDigits_ne_zero hn)

lemma le_ofDigitChars (m : Nat) (ds : List Char) : m ≤ Nat.ofDigitChars 10 ds m := by
  induction ds generalizing m with
  | nil => simp
  | cons d ds ih =>
    rw [Nat.ofDigitChars_cons]
    have h := ih (10 * m + (d.toNat - '0'.toNat))
    omega

lemma appendDigits_ofDigitChars {limit m : Nat} {ds : List Char}
    (h : Nat.ofDigitChars 10 ds m ≤ limit) :
    appendDigits limit m ds = (Nat.ofDigitChars 10 ds m, 0) := by
  induction ds generalizing m with
  | nil => simp [appendDigits]
  | cons d ds ih =>
    have hm : Nat.ofDigitChars 10 (d :: ds) m = Nat.ofDigitChars 10 ds (m * 10 + digitValue d) := by
      rw [Nat.ofDigitChars_cons, Nat.mul_comm]
      rfl
    rw [hm] at h ⊢
    have hd : m * 10 + digitValue d ≤ limit := Nat.le_trans (le_ofDigitChars _ ds) h
    rw [appendDigits, if_pos hd, ih h]

theorem number_toDigits (negative : Bool) {n : Nat} (hn : n ≤ significandLimit)
    (hr : NumberEnds rest) :
    Gives (number negative (Nat.toDigits 10 n ++ rest)) (integerOfParts negative n) rest := by
  obtain ⟨c, t, hc, digit, digits⟩ := toDigits_shape n
  have ends : ∀ x ∈ rest.head?, isDigit x = false := fun x hx => (hr x hx).1
  have take : (t ++ rest).takeWhile isDigit = t := by
    rw [List.takeWhile_append_of_pos digits]
    cases rest <;> simp_all
  have drop : (t ++ rest).dropWhile isDigit = rest := by
    rw [List.dropWhile_append_of_pos digits]
    cases rest <;> simp_all
  have appended : appendDigits significandLimit 0 (c :: t) = (n, 0) := by
    rw [← hc, appendDigits_ofDigitChars] <;> rw [Nat.ofDigitChars_ten_toDigits]
    exact hn
  -- A leading zero is refused unless it is the whole number.
  have zero : ¬ (c = '0' ∧ 1 < (c :: t).length) := by
    rintro ⟨rfl, hl⟩
    rw [toDigits_zero_head hc] at hl
    exact Nat.lt_irrefl 1 hl
  rw [hc, List.cons_append]
  refine ⟨by rw [List.length_cons, List.length_append]; omega, ?_⟩
  simp only [number, digit, dif_pos, take, appended, if_neg zero]
  split
  · next hd =>
    rw [drop] at hd
    subst hd
    simp
  · next x more hd =>
    rw [drop] at hd
    subst hd
    obtain ⟨-, hp, he⟩ := hr x rfl
    simp [hp, he]

end Integers

end SteadyLink.Proofs
