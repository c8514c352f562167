import SteadyLink.Json.Error
import SteadyLink.Json.Value

/-!
# Reading JSON numbers

Reading of JSON numbers. Integers that fit 64 bits stay integers. All others are read as a
significand of at most 64 bits and a power of ten; the digits beyond the significand are dropped, so
that the result is near the exact value but not always the nearest.
-/

namespace SteadyLink.Json

open Number

/-- A result and the text behind it, which is shorter than the text that was read. -/
abbrev Parsed (α : Type) (s : List Char) :=
  Except ParseError (α × { r : List Char // r.length < s.length })

def isDigit (c : Char) : Bool := '0' ≤ c && c ≤ '9'

def digitValue (c : Char) : Nat := c.toNat - '0'.toNat

/-- Appends digits to `n` while it stays within `limit`. Gives the number and how many digits are
left over. -/
def appendDigits (limit n : Nat) : List Char → Nat × Nat
  | [] => (n, 0)
  | c :: rest =>
    let next := n * 10 + digitValue c
    if next ≤ limit then appendDigits limit next rest else (n, rest.length + 1)

def significandLimit : Nat := 18446744073709551615

/-- The largest exponent that is kept apart. -/
def exponentLimit : Nat := 2147483647

/-- An exponent within the 32 bits that hold it. -/
def clampExponent (e : Int) : Int := max (-2147483648) (min e 2147483647)

/-- `f * 10 ^ e` in steps of at most `10 ^ 308`, each rounded; `none` beyond the largest number. -/
def scaleByTen (f : Magnitude) (e : Int) : Option Magnitude :=
  if -308 ≤ e ∧ e ≤ 308 then
    if 0 ≤ e then
      let g := f.mul (.tenPower e.toNat)
      if g.isInfinite then none else some g
    else some (f.div (.tenPower (-e).toNat))
  else if f.isZero then some f
  else if 0 ≤ e then none
  else scaleByTen (f.div (.tenPower 308)) (e + 308)
termination_by (-e).toNat
decreasing_by omega

/-- The floating-point number `± significand * 10 ^ e`. -/
def floatOfParts (negative : Bool) (significand : Nat) (e : Int) : Option Json :=
  (scaleByTen (.ofNat significand) e).map (float negative)

/-- An integer, or a floating-point number where 64 bits do not hold it. Minus zero is one. -/
def integerOfParts (negative : Bool) (significand : Nat) : Json :=
  if negative then
    if significand = 0 ∨ 9223372036854775808 < significand then float true (.ofNat significand)
    else int (-significand)
  else int significand

theorem length_dropWhile_isDigit_le (s : List Char) :
    (s.dropWhile isDigit).length ≤ s.length :=
  (List.dropWhile_suffix _).length_le

def finishFloat {s : List Char} (negative : Bool) (significand : Nat) (e : Int) (rest : List Char)
    (h : rest.length < s.length) : Parsed Json s :=
  match floatOfParts negative significand e with
  | none => .error (.behind .numberOutOfRange rest)
  | some v => .ok (v, ⟨rest, h⟩)

/-- What follows the letter of an exponent. -/
def exponentPart {s : List Char} (negative : Bool) (significand : Nat) (e : Int) (r : List Char)
    (h : r.length < s.length) : Parsed Json s :=
  let up := r.head? != some '-'
  let unsigned := if r.head? = some '+' ∨ r.head? = some '-' then r.tail else r
  have hu : unsigned.length ≤ r.length := by
    simp only [unsigned]; split <;> simp
  let digits := unsigned.takeWhile isDigit
  let rest := unsigned.dropWhile isDigit
  have hr : rest.length < s.length :=
    Nat.lt_of_le_of_lt (Nat.le_trans (length_dropWhile_isDigit_le unsigned) hu) h
  if digits.isEmpty then
    if unsigned.isEmpty then .error (.behind .eofValue [])
    else .error (.ahead .invalidNumber unsigned)
  else
    let (x, unread) := appendDigits exponentLimit 0 digits
    if unread = 0 then
      finishFloat negative significand (clampExponent (if up then e + x else e - x)) rest hr
    else if significand ≠ 0 ∧ up then
      .error ⟨.numberOutOfRange, byteLength rest + (unread - 1)⟩
    else .ok (float negative .zero, ⟨rest, hr⟩)

def isExponentLetter (c : Char) : Bool := c = 'e' || c = 'E'

def fractionPart {s : List Char} (negative : Bool) (significand : Nat) (e : Int) (r : List Char)
    (h : r.length < s.length) : Parsed Json s :=
  let digits := r.takeWhile isDigit
  have hr := Nat.lt_of_le_of_lt (length_dropWhile_isDigit_le r) h
  if digits.isEmpty then
    .error (.ahead (if r.isEmpty then .eofValue else .invalidNumber) r)
  else
    let (significand, unread) := appendDigits significandLimit significand digits
    let e := e - (digits.length - unread : Nat)
    match hd : r.dropWhile isDigit with
    | [] => finishFloat negative significand e [] (by simp [hd] at hr; simpa using hr)
    | c :: rest =>
      have hc : rest.length < s.length := by rw [hd] at hr; simp at hr; omega
      if isExponentLetter c then exponentPart negative significand e rest hc
      else finishFloat negative significand e (c :: rest) (hd ▸ hr)

/-- A number without its sign. -/
def number (negative : Bool) (s : List Char) : Parsed Json s :=
  match hs : s with
  | [] => .error (.behind .eofValue [])
  | c :: r =>
    if hc : isDigit c then
      have hr : (r.dropWhile isDigit).length < (c :: r).length :=
        Nat.lt_succ_of_le (length_dropWhile_isDigit_le r)
      let digits := c :: r.takeWhile isDigit
      if c = '0' ∧ 1 < digits.length then .error (.ahead .invalidNumber r)
      else
        let (significand, unread) := appendDigits significandLimit 0 digits
        let whole (rest : List Char) (h : rest.length < (c :: r).length) : Parsed Json (c :: r) :=
          if unread = 0 then .ok (integerOfParts negative significand, ⟨rest, h⟩)
          else finishFloat negative significand unread rest h
        match hd : r.dropWhile isDigit with
        | [] => whole [] (by simp)
        | x :: rest =>
          have hx : rest.length < (c :: r).length := by rw [hd] at hr; simp at hr ⊢; omega
          if x = '.' then fractionPart negative significand unread rest hx
          else if isExponentLetter x then exponentPart negative significand unread rest hx
          else whole (x :: rest) (hd ▸ hr)
    else .error (.ahead .invalidNumber (c :: r))

end SteadyLink.Json
