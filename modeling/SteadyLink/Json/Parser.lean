import SteadyLink.Json.Number

/-!
# Reading JSON texts

Reading of JSON texts. Brackets may nest 127 deep; of two fields with one name the later one wins.
Each reader gives back the rest of the text with a proof that it is shorter.
-/

namespace SteadyLink.Json

def isSpace (c : Char) : Bool := c = ' ' || c = '\n' || c = '\t' || c = '\r'

def skipSpace (s : List Char) : List Char := s.dropWhile isSpace

theorem length_skipSpace_le (s : List Char) : (skipSpace s).length ≤ s.length :=
  (List.dropWhile_suffix _).length_le

theorem length_lt_of_skipSpace {s rest : List Char} {c : Char} (h : skipSpace s = c :: rest) :
    rest.length < s.length := by
  have hs := length_skipSpace_le s
  rw [h, List.length_cons] at hs
  exact hs

/-- The rest of a word of which the first letter has been read. -/
def word {s : List Char} (v : Json) :
    List Char → (r : List Char) → r.length < s.length → Parsed Json s
  | [], r, h => .ok (v, ⟨r, h⟩)
  | _ :: _, [], _ => .error (.behind .eofValue [])
  | x :: more, c :: r, h =>
    if c = x then word v more r (by simp at h; omega) else .error (.ahead .expectedIdent (c :: r))

def hexValue? (c : Char) : Option Nat :=
  if isDigit c then some (c.toNat - '0'.toNat)
  else if 'a' ≤ c ∧ c ≤ 'f' then some (c.toNat - 'a'.toNat + 10)
  else if 'A' ≤ c ∧ c ≤ 'F' then some (c.toNat - 'A'.toNat + 10)
  else none

def fourHex? (a b c d : Char) : Option Nat := do
  let a ← hexValue? a
  let b ← hexValue? b
  let c ← hexValue? c
  let d ← hexValue? d
  some (((a * 16 + b) * 16 + c) * 16 + d)

/-- Four hexadecimal digits. They are counted in bytes: where fewer than four bytes are left the
string has no end, and characters of several bytes are no digits. -/
def hexEscape (s : List Char) : Parsed Nat s :=
  if byteLength s < 4 then .error (.behind .eofString [])
  else
    match s with
    | a :: b :: c :: d :: r =>
      match fourHex? a b c d with
      | some n => .ok (n, ⟨r, by simp; omega⟩)
      | none => .error ⟨.invalidEscape, byteLength (a :: b :: c :: d :: r) - 4⟩
    | _ => .error ⟨.invalidEscape, byteLength s - 4⟩

def isHighSurrogate (n : Nat) : Bool := 0xD800 ≤ n && n ≤ 0xDBFF

def isLowSurrogate (n : Nat) : Bool := 0xDC00 ≤ n && n ≤ 0xDFFF

/-- The character that a pair of surrogates stands for. -/
def surrogatePair (high low : Nat) : Char :=
  Char.ofNat (0x10000 + (high - 0xD800) * 0x400 + (low - 0xDC00))

/-- The second half of a surrogate pair, with its own backslash. -/
def lowSurrogate (high : Nat) (s : List Char) : Parsed Char s :=
  match s with
  | [] => .error (.behind .eofString [])
  | '\\' :: [] => .error (.behind .eofString [])
  | '\\' :: 'u' :: r =>
    match hexEscape r with
    | .error e => .error e
    | .ok (low, ⟨r', h⟩) =>
      if isLowSurrogate low then .ok (surrogatePair high low, ⟨r', Nat.lt_succ_of_lt (Nat.lt_succ_of_lt h)⟩)
      else .error (.behind .loneSurrogate r')
  | '\\' :: c :: r => .error (.ahead .endOfHexEscape (c :: r))
  | c :: r => .error (.ahead .endOfHexEscape (c :: r))

/-- What follows the backslash and the letter u. -/
def unicodeEscape (s : List Char) : Parsed Char s :=
  match hexEscape s with
  | .error e => .error e
  | .ok (n, ⟨r, h⟩) =>
    if isLowSurrogate n then .error (.behind .loneSurrogate r)
    else if isHighSurrogate n then
      match lowSurrogate n r with
      | .error e => .error e
      | .ok (c, ⟨r', h'⟩) => .ok (c, ⟨r', by omega⟩)
    else .ok (Char.ofNat n, ⟨r, h⟩)

def escape (s : List Char) : Parsed Char s :=
  match s with
  | [] => .error (.behind .eofString [])
  | c :: r =>
    have hr : r.length < (c :: r).length := Nat.lt_succ_self _
    if c = '"' then .ok ('"', ⟨r, hr⟩)
    else if c = '\\' then .ok ('\\', ⟨r, hr⟩)
    else if c = '/' then .ok ('/', ⟨r, hr⟩)
    else if c = 'b' then .ok ('\x08', ⟨r, hr⟩)
    else if c = 'f' then .ok ('\x0c', ⟨r, hr⟩)
    else if c = 'n' then .ok ('\n', ⟨r, hr⟩)
    else if c = 'r' then .ok ('\r', ⟨r, hr⟩)
    else if c = 't' then .ok ('\t', ⟨r, hr⟩)
    else if c = 'u' then
      match unicodeEscape r with
      | .error e => .error e
      | .ok (x, ⟨r', h⟩) => .ok (x, ⟨r', Nat.lt_succ_of_lt h⟩)
    else .error (.ahead .invalidEscape (c :: r))

/-- What follows the opening quote of a string. `read` holds the characters read so far, the last
one first. -/
def stringBody {s : List Char} (read : List Char) (r : List Char) (h : r.length < s.length) :
    Parsed String s :=
  match r with
  | [] => .error (.behind .eofString [])
  | c :: r =>
    if c = '"' then .ok (String.ofList read.reverse, ⟨r, by simp at h; omega⟩)
    else if c = '\\' then
      match escape r with
      | .error e => .error e
      | .ok (x, ⟨r', h'⟩) => stringBody (x :: read) r' (by simp at h; omega)
    else if c.toNat < 0x20 then .error (.behind .controlCharacter r)
    else stringBody (c :: read) r (by simp at h; omega)
termination_by r.length

/-- The items of a list after its first one. `read` holds the items read so far, the last one
first. -/
def moreItems {s : List Char} (item : (t : List Char) → Parsed Json t) (read : List Json)
    (r : List Char) (h : r.length < s.length) : Parsed Json s :=
  match hs : skipSpace r with
  | [] => .error (.ahead .eofList [])
  | c :: rest =>
    have hr : rest.length < r.length := length_lt_of_skipSpace hs
    if c = ']' then .ok (arr read.reverse, ⟨rest, by omega⟩)
    else if c = ',' then
      match skipSpace rest with
      | [] => .error (.ahead .eofValue [])
      | d :: rest' =>
        if d = ']' then .error (.ahead .trailingComma (d :: rest'))
        else
          match item rest with
          | .error e => .error e
          | .ok (v, ⟨after, h'⟩) => moreItems item (v :: read) after (by omega)
    else .error (.ahead .expectedListCommaOrEnd (c :: rest))
termination_by r.length

/-- What follows the opening bracket of a list. -/
def list {s : List Char} (item : (t : List Char) → Parsed Json t) (r : List Char)
    (h : r.length < s.length) : Parsed Json s :=
  match hs : skipSpace r with
  | [] => .error (.ahead .eofList [])
  | c :: rest =>
    if c = ']' then
      .ok (arr [], ⟨rest, Nat.lt_trans (length_lt_of_skipSpace hs) h⟩)
    else
      match item r with
      | .error e => .error e
      | .ok (v, ⟨after, h'⟩) => moreItems item [v] after (by omega)

/-- One field: a name, a colon and a value. The text starts with the quote of the name. -/
def field (item : (t : List Char) → Parsed Json t) (r : List Char) : Parsed (String × Json) r :=
  match hs : skipSpace r with
  | [] => .error (.ahead .eofObject [])
  | c :: rest =>
    have hr : rest.length < r.length := length_lt_of_skipSpace hs
    if c = '"' then
      match stringBody [] rest hr with
      | .error e => .error e
      | .ok (name, ⟨after, h⟩) =>
        match hc : skipSpace after with
        | [] => .error (.ahead .eofObject [])
        | d :: value =>
          if d = ':' then
            match item value with
            | .error e => .error e
            | .ok (v, ⟨last, h'⟩) =>
              .ok ((name, v), ⟨last, by
                have hv := length_lt_of_skipSpace hc
                omega⟩)
          else .error (.ahead .expectedColon (d :: value))
    else .error (.ahead .keyMustBeString (c :: rest))

/-- The fields of an object after its first one, where a later field replaces an earlier one of the
same name. -/
def moreFields {s : List Char} (item : (t : List Char) → Parsed Json t) (read : Fields)
    (r : List Char) (h : r.length < s.length) : Parsed Json s :=
  match hs : skipSpace r with
  | [] => .error (.ahead .eofObject [])
  | c :: rest =>
    have hr : rest.length < r.length := length_lt_of_skipSpace hs
    if c = '\x7d' then .ok (obj read, ⟨rest, by omega⟩)
    else if c = ',' then
      match skipSpace rest with
      | [] => .error (.ahead .eofValue [])
      | d :: rest' =>
        if d = '\x7d' then .error (.ahead .trailingComma (d :: rest'))
        else
          match field item rest with
          | .error e => .error e
          | .ok ((name, v), ⟨after, h'⟩) =>
            moreFields item (read.insert name v) after (by omega)
    else .error (.ahead .expectedObjectCommaOrEnd (c :: rest))
termination_by r.length

/-- What follows the opening brace of an object. -/
def object {s : List Char} (item : (t : List Char) → Parsed Json t) (r : List Char)
    (h : r.length < s.length) : Parsed Json s :=
  match hs : skipSpace r with
  | [] => .error (.ahead .eofObject [])
  | c :: rest =>
    if c = '\x7d' then
      .ok (obj [], ⟨rest, Nat.lt_trans (length_lt_of_skipSpace hs) h⟩)
    else
      match field item r with
      | .error e => .error e
      | .ok ((name, v), ⟨after, h'⟩) => moreFields item (Fields.insert name v []) after (by omega)

/-- A value, in which brackets nest at most `depth` deep. -/
def value (depth : Nat) (s : List Char) : Parsed Json s :=
  match hs : skipSpace s with
  | [] => .error (.ahead .eofValue [])
  | c :: r =>
    have hr : r.length < s.length := length_lt_of_skipSpace hs
    if c = 'n' then word .null ['u', 'l', 'l'] r hr
    else if c = 't' then word (.bool true) ['r', 'u', 'e'] r hr
    else if c = 'f' then word (.bool false) ['a', 'l', 's', 'e'] r hr
    else if c = '-' then
      match number true r with
      | .error e => .error e
      | .ok (v, ⟨rest, h⟩) => .ok (v, ⟨rest, by omega⟩)
    else if isDigit c then
      match number false (c :: r) with
      | .error e => .error e
      | .ok (v, ⟨rest, h⟩) => .ok (v, ⟨rest, by simp at h; omega⟩)
    else if c = '"' then
      match stringBody [] r hr with
      | .error e => .error e
      | .ok (text, ⟨rest, h⟩) => .ok (.str text, ⟨rest, by omega⟩)
    else if c = '[' then
      match depth with
      | 0 => .error (.ahead .recursionLimit (c :: r))
      | depth + 1 => list (value depth) r hr
    else if c = '\x7b' then
      match depth with
      | 0 => .error (.ahead .recursionLimit (c :: r))
      | depth + 1 => object (value depth) r hr
    else .error (.ahead .expectedValue (c :: r))

/-- A text that starts with a brace is read as an object, unless it is nested too deep. -/
theorem value_brace {s r : List Char} (hs : skipSpace s = '\x7b' :: r) (depth : Nat) :
    value depth s =
      match depth with
      | 0 => .error (.ahead .recursionLimit ('\x7b' :: r))
      | d + 1 => object (value d) r (length_lt_of_skipSpace hs) := by
  unfold value
  split
  · next none => cases none.symm.trans hs
  · next c rest first =>
    obtain ⟨rfl, rfl⟩ := List.cons.inj (first.symm.trans hs)
    rfl

def depthLimit : Nat := 127

def parse (text : List Char) : Except ParseError Json :=
  match value depthLimit text with
  | .error e => .error e
  | .ok (v, ⟨rest, _⟩) =>
    match skipSpace rest with
    | [] => .ok v
    | c :: r => .error (.ahead .trailingCharacters (c :: r))

end SteadyLink.Json
