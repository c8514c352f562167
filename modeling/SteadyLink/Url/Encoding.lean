import SteadyLink.Text.Quoted

/-!
# Percent-encoding

Percent-encoding: a byte as a percent sign and two hexadecimal digits.
-/

namespace SteadyLink.Url

/-- Two hexadecimal digits in upper case. -/
def byteDigits (b : UInt8) : List Char :=
  let digit (n : Nat) : Char := (Nat.digitChar n).toUpper
  [digit (b.toNat / 16), digit (b.toNat % 16)]

/-- The UTF-8 bytes of a character, percent-encoded. -/
def encodeChar (c : Char) : List Char :=
  (String.utf8EncodeChar c).flatMap fun b => '%' :: byteDigits b

/-- Controls and everything beyond ASCII. -/
def isControl (c : Char) : Bool := c.toNat < 0x20 || 0x7F ≤ c.toNat

def inFragmentSet (c : Char) : Bool := isControl c || [' ', '"', '<', '>', '`'].contains c

def inPathSet (c : Char) : Bool := inFragmentSet c || ['#', '?', '\x7b', '\x7d'].contains c

def inUserinfoSet (c : Char) : Bool :=
  inPathSet c || ['/', ':', ';', '=', '@', '[', '\\', ']', '^', '|'].contains c

def inQuerySet (special : Bool) (c : Char) : Bool :=
  isControl c || [' ', '"', '#', '<', '>'].contains c || (special && c = '\'')

def encode (set : Char → Bool) (s : List Char) : List Char :=
  s.flatMap fun c => if set c then encodeChar c else [c]

def hexDigit? (c : Char) : Option Nat :=
  if '0' ≤ c ∧ c ≤ '9' then some (c.toNat - '0'.toNat)
  else if 'a' ≤ c ∧ c ≤ 'f' then some (c.toNat - 'a'.toNat + 10)
  else if 'A' ≤ c ∧ c ≤ 'F' then some (c.toNat - 'A'.toNat + 10)
  else none

/-- The bytes of a text, where a percent sign and two digits stand for one byte. -/
def decodeBytes : List Char → List UInt8
  | [] => []
  | ['%'] => ['%'.toUInt8]
  | ['%', a] => '%'.toUInt8 :: String.utf8EncodeChar a
  | '%' :: a :: b :: rest =>
    match hexDigit? a, hexDigit? b with
    | some x, some y => UInt8.ofNat (x * 16 + y) :: decodeBytes rest
    | _, _ => '%'.toUInt8 :: decodeBytes (a :: b :: rest)
  | c :: rest => String.utf8EncodeChar c ++ decodeBytes rest

def decode? (s : List Char) : Option (List Char) :=
  (String.fromUTF8? ⟨(decodeBytes s).toArray⟩).map String.toList

end SteadyLink.Url
