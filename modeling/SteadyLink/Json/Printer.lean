import SteadyLink.Json.Value
import SteadyLink.Number.Shortest

/-!
# Writing JSON

JSON values as compact text: no blanks, the fields in their order, only the escapes that JSON
demands, and floating-point numbers with the fewest digits that read back.
-/

namespace SteadyLink.Json

def hexDigit (n : Nat) : Char := Nat.digitChar n

def escapeChar (c : Char) : List Char :=
  if c = '"' then ['\\', '"']
  else if c = '\\' then ['\\', '\\']
  else if c = '\x08' then ['\\', 'b']
  else if c = '\x0c' then ['\\', 'f']
  else if c = '\n' then ['\\', 'n']
  else if c = '\r' then ['\\', 'r']
  else if c = '\t' then ['\\', 't']
  else if c.toNat < 0x20 then
    ['\\', 'u', '0', '0', hexDigit (c.toNat / 16), hexDigit (c.toNat % 16)]
  else [c]

def stringChars (s : String) : List Char :=
  '"' :: (s.toList.flatMap escapeChar ++ ['"'])

def intChars : Int → List Char
  | .ofNat n => Nat.toDigits 10 n
  | .negSucc n => '-' :: Nat.toDigits 10 (n + 1)

/-- Exponents of the leading digit that are written positionally are those from here … -/
def plainFrom : Int := -5

/-- … to here. -/
def plainUpTo : Int := 15

/-- A decimal, positionally with at least one place after the point, or with a signed exponent. -/
def decimalChars (d : Number.Decimal) : List Char :=
  let digits := Nat.toDigits 10 d.digits
  let lead : Int := d.exponent + digits.length - 1
  if plainFrom ≤ lead ∧ lead ≤ plainUpTo then
    if 0 ≤ d.exponent then digits ++ List.replicate d.exponent.toNat '0' ++ ['.', '0']
    else if 0 ≤ lead then
      digits.take (lead.toNat + 1) ++ '.' :: digits.drop (lead.toNat + 1)
    else '0' :: '.' :: (List.replicate (-lead - 1).toNat '0' ++ digits)
  else
    let mantissa :=
      match digits with
      | [] => []
      | [c] => [c]
      | c :: rest => c :: '.' :: rest
    let sign := if lead < 0 then '-' else '+'
    mantissa ++ 'e' :: sign :: Nat.toDigits 10 lead.natAbs

def floatChars (negative : Bool) (m : Number.Magnitude) : List Char :=
  let sign := if negative then ['-'] else []
  sign ++ if m.isZero then ['0', '.', '0'] else decimalChars m.shortest

mutual

def chars : Json → List Char
  | null => ['n', 'u', 'l', 'l']
  | bool true => ['t', 'r', 'u', 'e']
  | bool false => ['f', 'a', 'l', 's', 'e']
  | int n => intChars n
  | float negative m => floatChars negative m
  | str s => stringChars s
  | arr items => '[' :: (itemsChars items ++ [']'])
  | obj fields => '\x7b' :: (fieldsChars fields ++ ['\x7d'])

/-- Items with commas between them. -/
def itemsChars : List Json → List Char
  | [] => []
  | x :: rest => chars x ++ moreItemsChars rest

/-- Items with a comma before each. -/
def moreItemsChars : List Json → List Char
  | [] => []
  | x :: rest => ',' :: (chars x ++ moreItemsChars rest)

/-- Fields with commas between them. -/
def fieldsChars : List (String × Json) → List Char
  | [] => []
  | (k, x) :: rest => stringChars k ++ ':' :: (chars x ++ moreFieldsChars rest)

/-- Fields with a comma before each. -/
def moreFieldsChars : List (String × Json) → List Char
  | [] => []
  | (k, x) :: rest => ',' :: (stringChars k ++ ':' :: (chars x ++ moreFieldsChars rest))

end

def render (v : Json) : String := String.ofList v.chars

end SteadyLink.Json
