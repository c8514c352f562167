import SteadyLink.Url.Encoding

/-!
# Hosts

Hosts: names, IPv4 addresses in their many spellings, and IPv6 addresses. ASCII letters of names are
lowered; characters beyond ASCII are kept as they are.
-/

namespace SteadyLink.Url

inductive Problem where
  | emptyHost
  | invalidDomain
  | invalidDomainCharacter
  | invalidPort
  | invalidIpv4
  | invalidIpv6
  | noBase
  deriving DecidableEq, Repr

def Problem.message : Problem → String
  | emptyHost => "empty host"
  | invalidDomain => "invalid international domain name"
  | invalidDomainCharacter => "invalid domain character"
  | invalidPort => "invalid port number"
  | invalidIpv4 => "invalid IPv4 address"
  | invalidIpv6 => "invalid IPv6 address"
  | noBase => "relative URL without a base"

inductive Host where
  | name (s : List Char)
  | ipv4 (address : Nat)
  | ipv6 (pieces : List Nat)
  deriving DecidableEq

namespace Host

def splitDots : List Char → List (List Char)
  | [] => [[]]
  | c :: rest =>
    if c = '.' then [] :: splitDots rest
    else
      match splitDots rest with
      | [] => [[c]]
      | part :: parts => (c :: part) :: parts

/-- The number with the given digits in a base, if all of them are digits of that base. -/
def digitsIn? (base : Nat) (s : List Char) : Option Nat :=
  s.foldl (fun acc c => do
    let n ← acc
    let d ← hexDigit? c
    if d < base then some (n * base + d) else none) (some 0)

/-- One number of an IPv4 address: hexadecimal after `0x`, octal after `0`, else decimal. -/
def ipv4Number? (s : List Char) : Option Nat :=
  match s with
  | [] => none
  | '0' :: 'x' :: rest => digitsIn? 16 rest
  | '0' :: 'X' :: rest => digitsIn? 16 rest
  | '0' :: d :: rest => digitsIn? 8 (d :: rest)
  | s => digitsIn? 10 s

/-- The name must be an IPv4 address, because its last part is a number. -/
def endsInNumber (parts : List (List Char)) : Bool :=
  let check (last : List Char) : Bool :=
    (!last.isEmpty && last.all Char.isDigit) || (ipv4Number? last).isSome
  match parts.reverse with
  | [] => false
  | [] :: [] => false
  | [] :: last :: _ => check last
  | last :: _ => check last

/-- The address with the given numbers. All but the last are bytes; the last fills what is left. -/
def ipv4OfNumbers (numbers : List Nat) : Except Problem Nat :=
  match numbers.reverse with
  | [] => .error .invalidIpv4
  | last :: front =>
    let bytes := front.reverse
    if Nat.pow 256 (4 - bytes.length) ≤ last || bytes.any (255 < ·) then .error .invalidIpv4
    else
      .ok (bytes.zipIdx.foldl (fun n b => n + b.1 * Nat.pow 256 (3 - b.2)) last)

def ipv4OfParts (parts : List (List Char)) : Except Problem Nat :=
  let parts := if parts.getLast? = some [] then parts.dropLast else parts
  if 4 < parts.length then .error .invalidIpv4
  else
    match parts.mapM ipv4Number? with
    | none => .error .invalidIpv4
    | some numbers => ipv4OfNumbers numbers

/-- The four bytes of an IPv4 address at the end of an IPv6 address. Each is a decimal number
without a leading zero. -/
def embeddedIpv4? (s : List Char) : Option (List Nat) := do
  let bytes ← (splitDots s).mapM fun part =>
    match part with
    | [] => none
    | ['0'] => some 0
    | '0' :: _ => none
    | part => do
      let n ← digitsIn? 10 part
      if n ≤ 255 then some n else none
  match bytes with
  | [a, b, c, d] => some [a * 256 + b, c * 256 + d]
  | _ => none

/-- The pieces of an IPv6 address in reverse, as far as they have been read, and how many of them
stand before the gap. -/
structure Pieces where
  read : List Nat
  gap : Option Nat

/-- Pieces that are taken, counting the gap as one. -/
def Pieces.taken (p : Pieces) : Nat := p.read.length + if p.gap.isSome then 1 else 0

def Pieces.add (p : Pieces) (piece : Nat) : Pieces := { p with read := piece :: p.read }

/-- The eight pieces, with zeros in the gap. -/
def Pieces.complete? (p : Pieces) : Option (List Nat) :=
  let pieces := p.read.reverse
  match p.gap with
  | none => if pieces.length = 8 then some pieces else none
  | some n =>
    if pieces.length ≤ 8 then
      some (pieces.take n ++ List.replicate (8 - pieces.length) 0 ++ pieces.drop n)
    else none

/-- The rest of an IPv6 address. Every round reads at least one character, so that the number of
characters is enough fuel. -/
def ipv6Rest : Nat → Pieces → List Char → Option Pieces
  | _, p, [] => some p
  | 0, _, _ :: _ => none
  | fuel + 1, p, c :: s =>
    if p.taken = 8 then none
    else if c = ':' then
      if p.gap.isSome then none else ipv6Rest fuel { p with gap := some p.read.length } s
    else
      let digits := ((c :: s).take 4).takeWhile fun d => (hexDigit? d).isSome
      let rest := (c :: s).drop digits.length
      match digitsIn? 16 digits, rest with
      | none, _ => none
      | some piece, [] => some (p.add piece)
      | some piece, d :: rest =>
        if d = '.' then
          if digits.isEmpty || 6 < p.taken then none
          else
            match embeddedIpv4? (c :: s) with
            | some [high, low] => some ((p.add high).add low)
            | _ => none
        else if d = ':' then
          if rest.isEmpty then none else ipv6Rest fuel (p.add piece) rest
        else none

def ipv6? (s : List Char) : Option (List Nat) :=
  match s with
  | [] => none
  | [_] => none
  | ':' :: ':' :: rest => (ipv6Rest rest.length ⟨[], some 0⟩ rest).bind Pieces.complete?
  | ':' :: _ => none
  | s => (ipv6Rest s.length ⟨[], none⟩ s).bind Pieces.complete?

/-- What stands between brackets. -/
def ofBrackets (s : List Char) : Except Problem Host :=
  if s.getLast? = some ']' then
    match ipv6? s.dropLast with
    | some pieces => .ok (ipv6 pieces)
    | none => .error .invalidIpv6
  else .error .invalidIpv6

/-- Characters that no name may hold. -/
def isForbidden (c : Char) : Bool :=
  c.toNat ≤ 0x20 || c.toNat = 0x7F ||
    ['%', '#', '/', ':', '<', '>', '?', '@', '[', '\\', ']', '^', '|'].contains c

def ofText (s : List Char) : Except Problem Host :=
  match s with
  | '[' :: rest => ofBrackets rest
  | s =>
    match decode? s with
    | none => .error .invalidDomain
    | some s =>
      if s.isEmpty then .error .emptyHost
      else if s.any isForbidden then .error .invalidDomain
      else
        let s := s.map Char.toLower
        let parts := splitDots s
        if endsInNumber parts then (ipv4OfParts parts).map ipv4 else .ok (name s)

def ofPlainText (s : List Char) : Except Problem Host :=
  match s with
  | '[' :: rest => ofBrackets rest
  | s =>
    if s.any fun c =>
        ['\x00', '\t', '\n', '\r', ' ', '#', '/', ':', '<', '>', '?', '@', '[', '\\', ']', '^',
          '|'].contains c then
      .error .invalidDomainCharacter
    else .ok (name (encode isControl s))

def ipv4Text (address : Nat) : List Char :=
  let byte (k : Nat) : List Char := Nat.toDigits 10 (address / Nat.pow 256 k % 256)
  byte 3 ++ '.' :: byte 2 ++ '.' :: byte 1 ++ '.' :: byte 0

def zeroRun (pieces : List Nat) : Nat := (pieces.takeWhile (· == 0)).length

/-- Start and length of the first longest run of zeros. -/
def longestZeroRun (pieces : List Nat) : Nat × Nat :=
  (List.range pieces.length).foldl (fun best start =>
    let run := zeroRun (pieces.drop start)
    if best.2 < run then (start, run) else best) (0, 0)

def piecesText (pieces : List Nat) : List Char :=
  [':'].intercalate (pieces.map (Nat.toDigits 16))

/-- The pieces in hexadecimal, where two colons stand for the longest run of two zeros or more. -/
def ipv6Text (pieces : List Nat) : List Char :=
  let (start, run) := longestZeroRun pieces
  if run < 2 then piecesText pieces
  else piecesText (pieces.take start) ++ [':', ':'] ++ piecesText (pieces.drop (start + run))

def text : Host → List Char
  | name s => s
  | ipv4 address => ipv4Text address
  | ipv6 pieces => '[' :: ipv6Text pieces ++ [']']

end Host

end SteadyLink.Url
