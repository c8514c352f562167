/-!
# Errors in JSON texts

Why a text is no JSON, and where.
-/

namespace SteadyLink.Json

inductive ParseCause where
  | eofValue
  | eofString
  | eofList
  | eofObject
  | expectedValue
  | expectedIdent
  | expectedColon
  | expectedListCommaOrEnd
  | expectedObjectCommaOrEnd
  | trailingComma
  | trailingCharacters
  | keyMustBeString
  | invalidNumber
  | numberOutOfRange
  | controlCharacter
  | invalidEscape
  | loneSurrogate
  | endOfHexEscape
  | recursionLimit
  deriving DecidableEq, Repr

def ParseCause.message : ParseCause → String
  | eofValue => "EOF while parsing a value"
  | eofString => "EOF while parsing a string"
  | eofList => "EOF while parsing a list"
  | eofObject => "EOF while parsing an object"
  | expectedValue => "expected value"
  | expectedIdent => "expected ident"
  | expectedColon => "expected `:`"
  | expectedListCommaOrEnd => "expected `,` or `]`"
  | expectedObjectCommaOrEnd => "expected `,` or `\x7d`"
  | trailingComma => "trailing comma"
  | trailingCharacters => "trailing characters"
  | keyMustBeString => "key must be a string"
  | invalidNumber => "invalid number"
  | numberOutOfRange => "number out of range"
  | controlCharacter => "control character (\\u0000-\\u001F) found while parsing a string"
  | invalidEscape => "invalid escape"
  | loneSurrogate => "lone leading surrogate in hex escape"
  | endOfHexEscape => "unexpected end of hex escape"
  | recursionLimit => "recursion limit exceeded"

/-- A cause, and how many bytes of the text lie behind the byte that is blamed. -/
structure ParseError where
  cause : ParseCause
  bytesLeft : Nat
  deriving DecidableEq, Repr

def byteLength (s : List Char) : Nat := s.foldr (fun c n => c.utf8Size + n) 0

/-- Blames the next byte of the rest, or the last byte of the text at its end. -/
def ParseError.ahead (cause : ParseCause) (rest : List Char) : ParseError :=
  ⟨cause, byteLength rest - 1⟩

/-- Blames the byte before the rest. -/
def ParseError.behind (cause : ParseCause) (rest : List Char) : ParseError :=
  ⟨cause, byteLength rest⟩

/-- Line and column after `offset` bytes. Lines count from one; the column is the number of bytes
since the line began. -/
def positionFrom (line column : Nat) : Nat → List Char → Nat × Nat
  | _, [] => (line, column)
  | offset, c :: rest =>
    if offset < c.utf8Size then (line, column + offset)
    else if c = '\n' then positionFrom (line + 1) 0 (offset - 1) rest
    else positionFrom line (column + c.utf8Size) (offset - c.utf8Size) rest

def ParseError.message (e : ParseError) (text : List Char) : String :=
  let (line, column) := positionFrom 1 0 (byteLength text - e.bytesLeft) text
  e.cause.message ++ " at line " ++ toString line ++ " column " ++ toString column

end SteadyLink.Json
