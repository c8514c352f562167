import SteadyLink.Url.Basic

/-!
# Reading URLs

Reading of URLs, absolute or relative to a base.
-/

namespace SteadyLink.Url

def isTrimmed (c : Char) : Bool := c.toNat ≤ 0x20

def isIgnored (c : Char) : Bool := c = '\t' || c = '\n' || c = '\r'

/-- The text without controls and blanks at its ends, and without tabs and line ends anywhere. -/
def clean (s : List Char) : List Char :=
  (((s.dropWhile isTrimmed).reverse.dropWhile isTrimmed).reverse).filter fun c => !isIgnored c

def isSchemeChar (c : Char) : Bool :=
  c.isAlphanum || c = '+' || c = '-' || c = '.'

def splitScheme? (s : List Char) : Option (List Char × List Char) :=
  match s with
  | [] => none
  | c :: _ =>
    if c.isAlpha then
      match s.dropWhile isSchemeChar with
      | ':' :: rest => some ((s.takeWhile isSchemeChar).map Char.toLower, rest)
      | _ => none
    else none

def isSlash (special : Bool) (c : Char) : Bool := c = '/' || (special && c = '\\')

def endsAuthority (special : Bool) (c : Char) : Bool :=
  isSlash special c || c = '?' || c = '#'

/-- User name and password, and what follows them. They end at the last `@` of the authority. -/
def splitCredentials (special : Bool) (s : List Char) :
    Except Problem (List Char × List Char × List Char) :=
  let authority := s.takeWhile fun c => !endsAuthority special c
  if authority.contains '@' then
    let host := (authority.reverse.takeWhile (· != '@')).reverse
    let user := authority.take (authority.length - host.length - 1)
    let rest := s.drop (user.length + 1)
    if user.isEmpty then
      match rest with
      | c :: _ => if endsAuthority special c then .error .emptyHost else .ok ([], [], rest)
      | [] => .ok ([], [], [])
    else
      let name := user.takeWhile (· != ':')
      let password := (user.dropWhile (· != ':')).drop 1
      .ok (encode inUserinfoSet name, encode inUserinfoSet password, rest)
  else .ok ([], [], s)

/-- The text of the host, and what follows it. A colon ends it, unless it stands between
brackets. -/
def splitHost (special : Bool) : Bool → List Char → List Char × List Char
  | _, [] => ([], [])
  | bracketed, c :: s =>
    if (c = ':' && !bracketed) || endsAuthority special c then ([], c :: s)
    else
      let bracketed := if c = '[' then true else if c = ']' then false else bracketed
      let (host, rest) := splitHost special bracketed s
      (c :: host, rest)

/-- The port behind the colon, and what follows it. -/
def readPort (n : Nat) (any : Bool) : List Char → Except Problem (Option Nat × List Char)
  | [] => .ok (if any then some n else none, [])
  | c :: s =>
    if c.isDigit then
      let n := n * 10 + (c.toNat - '0'.toNat)
      if 65535 < n then .error .invalidPort else readPort n true s
    else if c = '/' || c = '\\' || c = '?' || c = '#' then
      .ok (if any then some n else none, c :: s)
    else .error .invalidPort

/-- The port, if one is written that is not the scheme's own, and what follows it. -/
def splitPort (scheme s : List Char) : Except Problem (Option Nat × List Char) :=
  match s with
  | ':' :: rest => do
    let (port, rest) ← readPort 0 false rest
    return (if port = defaultPort? scheme then none else port, rest)
  | s => .ok (none, s)

/-- Two letters that name a drive: a letter and a colon or bar. -/
def isDriveLetter : List Char → Bool
  | [c, d] => c.isAlpha && (d = ':' || d = '|')
  | _ => false

def isNormalDriveLetter : List Char → Bool
  | [c, ':'] => c.isAlpha
  | _ => false

def isDot (s : List Char) : Bool := ["." , "%2e"].contains (String.ofList (s.map Char.toLower))

/-- Two dots, each of them perhaps encoded. -/
def isDoubleDot (s : List Char) : Bool :=
  ["..", ".%2e", "%2e.", "%2e%2e"].contains (String.ofList (s.map Char.toLower))

/-- The segments without the last one. The drive of a file is not dropped. -/
def shorten (file : Bool) (segments : List (List Char)) : List (List Char) :=
  match segments with
  | [drive] => if file && isNormalDriveLetter drive then segments else []
  | segments => segments.dropLast

/-- Appends a segment. Dots walk: one stays, two go up, and at the end of a path both leave an empty
segment behind. -/
def pushSegment (file last : Bool) (segments : List (List Char)) (segment : List Char) :
    List (List Char) :=
  if isDoubleDot segment then
    let shorter := shorten file segments
    if last then shorter ++ [[]] else shorter
  else if isDot segment then
    if last then segments ++ [[]] else segments
  else
    match segment with
    | [c, '|'] =>
      if file && segments.isEmpty && c.isAlpha then [[c, ':']] else segments ++ [segment]
    | _ => segments ++ [segment]

def endsPath (c : Char) : Bool := c = '?' || c = '#'

/-- Appends the segments of a path. `word` holds the characters of the current one, the last one
first. Gives the segments and what follows the path. -/
def readSegments (special file : Bool) (segments : List (List Char)) (word : List Char) :
    List Char → List (List Char) × List Char
  | [] => (pushSegment file true segments (encode inPathSet word.reverse), [])
  | c :: s =>
    if endsPath c then
      (pushSegment file true segments (encode inPathSet word.reverse), c :: s)
    else if isSlash special c then
      readSegments special file
        (pushSegment file false segments (encode inPathSet word.reverse)) [] s
    else readSegments special file segments (c :: word) s

/-- Query and fragment, from what follows the path. -/
def splitTail (special : Bool) (s : List Char) : Option (List Char) × Option (List Char) :=
  let fragmentOf (s : List Char) : Option (List Char) :=
    match s with
    | '#' :: fragment => some (encode inFragmentSet fragment)
    | _ => none
  match s with
  | '?' :: rest =>
    (some (encode (inQuerySet special) (rest.takeWhile (· != '#'))),
      fragmentOf (rest.dropWhile (· != '#')))
  | s => (none, fragmentOf s)

/-- The path behind a host, and what follows it. Special URLs always have one. -/
def pathAfterHost (special file : Bool) (s : List Char) : List (List Char) × List Char :=
  match s with
  | [] => if special then ([[]], []) else ([], [])
  | c :: rest =>
    if isSlash special c then readSegments special file [] [] rest
    else if !special && endsPath c then ([], c :: rest)
    else readSegments special file [] [] (c :: rest)

def afterSlashes (scheme s : List Char) : Except Problem Url := do
  let special := isSpecial scheme
  let (username, password, s) ← splitCredentials special s
  let (hostText, s) := splitHost special false s
  if hostText.isEmpty && special then throw .emptyHost
  let host ← if special then Host.ofText hostText else Host.ofPlainText hostText
  if hostText.isEmpty && s.head? = some ':' then throw .emptyHost
  let (port, s) ← splitPort scheme s
  if hostText.isEmpty && !(username.isEmpty && password.isEmpty) then throw .emptyHost
  let (segments, s) := pathAfterHost special false s
  let (query, fragment) := splitTail special s
  return ⟨scheme, username, password, some host, port, .segments segments, query, fragment⟩

/-- The segments of a file path: empty ones in front are dropped. -/
def fileSegments (segments : List (List Char)) : List (List Char) :=
  match segments.dropWhile List.isEmpty with
  | [] => [[]]
  | segments => segments

def fileUrl (host : Host) (s : List Char) : Url :=
  let (segments, s) := pathAfterHost true true s
  let segments := fileSegments segments
  let drive := (segments.head?.map isNormalDriveLetter).getD false
  let (query, fragment) := splitTail true s
  ⟨"file".toList, [], [], some (if drive then .name [] else host), none, .segments segments, query,
    fragment⟩

def afterFileScheme (s : List Char) : Except Problem Url :=
  match s with
  | a :: b :: rest =>
    if isSlash true a && isSlash true b then
      let hostText := rest.takeWhile fun c => !endsAuthority true c
      if hostText.isEmpty || isDriveLetter hostText then .ok (fileUrl (.name []) rest)
      else do
        let host ← Host.ofText hostText
        let host := if host = .name "localhost".toList then .name [] else host
        return fileUrl host (rest.drop hostText.length)
    else .ok (fileUrl (.name []) s)
  | s => .ok (fileUrl (.name []) s)

def afterPlainScheme (scheme s : List Char) : Except Problem Url :=
  match s with
  | '/' :: '/' :: rest => afterSlashes scheme rest
  | '/' :: rest =>
    let (segments, s) := readSegments false false [] [] rest
    let (query, fragment) := splitTail false s
    .ok ⟨scheme, [], [], none, none, .segments segments, query, fragment⟩
  | s =>
    let (query, fragment) := splitTail false (s.dropWhile fun c => !endsPath c)
    .ok ⟨scheme, [], [], none, none, .plain (encode isControl (s.takeWhile fun c => !endsPath c)),
      query, fragment⟩

def Path.parts : Path → List (List Char)
  | segments parts => parts
  | plain _ => []

/-- A reference without a scheme, against a base with a special scheme and a host. -/
def resolve (base : Url) (s : List Char) : Except Problem Url :=
  match s with
  | [] => .ok { base with fragment := none }
  | '#' :: _ => .ok { base with fragment := (splitTail true s).2 }
  | '?' :: _ =>
    let (query, fragment) := splitTail true s
    .ok { base with query, fragment }
  | c :: rest =>
    if isSlash true c then
      let slashes := s.takeWhile (isSlash true)
      if 2 ≤ slashes.length then
        match s with
        | '/' :: '/' :: after => afterSlashes base.scheme after
        | s => afterSlashes base.scheme (s.drop slashes.length)
      else
        let (segments, s) := readSegments true false [] [] rest
        let (query, fragment) := splitTail true s
        .ok { base with path := .segments segments, query, fragment }
    else
      let (segments, s) := readSegments true false base.path.parts.dropLast [] s
      let (query, fragment) := splitTail true s
      .ok { base with path := .segments segments, query, fragment }

/-- The URL that a text stands for, relative to a base if there is one. The base has a special
scheme other than `file`. -/
def parse (base : Option Url) (raw : String) : Except Problem Url :=
  let s := clean raw.toList
  match splitScheme? s with
  | some (scheme, rest) =>
    if isFile scheme then afterFileScheme rest
    else if isSpecial scheme then
      let slashes := rest.takeWhile (isSlash true)
      match base with
      | some base =>
        if slashes.length < 2 ∧ base.scheme = scheme then resolve base rest
        else afterSlashes scheme (rest.drop slashes.length)
      | none => afterSlashes scheme (rest.drop slashes.length)
    else afterPlainScheme scheme rest
  | none =>
    match base with
    | some base => resolve base s
    | none => .error .noBase

/-- The URL with another scheme of the same kind. A port that is the scheme's own is dropped. -/
def withScheme (u : Url) (scheme : List Char) : Url :=
  { u with scheme, port := if u.port = defaultPort? scheme then none else u.port }

end SteadyLink.Url
