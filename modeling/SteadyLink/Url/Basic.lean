import SteadyLink.Url.Host

/-!
# URLs

URLs by their parts, and their text.
-/

namespace SteadyLink.Url

/-- The way of a URL: segments behind slashes, or a plain text in URLs that have neither. -/
inductive Path where
  | segments (parts : List (List Char))
  | plain (text : List Char)
  deriving DecidableEq

def Path.text : Path → List Char
  | segments parts => parts.flatMap fun s => '/' :: s
  | plain text => text

end SteadyLink.Url

namespace SteadyLink

open Url in
/-- A URL. User name, password, path, query and fragment are percent-encoded. Where there is no host
there is no authority at all. -/
structure Url where
  scheme : List Char
  username : List Char
  password : List Char
  host : Option Host
  port : Option Nat
  path : Path
  query : Option (List Char)
  fragment : Option (List Char)
  deriving DecidableEq

namespace Url

/-- Schemes whose URLs always have a host and a path, and take a backslash for a slash. -/
def isSpecial (scheme : List Char) : Bool :=
  ["http", "https", "ws", "wss", "ftp", "file"].contains (String.ofList scheme)

def isFile (scheme : List Char) : Bool := String.ofList scheme = "file"

def defaultPort? (scheme : List Char) : Option Nat :=
  match String.ofList scheme with
  | "http" => some 80
  | "ws" => some 80
  | "https" => some 443
  | "wss" => some 443
  | "ftp" => some 21
  | _ => none

def credentialsText (u : Url) : List Char :=
  if u.username.isEmpty && u.password.isEmpty then []
  else
    u.username ++ (if u.password.isEmpty then [] else ':' :: u.password) ++ ['@']

/-- What stands between scheme and path. Without a host, a path that starts with two slashes is set
apart by a dot, so that it is not taken for a host. -/
def authorityText (u : Url) : List Char :=
  match u.host with
  | some host =>
    '/' :: '/' :: (u.credentialsText ++ host.text ++
      (match u.port with
      | some port => ':' :: Nat.toDigits 10 port
      | none => []))
  | none =>
    match u.path.text with
    | '/' :: '/' :: _ => ['/', '.']
    | _ => []

def chars (u : Url) : List Char :=
  u.scheme ++ ':' :: u.authorityText ++ u.path.text
    ++ (match u.query with
      | some query => '?' :: query
      | none => [])
    ++ (match u.fragment with
      | some fragment => '#' :: fragment
      | none => [])

def text (u : Url) : String := String.ofList u.chars

def hasHost (u : Url) : Bool :=
  match u.host with
  | some (.name []) => false
  | some _ => true
  | none => false

end Url

end SteadyLink
