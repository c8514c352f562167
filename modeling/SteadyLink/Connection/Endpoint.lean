import SteadyLink.Fault
import SteadyLink.Url.Parser

/-!
# Endpoints

Where a client connects to.
-/

namespace SteadyLink

structure Endpoint where
  url : Url
  deriving DecidableEq

namespace Endpoint

def plainScheme : List Char := "ws".toList

def secureScheme : List Char := "wss".toList

/-- The socket scheme that a scheme stands for: web pages are served beside their sockets. -/
def socketScheme? (scheme : List Char) : Option (List Char) :=
  match String.ofList scheme with
  | "ws" => some plainScheme
  | "http" => some plainScheme
  | "wss" => some secureScheme
  | "https" => some secureScheme
  | _ => none

/-- The endpoint that a text stands for, with a socket scheme. -/
def parse (raw : String) : Except ClientError Endpoint :=
  match Url.parse none raw with
  | .error p => .error (.invalidEndpoint raw p.message)
  | .ok url =>
    match socketScheme? url.scheme with
    | none =>
      .error (.invalidEndpoint raw
        ("unsupported scheme " ++ Text.quoted (String.ofList url.scheme)))
    | some scheme =>
      if url.hasHost then .ok ⟨url.withScheme scheme⟩
      else .error (.invalidEndpoint raw "missing host")

/-- The endpoint for a path on the server of a page. The path may be any reference. -/
def ofOrigin (origin path : String) : Except ClientError Endpoint :=
  match parse origin with
  | .error e => .error e
  | .ok base =>
    match Url.parse (some base.url) path with
    | .error p => .error (.invalidEndpoint (origin ++ path) p.message)
    | .ok url => .ok ⟨url⟩

def text (e : Endpoint) : String := e.url.text

def isSecure (e : Endpoint) : Bool := e.url.scheme = secureScheme

end Endpoint

end SteadyLink
