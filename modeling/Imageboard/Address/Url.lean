import Imageboard.Address.Host

/-! Addresses in parts, and their text. -/
namespace Imageboard

/-- Who and where an address points to. -/
structure Authority where
  username : String
  password : String
  host : String
  port : Option Nat
  deriving DecidableEq

inductive UrlPath where
  /-- A path without structure, as in `mailto:sage`. -/
  | rigid (text : String)
  /-- Segments, each with a slash before it. -/
  | segments (list : List String)
  deriving DecidableEq

structure Url where
  scheme : String
  authority : Option Authority
  path : UrlPath
  query : Option String
  fragment : Option String
  deriving DecidableEq

namespace Authority

def userinfo (a : Authority) : String :=
  if a.username.isEmpty && a.password.isEmpty then ""
  else a.username ++ (if a.password.isEmpty then "" else ":" ++ a.password) ++ "@"

def text (a : Authority) : String :=
  "//" ++ a.userinfo ++ a.host ++
    (match a.port with
    | some port => ":" ++ toString port
    | none => "")

end Authority

namespace Url

def segments (u : Url) : List String :=
  match u.path with
  | .rigid _ => []
  | .segments list => list

/-- Without an authority, a path that begins with two slashes is set off by `/.`, so that it
does not read as an authority. -/
def pathText (u : Url) : String :=
  match u.path with
  | .rigid text => text
  | .segments list =>
    let text := String.join (list.map ("/" ++ ·))
    match u.authority, list with
    | none, "" :: _ :: _ => "/." ++ text
    | _, _ => text

def text (u : Url) : String :=
  u.scheme ++ ":" ++
    (match u.authority with
    | some a => a.text
    | none => "") ++
    u.pathText ++
    (match u.query with
    | some query => "?" ++ query
    | none => "") ++
    (match u.fragment with
    | some fragment => "#" ++ fragment
    | none => "")

/-! ### Schemes -/

/-- The schemes whose addresses always have a host, with their usual ports. -/
def usualPorts : List (String × Nat) :=
  [("http", 80), ("https", 443), ("ws", 80), ("wss", 443), ("ftp", 21)]

def usualPort? (scheme : String) : Option Nat := usualPorts.lookup scheme

def isFile (scheme : String) : Bool := scheme == "file"

/-- Special schemes know domain names, and take a backslash for a slash. -/
def isSpecial (scheme : String) : Bool := (usualPort? scheme).isSome || isFile scheme

end Url

end Imageboard
