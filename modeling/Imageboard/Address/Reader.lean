import Imageboard.Address.Url
import Imageboard.Text.Lowercase

/-! Reading an address, on its own or relative to another.

Spaces and controls around an address are dropped, and tabs and line breaks anywhere in it. -/
namespace Imageboard
namespace Url
open Address

def isLineSpace (c : Char) : Bool := c == '\t' || c == '\n' || c == '\r'

def isEdge (c : Char) : Bool := c.toNat ≤ 32

def clean (s : List Char) : List Char :=
  ((s.dropWhile isEdge).reverse.dropWhile isEdge).reverse.filter fun c => !isLineSpace c

def isSlash (special : Bool) (c : Char) : Bool := c == '/' || special && c == '\\'

/-- Where the part of an address that begins it ends. -/
def isPathStart (special : Bool) (c : Char) : Bool := isSlash special c || c == '?' || c == '#'

/-! ### Schemes -/

def isSchemeCharacter (c : Char) : Bool := c.isAlphanum || c == '+' || c == '-' || c == '.'

/-- The scheme of an address in lower case, and what follows its colon. -/
def readScheme? (s : List Char) : Option (String × List Char) :=
  match s.head?, s.dropWhile isSchemeCharacter with
  | some c, ':' :: rest =>
    if c.isAlpha then some (String.ofList (Text.lowercase (s.takeWhile isSchemeCharacter)), rest)
    else none
  | _, _ => none

/-! ### Query and fragment -/

def readFragment (s : List Char) : Option String :=
  match s.dropWhile (· != '#') with
  | _ :: fragment => some (String.ofList (percentEncode fragmentSet fragment))
  | [] => none

def readQuery (special : Bool) (s : List Char) : Option String :=
  match (s.takeWhile (· != '#')).dropWhile (· != '?') with
  | _ :: query =>
    some (String.ofList (percentEncode (if special then specialQuerySet else querySet) query))
  | [] => none

/-- What stands before the query and the fragment. -/
def beforeQuery (s : List Char) : List Char := s.takeWhile fun c => c != '?' && c != '#'

/-! ### Paths -/

def isDriveLetter : List Char → Bool
  | [c, d] => c.isAlpha && (d == ':' || d == '|')
  | _ => false

/-- What follows a dot, plain or encoded. -/
def afterDot? : List Char → Option (List Char)
  | '.' :: s => some s
  | '%' :: '2' :: e :: s => if e.toLower == 'e' then some s else none
  | _ => none

def isDot (segment : List Char) : Bool := afterDot? segment == some []

def isDoubleDot (segment : List Char) : Bool := (afterDot? segment).bind afterDot? == some []

/-- The path one level up, except that nothing leads out of a drive. -/
def parent (path : List (List Char)) : List (List Char) :=
  if path.getLast?.any isDriveLetter then path else path.dropLast

/-- The path with a segment after it; a drive at the root of a file path is written with a
colon. -/
def child (file : Bool) (path : List (List Char)) (segment : List Char) : List (List Char) :=
  path ++ [if file && path.isEmpty && isDriveLetter segment then segment.take 1 ++ [':'] else segment]

/-- The path that leads from `path` along the segments, of which the last names a page. -/
def follow (file : Bool) (path : List (List Char)) : List (List Char) → List (List Char)
  | [] => path
  | [segment] =>
    if isDoubleDot segment then parent path ++ [[]]
    else if isDot segment then path ++ [[]]
    else child file path segment
  | segment :: rest =>
    follow file
      (if isDoubleDot segment then parent path
      else if isDot segment then path
      else child file path segment)
      rest

/-- The path that `s` writes, from the path that it starts at. -/
def readPath (scheme : String) (start : List (List Char)) (s : List Char) : List (List Char) :=
  let segments := Text.stretches (isSlash (isSpecial scheme)) (beforeQuery s)
  follow (isFile scheme) start (segments.map (percentEncode pathSet))

def segmentsPath (path : List (List Char)) : UrlPath := .segments (path.map String.ofList)

/-- The path of a file has no empty segments in front. -/
def filePath (path : List (List Char)) : List (List Char) :=
  match path.dropWhile List.isEmpty with
  | [] => [[]]
  | path => path

/-- The text without the slash it may begin with. -/
def withoutSlash (special : Bool) (s : List Char) : List Char :=
  match s with
  | c :: rest => if isSlash special c then rest else s
  | [] => []

/-! ### Authorities -/

def readUserinfo (s : List Char) : String × String :=
  let encode (s : List Char) := String.ofList (percentEncode userinfoSet s)
  (encode (s.takeWhile (· != ':')), encode ((s.dropWhile (· != ':')).drop 1))

/-- The host and what follows it: a colon outside brackets ends it. -/
def splitHost (bracketed : Bool) : List Char → List Char × List Char
  | [] => ([], [])
  | c :: s =>
    if c == ':' && !bracketed then ([], c :: s)
    else
      let (host, rest) := splitHost (c == '[' || bracketed && c != ']') s
      (c :: host, rest)

/-- The port that follows a host, unless it is the usual one of the scheme, and what follows
the port. -/
def readPort (scheme : String) (s : List Char) : Except AddressError (Option Nat × List Char) :=
  match s with
  | ':' :: s =>
    let digits := s.takeWhile Char.isDigit
    let rest := s.dropWhile Char.isDigit
    match Numeral.digits? 10 digits with
    | none => if rest.isEmpty || rest.head? == some '\\' then .ok (none, rest) else .error .invalidPort
    | some port =>
      if 65535 < port then .error .invalidPort
      else if rest.isEmpty || rest.head? == some '\\' then
        .ok (if usualPort? scheme == some port then none else some port, rest)
      else .error .invalidPort
  | _ => .ok (none, s)

/-- The authority after `//`, and what follows it. -/
def readAuthority (scheme : String) (s : List Char) :
    Except AddressError (Authority × List Char) := do
  let special := isSpecial scheme
  let written := s.takeWhile fun c => !isPathStart special c
  let rest := s.dropWhile fun c => !isPathStart special c
  let (info, place) := (Text.splitLast? ['@'] written).getD ([], written)
  if info.isEmpty && place.isEmpty && !written.isEmpty && !rest.isEmpty then throw .emptyHost
  let (username, password) := readUserinfo info
  let (name, afterName) := splitHost false place
  if name.isEmpty && (special || !afterName.isEmpty) then throw .emptyHost
  let host ← if special then domainHost name else opaqueHost name
  let (port, afterPort) ← readPort scheme afterName
  if host.isEmpty && !(username.isEmpty && password.isEmpty) then throw .emptyHost
  pure (⟨username, password, String.ofList host, port⟩, afterPort ++ rest)

/-! ### Addresses -/

def withPath (scheme : String) (authority : Option Authority) (path : UrlPath) (s : List Char) :
    Url :=
  ⟨scheme, authority, path, readQuery (isSpecial scheme) s, readFragment s⟩

/-- An address from its authority on. -/
def readFromAuthority (scheme : String) (s : List Char) : Except AddressError Url := do
  let (authority, rest) ← readAuthority scheme s
  let path :=
    if !isSpecial scheme && (beforeQuery rest).isEmpty then []
    else readPath scheme [] (withoutSlash (isSpecial scheme) rest)
  pure (withPath scheme (some authority) (segmentsPath path) rest)

/-- The address of the file at a path. A drive at the root leaves no host. -/
def fileAt (host : List Char) (path : List (List Char)) (s : List Char) : Url :=
  let host := if path.head?.any isDriveLetter then [] else host
  withPath "file" (some ⟨"", "", String.ofList host, none⟩) (segmentsPath (filePath path)) s

/-- An address after `file://`. Without a host the slash of the path counts as an empty segment,
so a drive behind it keeps its spelling; a drive in the place of the host is at the root. -/
def readFileHost (s : List Char) : Except AddressError Url := do
  let name := s.takeWhile fun c => !isPathStart true c
  let rest := s.drop name.length
  if isDriveLetter name then pure (fileAt [] (readPath "file" [] s) s)
  else
    let host ← if name.isEmpty then pure [] else domainHost name
    if host.isEmpty || host == "localhost".toList then
      pure (fileAt [] (readPath "file" [] rest) rest)
    else pure (fileAt host (readPath "file" [] (withoutSlash true rest)) rest)

/-- An address after the scheme `file:`. -/
def readFile (s : List Char) : Except AddressError Url :=
  let below := readPath "file" [] (withoutSlash true s)
  match s with
  | c :: d :: rest =>
    if isSlash true c && isSlash true d then readFileHost rest else .ok (fileAt [] below s)
  | _ => .ok (fileAt [] below s)

/-- An address whose scheme knows no domain names. -/
def readOther (scheme : String) (s : List Char) : Except AddressError Url :=
  match s with
  | '/' :: '/' :: rest => readFromAuthority scheme rest
  | '/' :: rest => .ok (withPath scheme none (segmentsPath (readPath scheme [] rest)) rest)
  | _ =>
    .ok (withPath scheme none (.rigid (String.ofList (percentEncode isControl (beforeQuery s)))) s)

/-- An address relative to one with a special scheme. -/
def readRelative (base : Url) (s : List Char) : Except AddressError Url :=
  let special := isSpecial base.scheme
  let start := base.segments.map String.toList
  match s with
  | [] => .ok { base with fragment := none }
  | '#' :: _ => .ok { base with fragment := readFragment s }
  | '?' :: _ => .ok (withPath base.scheme base.authority base.path s)
  | '/' :: '/' :: rest => readFromAuthority base.scheme rest
  | c :: rest =>
    if isSlash special c then
      if rest.head?.any (isSlash special) then
        readFromAuthority base.scheme (s.dropWhile (isSlash special))
      else
        .ok (withPath base.scheme base.authority (segmentsPath (readPath base.scheme [] rest)) rest)
    else
      .ok (withPath base.scheme base.authority
        (segmentsPath (readPath base.scheme start.dropLast s)) s)

/-- An address, which may be relative where there is a base. Only addresses with a special
scheme other than `file` are bases. -/
def read (base : Option Url) (text : String) : Except AddressError Url :=
  let s := clean text.toList
  match readScheme? s, base with
  | some (scheme, rest), _ =>
    if isFile scheme then readFile rest
    else if isSpecial scheme then
      let slashes := rest.takeWhile (isSlash true)
      match base with
      | some base =>
        if slashes.length < 2 && base.scheme == scheme then readRelative base rest
        else readFromAuthority scheme (rest.dropWhile (isSlash true))
      | none => readFromAuthority scheme (rest.dropWhile (isSlash true))
    else readOther scheme rest
  | none, some base => readRelative base s
  | none, none => .error .relativeWithoutBase

/-- The address with its path replaced by the segments, each of which stands for itself.
Dot segments are left out. -/
def withSegments (u : Url) (segments : List String) : Url :=
  let special := isSpecial u.scheme
  let add (path : List (List Char)) (segment : String) : List (List Char) :=
    if segment == "." || segment == ".." then path
    else
      let written := percentEncode (segmentSet special) (segment.toList.filter fun c => !isLineSpace c)
      follow (isFile u.scheme) (if path == [[]] then [] else path) [written]
  { u with path := segmentsPath (segments.foldl add [[]]) }

end Url

end Imageboard
