import Imageboard.Address.Basic
import Imageboard.Text.Blank
import Imageboard.Text.DecimalDigit

/-! Where the pages of a site are, and what its links lead to. -/
namespace Imageboard

inductive LocatorError where
  /-- The text of the base is no address. -/
  | unreadable (base : String) (cause : AddressError)
  /-- The base is an address, but not of a web page. -/
  | notWeb (base : Url)
  deriving DecidableEq

def LocatorError.message : LocatorError → String
  | unreadable base cause => "invalid locator: " ++ base ++ ": " ++ cause.message
  | notWeb base => "invalid locator: " ++ base.text ++ ": not an http(s) address"

/-- A site, told by the address at its root. -/
structure Locator where
  base : Url
  web : base.scheme = "http" ∨ base.scheme = "https"
  deriving DecidableEq

namespace Locator
open Text

def ofUrl (base : Url) : Except LocatorError Locator :=
  if h : base.scheme = "http" ∨ base.scheme = "https" then .ok ⟨base, h⟩ else .error (.notWeb base)

def ofText (base : String) : Except LocatorError Locator :=
  match Url.read none (trimmed base) with
  | .ok url => ofUrl url
  | .error cause => .error (.unreadable base cause)

/-! ### Addresses of the site -/

/-- How links begin that lead to no page. -/
def deadLinks : List String := ["javascript:", "data:"]

/-- Where a link on the site leads. -/
def resolve? (l : Locator) (link : String) : Option Url :=
  let link := trimmed link
  if link.isEmpty || deadLinks.any fun lead => startsWith lead link then none
  else (Url.read (some l.base) link).toOption

/-- The address that a post with the link carries. -/
def address? (l : Locator) (link : String) : Option Address :=
  (l.resolve? link).bind Address.ofUrl?

/-- The address below the root of the site that the segments name; empty ones do not count. -/
def path (l : Locator) (segments : List String) : Url :=
  l.base.withSegments (segments.filter fun segment => !segment.isEmpty)

def threadPage (l : Locator) (board number : String) : Url :=
  l.path [board, "res", number ++ ".html"]

/-! ### Links to threads -/

/-- What stands after the last slash. -/
def lastSegment (s : List Char) : List Char := (s.reverse.takeWhile (· != '/')).reverse

/-- What stands before `.html` at the end of a page name, and the post number that may follow it
after `#`. -/
def splitPage? (s : List Char) : Option (List Char × Option (List Char)) :=
  let reversed := s.reverse
  match strip? ".html".toList.reverse reversed with
  | some name => some (name.reverse, none)
  | none =>
    let post := (reversed.takeWhile isDecimalDigit).reverse
    if post.isEmpty then none
    else
      (strip? ".html#".toList.reverse (reversed.dropWhile isDecimalDigit)).map
        fun name => (name.reverse, some post)

/-- The first run of digits. -/
def firstDigits (s : List Char) : List Char :=
  (s.dropWhile fun c => !isDecimalDigit c).takeWhile isDecimalDigit

/-- The numbers of the thread and the post that a link such as `/b/res/123.html#456` leads to. -/
def threadPostNumbers? (link : String) : Option (String × Option String) := do
  let (name, post) ← splitPage? (lastSegment (trim link.toList))
  let thread := firstDigits name
  if thread.isEmpty then none else some (String.ofList thread, post.map String.ofList)

def threadNumber? (link : String) : Option String := (threadPostNumbers? link).map (·.1)

end Locator

end Imageboard
