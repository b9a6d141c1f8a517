import Imageboard.Text.Blank
import Imageboard.Text.Lowercase
import Imageboard.Text.Search

/-! The address in the mail link around the name of a poster. An address that holds `sage` is no
address: it asks the board not to bump the thread. -/
namespace Imageboard.Email
open Text

def isQuote (c : Char) : Bool := c == '"' || c == '\''

def isAddressCharacter (c : Char) : Bool := !(isQuote c || c == '>')

/-- The text without the quote it may begin with. -/
def withoutQuote : List Char → List Char
  | c :: s => if isQuote c then s else c :: s
  | [] => []

/-- The address in a mail link that starts here. -/
def linkHere? (s : List Char) : Option (List Char) := do
  let s ← stripFolded? "href".toList s
  let s ← strip? ['='] (s.dropWhile isBlank)
  let s ← stripFolded? "mailto:".toList (withoutQuote (s.dropWhile isBlank))
  some (s.takeWhile isAddressCharacter)

/-- The address in the first mail link. -/
def firstLink? : List Char → Option (List Char)
  | [] => none
  | c :: s =>
    match linkHere? (c :: s) with
    | some address => some address
    | none => firstLink? s

/-- The address in a piece of markup, without blanks around it. -/
def read? (markup : String) : Option String :=
  (firstLink? markup.toList).bind fun address => nonblank? (String.ofList address)

def asksForSage (address : String) : Bool := contains "sage" (lowercased address)

end Imageboard.Email
