import Imageboard.Markup.Attributes

/-! Tokens of a page: tags and the text between them, each with the bytes it spans. -/
namespace Imageboard

inductive Token where
  /-- A tag `<name …>`; `selfClosing` when it is written `<name … />`. -/
  | openTag (name : String) (attributes : Attributes) (selfClosing : Bool)
  /-- A tag `</name>`, whether or not anything is open. -/
  | closeTag (name : String)
  /-- Text between tags. Comments, declarations and processing instructions are text too. -/
  | text (content : String)
  deriving DecidableEq

namespace Token

def name? : Token → Option String
  | openTag name _ _ => some name
  | closeTag name => some name
  | text _ => none

end Token

/-- A token and the offsets in the page where it starts and stops. -/
structure Located where
  token : Token
  start : Nat
  stop : Nat
  deriving DecidableEq

/-- Elements that have no content, however they are written. -/
def voidElements : List String :=
  ["area", "base", "br", "col", "embed", "hr", "img", "input", "link", "meta", "param",
   "source", "track", "wbr"]

def isVoidElement (name : String) : Bool := voidElements.contains name

end Imageboard
