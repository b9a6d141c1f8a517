import Imageboard.Markup.Attributes
import Imageboard.Text.Lowercase
import Imageboard.Text.Quoted
import Imageboard.Text.Search

/-! Patterns over a tag: its name and, at most, one of its attributes.

A pattern over an attribute never matches a tag without it, so that `contains` with an empty
part asks only for the attribute to be there. -/
namespace Imageboard

inductive TagPattern where
  | name (tag : String)
  | equals (tag key value : String)
  | startsWith (tag key lead : String)
  | contains (tag key part : String)
  | endsWith (tag key tail : String)
  deriving DecidableEq

namespace TagPattern

def tag : TagPattern → String
  | name tag => tag
  | equals tag _ _ => tag
  | startsWith tag _ _ => tag
  | contains tag _ _ => tag
  | endsWith tag _ _ => tag

def matchesAttributes (attributes : Attributes) : TagPattern → Bool
  | name _ => true
  | equals _ key value => attributes.get? key == some value
  | startsWith _ key lead => (attributes.get? key).any (Text.startsWith lead)
  | contains _ key part => (attributes.get? key).any (Text.contains part)
  | endsWith _ key tail => (attributes.get? key).any (Text.endsWith tail)

/-- Names and keys are compared as they are written: those of a page are in lower case. -/
def matchesTag (p : TagPattern) (tag : String) (attributes : Attributes) : Bool :=
  p.tag == tag && p.matchesAttributes attributes

/-- The pattern as a selector. -/
def selector : TagPattern → String
  | name tag => tag
  | equals tag key value => tag ++ "[" ++ key ++ "=" ++ Text.quoted value ++ "]"
  | startsWith tag key lead => tag ++ "[" ++ key ++ "^=" ++ Text.quoted lead ++ "]"
  | contains tag key part => tag ++ "[" ++ key ++ "*=" ++ Text.quoted part ++ "]"
  | endsWith tag key tail => tag ++ "[" ++ key ++ "$=" ++ Text.quoted tail ++ "]"

end TagPattern

end Imageboard
