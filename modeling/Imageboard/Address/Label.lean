import Imageboard.Text.Composition
import Imageboard.Text.Direction
import Imageboard.Text.Joining

/-! What the labels of a domain name have to keep to so that each is read in one way: no mark
stands without its letter, no joiner where it would not show, and text of both directions does
not mix. -/
namespace Imageboard.Address

/-! ### Marks and joiners -/

/-- The class of the marks that take a letter its vowel. -/
def virama : Nat := 9

/-- Whether a joiner shows between the characters before it, the nearest first, and those
behind it. -/
def joinerFits (before : List Char) (c : Char) (behind : List Char) : Bool :=
  before.head?.any (Text.combiningClass · == virama) ||
    c == Text.nonJoiner && Text.isWithinStroke before behind

/-- Whether every joiner shows; `before` are the characters in front, the nearest first. -/
def joinersFit (before : List Char) : List Char → Bool
  | [] => true
  | c :: s => (!Text.isJoiner c || joinerFits before c s) && joinersFit (c :: before) s

/-- Whether a label beyond ASCII may stand in a domain name. -/
def isGoodLabel (label : List Char) : Bool :=
  !label.head?.any Text.isMark && joinersFit [] label

/-! ### Direction -/

/-- Whether a label keeps to the characters that one direction allows, and ends, its marks
aside, with a character that shows that direction. -/
def keepsTo (allowed last : List Text.Direction) (label : List Text.Direction) : Bool :=
  label.all (fun d => d == .mark || allowed.contains d) &&
    (label.reverse.find? (· != .mark)).all last.contains

/-- Whether a label among right-to-left ones is read in one direction, which its first
character shows. -/
def hasOneDirection (label : List Char) : Bool :=
  let directions := label.map Text.direction
  match directions with
  | [] => true
  | .left :: _ => keepsTo [.left, .european, .neutral] [.left, .european] directions
  | .right :: _ =>
    keepsTo [.right, .european, .arabic, .neutral] [.right, .european, .arabic] directions &&
      !(directions.contains .european && directions.contains .arabic)
  | _ => false

/-- Whether the labels of a domain name are read in one direction each. Only a domain name with
right-to-left characters has to care. -/
def keepDirections (labels : List (List Char)) : Bool :=
  !labels.any (·.any Text.isRightToLeft) || labels.all hasOneDirection

end Imageboard.Address
