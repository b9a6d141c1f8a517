import Imageboard.Text.Search
import Imageboard.Text.Blank

/-! The notice that board pages put after a comment they cut short. -/
namespace Imageboard.Comment
open Text

def abbreviationNotice : String := "<div class=\"abbrev\">"

/-- The comment without blanks around it, and without its last notice and whatever stands
after that. -/
def withoutAbbreviation (comment : String) : String :=
  let comment := trim comment.toList
  String.ofList
    (match splitLast? abbreviationNotice.toList comment with
    | some (before, _) => trimEnd before
    | none => comment)

end Imageboard.Comment
