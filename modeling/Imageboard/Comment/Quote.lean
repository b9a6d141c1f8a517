import Imageboard.Text.Search

/-! Quotes start on a line of their own. -/
namespace Imageboard.Comment
open Text

def quoteTag : String := "<span class=\"citate\""

def lineBreakTag : String := "<br>"

/-- What is written, with a line break at its end. -/
def withBreakAtEnd (out : List Char) : List Char :=
  if lineBreakTag.toList.isSuffixOf out then out else out ++ lineBreakTag.toList

/-- The comment when `out` is written and `s` is still to be read: what stands in front of the next
quote, a line break unless the output ends in one, and the quote. -/
def breakBeforeQuotesFrom (out s : List Char) : List Char :=
  match _hquote : splitFirst? quoteTag.toList s with
  | some (before, rest) =>
    breakBeforeQuotesFrom (withBreakAtEnd (out ++ before) ++ quoteTag.toList) rest
  | none => out ++ s
termination_by s.length
decreasing_by
  rw [splitFirst?_eq _hquote, List.length_append, List.length_append]
  exact Nat.lt_add_of_pos_left (Nat.add_pos_right _ (by decide))

def breakBeforeQuotes (comment : String) : String :=
  String.ofList (breakBeforeQuotesFrom [] comment.toList)

end Imageboard.Comment
