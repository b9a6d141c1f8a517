import Imageboard.Markup.Reference
import Imageboard.Text.Search

/-! The plain text of a piece of markup: line break tags become newlines, other tags and
comments are dropped, and character references are replaced. -/
namespace Imageboard.Comment
open Text

/-- What follows a line break tag that starts here. -/
def afterBreakTag? : List Char → Option (List Char)
  | '<' :: b :: r :: s =>
    if b.toLower == 'b' && r.toLower == 'r' then
      match s.dropWhile isBlank with
      | '/' :: '>' :: rest => some rest
      | '>' :: rest => some rest
      | _ => none
    else none
  | _ => none

/-- What follows a comment or tag that starts here. A comment that is never closed is a tag
like any other. -/
def afterTag? : List Char → Option (List Char)
  | '<' :: s =>
    let comment := (strip? ['!', '-', '-'] s).bind (splitFirst? ['-', '-', '>'])
    match comment, splitFirst? ['>'] s with
    | some (_, rest), _ => some rest
    | none, some (_, rest) => some rest
    | none, none => none
  | _ => none

def withLineBreaks (s : List Char) : List Char :=
  replaceAll (fun s => (afterBreakTag? s).map (['\n'], ·)) s

def withoutTags (s : List Char) : List Char := replaceAll (fun s => (afterTag? s).map ([], ·)) s

def plainText (markup : String) : String :=
  String.ofList (Reference.decode (withoutTags (withLineBreaks markup.toList)))

end Imageboard.Comment
