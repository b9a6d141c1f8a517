import Imageboard.Text.Replace
import Imageboard.Text.Search
import Imageboard.Text.WordCharacter

/-! Anchors in a comment: references to posts, and anchors that carry an `id`.

Both are recognised on one line, by the text that boards write for them. -/
namespace Imageboard.Comment
open Text

/-- What follows the next `needle`. -/
def past? (needle : String) (s : List Char) : Option (List Char) :=
  (splitFirst? needle.toList s).map (·.2)

/-- The text before the first place where `find?` finds something, and what it finds there. -/
def firstPlace? (find? : List Char → Option α) : List Char → Option (List Char × α)
  | [] => (find? []).map ([], ·)
  | c :: s =>
    match find? (c :: s) with
    | some a => some ([], a)
    | none => (firstPlace? find? s).map fun (before, a) => (c :: before, a)

/-- The pattern of a match that begins with `lead` and stays on one line; `find?` looks at the
rest of that line. -/
def onLine (lead : String) (find? : Match) : Match := fun s => do
  let body ← strip? lead.toList s
  let (new, rest) ← find? (body.takeWhile (· != '\n'))
  some (new, rest ++ body.dropWhile (· != '\n'))

/-! ### References to posts -/

/-- What follows the end tag of a reference. A tag may stand before it: the text from the first
`<` up to the first `>` that an end tag `</a>` follows counts as one. -/
def afterReferenceEnd? (s : List Char) : Option (List Char) :=
  match s with
  | '<' :: body =>
    match past? "></a>" body with
    | some rest => some rest
    | none => strip? "</a>".toList s
  | _ => none

/-- The post a reference names, from the `>` that ends its tag on, and what follows the
reference. -/
def referredPost? (s : List Char) : Option (List Char × List Char) := do
  let mark ← strip? ['>'] s
  let id ←
    match strip? ">>".toList mark with
    | some id => some id
    | none => strip? "&gt;&gt;".toList mark
  let post := id.takeWhile isWordCharacter
  if post.isEmpty then none
  else (afterReferenceEnd? (id.dropWhile isWordCharacter)).map (post, ·)

/-- The link address and the post of a reference, after `<a class="`, and what follows it. -/
def postReference? (s : List Char) : Option (List Char × List Char × List Char) := do
  let s ← past? "link" s
  let s ← past? "\"" s
  let s ← past? "href=\"" s
  let (address, s) ← splitFirst? ['"'] s
  let (_, post, rest) ← firstPlace? referredPost? s
  some (address, post, rest)

/-- A reference written plainly. -/
def writeReference (address number : List Char) : List Char :=
  "<a href=\"".toList ++ address ++ "\">&gt;&gt;".toList ++ number ++ "</a>".toList

def reference? (convert : String → Option String) : Match :=
  onLine "<a class=\"" fun s => do
    let (address, post, rest) ← postReference? s
    let number := ((convert (String.ofList post)).map String.toList).getD post
    some (writeReference address number, rest)

/-- The comment with its post references written plainly, each post number put through
`convert`; a number that cannot be converted stays. -/
def renumberReferences (convert : String → Option String) (comment : String) : String :=
  String.ofList (replaceAll (reference? convert) comment.toList)

/-! ### Anchors with an `id` -/

/-- What follows an `id` attribute that starts here, a space before it included. -/
def afterId? (s : List Char) : Option (List Char) := do
  let value ←
    match strip? " id=\"".toList s with
    | some value => some value
    | none => strip? "id=\"".toList s
  past? "\"" value

/-- An anchor up to the first `>` after its `id`, without the `id`. -/
def anchorWithId? : Match :=
  onLine "<a " fun s => do
    let (before, rest) ← firstPlace? afterId? s
    let (tail, rest) ← splitFirst? ['>'] rest
    some ("<a ".toList ++ before ++ tail ++ ['>'], rest)

/-- The comment without the `id` attributes of its anchors. -/
def withoutIds (comment : String) : String :=
  String.ofList (replaceAll anchorWithId? comment.toList)

end Imageboard.Comment
