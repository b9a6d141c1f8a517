import Imageboard.Charset.Basic
import Imageboard.Text.Blank
import Imageboard.Text.Search

/-! The charset of a page and its text.

A byte order mark comes first, then what the head of the page declares in a `meta` tag, and a
page that tells nothing is UTF-8. -/
namespace Imageboard
namespace Charset
open Text

/-! ### Byte order marks -/

def byteOrderMarks : List (List UInt8 × Charset) :=
  [([0xef, 0xbb, 0xbf], .utf8), ([0xfe, 0xff], .utf16 .bigEndian),
   ([0xff, 0xfe], .utf16 .littleEndian)]

/-- The charset of the mark that a page begins with, and what follows the mark. -/
def marked? (page : List UInt8) : Option (Charset × List UInt8) :=
  byteOrderMarks.findSome? fun (mark, charset) => (strip? mark page).map (charset, ·)

/-! ### Declarations -/

/-- Whether two letters are the same but for their case, the long s included. -/
def sameLetter (c d : Char) : Bool := c.toLower == d.toLower || c == 's' && d == 'ſ'

/-- What follows a word, whose letters may be written in either case. -/
def stripWord? : (word s : List Char) → Option (List Char)
  | [], s => some s
  | _ :: _, [] => none
  | c :: word, d :: s => if sameLetter c d then stripWord? word s else none

def isQuote (c : Char) : Bool := c == '"' || c == '\''

def isLabelCharacter (c : Char) : Bool := !(isQuote c || isBlank c || c == '/' || c == '>')

/-- The text without the quote it may begin with. -/
def withoutQuote : List Char → List Char
  | c :: s => if isQuote c then s else c :: s
  | [] => []

/-- The label that a declaration starting here gives. -/
def labelHere? (s : List Char) : Option (List Char) := do
  let s ← stripWord? "charset".toList s
  let s ← strip? ['='] (s.dropWhile isBlank)
  let label := (withoutQuote (s.dropWhile isBlank)).takeWhile isLabelCharacter
  if label.isEmpty then none else some label

/-- What a reader makes of the inside of a `meta` tag starting here, at the last place where it makes
something; at least one character stands before that place. -/
def insideMeta? (reader : List Char → Option (List Char)) (s : List Char) : Option (List Char) :=
  (stripWord? "<meta".toList s).bind fun s => readLast? reader ((s.takeWhile (· != '>')).drop 1)

/-- The label of the first `meta` tag that declares one. -/
def declaredLabel? : List Char → Option (List Char) := readFirst? (insideMeta? labelHere?)

/-! ### Declarations of a content type -/

/-- The label that a parameter of a content type starting here gives. -/
def parameterLabel? (s : List Char) : Option (List Char) := do
  let s ← strip? [';'] s
  let s ← stripWord? "charset".toList (s.dropWhile isBlank)
  let s ← strip? ['='] (s.dropWhile isBlank)
  let label := (s.dropWhile isBlank).takeWhile fun c => !(isQuote c || isBlank c || c == '>')
  if label.isEmpty then none else some label

/-- The label in the content that starts here. -/
def contentLabel? (s : List Char) : Option (List Char) := do
  let s ← stripWord? "content".toList s
  let s ← strip? ['='] (s.dropWhile isBlank)
  let content := withoutQuote (s.dropWhile isBlank)
  readLast? parameterLabel? (content.takeWhile fun c => !(isQuote c || c == '>'))

/-- The label in the content behind a `content-type` that starts here. A quote that closes
`content-type` may be the character that stands between the two. -/
def contentTypeHere? (s : List Char) : Option (List Char) := do
  let s ← stripWord? "http-equiv".toList s
  let s ← strip? ['='] (s.dropWhile isBlank)
  let s ← stripWord? "content-type".toList (withoutQuote (s.dropWhile isBlank))
  readLast? contentLabel? (s.drop 1)

/-- The label of the first `meta` tag that declares one for the content type. -/
def contentTypeLabel? : List Char → Option (List Char) := readFirst? (insideMeta? contentTypeHere?)

/-- How many bytes of a page are searched for a declaration. -/
def headSize : Nat := 1024

/-- The text of the head of a page as far as it is UTF-8. -/
def headText (page : List UInt8) : List Char := Charset.utf8.decode (page.take headSize)

/-! ### Pages -/

/-- The charset of a page without a byte order mark. The content type is asked for only where no
other declaration is found. -/
def declared (page : List UInt8) : Charset :=
  (((declaredLabel? (headText page)).or (contentTypeLabel? (headText page))).bind ofLabel?).getD .utf8

def ofPage (page : List UInt8) : Charset :=
  match marked? page with
  | some (charset, _) => charset
  | none => declared page

end Charset

/-- The text of a page, without its byte order mark. -/
def pageText (page : List UInt8) : List Char :=
  match Charset.marked? page with
  | some (charset, rest) => charset.decode rest
  | none => (Charset.declared page).decode page

end Imageboard
