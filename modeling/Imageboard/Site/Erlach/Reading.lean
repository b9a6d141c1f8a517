import Imageboard.Comment.Anchor
import Imageboard.Comment.PlainText
import Imageboard.Comment.Quote
import Imageboard.Counter
import Imageboard.Locator
import Imageboard.Markup.Attributes
import Imageboard.Post.AttachmentSlot
import Imageboard.Post.Collector
import Imageboard.Text.Offset

/-! Reading a page of an erlach board, which prints post numbers in base 36.

A post begins at a block with its number, and its message completes it; the header of an opening
post is the boundary between threads. Comments are brought into the form that other boards
write: decimal post numbers, no `id` on anchors, and quotes on lines of their own. -/
namespace Imageboard.Erlach
open Comment Text

/-- A page in the middle of being read. -/
structure Reading where
  locator : Locator
  collector : Collector
  /-- The number of the opening post of the current thread. -/
  parent : Option String := none
  /-- The post in progress. -/
  post : Option Post := none
  slot : AttachmentSlot := {}

namespace Reading

def modifyPost (r : Reading) (f : Post → Post) : Reading := { r with post := r.post.map f }

/-- Trimmed plain text, or nothing where that is blank. -/
def field? (markup : String) : Option String := nonblank? (plainText markup)

/-! ### Posts and threads -/

/-- On a thread page the title of the page is the subject of the post that follows. -/
def contentTitle (text : String) (r : Reading) : Reading :=
  if r.collector.groupsThreads then r else { r with post := some { subject := field? text } }

def block (attributes : Attributes) (r : Reading) : Reading :=
  let number := Numeral.decimalOfBase36? (attributes.getD "data-id")
  let marks := attributes.getD "class"
  let isHead := contains "head" marks
  let post := r.post.getD {}
  { r with
    parent := if isHead then number else r.parent
    post := some
      { post with
        number
        parentNumber := if isHead then post.parentNumber else r.parent
        sage := contains "sage" marks } }

/-- The header of an opening post begins a thread. -/
def header (_ : Attributes) (r : Reading) : Reading :=
  { r with
    collector := r.collector.begin
    parent :=
      match r.post with
      | some post => post.number
      | none => r.parent
    post := r.post.map fun post => { post with parentNumber := none } }

/-- A comment in the form that other boards write. -/
def plainComment (comment : String) : String :=
  breakBeforeQuotes (withoutIds (renumberReferences Numeral.decimalOfBase36? comment))

/-- A message completes the post in progress. -/
def message (comment : String) (r : Reading) : Reading :=
  match r.post with
  | none => r
  | some post =>
    let post := { post with comment := some (plainComment comment), attachments := r.slot.committed }
    { r with post := none, slot := {}, collector := r.collector.push post }

def topic (text : String) (r : Reading) : Reading :=
  r.modifyPost fun post => { post with subject := field? text }

def timestamp (attributes : Attributes) (r : Reading) : Reading :=
  r.modifyPost fun post => { post with timestamp := Numeral.lenientInt64? (attributes.getD "data-ts") }

/-- Posts that a board page leaves out are not read. -/
def omitted (_ : String) (r : Reading) : Reading := r

/-! ### Images -/

/-- The thumbnail of an image: another ending in place of the last four bytes. -/
def thumbnailOf? (src : String) : Option String :=
  (dropLastBytes? 4 src.toList).map fun stem => String.ofList (stem ++ "-R256.jpg".toList)

def image (attributes : Attributes) (r : Reading) : Reading :=
  if r.post.isNone then r
  else
    let src := attributes.getD "src"
    let attachment : Attachment :=
      { file := r.locator.address? src
        thumbnail := (thumbnailOf? src).bind r.locator.address? }
    { r with slot := (r.slot.begin attachment).commit }

/-- The size of an image is told after it. -/
def canvas (attributes : Attributes) (r : Reading) : Reading :=
  { r with
    slot := r.slot.modifyLast fun a =>
      { a with
        width := (Numeral.lenientUInt32? (attributes.getD "width")).getD 0
        height := (Numeral.lenientUInt32? (attributes.getD "height")).getD 0 } }

/-! ### Counters -/

/-- What stands in a counter of images and in no other. -/
def imagesMark : String := "<span class=\"en\">I: </span>"

def counter (text : String) (r : Reading) : Reading :=
  match Counter.read? text with
  | none => r
  | some count =>
    { r with
      collector := r.collector.modifyCurrent fun thread =>
        if contains imagesMark text then thread.addFiles count else thread.addPosts count }

end Reading

end Imageboard.Erlach
