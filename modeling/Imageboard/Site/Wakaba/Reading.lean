import Imageboard.Calendar.PrintedDate
import Imageboard.Comment.Abbreviation
import Imageboard.Comment.PlainText
import Imageboard.Configuration
import Imageboard.Counter
import Imageboard.Locator
import Imageboard.Markup.Attributes
import Imageboard.Post.AttachmentSlot
import Imageboard.Post.Collector
import Imageboard.Post.Email

/-! Reading a page of a wakaba board: what each mark on the page does.

The file of an opening post comes first, then a checkbox, which is the boundary between threads,
then the names and dates of the post, and its message, which completes it. Replies begin at a
table cell. -/
namespace Imageboard.Wakaba
open Comment Text

/-- What the text of a link is for. -/
inductive LinkUse where
  | uploadName
  | pageNumber
  deriving DecidableEq

/-- A page in the middle of being read. -/
structure Reading where
  locator : Locator
  board : String
  /-- Whether the text of a file link is the name the file was uploaded by. -/
  namesFiles : Bool
  configuration : Configuration
  collector : Collector
  /-- The number of the opening post of the current thread. -/
  parent : Option String := none
  /-- The post in progress. -/
  post : Option Post := none
  slot : AttachmentSlot := {}
  /-- The largest number of pages known of the board. -/
  pagesCount : UInt32
  /-- Whether the next link is the one around the number of the post. -/
  reflink : Bool := false
  linkUse : Option LinkUse := none

namespace Reading

def modifyPost (r : Reading) (f : Post → Post) : Reading := { r with post := r.post.map f }

/-- The post in progress, or a new one. -/
def postOrNew (r : Reading) : Post := r.post.getD {}

/-- Trimmed plain text, or nothing where that is blank. -/
def field? (markup : String) : Option String := nonblank? (plainText markup)

/-! ### Posts and threads -/

/-- A checkbox begins a thread, unless a post with a number is in progress. -/
def checkbox (attributes : Attributes) (r : Reading) : Reading :=
  if attributes.get? "type" != some "checkbox" || r.post.any (·.number.isSome) then r
  else
    let number := nonblank? (attributes.getD "value")
    { r with
      post := some { r.postOrNew with number }
      parent := number
      collector := r.collector.begin }

/-- The number in the `id` of a reply. -/
def replyNumber? (id : String) : Option String :=
  (strip? "reply".toList id.toList).bind fun number => nonblank? (String.ofList number)

/-- A reply begins, and a post that was never completed is dropped. -/
def reply (attributes : Attributes) (r : Reading) : Reading :=
  { r with
    post := some { number := replyNumber? (attributes.getD "id"), parentNumber := r.parent }
    slot := {} }

/-- A message completes the post in progress. -/
def message (comment : String) (r : Reading) : Reading :=
  match r.post with
  | none => r
  | some post =>
    let post :=
      { post with
        comment := some (withoutAbbreviation comment)
        attachments := r.slot.committed }
    { r with post := none, slot := {}, collector := r.collector.push post }

def omittedPosts (text : String) (r : Reading) : Reading :=
  match Counter.read? text with
  | some count => { r with collector := r.collector.modifyCurrent (·.addPosts count) }
  | none => r

/-! ### Files -/

def fileSize (_ : Attributes) (r : Reading) : Reading :=
  { r with post := some r.postOrNew, slot := r.slot.begin {} }

def thumbnail (attributes : Attributes) (r : Reading) : Reading :=
  let src := attributes.getD "src"
  let mark (a : Attachment) : Attachment :=
    { a with
      thumbnail := if contains "/thumb/" src then r.locator.address? src else a.thumbnail
      spoiler := a.spoiler || contains "extras/icons/spoiler.png" src }
  { r with slot := (r.slot.modifyPending mark).commit }

def video (_ : Attributes) (r : Reading) : Reading := { r with slot := r.slot.commit }

/-- A file without a thumbnail is kept only where the board tells its size. -/
def noThumbnail (_ : Attributes) (r : Reading) : Reading :=
  { r with slot := r.slot.commitIf (·.hasSizeOrDimensions) }

/-! ### Links

Every link is answered by one rule: the link around a post number, links to files, and links to
other pages are told apart here. -/

/-- The link around the number of a post names its thread. -/
def followReflink (link : String) (r : Reading) : Reading :=
  match Locator.threadNumber? link with
  | none => r
  | some thread =>
    r.modifyPost fun post =>
      if post.parentNumber.isNone && post.number != some thread then
        { post with parentNumber := some thread }
      else post

/-- The file that a link adds to a pending attachment which has none yet. -/
def linkedFile? (link : String) (r : Reading) : Option Address :=
  match r.slot.pending with
  | some pending => if pending.file.isNone then r.locator.address? link else none
  | none => none

def withFile (file : Address) (attributes : Attributes) (a : Attachment) : Attachment :=
  { a with
    file := some file
    size := (Numeral.lenientUInt64? (attributes.getD "data-size")).getD 0
    width := (Numeral.lenientUInt32? (attributes.getD "data-width")).getD 0
    height := (Numeral.lenientUInt32? (attributes.getD "data-height")).getD 0 }

def link (attributes : Attributes) (r : Reading) : Bool × Reading :=
  let href := attributes.getD "href"
  if r.reflink then (false, followReflink href { r with reflink := false, linkUse := none })
  else
    match linkedFile? href r with
    | some file =>
      (r.namesFiles,
        { r with
          slot := r.slot.modifyPending (withFile file attributes)
          linkUse := if r.namesFiles then some .uploadName else none })
    | none =>
      if endsWith ".html" href then (true, { r with linkUse := some .pageNumber })
      else (false, { r with linkUse := none })

/-- The number of pages that a link to a page tells; the first page is page 0. -/
def pagesTold? (text : String) : Option UInt32 :=
  let digits := trim text.toList
  if digits.all Char.isDigit then
    (Numeral.natural? 10 (UInt32.size - 1) digits).map fun page => UInt32.ofNat (page + 1)
  else none

def pageLink (text : String) (r : Reading) : Reading :=
  match pagesTold? text with
  | none => r
  | some pages =>
    if r.pagesCount < pages then
      { r with
        pagesCount := pages
        configuration := r.configuration.storePagesCount r.board pages }
    else r

def linkText (text : String) (r : Reading) : Reading :=
  match r.linkUse with
  | some .uploadName =>
    { r with
      linkUse := none
      slot := r.slot.modifyPending fun a => { a with uploadName := field? text } }
  | some .pageNumber => pageLink text { r with linkUse := none }
  | none => r

def reflinkMark (_ : Attributes) (r : Reading) : Reading := { r with reflink := true }

/-! ### The head of a post -/

def subject (text : String) (r : Reading) : Reading :=
  r.modifyPost fun post => { post with subject := field? text }

def identifier (text : String) (r : Reading) : Reading :=
  r.modifyPost fun post => { post with identifier := field? text }

def capcode (text : String) (r : Reading) : Reading :=
  r.modifyPost fun post => { post with capcode := field? text }

def tripcode (text : String) (r : Reading) : Reading :=
  r.modifyPost fun post => { post with tripcode := field? text }

def withEmail (email : Option String) (post : Post) : Post :=
  match email with
  | none => post
  | some email =>
    if Email.asksForSage email then { post with sage := true } else { post with email := some email }

def posterName (markup : String) (r : Reading) : Reading :=
  r.modifyPost fun post => (withEmail (Email.read? markup) post).appendName (plainText markup)

def country (attributes : Attributes) (r : Reading) : Reading :=
  match attributes.get? "title", (attributes.get? "src").bind r.locator.address? with
  | some title, some address =>
    r.modifyPost fun post => { post with icons := post.icons ++ [⟨address, title⟩] }
  | _, _ => r

/-- A number of seconds in milliseconds. -/
def milliseconds? (seconds : Int64) : Option Int64 := Numeral.toInt64? (seconds.toInt * 1000)

/-- The moment that the tag around a date tells. -/
def toldMoment? (attributes : Attributes) : Option Int64 :=
  ((attributes.get? "data-timestamp").bind Numeral.lenientInt64?).bind milliseconds?

/-- Where the tag tells no moment, the printed date is wanted. -/
def date (attributes : Attributes) (r : Reading) : Bool × Reading :=
  let timestamp := toldMoment? attributes
  (r.post.isSome && timestamp.isNone, r.modifyPost fun post => { post with timestamp })

def printedDate (text : String) (r : Reading) : Reading :=
  r.modifyPost fun post => { post with timestamp := PrintedDate.moment? (plainText text) }

def sticky (_ : Attributes) (r : Reading) : Reading :=
  r.modifyPost fun post => { post with sticky := true }

def cyclical (_ : Attributes) (r : Reading) : Reading :=
  r.modifyPost fun post => { post with cyclical := true }

/-! ### The board -/

def logo (text : String) (r : Reading) : Reading :=
  { r with configuration := r.configuration.storeBoardTitle r.board (plainText text) }

end Reading

end Imageboard.Wakaba
