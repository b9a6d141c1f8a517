import Imageboard.Rule.Source
import Imageboard.Site.Wakaba.Reading

/-! The rules of wakaba boards. -/
namespace Imageboard.Wakaba
open Entry Reading

/-- The order of the rules counts: the name of an administrator is matched before names in
general are. -/
def sheet : List (Entry Reading) :=
  [equals "input" "name" "delete", atTag checkbox,
   startsWith "td" "id" "reply", atTag reply,
   equals "span" "class" "filesize", atTag fileSize,
   name "a", askAtTag link, atContent linkText,
   startsWith "img" "class" "thumb", atTag thumbnail,
   startsWith "video" "class" "thumb", atTag video,
   equals "div" "class" "nothumb", atTag noThumbnail,
   equals "span" "class" "filetitle", equals "span" "class" "replytitle", atContent subject,
   equals "img" "class" "poster-country", atTag country,
   equals "span" "class" "posteruid", atContent identifier,
   equals "span" "class" "postername postername-admin", atContent capcode,
   startsWith "span" "class" "postername", atContent posterName,
   equals "span" "class" "postertrip", atContent tripcode,
   equals "span" "class" "posterdate", askAtTag date, atContent printedDate,
   equals "div" "class" "message", atContent message,
   equals "div" "class" "omittedposts", atContent omittedPosts,
   equals "div" "class" "logo", atContent logo,
   equals "span" "class" "reflink", atTag reflinkMark,
   endsWith "img" "src" "/icons/sticky.png", atTag sticky,
   endsWith "img" "src" "/icons/endless.png", atTag cyclical]

/-- What there is before a page is read. -/
def start (locator : Locator) (board : String) (namesFiles : Bool) (listing : Listing)
    (configuration : Configuration) : Reading where
  locator
  board
  namesFiles
  configuration
  collector := { listing }
  pagesCount := (configuration.pagesCount? board).getD 0

/-- Reads a page. What it tells about the board is kept even if reading fails. -/
def readPage (locator : Locator) (board : String) (namesFiles : Bool) (listing : Listing)
    (source : Source) (configuration : Configuration) :
    Except ReadError Collector × Configuration :=
  let (outcome, reading) :=
    readWithSheet sheet source (start locator board namesFiles listing configuration)
  (outcome.map fun _ => reading.collector, reading.configuration)

end Imageboard.Wakaba
