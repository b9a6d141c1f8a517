import Imageboard.Rule.Source
import Imageboard.Site.Erlach.Reading

/-! The rules of erlach boards. -/
namespace Imageboard.Erlach
open Entry Reading

/-- A block of omitted posts has a rule of its own, so that the posts in it are answered by
none. -/
def sheet : List (Entry Reading) :=
  [equals "div" "class" "content-title", atContent contentTitle,
   contains "div" "data-id" "", atTag block,
   equals "a" "class" "post-topic", atContent topic,
   contains "div" "data-ts" "", atTag timestamp,
   contains "img" "class" "media image", atTag image,
   name "canvas", atTag canvas,
   equals "div" "class" "omitted", atContent omitted,
   equals "div" "class" "post-message", atContent message,
   equals "div" "class" "post-header", atTag header,
   contains "span" "class" "info-posts-count", contains "span" "class" "info-images-count",
   atContent counter]

/-- What there is before a page is read. -/
def start (locator : Locator) (listing : Listing) : Reading where
  locator
  collector := { listing }

def readPage (locator : Locator) (listing : Listing) (source : Source) :
    Except ReadError Collector :=
  let (outcome, reading) := readWithSheet sheet source (start locator listing)
  outcome.map fun _ => reading.collector

end Imageboard.Erlach
