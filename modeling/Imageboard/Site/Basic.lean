import Imageboard.Site.Erlach.Page
import Imageboard.Site.Wakaba.Page
import Imageboard.Post.Json

/-! The kinds of board sites, and what their pages list. -/
namespace Imageboard

inductive Site where
  | wakaba
  | erlach
  deriving DecidableEq

/-- What is asked of a page. -/
inductive Mode where
  /-- The threads of a board page. -/
  | threads
  /-- The posts of a thread page. -/
  | posts
  deriving DecidableEq

namespace Site

def name : Site → String
  | wakaba => "wakaba"
  | erlach => "erlach"

def all : List Site := [wakaba, erlach]

def ofExactName? (name : String) : Option Site := all.find? fun site => site.name == name

/-- The site of a name, in any letter case and with blanks around it. -/
def ofName? (text : String) : Option Site := ofExactName? (Text.lowercased (Text.trimmed text))

/-- Why a text names no site. -/
def unknownMessage (text : String) : String :=
  "unknown site " ++ Text.quoted (Text.lowercased (Text.trimmed text)) ++
    " (expected wakaba or erlach)"

def toJson (s : Site) : Json := .string s.name

/-- A site is written as its name, or as an object whose only field has that name and is null. -/
def ofJson? : Json → Option Site
  | .string name => ofExactName? name
  | .object [(name, .null)] => ofExactName? name
  | _ => none

/-- How the pages of a site list what is asked of them. -/
def listing : Site → Mode → Listing
  | _, .posts => .posts
  | wakaba, .threads => .threads false
  | erlach, .threads => .threads true

/-- Reads a page of a board of the site. -/
def readPage (site : Site) (locator : Locator) (board : String) (mode : Mode) (source : Source)
    (configuration : Configuration) : Except ReadError Collector × Configuration :=
  match site with
  | wakaba => Wakaba.readPage locator board true (site.listing mode) source configuration
  | erlach => (Erlach.readPage locator (site.listing mode) source, configuration)

end Site

/-- What was asked of a page, as JSON. -/
def Collector.toJson (mode : Mode) (c : Collector) : Json :=
  match mode with
  | .threads => Json.ofList Thread.toJson c.allThreads
  | .posts => Json.ofList Post.toJson c.allPosts

end Imageboard
