import Imageboard.Dictionary
import Imageboard.Json.Record
import Imageboard.Text.Blank

/-! What is known about a site and its boards: JSON values under keys, for the whole site or for
one board. -/
namespace Imageboard

inductive Scope where
  | site
  | board (name : String)
  deriving DecidableEq

structure Configuration where
  global : Dictionary Json := .empty
  boards : Dictionary (Dictionary Json) := .empty

namespace Configuration

def get? (c : Configuration) (scope : Scope) (key : String) : Option Json :=
  match scope with
  | .site => c.global.get? key
  | .board name => (c.boards.get? name).bind (·.get? key)

def set (c : Configuration) (scope : Scope) (key : String) (value : Json) : Configuration :=
  match scope with
  | .site => { c with global := c.global.insert key value }
  | .board name =>
    { c with boards := c.boards.insert name (((c.boards.get? name).getD .empty).insert key value) }

/-! ### Values of one type

A value of another type counts as absent. -/

def getBool (c : Configuration) (scope : Scope) (key : String) (default : Bool) : Bool :=
  ((c.get? scope key).bind Json.asBool?).getD default

def getInt64? (c : Configuration) (scope : Scope) (key : String) : Option Int64 :=
  (c.get? scope key).bind Json.asInt64?

def getString? (c : Configuration) (scope : Scope) (key : String) : Option String :=
  (c.get? scope key).bind Json.asString?

/-! ### Boards -/

namespace Key

def pagesCount : String := "pages_count"
def boardTitle : String := "board_title"
def bumpLimit : String := "bump_limit"
def spoilersEnabled : String := "spoilers_enabled"
def codeEnabled : String := "code_enabled"
def flagsEnabled : String := "flags_enabled"
def maxCommentLength : String := "max_comment_length"
def safeForWork : String := "safe_for_work"

end Key

/-- A count, which is an integer from 0 on below 2 ^ 32. -/
def asCount? (n : Int64) : Option UInt32 :=
  if 0 ≤ n.toInt ∧ n.toInt < UInt32.size then some (UInt32.ofNat n.toInt.toNat) else none

def storePagesCount (c : Configuration) (board : String) (pages : UInt32) : Configuration :=
  c.set (.board board) Key.pagesCount (Json.ofUInt32 pages)

def pagesCount? (c : Configuration) (board : String) : Option UInt32 :=
  (c.getInt64? (.board board) Key.pagesCount).bind asCount?

/-- Blank titles are not stored. -/
def storeBoardTitle (c : Configuration) (board title : String) : Configuration :=
  match Text.nonblank? title with
  | some title => c.set (.board board) Key.boardTitle (.string title)
  | none => c

def boardTitle? (c : Configuration) (board : String) : Option String :=
  c.getString? (.board board) Key.boardTitle

def storeBumpLimit (c : Configuration) (board : String) (limit : UInt32) : Configuration :=
  c.set (.board board) Key.bumpLimit (Json.ofUInt32 limit)

/-- The limit of the board, or else that of the site. -/
def bumpLimit? (c : Configuration) (board : String) : Option UInt32 :=
  ((c.getInt64? (.board board) Key.bumpLimit).orElse fun _ => c.getInt64? .site Key.bumpLimit).bind
    asCount?

/-! ### Documents that describe boards

A document is an object whose field `boards` is an array with an entry for each board. -/

/-- A number in an entry, 0 where there is none. -/
def entryInteger (entry : Json) (key : String) : Int64 := ((entry.field? key).bind Json.asInt64?).getD 0

/-- The board that an entry describes. -/
def entryBoard? (entry : Json) : Option String :=
  ((entry.field? "board").bind Json.asString?).filter fun board => !board.isEmpty

/-- Stores what an entry tells about a board. -/
def storeEntry (c : Configuration) (board : String) (entry : Json) : Configuration :=
  let integer (key : String) : Int64 := entryInteger entry key
  let setFlag (c : Configuration) (key field : String) : Configuration :=
    c.set (.board board) key (.bool (integer field != 0))
  let c := setFlag c Key.spoilersEnabled "spoilers"
  let c := setFlag c Key.codeEnabled "code_tags"
  let c := setFlag c Key.flagsEnabled "country_flags"
  let c :=
    match (asCount? (integer "bump_limit")).filter (0 < ·) with
    | some limit => c.storeBumpLimit board limit
    | none => c
  let length := integer "max_comment_chars"
  let c := if 0 < length then c.set (.board board) Key.maxCommentLength (Json.ofInt64 length) else c
  setFlag c Key.safeForWork "ws_board"

/-- The entries of a document that name a board, with their boards. -/
def boardEntries (document : Json) : List (String × Json) :=
  (((document.field? "boards").bind Json.asArray?).getD []).filterMap
    fun entry => (entryBoard? entry).map (·, entry)

/-- How many entries of a document tell about a board. -/
def updateCount (document : Json) : Nat := (boardEntries document).length

/-- Stores what a document tells about boards. -/
def update (c : Configuration) (document : Json) : Configuration :=
  (boardEntries document).foldl (fun c (board, entry) => c.storeEntry board entry) c

/-! ### As JSON -/

def dictionaryJson (write : α → Json) (d : Dictionary α) : Json :=
  .object (d.entries.map fun (key, value) => (key, write value))

def toJson (c : Configuration) : Json :=
  .object
    [("global", dictionaryJson id c.global), ("boards", dictionaryJson (dictionaryJson id) c.boards)]

/-- The values of an object, each of them read. -/
def dictionaryOfJson? (read : Json → Option α) (j : Json) : Option (Dictionary α) := do
  let fields ← j.asObject?
  let pairs ← fields.mapM fun (key, value) => (read value).map (key, ·)
  some (.ofList pairs)

/-- The fields of a configuration, of which any may be left out; from an array, the last. -/
def jsonFields? : Json → Option (List (String × Json))
  | .object fields => some fields
  | .array items => if items.length ≤ 2 then some (["global", "boards"].zip items) else none
  | _ => none

/-- A dictionary that is empty where the field is left out. -/
def dictionaryField? (fields : List (String × Json)) (name : String) (read : Json → Option α) :
    Option (Dictionary α) :=
  match fields.lookup name with
  | some value => dictionaryOfJson? read value
  | none => some .empty

def ofJson? (j : Json) : Option Configuration := do
  let fields ← jsonFields? j
  let global ← dictionaryField? fields "global" some
  let boards ← dictionaryField? fields "boards" (dictionaryOfJson? some)
  return { global, boards }

/-- How a configuration shows itself: what it holds is left out. -/
def display (_ : Configuration) : String := "ChanConfiguration \x7b .. \x7d"

end Configuration

end Imageboard
