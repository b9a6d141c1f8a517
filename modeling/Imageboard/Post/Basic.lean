import Imageboard.Address.Basic
import Imageboard.Calendar.Moment
import Imageboard.Text.Blank

/-! Posts, what they carry, and the threads they stand in. -/
namespace Imageboard

/-- A flag or badge beside the name of a poster. -/
structure Icon where
  address : Address
  title : String
  deriving DecidableEq

structure Attachment where
  file : Option Address := none
  /-- Files may be shown without one. -/
  thumbnail : Option Address := none
  /-- The name the file was uploaded by. -/
  uploadName : Option String := none
  /-- In bytes; 0 where the board does not tell, as for width and height. -/
  size : UInt64 := 0
  width : UInt32 := 0
  height : UInt32 := 0
  spoiler : Bool := false
  deriving DecidableEq

/-- Whether the board tells anything about the file itself. -/
def Attachment.hasSizeOrDimensions (a : Attachment) : Bool :=
  0 < a.size || 0 < a.width || 0 < a.height

structure Post where
  number : Option String := none
  /-- The number of the opening post of the thread, which has none itself. -/
  parentNumber : Option String := none
  subject : Option String := none
  name : Option String := none
  tripcode : Option String := none
  capcode : Option String := none
  /-- The mark of the poster on boards that give one for each thread. -/
  identifier : Option String := none
  email : Option String := none
  sage : Bool := false
  sticky : Bool := false
  /-- The thread drops its oldest replies and goes on. -/
  cyclical : Bool := false
  /-- The comment, as markup. -/
  comment : Option String := none
  /-- In milliseconds since the start of 1970 in UTC. -/
  timestamp : Option Int64 := none
  icons : List Icon := []
  attachments : List Attachment := []
  deriving DecidableEq

namespace Post

def isOpening (p : Post) : Bool := p.parentNumber.isNone

/-- The date and time of the post in UTC. -/
def dateTime? (p : Post) : Option String := p.timestamp.bind Moment.text?

/-- The post with one more part to its name, after a space; blank parts do not count. -/
def appendName (p : Post) (part : String) : Post :=
  match Text.nonblank? part with
  | none => p
  | some part =>
    { p with
      name :=
        match p.name with
        | some name => some (name ++ " " ++ part)
        | none => some part }

end Post

/-- The sum, or the largest number there is where it would be larger. -/
def addSaturating (a b : UInt32) : UInt32 :=
  UInt32.ofNat (min (a.toNat + b.toNat) (UInt32.size - 1))

/-- A thread with its posts in the order of the page. -/
structure Thread where
  posts : List Post := []
  /-- How many posts the thread has, those included that a board page leaves out. -/
  postsCount : UInt32 := 0
  /-- How many posts have files, where the board tells. -/
  filesCount : UInt32 := 0
  deriving DecidableEq

namespace Thread

def addPosts (t : Thread) (count : UInt32) : Thread :=
  { t with postsCount := addSaturating t.postsCount count }

def addFiles (t : Thread) (count : UInt32) : Thread :=
  { t with filesCount := addSaturating t.filesCount count }

def opening? (t : Thread) : Option Post := t.posts.head?

def number? (t : Thread) : Option String := t.opening?.bind (·.number)

end Thread

end Imageboard
