import Imageboard.Calendar.Date
import Imageboard.Numeral
import Imageboard.Text.Lowercase
import Imageboard.Text.Search

/-! Dates as boards print them beside a post: `21.05.23 Sun 12:00:00`, in the board's own time.

Every number has one or two digits, and blanks before it do not count. The day of the week has
to agree with the date. -/
namespace Imageboard

structure PrintedDate where
  date : Date
  hour : Nat
  minute : Nat
  /-- Up to 60, which is a leap second. -/
  second : Nat
  deriving DecidableEq

namespace PrintedDate
open Text

/-- The time zone of the boards, in seconds before UTC. -/
def zone : Int := 3 * 3600

def moment (p : PrintedDate) : Int :=
  1000 * (86400 * p.date.dayNumber + 3600 * p.hour + 60 * p.minute + p.second - zone)

def isValid (p : PrintedDate) : Bool :=
  p.date.isValid && p.hour < 24 && p.minute < 60 && p.second ≤ 60

/-- A number of at most two digits, and what follows it. -/
def readNumber? (s : List Char) : Option (Nat × List Char) :=
  let s := trimStart s
  let digits := (s.take 2).takeWhile Char.isDigit
  (Numeral.digits? 10 digits).map (·, s.drop digits.length)

/-- A number as `readNumber?` has it, after `mark`. -/
def readNext? (mark : Char) (s : List Char) : Option (Nat × List Char) :=
  (strip? [mark] s).bind readNumber?

/-- The number of the day of the week whose name starts here, and what follows it. -/
def readWeekday? (s : List Char) : Option (Nat × List Char) :=
  (Date.weekdays.findIdx? fun name => (stripFolded? name.toList s).isSome).map (·, s.drop 3)

/-- Years of two digits run from 1970 to 2069. -/
def fullYear (year : Nat) : Nat := if year < 70 then 2000 + year else 1900 + year

def read? (text : String) : Option PrintedDate := do
  let (day, s) ← readNumber? (trim text.toList)
  let (month, s) ← readNext? '.' s
  let (year, s) ← readNext? '.' s
  let (weekday, s) ← readWeekday? (trimStart s)
  let (hour, s) ← readNumber? s
  let (minute, s) ← readNext? ':' s
  let (second, s) ← readNext? ':' s
  let printed : PrintedDate := ⟨⟨fullYear year, month, day⟩, hour, minute, second⟩
  if s.isEmpty && printed.isValid && printed.date.weekday == weekday then some printed else none

/-- The moment that a printed date tells. -/
def moment? (text : String) : Option Int64 := (read? text).map fun p => Int64.ofInt p.moment

end PrintedDate

end Imageboard
