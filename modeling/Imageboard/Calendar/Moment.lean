import Imageboard.Calendar.Date

/-! Moments in milliseconds since the start of 1970 in UTC, and their text. -/
namespace Imageboard.Moment

/-- A number in at least `width` digits. -/
def padded (width n : Nat) : String :=
  let digits := toString n
  String.ofList (List.replicate (width - digits.length) '0') ++ digits

def millisecondsPerDay : Int := 86400000

/-- A year in four digits, with a sign before it if those do not suffice. -/
def yearText (year : Int) : String :=
  if 0 ≤ year ∧ year ≤ 9999 then padded 4 year.toNat
  else (if year < 0 then "-" else "+") ++ padded 4 year.natAbs

def dateText (d : Date) : String :=
  yearText d.year ++ "-" ++ padded 2 d.month ++ "-" ++ padded 2 d.day

/-- A time of day; milliseconds are left out where there are none. -/
def timeText (milliseconds : Nat) : String :=
  let seconds := milliseconds / 1000
  padded 2 (seconds / 3600) ++ ":" ++ padded 2 (seconds / 60 % 60) ++ ":" ++ padded 2 (seconds % 60) ++
    (if milliseconds % 1000 = 0 then "" else "." ++ padded 3 (milliseconds % 1000))

/-- The first and the last year that have a text. -/
def firstYear : Int := -262143

def lastYear : Int := 262142

/-- The date and time of a moment in UTC. -/
def text? (moment : Int64) : Option String :=
  let date := Date.ofDayNumber (moment.toInt / millisecondsPerDay)
  if firstYear ≤ date.year ∧ date.year ≤ lastYear then
    some (dateText date ++ "T" ++ timeText (moment.toInt % millisecondsPerDay).toNat ++ "+00:00")
  else none

end Imageboard.Moment
