/-! Days of the Gregorian calendar, which is taken to have always been in use.

Days are numbered from 1970-01-01, day 0. -/
namespace Imageboard

structure Date where
  year : Int
  /-- From 1 to 12. -/
  month : Nat
  /-- From 1 on. -/
  day : Nat
  deriving DecidableEq

namespace Date

def isLeapYear (year : Int) : Bool := year % 4 == 0 && (year % 100 != 0 || year % 400 == 0)

def monthLengths (year : Int) : List Nat :=
  [31, if isLeapYear year then 29 else 28, 31, 30, 31, 30, 31, 31, 30, 31, 30, 31]

/-- Leap days from the year 1 up to the end of `year`. -/
def leapDays (year : Int) : Int := year / 4 - year / 100 + year / 400

/-- The number of the first day of a year. -/
def yearStart (year : Int) : Int :=
  365 * (year - 1970) + leapDays (year - 1) - leapDays 1969

/-- The days of a year before a month. -/
def daysBefore (year : Int) (month : Nat) : Nat :=
  ((monthLengths year).take (month - 1)).foldl (· + ·) 0

def dayNumber (d : Date) : Int := yearStart d.year + daysBefore d.year d.month + (d.day - 1)

def isValid (d : Date) : Bool :=
  1 ≤ d.month && 1 ≤ d.day &&
    (match (monthLengths d.year)[d.month - 1]? with
    | some length => d.day ≤ length
    | none => false)

/-- The names of the days of the week in the order of the day numbers. -/
def weekdays : List String := ["thu", "fri", "sat", "sun", "mon", "tue", "wed"]

def weekday (d : Date) : Nat := (d.dayNumber % 7).toNat

/-! ### From a number to its day -/

/-- The month and day after `rest` days of a year, whose months from `month` on have the
lengths given. -/
def locate (month rest : Nat) : List Nat → Nat × Nat
  | [] => (month, rest + 1)
  | length :: later => if rest < length then (month, rest + 1) else locate (month + 1) (rest - length) later

/-- The year of a day: the mean length of a year finds it or one beside it. -/
def yearOf (number : Int) : Int :=
  let year := 1970 + number * 400 / 146097
  if number < yearStart year then year - 1
  else if yearStart (year + 1) ≤ number then year + 1
  else year

def ofDayNumber (number : Int) : Date :=
  let year := yearOf number
  let (month, day) := locate 1 (number - yearStart year).toNat (monthLengths year)
  ⟨year, month, day⟩

end Date

end Imageboard
