import Mathlib.Data.List.TakeWhile
import Mathlib.Tactic.IntervalCases
import Imageboard.Proofs.Calendar.Succession
import Imageboard.Proofs.Text.Blank

/-! Dates as boards write them, read again.

Every part of a written date is read as it was written, two digits for each number and the name of the
day of the week (`read?_written`). A date with the name of its own day tells the moment that many
days after the first of 1970, three hours ahead of UTC, and with any other name it tells none:
`moment?_written`. -/
namespace Imageboard.PrintedDate
open Text

/-- A number below 100 in two digits. -/
def twoDigits (n : Nat) : List Char := [Nat.digitChar (n / 10), Nat.digitChar (n % 10)]

/-- The days of the week, from the one that began the year 1970. -/
def weekdayNames : List String := ["Thu", "Fri", "Sat", "Sun", "Mon", "Tue", "Wed"]

/-- The name of the day of the week so many days after the first of 1970. -/
def weekdayName (n : Nat) : String := weekdayNames.getD (n % 7) ""

/-- A date and a time of day as boards write them, with a name for the day of the week. -/
def written (d : Date) (weekday : String) (hour minute second : Nat) : List Char :=
  twoDigits d.day ++ ['.'] ++ twoDigits d.month ++ ['.'] ++ twoDigits (d.year % 100).toNat ++ [' '] ++
    weekday.toList ++ [' '] ++ twoDigits hour ++ [':'] ++ twoDigits minute ++ [':'] ++
    twoDigits second

/-! ### Reading what is written -/

theorem digits?_twoDigits {n : Nat} (h : n < 100) : Numeral.digits? 10 (twoDigits n) = some n := by
  have hall : ∀ n < 100, Numeral.digits? 10 (twoDigits n) = some n := by decide
  exact hall n h

theorem isDigit_twoDigits {n : Nat} (h : n < 100) : ∀ c ∈ twoDigits n, c.isDigit = true := by
  have hall : ∀ n < 100, (twoDigits n).all Char.isDigit = true := by decide
  exact List.all_eq_true.mp (hall n h)

theorem not_isBlank_of_isDigit {c : Char} (h : c.isDigit = true) : isBlank c = false := by
  have hrange : '0'.toNat ≤ c.toNat ∧ c.toNat ≤ '9'.toNat := by
    simpa [Char.isDigit, UInt32.le_iff_toNat_le] using h
  have hzero : '0'.toNat = 48 := rfl
  have hnine : '9'.toNat = 57 := rfl
  exact not_isBlank_of_ascii (by omega) (by omega)

theorem readNumber?_twoDigits {n : Nat} (h : n < 100) (rest : List Char) :
    readNumber? (twoDigits n ++ rest) = some (n, rest) := by
  have hdigit := isDigit_twoDigits h
  have hstart : trimStart (twoDigits n ++ rest) = twoDigits n ++ rest :=
    List.dropWhile_cons_of_neg (by
      rw [not_isBlank_of_isDigit (hdigit _ List.mem_cons_self)]
      exact Bool.false_ne_true)
  have htake : (twoDigits n ++ rest).take 2 = twoDigits n := rfl
  have hall : (twoDigits n).takeWhile Char.isDigit = twoDigits n :=
    List.takeWhile_eq_self_iff.mpr hdigit
  rw [readNumber?, hstart, htake, hall, digits?_twoDigits h]
  rfl

theorem readNumber?_blank (s : List Char) : readNumber? (' ' :: s) = readNumber? s := rfl

theorem readNext?_twoDigits (mark : Char) {n : Nat} (h : n < 100) (rest : List Char) :
    readNext? mark (mark :: (twoDigits n ++ rest)) = some (n, rest) := by
  have hstrip : strip? [mark] (mark :: (twoDigits n ++ rest)) = some (twoDigits n ++ rest) :=
    if_pos (beq_self_eq_true mark)
  rw [readNext?, hstrip, Option.bind_some, readNumber?_twoDigits h]

/-- The name of a day of the week, after a blank, is read as the number of the day. -/
theorem readWeekday?_name {i : Nat} (h : i < 7) (rest : List Char) :
    readWeekday? (trimStart (' ' :: ((weekdayNames.getD i "").toList ++ rest))) = some (i, rest) := by
  interval_cases i <;> rfl

/-- The year of a century is known by its last two digits. -/
theorem fullYear_lastDigits {year : Int} (h : 1970 ≤ year ∧ year ≤ 2069) :
    (fullYear (year % 100).toNat : Int) = year := by
  unfold fullYear
  split <;> omega

section
variable {d : Date} {hour minute second : Nat} {before after : List Char}

theorem trim_written (weekday : String) (hday : d.day < 100) (hsecond : second < 100)
    (hbefore : ∀ c ∈ before, isBlank c = true) (hafter : ∀ c ∈ after, isBlank c = true) :
    trim (before ++ written d weekday hour minute second ++ after) =
      written d weekday hour minute second := by
  refine trim_surrounded hbefore hafter (fun c hc => ?_) fun c hc => ?_
  · obtain rfl := Option.some.inj hc
    exact not_isBlank_of_isDigit (isDigit_twoDigits hday _ List.mem_cons_self)
  · rw [written, List.getLast?_append] at hc
    obtain rfl := Option.some.inj hc
    exact not_isBlank_of_isDigit
      (isDigit_twoDigits hsecond _ (List.mem_cons_of_mem _ List.mem_cons_self))

/-- A written date is read as it was written, if its day of the week is the right one. -/
theorem read?_written (hd : d.isValid = true) (hyear : 1970 ≤ d.year ∧ d.year ≤ 2069)
    (hhour : hour < 24) (hminute : minute < 60) (hsecond : second < 60) {i : Nat} (hi : i < 7)
    (hbefore : ∀ c ∈ before, isBlank c = true) (hafter : ∀ c ∈ after, isBlank c = true) :
    read? (String.ofList
        (before ++ written d (weekdayNames.getD i "") hour minute second ++ after)) =
      if d.weekday = i then some ⟨d, hour, minute, second⟩ else none := by
  obtain ⟨-, hmonth, -, hday⟩ := Date.bounds_of_isValid hd
  rw [read?, String.toList_ofList,
    trim_written _ (by omega : d.day < 100) (by omega : second < 100) hbefore hafter, written]
  simp only [List.append_assoc, List.cons_append, List.nil_append]
  have hdate : (⟨(fullYear (d.year % 100).toNat : Nat), d.month, d.day⟩ : Date) = d := by
    rw [fullYear_lastDigits hyear]
  have hend : readNext? ':' (':' :: twoDigits second) = some (second, []) := by
    rw [← List.append_nil (twoDigits second), readNext?_twoDigits ':' (by omega)]
  have htime : (⟨d, hour, minute, second⟩ : PrintedDate).isValid = true := by
    simp [isValid, hd, hhour, hminute, Nat.le_of_lt hsecond]
  simp only [readNumber?_twoDigits (show d.day < 100 by omega),
    readNext?_twoDigits '.' (show d.month < 100 by omega),
    readNext?_twoDigits '.' (show (d.year % 100).toNat < 100 by omega), readWeekday?_name hi,
    readNumber?_blank, readNumber?_twoDigits (show hour < 100 by omega),
    readNext?_twoDigits ':' (show minute < 100 by omega), hend, Option.bind_eq_bind,
    Option.bind_some, hdate, htime, List.isEmpty_nil, Bool.true_and, beq_iff_eq]

/-- A written date with the name of its day tells the moment at which clocks three hours ahead of UTC
show it, counted in days from the first of 1970; with the name of another day it tells nothing. -/
theorem moment?_written (hd : d.isValid = true) (hyear : 1970 ≤ d.year ∧ d.year ≤ 2069)
    (hhour : hour < 24) (hminute : minute < 60) (hsecond : second < 60)
    (hbefore : ∀ c ∈ before, isBlank c = true) (hafter : ∀ c ∈ after, isBlank c = true) :
    ∃ n : Nat, Date.dayAfter n = d ∧
      (moment? (String.ofList
          (before ++ written d (weekdayName n) hour minute second ++ after))).map Int64.toInt =
        some (1000 * (86400 * (n : Int) + (3600 * hour + 60 * minute + second) - 10800)) ∧
      ∀ weekday ∈ weekdayNames, weekday ≠ weekdayName n →
        moment? (String.ofList (before ++ written d weekday hour minute second ++ after)) = none := by
  obtain ⟨n, hdays, hnumber⟩ := Date.exists_dayAfter hd hyear.1
  have hweekday : d.weekday = n % 7 := by
    unfold Date.weekday
    omega
  refine ⟨n, hdays, ?_, fun weekday hmem hother => ?_⟩
  · have hread := read?_written hd hyear hhour hminute hsecond (Nat.mod_lt n (by decide)) hbefore hafter
    rw [if_pos hweekday] at hread
    rw [weekdayName, moment?, hread]
    rw [Option.map_some, Option.map_some, moment_exact hread, moment, zone]
    dsimp only
    rw [hnumber]
    exact congrArg some (by omega)
  · obtain ⟨i, hi, rfl⟩ := List.getElem_of_mem hmem
    have hname : weekdayNames[i] = weekdayNames.getD i "" := by
      rw [List.getD_eq_getElem?_getD, List.getElem?_eq_getElem hi, Option.getD_some]
    rw [hname] at hother ⊢
    have hwrong : d.weekday ≠ i := by
      rintro rfl
      exact hother (hweekday ▸ rfl)
    rw [moment?, read?_written hd hyear hhour hminute hsecond hi hbefore hafter, if_neg hwrong]
    rfl

/-- The evening before the first of March in a leap year, read with blanks around it. -/
theorem moment?_leap_day :
    (⟨2000, 2, 29⟩ : Date).isValid = true ∧
    ∃ n : Nat, Date.dayAfter n = ⟨2000, 2, 29⟩ ∧
      (moment? (String.ofList
        ([' '] ++ written ⟨2000, 2, 29⟩ (weekdayName n) 23 59 59 ++ ['\n']))).map Int64.toInt =
        some (1000 * (86400 * (n : Int) + (3600 * 23 + 60 * 59 + 59) - 10800)) := by
  have hvalid : (⟨2000, 2, 29⟩ : Date).isValid = true := by decide
  have hbefore : ∀ c ∈ [' '], isBlank c = true := List.forall_mem_singleton.mpr (by decide)
  have hafter : ∀ c ∈ ['\n'], isBlank c = true := List.forall_mem_singleton.mpr (by decide)
  obtain ⟨n, hdays, hmoment, -⟩ := moment?_written hvalid (by decide) (show 23 < 24 by decide)
    (show 59 < 60 by decide) (show 59 < 60 by decide) hbefore hafter
  exact ⟨hvalid, n, hdays, hmoment⟩

end

end Imageboard.PrintedDate
