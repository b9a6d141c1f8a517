import Imageboard.Proofs.Calendar.PrintedDate

/-! Days counted one by one.

The number of a day is the number of days from the first of 1970 to it: the number of the next day is
one more (`dayNumber_tomorrow`), and every day from 1970 on is reached by going from day to day as
often as its number says (`dayAfter_dayNumber`). -/
namespace Imageboard.Date

/-- The day after a day: a month is left after its last day, and a year after its last month. -/
def tomorrow (d : Date) : Date :=
  if (monthLengths d.year)[d.month - 1]? = some d.day then
    if d.month = 12 then ⟨d.year + 1, 1, 1⟩ else ⟨d.year, d.month + 1, 1⟩
  else ⟨d.year, d.month, d.day + 1⟩

/-- The day so many days after the first of 1970. -/
def dayAfter : Nat → Date
  | 0 => ⟨1970, 1, 1⟩
  | n + 1 => (dayAfter n).tomorrow

/-! ### The parts of a day number -/

theorem isValid_iff {d : Date} :
    d.isValid = true ↔
      1 ≤ d.month ∧ 1 ≤ d.day ∧ ∃ length, (monthLengths d.year)[d.month - 1]? = some length ∧
        d.day ≤ length := by
  unfold isValid
  cases (monthLengths d.year)[d.month - 1]? with
  | none => simp
  | some length => simp [and_assoc]

theorem isValid_of {year : Int} {month day length : Nat} (hmonth : 1 ≤ month) (hday : 1 ≤ day)
    (hlength : (monthLengths year)[month - 1]? = some length) (hle : day ≤ length) :
    (⟨year, month, day⟩ : Date).isValid = true :=
  isValid_iff.mpr ⟨hmonth, hday, length, hlength, hle⟩

theorem yearStart_succ (year : Int) :
    yearStart (year + 1) = yearStart year + if isLeapYear year then 366 else 365 := by
  unfold yearStart leapDays isLeapYear
  simp only [Bool.and_eq_true, Bool.or_eq_true, beq_iff_eq, bne_iff_ne]
  split <;> omega

/-- The days before the next month are those before the month, and those of it. -/
theorem daysBefore_succ {year : Int} {month length : Nat} (hmonth : 1 ≤ month)
    (h : (monthLengths year)[month - 1]? = some length) :
    daysBefore year (month + 1) = daysBefore year month + length := by
  obtain ⟨m, rfl⟩ : ∃ m, month = m + 1 := ⟨month - 1, by omega⟩
  rw [Nat.add_sub_cancel] at h
  unfold daysBefore
  rw [Nat.add_sub_cancel, Nat.add_sub_cancel, List.take_add_one, h, List.foldl_append]
  rfl

/-- All months together make the year. -/
theorem daysBefore_year (year : Int) :
    daysBefore year 13 = if isLeapYear year then 366 else 365 := by
  unfold daysBefore monthLengths
  cases isLeapYear year <;> rfl

/-- There are twelve months, each of some days. -/
theorem month_length {year : Int} {m : Nat} (h : m < 12) :
    ∃ length, (monthLengths year)[m]? = some length ∧ 1 ≤ length := by
  have hall : ∀ leap : Bool, ∀ m < 12, ∃ length,
      ([31, if leap then 29 else 28, 31, 30, 31, 30, 31, 31, 30, 31, 30, 31] : List Nat)[m]? =
        some length ∧ 1 ≤ length := by
    intro leap m hm
    refine ⟨_, List.getElem?_eq_getElem hm, ?_⟩
    revert leap m
    decide
  exact hall (isLeapYear year) m h

/-! ### From day to day -/

section
variable {d : Date}

/-- Each of the three ways to the next day. -/
theorem tomorrow_cases (h : d.isValid = true) :
    (d.month = 12 ∧ d.day + daysBefore d.year 12 = daysBefore d.year 13 ∧
        d.tomorrow = ⟨d.year + 1, 1, 1⟩) ∨
      (d.month < 12 ∧ d.day + daysBefore d.year d.month = daysBefore d.year (d.month + 1) ∧
        d.tomorrow = ⟨d.year, d.month + 1, 1⟩) ∨
      (∃ length, (monthLengths d.year)[d.month - 1]? = some length ∧ d.day < length ∧
        d.tomorrow = ⟨d.year, d.month, d.day + 1⟩) := by
  obtain ⟨hmonth, -, length, hlength, hle⟩ := isValid_iff.mp h
  have hrange : d.month - 1 < 12 := (List.getElem?_eq_some_iff.mp hlength).1
  unfold tomorrow
  split
  · rename_i hlast
    have hsucc := daysBefore_succ hmonth hlast
    rw [Nat.add_comm _ d.day] at hsucc
    split
    · rename_i hdecember
      rw [hdecember] at hsucc
      exact .inl ⟨hdecember, hsucc.symm, rfl⟩
    · exact .inr (.inl ⟨by omega, hsucc.symm, rfl⟩)
  · rename_i hnot
    refine .inr (.inr ⟨length, hlength, ?_, rfl⟩)
    have hne : d.day ≠ length := fun heq => hnot (heq ▸ hlength)
    omega

theorem dayNumber_tomorrow (h : d.isValid = true) : d.tomorrow.dayNumber = d.dayNumber + 1 := by
  rcases tomorrow_cases h with ⟨hmonth, hdays, htomorrow⟩ | ⟨-, hdays, htomorrow⟩ | ⟨_, -, -, htomorrow⟩
  · have hyear := yearStart_succ d.year
    have hfirst : daysBefore (d.year + 1) 1 = 0 := rfl
    rw [daysBefore_year] at hdays
    rw [htomorrow, dayNumber, dayNumber, hmonth]
    dsimp only
    by_cases hleap : isLeapYear d.year = true
    · rw [if_pos hleap] at hdays hyear
      omega
    · rw [if_neg hleap] at hdays hyear
      omega
  · rw [htomorrow, dayNumber, dayNumber, ← hdays]
    dsimp only
    omega
  · rw [htomorrow, dayNumber, dayNumber]
    dsimp only
    omega

/-- Every day comes after another, which belongs to the year before only for the first of January. -/
theorem exists_yesterday (h : d.isValid = true) :
    ∃ yesterday : Date, yesterday.isValid = true ∧ yesterday.tomorrow = d ∧
      (yesterday.year = d.year ∨
        yesterday.year + 1 = d.year ∧ d = ⟨d.year, 1, 1⟩) := by
  obtain ⟨year, month, day⟩ := d
  obtain ⟨hmonth, hday, length, hlength, hle⟩ := isValid_iff.mp h
  dsimp only at hmonth hday hlength hle
  have hrange : month - 1 < 12 := (List.getElem?_eq_some_iff.mp hlength).1
  by_cases hfirst : 2 ≤ day
  · obtain ⟨day, rfl⟩ : ∃ k, day = k + 1 := ⟨day - 1, by omega⟩
    have hnot : ¬(monthLengths year)[month - 1]? = some day := by
      rw [hlength, Option.some.injEq]
      omega
    exact ⟨⟨year, month, day⟩, isValid_of hmonth (by omega) hlength (by omega),
      if_neg hnot, .inl rfl⟩
  · obtain rfl : day = 1 := by omega
    by_cases hjanuary : 2 ≤ month
    · obtain ⟨month, rfl⟩ : ∃ k, month = k + 1 := ⟨month - 1, by omega⟩
      obtain ⟨last, hlast, hpos⟩ : ∃ last, (monthLengths year)[month - 1]? = some last ∧ 1 ≤ last :=
        month_length (by omega)
      refine ⟨⟨year, month, last⟩, isValid_of (by omega) hpos hlast (Nat.le_refl _), ?_,
        .inl rfl⟩
      exact (if_pos hlast).trans (if_neg (show month ≠ 12 by omega))
    · obtain rfl : month = 1 := by omega
      have hlast : (monthLengths (year - 1))[12 - 1]? = some 31 := rfl
      refine ⟨⟨year - 1, 12, 31⟩, isValid_of (by decide) (by decide) hlast (Nat.le_refl _),
        ?_, .inr ⟨Int.sub_add_cancel year 1, rfl⟩⟩
      refine (if_pos hlast).trans ((if_pos rfl).trans ?_)
      rw [Int.sub_add_cancel]

theorem dayNumber_nonneg (h : d.isValid = true) (hyear : 1970 ≤ d.year) : 0 ≤ d.dayNumber := by
  obtain ⟨-, hday, -⟩ := isValid_iff.mp h
  unfold dayNumber yearStart leapDays
  omega

/-- A day from 1970 on is as many days after the first of that year as its number says. -/
theorem dayAfter_of_dayNumber {n : Nat} (h : d.isValid = true) (hyear : 1970 ≤ d.year)
    (hn : d.dayNumber = n) : dayAfter n = d := by
  induction n generalizing d with
  | zero =>
    obtain ⟨yesterday, hvalid, rfl, hsame⟩ := exists_yesterday h
    have hnumber := dayNumber_tomorrow hvalid
    -- The day before the first day has a number below 0, so it lies in an earlier year.
    have hbefore : ¬1970 ≤ yesterday.year := fun hlater => by
      have hnonneg := dayNumber_nonneg hvalid hlater
      omega
    rcases hsame with hsame | ⟨hnext, hfirst⟩
    · omega
    · rw [hfirst, show yesterday.tomorrow.year = 1970 by omega]
      rfl
  | succ n ih =>
    obtain ⟨yesterday, hvalid, rfl, hsame⟩ := exists_yesterday h
    have hnumber := dayNumber_tomorrow hvalid
    have hlater : 1970 ≤ yesterday.year := by
      rcases hsame with hsame | ⟨hnext, hfirst⟩
      · omega
      · by_cases hepoch : yesterday.tomorrow.year = 1970
        · rw [hfirst, hepoch] at hn
          have hzero : (⟨1970, 1, 1⟩ : Date).dayNumber = 0 := rfl
          omega
        · omega
    exact congrArg tomorrow (ih hvalid hlater (by omega))

/-- Every day from 1970 on is reached from day to day. -/
theorem exists_dayAfter (h : d.isValid = true) (hyear : 1970 ≤ d.year) :
    ∃ n : Nat, dayAfter n = d ∧ d.dayNumber = n := by
  obtain ⟨n, hn⟩ := Int.eq_ofNat_of_zero_le (dayNumber_nonneg h hyear)
  exact ⟨n, dayAfter_of_dayNumber h hyear hn, hn⟩

end

end Imageboard.Date
