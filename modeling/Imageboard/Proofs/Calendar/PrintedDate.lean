import Imageboard.Calendar.PrintedDate
import Imageboard.Proofs.Numeral

/-! How far from 1970 a printed date can be.

A year is printed in two digits, so that a date is within a century of 1970 and the moment it tells
is one that 64 bits hold: `moment_exact`. -/
namespace Imageboard

namespace Date

theorem daysBefore_le {year : Int} {month : Nat} (h : month ≤ 12) : daysBefore year month ≤ 335 := by
  have hall : ∀ leap : Bool, ∀ month ≤ 12,
      (([31, if leap then 29 else 28, 31, 30, 31, 30, 31, 31, 30, 31, 30, 31] : List Nat).take
        (month - 1)).foldl (· + ·) 0 ≤ 335 := by
    decide
  exact hall (isLeapYear year) month h

theorem bounds_of_isValid {d : Date} (h : d.isValid = true) :
    1 ≤ d.month ∧ d.month ≤ 12 ∧ 1 ≤ d.day ∧ d.day ≤ 31 := by
  unfold isValid at h
  split at h
  · rename_i length hlength
    have hmember := List.mem_of_getElem? hlength
    have hmonth := (List.getElem?_eq_some_iff.mp hlength).1
    have hlengths : (monthLengths d.year).length = 12 := rfl
    have hle : length ≤ 31 := by
      unfold monthLengths at hmember
      simp only [List.mem_cons, List.not_mem_nil, or_false] at hmember
      split at hmember <;> omega
    simp only [Bool.and_eq_true, decide_eq_true_eq] at h
    omega
  · simp at h

/-- The days of a century after 1970 are numbered up to 36,600. -/
theorem dayNumber_bounds {d : Date} (h : d.isValid = true) (hyear : 1970 ≤ d.year ∧ d.year ≤ 2069) :
    0 ≤ d.dayNumber ∧ d.dayNumber ≤ 36600 := by
  obtain ⟨-, hmonth, hfirst, hday⟩ := bounds_of_isValid h
  have hbefore : daysBefore d.year d.month ≤ 335 := daysBefore_le hmonth
  unfold dayNumber yearStart leapDays
  omega

end Date

namespace PrintedDate

theorem fullYear_bounds {year : Nat} (h : year < 100) :
    1970 ≤ fullYear year ∧ fullYear year ≤ 2069 := by
  unfold fullYear
  split <;> omega

/-- A number in a printed date has two digits at most. -/
theorem readNumber?_lt {s rest : List Char} {n : Nat} (h : readNumber? s = some (n, rest)) :
    n < 100 := by
  obtain ⟨m, hm, heq⟩ := Option.map_eq_some_iff.mp h
  obtain rfl := (Prod.mk.inj heq).1
  have hlength : (((Text.trimStart s).take 2).takeWhile Char.isDigit).length ≤ 2 :=
    Nat.le_trans (List.takeWhile_prefix _).length_le (List.length_take_le 2 _)
  calc m < 10 ^ _ := Numeral.digits?_lt hm
    _ ≤ 10 ^ 2 := Nat.pow_le_pow_right (by decide) hlength

/-- What is read is a day of a century and a time of day. -/
theorem read?_valid {text : String} {p : PrintedDate} (h : read? text = some p) :
    p.isValid = true ∧ 1970 ≤ p.date.year ∧ p.date.year ≤ 2069 := by
  simp only [read?, Option.bind_eq_bind, Option.bind_eq_some_iff, Prod.exists] at h
  obtain ⟨day, s, -, month, s', -, year, s'', hyear, weekday, s₃, -, hour, s₄, -, minute, s₅, -,
    second, s₆, -, hread⟩ := h
  split at hread
  · rename_i hvalid
    obtain rfl := Option.some.inj hread
    simp only [Bool.and_eq_true] at hvalid
    obtain ⟨s₇, -, hnumber⟩ := Option.bind_eq_some_iff.mp hyear
    have hbounds := fullYear_bounds (readNumber?_lt hnumber)
    refine ⟨hvalid.1.2, ?_, ?_⟩
    · show 1970 ≤ (fullYear year : Int)
      omega
    · show (fullYear year : Int) ≤ 2069
      omega
  · cases hread

/-- The moment of a printed date is not changed by keeping it in 64 bits. -/
theorem moment_exact {text : String} {p : PrintedDate} (h : read? text = some p) :
    (Int64.ofInt p.moment).toInt = p.moment := by
  obtain ⟨hvalid, hyear⟩ := read?_valid h
  unfold isValid at hvalid
  simp only [Bool.and_eq_true, decide_eq_true_eq] at hvalid
  obtain ⟨⟨⟨hdate, hhour⟩, hminute⟩, hsecond⟩ := hvalid
  have hday := Date.dayNumber_bounds hdate hyear
  have hmin : Int64.minValue.toInt = -9223372036854775808 := rfl
  have hmax : Int64.maxValue.toInt = 9223372036854775807 := rfl
  have hmoment : -10800000 ≤ p.moment ∧ p.moment ≤ 10000000000000 := by
    unfold moment zone
    omega
  exact Int64.toInt_ofInt_of_le (by omega) (by omega)

end PrintedDate

end Imageboard
