import Mathlib.Data.Nat.Digits.Lemmas
import Imageboard.Proofs.Numeral
import Imageboard.Proofs.Text.LetterCase

/-! Post numbers that a board prints in base 36.

A number of any length is read exactly, or not at all where 64 bits do not hold it, and it is given in
decimal: `decimalOfBase36?_spec`. -/
namespace Imageboard.Numeral
open Text

/-! ### Numerals with a sign -/

theorem isAlphanum_of_writes {radix n : Nat} (hr : radix ≤ 36) {s : List Char}
    (h : Writes radix s n) : ∀ c ∈ s, c.isAlphanum = true := by
  obtain ⟨ds, -, hds, hs, -⟩ := h
  intro c hc
  have hlower : c.toLower ∈ ds.map digitCharacter := hs ▸ List.mem_map_of_mem hc
  obtain ⟨d, hd, hdc⟩ := List.mem_map.mp hlower
  have hlt : d < 36 := Nat.lt_of_lt_of_le (hds d hd) hr
  exact isAlphanum_of_digitValue ((digitValue_eq_some hlt).mpr hdc.symm)

/-- A number is read from the digits that write it, with a `+` in front of them or without. -/
theorem natural?_eq_some {radix bound n : Nat} (hr : radix ≤ 36) {s : List Char} :
    natural? radix bound s = some n ↔
      n < bound ∧ ∃ digits, (s = digits ∨ s = '+' :: digits) ∧ Writes radix digits n := by
  have hplus {t : List Char} : ¬ Writes radix ('+' :: t) n := fun h => by
    cases isAlphanum_of_writes hr h '+' List.mem_cons_self
  unfold natural?
  rw [Option.filter_eq_some_iff, decide_eq_true_iff, and_comm]
  refine and_congr_right fun _ => ?_
  split
  · rename_i rest
    rw [digits?_eq_some hr]
    constructor
    · exact fun h => ⟨rest, .inr rfl, h⟩
    · rintro ⟨digits, rfl | heq, h⟩
      · exact absurd h hplus
      · rwa [(List.cons.inj heq).2]
  · rename_i hsign
    rw [digits?_eq_some hr]
    constructor
    · exact fun h => ⟨s, .inl rfl, h⟩
    · rintro ⟨digits, rfl | heq, h⟩
      · exact h
      · exact absurd heq (hsign digits)

/-- Without the blanks around it, and without a `+` in front, the text writes `n` in the radix. -/
def Denotes (radix : Nat) (text : String) (n : Nat) : Prop :=
  ∃ digits, (trim text.toList = digits ∨ trim text.toList = '+' :: digits) ∧ Writes radix digits n

theorem Denotes.unique {radix n m : Nat} (hr : radix ≤ 36) {text : String}
    (hn : Denotes radix text n) (hm : Denotes radix text m) : n = m := by
  have hreadn : natural? radix (n + m + 1) (trim text.toList) = some n :=
    (natural?_eq_some hr).mpr ⟨by omega, hn⟩
  have hreadm : natural? radix (n + m + 1) (trim text.toList) = some m :=
    (natural?_eq_some hr).mpr ⟨by omega, hm⟩
  exact Option.some.inj (hreadn.symm.trans hreadm)

/-! ### Decimal writing -/

/-- The text is `n` in decimal, without a zero in front. -/
def IsDecimal (number : String) (n : Nat) : Prop :=
  Writes 10 number.toList n ∧ (number.toList.head? = some '0' → number = "0")

theorem head?_toDigits {n : Nat} (h : (Nat.toDigits 10 n).head? = some '0') : n = 0 := by
  induction n using Nat.strongRecOn with
  | ind n ih =>
    rw [Nat.toDigits_eq_if (by decide)] at h
    split at h
    · exact Nat.digitChar_eq_zero.mp (Option.some.inj h)
    · rename_i hn
      rw [List.head?_append_of_ne_nil _ Nat.toDigits_ne_nil] at h
      have := ih (n / 10) (by omega) h
      omega

theorem isDecimal_toString (n : Nat) : IsDecimal (toString n) n := by
  have htext : (toString n).toList = Nat.toDigits 10 n := by
    rw [Nat.toString_eq_repr, Nat.toList_repr]
  have hdigits : ∀ c ∈ Nat.toDigits 10 n, c.isDigit = true := fun c hc =>
    Nat.isDigit_of_mem_toDigits (by decide) (by decide) hc
  have hread : digits? 10 (Nat.toDigits 10 n) = some n := by
    obtain ⟨c, s, hs⟩ := List.exists_cons_of_ne_nil (Nat.toDigits_ne_nil (n := n) (b := 10))
    have hfrom := digitsFrom?_digits hdigits 0
    rw [Nat.ofDigitChars_ten_toDigits] at hfrom
    rw [hs] at hfrom ⊢
    exact hfrom
  refine ⟨?_, fun hzero => ?_⟩
  · rw [htext]
    exact (digits?_eq_some (by decide)).mp hread
  · rw [htext] at hzero
    rw [head?_toDigits hzero]
    rfl

/-- Decimal digits are written in one way only: they are in no case. -/
theorem eq_of_lowercase_decimal {s : List Char} {ds : List Nat} (hds : ∀ d ∈ ds, d < 10)
    (hs : lowercase s = ds.map digitCharacter) : s = ds.map digitCharacter := by
  have hplain : ∀ d < 10, (digitCharacter d).isAlpha = false := by decide
  induction ds generalizing s with
  | nil => exact List.map_eq_nil_iff.mp hs
  | cons d ds ih =>
    obtain ⟨c, rest, rfl, hc, hrest⟩ := List.map_eq_cons_iff.mp hs
    obtain ⟨hd, hds⟩ := List.forall_mem_cons.mp hds
    rw [(toLower_eq_iff (hplain d hd)).mp hc, ih hds hrest, List.map_cons]

/-- The digits of a number in decimal, the most significant one first. -/
theorem IsDecimal.toList_eq {number : String} {n : Nat} (h : IsDecimal number n) :
    number.toList = if n = 0 then ['0'] else (Nat.digits 10 n).reverse.map digitCharacter := by
  obtain ⟨⟨ds, hne, hds, hs, hn⟩, hzero⟩ := h
  have htext := eq_of_lowercase_decimal hds hs
  obtain ⟨d, rest, rfl⟩ := List.exists_cons_of_ne_nil hne
  by_cases hd : d = 0
  · subst hd
    have hnumber : number = "0" := hzero (by rw [htext]; rfl)
    subst hnumber
    obtain rfl : rest = [] := List.map_eq_nil_iff.mp (List.cons.inj htext).2.symm
    rw [hn]
    rfl
  · have hdigits : Nat.digits 10 n = (d :: rest).reverse := by
      rw [hn]
      refine Nat.digits_ofDigits 10 (by decide) _ (fun e he => hds e (List.mem_reverse.mp he)) ?_
      intro hrev
      rwa [List.getLast_reverse]
    have hpos : n ≠ 0 := by
      rintro rfl
      exact absurd (hdigits.symm.trans (Nat.digits_zero 10)) (by simp)
    rw [if_neg hpos, hdigits, List.reverse_reverse, htext]

theorem isDecimal_iff {number : String} {n : Nat} : IsDecimal number n ↔ number = toString n := by
  constructor
  · intro h
    exact String.toList_inj.mp (h.toList_eq.trans (isDecimal_toString n).toList_eq.symm)
  · rintro rfl
    exact isDecimal_toString n

theorem IsDecimal.unique {number : String} {n m : Nat} (hn : IsDecimal number n)
    (hm : IsDecimal number m) : n = m := by
  have hreadn := (digits?_eq_some (by decide)).mpr hn.1
  have hreadm := (digits?_eq_some (by decide)).mpr hm.1
  exact Option.some.inj (hreadn.symm.trans hreadm)

/-! ### Post numbers -/

theorem decimalOfBase36?_eq_some {id number : String} :
    decimalOfBase36? id = some number ↔ ∃ n < 2 ^ 64, Denotes 36 id n ∧ IsDecimal number n := by
  unfold decimalOfBase36?
  rw [Option.map_eq_some_iff]
  refine exists_congr fun n => ?_
  rw [natural?_eq_some (by decide), isDecimal_iff, eq_comm (a := number), and_assoc]
  rfl

/-- **A number in base 36 is read exactly.** An id tells a number in decimal just where it has digits of
base 36, with a `+` in front or without, that write a number below the bound of 64 bits; it is that
number, however long the id is. A greater one tells nothing. So two ids have the same post number where
they write the same number, and only there. -/
theorem decimalOfBase36?_spec (id : String) :
    (∀ number, decimalOfBase36? id = some number ↔
      ∃ n < 2 ^ 64, Denotes 36 id n ∧ IsDecimal number n) ∧
    ((decimalOfBase36? id).isSome = true ↔ ∃ n < 2 ^ 64, Denotes 36 id n) ∧
    (∀ n, Denotes 36 id n → 2 ^ 64 ≤ n → decimalOfBase36? id = none) ∧
    ∀ id' number number', decimalOfBase36? id = some number → decimalOfBase36? id' = some number' →
      (number = number' ↔ ∃ n, Denotes 36 id n ∧ Denotes 36 id' n) := by
  have hradix : 36 ≤ 36 := Nat.le_refl 36
  refine ⟨fun number => decimalOfBase36?_eq_some, ?told, ?beyond, ?same⟩
  case told =>
    rw [Option.isSome_iff_exists]
    constructor
    · rintro ⟨number, h⟩
      obtain ⟨n, hlt, hn, -⟩ := decimalOfBase36?_eq_some.mp h
      exact ⟨n, hlt, hn⟩
    · rintro ⟨n, hlt, hn⟩
      exact ⟨toString n, decimalOfBase36?_eq_some.mpr ⟨n, hlt, hn, isDecimal_toString n⟩⟩
  case beyond =>
    intro n hn hle
    refine Option.eq_none_iff_forall_ne_some.mpr fun number h => ?_
    obtain ⟨m, hlt, hm, -⟩ := decimalOfBase36?_eq_some.mp h
    have := hn.unique hradix hm
    omega
  case same =>
    intro id' number number' h h'
    obtain ⟨n, -, hn, hnumber⟩ := decimalOfBase36?_eq_some.mp h
    obtain ⟨n', -, hn', hnumber'⟩ := decimalOfBase36?_eq_some.mp h'
    constructor
    · rintro rfl
      obtain rfl := hnumber.unique hnumber'
      exact ⟨n, hn, hn'⟩
    · rintro ⟨m, hm, hm'⟩
      obtain rfl := hn.unique hradix hm
      obtain rfl := hn'.unique hradix hm'
      rw [isDecimal_iff.mp hnumber, isDecimal_iff.mp hnumber']

/-- The greatest number that 64 bits hold, in two writings, and the number above it. -/
theorem decimalOfBase36?_greatest :
    decimalOfBase36? " +003W5E11264SGSF " = some "18446744073709551615" ∧
      (∃ n, Denotes 36 "3w5e11264sgsf" n ∧ Denotes 36 " +003W5E11264SGSF " n) ∧
      decimalOfBase36? "3w5e11264sgsg" = none := by
  have hread : decimalOfBase36? "3w5e11264sgsf" = some "18446744073709551615" := by decide +kernel
  have hread' : decimalOfBase36? " +003W5E11264SGSF " = some "18446744073709551615" := by
    decide +kernel
  have hbeyond : Denotes 36 "3w5e11264sgsg" (2 ^ 64) :=
    ⟨_, .inl rfl, (digits?_eq_some (by decide)).mp (by decide +kernel)⟩
  exact ⟨hread', ((decimalOfBase36?_spec _).2.2.2 _ _ _ hread hread').mp rfl,
    (decimalOfBase36?_spec _).2.2.1 _ hbeyond (Nat.le_refl _)⟩

end Imageboard.Numeral
