import Imageboard.Numeral
import Imageboard.Text.Lowercase
import Mathlib.Data.Nat.Digits.Defs

/-! What numerals are read as.

Digits are read as the number that they write, in any radix: `digits?_eq_some`. A run of ASCII digits
is the number it writes in decimal: `natural?_digits`. A number that is read into so many bits is the
number that is written, and it is smaller than the length of the numeral allows: `digits?_lt`. -/
namespace Imageboard.Numeral

theorem digit?_of_isDigit {c : Char} (h : c.isDigit = true) :
    digit? 10 c = some (c.toNat - '0'.toNat) := by
  have hrange : '0'.toNat ≤ c.toNat ∧ c.toNat ≤ '9'.toNat := by
    simpa [Char.isDigit, UInt32.le_iff_toNat_le] using h
  have hlt : c.toNat - '0'.toNat < 10 := by
    have hzero : '0'.toNat = 48 := rfl
    have hnine : '9'.toNat = 57 := rfl
    omega
  rw [digit?, digitValue, if_pos h, Option.filter_some, if_pos (decide_eq_true hlt)]

theorem isDigit_of_digit? {c : Char} (h : (digit? 10 c).isSome = true) : c.isDigit = true := by
  unfold digit? digitValue at h
  split at h
  · assumption
  -- A letter is worth ten at least.
  · split at h
    · simp at h
    · split at h
      · simp at h
      · cases h

theorem digitsFrom?_digits {s : List Char} (h : ∀ c ∈ s, c.isDigit = true) (value : Nat) :
    digitsFrom? 10 value s = some (Nat.ofDigitChars 10 s value) := by
  induction s generalizing value with
  | nil => rfl
  | cons c s ih =>
    rw [digitsFrom?, digit?_of_isDigit (h c List.mem_cons_self), Nat.ofDigitChars, List.foldl_cons,
      Nat.mul_comm 10 value]
    exact ih (fun d hd => h d (List.mem_cons_of_mem c hd)) _

/-- A run of digits is read as the number it writes, if that is in range. -/
theorem natural?_digits {s : List Char} (hne : s ≠ []) (h : ∀ c ∈ s, c.isDigit = true)
    (bound : Nat) :
    natural? 10 bound s = (some (Nat.ofDigitChars 10 s 0)).filter (· < bound) := by
  have hdigits : digits? 10 s = some (Nat.ofDigitChars 10 s 0) := by
    cases s with
    | nil => exact absurd rfl hne
    | cons c s => exact digitsFrom?_digits h 0
  unfold natural?
  split
  · cases h '+' List.mem_cons_self
  · rw [hdigits]

/-! ### What a numeral writes -/

/-- The digit of value `d`: a letter stands for ten and above. -/
def digitCharacter (d : Nat) : Char := if d < 10 then Char.ofNat (48 + d) else Char.ofNat (87 + d)

/-- The digits of `s`, of which there is at least one and whose letters may be of either case, write
`n` in the radix. -/
def Writes (radix : Nat) (s : List Char) (n : Nat) : Prop :=
  ∃ ds : List Nat, ds ≠ [] ∧ (∀ d ∈ ds, d < radix) ∧ Text.lowercase s = ds.map digitCharacter ∧
    n = Nat.ofDigits radix ds.reverse

theorem toNat_lt_of_isAlphanum {c : Char} (h : c.isAlphanum = true) : c.toNat < 128 := by
  simp [Char.isAlphanum, Text.isAlpha_eq, Text.isUpper_eq, Text.isLower_eq, Char.isDigit,
    UInt32.le_iff_toNat_le] at h
  omega

theorem isAlphanum_of_digitValue {c : Char} {d : Nat} (h : digitValue c = some d) :
    c.isAlphanum = true := by
  unfold digitValue at h
  rw [Char.isAlphanum, Text.isAlpha_eq]
  split at h
  · simp [*]
  · split at h
    · simp [*]
    · split at h
      · simp [*]
      · cases h

theorem digitValue_eq_some {c : Char} {d : Nat} (hd : d < 36) :
    digitValue c = some d ↔ c.toLower = digitCharacter d := by
  have hvalue : ∀ d < 36, digitValue (digitCharacter d) = some d := by decide
  constructor
  · intro h
    have hascii : c.toNat < 128 := toNat_lt_of_isAlphanum (isAlphanum_of_digitValue h)
    have hread : ∀ d ∈ digitValue c, c.toLower = digitCharacter d :=
      Text.forall_ascii (P := fun c => ∀ d ∈ digitValue c, c.toLower = digitCharacter d)
        (by decide +kernel) hascii
    exact hread d h
  · intro h
    rw [← hvalue d hd, ← h]
    cases hupper : c.isUpper with
    | false => rw [Text.toLower_of_not_isUpper hupper]
    | true =>
      have hascii : c.toNat < 128 :=
        toNat_lt_of_isAlphanum (by simp [Char.isAlphanum, Text.isAlpha_eq, hupper])
      have hlower : digitValue c.toLower = digitValue c :=
        Text.forall_ascii (P := fun c => digitValue c.toLower = digitValue c) (by decide +kernel) hascii
      exact hlower.symm

theorem digit?_eq_some {radix d : Nat} (hr : radix ≤ 36) {c : Char} :
    digit? radix c = some d ↔ d < radix ∧ c.toLower = digitCharacter d := by
  unfold digit?
  rw [Option.filter_eq_some_iff, decide_eq_true_iff, and_comm]
  exact and_congr_right fun hd => digitValue_eq_some (Nat.lt_of_lt_of_le hd hr)

theorem digitsFrom?_eq_some {radix value n : Nat} (hr : radix ≤ 36) {s : List Char} :
    digitsFrom? radix value s = some n ↔
      ∃ ds : List Nat, (∀ d ∈ ds, d < radix) ∧ Text.lowercase s = ds.map digitCharacter ∧
        n = ds.foldl (fun n d => n * radix + d) value := by
  induction s generalizing value with
  | nil =>
    constructor
    · intro h
      exact ⟨[], nofun, rfl, (Option.some.inj h).symm⟩
    · rintro ⟨ds, -, hds, rfl⟩
      rw [List.map_eq_nil_iff.mp hds.symm]
      rfl
  | cons c s ih =>
    constructor
    · intro h
      obtain ⟨d, hd, hrest⟩ := Option.bind_eq_some_iff.mp h
      obtain ⟨hlt, hc⟩ := (digit?_eq_some hr).mp hd
      obtain ⟨ds, hds, hs, hn⟩ := ih.mp hrest
      exact ⟨d :: ds, List.forall_mem_cons.mpr ⟨hlt, hds⟩, congrArg₂ List.cons hc hs, hn⟩
    · rintro ⟨ds, hds, hs, hn⟩
      obtain ⟨d, ds, rfl, hc, hs⟩ := List.map_eq_cons_iff.mp hs.symm
      obtain ⟨hlt, hds⟩ := List.forall_mem_cons.mp hds
      exact Option.bind_eq_some_iff.mpr
        ⟨d, (digit?_eq_some hr).mpr ⟨hlt, hc.symm⟩, ih.mpr ⟨ds, hds, hs.symm, hn⟩⟩

/-- The digits of a number, most significant first. -/
theorem foldl_eq_ofDigits (radix : Nat) (ds : List Nat) :
    ds.foldl (fun n d => n * radix + d) 0 = Nat.ofDigits radix ds.reverse := by
  rw [Nat.ofDigits_eq_foldr, List.foldr_reverse]
  refine congrArg (fun f => ds.foldl f 0) (funext fun n => funext fun d => ?_)
  rw [Nat.mul_comm, Nat.add_comm]
  rfl

/-- Digits are read as the number that they write. -/
theorem digits?_eq_some {radix n : Nat} (hr : radix ≤ 36) {s : List Char} :
    digits? radix s = some n ↔ Writes radix s n := by
  cases s with
  | nil =>
    constructor
    · nofun
    · rintro ⟨ds, hne, -, hds, -⟩
      exact absurd (List.map_eq_nil_iff.mp hds.symm) hne
  | cons c s =>
    show digitsFrom? radix 0 (c :: s) = some n ↔ _
    rw [digitsFrom?_eq_some hr]
    unfold Writes
    refine exists_congr fun ds => ?_
    rw [foldl_eq_ofDigits]
    constructor
    · rintro ⟨hds, hs, hn⟩
      refine ⟨?_, hds, hs, hn⟩
      rintro rfl
      cases hs
    · rintro ⟨-, hds, hs, hn⟩
      exact ⟨hds, hs, hn⟩

/-! ### Bounds -/

theorem digit?_lt {radix d : Nat} {c : Char} (h : digit? radix c = some d) : d < radix := by
  obtain ⟨-, hlt⟩ := Option.filter_eq_some_iff.mp h
  exact of_decide_eq_true hlt

theorem digitsFrom?_lt {radix value n : Nat} {s : List Char}
    (h : digitsFrom? radix value s = some n) : n < (value + 1) * radix ^ s.length := by
  induction s generalizing value with
  | nil =>
    obtain rfl := Option.some.inj h
    simp
  | cons c s ih =>
    obtain ⟨d, hd, hrest⟩ := Option.bind_eq_some_iff.mp h
    have hnext : value * radix + d + 1 ≤ (value + 1) * radix := by
      have hlt := digit?_lt hd
      rw [Nat.add_mul, Nat.one_mul]
      omega
    calc n < (value * radix + d + 1) * radix ^ s.length := ih hrest
      _ ≤ (value + 1) * radix * radix ^ s.length := Nat.mul_le_mul_right _ hnext
      _ = (value + 1) * radix ^ (c :: s).length := by
        rw [List.length_cons, Nat.pow_succ, Nat.mul_assoc, Nat.mul_comm radix]

theorem digits?_lt {radix n : Nat} {s : List Char} (h : digits? radix s = some n) :
    n < radix ^ s.length := by
  cases s with
  | nil => cases h
  | cons c s =>
    have hlt := digitsFrom?_lt h
    rwa [Nat.zero_add, Nat.one_mul] at hlt

theorem natural?_lt {radix bound n : Nat} {s : List Char} (h : natural? radix bound s = some n) :
    n < bound := by
  obtain ⟨-, hlt⟩ := Option.filter_eq_some_iff.mp h
  exact of_decide_eq_true hlt

theorem uint32?_exact {s : List Char} {n : UInt32} (h : uint32? s = some n) :
    natural? 10 UInt32.size s = some n.toNat := by
  obtain ⟨m, hm, rfl⟩ := Option.map_eq_some_iff.mp h
  rw [hm, UInt32.toNat_ofNat_of_lt' (natural?_lt hm)]

theorem uint64?_exact {s : List Char} {n : UInt64} (h : uint64? s = some n) :
    natural? 10 UInt64.size s = some n.toNat := by
  obtain ⟨m, hm, rfl⟩ := Option.map_eq_some_iff.mp h
  rw [hm, UInt64.toNat_ofNat_of_lt' (natural?_lt hm)]

theorem toInt64?_exact {n : Int} {m : Int64} (h : toInt64? n = some m) : m.toInt = n := by
  unfold toInt64? at h
  split at h
  · rename_i hrange
    obtain rfl := Option.some.inj h
    exact Int64.toInt_ofInt_of_le hrange.1 (Int.lt_add_one_of_le hrange.2)
  · cases h

end Imageboard.Numeral
