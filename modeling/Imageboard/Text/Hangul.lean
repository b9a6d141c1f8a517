/-! Hangul syllables. Unicode has all of them as characters, one for each opening consonant,
vowel and closing consonant, in that order, so letters are joined by counting.

`joinedLetters?_of_syllableParts?`: a syllable that was taken apart is joined again. -/
namespace Imageboard.Text

/-- Where `c` stands among the `count` characters from the code `first` on. -/
def place? (first count : Nat) (c : Char) : Option (Fin count) :=
  if h : first ≤ c.toNat ∧ c.toNat < first + count then some ⟨c.toNat - first, by omega⟩ else none

def openingConsonant (i : Fin 19) : Char := Char.ofNat (0x1100 + i)
def vowel (i : Fin 21) : Char := Char.ofNat (0x1161 + i)

/-- The first of these places is that of no consonant. -/
def closingConsonant (i : Fin 28) : Char := Char.ofNat (0x11A7 + i)

structure Syllable where
  opening : Fin 19
  vowel : Fin 21
  /-- 0 where the syllable ends in its vowel. -/
  closing : Fin 28

namespace Syllable

def number (s : Syllable) : Nat := (s.opening * 21 + s.vowel) * 28 + s.closing

/-- The character of the syllable. -/
def char (s : Syllable) : Char := Char.ofNat (0xAC00 + s.number)

def ofNumber (n : Fin 11172) : Syllable :=
  ⟨⟨n / 28 / 21, by omega⟩, ⟨n / 28 % 21, by omega⟩, ⟨n % 28, by omega⟩⟩

theorem number_lt (s : Syllable) : s.number < 11172 := by unfold number; omega

theorem number_ofNumber (n : Fin 11172) : (ofNumber n).number = n := by
  simp only [number, ofNumber]
  omega

theorem ofNumber_number (s : Syllable) : ofNumber ⟨s.number, s.number_lt⟩ = s := by
  obtain ⟨⟨l, hl⟩, ⟨v, hv⟩, ⟨t, ht⟩⟩ := s
  simp only [ofNumber, number, mk.injEq, Fin.mk.injEq]
  omega

end Syllable

/-- The syllable that `c` is. -/
def syllable? (c : Char) : Option Syllable := (place? 0xAC00 11172 c).map Syllable.ofNumber

/-- The two characters that make up a syllable: what stands before its closing consonant, and
that consonant; without one, its opening consonant and its vowel. -/
def syllableParts? (c : Char) : Option (Char × Char) :=
  (syllable? c).map fun s =>
    if s.closing = 0 then (openingConsonant s.opening, vowel s.vowel)
    else ({ s with closing := 0 : Syllable }.char, closingConsonant s.closing)

/-- The syllable of an opening consonant and a vowel. -/
def openSyllable? (c d : Char) : Option Char := do
  let opening ← place? 0x1100 19 c
  let vowel ← place? 0x1161 21 d
  return (Syllable.mk opening vowel 0).char

/-- The syllable of one that ends in its vowel and a closing consonant. -/
def closedSyllable? (c d : Char) : Option Char := do
  let s ← syllable? c
  let closing ← place? 0x11A7 28 d
  if s.closing = 0 ∧ closing ≠ 0 then return { s with closing : Syllable }.char else none

/-- The syllable that two characters make. -/
def joinedLetters? (c d : Char) : Option Char := (openSyllable? c d).or (closedSyllable? c d)

theorem toNat_ofNat_of_lt {n : Nat} (h : n < 0xD800) : (Char.ofNat n).toNat = n := by
  rw [Char.ofNat, dif_pos (Or.inl h)]
  rfl

theorem place?_ofNat {first count : Nat} (h : first + count < 0xD800) (i : Fin count) :
    place? first count (Char.ofNat (first + i)) = some i := by
  have hcode := toNat_ofNat_of_lt (show first + i.val < 0xD800 by omega)
  rw [place?, dif_pos (by omega)]
  exact congrArg some (Fin.ext (by simp only [hcode]; omega))

theorem ofNat_of_place? {first count : Nat} {c : Char} {i : Fin count}
    (h : place? first count c = some i) : Char.ofNat (first + i) = c := by
  unfold place? at h
  split at h
  case isTrue hc =>
    cases h
    rw [show first + (c.toNat - first) = c.toNat by omega, Char.ofNat_toNat]
  case isFalse => cases h

theorem syllable?_char (s : Syllable) : syllable? s.char = some s := by
  rw [syllable?, Syllable.char, place?_ofNat (by decide) ⟨s.number, s.number_lt⟩, Option.map_some,
    s.ofNumber_number]

theorem char_of_syllable? {c : Char} {s : Syllable} (h : syllable? c = some s) : s.char = c := by
  obtain ⟨n, hn, rfl⟩ := Option.map_eq_some_iff.mp h
  rw [Syllable.char, Syllable.number_ofNumber, ofNat_of_place? hn]

theorem openSyllable?_letters (i : Fin 19) (j : Fin 21) :
    openSyllable? (openingConsonant i) (vowel j) = some (Syllable.mk i j 0).char := by
  rw [openSyllable?, openingConsonant, vowel, place?_ofNat (by decide), place?_ofNat (by decide)]
  rfl

theorem openSyllable?_closing (c : Char) (k : Fin 28) :
    openSyllable? c (closingConsonant k) = none := by
  have hcode : (closingConsonant k).toNat = 0x11A7 + k := toNat_ofNat_of_lt (by omega)
  have hplace : place? 0x1161 21 (closingConsonant k) = none := by
    rw [place?, dif_neg (by omega)]
  rw [openSyllable?, hplace]
  cases place? 0x1100 19 c <;> rfl

theorem closedSyllable?_closing {s : Syllable} (h : s.closing = 0) {k : Fin 28} (hk : k ≠ 0) :
    closedSyllable? s.char (closingConsonant k) = some { s with closing := k : Syllable }.char := by
  rw [closedSyllable?, syllable?_char, closingConsonant, place?_ofNat (by decide)]
  exact if_pos ⟨h, hk⟩

/-- **A syllable that was taken apart is joined again.** -/
theorem joinedLetters?_of_syllableParts? {c : Char} {parts : Char × Char}
    (h : syllableParts? c = some parts) : joinedLetters? parts.1 parts.2 = some c := by
  obtain ⟨s, hs, rfl⟩ := Option.map_eq_some_iff.mp h
  rw [← char_of_syllable? hs]
  obtain ⟨i, j, k⟩ := s
  by_cases hk : k = 0
  · subst hk
    simp only [reduceIte, joinedLetters?, openSyllable?_letters, Option.some_or]
  · simp only [hk, reduceIte, joinedLetters?, openSyllable?_closing, Option.none_or]
    exact closedSyllable?_closing rfl hk

end Imageboard.Text
