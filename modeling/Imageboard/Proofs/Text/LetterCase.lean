import Imageboard.Proofs.Text.Search
import Imageboard.Text.Blank
import Imageboard.Text.Lowercase
import Imageboard.Text.Offset

/-! Texts that differ in the case of their letters.

Searching a text does not tell the case of its letters where what is looked for has no letters, or is
compared without case: each search here finds in `lowercase s` what it finds in `s`, in lower case. -/
namespace Imageboard.Text

/-- A class of characters to which a letter belongs in both cases or in neither. -/
def CaseBlind (p : Char → Bool) : Prop := ∀ c, p c.toLower = p c

theorem toLower_eq_iff {c d : Char} (hd : d.isAlpha = false) : c.toLower = d ↔ c = d := by
  rw [isAlpha_eq, Bool.or_eq_false_iff] at hd
  cases hc : c.isUpper with
  | false => rw [toLower_of_not_isUpper hc]
  | true =>
    constructor
    · rintro rfl
      rw [isLower_toLower hc] at hd
      exact absurd hd.2 (by decide)
    · rintro rfl
      rw [hd.1] at hc
      cases hc

theorem toLower_beq {d : Char} (hd : d.isAlpha = false) (c : Char) : (c.toLower == d) = (c == d) := by
  rw [Bool.eq_iff_iff, beq_iff_eq, beq_iff_eq, toLower_eq_iff hd]

theorem ne_of_toLower_eq {c d e : Char} (he : e.isAlpha = false) (h : d.toLower = c.toLower)
    (hc : c ≠ e) : d ≠ e := fun hd =>
  hc ((toLower_eq_iff he).mp (h ▸ (toLower_eq_iff he).mpr hd))

namespace CaseBlind
variable {p q : Char → Bool} {c : Char}

theorem beq (hc : c.isAlpha = false) : CaseBlind (· == c) := toLower_beq hc

theorem or (hp : CaseBlind p) (hq : CaseBlind q) : CaseBlind fun c => p c || q c :=
  fun c => congr (congrArg _ (hp c)) (hq c)

theorem not (hp : CaseBlind p) : CaseBlind fun c => !p c := fun c => congrArg _ (hp c)

theorem bne (hc : c.isAlpha = false) : CaseBlind (· != c) := (beq hc).not

theorem isSpace : CaseBlind isSpace :=
  ((((beq rfl).or (beq rfl)).or (beq rfl)).or (beq rfl)).or (beq rfl)

end CaseBlind

theorem length_lowercase (s : List Char) : (lowercase s).length = s.length := List.length_map ..

theorem utf8Size_toLower (c : Char) : c.toLower.utf8Size = c.utf8Size := by
  cases hc : c.isUpper with
  | false => rw [toLower_of_not_isUpper hc]
  | true =>
    have hlower := isLower_toLower hc
    simp only [isUpper_eq, decide_eq_true_eq, isLower_eq, Bool.and_eq_true, UInt32.le_iff_toNat_le]
      at hc hlower
    rw [Char.utf8Size_eq_one_iff.mpr, Char.utf8Size_eq_one_iff.mpr]
    · exact UInt32.le_iff_toNat_le.mpr (Nat.le_trans hc.2 (by decide))
    · exact UInt32.le_iff_toNat_le.mpr (Nat.le_trans hlower.2 (by decide))

theorem byteLength_lowercase (s : List Char) : byteLength (lowercase s) = byteLength s := by
  induction s with
  | nil => rfl
  | cons c s ih =>
    show c.toLower.utf8Size + byteLength (lowercase s) = _
    rw [utf8Size_toLower, ih, byteLength]

theorem lowercase_append_congr {a a' b b' : List Char} (ha : lowercase a' = lowercase a)
    (hb : lowercase b' = lowercase b) : lowercase (a' ++ b') = lowercase (a ++ b) := by
  rw [lowercase_append, lowercase_append, ha, hb]

theorem exists_append_of_lowercase {s a b : List Char} (h : lowercase s = lowercase (a ++ b)) :
    ∃ a' b', s = a' ++ b' ∧ lowercase a' = lowercase a ∧ lowercase b' = lowercase b :=
  List.map_eq_append_iff.mp (h.trans (lowercase_append a b))

/-- A character that is no letter stands in both texts. -/
theorem exists_cons_of_lowercase {s t : List Char} {c : Char} (hc : c.isAlpha = false)
    (h : lowercase s = lowercase (c :: t)) : ∃ t', s = c :: t' ∧ lowercase t' = lowercase t := by
  obtain ⟨d, t', rfl, hd, ht⟩ := List.map_eq_cons_iff.mp h
  have hcc : c.toLower = c := (toLower_eq_iff hc).mpr rfl
  obtain rfl := (toLower_eq_iff hc).mp (hd.trans hcc)
  exact ⟨t', rfl, ht⟩

/-! ### Stretches of a text -/

section
variable {p : Char → Bool} (hp : CaseBlind p)
include hp

theorem dropWhile_lowercase (s : List Char) :
    (lowercase s).dropWhile p = lowercase (s.dropWhile p) := by
  unfold lowercase
  rw [List.dropWhile_map, show p ∘ Char.toLower = p from funext hp]

/-- What stops a stretch, stops it in the other case as well. -/
theorem CaseBlind.head {s t : List Char} (hst : lowercase t = lowercase s)
    (h : ∀ c ∈ s.head?, p c = false) : ∀ c ∈ t.head?, p c = false := by
  intro c hc
  obtain ⟨rest, rfl⟩ := List.head?_eq_some_iff.mp hc
  cases s with
  | nil => cases hst
  | cons d s =>
    have hcd : c.toLower = d.toLower := (List.cons.inj hst).1
    rw [← hp, hcd, hp]
    exact h d rfl

theorem CaseBlind.all {s t : List Char} (hst : lowercase t = lowercase s)
    (h : ∀ c ∈ s, p c = true) : ∀ c ∈ t, p c = true := by
  intro c hc
  have hlower : c.toLower ∈ lowercase s := hst ▸ List.mem_map_of_mem hc
  obtain ⟨d, hd, hdc⟩ := List.mem_map.mp hlower
  rw [← hp, ← hdc, hp]
  exact h d hd

/-- A stretch and what stops it, in another case. -/
theorem CaseBlind.stretch {s s' t t' : List Char} (hs : lowercase s' = lowercase s)
    (ht : lowercase t' = lowercase t) (hall : ∀ c ∈ s, p c = true)
    (hstop : ∀ c ∈ t.head?, p c = false) :
    (s' ++ t').takeWhile p = s' ∧ (s' ++ t').dropWhile p = t' :=
  takeWhile_head (hp.all hs hall) (hp.head ht hstop)

end

/-! ### One text in another -/

section
variable {lead : List Char} (hlead : lead.any Char.isAlpha = false)
include hlead

theorem strip?_lowercase (s : List Char) :
    strip? lead (lowercase s) = (strip? lead s).map lowercase := by
  induction lead generalizing s with
  | nil => rfl
  | cons c lead ih =>
    cases s with
    | nil => rfl
    | cons d s =>
      obtain ⟨hc, hlead⟩ := Bool.or_eq_false_iff.mp hlead
      have hsame : (c == d.toLower) = (c == d) := by
        rw [BEq.comm, BEq.comm (a := c), toLower_beq hc]
      show (if (c == d.toLower) then strip? lead (lowercase s) else none) = _
      rw [hsame, strip?, ih hlead s]
      split <;> rfl

theorem splitFirst?_lowercase (s : List Char) :
    splitFirst? lead (lowercase s) = (splitFirst? lead s).map (Prod.map lowercase lowercase) := by
  have hstrip (s : List Char) := strip?_lowercase hlead s
  induction s with
  | nil =>
    unfold splitFirst?
    rw [hstrip]
    cases strip? lead [] <;> rfl
  | cons c s ih =>
    unfold splitFirst?
    rw [hstrip]
    cases strip? lead (c :: s) with
    | some rest => rfl
    | none =>
      show (splitFirst? lead (lowercase s)).map _ = ((splitFirst? lead s).map _).map _
      rw [ih, Option.map_map, Option.map_map]
      rfl

end

end Imageboard.Text
