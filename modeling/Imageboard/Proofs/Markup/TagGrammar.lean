import Mathlib.Data.List.TakeWhile
import Imageboard.Proofs.Markup.Attributes

/-! The grammar of the inside of a tag.

Behind its name a tag carries keys with what is assigned to them, whatever stands around them: a stray
`=` or `/`, a key alone, a value without quotes, a quote that is closed far behind or never. `Carries`
says how these are told apart. The inside of every tag is written in some such way (`exists_carries`),
in only one (`Carries.unique`), and it is read in this way (`Carries.read`). -/
namespace Imageboard.Markup
open Text

/-- A stretch of characters that keep to `p`, and what stands behind it and does not go on so. -/
structure Stretch (p : Char → Bool) (stretch rest : List Char) : Prop where
  all : ∀ c ∈ stretch, p c = true
  stops : ∀ c ∈ rest.head?, p c = false

theorem exists_stretch_of (p : Char → Bool) (s : List Char) :
    ∃ stretch rest, s = stretch ++ rest ∧ Stretch p stretch rest := by
  obtain ⟨stretch, rest, hs, hall, hstops, -⟩ := exists_stretch p s
  exact ⟨stretch, rest, hs, hall, hstops⟩

theorem Stretch.read {p : Char → Bool} {stretch rest : List Char} (h : Stretch p stretch rest) :
    (stretch ++ rest).takeWhile p = stretch ∧ (stretch ++ rest).dropWhile p = rest :=
  takeWhile_head h.all h.stops

/-! ### Values -/

def IsQuote (c : Char) : Prop := c = '"' ∨ c = '\''

theorem isQuote_iff {c : Char} : IsQuote c ↔ (c == '"' || c == '\'') = true := by
  simp [IsQuote]

/-- Where the value of a key may begin, the text `s` begins with `value`, in front of `rest`. -/
inductive BeginsValue : (s value rest : List Char) → Prop
  /-- A value up to the quote that closes it, wherever that is. -/
  | closed {quote : Char} {value rest : List Char} (hquote : IsQuote quote) (hvalue : quote ∉ value) :
      BeginsValue (quote :: (value ++ quote :: rest)) value rest
  /-- The quote never comes again, and the value ends where the tag does. -/
  | unclosed {quote : Char} {value rest : List Char} (hquote : IsQuote quote)
      (hnever : quote ∉ value ++ rest) (hvalue : Stretch (· != '>') value rest) :
      BeginsValue (quote :: (value ++ rest)) value rest
  /-- A value without quotes, up to a space or to where the tag ends. -/
  | bare {value rest : List Char} (hhead : ∀ c ∈ (value ++ rest).head?, ¬ IsQuote c)
      (hvalue : Stretch (fun c => !(isSpace c || c == '>')) value rest) :
      BeginsValue (value ++ rest) value rest

theorem BeginsValue.read {s value rest : List Char} (h : BeginsValue s value rest) :
    readValue s = (value, rest) := by
  cases h with
  | closed hquote hvalue => exact readValue_quoted hquote hvalue rest
  | @unclosed quote _ _ hquote hnever hvalue =>
    have hgone : (value ++ rest).dropWhile (· != quote) = [] :=
      List.dropWhile_eq_nil_iff.mpr fun c hc => bne_iff_ne.mpr fun he => hnever (he ▸ hc)
    rw [readValue, if_pos (isQuote_iff.mp hquote), hgone]
    exact Prod.ext hvalue.read.1 hvalue.read.2
  | bare hhead hvalue =>
    obtain ⟨htake, hdrop⟩ := hvalue.read
    cases hs : value ++ rest with
    | nil =>
      obtain ⟨rfl, rfl⟩ := List.append_eq_nil_iff.mp hs
      rfl
    | cons c s =>
      rw [hs] at hhead htake hdrop
      rw [readValue, if_neg (fun hq => hhead c rfl (isQuote_iff.mpr hq)), cut, htake, hdrop]

theorem exists_beginsValue (s : List Char) : ∃ value rest, BeginsValue s value rest := by
  have hbare (hhead : ∀ c ∈ s.head?, ¬ IsQuote c) : ∃ value rest, BeginsValue s value rest := by
    obtain ⟨value, rest, rfl, hvalue⟩ := exists_stretch_of (fun c => !(isSpace c || c == '>')) s
    exact ⟨value, rest, .bare hhead hvalue⟩
  cases s with
  | nil => exact hbare nofun
  | cons c s =>
    by_cases hquote : IsQuote c
    · obtain ⟨value, rest, rfl, hvalue⟩ := exists_stretch_of (· != c) s
      have hnot : c ∉ value := fun hmem => bne_iff_ne.mp (hvalue.all c hmem) rfl
      cases rest with
      | cons d rest =>
        obtain rfl : d = c := by simpa using hvalue.stops d rfl
        exact ⟨value, rest, .closed hquote hnot⟩
      | nil =>
        obtain ⟨value', rest, hs, hvalue'⟩ := exists_stretch_of (· != '>') (value ++ [])
        rw [hs]
        rw [List.append_nil] at hs
        exact ⟨value', rest, .unclosed hquote (hs ▸ hnot) hvalue'⟩
    · refine hbare fun d hd => ?_
      obtain rfl := Option.some.inj hd
      exact hquote

/-- Behind a key, the text `s` begins with what is assigned to it, in front of `rest`. -/
inductive Assigns : (s value rest : List Char) → Prop
  | value {gap gap' s value rest : List Char} (hgap : ∀ c ∈ gap, isSpace c = true)
      (hgap' : Stretch isSpace gap' s) (hvalue : BeginsValue s value rest) :
      Assigns (gap ++ '=' :: (gap' ++ s)) value rest
  /-- A key alone has the empty value. -/
  | nothing {gap rest : List Char} (hgap : Stretch isSpace gap rest) (hrest : rest.head? ≠ some '=') :
      Assigns (gap ++ rest) [] rest

theorem Assigns.read {s value rest : List Char} (h : Assigns s value rest) :
    readAssignment s = (value, rest) := by
  unfold readAssignment
  cases h with
  | value hgap hgap' hvalue =>
    rw [dropWhile_stop hgap rfl]
    show readValue _ = _
    rw [hgap'.read.2, hvalue.read]
  | nothing hgap hrest =>
    rw [hgap.read.2]
    split
    · exact absurd rfl hrest
    · rfl

theorem exists_assigns (s : List Char) : ∃ value rest, Assigns s value rest := by
  obtain ⟨gap, behind, rfl, hgap⟩ := exists_stretch_of isSpace s
  by_cases hbehind : behind.head? = some '='
  · obtain ⟨s, rfl⟩ := List.head?_eq_some_iff.mp hbehind
    obtain ⟨gap', s, rfl, hgap'⟩ := exists_stretch_of isSpace s
    obtain ⟨value, rest, hvalue⟩ := exists_beginsValue s
    exact ⟨value, rest, .value hgap.all hgap' hvalue⟩
  · exact ⟨[], behind, .nothing hgap hbehind⟩

theorem Assigns.isSuffix {s value rest : List Char} (h : Assigns s value rest) : rest <:+ s := by
  have hsuffix := readAssignment_isSuffix s
  rwa [h.read] at hsuffix

theorem Assigns.unique {s value value' rest rest' : List Char} (h : Assigns s value rest)
    (h' : Assigns s value' rest') : value = value' ∧ rest = rest' :=
  Prod.mk.inj (h.read.symm.trans h'.read)

/-! ### Keys -/

/-- A character that stands in a tag by itself. -/
def IsStray (c : Char) (behind : List Char) : Prop :=
  isSpace c = true ∨ c = '=' ∨ (c = '/' ∧ behind.head? ≠ some '>')

/-- From within a tag, the text `s` carries these keys with their values, as they are written, up to
the end of the tag in front of `rest`. -/
inductive Carries : (s rest : List Char) → (written : List (List Char × List Char)) →
    (selfClosing : Bool) → Prop
  | cutOff : Carries [] [] [] false
  | close (rest : List Char) : Carries ('>' :: rest) rest [] false
  | selfClose (rest : List Char) : Carries ('/' :: '>' :: rest) rest [] true
  | stray {c : Char} {s rest : List Char} {written : List (List Char × List Char)}
      {selfClosing : Bool} (hc : IsStray c s) (h : Carries s rest written selfClosing) :
      Carries (c :: s) rest written selfClosing
  | key {key behind value s rest : List Char} {written : List (List Char × List Char)}
      {selfClosing : Bool} (hkey : IsKey key) (hstop : ∀ c ∈ behind.head?, isKeyCharacter c = false)
      (hvalue : Assigns behind value s) (h : Carries s rest written selfClosing) :
      Carries (key ++ behind) rest ((key, value) :: written) selfClosing

theorem isKeyCharacter_eq_false {c : Char} :
    isKeyCharacter c = false ↔ isSpace c = true ∨ c = '=' ∨ c = '>' ∨ c = '/' := by
  simp only [isKeyCharacter, Bool.not_eq_false', Bool.or_eq_true, beq_iff_eq, or_assoc]

theorem IsStray.not_key {c : Char} {behind : List Char} (h : IsStray c behind) :
    isKeyCharacter c = false :=
  isKeyCharacter_eq_false.mpr (h.imp id (·.imp id fun hslash => .inr hslash.1))

/-- There is a way to read the inside of a tag, whatever it is. -/
theorem exists_carries (s : List Char) :
    ∃ rest written selfClosing, Carries s rest written selfClosing := by
  induction hn : s.length using Nat.strongRecOn generalizing s with
  | ind n ih =>
    cases s with
    | nil => exact ⟨[], [], false, .cutOff⟩
    | cons c s =>
      have hlater : ∀ t : List Char, t.length ≤ s.length →
          ∃ rest written selfClosing, Carries t rest written selfClosing := fun t ht =>
        ih t.length (by rw [← hn, List.length_cons]; omega) t rfl
      cases hc : isKeyCharacter c with
      | true =>
        obtain ⟨key, behind, rfl, hkey⟩ := exists_stretch_of isKeyCharacter s
        obtain ⟨value, t, hvalue⟩ := exists_assigns behind
        obtain ⟨rest, written, selfClosing, h⟩ := hlater t (by
          exact (hvalue.isSuffix.trans (List.suffix_append key behind)).length_le)
        have hkeys : IsKey (c :: key) :=
          ⟨List.cons_ne_nil c key, List.forall_mem_cons.mpr ⟨hc, hkey.all⟩⟩
        exact ⟨rest, _, selfClosing, .key hkeys hkey.stops hvalue h⟩
      | false =>
        have hstray (hstray : IsStray c s) :
            ∃ rest written selfClosing, Carries (c :: s) rest written selfClosing := by
          obtain ⟨rest, written, selfClosing, h⟩ := hlater s (Nat.le_refl _)
          exact ⟨rest, written, selfClosing, .stray hstray h⟩
        rcases isKeyCharacter_eq_false.mp hc with hspace | rfl | rfl | rfl
        · exact hstray (.inl hspace)
        · exact hstray (.inr (.inl rfl))
        · exact ⟨s, [], false, .close s⟩
        · by_cases hgt : s.head? = some '>'
          · obtain ⟨rest, rfl⟩ := List.head?_eq_some_iff.mp hgt
            exact ⟨rest, [], true, .selfClose rest⟩
          · exact hstray (.inr (.inr ⟨rfl, hgt⟩))

/-- An attribute as it is read: the key in lower case, and the value with its references replaced. -/
def entryOf (o : Options) (written : List Char × List Char) : String × String :=
  (String.ofList (lowercase written.1), attributeValue o written.2)

/-- The inside of a tag is read as it is written, each attribute behind those before it. -/
theorem Carries.read {s rest : List Char} {written : List (List Char × List Char)}
    {selfClosing : Bool} (h : Carries s rest written selfClosing) (o : Options)
    (earlier : Attributes) :
    readAttributes o earlier s =
      (⟨earlier.insertAll (written.map (entryOf o)), selfClosing⟩, rest) := by
  induction h generalizing earlier with
  | cutOff => exact readAttributes_cut_off rfl
  | close rest => exact readAttributes_end rfl
  | selfClose rest => exact readAttributes_self_closing rfl
  | stray hc h ih =>
    rcases hc with hspace | rfl | ⟨rfl, hgt⟩
    · exact (readAttributes_space hspace _).trans (ih earlier)
    · exact (readAttributes_stray rfl).trans (ih earlier)
    · exact (readAttributes_slash rfl hgt).trans (ih earlier)
  | key hkey hstop hvalue h ih => exact (readAttributes_keyed hkey hstop hvalue.read).trans (ih _)

/-! ### One way only -/

section
variable {c : Char} {key behind value s t rest : List Char}
  {written : List (List Char × List Char)} {selfClosing : Bool}

theorem Carries.of_nil (h : Carries [] rest written selfClosing) :
    rest = [] ∧ written = [] ∧ selfClosing = false := by
  generalize hs : [] = s at h
  cases h with
  | cutOff => exact ⟨rfl, rfl, rfl⟩
  | close => cases hs
  | selfClose => cases hs
  | stray => cases hs
  | key hkey => exact absurd (List.append_eq_nil_iff.mp hs.symm).1 hkey.1

/-- A character that is in no key ends the tag or stands by itself. -/
theorem Carries.of_not_key (hc : isKeyCharacter c = false)
    (h : Carries (c :: t) rest written selfClosing) :
    (c = '>' ∧ rest = t ∧ written = [] ∧ selfClosing = false) ∨
      (c = '/' ∧ t = '>' :: rest ∧ written = [] ∧ selfClosing = true) ∨
      (IsStray c t ∧ Carries t rest written selfClosing) := by
  generalize hs : c :: t = s at h
  cases h with
  | cutOff => cases hs
  | close =>
    obtain ⟨rfl, rfl⟩ := List.cons.inj hs
    exact .inl ⟨rfl, rfl, rfl, rfl⟩
  | selfClose =>
    obtain ⟨rfl, rfl⟩ := List.cons.inj hs
    exact .inr (.inl ⟨rfl, rfl, rfl, rfl⟩)
  | stray hc h =>
    obtain ⟨rfl, rfl⟩ := List.cons.inj hs
    exact .inr (.inr ⟨hc, h⟩)
  | @key key behind _ _ _ _ _ hkey =>
    obtain ⟨d, k, rfl⟩ := List.exists_cons_of_ne_nil hkey.1
    obtain ⟨rfl, -⟩ := List.cons.inj hs
    rw [hkey.2 c List.mem_cons_self] at hc
    cases hc

/-- A key at the beginning is the first that is carried. -/
theorem Carries.of_key (hkey : IsKey key) (hstop : ∀ c ∈ behind.head?, isKeyCharacter c = false)
    (hvalue : Assigns behind value t) (h : Carries (key ++ behind) rest written selfClosing) :
    ∃ later, written = (key, value) :: later ∧ Carries t rest later selfClosing := by
  obtain ⟨d, k, rfl⟩ := List.exists_cons_of_ne_nil hkey.1
  have hd := hkey.2 d List.mem_cons_self
  have hother {e : Char} {r : List Char} (he : isKeyCharacter e = false) :
      d :: k ++ behind ≠ e :: r := by
    intro heq
    obtain ⟨rfl, -⟩ := List.cons.inj heq
    rw [hd] at he
    cases he
  generalize hs : d :: k ++ behind = s at h
  cases h with
  | cutOff => cases hs
  | close => exact absurd hs (hother rfl)
  | selfClose => exact absurd hs (hother rfl)
  | stray hc => exact absurd hs (hother hc.not_key)
  | @key key' behind' value' t' _ _ _ hkey' hstop' hvalue' h =>
    obtain ⟨htake, hdrop⟩ := takeWhile_head hkey.2 hstop
    obtain ⟨htake', hdrop'⟩ := takeWhile_head hkey'.2 hstop'
    obtain rfl : key' = d :: k := by rw [← htake', ← hs, htake]
    obtain rfl : behind' = behind := by rw [← hdrop', ← hs, hdrop]
    obtain ⟨rfl, rfl⟩ := hvalue'.unique hvalue
    exact ⟨_, rfl, h⟩

end

theorem not_isStray_close (behind : List Char) : ¬ IsStray '>' behind := by
  simp [IsStray, isSpace]

theorem not_isStray_selfClose (rest : List Char) : ¬ IsStray '/' ('>' :: rest) := by
  simp [IsStray, isSpace]

/-- The inside of a tag is written in one way only. -/
theorem Carries.unique {s rest rest' : List Char} {written written' : List (List Char × List Char)}
    {selfClosing selfClosing' : Bool} (h : Carries s rest written selfClosing)
    (h' : Carries s rest' written' selfClosing') :
    rest' = rest ∧ written' = written ∧ selfClosing' = selfClosing := by
  induction h generalizing written' with
  | cutOff => exact h'.of_nil
  | close rest =>
    obtain ⟨-, h⟩ | ⟨hc, -⟩ | ⟨hstray, -⟩ := h'.of_not_key rfl
    · exact h
    · cases hc
    · exact absurd hstray (not_isStray_close rest)
  | selfClose rest =>
    obtain ⟨hc, -⟩ | ⟨-, hrest, hwritten, hself⟩ | ⟨hstray, -⟩ := h'.of_not_key rfl
    · cases hc
    · exact ⟨(List.cons.inj hrest).2.symm, hwritten, hself⟩
    · exact absurd hstray (not_isStray_selfClose rest)
  | stray hc _ ih =>
    obtain ⟨rfl, -⟩ | ⟨rfl, rfl, -⟩ | ⟨-, h'⟩ := h'.of_not_key hc.not_key
    · exact absurd hc (not_isStray_close _)
    · exact absurd hc (not_isStray_selfClose _)
    · exact ih h'
  | key hkey hstop hvalue _ ih =>
    obtain ⟨later, rfl, hlater⟩ := h'.of_key hkey hstop hvalue
    obtain ⟨hrest, rfl, hself⟩ := ih hlater
    exact ⟨hrest, rfl, hself⟩

end Imageboard.Markup
