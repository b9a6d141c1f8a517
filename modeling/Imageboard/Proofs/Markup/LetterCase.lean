import Imageboard.Proofs.Markup.RawText
import Imageboard.Proofs.Text.LetterCase

/-! Readers do not tell the case of letters by where they stop.

What a reader hands on of `lowercase s` is what it hands on of `s`, in lower case. So of two texts that
differ in the case of letters alone a reader hands on endings of one length: `CaseBlindReader.ending`.
What it reads is the same where the texts are the same up to there, whatever the case of the letters
behind: the lemmas that end in `_behind`. -/
namespace Imageboard
namespace Markup
open Lexeme Text

theorem caseBlind_isNameCharacter : CaseBlind isNameCharacter := isNameCharacter_toLower

theorem caseBlind_isKeyCharacter : CaseBlind isKeyCharacter :=
  (((CaseBlind.isSpace.or (.beq rfl)).or (.beq rfl)).or (.beq rfl)).not

/-! ### Where readers stop -/

/-- A reader that hands on an ending of the text it is given, whatever the case of its letters. -/
structure CaseBlindReader (read : List Char → List Char) : Prop where
  isSuffix : ∀ s, read s <:+ s
  folds : ∀ s, read (lowercase s) = lowercase (read s)

/-- Two texts that differ in case alone are read up to one place. -/
theorem CaseBlindReader.ending {read : List Char → List Char} (hread : CaseBlindReader read)
    {x x' r r' : List Char} (h : read (x ++ r) = r) (hx : lowercase x' = lowercase x)
    (hr : lowercase r' = lowercase r) : read (x' ++ r') = r' := by
  have hlength : (read (x' ++ r')).length = r'.length := by
    rw [← length_lowercase, ← hread.folds, lowercase_append_congr hx hr, hread.folds, h, ← hr,
      length_lowercase]
  exact (List.suffix_of_suffix_length_le (hread.isSuffix _) (List.suffix_append x' r')
    hlength.le).eq_of_length hlength

theorem startsMarkup_lowercase (s : List Char) : startsMarkup (lowercase s) = startsMarkup s := by
  cases s with
  | nil => rfl
  | cons c s =>
    by_cases hc : c = '<'
    · subst hc
      cases s with
      | nil => rfl
      | cons d s =>
        by_cases hd : d = '/'
        · subst hd
          cases s with
          | nil => rfl
          | cons e s =>
            show startsMarkup ('<' :: '/' :: e.toLower :: lowercase s) = _
            rw [startsMarkup_close, startsMarkup_close, isAlpha_toLower, toLower_beq rfl]
        · show startsMarkup ('<' :: d.toLower :: lowercase s) = _
          rw [startsMarkup_open ((toLower_eq_iff rfl).not.mpr hd), startsMarkup_open hd,
            isAlpha_toLower, toLower_beq rfl, toLower_beq rfl]
    · show startsMarkup (c.toLower :: lowercase s) = _
      rw [startsMarkup_other ((toLower_eq_iff rfl).not.mpr hc), startsMarkup_other hc]

theorem startsEndTag_of_lowercase {name s t : List Char} (hst : lowercase t = lowercase s)
    (h : startsEndTag name s = true) : startsEndTag name t = true := by
  obtain ⟨written, rest, rfl, hwritten, hrest⟩ := startsEndTag_iff.mp h
  obtain ⟨tag, rfl, htag⟩ := exists_cons_of_lowercase rfl hst
  obtain ⟨named, rfl, hnamed⟩ := exists_cons_of_lowercase rfl htag
  obtain ⟨written', rest', rfl, hwritten', hrest'⟩ := exists_append_of_lowercase hnamed
  exact startsEndTag_iff.mpr ⟨written', rest', rfl, hwritten'.trans hwritten,
    caseBlind_isNameCharacter.head hrest' hrest⟩

theorem startsEndTag_lowercase (name s : List Char) :
    startsEndTag name (lowercase s) = startsEndTag name s :=
  Bool.eq_iff_iff.mpr ⟨startsEndTag_of_lowercase (lowercase_lowercase s).symm,
    startsEndTag_of_lowercase (lowercase_lowercase s)⟩

theorem caseBlindReader_after {c : Char} (hc : c.isAlpha = false) : CaseBlindReader (after c) where
  isSuffix := after_isSuffix c
  folds s := by
    unfold after
    rw [dropWhile_lowercase (.bne hc)]
    exact List.map_drop.symm

theorem caseBlindReader_afterText : CaseBlindReader afterText where
  isSuffix := afterText_isSuffix
  folds s := by
    induction s with
    | nil => rfl
    | cons c s ih =>
      have hm := startsMarkup_lowercase (c :: s)
      show (if startsMarkup (lowercase (c :: s)) then lowercase (c :: s)
        else afterText (lowercase s)) = _
      rw [hm, ih, afterText]
      split <;> rfl

theorem caseBlindReader_afterDeclaration : CaseBlindReader afterDeclaration where
  isSuffix := afterDeclaration_isSuffix
  folds s := by
    have hinfix (s : List Char) :
        afterInfix ['-', '-', '>'] (lowercase s) = lowercase (afterInfix ['-', '-', '>'] s) := by
      unfold afterInfix
      rw [splitFirst?_lowercase rfl]
      cases splitFirst? ['-', '-', '>'] s <;> rfl
    unfold afterDeclaration
    rw [strip?_lowercase rfl]
    cases strip? ['!', '-', '-'] s with
    | none => exact (caseBlindReader_after rfl).folds s
    | some body => exact hinfix body

theorem caseBlindReader_afterRawText (name : List Char) : CaseBlindReader (afterRawText name) where
  isSuffix := afterRawText_isSuffix name
  folds s := by
    induction s with
    | nil => rfl
    | cons c s ih =>
      have hm := startsEndTag_lowercase name (c :: s)
      show (if startsEndTag name (lowercase (c :: s)) then lowercase (c :: s)
        else afterRawText name (lowercase s)) = _
      rw [hm, ih, afterRawText]
      split <;> rfl

theorem caseBlindReader_afterBody (o : Options) (token : Option Token) :
    CaseBlindReader (afterBody o token) where
  isSuffix := afterBody_isSuffix o token
  folds s := by
    unfold afterBody
    split
    · split
      · exact (caseBlindReader_afterRawText _).folds s
      · rfl
    · rfl

/-! ### What readers read -/

theorem readValue_no_quote {s : List Char}
    (h : ∀ c ∈ s.head?, (c == '"' || c == '\'') = false) :
    readValue s = cut (fun c => !(isSpace c || c == '>')) s := by
  cases s with
  | nil => rfl
  | cons c s =>
    rw [readValue, h c rfl]
    rfl

section
variable {v r r' x : List Char} (hr : lowercase r' = lowercase r)
include hr

theorem dropWhile_behind {p : Char → Bool} (hp : CaseBlind p) {u : List Char}
    (h : (v ++ r).dropWhile p = u ++ r) :
    (v ++ r').takeWhile p = (v ++ r).takeWhile p ∧ (v ++ r').dropWhile p = u ++ r' := by
  obtain ⟨stretch, rest, hs, hstretch, hrest, htake, hdrop⟩ := exists_stretch p (v ++ r)
  obtain rfl : rest = u ++ r := hdrop.symm.trans h
  obtain rfl : v = stretch ++ u := List.append_cancel_right (by rw [hs, List.append_assoc])
  rw [htake, List.append_assoc]
  exact takeWhile_head hstretch (hp.head (lowercase_append_congr rfl hr) hrest)

theorem cut_behind {p : Char → Bool} (hp : CaseBlind p) (h : cut p (v ++ r) = (x, r)) :
    cut p (v ++ r') = (x, r') := by
  obtain ⟨hx, hdrop⟩ := Prod.mk.inj h
  obtain ⟨htake, hdrop'⟩ := dropWhile_behind (u := []) hr hp hdrop
  rw [cut, htake, hdrop', hx]
  rfl

theorem readValue_quote_behind {c : Char} (hc : c = '"' ∨ c = '\'')
    (h : readValue (c :: (v ++ r)) = (x, r)) : readValue (c :: (v ++ r')) = (x, r') := by
  have hquote : (c == '"' || c == '\'') = true := by simpa using hc
  have hblind : CaseBlind (· != c) := by
    rcases hc with rfl | rfl
    · exact .bne rfl
    · exact .bne rfl
  rw [readValue, if_pos hquote] at h ⊢
  split at h
  · rename_i d rest hd
    obtain ⟨rfl, rfl⟩ := Prod.mk.inj h
    obtain ⟨htake, hdrop⟩ := dropWhile_behind (u := [d]) hr hblind hd
    rw [htake, hdrop]
    rfl
  · rename_i hd
    -- No quote stands behind in the one case of letters, so none does in the other.
    have hnone : lowercase ((v ++ r').dropWhile (· != c)) = [] := by
      rw [← dropWhile_lowercase hblind, lowercase_append_congr rfl hr, dropWhile_lowercase hblind, hd]
      rfl
    rw [List.map_eq_nil_iff.mp hnone]
    exact cut_behind hr (.bne rfl) h

theorem readValue_behind (h : readValue (v ++ r) = (x, r)) : readValue (v ++ r') = (x, r') := by
  by_cases hnone : ∀ c ∈ (v ++ r).head?, (c == '"' || c == '\'') = false
  · have hblind : CaseBlind fun c => c == '"' || c == '\'' := (CaseBlind.beq rfl).or (.beq rfl)
    rw [readValue_no_quote hnone] at h
    rw [readValue_no_quote (hblind.head (lowercase_append_congr rfl hr) hnone)]
    exact cut_behind hr (CaseBlind.isSpace.or (.beq rfl)).not h
  · obtain ⟨c, hcquote⟩ := Classical.not_forall.mp hnone
    obtain ⟨hc, hne⟩ := Classical.not_imp.mp hcquote
    have hquote : (c == '"' || c == '\'') = true := (Bool.not_eq_false _).mp hne
    cases v with
    | nil =>
      -- A quote that is left was never read.
      obtain ⟨t, rfl⟩ := List.head?_eq_some_iff.mp hc
      have hlength := (readValue_quoted_isSuffix hquote t).length_le
      rw [show readValue (c :: t) = (x, c :: t) from h, List.length_cons] at hlength
      omega
    | cons d v =>
      obtain rfl : d = c := Option.some.inj hc
      exact readValue_quote_behind hr (by simpa using hquote) h

theorem readAssignment_behind (h : readAssignment (v ++ r) = (x, r)) :
    readAssignment (v ++ r') = (x, r') := by
  unfold readAssignment at h ⊢
  split at h
  · rename_i rest hd
    have hsuffix : r <:+ rest.dropWhile isSpace := by
      have := readValue_isSuffix (rest.dropWhile isSpace)
      rwa [h] at this
    obtain ⟨m, rfl⟩ := hsuffix.trans (dropWhile_isSuffix isSpace rest)
    obtain ⟨u, hu⟩ := hsuffix
    rw [(dropWhile_behind (u := '=' :: m) hr .isSpace hd).2]
    show readValue ((m ++ r').dropWhile isSpace) = (x, r')
    rw [(dropWhile_behind hr .isSpace hu.symm).2]
    rw [← hu] at h
    exact readValue_behind hr h
  · rename_i hne
    obtain ⟨rfl, hd⟩ := Prod.mk.inj h
    rw [(dropWhile_behind (u := []) hr .isSpace hd).2, List.nil_append]
    split
    · rename_i rest
      obtain ⟨rest', hrest, -⟩ := exists_cons_of_lowercase rfl hr.symm
      exact absurd (hd.trans hrest) (hne rest')
    · rfl

end

end Markup
end Imageboard
