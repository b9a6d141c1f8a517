import Imageboard.Proofs.Markup.LetterCase
import Imageboard.Proofs.Markup.Names

/-! Pages that write their names in another case.

Two pages are read side by side. As long as they have the same parts, up to the case of letters in
names, the readers stop at the same places, and what they read of the two pages is the same:
`readAttributes_recased` for one tag, `InFrontOf.recased` for one lexeme of any kind, and
`located_recased` for a whole page by induction on its lexemes. -/
namespace Imageboard
open Lexeme Markup Text

/-- The second text is the first but for the case of letters at the places that are marked. So it is
as long as the first. -/
structure Recased (marks : List Bool) (s t : List Char) : Prop where
  folds : lowercase t = lowercase s
  elsewhere : ∀ i : Nat, marks[i]? ≠ some true → t[i]? = s[i]?

theorem recased_iff {marks : List Bool} {s t : List Char} : Recased marks s t ↔
    lowercase t = lowercase s ∧ ∀ i < s.length, marks[i]? = some true ∨ t[i]? = s[i]? := by
  constructor
  · exact fun h => ⟨h.folds, fun i _ => Classical.or_iff_not_imp_left.mpr (h.elsewhere i)⟩
  · rintro ⟨hfolds, h⟩
    refine ⟨hfolds, fun i hi => ?_⟩
    by_cases hlt : i < s.length
    · exact (h i hlt).resolve_left hi
    · have hlength : t.length = s.length := by rw [← length_lowercase, hfolds, length_lowercase]
      rw [List.getElem?_eq_none (by omega), List.getElem?_eq_none (by omega)]

instance (marks : List Bool) (s t : List Char) : Decidable (Recased marks s t) :=
  decidable_of_iff _ recased_iff.symm

namespace Part

/-- The text is written in these parts, with names in any case. -/
inductive Spell : List Part → List Char → Prop
  | nil : Spell [] []
  | name {x y s : List Char} {parts : List Part} (hy : lowercase y = lowercase x)
      (hs : Spell parts s) : Spell (⟨x, true⟩ :: parts) (y ++ s)
  | other (x : List Char) {s : List Char} {parts : List Part} (hs : Spell parts s) :
      Spell (⟨x, false⟩ :: parts) (x ++ s)

theorem Spell.folds {parts : List Part} {t : List Char} (h : Spell parts t) :
    lowercase t = lowercase (parts.flatMap spelling) := by
  induction h with
  | nil => rfl
  | name hy _ ih => exact lowercase_append_congr hy ih
  | other x _ ih => exact lowercase_append_congr rfl ih

theorem Spell.of_name {x t : List Char} {parts : List Part} (h : Spell (⟨x, true⟩ :: parts) t) :
    ∃ y s, t = y ++ s ∧ lowercase y = lowercase x ∧ Spell parts s := by
  cases h with
  | name hy hs => exact ⟨_, _, rfl, hy, hs⟩

theorem Spell.of_other {x t : List Char} {parts : List Part} (h : Spell (⟨x, false⟩ :: parts) t) :
    ∃ s, t = x ++ s ∧ Spell parts s := by
  cases h with
  | other _ hs => exact ⟨_, rfl, hs⟩

theorem Spell.of_singleton {x t : List Char} (h : Spell [⟨x, false⟩] t) : t = x := by
  obtain ⟨s, rfl, hs⟩ := h.of_other
  cases hs
  exact List.append_nil x

theorem Spell.of_append {front back : List Part} {t : List Char} (h : Spell (front ++ back) t) :
    ∃ a b, t = a ++ b ∧ Spell front a ∧ Spell back b := by
  induction front generalizing t with
  | nil => exact ⟨[], t, rfl, .nil, h⟩
  | cons part front ih =>
    cases h with
    | @name x y s _ hy hs =>
      obtain ⟨a, b, rfl, ha, hb⟩ := ih hs
      exact ⟨y ++ a, b, (List.append_assoc ..).symm, .name hy ha, hb⟩
    | @other x s _ hs =>
      obtain ⟨a, b, rfl, ha, hb⟩ := ih hs
      exact ⟨x ++ a, b, (List.append_assoc ..).symm, .other x ha, hb⟩

/-- A text in which only marked letters change case is written in the same parts. -/
theorem spell_of_recased {parts : List Part} {t : List Char}
    (h : Imageboard.Recased (marks parts) (parts.flatMap spelling) t) : Spell parts t := by
  induction parts generalizing t with
  | nil =>
    obtain rfl : t = [] := List.map_eq_nil_iff.mp h.folds
    exact .nil
  | cons part parts ih =>
    obtain ⟨x, isName⟩ := part
    obtain ⟨folds, elsewhere⟩ := h
    have hpage : (⟨x, isName⟩ :: parts : List Part).flatMap spelling = x ++ parts.flatMap spelling :=
      List.flatMap_cons
    rw [hpage] at folds elsewhere
    obtain ⟨y, s, rfl, hy, hs⟩ := exists_append_of_lowercase folds
    have hlength : y.length = x.length := by rw [← length_lowercase, hy, length_lowercase]
    have hmarks : marks (⟨x, isName⟩ :: parts) = List.replicate x.length isName ++ marks parts :=
      List.flatMap_cons
    have hrest : Spell parts s := by
      refine ih ⟨hs, fun i hi => ?_⟩
      have hplace := elsewhere (x.length + i) (by
        rwa [hmarks, List.getElem?_append_right (by simp), List.length_replicate,
          Nat.add_sub_cancel_left])
      rwa [List.getElem?_append_right (by omega), List.getElem?_append_right (by omega), hlength,
        Nat.add_sub_cancel_left] at hplace
    cases isName with
    | true => exact .name hy hrest
    | false =>
      obtain rfl : y = x := by
        refine List.ext_getElem? fun i => ?_
        by_cases hi : i < x.length
        · have hplace := elsewhere i (by
            rw [hmarks, List.getElem?_append_left (by simpa using hi), List.getElem?_replicate,
              if_pos hi]
            decide)
          rwa [List.getElem?_append_left (by omega), List.getElem?_append_left hi] at hplace
        · rw [List.getElem?_eq_none (by omega), List.getElem?_eq_none (by omega)]
      exact .other y hrest

end Part

namespace Markup

theorem head_dropWhile (p : Char → Bool) (s : List Char) :
    ∀ c ∈ (s.dropWhile p).head?, p c = false := by
  intro c hc
  have hstop := List.head?_dropWhile_not p s
  rw [hc] at hstop
  exact hstop

theorem dropWhile_spaces (s t : List Char) {c : Char} (hc : isSpace c = false) :
    (s.takeWhile isSpace ++ c :: t).dropWhile isSpace = c :: t :=
  dropWhile_stop (List.all_eq_true.mp List.all_takeWhile) hc t

/-- A key and what stands behind it are told apart in any case. -/
theorem readAttributes_key_recased {o : Options} {earlier : Attributes}
    {s rest written behind : List Char} {c : Char} (hd : s.dropWhile isSpace = c :: rest)
    (hgt : c ≠ '>') (hslash : c ≠ '/') (heq : c ≠ '=')
    (hwritten : lowercase written = lowercase (c :: rest.takeWhile isKeyCharacter))
    (hbehind : lowercase behind = lowercase (rest.dropWhile isKeyCharacter)) :
    readAttributes o earlier (s.takeWhile isSpace ++ (written ++ behind)) =
      readAttributes o
        (earlier.insert (String.ofList (lowercase (c :: rest.takeWhile isKeyCharacter)))
          (attributeValue o (readAssignment behind).1)) (readAssignment behind).2 := by
  have hspace : isSpace c = false := head_dropWhile isSpace s c (by rw [hd]; rfl)
  obtain ⟨d, letters, rfl, hdc, hletters⟩ := List.map_eq_cons_iff.mp hwritten
  obtain ⟨htake, hdrop⟩ := caseBlind_isKeyCharacter.stretch hletters hbehind
    (List.all_eq_true.mp List.all_takeWhile) (head_dropWhile isKeyCharacter rest)
  have hskip := dropWhile_spaces s (letters ++ behind) (c := d) (by
    rw [← CaseBlind.isSpace, hdc, CaseBlind.isSpace, hspace])
  rw [List.cons_append, readAttributes_key hskip (ne_of_toLower_eq rfl hdc hgt)
    (ne_of_toLower_eq rfl hdc hslash) (ne_of_toLower_eq rfl hdc heq), htake, hdrop, hwritten]

theorem folds_behind {o : Options} {earlier : Attributes} {s v b : List Char}
    (hv : Part.Spell (attributeParts s) v)
    (hb : lowercase b = lowercase (readAttributes o earlier s).2) :
    lowercase (v ++ b) = lowercase s := by
  rw [lowercase_append_congr hv.folds hb, attributeParts_spelling]

/-- A tag in other letters has the same attributes, and it ends where the tag ended, whatever the case
of the letters behind it. -/
theorem readAttributes_recased {o : Options} {earlier : Attributes} {s v b : List Char}
    (hv : Part.Spell (attributeParts s) v)
    (hb : lowercase b = lowercase (readAttributes o earlier s).2) :
    readAttributes o earlier (v ++ b) = ((readAttributes o earlier s).1, b) := by
  fun_induction readAttributes o earlier s generalizing v with
  | case1 earlier s hd =>
    obtain rfl : b = [] := List.map_eq_nil_iff.mp hb
    rw [attributeParts_cut_off hd] at hv
    obtain rfl := hv.of_singleton
    rw [List.append_nil]
    refine readAttributes_cut_off (List.dropWhile_eq_nil_iff.mpr ?_)
    exact List.all_eq_true.mp List.all_takeWhile
  | case2 earlier s rest hd =>
    rw [attributeParts_end hd] at hv
    obtain ⟨w, rfl, hw⟩ := hv.of_other
    obtain rfl := hw.of_singleton
    rw [List.append_assoc]
    exact readAttributes_end (dropWhile_spaces s b rfl)
  | case3 earlier s rest hd =>
    rw [attributeParts_self_closing hd] at hv
    obtain ⟨w, rfl, hw⟩ := hv.of_other
    obtain rfl := hw.of_singleton
    rw [List.append_assoc]
    exact readAttributes_self_closing (dropWhile_spaces s ('>' :: b) rfl)
  | case4 earlier s rest hne hd ih =>
    rw [attributeParts_slash hd (head?_ne_gt hne)] at hv
    obtain ⟨w, rfl, hw⟩ := hv.of_other
    obtain ⟨u, rfl, hu⟩ := hw.of_other
    have hgt : (u ++ b).head? ≠ some '>' := by
      intro hgt
      obtain ⟨q, hq⟩ := List.head?_eq_some_iff.mp hgt
      have hfolds := folds_behind hu hb
      rw [hq] at hfolds
      obtain ⟨q', hq', -⟩ := exists_cons_of_lowercase rfl hfolds.symm
      exact hne q' hq'
    rw [List.append_assoc, List.append_assoc, List.singleton_append,
      readAttributes_slash (dropWhile_spaces s (u ++ b) rfl) hgt]
    exact ih hu hb
  | case5 earlier s rest hd ih =>
    rw [attributeParts_stray hd] at hv
    obtain ⟨w, rfl, hw⟩ := hv.of_other
    obtain ⟨u, rfl, hu⟩ := hw.of_other
    rw [List.append_assoc, List.append_assoc, List.singleton_append,
      readAttributes_stray (dropWhile_spaces s (u ++ b) rfl)]
    exact ih hu hb
  | case6 earlier s c rest hgt _ hslash heq hd key value =>
    rename_i ih
    rw [attributeParts_key hd hgt hslash heq] at hv
    obtain ⟨w, rfl, hw⟩ := hv.of_other
    obtain ⟨written, w', rfl, hwritten, hw'⟩ := hw.of_name
    obtain ⟨u, rfl, hu⟩ := hw'.of_other
    have hfolds := folds_behind hu hb
    have hassigned := before_append (readAssignment_isSuffix (rest.dropWhile isKeyCharacter))
    have hread : readAssignment (before (rest.dropWhile isKeyCharacter) value.2 ++ (u ++ b)) =
        (value.1, u ++ b) :=
      readAssignment_behind hfolds (by rw [hassigned])
    simp only [List.append_assoc]
    rw [readAttributes_key_recased hd hgt hslash heq hwritten, hread]
    · exact ih hu hb
    · rw [lowercase_append_congr rfl hfolds, hassigned]

end Markup

namespace Lexeme

/-- The letters of a name are a name in any case. -/
theorem exists_letters {d : Char} {letters written : List Char} (hd : d.isAlpha = true)
    (hname : ∀ c ∈ d :: letters, isNameCharacter c = true)
    (hwritten : lowercase written = lowercase (d :: letters)) :
    ∃ e more, written = e :: more ∧ e.isAlpha = true ∧ ∀ c ∈ e :: more, isNameCharacter c = true := by
  obtain ⟨e, more, rfl, hed, -⟩ := List.map_eq_cons_iff.mp hwritten
  refine ⟨e, more, rfl, ?_, caseBlind_isNameCharacter.all hwritten hname⟩
  rw [← isAlpha_toLower, hed, isAlpha_toLower, hd]

/-- One lexeme of any kind, with its names in another case: the token is the same, and what stands
behind may be in another case as well. -/
theorem InFrontOf.recased {o : Options} {l : Lexeme} {rest s b : List Char} (h : l.InFrontOf o rest)
    (hs : Part.Spell l.parts s) (hb : lowercase b = lowercase rest) : InFrontOf o ⟨s, l.token⟩ b := by
  cases h with
  | @tag d letters written _ tail hd hname hstop hread =>
    rw [parts_tag hname hstop hread] at hs
    obtain ⟨t, rfl, ht⟩ := hs.of_other
    obtain ⟨name, v, rfl, hsame, hv⟩ := ht.of_name
    obtain ⟨e, more, rfl, he, hname'⟩ := exists_letters hd hname hsame
    have hb' : lowercase b = lowercase (readAttributes o .empty (written ++ rest)).2 := by
      rw [hb, hread]
    have hread' := readAttributes_recased hv hb'
    rw [hread] at hread'
    rw [← hsame]
    exact .tag he hname' (caseBlind_isNameCharacter.head (folds_behind hv hb') hstop) hread'
  | @endTag d letters written _ hd hname hstop hread =>
    rw [parts_endTag hname hstop] at hs
    obtain ⟨t, rfl, ht⟩ := hs.of_other
    obtain ⟨name, v, rfl, hsame, hv⟩ := ht.of_name
    obtain rfl := hv.of_singleton
    obtain ⟨e, more, rfl, he, hname'⟩ := exists_letters hd hname hsame
    have hstop' := caseBlind_isNameCharacter.head (lowercase_append_congr rfl hb) hstop
    rw [← hsame]
    exact .endTag he hname' hstop' ((caseBlindReader_after rfl).ending hread rfl hb)
  | emptyTag =>
    obtain rfl := hs.of_singleton
    exact .emptyTag b
  | @declaration d written _ hd hread =>
    obtain rfl := hs.of_singleton
    exact .declaration hd (caseBlindReader_afterDeclaration.ending (x := d :: written) hread rfl hb)
  | @text c written _ hstart hread =>
    obtain rfl := hs.of_singleton
    refine .text ?_ (caseBlindReader_afterText.ending hread rfl hb)
    rw [← startsMarkup_lowercase, ← List.cons_append, lowercase_append_congr rfl hb,
      startsMarkup_lowercase]
    exact hstart

end Lexeme

/-- The body of a raw-text element has no names. -/
theorem body_recased {s rest b : List Char} (hsuffix : rest <:+ s)
    (h : Part.Spell ((bodyBefore s rest).flatMap parts) b) :
    b ++ rest = s ∧ ∀ t, bodyBefore (b ++ t) t = bodyBefore s rest := by
  unfold bodyBefore at h ⊢
  split at h
  · rename_i hlength
    cases h
    exact ⟨(hsuffix.eq_of_length hlength.symm), fun t => by simp [hlength]⟩
  · rename_i hlength
    obtain rfl : b = before s rest := Part.Spell.of_singleton h
    have hs := before_append hsuffix
    refine ⟨hs, fun t => ?_⟩
    rw [if_neg hlength, if_neg, textBefore_written]
    · rfl
    · rw [← hs, List.length_append] at hlength
      rw [List.length_append]
      omega

/-- Two pages side by side, lexeme by lexeme. -/
theorem located_recased {o : Options} {page page' : List Char}
    (h : Part.Spell ((lexemes o page).flatMap parts) page') (start : Nat) :
    located start (lexemes o page') = located start (lexemes o page) := by
  fun_induction lexemes o page generalizing page' start with
  | case1 =>
    cases h
    rw [lexemes]
  | case2 c s head rest =>
    rename_i ih
    rw [List.flatMap_cons, List.flatMap_append] at h
    -- The first lexeme, the body that it opens, if it opens one, and the rest of the page.
    obtain ⟨y, behind, rfl, hy, hbehind⟩ := h.of_append
    obtain ⟨b, t, rfl, hb, ht⟩ := hbehind.of_append
    have hfirst : head.1.InFrontOf o head.2 := inFrontOf_first o c s
    obtain ⟨hbody, hsame⟩ :
        b ++ rest = head.2 ∧ ∀ u, bodyBefore (b ++ u) u = bodyBefore head.2 rest :=
      body_recased (afterBody_isSuffix o head.1.token head.2) hb
    have hrest : lowercase t = lowercase rest := by rw [ht.folds, parts_spelling]
    have hafter : afterBody o head.1.token (b ++ t) = t :=
      (caseBlindReader_afterBody o head.1.token).ending (congrArg _ hbody) rfl hrest
    have hbehind' : lowercase (b ++ t) = lowercase head.2 := by
      rw [lowercase_append_congr rfl hrest, hbody]
    obtain ⟨d, u, hpage, hread⟩ := (hfirst.recased hy hbehind').first
    have hlength : byteLength y = byteLength head.1.spelling := by
      rw [← byteLength_lowercase, hy.folds, hfirst.parts_spelling, byteLength_lowercase]
    have hlater (n : Nat) : located n (bodyBefore head.2 rest ++ lexemes o t) =
        located n (bodyBefore head.2 rest ++ lexemes o rest) := by
      rw [located_append, located_append, ih ht]
    rw [hpage, lexemes_cons, hread, hafter, hsame, located_cons, located_cons]
    dsimp only
    rw [hlength]
    simp only [hlater]

/-- The case of letters in names tells nothing: the page has the same tokens at the same places. -/
theorem tokens_recased {o : Options} {page page' : List Char}
    (h : Recased (nameMarks o page) page page') : tokens o page' = tokens o page :=
  located_recased (Part.spell_of_recased (by rwa [parts_spelling])) 0

end Imageboard
