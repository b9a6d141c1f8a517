import Imageboard.Proofs.Markup.Written

/-! The kinds of lexemes.

A page begins with a tag, an end tag, `</>`, a declaration or other text. `InFrontOf` says of each kind
how it is written and what may stand behind it; `inFrontOf_first` and `InFrontOf.first` are the two
directions of one equivalence with the reader. -/
namespace Imageboard
open Markup Text

namespace Lexeme

/-- A stretch of text. -/
def ofText (s : List Char) : Lexeme := ⟨s, some (.text (String.ofList s))⟩

/-- The lexeme is what a page begins with that goes on with the given rest. -/
inductive InFrontOf (o : Options) : Lexeme → List Char → Prop
  | tag {d : Char} {letters written rest : List Char} {tail : TagTail} (hd : d.isAlpha = true)
      (hname : ∀ c ∈ d :: letters, isNameCharacter c = true)
      (hstop : ∀ c ∈ (written ++ rest).head?, isNameCharacter c = false)
      (hread : readAttributes o .empty (written ++ rest) = (tail, rest)) :
      InFrontOf o
        ⟨'<' :: (d :: letters ++ written), some (.openTag (String.ofList (lowercase (d :: letters)))
          tail.attributes tail.selfClosing)⟩ rest
  | endTag {d : Char} {letters written rest : List Char} (hd : d.isAlpha = true)
      (hname : ∀ c ∈ d :: letters, isNameCharacter c = true)
      (hstop : ∀ c ∈ (written ++ rest).head?, isNameCharacter c = false)
      (hread : after '>' (written ++ rest) = rest) :
      InFrontOf o
        ⟨'<' :: '/' :: (d :: letters ++ written),
          some (.closeTag (String.ofList (lowercase (d :: letters))))⟩ rest
  | emptyTag (rest : List Char) : InFrontOf o ⟨['<', '/', '>'], none⟩ rest
  | declaration {d : Char} {written rest : List Char} (hd : d = '!' ∨ d = '?')
      (hread : afterDeclaration (d :: (written ++ rest)) = rest) :
      InFrontOf o (ofText ('<' :: d :: written)) rest
  | text {c : Char} {written rest : List Char}
      (hstart : startsMarkup (c :: (written ++ rest)) = false)
      (hread : afterText (written ++ rest) = rest) : InFrontOf o (ofText (c :: written)) rest

theorem isNameCharacter_of_isAlpha {c : Char} (h : c.isAlpha = true) : isNameCharacter c = true := by
  simp [isNameCharacter, Char.isAlphanum, h]

theorem textBefore_written (s rest : List Char) : textBefore (s ++ rest) rest = ofText s := by
  rw [textBefore, before_written, ofText]

/-- A name that begins with a letter, and what stops it. -/
theorem exists_name {d : Char} (hd : d.isAlpha = true) (s : List Char) :
    ∃ letters rest, s = letters ++ rest ∧ (∀ c ∈ d :: letters, isNameCharacter c = true) ∧
      ∀ c ∈ rest.head?, isNameCharacter c = false := by
  obtain ⟨letters, rest, hs, hletters, hrest, -⟩ := exists_stretch isNameCharacter s
  exact ⟨letters, rest, hs, List.forall_mem_cons.mpr ⟨isNameCharacter_of_isAlpha hd, hletters⟩, hrest⟩

/-- What a page begins with is read from it, whatever stands behind. -/
theorem InFrontOf.first {o : Options} {l : Lexeme} {rest : List Char} (h : l.InFrontOf o rest) :
    ∃ c s, l.spelling ++ rest = c :: s ∧ first o c s = (l, rest) := by
  cases h with
  | @tag d letters written _ tail hd hname hstop hread =>
    refine ⟨'<', d :: (letters ++ (written ++ rest)), by simp, ?_⟩
    obtain ⟨htake, hdrop⟩ := takeWhile_head hname hstop
    rw [List.cons_append] at htake hdrop
    have hspelling : before ('<' :: d :: (letters ++ (written ++ rest))) rest =
        '<' :: (d :: letters ++ written) := by
      rw [← before_written ('<' :: (d :: letters ++ written)) rest]
      simp
    rw [first_openTag hd, readOpenTag, htake, hdrop, hread, hspelling]
  | @endTag d letters written _ hd hname hstop hread =>
    refine ⟨'<', '/' :: d :: (letters ++ (written ++ rest)), by simp, ?_⟩
    obtain ⟨htake, hdrop⟩ := takeWhile_head hname hstop
    rw [List.cons_append] at htake hdrop
    have hspelling : before ('<' :: '/' :: d :: (letters ++ (written ++ rest))) rest =
        '<' :: '/' :: (d :: letters ++ written) := by
      rw [← before_written ('<' :: '/' :: (d :: letters ++ written)) rest]
      simp
    rw [first_closeTag (.inl hd), readCloseTag, htake, hdrop, hread, hspelling]
  | emptyTag =>
    refine ⟨'<', '/' :: '>' :: rest, rfl, ?_⟩
    rw [first_closeTag (.inr rfl)]
    exact Prod.ext (congrArg (Lexeme.mk · none) (before_written ['<', '/', '>'] rest)) rfl
  | @declaration d written _ hd hread =>
    refine ⟨'<', d :: (written ++ rest), rfl, ?_⟩
    rw [first_declaration hd, hread]
    exact Prod.ext (textBefore_written ('<' :: d :: written) rest) rfl
  | @text c written _ hstart hread =>
    refine ⟨c, written ++ rest, rfl, ?_⟩
    rw [first_text hstart, hread]
    exact Prod.ext (textBefore_written (c :: written) rest) rfl

/-- A declaration goes on behind its first character. -/
theorem afterDeclaration_isSuffix_tail (d : Char) (s : List Char) :
    afterDeclaration (d :: s) <:+ s := by
  rcases afterDeclaration_ends (d :: s) with hnil | hend
  · rw [hnil]
    exact List.nil_suffix
  · rcases List.suffix_cons_iff.mp hend with heq | hend
    · exact ⟨[], (List.cons.inj heq).2⟩
    · exact (List.suffix_cons _ _).trans hend

theorem InFrontOf.first_eq {o : Options} {l : Lexeme} {rest : List Char} (h : l.InFrontOf o rest)
    {c : Char} {s : List Char} (hpage : c :: s = l.spelling ++ rest) :
    Lexeme.first o c s = (l, rest) := by
  obtain ⟨c', s', hspelling, hfirst⟩ := h.first
  obtain ⟨rfl, rfl⟩ := List.cons.inj (hpage.trans hspelling)
  exact hfirst

/-- Every page that is not empty begins with a lexeme of some kind. -/
theorem inFrontOf_first (o : Options) (c : Char) (s : List Char) :
    (first o c s).1.InFrontOf o (first o c s).2 := by
  cases hm : startsMarkup (c :: s) with
  | false =>
    rw [first_text hm]
    obtain ⟨written, hs⟩ := afterText_isSuffix s
    generalize hread : afterText s = rest at hs
    subst hs
    show InFrontOf o (textBefore (c :: written ++ rest) rest) rest
    rw [textBefore_written]
    exact .text hm hread
  | true =>
    obtain ⟨rfl, ⟨d, s, rfl, hd⟩ | ⟨d, s, rfl, hd⟩ | ⟨d, s, rfl, hd⟩⟩ := startsMarkup_cases hm
    · rcases hd with hd | rfl
      · obtain ⟨letters, u, rfl, hname, hstop⟩ := exists_name hd s
        obtain ⟨written, hs⟩ := after_isSuffix '>' u
        generalize hread : after '>' u = rest at hs
        subst hs
        have h : InFrontOf o _ rest := .endTag hd hname hstop hread
        rw [h.first_eq (by simp)]
        exact h
      · have h : InFrontOf o _ s := .emptyTag s
        have hfirst : Lexeme.first o '<' ('/' :: '>' :: s) = _ := h.first_eq rfl
        rw [hfirst]
        exact h
    · rw [first_declaration hd]
      obtain ⟨written, hs⟩ := afterDeclaration_isSuffix_tail d s
      generalize hread : afterDeclaration (d :: s) = rest at hs
      subst hs
      show InFrontOf o (textBefore ('<' :: d :: written ++ rest) rest) rest
      rw [textBefore_written]
      exact .declaration hd hread
    · obtain ⟨letters, u, rfl, hname, hstop⟩ := exists_name hd s
      obtain ⟨written, hs⟩ := readAttributes_isSuffix o .empty u
      generalize hread : readAttributes o .empty u = read at hs
      obtain ⟨tail, rest⟩ := read
      obtain rfl : written ++ rest = u := hs
      have h : InFrontOf o _ rest := .tag hd hname hstop hread
      rw [h.first_eq (by simp)]
      exact h

end Lexeme
open Lexeme

/-- A lexeme that no page begins with is the text of a raw-text element. -/
theorem kind_of_mem_lexemes {o : Options} {page : List Char} {l : Lexeme} (hl : l ∈ lexemes o page) :
    (∃ rest, l.InFrontOf o rest) ∨ ∃ s, l = ofText s :=
  forall_mem_lexemes (P := fun l => (∃ rest, l.InFrontOf o rest) ∨ ∃ s, l = ofText s)
    (fun c s => .inl ⟨_, inFrontOf_first o c s⟩) (fun _ _ _ => .inr ⟨_, rfl⟩) page l hl

end Imageboard
