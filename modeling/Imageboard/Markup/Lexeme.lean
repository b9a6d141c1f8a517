import Imageboard.Markup.Tag
import Imageboard.Text.Offset
import Imageboard.Text.Search

/-! A page cut into lexemes: tags, declarations, and the text between them.

A `<` that starts no markup is text. The body of a raw-text element is one stretch of text up
to the element's own end tag. `</>` is a lexeme but no token.

`lexemes_spelling`: the lexemes of a page, written one after the other, are the page. -/
namespace Imageboard
namespace Markup
open Text

/-- Whether a tag, an end tag or a declaration starts here. -/
def startsMarkup : List Char → Bool
  | '<' :: '/' :: c :: _ => c.isAlpha || c == '>'
  | '<' :: c :: _ => c.isAlpha || c == '!' || c == '?'
  | _ => false

theorem startsMarkup_open {c : Char} (hc : c ≠ '/') (s : List Char) :
    startsMarkup ('<' :: c :: s) = (c.isAlpha || c == '!' || c == '?') := by
  unfold startsMarkup
  split <;> simp_all

theorem startsMarkup_close (c : Char) (s : List Char) :
    startsMarkup ('<' :: '/' :: c :: s) = (c.isAlpha || c == '>') := rfl

theorem startsMarkup_other {c : Char} (hc : c ≠ '<') (s : List Char) :
    startsMarkup (c :: s) = false := by
  unfold startsMarkup
  split <;> simp_all

/-- What follows the text that runs up to the next markup. -/
def afterText : List Char → List Char
  | [] => []
  | c :: s => if startsMarkup (c :: s) then c :: s else afterText s

/-- What follows the next `needle`, or nothing where there is none. -/
def afterInfix (needle s : List Char) : List Char :=
  match splitFirst? needle s with
  | some (_, rest) => rest
  | none => []

/-- What follows a comment, declaration or processing instruction whose `<` has just been
read. -/
def afterDeclaration (s : List Char) : List Char :=
  match strip? ['!', '-', '-'] s with
  | some body => afterInfix ['-', '-', '>'] body
  | none => after '>' s

/-- Whether an end tag of the element `name` starts here. -/
def startsEndTag (name : List Char) : List Char → Bool
  | '<' :: '/' :: s =>
    match stripFolded? name s with
    | some rest => !(rest.head?.any isNameCharacter)
    | none => false
  | _ => false

/-- The next end tag of the element `name` with all that follows it, or nothing where there
is none. -/
def afterRawText (name : List Char) : List Char → List Char
  | [] => []
  | c :: s => if startsEndTag name (c :: s) then c :: s else afterRawText name s

theorem afterText_isSuffix (s : List Char) : afterText s <:+ s := by
  induction s with
  | nil => exact List.suffix_refl _
  | cons c s ih =>
    unfold afterText
    split
    · exact List.suffix_refl _
    · exact ih.trans (List.suffix_cons c s)

theorem afterInfix_isSuffix (needle s : List Char) : afterInfix needle s <:+ s := by
  unfold afterInfix
  split
  · rename_i b rest h
    exact ⟨b ++ needle, (splitFirst?_eq h).symm⟩
  · exact List.nil_suffix

theorem afterDeclaration_isSuffix (s : List Char) : afterDeclaration s <:+ s := by
  unfold afterDeclaration
  split
  · rename_i body hb
    exact (afterInfix_isSuffix _ body).trans ⟨_, (strip?_eq hb).symm⟩
  · exact after_isSuffix _ s

theorem afterRawText_isSuffix (name s : List Char) : afterRawText name s <:+ s := by
  induction s with
  | nil => exact List.suffix_refl _
  | cons c s ih =>
    unfold afterRawText
    split
    · exact List.suffix_refl _
    · exact ih.trans (List.suffix_cons c s)

end Markup

/-- A stretch of the page and the token it is, if it is one. -/
structure Lexeme where
  spelling : List Char
  token : Option Token
  deriving DecidableEq

namespace Lexeme
open Markup

/-- The part of `s` before its ending `rest`. -/
def before (s rest : List Char) : List Char := s.take (s.length - rest.length)

theorem before_append {s rest : List Char} (h : rest <:+ s) : before s rest ++ rest = s := by
  obtain ⟨lead, rfl⟩ := h
  simp [before]

/-- The part of `s` before `rest`, as text. -/
def textBefore (s rest : List Char) : Lexeme :=
  ⟨before s rest, some (.text (String.ofList (before s rest)))⟩

/-- The token at the start of the page `c :: s`, and what follows it. -/
def first (o : Options) (c : Char) (s : List Char) : Lexeme × List Char :=
  if startsMarkup (c :: s) then
    match s with
    | '/' :: body =>
      let (token, rest) := readCloseTag body
      (⟨before (c :: s) rest, token⟩, rest)
    | '!' :: _ => (textBefore (c :: s) (afterDeclaration s), afterDeclaration s)
    | '?' :: _ => (textBefore (c :: s) (afterDeclaration s), afterDeclaration s)
    | _ =>
      let (token, rest) := readOpenTag o s
      (⟨before (c :: s) rest, some token⟩, rest)
  else (textBefore (c :: s) (afterText s), afterText s)

theorem first_isSuffix (o : Options) (c : Char) (s : List Char) : (first o c s).2 <:+ s := by
  unfold first
  split
  · split
    · exact (readCloseTag_isSuffix _).trans (List.suffix_cons _ _)
    · exact afterDeclaration_isSuffix ('!' :: _)
    · exact afterDeclaration_isSuffix ('?' :: _)
    · exact readOpenTag_isSuffix o s
  · exact afterText_isSuffix s

theorem first_spelling (o : Options) (c : Char) (s : List Char) :
    (first o c s).1.spelling = before (c :: s) (first o c s).2 := by
  unfold first
  split
  · split <;> rfl
  · rfl

/-- What follows the opaque body that a token begins, if it begins one. -/
def afterBody (o : Options) (token : Option Token) (s : List Char) : List Char :=
  match token with
  | some (.openTag name _ false) => if o.isRawText name then afterRawText name.toList s else s
  | _ => s

theorem afterBody_isSuffix (o : Options) (token : Option Token) (s : List Char) :
    afterBody o token s <:+ s := by
  unfold afterBody
  split
  · split
    · exact afterRawText_isSuffix _ s
    · exact List.suffix_refl _
  · exact List.suffix_refl _

/-- The text before `rest`, unless there is none. -/
def bodyBefore (s rest : List Char) : List Lexeme :=
  if s.length = rest.length then [] else [textBefore s rest]

end Lexeme
open Lexeme

def lexemes (o : Options) : List Char → List Lexeme
  | [] => []
  | c :: s =>
    let head := first o c s
    let rest := afterBody o head.1.token head.2
    head.1 :: (bodyBefore head.2 rest ++ lexemes o rest)
termination_by s => s.length
decreasing_by
  have h := ((afterBody_isSuffix o (first o c s).1.token (first o c s).2).trans
    (first_isSuffix o c s)).length_le
  simp only [List.length_cons]
  exact Nat.lt_succ_of_le h

theorem bodyBefore_spelling {s rest : List Char} (h : rest <:+ s) :
    (bodyBefore s rest).flatMap spelling ++ rest = s := by
  unfold bodyBefore
  split
  · rename_i hl
    simpa using h.eq_of_length hl.symm
  · simp [textBefore, before_append h]

/-- The lexemes of a page, written one after the other, are the page. -/
theorem lexemes_spelling (o : Options) (s : List Char) :
    (lexemes o s).flatMap spelling = s := by
  fun_induction lexemes o s with
  | case1 => rfl
  | case2 c s head rest ih =>
    rw [List.flatMap_cons, List.flatMap_append, ih, bodyBefore_spelling (afterBody_isSuffix _ _ _),
      first_spelling, before_append ((first_isSuffix o c s).trans (List.suffix_cons c s))]

/-- The tokens among lexemes whose first starts at byte `start`. -/
def located (start : Nat) : List Lexeme → List Located
  | [] => []
  | lexeme :: rest =>
    let stop := start + Text.byteLength lexeme.spelling
    match lexeme.token with
    | some token => ⟨token, start, stop⟩ :: located stop rest
    | none => located stop rest

/-- The tokens of a page, in order. -/
def tokens (o : Options) (page : List Char) : List Located := located 0 (lexemes o page)

end Imageboard
