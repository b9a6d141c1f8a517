import Imageboard.Proofs.Markup.Written

/-! One tag of a page written anew.

`lexemes_edited`: where a tag is written anew with nothing in it that the page did not have, the
lexemes before it and those behind it stay as they are. Nothing that they look for is found in the
tag, and it is no end of theirs. -/
namespace Imageboard
open Lexeme Markup Text

/-- An end tag is read where one starts. -/
theorem first_no_tag {o : Options} {d : Char} {n s : List Char} (hd : d.isAlpha = true)
    (h : startsEndTag (d :: n) ('<' :: s) = true) (name : String) (attributes : Attributes)
    (selfClosing : Bool) :
    (first o '<' s).1.token ≠ some (.openTag name attributes selfClosing) := by
  obtain ⟨body, rfl⟩ : ∃ body, s = '/' :: body := by
    unfold startsEndTag at h
    split at h
    · rename_i body heq
      exact ⟨body, (List.cons.inj heq).2⟩
    · cases h
  unfold first
  rw [if_pos (startsMarkup_of_startsEndTag hd h)]
  show (readCloseTag body).1 ≠ _
  unfold readCloseTag
  dsimp only
  split <;> simp

/-- What follows the tag of a raw-text element is its body, or its end tag. -/
theorem afterBody_no_tag {o : Options} {c : Char} {s : List Char} {t : Token} {k : Lexeme}
    {ks : List Lexeme} (htoken : (first o c s).1.token = some t) (hraw : t.opensRawText o = true)
    (h : bodyBefore (first o c s).2 (afterBody o (first o c s).1.token (first o c s).2) ++
      lexemes o (afterBody o (first o c s).1.token (first o c s).2) = k :: ks)
    (name : String) (attributes : Attributes) (selfClosing : Bool) :
    k.token ≠ some (.openTag name attributes selfClosing) := by
  unfold bodyBefore at h
  split at h
  · cases t with
    | openTag n a closed =>
      obtain ⟨-, d, letters, hn, hd⟩ := first_name htoken
      simp only [Token.opensRawText, Bool.and_eq_true, Bool.not_eq_true'] at hraw
      obtain ⟨rfl, hraw⟩ := hraw
      have hbody : afterBody o (first o c s).1.token (first o c s).2 =
          afterRawText (d :: letters) (first o c s).2 := by
        rw [htoken, ← hn]
        exact if_pos hraw
      rw [hbody] at h
      rcases afterRawText_head (d :: letters) (first o c s).2 with hnil | ⟨rest, hrest, hend⟩
      · rw [hnil, lexemes] at h
        cases h
      · rw [hrest, lexemes_cons] at h
        obtain ⟨rfl, -⟩ := List.cons.inj h
        exact first_no_tag hd hend name attributes selfClosing
    | closeTag n => cases hraw
    | text content => cases hraw
  · obtain ⟨rfl, -⟩ := List.cons.inj h
    intro he
    cases he

/-- The body of a raw-text element is not read as a tag. -/
theorem opensNoRawText_before_tag {o : Options} {page : List Char} {ls ks : List Lexeme}
    {k l : Lexeme} {name : String} {attributes : Attributes} {selfClosing : Bool} {t : Token}
    (h : lexemes o page = ls ++ k :: ks)
    (hk : k.token = some (.openTag name attributes selfClosing)) (hl : ls.getLast? = some l)
    (ht : l.token = some t) : t.opensRawText o = false := by
  fun_induction lexemes o page generalizing ls with
  | case1 => cases ls <;> cases h
  | case2 c s head rest =>
    rename_i ih
    cases ls with
    | nil => cases hl
    | cons m ls =>
      obtain ⟨rfl, hbehind⟩ := List.cons.inj h
      cases ls with
      | nil =>
        obtain rfl := Option.some.inj hl
        cases hraw : t.opensRawText o with
        | false => rfl
        | true => exact absurd hk (afterBody_no_tag ht hraw hbehind name attributes selfClosing)
      | cons m ls =>
        have hlast : (m :: ls).getLast? = some l := hl
        unfold bodyBefore at hbehind
        split at hbehind
        · exact ih hbehind hlast
        · obtain ⟨rfl, hrest⟩ := List.cons.inj hbehind
          cases ls with
          | nil =>
            obtain rfl := Option.some.inj hlast
            obtain rfl := Option.some.inj ht
            rfl
          | cons n ls => exact ih hrest hlast

/-- A tag of a page, with what is behind it. -/
theorem lexemes_from_tag {o : Options} {page : List Char} {earlier later : List Lexeme}
    {tag : Lexeme} {name : String} {attributes : Attributes} {selfClosing : Bool}
    (h : lexemes o page = earlier ++ tag :: later)
    (htag : tag.token = some (.openTag name attributes selfClosing)) :
    page = earlier.flatMap spelling ++ (tag.spelling ++ later.flatMap spelling) ∧
      lexemes o (tag.spelling ++ later.flatMap spelling) = tag :: later := by
  have hpage : page = earlier.flatMap spelling ++ (tag.spelling ++ later.flatMap spelling) := by
    rw [← lexemes_spelling o page, h, List.flatMap_append, List.flatMap_cons]
  rw [hpage] at h
  exact ⟨hpage, (lexemes_cut h rfl fun l t hl ht => opensNoRawText_before_tag h htag hl ht).2⟩

/-- A tag that opens no raw text, with what is behind it. -/
theorem lexemes_openTag {o : Options} {c : Char} {s rest : List Char} {name : String}
    {attributes : Attributes} {selfClosing : Bool} (hc : c.isAlpha = true)
    (hread : readOpenTag o (c :: s) = (.openTag name attributes selfClosing, rest))
    (hraw : (Token.openTag name attributes selfClosing).opensRawText o = false) :
    lexemes o ('<' :: c :: s) =
      ⟨before ('<' :: c :: s) rest, some (.openTag name attributes selfClosing)⟩ ::
        lexemes o rest := by
  have hsame : afterBody o (some (.openTag name attributes selfClosing)) rest = rest :=
    afterBody_of_not_raw (fun t ht => Option.some.inj ht ▸ hraw) _
  rw [lexemes_cons, first_openTag hc, hread]
  dsimp only
  rw [hsame, bodyBefore, if_pos rfl, List.nil_append]

/-- **A tag is written anew**, with nothing in it that was not there before, and read as a tag that
ends in the same place. The lexemes before it and behind it are not touched. -/
theorem lexemes_edited {o : Options} {page s s' : List Char} {earlier later : List Lexeme}
    {tag : Lexeme} {c : Char} {name name' : String} {attributes attributes' : Attributes}
    {selfClosing selfClosing' : Bool} (h : lexemes o page = earlier ++ tag :: later)
    (htag : tag.token = some (.openTag name attributes selfClosing))
    (hraw : (Token.openTag name attributes selfClosing).opensRawText o = false)
    (hspelling : tag.spelling = '<' :: c :: s) (hc : c.isAlpha = true) (hs : ∀ d ∈ s', d ∈ s)
    (hread : readOpenTag o (c :: s' ++ later.flatMap spelling) =
      (.openTag name' attributes' selfClosing', later.flatMap spelling))
    (hraw' : (Token.openTag name' attributes' selfClosing').opensRawText o = false) :
    lexemes o (earlier.flatMap spelling ++ ('<' :: c :: s' ++ later.flatMap spelling)) =
      earlier ++ ⟨'<' :: c :: s', some (.openTag name' attributes' selfClosing')⟩ :: later := by
  obtain ⟨hpage, htail⟩ := lexemes_from_tag h htag
  have hresumes : Resumes (tag.spelling ++ later.flatMap spelling)
      ('<' :: c :: s' ++ later.flatMap spelling) := by
    refine ⟨fun d hd _ => ?_, .inr ⟨c, _, _, hc, by rw [hspelling]; rfl, rfl⟩⟩
    rw [hspelling]
    simp only [List.mem_append, List.mem_cons] at hd ⊢
    exact hd.imp_left (Or.imp_right (Or.imp_right (hs d)))
  rw [hpage] at h
  have hbefore := (lexemes_resumed (by rw [hspelling]; exact List.cons_ne_nil _ _) hresumes h rfl
    fun l t hl ht => opensNoRawText_before_tag h htag hl ht).1
  have hlater : lexemes o (later.flatMap spelling) = later := by
    have hcut : lexemes o (tag.spelling ++ later.flatMap spelling) = [tag] ++ later := htail
    refine (lexemes_cut hcut (List.append_nil _) fun l t hl ht => ?_).2
    obtain rfl := Option.some.inj hl
    obtain rfl := Option.some.inj (htag.symm.trans ht)
    exact hraw
  rw [List.cons_append] at hread
  rw [hbefore, List.cons_append, List.cons_append, lexemes_openTag hc hread hraw', hlater,
    ← List.cons_append, ← List.cons_append, before_written]

end Imageboard
