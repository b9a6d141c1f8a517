import Imageboard.Markup.Lexeme
import Imageboard.Proofs.Text.Spelling

/-! What every lexeme of a page has in common, and where its token stands.

A lexeme is never empty, a text has the lexeme for its content, and `</>` is the only lexeme that is
no token. `spells_of_mem_located`: the span of a token is the place of its lexeme in the page. -/
namespace Imageboard
open Markup Text

namespace Lexeme

/-- What is true of every lexeme, however the markup is written. -/
structure Sound (l : Lexeme) : Prop where
  nonempty : l.spelling ≠ []
  text : ∀ content, l.token = some (.text content) → content = String.ofList l.spelling
  dropped : l.token = none → l.spelling = ['<', '/', '>']

theorem before_ne_nil {s rest : List Char} (h : rest.length < s.length) : before s rest ≠ [] := by
  intro he
  have hl := congrArg List.length he
  simp only [before, List.length_take, List.length_nil] at hl
  omega

theorem textBefore_sound {s rest : List Char} (h : rest.length < s.length) :
    (textBefore s rest).Sound where
  nonempty := before_ne_nil h
  text := fun _ hc => (Token.text.inj (Option.some.inj hc)).symm
  dropped := fun hn => nomatch hn

/-- An end tag without a name is `</>`: anything else after `</` starts no markup. -/
theorem readCloseTag_none {body : List Char} (hm : startsMarkup ('<' :: '/' :: body) = true)
    (hn : (readCloseTag body).1 = none) : body = '>' :: (readCloseTag body).2 := by
  cases body with
  | nil => simp [startsMarkup] at hm
  | cons c s =>
    simp only [startsMarkup, Bool.or_eq_true, beq_iff_eq] at hm
    rcases hm with ha | rfl
    · have hname : isNameCharacter c = true := by
        simp [isNameCharacter, Char.isAlphanum, ha]
      simp [readCloseTag, hname] at hn
    · rfl

theorem startsMarkup_lt {c : Char} {s : List Char} (h : startsMarkup (c :: s) = true) :
    c = '<' := by
  unfold startsMarkup at h
  split at h
  · rename_i he; exact (List.cons.inj he).1
  · rename_i he; exact (List.cons.inj he).1
  · cases h

/-- Markup is an end tag, a declaration or a tag. -/
theorem startsMarkup_cases {c : Char} {s : List Char} (h : startsMarkup (c :: s) = true) :
    c = '<' ∧ ((∃ d rest, s = '/' :: d :: rest ∧ (d.isAlpha = true ∨ d = '>')) ∨
      (∃ d rest, s = d :: rest ∧ (d = '!' ∨ d = '?')) ∨
      ∃ d rest, s = d :: rest ∧ d.isAlpha = true) := by
  obtain rfl := startsMarkup_lt h
  refine ⟨rfl, ?_⟩
  cases s with
  | nil => cases h
  | cons d rest =>
    by_cases hd : d = '/'
    · subst hd
      cases rest with
      | nil => cases h
      | cons e rest =>
        rw [startsMarkup_close] at h
        exact .inl ⟨e, rest, rfl, by simpa using h⟩
    · rw [startsMarkup_open hd, Bool.or_assoc, Bool.or_eq_true] at h
      rcases h with h | h
      · exact .inr (.inr ⟨d, rest, rfl, h⟩)
      · exact .inr (.inl ⟨d, rest, rfl, by simpa using h⟩)

/-! ### The first lexeme of a page -/

section
variable {o : Options} {c : Char} {s : List Char}

theorem first_text (h : startsMarkup (c :: s) = false) :
    first o c s = (textBefore (c :: s) (afterText s), afterText s) := by
  unfold first
  rw [h]
  rfl

theorem first_closeTag (hc : c.isAlpha = true ∨ c = '>') :
    first o '<' ('/' :: c :: s) =
      (⟨before ('<' :: '/' :: c :: s) (readCloseTag (c :: s)).2, (readCloseTag (c :: s)).1⟩,
        (readCloseTag (c :: s)).2) := by
  have hm : startsMarkup ('<' :: '/' :: c :: s) = true := by
    rw [startsMarkup_close]
    simpa using hc
  unfold first
  rw [if_pos hm]
  rfl

theorem first_declaration (hc : c = '!' ∨ c = '?') :
    first o '<' (c :: s) =
      (textBefore ('<' :: c :: s) (afterDeclaration (c :: s)), afterDeclaration (c :: s)) := by
  rcases hc with rfl | rfl <;> rfl

theorem first_openTag (hc : c.isAlpha = true) :
    first o '<' (c :: s) =
      (⟨before ('<' :: c :: s) (readOpenTag o (c :: s)).2, some (readOpenTag o (c :: s)).1⟩,
        (readOpenTag o (c :: s)).2) := by
  have hne {d : Char} (hd : d.isAlpha = false) : c ≠ d := by
    rintro rfl
    rw [hc] at hd
    cases hd
  have hm : startsMarkup ('<' :: c :: s) = true := by
    rw [startsMarkup_open (hne rfl), hc]
    rfl
  unfold first
  rw [if_pos hm]
  split
  · rename_i he; exact absurd (List.cons.inj he).1 (hne rfl)
  · rename_i he; exact absurd (List.cons.inj he).1 (hne rfl)
  · rename_i he; exact absurd (List.cons.inj he).1 (hne rfl)
  · rfl

end

theorem first_sound (o : Options) (c : Char) (s : List Char) : (first o c s).1.Sound := by
  have hlt : (first o c s).2.length < (c :: s).length :=
    Nat.lt_succ_of_le (first_isSuffix o c s).length_le
  have hspell := first_spelling o c s
  have hne : (first o c s).1.spelling ≠ [] := hspell ▸ before_ne_nil hlt
  revert hlt hspell hne
  unfold first
  split
  · rename_i hm
    split
    · rename_i body
      intro hlt hspell hne
      refine ⟨hne, fun content hc => ?_, fun hn => ?_⟩
      · simp only [readCloseTag] at hc
        split at hc <;> simp at hc
      · obtain rfl := startsMarkup_lt hm
        have hb := readCloseTag_none hm hn
        generalize hr : (readCloseTag body).2 = rest at hb hspell ⊢
        subst hb
        simp only [hr, before, List.length_cons]
        simp [show rest.length + 1 + 1 + 1 - rest.length = 3 by omega]
    · intro hlt _ _
      exact textBefore_sound hlt
    · intro hlt _ _
      exact textBefore_sound hlt
    · intro _ _ hne
      refine ⟨hne, fun content hc => ?_, fun hn => ?_⟩
      · simp [readOpenTag] at hc
      · cases hn
  · intro hlt _ _
    exact textBefore_sound hlt

end Lexeme
open Lexeme

/-- A lexeme is the first of the rest of the page, or the body of a raw-text element. -/
theorem forall_mem_lexemes {o : Options} {P : Lexeme → Prop} (hfirst : ∀ c s, P (first o c s).1)
    (hbody : ∀ s rest, rest.length < s.length → P (textBefore s rest)) (page : List Char) :
    ∀ l ∈ lexemes o page, P l := by
  fun_induction lexemes o page with
  | case1 => intro l hl; cases hl
  | case2 c s head rest ih =>
    intro l hl
    rcases List.mem_cons.mp hl with rfl | hl
    · exact hfirst c s
    · rcases List.mem_append.mp hl with hl | hl
      · unfold bodyBefore at hl
        split at hl
        · cases hl
        · rename_i hne
          obtain rfl := List.mem_singleton.mp hl
          have hle := (afterBody_isSuffix o head.1.token head.2).length_le
          exact hbody _ _ (Nat.lt_of_le_of_ne hle (Ne.symm hne))
      · exact ih l hl

theorem lexemes_sound (o : Options) (s : List Char) : ∀ l ∈ lexemes o s, l.Sound :=
  forall_mem_lexemes (first_sound o) (fun _ _ => textBefore_sound) s

/-! ### Places -/

theorem located_cons (start : Nat) (l : Lexeme) (ls : List Lexeme) :
    located start (l :: ls) =
      match l.token with
      | some token =>
        ⟨token, start, start + byteLength l.spelling⟩ :: located (start + byteLength l.spelling) ls
      | none => located (start + byteLength l.spelling) ls := rfl

theorem map_token_located (start : Nat) (ls : List Lexeme) :
    (located start ls).map (·.token) = ls.filterMap (·.token) := by
  induction ls generalizing start with
  | nil => rfl
  | cons l ls ih =>
    rw [located_cons, List.filterMap_cons]
    split
    · rename_i token htoken
      rw [List.map_cons, ih, htoken]
    · rename_i htoken
      rw [ih, htoken]

/-- A token among the lexemes of the rest of a page stands where its lexeme does. -/
theorem spells_of_mem_located {page : List Char} (lead : List Char) {ls : List Lexeme} {t : Located}
    (hp : page = lead ++ ls.flatMap spelling) (ht : t ∈ located (byteLength lead) ls) :
    byteLength lead ≤ t.start ∧
      ∃ l ∈ ls, l.token = some t.token ∧ Spells page t.start t.stop l.spelling := by
  induction ls generalizing lead with
  | nil => cases ht
  | cons l ls ih =>
    rw [List.flatMap_cons, ← List.append_assoc] at hp
    have hlater (h : t ∈ located (byteLength (lead ++ l.spelling)) ls) :
        byteLength lead ≤ t.start ∧
          ∃ k ∈ l :: ls, k.token = some t.token ∧ Spells page t.start t.stop k.spelling := by
      obtain ⟨hle, k, hk, hspells⟩ := ih (lead ++ l.spelling) hp h
      rw [byteLength_append] at hle
      exact ⟨by omega, k, List.mem_cons_of_mem l hk, hspells⟩
    rw [located_cons, ← byteLength_append] at ht
    split at ht
    · rename_i token htok
      rcases List.mem_cons.mp ht with rfl | ht
      · exact ⟨Nat.le_refl _, l, List.mem_cons_self, htok, lead, ls.flatMap spelling, hp, rfl,
          byteLength_append lead l.spelling⟩
      · exact hlater ht
    · exact hlater ht

end Imageboard
