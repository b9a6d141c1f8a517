import Imageboard.Proofs.Markup.Coverage
import Imageboard.Proofs.Markup.Locality

/-! A page cut in two behind one of its tokens.

`lexemes_cut`: where a page is cut behind a lexeme, its lexemes are those of the first piece and
those of the second, each read alone. A lexeme that ends at the cut never depended on what stands
behind it, and neither did those before it. The one cut to keep away from is the one between the tag
of a raw-text element and its body, which the tag alone makes opaque. -/
namespace Imageboard
open Lexeme Markup Text

/-- Whether the body behind a token is raw text. -/
def Token.opensRawText (o : Options) : Token → Bool
  | openTag name _ selfClosing => !selfClosing && o.isRawText name
  | _ => false

/-- The same token, `n` bytes further on. -/
def Located.shifted (n : Nat) (t : Located) : Located :=
  { t with start := n + t.start, stop := n + t.stop }

namespace Lexeme

theorem before_append_right (s rest b : List Char) :
    before (s ++ b) (rest ++ b) = before s rest := by
  unfold before
  rw [List.length_append, List.length_append, Nat.add_sub_add_right,
    List.take_append_of_le_length (Nat.sub_le ..)]

theorem before_resumed (s rest b b' : List Char) :
    before (s ++ b) (rest ++ b) = before (s ++ b') (rest ++ b') :=
  (before_append_right s rest b).trans (before_append_right s rest b').symm

theorem textBefore_append_right (s rest b : List Char) :
    textBefore (s ++ b) (rest ++ b) = textBefore s rest := by
  unfold textBefore
  rw [before_append_right]

/-- Markup ends with a `>`, or with the page. -/
theorem first_ends {o : Options} {c : Char} {s : List Char} (h : startsMarkup (c :: s) = true) :
    (first o c s).2 = [] ∨ '>' :: (first o c s).2 <:+ s := by
  obtain ⟨rfl, ⟨d, rest, rfl, hd⟩ | ⟨d, rest, rfl, hd⟩ | ⟨d, rest, rfl, hd⟩⟩ := startsMarkup_cases h
  · rw [first_closeTag hd]
    exact (after_ends '>' _).imp_right fun h =>
      h.trans ((dropWhile_isSuffix _ _).trans (List.suffix_cons '/' _))
  · rw [first_declaration hd]
    exact afterDeclaration_ends _
  · rw [first_openTag hd]
    exact (readAttributes_ends o .empty _).imp_right fun h => h.trans (dropWhile_isSuffix _ _)

/-- A tag is read behind a `<` and a letter. -/
theorem first_tag {o : Options} {c : Char} {s : List Char} {name : String}
    {attributes : Attributes} {selfClosing : Bool}
    (h : (first o c s).1.token = some (.openTag name attributes selfClosing)) :
    String.ofList (lowercase (s.takeWhile isNameCharacter)) = name ∧
      ∃ d rest, s = d :: rest ∧ d.isAlpha = true := by
  cases hm : startsMarkup (c :: s) with
  | false =>
    rw [first_text hm] at h
    cases h
  | true =>
    obtain ⟨rfl, ⟨d, rest, rfl, hd⟩ | ⟨d, rest, rfl, hd⟩ | ⟨d, rest, rfl, hd⟩⟩ :=
      startsMarkup_cases hm
    · rw [first_closeTag hd] at h
      dsimp only [readCloseTag] at h
      split at h <;> cases h
    · rw [first_declaration hd] at h
      cases h
    · rw [first_openTag hd] at h
      exact ⟨(Token.openTag.inj (Option.some.inj h)).1, d, rest, rfl, hd⟩

/-- The name of a tag is made of the characters of names, and begins with a letter. -/
theorem first_name {o : Options} {c : Char} {s : List Char} {name : String}
    {attributes : Attributes} {selfClosing : Bool}
    (h : (first o c s).1.token = some (.openTag name attributes selfClosing)) :
    (∀ d ∈ name.toList, isNameCharacter d = true) ∧
      ∃ d rest, name.toList = d :: rest ∧ d.isAlpha = true := by
  obtain ⟨rfl, d, rest, rfl, hd⟩ := first_tag h
  have hd' : isNameCharacter d = true := by
    unfold isNameCharacter Char.isAlphanum
    rw [hd]
    rfl
  rw [String.toList_ofList]
  refine ⟨fun e he => ?_, d.toLower, lowercase (rest.takeWhile isNameCharacter), ?_, ?_⟩
  · obtain ⟨e', he', rfl⟩ := List.mem_map.mp he
    rw [isNameCharacter_toLower]
    exact List.all_eq_true.mp List.all_takeWhile e' he'
  · rw [List.takeWhile_cons_of_pos hd']
    rfl
  · rwa [isAlpha_toLower]

theorem first_of_append {o : Options} {c : Char} {s b b' r : List Char} {l : Lexeme}
    (hb : Resumes b b') (hm : startsMarkup (c :: s ++ b) = startsMarkup (c :: s))
    (h : first o c (s ++ b) = (l, r ++ b))
    (hr : startsMarkup (c :: s) = false → r = [] ∨ '>' ∈ r) :
    first o c (s ++ b') = (l, r ++ b') := by
  cases hs : startsMarkup (c :: s) with
  | false =>
    have hspell : before (c :: (s ++ b)) (r ++ b) = before (c :: (s ++ b')) (r ++ b') :=
      before_resumed (c :: s) r b b'
    have hs' : startsMarkup (c :: (s ++ b')) = false :=
      (hb.startsMarkup_eq (List.cons_ne_nil c s)).trans hs
    rw [first_text (by rw [← List.cons_append, hm, hs])] at h
    obtain ⟨hl, hrest⟩ := Prod.mk.inj h
    rw [first_text hs', afterText_of_append hb hrest (hr hs), ← hl, hrest]
    unfold textBefore
    rw [hspell]
  | true =>
    obtain ⟨rfl, ⟨d, rest, rfl, hd⟩ | ⟨d, rest, rfl, hd⟩ | ⟨d, rest, rfl, hd⟩⟩ :=
      startsMarkup_cases hs
    · rw [List.cons_append, List.cons_append, first_closeTag hd] at h
      obtain ⟨hl, hrest⟩ := Prod.mk.inj h
      have hread : readCloseTag (d :: (rest ++ b')) =
          ((readCloseTag (d :: (rest ++ b))).1, r ++ b') :=
        readCloseTag_of_append (s := d :: rest) hb.thins (Prod.ext rfl hrest)
      have hspell : before ('<' :: '/' :: d :: (rest ++ b)) (r ++ b) =
          before ('<' :: '/' :: d :: (rest ++ b')) (r ++ b') :=
        before_resumed ('<' :: '/' :: d :: rest) r b b'
      rw [List.cons_append, List.cons_append, first_closeTag hd, hread, ← hl, hrest, hspell]
    · rw [List.cons_append, first_declaration hd] at h
      obtain ⟨hl, hrest⟩ := Prod.mk.inj h
      have hread : afterDeclaration (d :: (rest ++ b')) = r ++ b' :=
        afterDeclaration_of_append (s := d :: rest) hb.thins hrest
      have hspell : before ('<' :: d :: (rest ++ b)) (r ++ b) =
          before ('<' :: d :: (rest ++ b')) (r ++ b') :=
        before_resumed ('<' :: d :: rest) r b b'
      rw [List.cons_append, first_declaration hd, hread, ← hl, hrest]
      unfold textBefore
      rw [hspell]
    · rw [List.cons_append, first_openTag hd] at h
      obtain ⟨hl, hrest⟩ := Prod.mk.inj h
      have hread : readOpenTag o (d :: (rest ++ b')) =
          ((readOpenTag o (d :: (rest ++ b))).1, r ++ b') :=
        readOpenTag_of_append (s := d :: rest) hb.thins (Prod.ext rfl hrest)
      have hspell : before ('<' :: d :: (rest ++ b)) (r ++ b) =
          before ('<' :: d :: (rest ++ b')) (r ++ b') :=
        before_resumed ('<' :: d :: rest) r b b'
      rw [List.cons_append, first_openTag hd, hread, ← hl, hrest, hspell]

theorem afterBody_of_not_raw {o : Options} {token : Option Token}
    (h : ∀ t, token = some t → t.opensRawText o = false) (s : List Char) :
    afterBody o token s = s := by
  unfold afterBody
  split
  · rename_i name attributes
    have hraw : o.isRawText name = false := by simpa [Token.opensRawText] using h _ rfl
    rw [hraw]
    rfl
  · rfl

/-- Where the first lexeme opens a body, what follows the body is markup or nothing. -/
theorem afterBody_cases (o : Options) (c : Char) (s : List Char) :
    (∀ t, afterBody o (first o c s).1.token t = t) ∨
      ∀ t, afterBody o (first o c s).1.token t = [] ∨
        startsMarkup (afterBody o (first o c s).1.token t) = true := by
  unfold afterBody
  split
  · rename_i name attributes htoken
    split
    · obtain ⟨-, d, rest, hname, hd⟩ := first_name htoken
      refine .inr fun t => ?_
      rcases afterRawText_head name.toList t with hnil | ⟨rest', hrest, hend⟩
      · exact .inl hnil
      · rw [hrest]
        rw [hname] at hend
        exact .inr (startsMarkup_of_startsEndTag hd hend)
    · exact .inl fun _ => rfl
  · exact .inl fun _ => rfl

/-- The body that the first lexeme opens does not depend on what stands behind a later token. -/
theorem afterBody_of_append {o : Options} {c : Char} {s t b b' r : List Char} (hb : Resumes b b')
    (h : afterBody o (first o c s).1.token (t ++ b) = r ++ b)
    (hr : startsMarkup (r ++ b) = true → r = [] ∨ '>' ∈ r) :
    afterBody o (first o c s).1.token (t ++ b') = r ++ b' := by
  rcases afterBody_cases o c s with hid | hmarkup
  · rw [hid] at h ⊢
    rw [List.append_cancel_right h]
  · have hr' : r = [] ∨ '>' ∈ r := by
      rcases hmarkup (t ++ b) with hnil | hm
      · rw [h] at hnil
        exact .inl (List.append_eq_nil_iff.mp hnil).1
      · exact hr (h ▸ hm)
    unfold afterBody at h ⊢
    split at h
    · rename_i name attributes htoken
      split at h
      · rename_i hraw
        rw [if_pos hraw]
        exact afterRawText_of_append (first_name htoken).1 hb h hr'
      · rename_i hraw
        rw [if_neg hraw, List.append_cancel_right h]
    · rw [List.append_cancel_right h]

/-- Where the first lexeme is text, what follows it is markup or nothing. -/
theorem first_markup {o : Options} {c : Char} {s : List Char} (h : startsMarkup (c :: s) = false) :
    (first o c s).2 = [] ∨ startsMarkup (first o c s).2 = true := by
  rw [first_text h]
  exact afterText_cases s

end Lexeme
open Lexeme

theorem lexemes_cons (o : Options) (c : Char) (s : List Char) :
    lexemes o (c :: s) =
      (first o c s).1 ::
        (bodyBefore (first o c s).2 (afterBody o (first o c s).1.token (first o c s).2) ++
          lexemes o (afterBody o (first o c s).1.token (first o c s).2)) := by
  rw [lexemes]

theorem bodyBefore_append_right (s rest b : List Char) :
    bodyBefore (s ++ b) (rest ++ b) = bodyBefore s rest := by
  unfold bodyBefore
  rw [textBefore_append_right]
  simp only [List.length_append, Nat.add_right_cancel_iff]

/-- The first lexeme of a page that is cut behind the lexemes `l :: ls`, and what is behind it and
behind its body. -/
theorem lexemes_cons_cut {o : Options} {c : Char} {s b : List Char} {l : Lexeme}
    {ls ks : List Lexeme} (h : lexemes o (c :: (s ++ b)) = l :: (ls ++ ks))
    (ha : l.spelling ++ ls.flatMap spelling = c :: s) :
    l = (first o c (s ++ b)).1 ∧ (first o c (s ++ b)).2 = ls.flatMap spelling ++ b := by
  rw [lexemes_cons] at h
  obtain ⟨rfl, -⟩ := List.cons.inj h
  refine ⟨rfl, ?_⟩
  rw [first_spelling] at ha
  have hpage := before_append ((first_isSuffix o c (s ++ b)).trans (List.suffix_cons c _))
  have hparts : before (c :: (s ++ b)) (first o c (s ++ b)).2 ++ (first o c (s ++ b)).2 =
      before (c :: (s ++ b)) (first o c (s ++ b)).2 ++ (ls.flatMap spelling ++ b) := by
    rw [hpage, ← List.append_assoc, ha]
    rfl
  exact List.append_cancel_left hparts

/-- A cut that is not between a tag and its raw-text body is behind the body. -/
theorem afterBody_cut {o : Options} {c : Char} {s b : List Char} {ls ks : List Lexeme}
    (h : lexemes o (c :: (s ++ b)) = (first o c (s ++ b)).1 :: (ls ++ ks))
    (hrest : (first o c (s ++ b)).2 = ls.flatMap spelling ++ b)
    (hraw : ls = [] → ∀ t, (first o c (s ++ b)).1.token = some t → t.opensRawText o = false) :
    ∃ ls', ls = bodyBefore (first o c (s ++ b)).2
        (afterBody o (first o c (s ++ b)).1.token (first o c (s ++ b)).2) ++ ls' ∧
      afterBody o (first o c (s ++ b)).1.token (first o c (s ++ b)).2 = ls'.flatMap spelling ++ b ∧
      lexemes o (ls'.flatMap spelling ++ b) = ls' ++ ks := by
  rw [lexemes_cons] at h
  have htail := (List.cons.inj h).2
  have hbody := bodyBefore_spelling (afterBody_isSuffix o (first o c (s ++ b)).1.token
    (first o c (s ++ b)).2)
  generalize hr : afterBody o (first o c (s ++ b)).1.token (first o c (s ++ b)).2 = rest at *
  rw [hrest] at htail hbody hr ⊢
  unfold bodyBefore at htail hbody ⊢
  split
  · rename_i hlen
    rw [if_pos hlen] at htail hbody
    obtain rfl : rest = ls.flatMap spelling ++ b := hbody
    exact ⟨ls, rfl, rfl, htail⟩
  · rename_i hlen
    rw [if_neg hlen] at htail hbody
    cases ls with
    | nil =>
      rw [afterBody_of_not_raw (hraw rfl)] at hr
      exact absurd (congrArg List.length hr) hlen
    | cons body ls' =>
      obtain ⟨hhead, htail⟩ := List.cons.inj htail
      have hrest' : rest = ls'.flatMap spelling ++ b := by
        rw [List.flatMap_cons, List.flatMap_nil, List.append_nil, hhead, List.flatMap_cons,
          List.append_assoc] at hbody
        exact List.append_cancel_left hbody
      refine ⟨ls', ?_, hrest', hrest' ▸ htail⟩
      rw [hhead]
      rfl

/-- Markup at the beginning of a piece that is cut behind a lexeme ends inside the piece. -/
theorem gt_mem_of_lexemes {o : Options} {a b : List Char} {ls ks : List Lexeme} (hb : b ≠ [])
    (h : lexemes o (a ++ b) = ls ++ ks) (ha : ls.flatMap spelling = a)
    (hm : startsMarkup (a ++ b) = true) : a = [] ∨ '>' ∈ a := by
  cases a with
  | nil => exact .inl rfl
  | cons c s =>
    cases ls with
    | nil => cases ha
    | cons l ls =>
      obtain ⟨-, hrest⟩ := lexemes_cons_cut h ha
      refine .inr ?_
      rw [List.cons_append] at hm
      rcases first_ends (o := o) hm with hnil | hend
      · rw [hrest] at hnil
        exact absurd (List.append_eq_nil_iff.mp hnil).2 hb
      · rw [hrest, ← List.cons_append] at hend
        obtain ⟨t, ht⟩ := hend
        rw [← List.append_assoc] at ht
        rw [← List.append_cancel_right ht]
        simp

theorem startsMarkup_cut {o : Options} {a b : List Char} {ls ks : List Lexeme} (hb : b ≠ [])
    (h : lexemes o (a ++ b) = ls ++ ks) (ha : ls.flatMap spelling = a) (hne : a ≠ []) :
    startsMarkup (a ++ b) = startsMarkup a := by
  cases hm : startsMarkup (a ++ b) with
  | true =>
    have hgt := (gt_mem_of_lexemes hb h ha hm).resolve_left hne
    rw [← hm, startsMarkup_of_mem hgt]
  | false =>
    cases hs : startsMarkup a with
    | false => rfl
    | true => rw [← hm, startsMarkup_append hs b]

/-- The lexemes in front of a cut stay as they are when the page is resumed there. -/
theorem lexemes_resumed {o : Options} {b b' : List Char} (hne : b ≠ []) (hb : Resumes b b')
    {a : List Char} {ls ks : List Lexeme} (h : lexemes o (a ++ b) = ls ++ ks)
    (ha : ls.flatMap spelling = a)
    (hraw : ∀ l token, ls.getLast? = some l → l.token = some token → token.opensRawText o = false) :
    lexemes o (a ++ b') = ls ++ lexemes o b' ∧ lexemes o b = ks := by
  -- The induction is on the lexemes of the first piece: what is behind the first of them, and
  -- behind its body, is cut at the same place.
  induction hn : ls.length using Nat.strongRecOn generalizing a ls with
  | ind n ih =>
    cases ls with
    | nil =>
      subst ha
      exact ⟨rfl, h⟩
    | cons l ls =>
      cases a with
      | nil =>
        have hl : l ∈ lexemes o ([] ++ b) := by
          rw [h]
          exact List.mem_cons_self
        exact absurd (List.append_eq_nil_iff.mp ha).1 (lexemes_sound o _ l hl).nonempty
      | cons c s =>
        have hmarkup := startsMarkup_cut hne h ha (List.cons_ne_nil c s)
        obtain ⟨hhead, hrest⟩ := lexemes_cons_cut h ha
        rw [hhead] at h hraw
        obtain ⟨ls', hls, hbody, hlex⟩ := afterBody_cut h hrest
          (by rintro rfl t ht; exact hraw _ t rfl ht)
        have hlast (k : Lexeme) (hk : ls'.getLast? = some k) :
            ((first o c (s ++ b)).1 :: ls).getLast? = some k := by
          rw [hls, ← List.cons_append, List.getLast?_append, hk]
          rfl
        have hlen : ls'.length < n := by
          rw [← hn, hls, List.length_cons, List.length_append]
          omega
        obtain ⟨hleft, hright⟩ := ih ls'.length hlen hlex rfl
          (fun k token hk => hraw k token (hlast k hk)) rfl
        have hgt := gt_mem_of_lexemes hne hlex rfl
        have hfirst : first o c (s ++ b') = ((first o c (s ++ b)).1, ls.flatMap spelling ++ b') := by
          refine first_of_append hb hmarkup (Prod.ext rfl hrest) fun htext => ?_
          have htext' : startsMarkup (c :: (s ++ b)) = false := hmarkup.trans htext
          have hsame : ls.flatMap spelling = ls'.flatMap spelling := by
            rw [first_text htext'] at hbody hrest
            exact List.append_cancel_right (hrest.symm.trans hbody)
          rw [hsame] at hrest ⊢
          rcases first_markup (o := o) htext' with hnil | hm
          · rw [hrest] at hnil
            exact .inl (List.append_eq_nil_iff.mp hnil).1
          · exact hgt (hrest ▸ hm)
        have hbehind : afterBody o (first o c (s ++ b')).1.token (ls.flatMap spelling ++ b') =
            ls'.flatMap spelling ++ b' := by
          refine afterBody_of_append hb (b := b) ?_ hgt
          rw [hfirst, ← hrest]
          exact hbody
        refine ⟨?_, hright⟩
        rw [List.cons_append, lexemes_cons,
          show (first o c (s ++ b')).2 = ls.flatMap spelling ++ b' by rw [hfirst], hbehind, hleft,
          show (first o c (s ++ b')).1 = l by rw [hfirst, hhead], bodyBefore_append_right,
          ← bodyBefore_append_right _ _ b, ← hrest, ← hbody, ← List.append_assoc, ← hls]
        rfl

theorem flatMap_spelling_eq_nil {ls : List Lexeme} (hs : ∀ l ∈ ls, l.Sound)
    (h : ls.flatMap spelling = []) : ls = [] := by
  cases ls with
  | nil => rfl
  | cons l ls =>
    exact absurd (List.append_eq_nil_iff.mp h).1 (hs l List.mem_cons_self).nonempty

/-- A page that is cut behind a lexeme, and not between the tag of a raw-text element and its body,
has the lexemes of the two pieces. -/
theorem lexemes_cut {o : Options} {a b : List Char} {ls ks : List Lexeme}
    (h : lexemes o (a ++ b) = ls ++ ks) (ha : ls.flatMap spelling = a)
    (hraw : ∀ l token, ls.getLast? = some l → l.token = some token → token.opensRawText o = false) :
    lexemes o a = ls ∧ lexemes o b = ks := by
  by_cases hb : b = []
  · subst hb
    have hspelled := lexemes_spelling o (a ++ [])
    rw [h, List.flatMap_append, ha] at hspelled
    have hks : ks = [] := by
      refine flatMap_spelling_eq_nil (fun l hl => lexemes_sound o (a ++ []) l ?_)
        (List.append_cancel_left hspelled)
      rw [h]
      exact List.mem_append_right ls hl
    subst hks
    rw [List.append_nil, List.append_nil] at h
    exact ⟨h, by rw [lexemes]⟩
  · obtain ⟨hleft, hright⟩ := lexemes_resumed hb (.nil b) h ha hraw
    rw [List.append_nil, lexemes, List.append_nil] at hleft
    exact ⟨hleft, hright⟩

/-! ### Tokens -/

theorem located_append (start : Nat) (ls ks : List Lexeme) :
    located start (ls ++ ks) =
      located start ls ++ located (start + byteLength (ls.flatMap spelling)) ks := by
  induction ls generalizing start with
  | nil => rfl
  | cons l ls ih =>
    rw [List.cons_append, located_cons, located_cons, ih, List.flatMap_cons, byteLength_append,
      Nat.add_assoc]
    split <;> rfl

theorem located_add (n start : Nat) (ls : List Lexeme) :
    located (n + start) ls = (located start ls).map (Located.shifted n) := by
  induction ls generalizing start with
  | nil => rfl
  | cons l ls ih =>
    rw [located_cons, located_cons, Nat.add_assoc, ih]
    split <;> rfl

/-- A token is that of a lexeme, and the tokens before it and behind it are those of the lexemes
before and behind. -/
theorem located_eq_append_cons {start : Nat} {ls : List Lexeme} {earlier later : List Located}
    {t : Located} (h : located start ls = earlier ++ t :: later) :
    ∃ left right, ls = left ++ right ∧ located start left = earlier ++ [t] ∧
      t.stop = start + byteLength (left.flatMap spelling) ∧
      ∃ l, left.getLast? = some l ∧ l.token = some t.token := by
  induction ls generalizing start earlier with
  | nil => simp [located] at h
  | cons l ls ih =>
    rw [located_cons] at h
    have hlater {earlier' : List Located}
        (h : located (start + byteLength l.spelling) ls = earlier' ++ t :: later) :
        ∃ left right, l :: ls = l :: left ++ right ∧
          located (start + byteLength l.spelling) left = earlier' ++ [t] ∧
          t.stop = start + byteLength ((l :: left).flatMap spelling) ∧
          ∃ k, (l :: left).getLast? = some k ∧ k.token = some t.token := by
      obtain ⟨left, right, rfl, hleft, hstop, k, hk, htoken⟩ := ih h
      refine ⟨left, right, rfl, hleft, ?_, k, ?_, htoken⟩
      · rw [List.flatMap_cons, byteLength_append, ← Nat.add_assoc]
        exact hstop
      · rw [List.getLast?_cons, hk]
        rfl
    cases htok : l.token with
    | none =>
      rw [htok] at h
      obtain ⟨left, right, hsplit, hleft, hrest⟩ := hlater h
      refine ⟨l :: left, right, hsplit, ?_, hrest⟩
      rw [located_cons, htok]
      exact hleft
    | some token =>
      rw [htok] at h
      cases earlier with
      | nil =>
        obtain ⟨rfl, -⟩ := List.cons.inj h
        refine ⟨[l], ls, rfl, ?_, ?_, l, rfl, htok⟩
        · rw [located_cons, htok]
          rfl
        · rw [List.flatMap_cons, List.flatMap_nil, List.append_nil]
      | cons u earlier =>
        obtain ⟨rfl, htail⟩ := List.cons.inj h
        obtain ⟨left, right, hsplit, hleft, hrest⟩ := hlater htail
        refine ⟨l :: left, right, hsplit, ?_, hrest⟩
        rw [located_cons, htok]
        exact congrArg (_ :: ·) hleft

/-- The tokens of a page that is cut behind a token: those of the first piece, the last of which is
the one before the cut, and those of the second, as many bytes further on as the first has. -/
theorem tokens_cut {o : Options} {a b : List Char} {earlier later : List Located} {t : Located}
    (h : tokens o (a ++ b) = earlier ++ t :: later) (hstop : t.stop = byteLength a)
    (hraw : t.token.opensRawText o = false) :
    tokens o a = earlier ++ [t] ∧
      tokens o (a ++ b) = tokens o a ++ (tokens o b).map (Located.shifted (byteLength a)) := by
  obtain ⟨left, right, hsplit, hleft, hlen, l, hl, htoken⟩ := located_eq_append_cons h
  rw [hstop, Nat.zero_add] at hlen
  have hpage := lexemes_spelling o (a ++ b)
  rw [hsplit, List.flatMap_append] at hpage
  have ha : left.flatMap spelling = a := by
    rw [← takeBytes_append (left.flatMap spelling) (right.flatMap spelling), hpage, ← hlen,
      takeBytes_append]
  obtain ⟨hlexemes, hlexemes'⟩ := lexemes_cut hsplit ha (by
    intro k token hk htok
    obtain rfl : l = k := Option.some.inj (hl.symm.trans hk)
    obtain rfl : t.token = token := Option.some.inj (htoken.symm.trans htok)
    exact hraw)
  unfold tokens
  rw [hsplit, hlexemes, hlexemes', located_append, Nat.zero_add, ← hlen, ← located_add]
  exact ⟨hleft, rfl⟩

end Imageboard
