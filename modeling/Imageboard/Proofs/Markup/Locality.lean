import Mathlib.Data.List.TakeWhile
import Imageboard.Markup.Lexeme
import Imageboard.Proofs.Text.Search

/-! Readers decide by what they read.

The readers of tags and declarations look ahead without bound: a quote is looked for in all that
follows, and so is the end of a comment. Each lemma here has one shape: where a reader of the text
`s ++ b` hands on an ending `r ++ b`, it reads `s ++ b'` just the same and hands on `r ++ b'`, for
every `b'` with no quote in it that could be found instead (`Thins`). Either what it looked for stands
in `s`, or it stands nowhere.

Text is read up to markup that begins behind it, so that it needs a `>` in what it hands on; the
last section has that shape. -/
namespace Imageboard
namespace Markup
open Text

/-! ### Tags -/

/-- Where `b` has been left, `b'` begins as `b` does, unless there is nothing of it. -/
def Follows (b b' : List Char) : Prop := b' = [] ∨ b'.head? = b.head?

/-- Every quote in `b'` is one that has been looked for in `b`. -/
def NoNewQuote (b b' : List Char) : Prop := ∀ c ∈ b', c = '"' ∨ c = '\'' → c ∈ b

/-- Nothing new is found in `b'` where `b` has been left. -/
structure Thins (b b' : List Char) : Prop where
  head : Follows b b'
  quotes : NoNewQuote b b'

theorem Thins.nil (b : List Char) : Thins b [] := ⟨.inl rfl, fun _ hc => nomatch hc⟩

theorem Follows.eq_nil {b b' : List Char} (hb : Follows b b') (h : b = []) : b' = [] := by
  subst h
  exact hb.elim id List.head?_eq_none_iff.mp

theorem Follows.cons_of_append {r b b' t' : List Char} {c : Char} (hb : Follows b b')
    (h : r ++ b' = c :: t') : ∃ t, r ++ b = c :: t := by
  cases r with
  | nil =>
    obtain rfl : b' = c :: t' := h
    exact List.head?_eq_some_iff.mp (hb.resolve_left (List.cons_ne_nil c t')).symm
  | cons d r =>
    obtain ⟨rfl, -⟩ := List.cons.inj h
    exact ⟨r ++ b, rfl⟩

theorem Follows.dropWhile_eq {p : Char → Bool} {b b' : List Char} (hb : Follows b b')
    (h : b.dropWhile p = b) : b'.dropWhile p = b' := by
  cases b' with
  | nil => rfl
  | cons c t =>
    obtain ⟨u, rfl⟩ : ∃ u, b = c :: u := hb.cons_of_append (r := []) rfl
    cases hc : p c with
    | false => rw [List.dropWhile_cons_of_neg (by simp [hc])]
    | true =>
      rw [List.dropWhile_cons_of_pos hc] at h
      have hlen := (List.dropWhile_suffix p (l := u)).length_le
      rw [h, List.length_cons] at hlen
      omega

theorem readValue_quoted_isSuffix {c : Char} (hc : (c == '"' || c == '\'') = true)
    (s : List Char) : (readValue (c :: s)).2 <:+ s := by
  rw [readValue, if_pos hc]
  split
  · rename_i d rest hd
    exact (List.suffix_cons d rest).trans (hd ▸ dropWhile_isSuffix _ s)
  · exact dropWhile_isSuffix _ s

/-- What has an ending with `b` at its end ends with `b`. -/
theorem ends_of_isSuffix {v r b : List Char} (h : r ++ b <:+ v) : ∃ m, v = m ++ b := by
  obtain ⟨t, rfl⟩ := h
  exact ⟨t ++ r, (List.append_assoc ..).symm⟩

theorem eq_nil_of_append_isSuffix {r b : List Char} (h : r ++ b <:+ b) : r = [] := by
  have hlen := h.length_le
  rw [List.length_append] at hlen
  exact List.eq_nil_of_length_eq_zero (by omega)

section
variable {s b b' r : List Char} (hb : Follows b b')
include hb

theorem dropWhile_of_append {p : Char → Bool} (h : (s ++ b).dropWhile p = r ++ b) :
    (s ++ b').dropWhile p = r ++ b' ∧ (s ++ b).takeWhile p = (s ++ b').takeWhile p := by
  have hdrop : (s ++ b').dropWhile p = r ++ b' := by
    rw [List.dropWhile_append] at h ⊢
    split at h
    · rename_i he
      obtain rfl := eq_nil_of_append_isSuffix (h ▸ dropWhile_isSuffix p b)
      rw [if_pos he]
      exact hb.dropWhile_eq h
    · rename_i he
      rw [if_neg he, List.append_cancel_right h]
  have htake {t : List Char} (h : (s ++ t).dropWhile p = r ++ t) :
      (s ++ t).takeWhile p ++ r = s := by
    refine List.append_cancel_right (?_ : _ ++ t = _ ++ t)
    rw [List.append_assoc, ← h, List.takeWhile_append_dropWhile]
  exact ⟨hdrop, List.append_cancel_right ((htake h).trans (htake hdrop).symm)⟩

theorem cut_of_append {p : Char → Bool} {x : List Char} (h : cut p (s ++ b) = (x, r ++ b)) :
    cut p (s ++ b') = (x, r ++ b') := by
  obtain ⟨hx, hr⟩ := Prod.mk.inj h
  obtain ⟨hdrop, htake⟩ := dropWhile_of_append hb hr
  rw [cut, hdrop, ← htake, hx]

theorem after_of_append {c : Char} (h : after c (s ++ b) = r ++ b) :
    after c (s ++ b') = r ++ b' := by
  unfold after at h ⊢
  cases hd : (s ++ b).dropWhile (· != c) with
  | nil =>
    rw [hd] at h
    obtain ⟨rfl, rfl⟩ := List.append_eq_nil_iff.mp (Eq.symm h)
    rw [hb.eq_nil rfl, hd]
    rfl
  | cons d q =>
    rw [hd] at h
    obtain rfl : q = r ++ b := h
    rw [(dropWhile_of_append (r := d :: r) hb hd).1]
    rfl

/-- Where nothing of `b` is read as a value, nothing of `b'` is. -/
theorem readValue_of_nothing {x : List Char} (h : readValue b = (x, b)) :
    readValue b' = (x, b') := by
  cases b with
  | nil => rwa [hb.eq_nil rfl]
  | cons c t =>
    have hquote : (c == '"' || c == '\'') = false := by
      by_contra hq
      have hsuffix := readValue_quoted_isSuffix (by simpa only [Bool.not_eq_false] using hq) t
      rw [h] at hsuffix
      have hlen := hsuffix.length_le
      rw [List.length_cons] at hlen
      omega
    have hunquoted (t : List Char) :
        readValue (c :: t) = cut (fun d => !(isSpace d || d == '>')) (c :: t) := by
      rw [readValue, hquote]
      rfl
    rw [hunquoted] at h
    have hcut := cut_of_append (s := []) (r := []) hb h
    rcases hb with rfl | hhead
    · exact hcut
    · obtain ⟨t', rfl⟩ := List.head?_eq_some_iff.mp hhead
      rw [hunquoted]
      exact hcut

/-- A quote that is looked for in vain leaves nothing, or a `>`. Where anything else is left, no quote
in `b'` could have been found instead. -/
theorem readValue_of_append {x : List Char}
    (hclosed : NoNewQuote b b' ∨ ∃ c q, r ++ b = c :: q ∧ c ≠ '>')
    (h : readValue (s ++ b) = (x, r ++ b)) : readValue (s ++ b') = (x, r ++ b') := by
  cases s with
  | nil =>
    obtain rfl : r = [] := by
      have hsuffix := readValue_isSuffix b
      rw [← List.nil_append b, h] at hsuffix
      exact eq_nil_of_append_isSuffix hsuffix
    exact readValue_of_nothing hb h
  | cons c s =>
    simp only [List.cons_append, readValue] at h ⊢
    split at h
    · rename_i hq
      rw [if_pos hq]
      split at h
      · rename_i d q hd
        obtain ⟨hx, rfl⟩ := Prod.mk.inj h
        obtain ⟨hdrop, htake⟩ := dropWhile_of_append (r := d :: r) hb hd
        rw [hdrop, ← htake, hx]
        rfl
      · rename_i hd
        rcases hclosed with hquotes | ⟨d, q, hq', hgt⟩
        · have hs : (s ++ b').dropWhile (· != c) = [] := by
            refine List.dropWhile_eq_nil_iff.mpr fun d hmem => bne_iff_ne.mpr ?_
            rintro rfl
            have hd' := List.dropWhile_eq_nil_iff.mp hd d (List.mem_append.mpr
              ((List.mem_append.mp hmem).imp_right fun hmem' => hquotes d hmem' (by simpa using hq)))
            simp at hd'
          rw [hs]
          exact cut_of_append hb h
        · obtain ⟨-, hrest⟩ := Prod.mk.inj h
          have hend := List.head_dropWhile_not (p := (· != '>')) (l := s ++ b)
            (by rw [hrest, hq']; exact List.cons_ne_nil d q)
          simp only [hrest, hq', List.head_cons, bne_eq_false_iff_eq] at hend
          exact absurd hend hgt
    · rename_i hq
      rw [if_neg hq]
      exact cut_of_append (s := c :: s) hb h

theorem readAssignment_of_append {x : List Char}
    (hclosed : NoNewQuote b b' ∨ ∃ c q, r ++ b = c :: q ∧ c ≠ '>')
    (h : readAssignment (s ++ b) = (x, r ++ b)) : readAssignment (s ++ b') = (x, r ++ b') := by
  unfold readAssignment at h ⊢
  split at h
  · rename_i rest hd
    have hr : r ++ b <:+ rest.dropWhile isSpace := by
      have := readValue_isSuffix (rest.dropWhile isSpace)
      rwa [h] at this
    obtain ⟨m, rfl⟩ := ends_of_isSuffix (hr.trans (dropWhile_isSuffix isSpace rest))
    rw [(dropWhile_of_append (r := '=' :: m) hb hd).1]
    obtain ⟨k, hk⟩ := ends_of_isSuffix hr
    rw [hk] at h
    show readValue ((m ++ b').dropWhile isSpace) = (x, r ++ b')
    rw [(dropWhile_of_append hb hk).1]
    exact readValue_of_append hb hclosed h
  · rename_i hne
    obtain ⟨rfl, hd⟩ := Prod.mk.inj h
    rw [(dropWhile_of_append hb hd).1]
    split
    · rename_i rest heq
      obtain ⟨rest', hrest⟩ := hb.cons_of_append heq
      exact absurd (hd.trans hrest) (hne rest')
    · rfl

end

theorem isSuffix_of_readAttributes {o : Options} {earlier : Attributes} {s r : List Char}
    {tail : TagTail} (h : readAttributes o earlier s = (tail, r)) : r <:+ s := by
  have hsuffix := readAttributes_isSuffix o earlier s
  rwa [h] at hsuffix

theorem after_ends (c : Char) (s : List Char) : after c s = [] ∨ c :: after c s <:+ s := by
  unfold after
  cases hd : s.dropWhile (· != c) with
  | nil => exact .inl rfl
  | cons d rest =>
    have hdc : (d != c) = false := by
      have := List.head_dropWhile_not (p := (· != c)) (l := s) (by simp [hd])
      simpa [hd] using this
    obtain rfl : d = c := by simpa using hdc
    exact .inr (hd ▸ dropWhile_isSuffix _ s)

section
variable {s b b' r : List Char} (hb : Thins b b')
include hb

theorem readAttributes_of_append {o : Options} {earlier : Attributes} {tail : TagTail}
    (h : readAttributes o earlier (s ++ b) = (tail, r ++ b)) :
    readAttributes o earlier (s ++ b') = (tail, r ++ b') := by
  generalize hp : s ++ b = page at h
  fun_induction readAttributes o earlier page generalizing s with
  | case1 earlier page hd =>
    obtain ⟨rfl, hr⟩ := Prod.mk.inj h
    obtain ⟨rfl, rfl⟩ := List.append_eq_nil_iff.mp hr.symm
    rw [← hp] at hd
    rw [hb.head.eq_nil rfl]
    exact readAttributes_cut_off hd
  | case2 earlier page rest hd =>
    obtain ⟨rfl, rfl⟩ := Prod.mk.inj h
    rw [← hp] at hd
    exact readAttributes_end (dropWhile_of_append (r := '>' :: r) hb.head hd).1
  | case3 earlier page rest hd =>
    obtain ⟨rfl, rfl⟩ := Prod.mk.inj h
    rw [← hp] at hd
    exact readAttributes_self_closing (dropWhile_of_append (r := '/' :: '>' :: r) hb.head hd).1
  | case4 earlier page rest hne hd ih =>
    rw [← hp] at hd
    obtain ⟨m, rfl⟩ := ends_of_isSuffix (isSuffix_of_readAttributes h)
    have hm : (m ++ b').head? ≠ some '>' := by
      intro hm
      obtain ⟨q, hq⟩ := List.head?_eq_some_iff.mp hm
      obtain ⟨q', hq'⟩ := hb.head.cons_of_append hq
      exact hne q' hq'
    rw [readAttributes_slash (dropWhile_of_append (r := '/' :: m) hb.head hd).1 hm]
    exact ih rfl h
  | case5 earlier page rest hd ih =>
    rw [← hp] at hd
    obtain ⟨m, rfl⟩ := ends_of_isSuffix (isSuffix_of_readAttributes h)
    rw [readAttributes_stray (dropWhile_of_append (r := '=' :: m) hb.head hd).1]
    exact ih rfl h
  | case6 earlier page c rest hgt _ hslash heq hd key value =>
    rename_i ih
    have hr : r ++ b <:+ value.2 := isSuffix_of_readAttributes h
    rw [← hp] at hd
    have hvalue : value.2 <:+ rest.dropWhile isKeyCharacter := readAssignment_isSuffix _
    obtain ⟨n, hn⟩ := ends_of_isSuffix hr
    obtain ⟨k, hk⟩ := ends_of_isSuffix (hr.trans hvalue)
    obtain ⟨m, rfl⟩ := ends_of_isSuffix (hr.trans (hvalue.trans (dropWhile_isSuffix _ rest)))
    obtain ⟨hdrop, htake⟩ := dropWhile_of_append hb.head hk
    have hread : readAssignment (k ++ b') = (value.1, n ++ b') := by
      refine readAssignment_of_append hb.head (.inl hb.quotes) ?_
      rw [← hk, ← hn]
    have hspaces : (s ++ b').dropWhile isSpace = c :: (m ++ b') :=
      (dropWhile_of_append (r := c :: m) hb.head hd).1
    rw [readAttributes_key hspaces hgt hslash heq, hdrop, hread, ← htake]
    exact ih hn.symm h

theorem readOpenTag_of_append {o : Options} {token : Token}
    (h : readOpenTag o (s ++ b) = (token, r ++ b)) :
    readOpenTag o (s ++ b') = (token, r ++ b') := by
  obtain ⟨htoken, hr⟩ := Prod.mk.inj h
  have hsuffix : r ++ b <:+ (s ++ b).dropWhile isNameCharacter :=
    hr ▸ readAttributes_isSuffix o .empty _
  obtain ⟨m, hm⟩ := ends_of_isSuffix hsuffix
  obtain ⟨hdrop, htake⟩ := dropWhile_of_append hb.head hm
  have hread : readAttributes o .empty (m ++ b') =
      ((readAttributes o .empty (m ++ b)).1, r ++ b') :=
    readAttributes_of_append hb (by rw [← hm, ← hr])
  unfold readOpenTag
  rw [hdrop, hread, ← htoken, hm, htake]

theorem readCloseTag_of_append {token : Option Token}
    (h : readCloseTag (s ++ b) = (token, r ++ b)) :
    readCloseTag (s ++ b') = (token, r ++ b') := by
  obtain ⟨htoken, hr⟩ := Prod.mk.inj h
  obtain ⟨m, hm⟩ := ends_of_isSuffix (hr ▸ after_isSuffix '>' _)
  obtain ⟨hdrop, htake⟩ := dropWhile_of_append hb.head hm
  rw [hm] at hr
  unfold readCloseTag
  rw [hdrop, after_of_append hb.head hr, ← htoken, htake]

/-! ### Declarations -/

theorem afterInfix_of_append {needle : List Char} (h : afterInfix needle (s ++ b) = r ++ b) :
    afterInfix needle (s ++ b') = r ++ b' := by
  unfold afterInfix at h ⊢
  split at h
  · rename_i x rest hrest
    subst h
    rw [splitFirst?_append (splitFirst?_of_append hrest)]
  · rename_i hnone
    obtain ⟨rfl, rfl⟩ := List.append_eq_nil_iff.mp h.symm
    rw [hb.head.eq_nil rfl, hnone]
    rfl

/-- A declaration that is not open begins a comment or not by what stands before its `>`. -/
theorem strip?_eq_none_of_after {lead : List Char} (hlead : '>' ∉ lead)
    (h : after '>' (s ++ b) = r ++ b) (hs : strip? lead (s ++ b) = none) :
    strip? lead (s ++ b') = none := by
  rcases after_ends '>' (s ++ b) with hnil | hend
  · rw [h] at hnil
    obtain ⟨-, rfl⟩ := List.append_eq_nil_iff.mp hnil
    rwa [hb.head.eq_nil rfl]
  · obtain ⟨u, hu⟩ := hend
    obtain rfl : s = u ++ '>' :: r := by
      refine List.append_cancel_right (?_ : s ++ b = _ ++ b)
      rw [List.append_assoc, List.cons_append, ← h, hu]
    rw [List.append_assoc, List.cons_append, strip?_append_stop hlead] at hs ⊢
    rw [Option.map_eq_none_iff.mp hs]
    rfl

theorem afterDeclaration_of_append (h : afterDeclaration (s ++ b) = r ++ b) :
    afterDeclaration (s ++ b') = r ++ b' := by
  unfold afterDeclaration at h ⊢
  split at h
  · rename_i body hbody
    obtain ⟨m, rfl⟩ := ends_of_isSuffix (h ▸ afterInfix_isSuffix _ body)
    rw [strip?_append (strip?_of_append hbody)]
    exact afterInfix_of_append hb h
  · rename_i hnone
    rw [strip?_eq_none_of_after hb (by decide) h hnone]
    exact after_of_append hb.head h

end

/-! ### What markup ends with

Markup is read up to a `>`, or to the end of the page. -/

theorem readAttributes_ends (o : Options) (earlier : Attributes) (s : List Char) :
    (readAttributes o earlier s).2 = [] ∨ '>' :: (readAttributes o earlier s).2 <:+ s := by
  fun_induction readAttributes o earlier s with
  | case1 => exact .inl rfl
  | case2 _ s rest hd => exact .inr (hd ▸ dropWhile_isSuffix _ s)
  | case3 _ s rest hd =>
    exact .inr ((List.suffix_cons '/' _).trans (hd ▸ dropWhile_isSuffix _ s))
  | case4 _ s rest _ hd ih =>
    exact ih.imp_right fun h =>
      h.trans ((List.suffix_cons _ rest).trans (hd ▸ dropWhile_isSuffix _ s))
  | case5 _ s rest hd ih =>
    exact ih.imp_right fun h =>
      h.trans ((List.suffix_cons _ rest).trans (hd ▸ dropWhile_isSuffix _ s))
  | case6 _ s c rest _ _ _ _ hd _ value ih =>
    have hvalue : value.2 <:+ rest.dropWhile isKeyCharacter := readAssignment_isSuffix _
    exact ih.imp_right fun h => h.trans (hvalue.trans ((dropWhile_isSuffix _ rest).trans
      ((List.suffix_cons c rest).trans (hd ▸ dropWhile_isSuffix _ s))))

theorem afterDeclaration_ends (s : List Char) :
    afterDeclaration s = [] ∨ '>' :: afterDeclaration s <:+ s := by
  unfold afterDeclaration
  split
  · rename_i body hbody
    unfold afterInfix
    split
    · rename_i x rest hrest
      refine .inr ?_
      rw [strip?_eq hbody, splitFirst?_eq hrest]
      exact ⟨['!', '-', '-'] ++ (x ++ ['-', '-']), by simp⟩
    · exact .inl rfl
  · exact after_ends '>' s

/-! ### Text -/

/-- A page can go on with `b'` where it has been left at `b`: with nothing, or with the beginning of
the same tag and no other quotes. -/
structure Resumes (b b' : List Char) : Prop where
  quotes : NoNewQuote b b'
  tag : b' = [] ∨ ∃ c t t', c.isAlpha = true ∧ b = '<' :: c :: t ∧ b' = '<' :: c :: t'

theorem Resumes.nil (b : List Char) : Resumes b [] := 
  ⟨fun _ hc => absurd hc List.not_mem_nil, .inl rfl⟩

theorem Resumes.thins {b b' : List Char} (hb : Resumes b b') : Thins b b' where
  head := by
    obtain hnil | ⟨c, t, t', -, rfl, rfl⟩ := hb.tag
    · exact .inl hnil
    · exact .inr rfl
  quotes := hb.quotes

theorem startsMarkup_append {s : List Char} (h : startsMarkup s = true) (b : List Char) :
    startsMarkup (s ++ b) = true := by
  unfold startsMarkup at h
  split at h
  · exact h
  · rename_i c s _
    have hc : c ≠ '/' := by rintro rfl; simp at h
    rw [List.cons_append, List.cons_append, startsMarkup_open hc]
    exact h
  · cases h

/-- Whether markup starts is told by three characters. -/
theorem startsMarkup_long (c d e : Char) (s b : List Char) :
    startsMarkup (c :: d :: e :: s ++ b) = startsMarkup (c :: d :: e :: s) := by
  by_cases hc : c = '<'
  · subst hc
    by_cases hd : d = '/'
    · subst hd; rfl
    · rw [List.cons_append, List.cons_append, startsMarkup_open hd, startsMarkup_open hd]
  · rw [List.cons_append, startsMarkup_other hc, startsMarkup_other hc]

/-- Whether markup starts is told by what stands before the first `>`. -/
theorem startsMarkup_of_mem {s : List Char} (hgt : '>' ∈ s) (b : List Char) :
    startsMarkup (s ++ b) = startsMarkup s := by
  match s with
  | [c] =>
    obtain rfl : '>' = c := List.mem_singleton.mp hgt
    rfl
  | [c, d] =>
    by_cases hc : c = '<'
    · subst hc
      obtain rfl : '>' = d := by simpa using hgt
      rfl
    · rw [List.cons_append, startsMarkup_other hc, startsMarkup_other hc]
  | c :: d :: e :: s => exact startsMarkup_long c d e s b

/-- A `<` is in no text before it. -/
theorem startsMarkup_stop {s : List Char} (hs : s ≠ []) (rest : List Char) :
    startsMarkup (s ++ '<' :: rest) = startsMarkup s := by
  match s with
  | [c] =>
    by_cases hc : c = '<'
    · subst hc; rfl
    · rw [List.cons_append, startsMarkup_other hc, startsMarkup_other hc]
  | [c, d] =>
    by_cases hc : c = '<'
    · subst hc
      by_cases hd : d = '/'
      · subst hd; rfl
      · rw [List.cons_append, List.cons_append, startsMarkup_open hd, startsMarkup_open hd]
    · rw [List.cons_append, startsMarkup_other hc, startsMarkup_other hc]
  | c :: d :: e :: s => exact startsMarkup_long c d e s _

theorem Resumes.startsMarkup_eq {b b' s : List Char} (hb : Resumes b b') (hs : s ≠ []) :
    startsMarkup (s ++ b') = startsMarkup s := by
  obtain rfl | ⟨c, t, t', -, rfl, rfl⟩ := hb.tag
  · rw [List.append_nil]
  · exact startsMarkup_stop hs _

/-- What follows a text is markup, or nothing. -/
theorem afterText_cases (s : List Char) : afterText s = [] ∨ startsMarkup (afterText s) = true := by
  induction s with
  | nil => exact .inl rfl
  | cons c s ih =>
    rw [afterText]
    split
    · rename_i hm
      exact .inr hm
    · exact ih

theorem afterText_append_stop {t : List Char} (ht : startsMarkup ('<' :: t) = true)
    (s : List Char) : afterText (s ++ '<' :: t) = afterText s ++ '<' :: t := by
  induction s with
  | nil => exact if_pos ht
  | cons c s ih =>
    have hstop : startsMarkup (c :: (s ++ '<' :: t)) = startsMarkup (c :: s) :=
      startsMarkup_stop (List.cons_ne_nil c s) t
    rw [List.cons_append, afterText, afterText, hstop]
    split
    · rfl
    · exact ih

theorem afterText_alone {s b r : List Char} (h : afterText (s ++ b) = r ++ b)
    (hr : r = [] ∨ '>' ∈ r) : afterText s = r := by
  induction s with
  | nil =>
    have hb : afterText b = r ++ b := h
    obtain rfl := eq_nil_of_append_isSuffix (hb ▸ afterText_isSuffix b)
    rfl
  | cons c s ih =>
    rw [List.cons_append, afterText] at h
    rw [afterText]
    split at h
    · rename_i hm
      obtain rfl : r = c :: s := (List.append_cancel_right (h : c :: s ++ b = r ++ b)).symm
      have hgt : '>' ∈ c :: s := hr.resolve_left (by simp)
      rw [← List.cons_append, startsMarkup_of_mem hgt] at hm
      rw [if_pos hm]
    · rename_i hm
      rw [if_neg fun hs => hm (startsMarkup_append hs b)]
      exact ih h

theorem afterText_of_append {s b b' r : List Char} (hb : Resumes b b')
    (h : afterText (s ++ b) = r ++ b) (hr : r = [] ∨ '>' ∈ r) : afterText (s ++ b') = r ++ b' := by
  have halone := afterText_alone h hr
  obtain rfl | ⟨c, t, t', hc, rfl, rfl⟩ := hb.tag
  · rw [List.append_nil, List.append_nil, halone]
  · have hne : c ≠ '/' := by rintro rfl; cases hc
    have hm : startsMarkup ('<' :: c :: t') = true := by
      rw [startsMarkup_open hne, hc]
      rfl
    rw [afterText_append_stop hm, halone]

theorem isNameCharacter_toLower (c : Char) : isNameCharacter c.toLower = isNameCharacter c := by
  cases hc : c.isUpper with
  | true => simp [isNameCharacter, Char.isAlphanum, isAlpha_eq, hc, isLower_toLower hc]
  | false => rw [toLower_of_not_isUpper hc]

/-- Looking for a name stops at a character that is in no name. -/
theorem stripFolded?_stop {name : List Char} (hname : ∀ c ∈ name, isNameCharacter c = true)
    {k : Char} (hk : isNameCharacter k = false) (s rest : List Char) :
    stripFolded? name (s ++ k :: rest) = (stripFolded? name s).map (· ++ k :: rest) := by
  induction name generalizing s with
  | nil => rfl
  | cons c name ih =>
    have hrest := ih fun d hd => hname d (List.mem_cons_of_mem c hd)
    cases s with
    | nil =>
      have hck : (c.toLower == k.toLower) = false := by
        refine beq_eq_false_iff_ne.mpr fun he => ?_
        have hc := hname c List.mem_cons_self
        rw [← isNameCharacter_toLower, he, isNameCharacter_toLower, hk] at hc
        cases hc
      simp [stripFolded?, hck]
    | cons d s =>
      rw [List.cons_append, stripFolded?, stripFolded?]
      split
      · exact hrest s
      · rfl

theorem startsEndTag_stop {name : List Char} (hname : ∀ c ∈ name, isNameCharacter c = true)
    {k : Char} (hk : isNameCharacter k = false) (hslash : k ≠ '/') {s : List Char} (hs : s ≠ [])
    (rest : List Char) : startsEndTag name (s ++ k :: rest) = startsEndTag name s := by
  match s with
  | [c] =>
    by_cases hc : c = '<'
    · subst hc
      simp [startsEndTag, hslash]
    · simp [startsEndTag, hc]
  | c :: d :: s =>
    by_cases hc : c = '<' ∧ d = '/'
    · obtain ⟨rfl, rfl⟩ := hc
      simp only [List.cons_append, startsEndTag, stripFolded?_stop hname hk]
      cases stripFolded? name s with
      | none => rfl
      | some rest' => cases rest' <;> simp [hk]
    · have hno (t : List Char) : startsEndTag name (c :: d :: t) = false := by
        unfold startsEndTag
        split
        · rename_i he
          simp only [List.cons.injEq] at he
          exact absurd ⟨he.1, he.2.1⟩ hc
        · rfl
      rw [List.cons_append, List.cons_append, hno, hno]

theorem startsEndTag_lt {name : List Char} {c : Char} {s : List Char}
    (h : startsEndTag name (c :: s) = true) : c = '<' := by
  unfold startsEndTag at h
  split at h
  · rename_i he; exact (List.cons.inj he).1
  · cases h

/-- The end tag of an element whose name begins with a letter is markup. -/
theorem startsMarkup_of_startsEndTag {d : Char} {name s : List Char} (hd : d.isAlpha = true)
    (h : startsEndTag (d :: name) s = true) : startsMarkup s = true := by
  unfold startsEndTag at h
  split at h
  · rename_i rest
    cases rest with
    | nil => cases h
    | cons e rest =>
      rw [startsMarkup_close]
      by_cases he : (d.toLower == e.toLower) = true
      · rw [← isAlpha_toLower e, ← eq_of_beq he, isAlpha_toLower, hd]
        rfl
      · simp [stripFolded?, he] at h
  · cases h

/-- What follows raw text begins with the `<` of an end tag, unless it is nothing. -/
theorem afterRawText_head (name s : List Char) :
    afterRawText name s = [] ∨
      ∃ rest, afterRawText name s = '<' :: rest ∧ startsEndTag name ('<' :: rest) = true := by
  induction s with
  | nil => exact .inl rfl
  | cons c s ih =>
    rw [afterRawText]
    split
    · rename_i h
      obtain rfl := startsEndTag_lt h
      exact .inr ⟨s, rfl, h⟩
    · exact ih

theorem afterRawText_alone {name s b r : List Char}
    (hname : ∀ c ∈ name, isNameCharacter c = true) (h : afterRawText name (s ++ b) = r ++ b)
    (hr : r = [] ∨ '>' ∈ r) : afterRawText name s = r := by
  induction s with
  | nil =>
    have hb : afterRawText name b = r ++ b := h
    obtain rfl := eq_nil_of_append_isSuffix (hb ▸ afterRawText_isSuffix name b)
    rfl
  | cons c s ih =>
    rw [List.cons_append, afterRawText] at h
    rw [afterRawText]
    split at h
    · rename_i hstart
      obtain rfl : r = c :: s := (List.append_cancel_right (h : c :: s ++ b = r ++ b)).symm
      obtain rfl := startsEndTag_lt hstart
      -- The end tag is told by what stands before its `>`.
      obtain ⟨u, w, huw⟩ := List.append_of_mem (hr.resolve_left (by simp))
      have hu : u ≠ [] := by
        rintro rfl
        cases huw
      rw [← List.cons_append, huw, List.append_assoc, List.cons_append,
        startsEndTag_stop hname rfl (by decide) hu] at hstart
      rw [huw, startsEndTag_stop hname rfl (by decide) hu, if_pos hstart]
    · rename_i hstart
      have hrest := ih h
      obtain ⟨t, ht⟩ := afterRawText_isSuffix name s
      rw [hrest] at ht
      -- Neither with `b` behind it nor without does the name go on into what follows the text.
      have hsame (v : List Char) (hv : v = [] ∨ ∃ w, v = '<' :: w) :
          startsEndTag name (c :: t ++ v) = startsEndTag name (c :: t) := by
        rcases hv with rfl | ⟨w, rfl⟩
        · rw [List.append_nil]
        · exact startsEndTag_stop hname rfl (by decide) (by simp) w
      have hhead : r = [] ∨ ∃ w, r = '<' :: w := by
        have := afterRawText_head name s
        rw [hrest] at this
        exact this.imp_right fun ⟨w, hw, _⟩ => ⟨w, hw⟩
      have hheadb : r ++ b = [] ∨ ∃ w, r ++ b = '<' :: w := by
        have := afterRawText_head name (s ++ b)
        rw [h] at this
        exact this.imp_right fun ⟨w, hw, _⟩ => ⟨w, hw⟩
      have hno : ¬ startsEndTag name (c :: s) = true := by
        rw [← ht, ← List.cons_append, hsame r hhead, ← hsame (r ++ b) hheadb, List.cons_append,
          ← List.append_assoc, ht]
        exact hstart
      rw [if_neg hno]
      exact hrest

theorem afterRawText_append_stop {name : List Char}
    (hname : ∀ c ∈ name, isNameCharacter c = true) {s : List Char} (hs : afterRawText name s ≠ [])
    (rest : List Char) :
    afterRawText name (s ++ '<' :: rest) = afterRawText name s ++ '<' :: rest := by
  induction s with
  | nil => exact absurd rfl hs
  | cons c s ih =>
    have hstop : startsEndTag name (c :: (s ++ '<' :: rest)) = startsEndTag name (c :: s) :=
      startsEndTag_stop hname rfl (by decide) (List.cons_ne_nil c s) rest
    rw [afterRawText] at hs
    rw [List.cons_append, afterRawText, afterRawText, hstop]
    split
    · rfl
    · rename_i hno
      rw [if_neg hno] at hs
      exact ih hs

theorem afterRawText_of_append {name s b b' r : List Char}
    (hname : ∀ c ∈ name, isNameCharacter c = true) (hb : Resumes b b')
    (h : afterRawText name (s ++ b) = r ++ b) (hr : r = [] ∨ '>' ∈ r) :
    afterRawText name (s ++ b') = r ++ b' := by
  have halone := afterRawText_alone hname h hr
  obtain rfl | ⟨c, t, t', hc, rfl, rfl⟩ := hb.tag
  · rw [List.append_nil, List.append_nil, halone]
  · have hne : r ≠ [] := by
      -- The raw text would end with an end tag where another tag begins.
      rintro rfl
      rcases afterRawText_head name (s ++ '<' :: c :: t) with hnil | ⟨rest, hrest, hend⟩
      · rw [h] at hnil
        cases hnil
      · rw [h] at hrest
        obtain rfl : c :: t = rest := (List.cons.inj hrest).2
        unfold startsEndTag at hend
        split at hend
        · rename_i heq
          rw [(List.cons.inj (List.cons.inj heq).2).1] at hc
          cases hc
        · cases hend
    rw [afterRawText_append_stop hname (halone ▸ hne), halone]

end Markup
end Imageboard
