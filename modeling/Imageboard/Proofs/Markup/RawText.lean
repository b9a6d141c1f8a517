import Imageboard.Proofs.Markup.Cut

/-! What is read behind the tag of a raw-text element.

The body of the element runs up to the first end tag of the element itself, or to the end of the
page. `raw_text_body`: it is one text, whatever is written in it, and the end tag comes next. -/
namespace Imageboard
open Lexeme Markup Text

/-- An end tag of the element is written at byte `p` of the page: `</`, the name in any letter case,
and then the end of the page or a character that no name has. -/
def EndTagAt (page : List Char) (name : String) (p : Nat) : Prop :=
  ∃ lead written rest, page = lead ++ '<' :: '/' :: (written ++ rest) ∧ p = byteLength lead ∧
    lowercase written = lowercase name.toList ∧ ∀ c ∈ rest.head?, isNameCharacter c = false

/-- The body that begins at byte `start` ends at byte `stop`: at the first end tag from `start` on, or
at the end of the page where there is none. -/
structure BodyEnds (page : List Char) (name : String) (start stop : Nat) : Prop where
  le : start ≤ stop
  stops : EndTagAt page name stop ∨ stop = byteLength page
  first : ∀ p, start ≤ p → p < stop → ¬ EndTagAt page name p

namespace Markup

theorem startsEndTag_iff {name s : List Char} :
    startsEndTag name s = true ↔ ∃ written rest, s = '<' :: '/' :: (written ++ rest) ∧
      lowercase written = lowercase name ∧ ∀ c ∈ rest.head?, isNameCharacter c = false := by
  have hboundary (rest : List Char) : (!rest.head?.any isNameCharacter) = true ↔
      ∀ c ∈ rest.head?, isNameCharacter c = false := by
    cases rest <;> simp
  constructor
  · intro h
    unfold startsEndTag at h
    split at h
    · split at h
      · rename_i rest hstrip
        obtain ⟨written, rfl, hwritten⟩ := stripFolded?_eq_some.mp hstrip
        exact ⟨written, rest, rfl, hwritten, (hboundary rest).mp h⟩
      · cases h
    · cases h
  · rintro ⟨written, rest, rfl, hwritten, hrest⟩
    have hstrip : stripFolded? name (written ++ rest) = some rest :=
      stripFolded?_eq_some.mpr ⟨written, rfl, hwritten⟩
    rw [startsEndTag, hstrip]
    exact (hboundary rest).mpr hrest

/-- No end tag begins in front of where the search for one stops. -/
theorem afterRawText_first (name s : List Char) :
    ∃ body, s = body ++ afterRawText name s ∧
      ∀ lead rest, body = lead ++ rest → rest ≠ [] →
        startsEndTag name (rest ++ afterRawText name s) = false := by
  induction s with
  | nil =>
    refine ⟨[], rfl, fun lead rest hbody hrest => ?_⟩
    exact absurd (List.append_eq_nil_iff.mp hbody.symm).2 hrest
  | cons c s ih =>
    rw [afterRawText]
    split
    · refine ⟨[], rfl, fun lead rest hbody hrest => ?_⟩
      exact absurd (List.append_eq_nil_iff.mp hbody.symm).2 hrest
    · rename_i hstart
      obtain ⟨body, hs, hfirst⟩ := ih
      refine ⟨c :: body, congrArg (c :: ·) hs, fun lead rest hbody hrest => ?_⟩
      cases lead with
      | nil =>
        obtain rfl : c :: body = rest := hbody
        rw [List.cons_append, ← hs]
        exact Bool.eq_false_iff.mpr hstart
      | cons d lead => exact hfirst lead rest (List.cons.inj hbody).2 hrest

/-- The search for an end tag stops where the body ends. -/
theorem bodyEnds_afterRawText {name : String} {body rest : List Char}
    (hbody : afterRawText name.toList (body ++ rest) = rest) (lead : List Char) :
    BodyEnds (lead ++ (body ++ rest)) name (byteLength lead) (byteLength (lead ++ body)) where
  le := by
    rw [byteLength_append]
    exact Nat.le_add_right _ _
  stops := by
    rcases afterRawText_head name.toList (body ++ rest) with hnil | ⟨tail, htail, hend⟩
    · rw [hbody] at hnil
      rw [hnil, List.append_nil]
      exact .inr rfl
    · rw [hbody] at htail
      obtain ⟨written, behind, hrest, hwritten⟩ := startsEndTag_iff.mp (htail ▸ hend)
      exact .inl ⟨lead ++ body, written, behind, by rw [hrest, List.append_assoc], rfl, hwritten⟩
  first := by
    rintro p hstart hstop ⟨lead', written, behind, hpage, rfl, hwritten⟩
    obtain ⟨lead₂, rfl, hsplit⟩ := between_of_append_eq hpage hstart
    have hle : byteLength lead₂ ≤ byteLength body := by
      rw [byteLength_append, byteLength_append] at hstop
      omega
    obtain ⟨inside, rfl, hinside⟩ := between_of_append_eq hsplit.symm hle
    have hne : inside ≠ [] := by
      rintro rfl
      rw [List.append_nil] at hstop
      exact Nat.lt_irrefl _ hstop
    obtain ⟨body', hbody', hfirst⟩ := afterRawText_first name.toList (lead₂ ++ inside ++ rest)
    rw [hbody] at hbody' hfirst
    have hnone := hfirst lead₂ inside (List.append_cancel_right hbody').symm hne
    rw [← hinside, startsEndTag_iff.mpr ⟨written, behind, rfl, hwritten⟩] at hnone
    cases hnone

end Markup

namespace Lexeme

theorem isText_of_mem_bodyBefore {s rest : List Char} {l : Lexeme} (hl : l ∈ bodyBefore s rest) :
    ∃ content, l.token = some (.text content) := by
  unfold bodyBefore at hl
  split at hl
  · cases hl
  · obtain rfl := List.mem_singleton.mp hl
    exact ⟨_, rfl⟩

/-- An end tag is read where one of an element with the name begins. -/
theorem first_endTag {o : Options} {name written rest : List Char} {d : Char} {letters : List Char}
    (hname : ∀ c ∈ name, isNameCharacter c = true) (hletter : name = d :: letters)
    (hd : d.isAlpha = true) (hwritten : lowercase written = lowercase name)
    (hrest : ∀ c ∈ rest.head?, isNameCharacter c = false) :
    (first o '<' ('/' :: (written ++ rest))).1.token =
      some (.closeTag (String.ofList (lowercase name))) := by
  have hcharacters : ∀ c ∈ written, isNameCharacter c = true := by
    intro c hc
    have hmem : c.toLower ∈ lowercase name := hwritten ▸ List.mem_map_of_mem hc
    obtain ⟨c', hc', hlower⟩ := List.mem_map.mp hmem
    rw [← isNameCharacter_toLower, ← hlower, isNameCharacter_toLower]
    exact hname c' hc'
  have htake : (written ++ rest).takeWhile isNameCharacter = written := by
    have hrest' : rest.takeWhile isNameCharacter = [] := by
      cases rest with
      | nil => rfl
      | cons c rest => rw [List.takeWhile_cons_of_neg (by simpa using hrest)]
    rw [List.takeWhile_append_of_pos hcharacters, hrest', List.append_nil]
  cases written with
  | nil =>
    rw [hletter] at hwritten
    cases hwritten
  | cons c written =>
    have hc : c.isAlpha = true := by
      rw [hletter] at hwritten
      rw [← isAlpha_toLower, (List.cons.inj hwritten).1, isAlpha_toLower]
      exact hd
    rw [List.cons_append, first_closeTag (.inl hc), readCloseTag, ← List.cons_append, htake,
      ← hwritten]

end Lexeme
open Lexeme

/-- Behind a tag come the body that it opens and the lexemes of the rest of the page. -/
theorem lexemes_behind {o : Options} {s : List Char} {left right : List Lexeme} {l : Lexeme}
    (h : lexemes o s = left ++ l :: right) (hmarkup : ∀ content, l.token ≠ some (.text content)) :
    ∃ c t, l = (first o c t).1 ∧
      right = bodyBefore (first o c t).2 (afterBody o l.token (first o c t).2) ++
        lexemes o (afterBody o l.token (first o c t).2) := by
  fun_induction lexemes o s generalizing left with
  | case1 => exact absurd h.symm (List.append_ne_nil_of_right_ne_nil _ (List.cons_ne_nil _ _))
  | case2 c t head rest =>
    rename_i ih
    cases left with
    | nil =>
      obtain ⟨rfl, rfl⟩ := List.cons.inj h
      exact ⟨c, t, rfl, rfl⟩
    | cons k left =>
      -- A body is text, so that the tag is among the lexemes behind it.
      obtain ⟨-, htail⟩ := List.cons.inj h
      rcases List.append_eq_append_iff.mp htail with ⟨left', -, hrest⟩ | ⟨excess, hbody, hrest⟩
      · exact ih hrest
      · cases excess with
        | nil =>
          have hhead : lexemes o rest = [] ++ l :: right := hrest.symm
          exact ih hhead
        | cons k' excess =>
          obtain ⟨rfl, -⟩ := List.cons.inj hrest
          have hmem : l ∈ bodyBefore (first o c t).2 rest := by
            rw [hbody]
            exact List.mem_append_right left List.mem_cons_self
          obtain ⟨content, htext⟩ := isText_of_mem_bodyBefore hmem
          exact absurd htext (hmarkup content)

/-- The text of the page between two bytes, unless there is none. -/
def textBetween (page : List Char) (start stop : Nat) : List Located :=
  if start < stop then [⟨.text (String.ofList (slice page start stop)), start, stop⟩] else []

theorem located_bodyBefore (lead body rest : List Char) (ls : List Lexeme) :
    located (byteLength lead) (bodyBefore (body ++ rest) rest ++ ls) =
      textBetween (lead ++ (body ++ rest)) (byteLength lead) (byteLength (lead ++ body)) ++
        located (byteLength (lead ++ body)) ls := by
  unfold bodyBefore textBetween
  rw [List.length_append, byteLength_append]
  by_cases hbody : body = []
  · subst hbody
    simp [byteLength]
  · have hpos := byteLength_pos hbody
    have hlen := List.length_pos_iff.mpr hbody
    have hspelling : before (body ++ rest) rest = body :=
      List.append_cancel_right (before_append (List.suffix_append body rest))
    rw [if_neg (by omega), if_pos (by omega), ← List.append_assoc, slice_middle, located_append]
    simp [located, textBefore, hspelling]

/-- Behind the tag of a raw-text element come its body and, unless the page ends, its end tag. -/
theorem lexemes_raw_text {o : Options} {s : List Char} {left right : List Lexeme} {l : Lexeme}
    {name : String} {attributes : Attributes} (h : lexemes o s = left ++ l :: right)
    (htoken : l.token = some (.openTag name attributes false)) (hraw : o.isRawText name = true) :
    ∃ body rest, afterRawText name.toList (body ++ rest) = rest ∧
      right = bodyBefore (body ++ rest) rest ++ lexemes o rest ∧
      (rest ≠ [] → ∃ k ks, lexemes o rest = k :: ks ∧ k.token = some (.closeTag name)) := by
  have hmarkup : ∀ content, l.token ≠ some (.text content) := by
    rw [htoken]
    nofun
  obtain ⟨c, t, rfl, hright⟩ := lexemes_behind h hmarkup
  obtain ⟨hcharacters, d, letters, hletter, hd⟩ := first_name htoken
  have hlower : String.ofList (lowercase name.toList) = name := by
    rw [← (first_tag htoken).1, String.toList_ofList, lowercase_lowercase]
  have hafter : afterBody o (first o c t).1.token (first o c t).2 =
      afterRawText name.toList (first o c t).2 := by
    rw [htoken, afterBody, if_pos hraw]
  rw [hafter] at hright
  have hhead := afterRawText_head name.toList (first o c t).2
  obtain ⟨body, hbody⟩ := afterRawText_isSuffix name.toList (first o c t).2
  generalize hrest : afterRawText name.toList (first o c t).2 = rest at hright hhead hbody
  rw [← hbody] at hright hrest
  refine ⟨body, rest, hrest, hright, fun hne => ?_⟩
  obtain ⟨tail, rfl, hend⟩ := hhead.resolve_left hne
  obtain ⟨written, behind, htail, hwritten, hbehind⟩ := startsEndTag_iff.mp hend
  obtain ⟨-, rfl⟩ := List.cons.inj htail
  refine ⟨_, _, lexemes_cons _ _ _, ?_⟩
  rw [first_endTag hcharacters hletter hd hwritten hbehind, hlower]

section
variable {o : Options} {page : List Char} {earlier later : List Located}

/-- The tokens behind the tag of a raw-text element: the text of the body, and those of the rest of the
page. -/
theorem tokens_raw_text {name : String} {attributes : Attributes} {start stop : Nat}
    (h : tokens o page = earlier ++ ⟨.openTag name attributes false, start, stop⟩ :: later)
    (hraw : o.isRawText name = true) :
    ∃ lead body rest, page = lead ++ (body ++ rest) ∧ stop = byteLength lead ∧
      afterRawText name.toList (body ++ rest) = rest ∧
      later = textBetween page stop (byteLength (lead ++ body)) ++
        located (byteLength (lead ++ body)) (lexemes o rest) ∧
      (rest ≠ [] → ∃ k ks, lexemes o rest = k :: ks ∧ k.token = some (.closeTag name)) := by
  obtain ⟨left, right, hsplit, hleft, hstop, l, hlast, htoken⟩ := located_eq_append_cons h
  obtain ⟨before, rfl⟩ := List.getLast?_eq_some_iff.mp hlast
  have hpage := lexemes_spelling o page
  have hlater : later = located (0 + byteLength ((before ++ [l]).flatMap spelling)) right := by
    unfold tokens at h
    rw [hsplit, located_append, hleft, List.append_assoc] at h
    exact (List.cons.inj (List.append_cancel_left h)).2.symm
  rw [hsplit, List.flatMap_append] at hpage
  rw [List.append_assoc] at hsplit
  obtain ⟨body, rest, hbody, rfl, hclose⟩ := lexemes_raw_text hsplit htoken hraw
  generalize (before ++ [l]).flatMap spelling = lead at hpage hlater hstop
  rw [List.flatMap_append, lexemes_spelling,
    bodyBefore_spelling (List.suffix_append body rest)] at hpage
  rw [Nat.zero_add] at hlater hstop
  dsimp only at hstop
  subst hstop hpage
  rw [located_bodyBefore] at hlater
  exact ⟨lead, body, rest, rfl, rfl, hbody, hlater, hclose⟩

/-- The tokens up to one of them stop where it does, or before. -/
theorem stop_le_or_mem {t u : Located} (h : tokens o page = earlier ++ u :: later)
    (ht : t ∈ tokens o page) : t.stop ≤ u.stop ∨ t ∈ later := by
  have hpairs : (tokens o page).Pairwise fun a b => a.stop ≤ b.start := located_pairwise [] _
  have hspan : u.start ≤ u.stop := by
    obtain ⟨l, -, -, hspells⟩ :=
      spells_of_mem_tokens (h ▸ List.mem_append_right earlier List.mem_cons_self)
    rw [← hspells.length_eq]
    exact Nat.le_add_right _ _
  rw [h] at hpairs ht
  rcases List.mem_append.mp ht with hearlier | ht
  · have hle := (List.pairwise_append.mp hpairs).2.2 t hearlier u List.mem_cons_self
    exact .inl (Nat.le_trans hle hspan)
  · rcases List.mem_cons.mp ht with rfl | ht
    · exact .inl (Nat.le_refl _)
    · exact .inr ht

theorem name?_of_mem_textBetween {start stop : Nat} {t : Located}
    (ht : t ∈ textBetween page start stop) : t.token.name? = none := by
  unfold textBetween at ht
  split at ht
  · obtain rfl := List.mem_singleton.mp ht
    rfl
  · cases ht

/-- **The body of a raw-text element is one text.** It ends at the first end tag of the element, or
with the page. Behind the tag comes the text of the body, unless there is none, and behind that the end
tag, or nothing where the page ends. No tag is read inside the body. -/
theorem raw_text_body {name : String} {attributes : Attributes} {start stop : Nat}
    (h : tokens o page = earlier ++ ⟨.openTag name attributes false, start, stop⟩ :: later)
    (hraw : o.isRawText name = true) :
    ∃ p rest, BodyEnds page name stop p ∧ later = textBetween page stop p ++ rest ∧
      (p = byteLength page → rest = []) ∧
      (p < byteLength page → ∃ q behind, rest = ⟨.closeTag name, p, q⟩ :: behind) ∧
      ∀ t ∈ tokens o page, t.token.name?.isSome → t.stop ≤ stop ∨ p ≤ t.start := by
  obtain ⟨lead, body, rest, rfl, rfl, hbody, hlater, hclose⟩ := tokens_raw_text h hraw
  have hends := bodyEnds_afterRawText hbody lead
  refine ⟨byteLength (lead ++ body), _, hends, hlater, ?ends, ?closes, ?outside⟩
  case ends =>
    intro hend
    have hrest : rest = [] := by
      refine Decidable.byContradiction fun hne => ?_
      have hpos := byteLength_pos hne
      rw [← List.append_assoc, byteLength_append _ rest] at hend
      omega
    rw [hrest, lexemes]
    rfl
  case closes =>
    intro hlt
    have hne : rest ≠ [] := by
      rintro rfl
      rw [List.append_nil] at hlt
      exact Nat.lt_irrefl _ hlt
    obtain ⟨k, ks, hlexemes, hk⟩ := hclose hne
    rw [hlexemes, located_cons, hk]
    exact ⟨_, _, rfl⟩
  case outside =>
    intro t ht htag
    refine (stop_le_or_mem h ht).imp_right fun hbehind => ?_
    rw [hlater] at hbehind
    rcases List.mem_append.mp hbehind with htext | hbehind
    · rw [name?_of_mem_textBetween htext] at htag
      cases htag
    · exact start_le_of_mem_located hbehind

end

/-- A body with a tag and with the end tag of another element in it. -/
theorem script_body :
    tokens {} "<script>\"<p>\"</scripts></SCRIPT >y".toList =
        [] ++ ⟨.openTag "script" .empty false, 0, 8⟩ :: [⟨.text "\"<p>\"</scripts>", 8, 23⟩,
          ⟨.closeTag "script", 23, 33⟩, ⟨.text "y", 33, 34⟩] ∧
      ({} : Options).isRawText "script" = true ∧
      ∃ p, BodyEnds "<script>\"<p>\"</scripts></SCRIPT >y".toList "script" 8 p := by
  have htokens : tokens {} "<script>\"<p>\"</scripts></SCRIPT >y".toList =
      [] ++ ⟨.openTag "script" .empty false, 0, 8⟩ :: [⟨.text "\"<p>\"</scripts>", 8, 23⟩,
        ⟨.closeTag "script", 23, 33⟩, ⟨.text "y", 33, 34⟩] := by decide +kernel
  have hraw : ({} : Options).isRawText "script" = true := by decide +kernel
  obtain ⟨p, -, hends, -⟩ := raw_text_body htokens hraw
  exact ⟨htokens, hraw, p, hends⟩

end Imageboard
