import Imageboard.Proofs.Comment.PlainText

/-! The plain text of a fragment, piece by piece.

A fragment is written as text, line break tags, other tags and comments. `plainText_pieces` says what
its plain text is: the text, a newline for each line break tag, nothing for tags and comments, and only
then the references, which may begin in one piece and end in another. Both passes over the markup take
one piece after the other; between them a piece is what `Piece.broken` says. -/
namespace Imageboard.Comment
open Markup Reference Text

/-- The inside of a line break tag: `br` in any letter case, blanks, and perhaps a slash. -/
inductive IsLineBreak : List Char → Prop
  | intro {name blanks slash : List Char} (hname : lowercase name = ['b', 'r'])
      (hblanks : ∀ c ∈ blanks, isBlank c = true) (hslash : slash = [] ∨ slash = ['/']) :
      IsLineBreak (name ++ (blanks ++ slash))

/-- A piece of a fragment. -/
inductive Piece where
  | text (s : List Char) (no_tag : '<' ∉ s ∧ '>' ∉ s)
  | lineBreak (inside : List Char) (is_break : IsLineBreak inside)
  | tag (inside : List Char) (closed : '<' ∉ inside ∧ '>' ∉ inside)
      (no_comment : ¬ ['!', '-', '-'] <+: inside) (no_break : ¬ IsLineBreak inside)
  | comment (body : List Char) (closed : ¬ ['-', '-', '>'] <:+: body)

namespace Piece

def written : Piece → List Char
  | text s _ => s
  | lineBreak inside _ => '<' :: (inside ++ ['>'])
  | tag inside _ _ _ => '<' :: (inside ++ ['>'])
  | comment body _ => ['<', '!', '-', '-'] ++ (body ++ ['-', '-', '>'])

/-- The piece between the passes. Line breaks are replaced in comments as well. -/
def broken : Piece → List Char
  | text s _ => s
  | lineBreak _ _ => ['\n']
  | tag inside _ _ _ => '<' :: (inside ++ ['>'])
  | comment body _ => ['<', '!', '-', '-'] ++ (withLineBreaks body ++ ['-', '-', '>'])

def shown : Piece → List Char
  | text s _ => s
  | lineBreak _ _ => ['\n']
  | tag _ _ _ _ => []
  | comment _ _ => []

end Piece

/-! ### Line break tags -/

theorem toLower_mem_of_lowercase {name : List Char} (h : lowercase name = ['b', 'r']) :
    ∃ b r, name = [b, r] ∧ b.toLower = 'b' ∧ r.toLower = 'r' := by
  obtain ⟨b, rest, rfl, hb, hrest⟩ := List.map_eq_cons_iff.mp h
  obtain ⟨r, rest, rfl, hr, hrest⟩ := List.map_eq_cons_iff.mp hrest
  obtain rfl := List.map_eq_nil_iff.mp hrest
  exact ⟨b, r, rfl, hb, hr⟩

theorem afterBreakTag?_eq_some {s rest : List Char} :
    afterBreakTag? s = some rest ↔ ∃ inside, IsLineBreak inside ∧ s = '<' :: (inside ++ '>' :: rest) := by
  constructor
  · intro h
    unfold afterBreakTag? at h
    split at h
    · rename_i b r s
      split at h
      · rename_i hbr
        obtain ⟨hb, hr⟩ := Bool.and_eq_true_iff.mp hbr
        have hname : lowercase [b, r] = ['b', 'r'] := by
          rw [← eq_of_beq hb, ← eq_of_beq hr]
          rfl
        have hblanks : ∀ c ∈ s.takeWhile isBlank, isBlank c = true := fun c => List.mem_takeWhile_imp
        have hs := List.takeWhile_append_dropWhile (p := isBlank) (l := s)
        split at h
        · rename_i hend
          obtain rfl := Option.some.inj h
          refine ⟨_, .intro hname hblanks (.inr rfl), ?_⟩
          rw [hend] at hs
          simp [hs]
        · rename_i hend
          obtain rfl := Option.some.inj h
          refine ⟨_, .intro hname hblanks (.inl rfl), ?_⟩
          rw [hend] at hs
          simp [hs]
        · cases h
      · cases h
    · cases h
  · rintro ⟨_, ⟨hname, hblanks, hslash⟩, rfl⟩
    obtain ⟨b, r, rfl, hb, hr⟩ := toLower_mem_of_lowercase hname
    have hblank : isBlank '>' = false := rfl
    have hblank' : isBlank '/' = false := rfl
    rcases hslash with rfl | rfl
    · simp [afterBreakTag?, hb, hr, dropWhile_stop hblanks hblank]
    · simp [afterBreakTag?, hb, hr, dropWhile_stop hblanks hblank']

theorem withLineBreaks_break {inside : List Char} (h : IsLineBreak inside) (t : List Char) :
    withLineBreaks ('<' :: (inside ++ '>' :: t)) = '\n' :: withLineBreaks t :=
  withLineBreaks_some (afterBreakTag?_eq_some.mpr ⟨inside, h, rfl⟩)

theorem not_gt_mem_of_isLineBreak {inside : List Char} (h : IsLineBreak inside) : '>' ∉ inside := by
  obtain ⟨hname, hblanks, hslash⟩ := h
  obtain ⟨b, r, rfl, hb, hr⟩ := toLower_mem_of_lowercase hname
  intro hmem
  rcases List.mem_append.mp hmem with hmem | hmem
  · obtain rfl | rfl : '>' = b ∨ '>' = r := by simpa using hmem
    · exact absurd hb (by decide)
    · exact absurd hr (by decide)
  · rcases List.mem_append.mp hmem with hmem | hmem
    · exact absurd (hblanks _ hmem) (by decide)
    · rcases hslash with rfl | rfl
      · cases hmem
      · exact absurd (List.mem_singleton.mp hmem) (by decide)

theorem afterBreakTag?_closed {inside : List Char} (hclosed : '>' ∉ inside)
    (h : ¬ IsLineBreak inside) : afterBreakTag? ('<' :: (inside ++ ['>'])) = none := by
  refine Option.eq_none_iff_forall_ne_some.mpr fun rest hrest => ?_
  obtain ⟨inside', hbreak, hinside⟩ := afterBreakTag?_eq_some.mp hrest
  -- Both are what stands in front of the first `>`.
  have hsplit := splitFirst?_gt hclosed []
  rw [(List.cons.inj hinside).2, splitFirst?_gt (not_gt_mem_of_isLineBreak hbreak)] at hsplit
  obtain rfl : inside' = inside := (Prod.mk.inj (Option.some.inj hsplit)).1
  exact h hbreak

/-! ### Comments -/

theorem prefix_of_withLineBreaks {x s : List Char} (hx : '\n' ∉ x) (h : x <+: withLineBreaks s) :
    x <+: s := by
  induction x generalizing s with
  | nil => exact List.nil_prefix
  | cons c x ih =>
    cases s with
    | nil => rwa [withLineBreaks, replaceAll] at h
    | cons d s =>
      cases hafter : afterBreakTag? (d :: s) with
      | some rest =>
        rw [withLineBreaks_some hafter] at h
        obtain ⟨rfl, -⟩ := List.cons_prefix_cons.mp h
        exact absurd List.mem_cons_self hx
      | none =>
        rw [withLineBreaks_none hafter] at h
        obtain ⟨hcd, hrest⟩ := List.cons_prefix_cons.mp h
        have hx' : '\n' ∉ x := fun hmem => hx (List.mem_cons_of_mem c hmem)
        exact List.cons_prefix_cons.mpr ⟨hcd, ih hx' hrest⟩

/-- What has no newline is nowhere made by replacing line breaks. -/
theorem infix_of_withLineBreaks {x s : List Char} (hx : '\n' ∉ x) (h : x <:+: withLineBreaks s) :
    x <:+: s := by
  induction hn : s.length using Nat.strongRecOn generalizing s with
  | ind n ih =>
    subst hn
    cases s with
    | nil => rwa [withLineBreaks, replaceAll] at h
    | cons c s =>
      cases hafter : afterBreakTag? (c :: s) with
      | some rest =>
        obtain ⟨inside, -, hs⟩ := afterBreakTag?_eq_some.mp hafter
        have hrest : rest <:+: c :: s := ⟨'<' :: (inside ++ ['>']), [], by simp [hs]⟩
        have hlength := Nat.lt_succ_of_le (afterBreakTag?_length hafter)
        rw [withLineBreaks_some hafter] at h
        rcases List.infix_cons_iff.mp h with hprefix | hbehind
        · rw [← withLineBreaks_some hafter] at hprefix
          exact (prefix_of_withLineBreaks hx hprefix).isInfix
        · exact (ih rest.length hlength hbehind rfl).trans hrest
      | none =>
        rw [withLineBreaks_none hafter] at h
        rcases List.infix_cons_iff.mp h with hprefix | hbehind
        · rw [← withLineBreaks_none hafter] at hprefix
          exact (prefix_of_withLineBreaks hx hprefix).isInfix
        · exact (ih s.length (Nat.lt_succ_self _) hbehind rfl).trans (List.infix_cons List.infix_rfl)

/-- A comment ends where its end first stands. -/
theorem splitFirst?_comment {body : List Char} (h : ¬ ['-', '-', '>'] <:+: body) (t : List Char) :
    splitFirst? ['-', '-', '>'] (body ++ '-' :: '-' :: '>' :: t) = some (body, t) := by
  induction body with
  | nil => rfl
  | cons c body ih =>
    have hbody : ¬ ['-', '-', '>'] <:+: body := fun hinfix => h (List.infix_cons hinfix)
    have hstrip : strip? ['-', '-', '>'] (c :: (body ++ '-' :: '-' :: '>' :: t)) = none := by
      rcases body with _ | ⟨d, _ | ⟨e, body⟩⟩
      · simp [strip?]
      · simp [strip?]
      · refine Option.eq_none_iff_forall_ne_some.mpr fun rest hrest => h ?_
        have hs := strip?_eq hrest
        simp only [List.cons_append, List.nil_append, List.cons.injEq] at hs
        obtain ⟨rfl, rfl, rfl, -⟩ := hs
        exact ⟨[], body, rfl⟩
    rw [List.cons_append, splitFirst?, hstrip, ih hbody]
    rfl

/-! ### The passes, piece by piece -/

theorem withLineBreaks_piece (p : Piece) (t : List Char) :
    withLineBreaks (p.written ++ t) = p.broken ++ withLineBreaks t := by
  cases p with
  | text s no_tag => exact withLineBreaks_text no_tag.1 t
  | lineBreak inside is_break =>
    simp only [Piece.written, List.cons_append, List.append_assoc, List.nil_append]
    exact withLineBreaks_break is_break t
  | tag inside closed no_comment no_break =>
    simp only [Piece.written, Piece.broken, List.cons_append, List.append_assoc, List.nil_append]
    exact withLineBreaks_tag closed (afterBreakTag?_closed closed.2 no_break) t
  | comment body closed =>
    have hopen (s : List Char) :
        withLineBreaks ('<' :: '!' :: '-' :: '-' :: s) = '<' :: '!' :: '-' :: '-' :: withLineBreaks s := by
      rw [withLineBreaks_none (by simp [afterBreakTag?])]
      exact congrArg _ (withLineBreaks_text (s := ['!', '-', '-']) (by decide) s)
    have hend : withLineBreaks ('-' :: '-' :: '>' :: t) = '-' :: '-' :: '>' :: withLineBreaks t :=
      withLineBreaks_text (s := ['-', '-', '>']) (by decide) t
    simp only [Piece.written, Piece.broken, List.cons_append, List.append_assoc, List.nil_append]
    rw [hopen, withLineBreaks_append_stop rfl, hend]

theorem withoutTags_piece (p : Piece) (t : List Char) :
    withoutTags (p.broken ++ t) = p.shown ++ withoutTags t := by
  cases p with
  | text s no_tag => exact withoutTags_text no_tag.1 t
  | lineBreak inside is_break => exact withoutTags_text (s := ['\n']) (by decide) t
  | tag inside closed no_comment no_break =>
    have hstrip : strip? ['!', '-', '-'] inside = none :=
      Option.eq_none_iff_forall_ne_some.mpr fun rest hrest => no_comment ⟨rest, (strip?_eq hrest).symm⟩
    simp only [Piece.broken, Piece.shown, List.cons_append, List.append_assoc, List.nil_append]
    exact withoutTags_tag closed.2 hstrip t
  | comment body closed =>
    have hclosed : ¬ ['-', '-', '>'] <:+: withLineBreaks body :=
      fun h => closed (infix_of_withLineBreaks (by decide) h)
    simp only [Piece.broken, Piece.shown, List.cons_append, List.append_assoc, List.nil_append]
    refine withoutTags_some ?_
    have hstrip (s : List Char) : strip? ['!', '-', '-'] ('!' :: '-' :: '-' :: s) = some s :=
      strip?_iff.mpr rfl
    rw [afterTag?_lt, afterComment?, hstrip, Option.bind_some,
      splitFirst?_comment hclosed]
    rfl

theorem withLineBreaks_pieces (ps : List Piece) :
    withLineBreaks (ps.flatMap Piece.written) = ps.flatMap Piece.broken := by
  induction ps with
  | nil => rw [List.flatMap_nil, withLineBreaks, replaceAll]; rfl
  | cons p ps ih => rw [List.flatMap_cons, withLineBreaks_piece, ih, List.flatMap_cons]

theorem withoutTags_pieces (ps : List Piece) :
    withoutTags (ps.flatMap Piece.broken) = ps.flatMap Piece.shown := by
  induction ps with
  | nil => rw [List.flatMap_nil, withoutTags, replaceAll]; rfl
  | cons p ps ih => rw [List.flatMap_cons, withoutTags_piece, ih, List.flatMap_cons]

/-- **The plain text of a fragment** is its text with a newline for each line break tag, and with
the references replaced: those too that tags or comments had kept apart. -/
theorem plainText_pieces (ps : List Piece) :
    plainText (String.ofList (ps.flatMap Piece.written)) =
      String.ofList (decode (ps.flatMap Piece.shown)) := by
  unfold plainText
  rw [String.toList_ofList, withLineBreaks_pieces, withoutTags_pieces]

/-- A reference is read across a tag that is dropped; a line break in a comment is none. -/
example : plainText "a &l<b>t;<!-- <br> -->c<BR />d" = "a <c\nd" := by cbv

end Imageboard.Comment
