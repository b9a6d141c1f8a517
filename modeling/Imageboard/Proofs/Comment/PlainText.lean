import Imageboard.Comment.PlainText
import Imageboard.Proofs.Markup.Reference
import Imageboard.Proofs.Markup.Written
import Imageboard.Proofs.Text.Search

/-! What plain text keeps of a stretch of markup, wherever the stretch stands.

`Shows shown s`: however the markup before `s` ends, inside a tag or a comment that is still open or
outside all, removing the tags of `s` leaves `shown` or, where all of `s` is inside a comment, nothing.
Two stretches that show the same are the same in any plain text: `plainCharacters_congr`. -/
namespace Imageboard.Comment
open Markup Reference Text

/-- The plain text of markup, character by character. -/
def plainCharacters (s : List Char) : List Char := decode (withoutTags (withLineBreaks s))

theorem dropWhile_append_stop {p : Char → Bool} {c : Char} (hc : p c = false) (s t : List Char) :
    (s ++ c :: t).dropWhile p = s.dropWhile p ++ c :: t := by
  induction s with
  | nil => rw [List.nil_append, List.dropWhile_cons_of_neg (by simp [hc])]; rfl
  | cons d s ih =>
    cases hd : p d with
    | true => rw [List.cons_append, List.dropWhile_cons_of_pos hd, List.dropWhile_cons_of_pos hd, ih]
    | false =>
      rw [List.cons_append, List.dropWhile_cons_of_neg (by simp [hd]),
        List.dropWhile_cons_of_neg (by simp [hd]), List.cons_append]

/-! ### Line breaks -/

theorem afterBreakTag?_length {c : Char} {s rest : List Char}
    (h : afterBreakTag? (c :: s) = some rest) : rest.length ≤ s.length := by
  unfold afterBreakTag? at h
  split at h
  · rename_i b r s' heq
    obtain ⟨-, rfl⟩ := List.cons.inj heq
    have hdrop := (List.dropWhile_suffix isBlank (l := s')).length_le
    split at h
    · split at h
      · rename_i hend
        cases h
        rw [hend] at hdrop
        simp only [List.length_cons] at hdrop ⊢
        omega
      · rename_i hend
        cases h
        rw [hend] at hdrop
        simp only [List.length_cons] at hdrop ⊢
        omega
      · cases h
    · cases h
  · cases h

theorem afterBreakTag?_other {c : Char} (hc : c ≠ '<') (s : List Char) :
    afterBreakTag? (c :: s) = none := by
  unfold afterBreakTag?
  split
  · rename_i heq
    exact absurd (List.cons.inj heq).1 hc
  · rfl

theorem withLineBreaks_some {c : Char} {s rest : List Char} (h : afterBreakTag? (c :: s) = some rest) :
    withLineBreaks (c :: s) = '\n' :: withLineBreaks rest := by
  unfold withLineBreaks
  rw [replaceAll_some (congrArg (Option.map _) h) (afterBreakTag?_length h)]
  rfl

theorem withLineBreaks_none {c : Char} {s : List Char} (h : afterBreakTag? (c :: s) = none) :
    withLineBreaks (c :: s) = c :: withLineBreaks s := by
  unfold withLineBreaks
  rw [replaceAll_none (congrArg (Option.map _) h)]

/-- The characters that a line break tag may have behind its `<`. -/
def isInBreakTag (c : Char) : Bool :=
  c.toLower == 'b' || c.toLower == 'r' || isBlank c || c == '/' || c == '>'

/-- A line break tag ends in front of a character that it cannot have. -/
theorem afterBreakTag?_append_stop {d : Char} (hd : isInBreakTag d = false) (c : Char)
    (s t : List Char) : afterBreakTag? (c :: (s ++ d :: t)) = (afterBreakTag? (c :: s)).map (· ++ d :: t) := by
  simp only [isInBreakTag, Bool.or_eq_false_iff, beq_eq_false_iff_ne] at hd
  obtain ⟨⟨⟨⟨hb, hr⟩, hblank⟩, hslash⟩, hgt⟩ := hd
  by_cases hc : c = '<'
  · subst hc
    rcases s with _ | ⟨b, _ | ⟨r, s⟩⟩
    · cases t with
      | nil => rfl
      | cons e t => simp [afterBreakTag?, hb]
    · simp [afterBreakTag?, hr]
    · unfold afterBreakTag?
      simp only [List.cons_append]
      rw [dropWhile_append_stop hblank]
      split
      · generalize s.dropWhile isBlank = ending
        rcases ending with _ | ⟨e, _ | ⟨f, ending⟩⟩
        · simp [hslash, hgt]
        · by_cases he : e = '>'
          · subst he; rfl
          · simp [he, hgt]
        · by_cases he : e = '>'
          · subst he; rfl
          · simp only [List.cons_append]
            split <;> split <;> simp_all
      · rfl
  · rw [afterBreakTag?_other hc, afterBreakTag?_other hc]
    rfl

theorem withLineBreaks_append_stop {d : Char} (hd : isInBreakTag d = false) (s t : List Char) :
    withLineBreaks (s ++ d :: t) = withLineBreaks s ++ withLineBreaks (d :: t) := by
  refine replaceAll_append (fun c s => ?_) (fun c s new rest h => ?_) s
  · rw [afterBreakTag?_append_stop hd, Option.map_map, Option.map_map]
    rfl
  · obtain ⟨rest', hrest, heq⟩ := Option.map_eq_some_iff.mp h
    obtain ⟨-, rfl⟩ := Prod.mk.inj heq
    exact afterBreakTag?_length hrest

/-- Text without a tag keeps its line breaks as they are. -/
theorem withLineBreaks_text {s : List Char} (hs : '<' ∉ s) (t : List Char) :
    withLineBreaks (s ++ t) = s ++ withLineBreaks t := by
  refine replaceAll_copied fun c u v h => ?_
  have hc : c ≠ '<' := by
    rintro rfl
    exact hs (h ▸ List.mem_append_right _ List.mem_cons_self)
  rw [afterBreakTag?_other hc]
  rfl

/-- A tag is no line break, whatever follows it, if it is none by itself. -/
theorem afterBreakTag?_tag {tag : List Char} (htag : '>' ∉ tag)
    (h : afterBreakTag? ('<' :: (tag ++ ['>'])) = none) (t : List Char) :
    afterBreakTag? ('<' :: (tag ++ '>' :: t)) = none := by
  rcases tag with _ | ⟨b, _ | ⟨r, tag⟩⟩
  · cases t <;> rfl
  · simp [afterBreakTag?]
  · have hblank : isBlank '>' = false := rfl
    unfold afterBreakTag? at h ⊢
    simp only [List.cons_append] at h ⊢
    rw [dropWhile_append_stop hblank] at h ⊢
    split at h
    · rename_i hbr
      rw [if_pos hbr]
      have hending : '>' ∉ tag.dropWhile isBlank := fun hmem =>
        htag (List.mem_cons_of_mem _ (List.mem_cons_of_mem _ ((List.dropWhile_sublist _).mem hmem)))
      generalize tag.dropWhile isBlank = ending at h hending ⊢
      rcases ending with _ | ⟨d, _ | ⟨e, ending⟩⟩
      · cases h
      · by_cases hd : d = '/'
        · subst hd; cases h
        · simp only [List.cons_append, List.nil_append]
          split <;> simp_all
      · simp only [List.cons_append]
        split <;> simp_all
    · rename_i hbr
      rw [if_neg hbr]

theorem withLineBreaks_tag {tag : List Char} (htag : '<' ∉ tag ∧ '>' ∉ tag)
    (h : afterBreakTag? ('<' :: (tag ++ ['>'])) = none) (t : List Char) :
    withLineBreaks ('<' :: (tag ++ '>' :: t)) = '<' :: (tag ++ '>' :: withLineBreaks t) := by
  have hnone : afterBreakTag? ('<' :: (tag ++ '>' :: t)) = none := afterBreakTag?_tag htag.2 h t
  have htext : '<' ∉ tag ++ ['>'] := by simp [htag.1]
  have hbehind := withLineBreaks_text htext t
  simp only [List.append_assoc, List.singleton_append] at hbehind
  rw [withLineBreaks_none hnone, hbehind]

/-! ### Tags and comments -/

theorem afterTag?_other {c : Char} (hc : c ≠ '<') (s : List Char) : afterTag? (c :: s) = none := by
  unfold afterTag?
  split
  · rename_i heq
    exact absurd (List.cons.inj heq).1 hc
  · rfl

/-- What follows the comment that begins with `<` and these characters. -/
def afterComment? (s : List Char) : Option (List Char) :=
  ((strip? ['!', '-', '-'] s).bind (splitFirst? ['-', '-', '>'])).map (·.2)

theorem afterTag?_lt (s : List Char) :
    afterTag? ('<' :: s) = (afterComment? s).or ((splitFirst? ['>'] s).map (·.2)) := by
  unfold afterComment?
  rw [afterTag?]
  cases (strip? ['!', '-', '-'] s).bind (splitFirst? ['-', '-', '>']) with
  | some parts => rfl
  | none => cases splitFirst? ['>'] s <;> rfl

theorem afterTag?_length {c : Char} {s rest : List Char} (h : afterTag? (c :: s) = some rest) :
    rest.length ≤ s.length := by
  by_cases hc : c = '<'
  · subst hc
    rw [afterTag?_lt] at h
    rcases Option.or_eq_some_iff.mp h with h | ⟨-, h⟩
    · obtain ⟨⟨comment, rest'⟩, hparts, rfl⟩ := Option.map_eq_some_iff.mp h
      obtain ⟨body, hbody, hsplit⟩ := Option.bind_eq_some_iff.mp hparts
      rw [strip?_eq hbody, splitFirst?_eq hsplit]
      simp only [List.length_append]
      omega
    · obtain ⟨⟨tag, rest'⟩, hsplit, rfl⟩ := Option.map_eq_some_iff.mp h
      rw [splitFirst?_eq hsplit]
      simp only [List.length_append]
      omega
  · rw [afterTag?_other hc] at h
    cases h

theorem withoutTags_some {c : Char} {s rest : List Char} (h : afterTag? (c :: s) = some rest) :
    withoutTags (c :: s) = withoutTags rest := by
  unfold withoutTags
  rw [replaceAll_some (congrArg (Option.map _) h) (afterTag?_length h)]
  rfl

theorem withoutTags_none {c : Char} {s : List Char} (h : afterTag? (c :: s) = none) :
    withoutTags (c :: s) = c :: withoutTags s := by
  unfold withoutTags
  rw [replaceAll_none (congrArg (Option.map _) h)]

theorem withoutTags_text {s : List Char} (hs : '<' ∉ s) (t : List Char) :
    withoutTags (s ++ t) = s ++ withoutTags t := by
  refine replaceAll_copied fun c u v h => ?_
  have hc : c ≠ '<' := by
    rintro rfl
    exact hs (h ▸ List.mem_append_right _ List.mem_cons_self)
  rw [afterTag?_other hc]
  rfl

theorem splitFirst?_gt {s : List Char} (hs : '>' ∉ s) (t : List Char) :
    splitFirst? ['>'] (s ++ '>' :: t) = some (s, t) := by
  induction s with
  | nil => rfl
  | cons c s ih =>
    have hc : ('>' == c) = false := beq_false_of_ne fun he => hs (he ▸ List.mem_cons_self)
    rw [List.cons_append, splitFirst?, strip?, hc]
    dsimp only
    rw [ih fun hmem => hs (List.mem_cons_of_mem c hmem)]
    rfl

theorem withoutTags_tag {tag : List Char} (htag : '>' ∉ tag)
    (hcomment : strip? ['!', '-', '-'] tag = none) (t : List Char) :
    withoutTags ('<' :: (tag ++ '>' :: t)) = withoutTags t := by
  refine withoutTags_some ?_
  have hnone : afterComment? (tag ++ '>' :: t) = none := by
    unfold afterComment?
    rw [strip?_append_stop (by decide), hcomment]
    rfl
  rw [afterTag?_lt, hnone, splitFirst?_gt htag]
  rfl

/-! ### Stretches that end no comment -/

/-- The stretch ends no comment that is open where it begins. -/
def EndsNoComment (s : List Char) : Prop :=
  ∀ t, splitFirst? ['-', '-', '>'] (s ++ t) =
    (splitFirst? ['-', '-', '>'] t).map fun (before, after) => (s ++ before, after)

namespace EndsNoComment

theorem nil : EndsNoComment [] := fun t => by
  rw [List.nil_append]
  cases splitFirst? ['-', '-', '>'] t <;> rfl

theorem cons {c : Char} {s : List Char} (hs : EndsNoComment s)
    (hc : ∀ t, strip? ['-', '-', '>'] (c :: (s ++ t)) = none) : EndsNoComment (c :: s) := fun t => by
  rw [List.cons_append, splitFirst?, hc, hs]
  dsimp only
  rw [Option.map_map]
  rfl

theorem append {s s' : List Char} (h : EndsNoComment s) (h' : EndsNoComment s') :
    EndsNoComment (s ++ s') := fun t => by
  rw [List.append_assoc, h, h', Option.map_map]
  simp only [Function.comp_def, List.append_assoc]

theorem strip?_other {c : Char} (hc : c ≠ '-') (s : List Char) :
    strip? ['-', '-', '>'] (c :: s) = none := by
  rw [strip?, beq_false_of_ne hc.symm]
  rfl

theorem text {s : List Char} (hs : '-' ∉ s) : EndsNoComment s := by
  induction s with
  | nil => exact nil
  | cons c s ih =>
    have hc : c ≠ '-' := fun he => hs (he ▸ List.mem_cons_self)
    exact (ih fun hmem => hs (List.mem_cons_of_mem c hmem)).cons fun t => strip?_other hc _

/-- The inside of a tag and the `>` behind it, unless two dashes stand in front of that. -/
theorem tag {s : List Char} (hs : '>' ∉ s) (hend : ¬ ['-', '-'] <:+ s) :
    EndsNoComment (s ++ ['>']) := by
  induction s with
  | nil => exact nil.cons fun t => strip?_other (by decide) _
  | cons c s ih =>
    have hs' : '>' ∉ s := fun hmem => hs (List.mem_cons_of_mem c hmem)
    have hend' : ¬ ['-', '-'] <:+ s := fun h => hend (h.trans (List.suffix_cons c s))
    refine (ih hs' hend').cons fun t => ?_
    by_cases hc : c = '-'
    · subst hc
      rcases s with _ | ⟨d, _ | ⟨e, s⟩⟩
      · rfl
      · have hd : d ≠ '-' := by
          rintro rfl
          exact hend (List.suffix_refl _)
        simp [strip?, hd.symm]
      · have he : e ≠ '>' := fun he => hs' (by simp [he])
        simp [strip?, he.symm]
    · exact strip?_other hc _

end EndsNoComment

/-! ### Stretches of markup -/

/-- A stretch of markup that begins with a tag and shows a text: what removing its tags leaves. -/
structure Shows (shown s : List Char) : Prop where
  tag : ∃ tag body, s = '<' :: (tag ++ '>' :: body) ∧ '>' ∉ tag ∧
    strip? ['!', '-', '-'] tag = none ∧ ∀ t, withoutTags (body ++ t) = shown ++ withoutTags t
  endsNoComment : EndsNoComment s
  lineBreaks : ∀ t, withLineBreaks (s ++ t) = s ++ withLineBreaks t

/-- A stretch of markup of which nothing is left, not even a line break. -/
structure Vanishes (s : List Char) : Prop where
  removed : ∀ t, withoutTags (s ++ t) = withoutTags t
  endsNoComment : EndsNoComment s
  lineBreaks : ∀ t, withLineBreaks (s ++ t) = s ++ withLineBreaks t

/-- What may stand between `<` and `>` in a tag that ends no comment. -/
structure InTag (tag : List Char) : Prop where
  no_lt : '<' ∉ tag
  no_gt : '>' ∉ tag
  no_dashes : ¬ ['-', '-'] <:+ tag

/-- The inside of a tag that is neither a comment nor a line break. -/
structure Removable (tag : List Char) : Prop extends InTag tag where
  no_comment : strip? ['!', '-', '-'] tag = none
  no_break : afterBreakTag? ('<' :: (tag ++ ['>'])) = none

theorem vanishes_nil : Vanishes [] := ⟨fun _ => rfl, .nil, fun _ => rfl⟩

theorem vanishes_tag {tag : List Char} (h : Removable tag) : Vanishes ('<' :: (tag ++ ['>'])) where
  removed t := by
    rw [List.cons_append, List.append_assoc, List.singleton_append,
      withoutTags_tag h.no_gt h.no_comment]
  endsNoComment := (EndsNoComment.tag h.no_gt h.no_dashes).cons fun t =>
    EndsNoComment.strip?_other (by decide) _
  lineBreaks t := by
    rw [List.cons_append, List.append_assoc, List.singleton_append,
      withLineBreaks_tag ⟨h.no_lt, h.no_gt⟩ h.no_break]
    simp

/-- An element: a tag, text, perhaps another tag, and the end tag. -/
theorem shows_element {tag text inner endTag : List Char} (htag : Removable tag)
    (htext : ∀ c ∈ text, c ≠ '<' ∧ c ≠ '-') (hinner : Vanishes inner) (hend : Vanishes endTag) :
    Shows text ('<' :: (tag ++ '>' :: (text ++ (inner ++ endTag)))) := by
  have hlt : '<' ∉ text := fun hmem => (htext _ hmem).1 rfl
  have hopen := vanishes_tag htag
  have hsplit : '<' :: (tag ++ '>' :: (text ++ (inner ++ endTag))) =
      '<' :: (tag ++ ['>']) ++ (text ++ (inner ++ endTag)) := by simp
  refine ⟨⟨tag, _, rfl, htag.no_gt, htag.no_comment, fun t => ?_⟩, ?_, fun t => ?_⟩
  · rw [List.append_assoc, List.append_assoc, withoutTags_text hlt, hinner.removed, hend.removed]
  · rw [hsplit]
    exact hopen.endsNoComment.append ((EndsNoComment.text fun hmem => (htext _ hmem).2 rfl).append
      (hinner.endsNoComment.append hend.endsNoComment))
  · rw [hsplit, List.append_assoc, hopen.lineBreaks, List.append_assoc, withLineBreaks_text hlt,
      List.append_assoc, hinner.lineBreaks, hend.lineBreaks]
    simp

/-- A comment that begins in front of a stretch ends there as well, or it ends behind the stretch, or
it is none. -/
theorem afterComment?_around (s t : List Char) :
    (∃ s', s'.length ≤ s.length ∧ ∀ shown a, Shows shown a →
      afterComment? (s ++ (a ++ t)) = some (s' ++ (a ++ t))) ∨
    (∃ rest, ∀ shown a, Shows shown a → afterComment? (s ++ (a ++ t)) = some rest) ∨
    ∀ shown a, Shows shown a → afterComment? (s ++ (a ++ t)) = none := by
  have hstrip (shown a : List Char) (ha : Shows shown a) : strip? ['!', '-', '-'] (s ++ (a ++ t)) =
      (strip? ['!', '-', '-'] s).map (· ++ (a ++ t)) := by
    obtain ⟨tag, body, rfl, -⟩ := ha.tag
    exact strip?_append_stop (by decide) _ _
  cases hopen : strip? ['!', '-', '-'] s with
  | none =>
    refine .inr (.inr fun shown a ha => ?_)
    rw [afterComment?, hstrip shown a ha, hopen]
    rfl
  | some inside =>
    have hcomment (shown a : List Char) (ha : Shows shown a) : afterComment? (s ++ (a ++ t)) =
        (splitFirst? ['-', '-', '>'] (inside ++ (a ++ t))).map (·.2) := by
      rw [afterComment?, hstrip shown a ha, hopen]
      rfl
    cases hclose : splitFirst? ['-', '-', '>'] inside with
    | some parts =>
      obtain ⟨comment, s'⟩ := parts
      refine .inl ⟨s', ?_, fun shown a ha => ?_⟩
      · rw [strip?_eq hopen, splitFirst?_eq hclose]
        simp only [List.length_append]
        omega
      · rw [hcomment shown a ha]
        obtain ⟨tag, body, rfl, -⟩ := ha.tag
        rw [List.cons_append, splitFirst?_append_stop (by decide) (by decide), hclose]
        rfl
    | none =>
      have hbehind (shown a : List Char) (ha : Shows shown a) : afterComment? (s ++ (a ++ t)) =
          (splitFirst? ['-', '-', '>'] t).map (·.2) := by
        have hpass := ha.endsNoComment t
        rw [hcomment shown a ha]
        obtain ⟨tag, body, rfl, -⟩ := ha.tag
        rw [List.cons_append, splitFirst?_cons_stop (by decide) (by decide)] at hpass
        rw [List.cons_append, splitFirst?_append_stop (by decide) (by decide), hclose]
        simpa only [Option.map_map, Function.comp_def] using congrArg (Option.map (·.2)) hpass
      cases hend : splitFirst? ['-', '-', '>'] t with
      | some parts =>
        refine .inr (.inl ⟨parts.2, fun shown a ha => ?_⟩)
        rw [hbehind shown a ha, hend]
        rfl
      | none =>
        refine .inr (.inr fun shown a ha => ?_)
        rw [hbehind shown a ha, hend]
        rfl

/-- Without a comment around the stretch the next `>` counts: in front of the stretch, or in its
tag. -/
theorem afterTag?_without_comment {s t : List Char}
    (hcomment : ∀ shown a, Shows shown a → afterComment? (s ++ (a ++ t)) = none) :
    (∃ s', s'.length ≤ s.length ∧ ∀ shown a, Shows shown a →
      afterTag? ('<' :: (s ++ (a ++ t))) = some (s' ++ (a ++ t))) ∨
    ∀ shown a, Shows shown a → ∃ body, afterTag? ('<' :: (s ++ (a ++ t))) = some (body ++ t) ∧
      ∀ t, withoutTags (body ++ t) = shown ++ withoutTags t := by
  by_cases hgt : '>' ∈ s
  · obtain ⟨lead, s', rfl, hlead⟩ := List.eq_append_cons_of_mem hgt
    refine .inl ⟨s', by simp only [List.length_append, List.length_cons]; omega,
      fun shown a ha => ?_⟩
    rw [afterTag?_lt, hcomment shown a ha, List.append_assoc, List.cons_append,
      splitFirst?_gt hlead]
    rfl
  · refine .inr fun shown a ha => ?_
    have hnone := hcomment shown a ha
    obtain ⟨tag, body, rfl, htag, -, hshown⟩ := ha.tag
    have hbefore : '>' ∉ s ++ '<' :: tag := by simp [hgt, htag]
    refine ⟨body, ?_, hshown⟩
    rw [afterTag?_lt, hnone, show s ++ ('<' :: (tag ++ '>' :: body) ++ t) =
      (s ++ '<' :: tag) ++ '>' :: (body ++ t) by simp, splitFirst?_gt hbefore]
    rfl

/-- Where a `<` begins something in front of a stretch, that ends in front of the stretch as well, or
it is a comment that ends behind the stretch, or it is a tag that ends with the tag of the stretch. -/
theorem afterTag?_inside (s t : List Char) :
    (∃ s', s'.length ≤ s.length ∧ ∀ shown a, Shows shown a →
      afterTag? ('<' :: (s ++ (a ++ t))) = some (s' ++ (a ++ t))) ∨
    (∃ rest, ∀ shown a, Shows shown a → afterTag? ('<' :: (s ++ (a ++ t))) = some rest) ∨
    ∀ shown a, Shows shown a → ∃ body, afterTag? ('<' :: (s ++ (a ++ t))) = some (body ++ t) ∧
      ∀ t, withoutTags (body ++ t) = shown ++ withoutTags t := by
  rcases afterComment?_around s t with ⟨s', hle, hfront⟩ | ⟨rest, hbehind⟩ | hnone
  · refine .inl ⟨s', hle, fun shown a ha => ?_⟩
    rw [afterTag?_lt, hfront shown a ha]
    rfl
  · refine .inr (.inl ⟨rest, fun shown a ha => ?_⟩)
    rw [afterTag?_lt, hbehind shown a ha]
    rfl
  · exact (afterTag?_without_comment hnone).imp id .inr

/-- Two texts that are equal or differ in one place, where one has `u` and the other has `v`. -/
def DifferIn (u v x y : List Char) : Prop :=
  x = y ∨ ∃ w z, x = w ++ (u ++ z) ∧ y = w ++ (v ++ z)

theorem DifferIn.cons {u v x y : List Char} (h : DifferIn u v x y) (c : Char) :
    DifferIn u v (c :: x) (c :: y) := by
  obtain rfl | ⟨w, z, rfl, rfl⟩ := h
  · exact .inl rfl
  · exact .inr ⟨c :: w, z, rfl, rfl⟩

theorem withoutTags_differIn {u v a b : List Char} (ha : Shows u a) (hb : Shows v b)
    (s t : List Char) :
    DifferIn u v (withoutTags (s ++ (a ++ t))) (withoutTags (s ++ (b ++ t))) := by
  induction hn : s.length using Nat.strongRecOn generalizing s with
  | ind n ih =>
    subst hn
    cases s with
    | nil =>
      have hshown {u a : List Char} (ha : Shows u a) :
          withoutTags (a ++ t) = u ++ withoutTags t := by
        obtain ⟨tag, body, rfl, htag, hcomment, hshown⟩ := ha.tag
        rw [← hshown t, List.cons_append, List.append_assoc, List.cons_append,
          withoutTags_tag htag hcomment]
      exact .inr ⟨[], withoutTags t, hshown ha, hshown hb⟩
    | cons c s =>
      rw [List.cons_append, List.cons_append]
      by_cases hc : c = '<'
      · subst hc
        obtain ⟨s', hlength, hinside⟩ | ⟨rest, hinside⟩ | hinside := afterTag?_inside s t
        · rw [withoutTags_some (hinside u a ha), withoutTags_some (hinside v b hb)]
          exact ih s'.length (Nat.lt_succ_of_le hlength) s' rfl
        · rw [withoutTags_some (hinside u a ha), withoutTags_some (hinside v b hb)]
          exact .inl rfl
        · obtain ⟨body, hafter, hshown⟩ := hinside u a ha
          obtain ⟨body', hafter', hshown'⟩ := hinside v b hb
          rw [withoutTags_some hafter, withoutTags_some hafter', hshown, hshown']
          exact .inr ⟨[], withoutTags t, rfl, rfl⟩
      · rw [withoutTags_none (afterTag?_other hc _), withoutTags_none (afterTag?_other hc _)]
        exact (ih s.length (Nat.lt_succ_self _) s rfl).cons c

theorem withLineBreaks_around {shown a : List Char} (ha : Shows shown a) (s t : List Char) :
    withLineBreaks (s ++ (a ++ t)) = withLineBreaks s ++ (a ++ withLineBreaks t) := by
  have hbreaks := ha.lineBreaks t
  obtain ⟨tag, body, rfl, -⟩ := ha.tag
  rw [List.cons_append, withLineBreaks_append_stop rfl, ← List.cons_append, hbreaks]

/-- **Stretches that show the same are the same in plain text**, whatever stands around them. -/
theorem plainCharacters_congr {u v a b : List Char} (ha : Shows u a) (hb : Shows v b)
    (huv : ∀ w z, decode (w ++ (u ++ z)) = decode (w ++ (v ++ z))) (s t : List Char) :
    plainCharacters (s ++ (a ++ t)) = plainCharacters (s ++ (b ++ t)) := by
  unfold plainCharacters
  rw [withLineBreaks_around ha, withLineBreaks_around hb]
  obtain heq | ⟨w, z, hu, hv⟩ := withoutTags_differIn ha hb (withLineBreaks s) (withLineBreaks t)
  · rw [heq]
  · rw [hu, hv, huv]

end Imageboard.Comment
