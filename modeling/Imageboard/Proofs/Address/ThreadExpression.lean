import Imageboard.Proofs.Address.ThreadLink
import Imageboard.Proofs.Text.Expression

/-! The expression for links to threads.

A link to a thread is told by an expression that may begin anywhere in it. What is found first is what
the parts of the link give: `threadPostNumbers?_eq_search`. -/
namespace Imageboard.Locator
open Text Text.Expression

/-- A number: decimal digits, as many as possible. -/
def numberExpression : Expression := .both (.one isDecimalDigit) (.many isDecimalDigit)

/-- The end of a page name, and the number of a post behind it, the group 2. -/
def pageEndExpression : Expression :=
  .both (.text ".html".toList)
    (.both (.optional (.both (.text ['#']) (.group 2 numberExpression))) .finish)

/-- The number of a thread, the group 1, somewhere in front of the end of a page name. -/
def threadExpression : Expression :=
  .both (.group 1 numberExpression) (.both (.many (· != '/')) pageEndExpression)

/-! ### Pages one character longer -/

theorem splitPage?_append_some {s name : List Char} {post : Option (List Char)}
    (h : splitPage? s = some (name, post)) (lead : List Char) :
    splitPage? (lead ++ s) = some (lead ++ name, post) := by
  obtain ⟨rfl, hpost⟩ := splitPage?_eq_some.mp h
  exact splitPage?_eq_some.mpr ⟨(linkText_append lead name post).symm, hpost⟩

theorem splitPage?_cons_some {s name : List Char} {post : Option (List Char)}
    (h : splitPage? s = some (name, post)) (c : Char) :
    splitPage? (c :: s) = some (c :: name, post) := splitPage?_append_some h [c]

/-- What is the first character of a page name is no part of what stands behind it. -/
theorem splitPage?_cons_none {c : Char} {s name : List Char} {post : Option (List Char)}
    (h : splitPage? s = none) (hc : splitPage? (c :: s) = some (name, post)) : name = [] := by
  obtain ⟨hs, hpost⟩ := splitPage?_eq_some.mp hc
  cases name with
  | nil => rfl
  | cons d name =>
    obtain ⟨rfl, hrest⟩ := List.cons.inj hs
    rw [splitPage?_eq_some.mpr ⟨hrest, hpost⟩] at h
    cases h

/-- Digits in front of a page are part of its name. -/
theorem splitPage?_digits {digits s name : List Char} {post : Option (List Char)}
    (hdigits : ∀ c ∈ digits, isDecimalDigit c = true)
    (h : splitPage? (digits ++ s) = some (name, post)) :
    ∃ more, name = digits ++ more ∧ splitPage? s = some (more, post) := by
  induction digits generalizing name with
  | nil => exact ⟨name, rfl, h⟩
  | cons d digits ih =>
    obtain ⟨hd, hdigits⟩ := List.forall_mem_cons.mp hdigits
    cases hs : splitPage? (digits ++ s) with
    | some page =>
      obtain ⟨name', post'⟩ := page
      rw [List.cons_append, splitPage?_cons_some hs] at h
      obtain ⟨rfl, rfl⟩ := Prod.mk.inj (Option.some.inj h)
      obtain ⟨more, rfl, hmore⟩ := ih hdigits hs
      exact ⟨more, rfl, hmore⟩
    | none =>
      obtain rfl := splitPage?_cons_none hs h
      obtain ⟨hlink, -⟩ := splitPage?_eq_some.mp h
      obtain ⟨rfl, -⟩ := List.cons.inj hlink
      cases hd

/-! ### Reading the expression -/

/-- What is kept when the post has been read. -/
def noted (kept : Groups) (post : Option (List Char)) : Groups :=
  post.elim kept fun number => (2, number) :: kept

section
variable {α : Type} {next : Groups → List Char → Option α} {kept : Groups}

instance (s : List Char) : Decidable (IsNumber s) :=
  decidable_of_iff (s ≠ [] ∧ s.all isDecimalDigit = true) (and_congr_right fun _ => List.all_eq_true)

/-- The number of a post is read up to the end of the text. -/
theorem read_post (s : List Char) :
    (Expression.group 2 numberExpression).read (Expression.finish.read next) kept s =
      if IsNumber s then next ((2, s) :: kept) [] else none := by
  simp only [numberExpression, Expression.read]
  cases s with
  | nil => rfl
  | cons c s =>
    dsimp only
    rw [readMany_finish (fun s hs => if_neg (by simpa using hs))]
    cases hc : isDecimalDigit c with
    | false => simp [IsNumber, hc]
    | true => simp [IsNumber, hc]

theorem splitPage?_html {tail : List Char} {post : Option (List Char)} :
    splitPage? (".html".toList ++ tail) = some ([], post) ↔
      tail = post.elim [] ('#' :: ·) ∧ ∀ number ∈ post, IsNumber number := by
  rw [splitPage?_eq_some, linkText, List.nil_append, List.append_right_inj]

/-- The expression for the end of a page name reads what stands behind the name. -/
theorem read_pageEnd (s : List Char) :
    pageEndExpression.read next kept s =
      (splitPage? s).bind fun page => if page.1 = [] then next (noted kept page.2) [] else none := by
  have hnone {t : List Char} (h : ∀ post, splitPage? t ≠ some ([], post)) : ((splitPage? t).bind
      fun page => if page.1 = [] then next (noted kept page.2) [] else none) = none := by
    refine Option.bind_eq_none_iff.mpr fun page hpage => if_neg ?_
    obtain ⟨name, post⟩ := page
    rintro rfl
    exact h post hpage
  show (strip? ".html".toList s).bind _ = _
  cases hs : strip? ".html".toList s with
  | none =>
    refine (hnone fun post hpage => ?_).symm
    rw [(splitPage?_eq_some.mp hpage).1, linkText, List.nil_append, strip?_iff.mpr rfl] at hs
    cases hs
  | some tail =>
    obtain rfl := strip?_eq hs
    -- Behind `.html` stands nothing, the mark of a post, or something else.
    cases tail with
    | nil =>
      have hpage : splitPage? (".html".toList ++ []) = some ([], none) :=
        splitPage?_html.mpr ⟨rfl, fun number hnone => absurd hnone (Option.not_mem_none number)⟩
      rw [hpage]
      rfl
    | cons c tail =>
      by_cases hc : c = '#'
      · subst hc
        have hread : (Expression.both (.optional (.both (.text ['#']) (.group 2 numberExpression)))
            .finish).read next kept ('#' :: tail) =
            if IsNumber tail then next ((2, tail) :: kept) [] else none := by
          rw [← read_post]
          exact Option.or_none
        refine hread.trans ?_
        split
        · rename_i hnumber
          have hpage : splitPage? (".html".toList ++ '#' :: tail) = some ([], some tail) := by
            refine splitPage?_html.mpr ⟨rfl, ?_⟩
            rintro number ⟨rfl⟩
            exact hnumber
          rw [hpage]
          rfl
        · rename_i hnumber
          refine (hnone fun post hpage => ?_).symm
          obtain ⟨htail, hpost⟩ := splitPage?_html.mp hpage
          cases post with
          | none => cases htail
          | some number =>
            obtain ⟨-, rfl⟩ := List.cons.inj htail
            exact hnumber (hpost tail rfl)
      · have hread : (Expression.both (.optional (.both (.text ['#']) (.group 2 numberExpression)))
            .finish).read next kept (c :: tail) = none := by
          have hstrip : strip? ['#'] (c :: tail) = none := if_neg (by simpa using Ne.symm hc)
          show ((strip? ['#'] (c :: tail)).bind _).or none = none
          rw [hstrip]
          rfl
        refine hread.trans (hnone fun post hpage => ?_).symm
        obtain ⟨htail, -⟩ := splitPage?_html.mp hpage
        cases post with
        | none => cases htail
        | some number => exact hc (List.cons.inj htail).1

/-- What may stand in front of the end is the rest of the page name. -/
theorem read_page (s : List Char) :
    (Expression.both (.many (· != '/')) pageEndExpression).read next kept s =
      (splitPage? s).bind fun page =>
        if '/' ∈ page.1 then none else next (noted kept page.2) [] := by
  show readMany (· != '/') (pageEndExpression.read next kept) s = _
  induction s with
  | nil => exact read_pageEnd []
  | cons c s ih =>
    rw [readMany, ih, read_pageEnd]
    -- The end of the page name stands behind the first character, or it is all that there is.
    cases hs : splitPage? s with
    | some page =>
      obtain ⟨name, post⟩ := page
      rw [splitPage?_cons_some hs]
      by_cases hc : c = '/'
      · simp [hc]
      · simp [hc, Ne.symm hc]
    | none =>
      rw [Option.bind_none, Option.none_or, ite_self]
      refine Option.bind_congr fun page hpage => ?_
      rw [splitPage?_cons_none hs hpage, if_pos rfl, if_neg List.not_mem_nil]

end

/-- From a place in the text, the expression reads the digits there, and the page name around them up
to its end. -/
theorem read_thread (c : Char) (s : List Char) :
    threadExpression.read (fun kept _ => some kept) [] (c :: s) =
      if isDecimalDigit c then
        (splitPage? (s.dropWhile isDecimalDigit)).bind fun page =>
          if '/' ∈ page.1 then none
          else some (noted [(1, c :: s.takeWhile isDecimalDigit)] page.2)
      else none := by
  show (if isDecimalDigit c then readMany isDecimalDigit (fun rest => Expression.read
    (.both (.many (· != '/')) pageEndExpression) (fun kept _ => some kept)
    [(1, (c :: s).take ((c :: s).length - rest.length))] rest) s else none) = _
  refine if_congr Iff.rfl ?_ rfl
  rw [readMany_stretch]
  · have hdigits : (c :: s).take ((c :: s).length - (s.dropWhile isDecimalDigit).length) =
        c :: s.takeWhile isDecimalDigit := by
      have hs : c :: s.takeWhile isDecimalDigit ++ s.dropWhile isDecimalDigit = c :: s := by
        rw [List.cons_append, List.takeWhile_append_dropWhile]
      rw [← hs, List.length_append, Nat.add_sub_cancel, List.take_left]
    rw [read_page, hdigits]
  · -- Digits that are left to the page name make it longer, but no page of what was none.
    intro digits rest hdigits hnone
    rw [read_page] at hnone ⊢
    refine Option.bind_eq_none_iff.mpr fun page hpage => ?_
    obtain ⟨name, post⟩ := page
    obtain ⟨more, rfl, hmore⟩ := splitPage?_digits hdigits hpage
    rw [hmore, Option.bind_some] at hnone
    split at hnone
    · rename_i hslash
      exact if_pos (List.mem_append_right digits hslash)
    · cases hnone

/-! ### Looking for a thread -/

theorem lastSegment_eq_self {s : List Char} (h : '/' ∉ s) : lastSegment s = s := by
  rw [lastSegment, List.takeWhile_eq_self_iff.mpr (ne_slash_of_mem_reverse h), List.reverse_reverse]

theorem not_mem_postTail {post : Option (List Char)} (hpost : ∀ number ∈ post, IsNumber number)
    {c : Char} (hc : isDecimalDigit c = false) (hhash : c ≠ '#') :
    c ∉ post.elim [] ('#' :: ·) := by
  cases post with
  | none => exact List.not_mem_nil
  | some number =>
    refine List.not_mem_cons_of_ne_of_not_mem hhash fun hmem => ?_
    rw [(hpost number rfl).2 c hmem] at hc
    cases hc

/-- The only slashes of a link with a page stand in the page name. -/
theorem slash_mem_linkText {name : List Char} {post : Option (List Char)}
    (hpost : ∀ number ∈ post, IsNumber number) : '/' ∈ linkText name post ↔ '/' ∈ name := by
  have hbehind : '/' ∉ ".html".toList ++ post.elim [] ('#' :: ·) :=
    List.not_mem_append (by decide) (not_mem_postTail hpost rfl (by decide))
  rw [linkText, List.append_assoc, List.mem_append]
  exact or_iff_left hbehind

/-- What is kept of a link to a thread. -/
def linkGroups (s : List Char) : Option Groups :=
  (splitPage? (lastSegment s)).bind fun page =>
    if firstDigits page.1 = [] then none else some (noted [(1, firstDigits page.1)] page.2)

theorem linkGroups_of_no_slash {s : List Char} (h : '/' ∉ s) :
    linkGroups s = (splitPage? s).bind fun page =>
      if firstDigits page.1 = [] then none else some (noted [(1, firstDigits page.1)] page.2) := by
  rw [linkGroups, lastSegment_eq_self h]

theorem firstDigits_cons {c : Char} (hc : isDecimalDigit c = false) (s : List Char) :
    firstDigits (c :: s) = firstDigits s := by
  rw [firstDigits, List.dropWhile_cons_of_pos (by rw [hc]; rfl), firstDigits]

/-- Where the expression is read from the first character, the thread is the number that begins there. -/
theorem linkGroups_of_read {c : Char} {s : List Char} {kept : Groups}
    (h : threadExpression.read (fun kept _ => some kept) [] (c :: s) = some kept) :
    linkGroups (c :: s) = some kept := by
  rw [read_thread] at h
  obtain ⟨digits, rest, rfl, hdigits, hrest, htake, hdrop⟩ := exists_stretch isDecimalDigit s
  rw [htake, hdrop] at h
  split at h
  · rename_i hc
    obtain ⟨⟨name, post⟩, hpage, h⟩ := Option.bind_eq_some_iff.mp h
    dsimp only at h
    split at h
    · cases h
    · rename_i hslash
      obtain rfl := Option.some.inj h
      have hnumber : IsNumber (c :: digits) :=
        ⟨List.cons_ne_nil c digits, List.forall_mem_cons.mpr ⟨hc, hdigits⟩⟩
      obtain ⟨rfl, hpost⟩ := splitPage?_eq_some.mp hpage
      have hname : ∀ d ∈ name.head?, isDecimalDigit d = false := by
        intro d hd
        obtain ⟨more, rfl⟩ := List.head?_eq_some_iff.mp hd
        exact hrest d rfl
      have hwhole : '/' ∉ c :: (digits ++ linkText name post) := by
        rw [← List.cons_append, ← linkText_append, slash_mem_linkText hpost]
        intro hmem
        rcases List.mem_append.mp hmem with hmem | hmem
        · cases hnumber.2 '/' hmem
        · exact hslash hmem
      rw [linkGroups_of_no_slash hwhole, ← List.cons_append, splitPage?_append_some hpage,
        Option.bind_some, firstDigits_append hnumber hname, if_neg hnumber.1]
  · cases h

/-- Where it is not, the first character tells nothing about the thread. -/
theorem linkGroups_of_not_read {c : Char} {s : List Char}
    (h : threadExpression.read (fun kept _ => some kept) [] (c :: s) = none) :
    linkGroups (c :: s) = linkGroups s := by
  by_cases hs : '/' ∈ s
  · have hsegment : lastSegment (c :: s) = lastSegment s := lastSegment_append hs [c]
    rw [linkGroups, hsegment, linkGroups]
  by_cases hc : c = '/'
  · subst hc
    have hsegment : lastSegment ('/' :: s) = s := lastSegment_slash hs []
    rw [linkGroups, hsegment, linkGroups_of_no_slash hs]
  have hslash : '/' ∉ c :: s := List.not_mem_cons_of_ne_of_not_mem (Ne.symm hc) hs
  rw [linkGroups_of_no_slash hslash, linkGroups_of_no_slash hs]
  cases hpage : splitPage? s with
  | none =>
    refine Option.bind_eq_none_iff.mpr fun page hlonger => ?_
    rw [splitPage?_cons_none hpage hlonger]
    rfl
  | some page =>
    obtain ⟨name, post⟩ := page
    rw [splitPage?_cons_some hpage]
    cases hdigit : isDecimalDigit c with
    | false => rw [Option.bind_some, Option.bind_some, firstDigits_cons hdigit]
    | true =>
      -- A digit in front of a page without a slash is read as the beginning of a thread.
      obtain ⟨digits, rest, rfl, hdigits, -, htake, hdrop⟩ := exists_stretch isDecimalDigit s
      obtain ⟨more, rfl, hmore⟩ := splitPage?_digits hdigits hpage
      obtain ⟨rfl, hpost⟩ := splitPage?_eq_some.mp hmore
      have hname : '/' ∉ more := fun hmem =>
        hs (List.mem_append_right digits ((slash_mem_linkText hpost).mpr hmem))
      rw [read_thread, hdrop, if_pos hdigit, hmore, Option.bind_some, if_neg hname] at h
      cases h

/-- What is found of the expression is what the parts of the link give. -/
theorem search_thread (s : List Char) : threadExpression.search s = linkGroups s := by
  induction s with
  | nil => rfl
  | cons c s ih =>
    rw [search]
    cases hread : threadExpression.read (fun kept _ => some kept) [] (c :: s) with
    | some kept => exact (linkGroups_of_read hread).symm
    | none => rw [Option.none_or, ih, linkGroups_of_not_read hread]

/-- The thread and the post of a link are the groups of the expression, where it is found first. -/
theorem threadPostNumbers?_eq_search (link : String) :
    threadPostNumbers? link =
      (threadExpression.search (trim link.toList)).bind fun kept =>
        (kept.lookup 1).map fun thread => (String.ofList thread, (kept.lookup 2).map String.ofList) := by
  rw [search_thread, linkGroups, Option.bind_assoc]
  unfold threadPostNumbers?
  refine Option.bind_congr fun page _ => ?_
  obtain ⟨name, post⟩ := page
  dsimp only
  by_cases hthread : firstDigits name = []
  · rw [hthread]
    rfl
  · rw [if_neg hthread, if_neg (by simpa using hthread)]
    cases post <;> rfl

end Imageboard.Locator
