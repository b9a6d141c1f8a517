import Imageboard.Proofs.Address.ThreadExpression

/-! The numbers in a link to a thread.

What stands behind the last slash of the link is a page name, `.html` and, where the link leads to a
post, `#` and its number. `threadPostNumbers?_spec`: the thread is the first number in the page name,
and a link is none to a thread where one of the parts is missing. -/
namespace Imageboard.Locator
open Text

/-! ### The parts of a link -/

/-- What stands behind the last slash of the text, or all of it where there is none. -/
def IsLastSegment (segment s : List Char) : Prop :=
  '/' ∉ segment ∧ (s = segment ∨ ∃ lead, s = lead ++ '/' :: segment)

theorem isLastSegment_iff {segment s : List Char} :
    IsLastSegment segment s ↔ lastSegment s = segment := by
  constructor
  · rintro ⟨hslash, rfl | ⟨lead, rfl⟩⟩
    · exact lastSegment_eq_self hslash
    · exact lastSegment_slash hslash lead
  · rintro rfl
    by_cases hs : '/' ∈ s
    · obtain ⟨lead, segment, rfl, hsegment⟩ := exists_segment hs
      rw [lastSegment_slash hsegment]
      exact ⟨hsegment, .inr ⟨lead, rfl⟩⟩
    · rw [lastSegment_eq_self hs]
      exact ⟨hs, .inl rfl⟩

/-- The segment goes on, behind its last `.html`, with nothing or with the number of a post. -/
structure IsPage (segment name tail : List Char) : Prop where
  parts : segment = name ++ ".html".toList ++ tail
  last : ∀ name' tail', segment = name' ++ ".html".toList ++ tail' → name'.length ≤ name.length
  tail_eq : tail = [] ∨ ∃ number, IsNumber number ∧ tail = '#' :: number

/-- The first longest run of digits. -/
def IsFirstNumber (number s : List Char) : Prop :=
  IsNumber number ∧ ∃ front behind, s = front ++ number ++ behind ∧
    (∀ c ∈ front, isDecimalDigit c = false) ∧ ∀ c ∈ behind.head?, isDecimalDigit c = false

theorem isFirstNumber_iff {number s : List Char} :
    IsFirstNumber number s ↔ firstDigits s = number ∧ number ≠ [] := by
  constructor
  · rintro ⟨hnumber, front, behind, rfl, hfront, hbehind⟩
    refine ⟨?_, hnumber.1⟩
    induction front with
    | nil => exact firstDigits_append hnumber hbehind
    | cons c front ih =>
      obtain ⟨hc, hfront⟩ := List.forall_mem_cons.mp hfront
      exact (firstDigits_cons hc _).trans (ih hfront)
  · rintro ⟨rfl, hne⟩
    obtain ⟨front, rest, rfl, hfront, -, -, hdrop⟩ := exists_stretch (fun c => !isDecimalDigit c) s
    obtain ⟨number, behind, rfl, hnumber, hbehind, htake, -⟩ := exists_stretch isDecimalDigit rest
    rw [firstDigits, hdrop, htake] at hne ⊢
    refine ⟨⟨hne, hnumber⟩, front, behind, (List.append_assoc ..).symm, fun c hc => ?_, hbehind⟩
    simpa using hfront c hc

theorem firstDigits_ne_nil_iff {s : List Char} :
    firstDigits s ≠ [] ↔ ∃ c ∈ s, isDecimalDigit c = true := by
  induction s with
  | nil => simp [firstDigits]
  | cons c s ih =>
    cases hc : isDecimalDigit c with
    | false => rw [firstDigits_cons hc, ih]; simp [hc]
    | true => simp [firstDigits, hc]

/-- There is no other `.html` behind the one in front of nothing or of a number. -/
theorem length_le_of_linkText {name name' tail' : List Char} {post : Option (List Char)}
    (hpost : ∀ number ∈ post, IsNumber number)
    (h : linkText name post = name' ++ ".html".toList ++ tail') : name'.length ≤ name.length := by
  have hbehind : '.' ∉ "html".toList ++ post.elim [] ('#' :: ·) :=
    List.not_mem_append (by decide) (not_mem_postTail hpost rfl (by decide))
  rw [linkText_eq, List.append_assoc] at h
  rcases List.append_eq_append_iff.mp h with ⟨more, rfl, hmore⟩ | ⟨more, rfl, -⟩
  · cases more with
    | nil => rw [List.append_nil]
    | cons c more =>
      have hdot : '.' ∈ "html".toList ++ post.elim [] ('#' :: ·) := by
        rw [(List.cons.inj hmore).2]
        exact List.mem_append_right more List.mem_cons_self
      exact absurd hdot hbehind
  · rw [List.length_append]
    omega

/-- What stands behind the page name. -/
def behindPage (post : Option (List Char)) : List Char := post.elim [] ('#' :: ·)

theorem behindPage_inj {post post' : Option (List Char)} :
    behindPage post = behindPage post' ↔ post = post' := by
  cases post <;> cases post' <;> simp [behindPage]

theorem isPage_linkText (name : List Char) {post : Option (List Char)}
    (hpost : ∀ number ∈ post, IsNumber number) : IsPage (linkText name post) name (behindPage post) where
  parts := rfl
  last := fun _ _ => length_le_of_linkText hpost
  tail_eq := by
    cases post with
    | none => exact .inl rfl
    | some number => exact .inr ⟨number, hpost number rfl, rfl⟩

theorem IsPage.exists_post {segment name tail : List Char} (h : IsPage segment name tail) :
    ∃ post, tail = behindPage post ∧ splitPage? segment = some (name, post) := by
  obtain ⟨rfl, -, rfl | ⟨number, hnumber, rfl⟩⟩ := h
  · exact ⟨none, rfl, splitPage?_eq_some.mpr ⟨rfl, nofun⟩⟩
  · refine ⟨some number, rfl, splitPage?_eq_some.mpr ⟨rfl, ?_⟩⟩
    rintro _ ⟨rfl⟩
    exact hnumber

/-! ### The numbers -/

/-- The thread and the post of a link with a page. -/
theorem threadPostNumbers?_of_page {link thread : String} {post : Option String}
    {name : List Char} {digits : Option (List Char)}
    (hpage : splitPage? (lastSegment (trim link.toList)) = some (name, digits)) :
    threadPostNumbers? link = some (thread, post) ↔
      IsFirstNumber thread.toList name ∧ digits = post.map String.toList := by
  unfold threadPostNumbers?
  rw [hpage, isFirstNumber_iff]
  show (if (firstDigits name).isEmpty then none else some _) = _ ↔ _
  constructor
  · intro h
    split at h
    · cases h
    · rename_i hthread
      obtain ⟨rfl, rfl⟩ := Prod.mk.inj (Option.some.inj h)
      rw [String.toList_ofList]
      exact ⟨⟨rfl, by simpa using hthread⟩, by simp⟩
  · rintro ⟨⟨hthread, hne⟩, rfl⟩
    rw [if_neg (by simpa [hthread] using hne), hthread]
    simp

/-- **A link is read part by part.** The groups of the expression, where it is found first, are these:
of the segment behind the last slash, the thread is the first number in front of the last `.html`, and
the post is the number behind it and `#`. There is no thread where there is no number in front, or
where something else stands behind. -/
theorem threadPostNumbers?_spec (link : String) :
    threadPostNumbers? link =
      (threadExpression.search (trim link.toList)).bind (fun kept =>
        (kept.lookup 1).map fun thread =>
          (String.ofList thread, (kept.lookup 2).map String.ofList)) ∧
    ∃ segment, IsLastSegment segment (trim link.toList) ∧
      ((threadPostNumbers? link).isSome = true ↔
        ∃ name tail, IsPage segment name tail ∧ ∃ c ∈ name, isDecimalDigit c = true) ∧
      ∀ name tail, IsPage segment name tail → ∀ thread post,
        (threadPostNumbers? link = some (thread, post) ↔
          IsFirstNumber thread.toList name ∧ tail = behindPage (post.map String.toList)) := by
  refine ⟨threadPostNumbers?_eq_search link, lastSegment (trim link.toList),
    isLastSegment_iff.mpr rfl, ?told, ?numbers⟩
  case told =>
    constructor
    · intro h
      obtain ⟨⟨thread, post⟩, h⟩ := Option.isSome_iff_exists.mp h
      obtain ⟨name, hlink, hpost, hthread, hne⟩ := threadPostNumbers?_eq_some.mp h
      have hdigits : ∀ number ∈ post.map String.toList, IsNumber number := by
        intro number hnumber
        obtain ⟨number, hmem, rfl⟩ := Option.map_eq_some_iff.mp hnumber
        exact hpost number hmem
      refine ⟨name, _, hlink ▸ isPage_linkText name hdigits, firstDigits_ne_nil_iff.mp ?_⟩
      rw [hthread]
      simpa using hne
    · rintro ⟨name, tail, hpage, hdigit⟩
      obtain ⟨post, -, hsplit⟩ := hpage.exists_post
      have hthread : threadPostNumbers? link =
          some (String.ofList (firstDigits name), post.map String.ofList) := by
        refine (threadPostNumbers?_of_page hsplit).mpr ⟨?_, by simp⟩
        rw [String.toList_ofList, isFirstNumber_iff]
        exact ⟨rfl, firstDigits_ne_nil_iff.mpr hdigit⟩
      rw [hthread]
      rfl
  case numbers =>
    intro name tail hpage thread post
    obtain ⟨digits, rfl, hsplit⟩ := hpage.exists_post
    rw [threadPostNumbers?_of_page hsplit, behindPage_inj]

/-- A page name with other digits and another `.html` in it, in a link with digits in front. -/
theorem threadPostNumbers?_of_long_link :
    IsPage "x12-34.html5.html#678".toList "x12-34.html5".toList "#678".toList ∧
      threadPostNumbers? " /9/res/x12-34.html5.html#678" = some ("12", some "678") := by
  have hpage : IsPage "x12-34.html5.html#678".toList "x12-34.html5".toList "#678".toList := by
    have hnumber : ∀ number ∈ some "678".toList, IsNumber number := by
      rintro number ⟨rfl⟩
      decide
    exact isPage_linkText "x12-34.html5".toList hnumber
  refine ⟨hpage, ?_⟩
  obtain ⟨-, segment, hsegment, -, hnumbers⟩ :=
    threadPostNumbers?_spec " /9/res/x12-34.html5.html#678"
  obtain rfl : segment = "x12-34.html5.html#678".toList := by
    rw [← isLastSegment_iff.mp hsegment]
    decide +kernel
  refine (hnumbers _ _ hpage "12" (some "678")).mpr ⟨?_, rfl⟩
  rw [isFirstNumber_iff]
  decide +kernel

end Imageboard.Locator
