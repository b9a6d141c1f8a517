import Mathlib.Data.List.TakeWhile
import Imageboard.Locator
import Imageboard.Proofs.Text.Search

/-! What a link to a thread is read as.

Only what stands behind the last slash counts. It has to end with `.html`, behind which `#` and the
number of a post may follow (`splitPage?_eq_some`), and the thread is the first number in front. -/
namespace Imageboard.Locator
open Text

/-! ### The last segment -/

theorem ne_slash_of_mem_reverse {s : List Char} (h : '/' ∉ s) :
    ∀ c ∈ s.reverse, (c != '/') = true := by
  intro c hc
  refine bne_iff_ne.mpr ?_
  rintro rfl
  exact h (List.mem_reverse.mp hc)

theorem lastSegment_slash {s : List Char} (h : '/' ∉ s) (lead : List Char) :
    lastSegment (lead ++ '/' :: s) = s := by
  rw [lastSegment, List.reverse_append, List.reverse_cons, List.append_assoc, List.singleton_append,
    takeWhile_stop (ne_slash_of_mem_reverse h) rfl, List.reverse_reverse]

/-- A text is divided by the last slash in it. -/
theorem exists_segment {s : List Char} (h : '/' ∈ s) :
    ∃ lead segment, s = lead ++ '/' :: segment ∧ '/' ∉ segment := by
  obtain ⟨back, front, hs, hback⟩ := List.eq_append_cons_of_mem (List.mem_reverse.mpr h)
  refine ⟨front.reverse, back.reverse, ?_, fun hmem => hback (List.mem_reverse.mp hmem)⟩
  rw [← List.reverse_reverse s, hs]
  simp

/-- A slash hides what stands in front of it. -/
theorem lastSegment_append {s : List Char} (h : '/' ∈ s) (lead : List Char) :
    lastSegment (lead ++ s) = lastSegment s := by
  obtain ⟨front, segment, rfl, hsegment⟩ := exists_segment h
  rw [lastSegment_slash hsegment, ← List.append_assoc, lastSegment_slash hsegment]

/-! ### The page -/

/-- The name of a page and the post on it, as a link has them. -/
def linkText (name : List Char) (post : Option (List Char)) : List Char :=
  name ++ ".html".toList ++ post.elim [] ('#' :: ·)

theorem linkText_append (lead name : List Char) (post : Option (List Char)) :
    linkText (lead ++ name) post = lead ++ linkText name post := by
  simp [linkText]

/-- Behind the name of a page stands a dot. -/
theorem linkText_eq (name : List Char) (post : Option (List Char)) :
    linkText name post = name ++ '.' :: ("html".toList ++ post.elim [] ('#' :: ·)) := by
  rw [linkText, List.append_assoc]
  rfl

/-- The digits of a number. -/
def IsNumber (s : List Char) : Prop := s ≠ [] ∧ ∀ c ∈ s, isDecimalDigit c = true

theorem stripLast_iff {ending s rest : List Char} :
    strip? ending.reverse s.reverse = some rest ↔ s = rest.reverse ++ ending := by
  rw [strip?_iff, List.reverse_eq_iff, List.reverse_append, List.reverse_reverse]

/-- The digits at the end of a text, behind a character that is none. -/
theorem takeWhile_number {number : List Char} {c : Char} (hnumber : IsNumber number)
    (hc : isDecimalDigit c = false) (s : List Char) :
    (s ++ c :: number).reverse.takeWhile isDecimalDigit = number.reverse ∧
      (s ++ c :: number).reverse.dropWhile isDecimalDigit = (s ++ [c]).reverse := by
  have hdigits : ∀ d ∈ number.reverse, isDecimalDigit d = true := fun d hd =>
    hnumber.2 d (List.mem_reverse.mp hd)
  have hsplit : (s ++ c :: number).reverse = number.reverse ++ c :: s.reverse := by simp
  rw [hsplit, takeWhile_stop hdigits hc, dropWhile_stop hdigits hc, List.reverse_append]
  exact ⟨rfl, rfl⟩

/-- A link that ends with the number of a post does not end with `.html`. -/
theorem strip?_of_number {name number : List Char} (hnumber : IsNumber number) :
    strip? ".html".toList.reverse (linkText name (some number)).reverse = none := by
  refine Option.eq_none_iff_forall_ne_some.mpr fun reversed hstrip => ?_
  obtain ⟨digits, d, rfl⟩ : ∃ digits d, number = digits ++ [d] :=
    ⟨_, _, (List.dropLast_concat_getLast hnumber.1).symm⟩
  have hd := hnumber.2 d (List.mem_append_right digits List.mem_cons_self)
  have hends : linkText name (some (digits ++ [d])) =
      name ++ ".html".toList ++ '#' :: digits ++ [d] := by simp [linkText]
  have hlast := congrArg List.getLast? (stripLast_iff.mp hstrip)
  rw [hends, List.getLast?_concat, List.getLast?_append] at hlast
  obtain rfl : d = 'l' := Option.some.inj hlast
  cases hd

/-- A link has a page where it ends with `.html`, and a post on it where a number stands behind. -/
theorem splitPage?_eq_some {s name : List Char} {post : Option (List Char)} :
    splitPage? s = some (name, post) ↔ s = linkText name post ∧ ∀ number ∈ post, IsNumber number := by
  unfold splitPage?
  dsimp only
  constructor
  · intro h
    split at h
    · rename_i reversed hstrip
      obtain ⟨rfl, rfl⟩ := Prod.mk.inj (Option.some.inj h)
      refine ⟨?_, nofun⟩
      rw [stripLast_iff.mp hstrip]
      exact (List.append_nil _).symm
    · split at h
      · cases h
      · rename_i hnumber
        obtain ⟨reversed, hstrip, heq⟩ := Option.map_eq_some_iff.mp h
        obtain ⟨rfl, rfl⟩ := Prod.mk.inj heq
        rw [← List.reverse_reverse (s.reverse.dropWhile isDecimalDigit), stripLast_iff] at hstrip
        constructor
        · have hparts : s.reverse.takeWhile isDecimalDigit ++ s.reverse.dropWhile isDecimalDigit =
              s.reverse := List.takeWhile_append_dropWhile
          have hs := congrArg List.reverse hparts
          rw [List.reverse_append, hstrip, List.reverse_reverse] at hs
          refine hs.symm.trans ?_
          simp [linkText]
        · rintro number ⟨rfl⟩
          refine ⟨by simpa using hnumber, fun c hc => ?_⟩
          exact List.all_eq_true.mp List.all_takeWhile c (List.mem_reverse.mp hc)
  · rintro ⟨rfl, hpost⟩
    cases post with
    | none =>
      have hstrip : strip? ".html".toList.reverse (linkText name none).reverse =
          some name.reverse := by
        rw [stripLast_iff, List.reverse_reverse]
        exact List.append_nil _
      rw [hstrip]
      dsimp only
      rw [List.reverse_reverse]
    | some number =>
      have hnumber := hpost number rfl
      have htext : linkText name (some number) = name ++ ".html".toList ++ '#' :: number := rfl
      have hmark : isDecimalDigit '#' = false := by decide
      obtain ⟨htake, hdrop⟩ := takeWhile_number hnumber hmark (name ++ ".html".toList)
      have hstrip : strip? ".html#".toList.reverse (name ++ ".html".toList ++ ['#']).reverse =
          some name.reverse := by
        rw [stripLast_iff, List.reverse_reverse, List.append_assoc]
        rfl
      rw [strip?_of_number hnumber]
      dsimp only
      rw [htext, htake, hdrop, List.reverse_reverse, if_neg (by simpa using hnumber.1), hstrip]
      simp

/-! ### The thread -/

theorem firstDigits_append {number behind : List Char} (hnumber : IsNumber number)
    (hbehind : ∀ c ∈ behind.head?, isDecimalDigit c = false) :
    firstDigits (number ++ behind) = number := by
  obtain ⟨hne, hdigits⟩ := hnumber
  have hdrop : (number ++ behind).dropWhile (fun c => !isDecimalDigit c) = number ++ behind := by
    cases number with
    | nil => exact absurd rfl hne
    | cons d number =>
      exact List.dropWhile_cons_of_neg (by simp [hdigits d List.mem_cons_self])
  have htake : behind.takeWhile isDecimalDigit = [] := by
    cases behind with
    | nil => rfl
    | cons c behind => exact List.takeWhile_cons_of_neg (by simpa using hbehind)
  rw [firstDigits, hdrop, List.takeWhile_append_of_pos hdigits, htake, List.append_nil]

/-- What the number of the thread and that of the post are in a link that has them. -/
theorem threadPostNumbers?_eq_some {link thread : String} {post : Option String} :
    threadPostNumbers? link = some (thread, post) ↔
      ∃ name, lastSegment (trim link.toList) = linkText name (post.map String.toList) ∧
        (∀ number ∈ post, IsNumber number.toList) ∧
        firstDigits name = thread.toList ∧ thread ≠ "" := by
  unfold threadPostNumbers?
  constructor
  · intro h
    obtain ⟨⟨name, digits⟩, hsplit, h⟩ := Option.bind_eq_some_iff.mp h
    obtain ⟨hlink, hdigits⟩ := splitPage?_eq_some.mp hsplit
    dsimp only at h
    split at h
    · cases h
    · rename_i hthread
      obtain ⟨rfl, rfl⟩ := Prod.mk.inj (Option.some.inj h)
      have hpost : (digits.map String.ofList).map String.toList = digits := by simp
      refine ⟨name, by rw [hpost]; exact hlink, ?_, String.toList_ofList.symm, by simpa using hthread⟩
      intro number hnumber
      obtain ⟨number, hmem, rfl⟩ := Option.map_eq_some_iff.mp hnumber
      rw [String.toList_ofList]
      exact hdigits number hmem
  · rintro ⟨name, hlink, hpost, hthread, hne⟩
    have hsplit := splitPage?_eq_some.mpr ⟨hlink, fun number hnumber => by
      obtain ⟨number, hmem, rfl⟩ := Option.map_eq_some_iff.mp hnumber
      exact hpost number hmem⟩
    rw [hsplit]
    show (if (firstDigits name).isEmpty then none else _) = _
    rw [hthread, if_neg (by simpa using hne)]
    simp

/-- The first number of a page name that begins with a number and a dot. -/
theorem firstDigits_of_append_eq {number behind name rest : List Char} (hnumber : IsNumber number)
    (h : number ++ '.' :: behind = name ++ '.' :: rest) :
    ∃ more, name = number ++ more ∧ firstDigits name = number := by
  rcases List.append_eq_append_iff.mp h with ⟨more, rfl, hmore⟩ | ⟨excess, rfl, hexcess⟩
  · refine ⟨more, rfl, firstDigits_append hnumber fun c hc => ?_⟩
    cases more with
    | nil => cases hc
    | cons d more =>
      obtain ⟨rfl, -⟩ := List.cons.inj hmore
      obtain rfl := Option.some.inj hc
      decide
  · cases excess with
    | nil =>
      rw [List.append_nil] at hnumber ⊢
      have hfirst : firstDigits (name ++ []) = name := firstDigits_append hnumber nofun
      rw [List.append_nil] at hfirst
      exact ⟨[], (List.append_nil name).symm, hfirst⟩
    | cons d excess =>
      obtain ⟨rfl, -⟩ := List.cons.inj hexcess
      have hdot := hnumber.2 '.' (List.mem_append_right name List.mem_cons_self)
      cases hdot

end Imageboard.Locator
