import Imageboard.Proofs.Address.Scheme
import Imageboard.Proofs.Address.ThreadLink
import Imageboard.Proofs.Numeral
import Imageboard.Proofs.Text.Blank

/-! The address of a thread page, read as a link.

The address of a page has the path of the page, and the query and the fragment of the address of the
site. `threadPage_read`: where the site has neither, the address is read as the number of the thread
and no post; otherwise they are part of what is read. -/
namespace Imageboard
open Address Text

/-! ### Encoded text -/

namespace Address
variable {set : Char → Bool} {s : List Char}

theorem percentEncode_eq_self (h : ∀ c ∈ s, c.toNat < 128 ∧ set c = false) :
    percentEncode set s = s := by
  induction s with
  | nil => rfl
  | cons c s ih =>
    obtain ⟨⟨hascii, hset⟩, hs⟩ := List.forall_mem_cons.mp h
    have hc : encodeCharacter set c = [c] := by
      unfold encodeCharacter
      rw [if_pos (by simp [hascii, hset])]
    rw [percentEncode, List.flatMap_cons, hc]
    exact congrArg (c :: ·) (ih hs)

/-- A character that is seen in ASCII. -/
def IsVisible (c : Char) : Prop := 32 < c.toNat ∧ c.toNat < 128

theorem visible_of_mem_encodeByte {b : UInt8} {c : Char} (h : c ∈ encodeByte b) : IsVisible c := by
  have hdigit : ∀ n < 16, 32 < (upperHexDigit n).toNat ∧ (upperHexDigit n).toNat < 128 := by decide
  have hb : b.toNat < 256 := b.toNat_lt
  simp only [encodeByte, List.mem_cons, List.not_mem_nil, or_false] at h
  rcases h with rfl | rfl | rfl
  · exact ⟨by decide, by decide⟩
  · exact hdigit _ (by omega)
  · exact hdigit _ (by omega)

theorem isControl_or_space {c : Char} (h : c.toNat ≤ 32) : isControl c = true ∨ c = ' ' := by
  rcases Nat.lt_or_eq_of_le h with hlt | heq
  · exact .inl (by simp [isControl, hlt])
  · exact .inr (Char.toNat_inj.mp heq)

/-! No part of an address holds a blank or a control as it is. -/

theorem fragmentSet_of_le {c : Char} (h : c.toNat ≤ 32) : fragmentSet c = true := by
  rcases isControl_or_space h with hcontrol | rfl
  · simp [fragmentSet, hcontrol]
  · decide

theorem specialQuerySet_of_le {c : Char} (h : c.toNat ≤ 32) : specialQuerySet c = true := by
  rcases isControl_or_space h with hcontrol | rfl
  · simp [specialQuerySet, querySet, hcontrol]
  · decide

theorem segmentSet_of_le {c : Char} (h : c.toNat ≤ 32) (special : Bool) :
    segmentSet special c = true := by
  simp [segmentSet, pathSet, fragmentSet_of_le h]

/-- Where blanks and controls are encoded nothing but visible characters are left. -/
theorem visible_of_mem_percentEncode (hset : ∀ c, c.toNat ≤ 32 → set c = true) {c : Char}
    (h : c ∈ percentEncode set s) : IsVisible c := by
  obtain ⟨d, -, hc⟩ := List.mem_flatMap.mp h
  unfold encodeCharacter at hc
  split at hc
  · rename_i hplain
    obtain rfl := List.mem_singleton.mp hc
    simp only [Bool.and_eq_true, decide_eq_true_eq, Bool.not_eq_true'] at hplain
    refine ⟨Nat.lt_of_not_le fun hle => ?_, hplain.1⟩
    rw [hset c hle] at hplain
    cases hplain.2
  · obtain ⟨b, -, hb⟩ := List.mem_flatMap.mp hc
    exact visible_of_mem_encodeByte hb

theorem IsVisible.not_blank {c : Char} (h : IsVisible c) : isBlank c = false :=
  not_isBlank_of_ascii h.1 h.2

end Address

/-! ### The parts of an address -/

namespace Url

/-- What the text of an address has behind the path. -/
def behindPath (u : Url) : String := u.query.elim "" ("?" ++ ·) ++ u.fragment.elim "" ("#" ++ ·)

/-- The addresses of web pages have hosts and paths, and none leads to a file. -/
def IsWeb (u : Url) : Prop := isSpecial u.scheme = true ∧ isFile u.scheme = false

theorem IsWeb.of_locator (l : Locator) : IsWeb l.base := by
  unfold IsWeb
  rcases l.web with h | h <;> rw [h] <;> decide +kernel

/-- An address that is read has the query and the fragment of some text. -/
theorem read_web {text : String} {u : Url} (h : read none text = .ok u) (hweb : u.IsWeb) :
    ∃ s, u.query = readQuery true s ∧ u.fragment = readFragment s := by
  unfold read at h
  generalize clean text.toList = s at h
  cases hs : readScheme? s with
  | none =>
    simp only [hs] at h
    cases h
  | some found =>
    obtain ⟨scheme, rest⟩ := found
    simp only [hs] at h
    split at h
    · have hfile := hweb.2
      rw [readFile_scheme h] at hfile
      exact absurd hfile (by decide)
    · split at h
      · rename_i hspecial
        obtain ⟨⟨authority, behind⟩, -, h⟩ := eq_ok_of_bind h
        obtain rfl := Except.ok.inj h
        refine ⟨behind, ?_, rfl⟩
        rw [← hspecial]
        rfl
      · rename_i hspecial
        have hscheme := hweb.1
        rw [readOther_scheme h] at hscheme
        exact absurd hscheme hspecial

theorem visible_query {s : List Char} {query : String} (h : readQuery true s = some query) :
    ∀ c ∈ query.toList, IsVisible c := by
  unfold readQuery at h
  split at h
  · obtain rfl := Option.some.inj h
    rw [String.toList_ofList]
    exact fun c => visible_of_mem_percentEncode fun _ => specialQuerySet_of_le
  · cases h

theorem visible_fragment {s : List Char} {fragment : String} (h : readFragment s = some fragment) :
    ∀ c ∈ fragment.toList, IsVisible c := by
  unfold readFragment at h
  split at h
  · obtain rfl := Option.some.inj h
    rw [String.toList_ofList]
    exact fun c => visible_of_mem_percentEncode fun _ => fragmentSet_of_le
  · cases h

theorem visible_part (mark : Char) (hmark : IsVisible mark) {part : Option String}
    (h : ∀ text ∈ part, ∀ c ∈ text.toList, IsVisible c) :
    ∀ c ∈ (part.elim "" (String.singleton mark ++ ·)).toList, IsVisible c := by
  cases part with
  | none => nofun
  | some text =>
    intro c hc
    rw [Option.elim_some, String.toList_append, String.toList_singleton] at hc
    rcases List.mem_cons.mp hc with rfl | hc
    · exact hmark
    · exact h text rfl c hc

/-- Nothing but visible characters stands behind the path of an address. -/
theorem visible_behindPath {text : String} {u : Url} (h : read none text = .ok u) (hweb : u.IsWeb) :
    ∀ c ∈ u.behindPath.toList, IsVisible c := by
  obtain ⟨s, hquery, hfragment⟩ := read_web h hweb
  intro c hc
  rw [behindPath, String.toList_append] at hc
  rcases List.mem_append.mp hc with hc | hc
  · have hall (query : String) (hq : query ∈ u.query) : ∀ d ∈ query.toList, IsVisible d :=
      visible_query (hquery ▸ hq)
    exact visible_part '?' ⟨by decide, by decide⟩ hall c hc
  · have hall (fragment : String) (hf : fragment ∈ u.fragment) : ∀ d ∈ fragment.toList, IsVisible d :=
      visible_fragment (hfragment ▸ hf)
    exact visible_part '#' ⟨by decide, by decide⟩ hall c hc

/-! ### Pages -/

/-- A segment that is written as it is. -/
structure PlainSegment (s : List Char) : Prop where
  characters : ∀ c ∈ s, c.toNat < 128 ∧ segmentSet true c = false
  initial : ∃ c, s.head? = some c ∧ c ≠ '.'

theorem PlainSegment.visible {s : List Char} (h : PlainSegment s) : ∀ c ∈ s, IsVisible c := by
  intro c hc
  obtain ⟨hascii, hset⟩ := h.characters c hc
  refine ⟨Nat.lt_of_not_le fun hle => ?_, hascii⟩
  rw [segmentSet_of_le hle] at hset
  cases hset

theorem not_lineSpace_of_visible {c : Char} (h : IsVisible c) : isLineSpace c = false := by
  refine Bool.eq_false_iff.mpr fun hline => ?_
  simp only [isLineSpace, Bool.or_eq_true, beq_iff_eq] at hline
  rcases hline with (rfl | rfl) | rfl <;> exact absurd h.1 (by decide)

theorem PlainSegment.no_slash {s : List Char} (h : PlainSegment s) : '/' ∉ s := by
  intro hc
  have hset := (h.characters '/' hc).2
  revert hset
  decide

theorem afterDot?_plain {s : List Char} (h : PlainSegment s) : afterDot? s = none := by
  obtain ⟨c, hc, hdot⟩ := h.initial
  cases s with
  | nil => cases hc
  | cons d s =>
    obtain rfl := Option.some.inj hc
    have hpercent : d ≠ '%' := by
      rintro rfl
      have hset := (h.characters '%' List.mem_cons_self).2
      revert hset
      decide
    unfold afterDot?
    split
    · rename_i he
      exact absurd (List.cons.inj he).1 hdot
    · rename_i he
      exact absurd (List.cons.inj he).1 hpercent
    · rfl

/-- A plain segment in the last place is the last of the path. -/
theorem withSegments_page {u : Url} (hweb : u.IsWeb) {page : String} (hpage : PlainSegment page.toList)
    (segments : List String) :
    ∃ path, (u.withSegments (segments ++ [page])).path = .segments (path ++ [page]) := by
  obtain ⟨hspecial, hfile⟩ := hweb
  have hdot := afterDot?_plain hpage
  have hname : (page == "." || page == "..") = false := by
    obtain ⟨c, hc, hne⟩ := hpage.initial
    refine Bool.eq_false_iff.mpr fun hdots => ?_
    simp only [Bool.or_eq_true, beq_iff_eq] at hdots
    rcases hdots with rfl | rfl <;> exact hne (Option.some.inj hc).symm
  have hwritten : percentEncode (segmentSet true) (page.toList.filter fun c => !isLineSpace c) =
      page.toList := by
    have hfilter : (page.toList.filter fun c => !isLineSpace c) = page.toList :=
      List.filter_eq_self.mpr fun c hc => by simp [not_lineSpace_of_visible (hpage.visible c hc)]
    rw [hfilter, percentEncode_eq_self hpage.characters]
  unfold withSegments
  simp only [List.foldl_append, List.foldl_cons, List.foldl_nil, hname, hspecial, hfile, hwritten]
  generalize List.foldl _ _ _ = path
  have hfollow (start : List (List Char)) :
      follow false start [page.toList] = start ++ [page.toList] := by
    simp [follow, isDoubleDot, isDot, hdot, child]
  rw [hfollow]
  refine ⟨(if path == [[]] then [] else path).map String.ofList, ?_⟩
  simp [segmentsPath]

theorem pathText_page {u : Url} {path : List String} {page : String}
    (h : u.path = .segments (path ++ [page])) : ∃ lead, u.pathText = lead ++ "/" ++ page := by
  have hjoin : String.join ((path ++ [page]).map ("/" ++ ·)) =
      String.join (path.map ("/" ++ ·)) ++ "/" ++ page := by
    rw [List.map_append, String.join_append]
    simp [String.append_assoc]
  unfold pathText
  rw [h]
  dsimp only
  rw [hjoin]
  split
  · exact ⟨"/." ++ String.join (path.map ("/" ++ ·)), by simp only [String.append_assoc]⟩
  · exact ⟨_, rfl⟩

theorem text_eq (u : Url) :
    ∃ lead, u.text = u.scheme ++ lead ++ u.pathText ++ u.behindPath := by
  refine ⟨":" ++ u.authority.elim "" Authority.text, ?_⟩
  unfold text behindPath
  simp only [String.append_assoc]
  cases u.authority <;> cases u.query <;> cases u.fragment <;> rfl

end Url
open Url

namespace Locator

/-- The text of a thread page ends with the number and with what stands behind the path of the site. -/
theorem text_threadPage (l : Locator) (board : String) {number : String}
    (hpage : PlainSegment (linkText number.toList none)) :
    ∃ lead, (l.threadPage board number).text.toList =
      'h' :: (lead ++ '/' :: (linkText number.toList none ++ l.base.behindPath.toList)) := by
  have hname : (number ++ ".html").toList = linkText number.toList none := by simp [linkText]
  have hsegments : [board, "res", number ++ ".html"].filter (fun segment => !segment.isEmpty) =
      [board, "res"].filter (fun segment => !segment.isEmpty) ++ [number ++ ".html"] := by
    have hempty : (number ++ ".html").isEmpty = false := by
      refine Bool.eq_false_iff.mpr fun hempty => ?_
      rw [String.isEmpty_iff.mp hempty, linkText_eq] at hname
      exact absurd hname.symm (List.append_ne_nil_of_right_ne_nil _ (List.cons_ne_nil _ _))
    have hlast : [number ++ ".html"].filter (fun segment => !segment.isEmpty) = [number ++ ".html"] :=
      List.filter_cons_of_pos (by simp [hempty])
    exact (List.filter_append [board, "res"] [number ++ ".html"]).trans (by rw [hlast])
  obtain ⟨scheme, hscheme⟩ : ∃ scheme, l.base.scheme.toList = 'h' :: scheme := by
    rcases l.web with h | h <;> rw [h] <;> exact ⟨_, rfl⟩
  obtain ⟨path, hpath⟩ := withSegments_page (IsWeb.of_locator l) (hname ▸ hpage)
    ([board, "res"].filter fun segment => !segment.isEmpty)
  rw [← hsegments] at hpath
  obtain ⟨lead, hlead⟩ := pathText_page hpath
  obtain ⟨front, htext⟩ := text_eq (l.threadPage board number)
  refine ⟨scheme ++ front.toList ++ lead.toList, ?_⟩
  have hbehind : (l.threadPage board number).behindPath = l.base.behindPath := rfl
  have hsame : (l.threadPage board number).scheme = l.base.scheme := rfl
  have hpathText : (l.threadPage board number).pathText = lead ++ "/" ++ (number ++ ".html") := hlead
  rw [htext, hbehind, hsame, hpathText]
  simp only [String.toList_append, hscheme, ← hname]
  simp

theorem read_of_ofText {base : String} {l : Locator} (h : ofText base = .ok l) :
    Url.read none (trimmed base) = .ok l.base := by
  unfold ofText at h
  split at h
  · rename_i url hread
    unfold ofUrl at h
    split at h
    · obtain rfl := Except.ok.inj h
      exact hread
    · cases h
  · cases h

/-- The text goes on as a link to a page does, with the post or without one. -/
def EndsPage (text : String) (post : Option String) : Prop :=
  ∃ front, text.toList = linkText front (post.map String.toList) ∧
    ∀ number ∈ post, IsNumber number.toList

section
variable {number : List Char}

theorem digit_plain {c : Char} (h : c.isDigit = true) :
    c.toNat < 128 ∧ segmentSet true c = false ∧ isDecimalDigit c = true ∧ c ≠ '.' := by
  have hascii : c.toNat < 128 := Numeral.toNat_lt_of_isAlphanum (by simp [Char.isAlphanum, h])
  have hall : c.isDigit = true →
      segmentSet true c = false ∧ isDecimalDigit c = true ∧ c ≠ '.' :=
    forall_ascii (P := fun c => c.isDigit = true →
      segmentSet true c = false ∧ isDecimalDigit c = true ∧ c ≠ '.') (by decide +kernel) hascii
  exact ⟨hascii, hall h⟩

theorem isNumber_of_isDigit (hne : number ≠ []) (h : ∀ c ∈ number, c.isDigit = true) :
    IsNumber number :=
  ⟨hne, fun c hc => (digit_plain (h c hc)).2.2.1⟩

theorem plainSegment_page (hne : number ≠ []) (h : ∀ c ∈ number, c.isDigit = true) :
    PlainSegment (linkText number none) where
  characters := by
    intro c hc
    have hending : ".html".toList.all (fun d => d.toNat < 128 && !segmentSet true d) = true := by
      decide +kernel
    rw [linkText, Option.elim_none, List.append_nil] at hc
    rcases List.mem_append.mp hc with hc | hc
    · exact ⟨(digit_plain (h c hc)).1, (digit_plain (h c hc)).2.1⟩
    · simpa using List.all_eq_true.mp hending c hc
  initial := by
    cases number with
    | nil => exact absurd rfl hne
    | cons d number => exact ⟨d, rfl, (digit_plain (h d List.mem_cons_self)).2.2.2⟩

/-- A page name that begins with that of a thread page has the number of the thread for its first. -/
theorem linkText_append_eq {tail name : List Char} {post : Option (List Char)}
    (hnumber : IsNumber number) (h : linkText number none ++ tail = linkText name post) :
    firstDigits name = number ∧
      ∃ front, name = number ++ front ∧ ".html".toList ++ tail = linkText front post := by
  have hdots := h
  rw [linkText_eq, linkText_eq, List.append_assoc, List.cons_append] at hdots
  obtain ⟨front, rfl, hfirst⟩ := firstDigits_of_append_eq hnumber hdots
  refine ⟨hfirst, front, rfl, ?_⟩
  rw [linkText_append, linkText, Option.elim_none, List.append_nil, List.append_assoc] at h
  exact List.append_cancel_left h

end

section
variable {base : String} {l : Locator} {number : String}

/-- The text of a thread page has no blanks at its ends. -/
theorem trim_threadPage (h : ofText base = .ok l) (board : String)
    (hpage : PlainSegment (linkText number.toList none)) :
    trim (l.threadPage board number).text.toList = (l.threadPage board number).text.toList := by
  have htail := visible_behindPath (read_of_ofText h) (IsWeb.of_locator l)
  obtain ⟨lead, htext⟩ := text_threadPage l board hpage
  have hnone : ∀ c ∈ '/' :: (linkText number.toList none ++ l.base.behindPath.toList),
      isBlank c = false := by
    intro c hc
    rcases List.mem_cons.mp hc with rfl | hc
    · decide
    · rcases List.mem_append.mp hc with hc | hc
      · exact (hpage.visible c hc).not_blank
      · exact (htail c hc).not_blank
  rw [htext, ← List.cons_append]
  refine trim_eq_self (fun c hc => ?_) fun c hc => ?_
  · obtain rfl := Option.some.inj hc
    decide
  · rw [List.getLast?_append, List.getLast?_cons, Option.some_or, ← List.getLast?_cons] at hc
    exact hnone c (List.mem_of_getLast? hc)

/-- A slash behind the path hides the page. -/
theorem threadPage_hidden (h : ofText base = .ok l) (board : String)
    (hpage : PlainSegment (linkText number.toList none)) (hslash : '/' ∈ l.base.behindPath.toList) :
    threadPostNumbers? (l.threadPage board number).text = threadPostNumbers? l.base.behindPath := by
  have htail := visible_behindPath (read_of_ofText h) (IsWeb.of_locator l)
  have htrim : trim l.base.behindPath.toList = l.base.behindPath.toList :=
    trim_eq_self (fun c hc => (htail c (List.mem_of_head? hc)).not_blank)
      fun c hc => (htail c (List.mem_of_getLast? hc)).not_blank
  obtain ⟨lead, htext⟩ := text_threadPage l board hpage
  have hfront : (l.threadPage board number).text.toList =
      'h' :: lead ++ '/' :: linkText number.toList none ++ l.base.behindPath.toList := by simp [htext]
  unfold threadPostNumbers?
  rw [trim_threadPage h board hpage, hfront, lastSegment_append hslash, htrim]

/-- Without a slash behind the path the last segment is the page and what follows it. -/
theorem threadPage_shown (h : ofText base = .ok l) (board : String)
    (hpage : PlainSegment (linkText number.toList none)) (hnumber : IsNumber number.toList)
    (hslash : '/' ∉ l.base.behindPath.toList) (thread : String) (post : Option String) :
    threadPostNumbers? (l.threadPage board number).text = some (thread, post) ↔
      thread = number ∧ EndsPage (".html" ++ l.base.behindPath) post := by
  obtain ⟨lead, htext⟩ := text_threadPage l board hpage
  have hsegment : lastSegment (trim (l.threadPage board number).text.toList) =
      linkText number.toList none ++ l.base.behindPath.toList := by
    have hno : '/' ∉ linkText number.toList none ++ l.base.behindPath.toList := fun hmem =>
      (List.mem_append.mp hmem).elim hpage.no_slash hslash
    rw [trim_threadPage h board hpage, htext, ← List.cons_append, lastSegment_slash hno]
  rw [threadPostNumbers?_eq_some, hsegment]
  constructor
  · rintro ⟨name, hlink, hpost, hthread, -⟩
    obtain ⟨hfirst, front, -, hends⟩ := linkText_append_eq hnumber hlink
    refine ⟨String.toList_inj.mp (hthread.symm.trans hfirst), front, ?_, hpost⟩
    rw [String.toList_append, hends]
  · rintro ⟨rfl, front, hends, hpost⟩
    have hlink : linkText thread.toList none ++ l.base.behindPath.toList =
        linkText (thread.toList ++ front) (post.map String.toList) := by
      rw [linkText_append, ← hends, linkText, Option.elim_none, List.append_nil, List.append_assoc,
        String.toList_append]
    refine ⟨_, hlink, hpost, (linkText_append_eq hnumber hlink).1, ?_⟩
    rintro rfl
    exact hnumber.1 rfl

/-- **The address of a thread page, read as a link.** Where the address of the site has no query and no
fragment it is the number of the thread and no post. Otherwise what the site has there follows the
path: with a slash in it, it is all that is read; without one the thread is the one the page was made
for or none, as it has to go on like a link to a page, and the post is the one that it has. -/
theorem threadPage_read (h : ofText base = .ok l) (board : String) (hne : number ≠ "")
    (hdigits : ∀ c ∈ number.toList, c.isDigit = true) :
    (l.base.query = none → l.base.fragment = none →
      threadPostNumbers? (l.threadPage board number).text = some (number, none)) ∧
    ('/' ∈ l.base.behindPath.toList →
      threadPostNumbers? (l.threadPage board number).text = threadPostNumbers? l.base.behindPath) ∧
    ('/' ∉ l.base.behindPath.toList → ∀ thread post,
      threadPostNumbers? (l.threadPage board number).text = some (thread, post) ↔
        thread = number ∧ EndsPage (".html" ++ l.base.behindPath) post) := by
  have hnumber : IsNumber number.toList := isNumber_of_isDigit (by simpa using hne) hdigits
  have hpage := plainSegment_page hnumber.1 hdigits
  have hshown := threadPage_shown h board hpage hnumber
  refine ⟨fun hquery hfragment => ?_, threadPage_hidden h board hpage, hshown⟩
  have hnothing : l.base.behindPath = "" := by
    rw [behindPath, hquery, hfragment]
    rfl
  refine (hshown (by rw [hnothing]; nofun) number none).mpr ⟨rfl, [], ?_, nofun⟩
  rw [hnothing]
  rfl

end

/-- A page of a site at a plain address. -/
theorem thread_of_plain_site :
    ∃ l, ofText " https://example.org:8080/a/7.html " = .ok l ∧ "42" ≠ "" ∧
      (∀ c ∈ "42".toList, c.isDigit = true) ∧ l.base.query = none ∧ l.base.fragment = none ∧
      threadPostNumbers? (l.threadPage "1?#/%" "42").text = some ("42", none) := by
  have hl : ofText " https://example.org:8080/a/7.html " =
      .ok ⟨⟨"https", some ⟨"", "", "example.org", some 8080⟩, .segments ["a", "7.html"], none, none⟩,
        .inr rfl⟩ := by decide +kernel
  have hdigits : ∀ c ∈ "42".toList, c.isDigit = true :=
    List.all_eq_true.mp (by decide +kernel : "42".toList.all Char.isDigit = true)
  exact ⟨_, hl, by decide, hdigits, rfl, rfl, (threadPage_read hl _ (by decide) hdigits).1 rfl rfl⟩

/-- The query or the fragment of a site hides the number of its threads, adds a post to it or takes its
place. -/
theorem thread_of_other_sites :
    (ofText "https://example.org/?x=1").toOption.map
        (fun l => threadPostNumbers? (l.threadPage "b" "42").text) = some none ∧
      (ofText "https://example.org/#5").toOption.map
        (fun l => threadPostNumbers? (l.threadPage "b" "42").text) = some (some ("42", some "5")) ∧
      (ofText "https://example.org/?a/7.html").toOption.map
        (fun l => threadPostNumbers? (l.threadPage "b" "42").text) = some (some ("7", none)) := by
  decide +kernel

end Locator

end Imageboard
