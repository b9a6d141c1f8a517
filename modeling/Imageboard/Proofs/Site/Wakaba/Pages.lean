import Imageboard.Proofs.Numeral
import Imageboard.Proofs.Site.Wakaba.Board

/-! The number of pages of a board.

The number is kept twice, in the configuration and beside the posts of the page that is read, and
every link to a page may raise it. `Knows` says that a reading has the two alike, and each answer
keeps it so (`knows_apply`); what pages tell does not depend on what was known before they were
read. It follows that the largest number wins, whatever the order of the pages:
`pagesCount_of_pages`. -/
namespace Imageboard.Wakaba
open Reading

/-! ### What a link tells -/

/-- The number of pages that a text in ASCII digits tells: pages are numbered from 0, and more than
32 bits hold are not counted. -/
def pagesOf? (text : String) : Option Nat :=
  let digits := Text.trim text.toList
  let pages := Nat.ofDigitChars 10 digits 0 + 1
  if digits ≠ [] ∧ digits.all Char.isDigit ∧ pages < UInt32.size then some pages else none

theorem lt_of_pagesOf? {text : String} {n : Nat} (h : pagesOf? text = some n) : n < UInt32.size := by
  unfold pagesOf? at h
  dsimp only at h
  split at h
  · rename_i htells
    obtain rfl := Option.some.inj h
    exact htells.2.2
  · cases h

theorem pagesTold?_eq (text : String) : pagesTold? text = (pagesOf? text).map UInt32.ofNat := by
  unfold pagesTold? pagesOf?
  generalize Text.trim text.toList = digits
  dsimp only
  by_cases hdigits : digits.all Char.isDigit = true
  · rw [if_pos hdigits]
    by_cases hne : digits = []
    · subst hne
      rfl
    · rw [Numeral.natural?_digits hne (List.all_eq_true.mp hdigits)]
      have hsize : UInt32.size = 4294967296 := rfl
      by_cases hlt : Nat.ofDigitChars 10 digits 0 + 1 < UInt32.size
      · rw [if_pos ⟨hne, hdigits, hlt⟩, Option.filter_some, if_pos (decide_eq_true (by omega))]
        rfl
      · rw [if_neg fun h => hlt h.2.2, Option.filter_some, if_neg (by simp; omega)]
        rfl
  · rw [if_neg hdigits, if_neg fun h => hdigits h.2.1]
    rfl

/-! ### The largest number -/

/-- What is known once a number of pages has been told. -/
def raise (known : Option UInt32) (pages : UInt32) : Option UInt32 :=
  if known.getD 0 < pages then some pages else known

theorem le_raise (known : Option UInt32) (pages : UInt32) :
    known.getD 0 ≤ (raise known pages).getD 0 ∧ pages ≤ (raise known pages).getD 0 := by
  unfold raise
  split
  · rename_i hlt
    exact ⟨UInt32.le_of_lt hlt, UInt32.le_refl _⟩
  · rename_i hnot
    exact ⟨UInt32.le_refl _, UInt32.not_lt.mp hnot⟩

theorem raise_right_comm (known : Option UInt32) (m n : UInt32) :
    raise (raise known m) n = raise (raise known n) m := by
  unfold raise
  split <;> split <;> grind

theorem le_foldl_raise (told : List UInt32) (known : Option UInt32) :
    known.getD 0 ≤ (told.foldl raise known).getD 0 := by
  induction told generalizing known with
  | nil => exact UInt32.le_refl _
  | cons n told ih => exact UInt32.le_trans (le_raise known n).1 (ih (raise known n))

/-- What is known already is not raised by less. -/
theorem foldl_raise_of_le {told : List UInt32} {known : Option UInt32}
    (h : ∀ n ∈ told, n ≤ known.getD 0) : told.foldl raise known = known := by
  induction told with
  | nil => rfl
  | cons n told ih =>
    obtain ⟨hn, htold⟩ := List.forall_mem_cons.mp h
    rw [List.foldl_cons, raise, if_neg (UInt32.not_lt.mpr hn)]
    exact ih htold

/-- Where more is told than was known, the largest number told is known in the end. -/
theorem foldl_raise_of_lt {told : List UInt32} {known : Option UInt32}
    (h : ∃ n ∈ told, known.getD 0 < n) :
    ∃ m ∈ told, (∀ n ∈ told, n ≤ m) ∧ told.foldl raise known = some m := by
  induction told generalizing known with
  | nil => nomatch h
  | cons first told ih =>
    rw [List.foldl_cons]
    -- Either the rest still tells more than is known after the first number, or that was the largest.
    by_cases hrest : ∃ n ∈ told, (raise known first).getD 0 < n
    · obtain ⟨m, hm, hlargest, heq⟩ := ih hrest
      obtain ⟨n, hn, hlt⟩ := hrest
      have hfirst : first ≤ m :=
        UInt32.le_trans (le_raise known first).2 (UInt32.le_trans (UInt32.le_of_lt hlt) (hlargest n hn))
      exact ⟨m, List.mem_cons_of_mem _ hm, List.forall_mem_cons.mpr ⟨hfirst, hlargest⟩, heq⟩
    · have hle : ∀ n ∈ told, n ≤ (raise known first).getD 0 := fun n hn =>
        UInt32.not_lt.mp fun hlt => hrest ⟨n, hn, hlt⟩
      rw [foldl_raise_of_le hle]
      have hfirst : known.getD 0 < first := by
        obtain ⟨n, hn, hlt⟩ := h
        rcases List.mem_cons.mp hn with rfl | hn
        · exact hlt
        · refine UInt32.not_le.mp fun hnot => UInt32.not_lt.mpr ?_ hlt
          have hsame : raise known first = known := if_neg (UInt32.not_lt.mpr hnot)
          exact hsame ▸ hle n hn
      have hraised : raise known first = some first := if_pos hfirst
      rw [hraised] at hle ⊢
      exact ⟨first, List.mem_cons_self, List.forall_mem_cons.mpr ⟨UInt32.le_refl _, hle⟩, rfl⟩

/-! ### The number that a reading knows -/

/-- What is known after some texts of links to pages. -/
def raised (known : Option UInt32) (texts : List String) : Option UInt32 :=
  (texts.filterMap pagesTold?).foldl raise known

theorem raised_append (known : Option UInt32) (texts texts' : List String) :
    raised known (texts ++ texts') = raised (raised known texts) texts' := by
  unfold raised
  rw [List.filterMap_append, List.foldl_append]

theorem filterMap_pagesTold? (texts : List String) :
    texts.filterMap pagesTold? = (texts.filterMap pagesOf?).map UInt32.ofNat := by
  rw [List.map_filterMap, funext pagesTold?_eq]

theorem toNat_ofNat_of_told {texts : List String} {n : Nat} (h : n ∈ texts.filterMap pagesOf?) :
    (UInt32.ofNat n).toNat = n := by
  obtain ⟨text, -, htext⟩ := List.mem_filterMap.mp h
  exact UInt32.toNat_ofNat_of_lt' (lt_of_pagesOf? htext)

theorem raised_of_le {texts : List String} {known : Option UInt32}
    (h : ∀ n ∈ texts.filterMap pagesOf?, n ≤ (known.getD 0).toNat) : raised known texts = known := by
  unfold raised
  rw [filterMap_pagesTold?]
  refine foldl_raise_of_le (List.forall_mem_map.mpr fun n hn => ?_)
  rw [UInt32.le_iff_toNat_le, toNat_ofNat_of_told hn]
  exact h n hn

theorem raised_of_lt {texts : List String} {known : Option UInt32}
    (h : ∃ n ∈ texts.filterMap pagesOf?, (known.getD 0).toNat < n) :
    ∃ m ∈ texts.filterMap pagesOf?, (∀ n ∈ texts.filterMap pagesOf?, n ≤ m) ∧
      (raised known texts).map (·.toNat) = some m := by
  obtain ⟨n, hn, hlt⟩ := h
  have hraises : known.getD 0 < UInt32.ofNat n := by
    rwa [UInt32.lt_iff_toNat_lt, toNat_ofNat_of_told hn]
  obtain ⟨largest, hmem, hle, heq⟩ := foldl_raise_of_lt ⟨_, List.mem_map_of_mem hn, hraises⟩
  obtain ⟨m, hm, rfl⟩ := List.mem_map.mp hmem
  refine ⟨m, hm, fun k hk => ?_, ?_⟩
  · have hkm := hle _ (List.mem_map_of_mem hk)
    rwa [UInt32.le_iff_toNat_le, toNat_ofNat_of_told hk, toNat_ofNat_of_told hm] at hkm
  · unfold raised
    rw [filterMap_pagesTold?, heq, Option.map_some, toNat_ofNat_of_told hm]

/-- What is known of a board is this number of pages, in both places where it is kept. -/
structure Knows (board : String) (pages : Option UInt32) (known : Configuration × UInt32) :
    Prop where
  stored : known.1.pagesCount? board = pages
  counted : known.2 = pages.getD 0

theorem pageLink_knows {pages : Option UInt32} {r : Reading} (h : Knows r.board pages r.known)
    (text : String) : Knows r.board (raised pages [text]) (pageLink text r).known := by
  have hcounted : r.pagesCount = pages.getD 0 := h.counted
  unfold raised pageLink
  rw [List.filterMap_cons, List.filterMap_nil]
  cases pagesTold? text with
  | none => exact h
  | some told =>
    dsimp only
    rw [List.foldl_cons, List.foldl_nil, raise, hcounted]
    split
    · exact ⟨Configuration.pagesCount?_storePagesCount r.configuration r.board told, rfl⟩
    · exact h

theorem knows_apply {v : Visit} {r : Reading} (hv : v.MadeIn (Sheet.table sheet) r)
    {pages : Option UInt32} (h : Knows r.board pages r.known) :
    Knows r.board (raised pages (pageLinkText? r v).toList)
      (v.apply (Sheet.table sheet) r).known := by
  have htells := known_apply hv
  generalize (v.apply (Sheet.table sheet) r).known = known at htells ⊢
  cases htells with
  | nothing hnone =>
    rw [hnone]
    exact h
  | pages text htext =>
    rw [htext]
    exact pageLink_knows h text
  | title text hnone =>
    rw [hnone, logo_known]
    refine ⟨?_, h.counted⟩
    rw [Configuration.pagesCount?_storeBoardTitle]
    exact h.stored

/-! ### Pages -/

section
variable (source : Source) (r : Reading)

/-- The text of the link to a page that the tag at place `n` is. -/
def linkTextAt (n : Nat) : Option String :=
  (visits source r)[n]?.bind (pageLinkText? (stateAt source r n))

/-- The texts of the links to pages among the first `n` tags. -/
def linkTexts (n : Nat) : List String := (List.range n).filterMap (linkTextAt source r)

variable {source r}

theorem linkTexts_succ (n : Nat) :
    linkTexts source r (n + 1) = linkTexts source r n ++ (linkTextAt source r n).toList := by
  unfold linkTexts
  rw [List.range_succ, List.filterMap_append, List.filterMap_cons, List.filterMap_nil]
  cases linkTextAt source r n <;> rfl

theorem knows_stateAt (hlinkUse : r.linkUse = none) {pages : Option UInt32}
    (h : Knows r.board pages r.known) (n : Nat) (hn : n ≤ (visits source r).length) :
    Knows r.board (raised pages (linkTexts source r n)) (stateAt source r n).known := by
  refine Sheet.stateAt_induction
    (P := fun n (s : Reading) => Knows r.board (raised pages (linkTexts source r n)) s.known) h
    (fun n v hv ih => ?_) n hn
  have hboard : (stateAt source r n).board = r.board :=
    (settled_stateAt hlinkUse n (Nat.le_of_lt (List.getElem?_eq_some_iff.mp hv).1)).board
  have htext : linkTextAt source r n = pageLinkText? (stateAt source r n) v := by
    rw [linkTextAt, hv, Option.bind_some]
  rw [linkTexts_succ, raised_append, htext, ← hboard]
  exact knows_apply (visits_made hv) (hboard.symm ▸ ih)

/-- What is known of the pages never becomes less on the way through a page. -/
theorem raised_linkTexts_le (pages : Option UInt32) {m n : Nat} (h : m ≤ n) :
    (raised pages (linkTexts source r m)).getD 0 ≤ (raised pages (linkTexts source r n)).getD 0 := by
  induction h with
  | refl => exact UInt32.le_refl _
  | step _ ih =>
    rw [linkTexts_succ, raised_append]
    exact UInt32.le_trans ih (le_foldl_raise _ _)

end

/-- What is known of the board does not decide which links are links to pages. -/
theorem pageLinkText?_samePage {r s : Reading} (h : SamePage r s) (v : Visit) :
    pageLinkText? r v = pageLinkText? s v := by
  have hforget (t : Reading) : pageLinkText? t.forgetBoard v = pageLinkText? t v := by
    unfold pageLinkText?
    rw [link_forgetBoard]
    rfl
  have h : r.forgetBoard = s.forgetBoard := h
  rw [← hforget r, h, hforget s]

theorem linkTexts_samePage {r s : Reading} (h : SamePage r s) (source : Source) (n : Nat) :
    linkTexts source r n = linkTexts source s n := by
  have hat (k : Nat) : linkTextAt source r k = linkTextAt source s k := by
    have hvisits : visits source s = visits source r := Sheet.visits_alike sheet_samePage source h
    have hstates : SamePage (stateAt source r k) (stateAt source s k) :=
      Sheet.stateAt_alike sheet_samePage source h k
    unfold linkTextAt
    rw [hvisits]
    exact congrArg (Option.bind _) (funext (pageLinkText?_samePage hstates))
  exact congrArg (List.filterMap · (List.range n)) (funext hat)

/-- A page, and how it is read. -/
structure Page where
  locator : Locator
  namesFiles : Bool
  listing : Listing
  source : Source

namespace Page
variable (p : Page) (board : String) (c : Configuration)

/-- What is known after the page has been read. -/
def read : Configuration := (readPage p.locator board p.namesFiles p.listing p.source c).2

def start : Reading := Wakaba.start p.locator board p.namesFiles p.listing c

/-- The number of tags that are answered. -/
def length : Nat := (visits p.source (p.start board c)).length

/-- The texts of the links to pages. -/
def linkTexts : List String := Wakaba.linkTexts p.source (p.start board c) (p.length board c)

/-- The configurations on the way through the page: what it begins with, and one after each tag. -/
def trail : List Configuration :=
  (List.range (p.length board c + 1)).map fun n =>
    (stateAt p.source (p.start board c) n).configuration

end Page

/-! ### Pages that are read one after another -/

def readAll (board : String) (c : Configuration) (pages : List Page) : Configuration :=
  pages.foldl (fun c p => p.read board c) c

/-- The texts of all links to pages. -/
def allLinkTexts (board : String) (c : Configuration) : List Page → List String
  | [] => []
  | p :: pages => p.linkTexts board c ++ allLinkTexts board (p.read board c) pages

/-- All configurations on the way, the last one included. -/
def trail (board : String) (c : Configuration) : List Page → List Configuration
  | [] => [c]
  | p :: pages => p.trail board c ++ trail board (p.read board c) pages

/-- The number of pages that is known, 0 where none is. -/
def pagesKnown (board : String) (c : Configuration) : Nat := ((c.pagesCount? board).getD 0).toNat

section
variable (board : String) (c : Configuration)

theorem start_knows (p : Page) : Knows board (c.pagesCount? board) (p.start board c).known :=
  ⟨rfl, rfl⟩

theorem pagesCount?_stateAt (p : Page) {n : Nat} (hn : n ≤ p.length board c) :
    (stateAt p.source (p.start board c) n).configuration.pagesCount? board =
      raised (c.pagesCount? board) (linkTexts p.source (p.start board c) n) :=
  (knows_stateAt rfl (start_knows board c p) n hn).stored

theorem read_eq (p : Page) :
    p.read board c = (stateAt p.source (p.start board c) (p.length board c)).configuration :=
  congrArg Reading.configuration (Sheet.readWithSheet_state sheet_sound p.source (p.start board c))

theorem pagesCount?_read (p : Page) :
    (p.read board c).pagesCount? board = raised (c.pagesCount? board) (p.linkTexts board c) := by
  rw [read_eq]
  exact pagesCount?_stateAt board c p (Nat.le_refl _)

theorem pagesCount?_readAll (pages : List Page) :
    (readAll board c pages).pagesCount? board =
      raised (c.pagesCount? board) (allLinkTexts board c pages) := by
  induction pages generalizing c with
  | nil => rfl
  | cons p pages ih =>
    show (readAll board (p.read board c) pages).pagesCount? board = _
    rw [ih, pagesCount?_read, allLinkTexts, raised_append]

/-- The links of a page do not depend on what was known before it. -/
theorem page_linkTexts_eq (p : Page) (c' : Configuration) :
    p.linkTexts board c = p.linkTexts board c' := by
  have hsame : SamePage (p.start board c) (p.start board c') := start_samePage ..
  have hlength : p.length board c' = p.length board c :=
    congrArg List.length (Sheet.visits_alike sheet_samePage p.source hsame)
  unfold Page.linkTexts
  rw [hlength]
  exact linkTexts_samePage hsame p.source _

theorem allLinkTexts_eq (pages : List Page) (c' : Configuration) :
    allLinkTexts board c pages = pages.flatMap fun p => p.linkTexts board c' := by
  induction pages generalizing c with
  | nil => rfl
  | cons p pages ih => rw [allLinkTexts, ih, page_linkTexts_eq board c p c', List.flatMap_cons]

/-! ### On the way -/

variable {board c}

theorem pagesKnown_stateAt_le (p : Page) {m n : Nat} (hmn : m ≤ n) (hn : n ≤ p.length board c) :
    pagesKnown board (stateAt p.source (p.start board c) m).configuration ≤
      pagesKnown board (stateAt p.source (p.start board c) n).configuration := by
  unfold pagesKnown
  rw [pagesCount?_stateAt board c p (Nat.le_trans hmn hn), pagesCount?_stateAt board c p hn]
  exact UInt32.le_iff_toNat_le.mp (raised_linkTexts_le _ hmn)

theorem pagesKnown_le_stateAt (p : Page) {n : Nat} (hn : n ≤ p.length board c) :
    pagesKnown board c ≤ pagesKnown board (stateAt p.source (p.start board c) n).configuration := by
  show pagesKnown board (stateAt p.source (p.start board c) 0).configuration ≤ _
  exact pagesKnown_stateAt_le p (Nat.zero_le n) hn

/-- Anything on the way through a page is between its beginning and its end. -/
theorem pagesKnown_of_mem_page {p : Page} {x : Configuration} (hx : x ∈ p.trail board c) :
    pagesKnown board c ≤ pagesKnown board x ∧
      pagesKnown board x ≤ pagesKnown board (p.read board c) := by
  obtain ⟨n, hn, rfl⟩ := List.mem_map.mp hx
  have hle : n ≤ p.length board c := Nat.le_of_lt_succ (List.mem_range.mp hn)
  refine ⟨pagesKnown_le_stateAt p hle, ?_⟩
  rw [read_eq]
  exact pagesKnown_stateAt_le p hle (Nat.le_refl _)

theorem pagesKnown_le_read (p : Page) :
    pagesKnown board c ≤ pagesKnown board (p.read board c) := by
  rw [read_eq]
  exact pagesKnown_le_stateAt p (Nat.le_refl _)

theorem pagesKnown_le_of_mem_trail {pages : List Page} {x : Configuration}
    (hx : x ∈ trail board c pages) : pagesKnown board c ≤ pagesKnown board x := by
  induction pages generalizing c with
  | nil => exact Nat.le_of_eq (congrArg (pagesKnown board) (List.mem_singleton.mp hx).symm)
  | cons p pages ih =>
    rcases List.mem_append.mp hx with hpage | hrest
    · exact (pagesKnown_of_mem_page hpage).1
    · exact Nat.le_trans (pagesKnown_le_read p) (ih hrest)

theorem page_trail_pairwise (p : Page) :
    (p.trail board c).Pairwise fun x y => pagesKnown board x ≤ pagesKnown board y := by
  refine List.pairwise_map.mpr (List.pairwise_lt_range.imp_of_mem fun _ hn hlt => ?_)
  exact pagesKnown_stateAt_le p (Nat.le_of_lt hlt) (Nat.le_of_lt_succ (List.mem_range.mp hn))

theorem trail_pairwise (pages : List Page) :
    (trail board c pages).Pairwise fun x y => pagesKnown board x ≤ pagesKnown board y := by
  induction pages generalizing c with
  | nil => exact List.pairwise_singleton _ _
  | cons p pages ih =>
    refine List.pairwise_append.mpr ⟨page_trail_pairwise p, ih, fun x hx y hy => ?_⟩
    exact Nat.le_trans (pagesKnown_of_mem_page hx).2 (pagesKnown_le_of_mem_trail hy)

end

/-- **The number of pages.** While pages are read one after another, the number of pages known of
the board never becomes less. In the end it is the largest number that a link to a page told, where
that is more than was known, and else what it was. The order of the pages does not matter. -/
theorem pagesCount_of_pages (board : String) (c : Configuration) (pages : List Page) :
    let told := (allLinkTexts board c pages).filterMap pagesOf?
    let final := (readAll board c pages).pagesCount? board
    ((trail board c pages).Pairwise fun x y => pagesKnown board x ≤ pagesKnown board y) ∧
      ((∃ n ∈ told, pagesKnown board c < n) →
        ∃ m ∈ told, (∀ n ∈ told, n ≤ m) ∧ final.map (·.toNat) = some m) ∧
      ((∀ n ∈ told, n ≤ pagesKnown board c) → final = c.pagesCount? board) ∧
      ∀ pages', pages'.Perm pages → (readAll board c pages').pagesCount? board = final := by
  intro told final
  have hfinal : final = raised (c.pagesCount? board) (allLinkTexts board c pages) :=
    pagesCount?_readAll board c pages
  rw [hfinal]
  refine ⟨trail_pairwise pages, fun hmore => raised_of_lt hmore, fun hless => raised_of_le hless,
    fun pages' hperm => ?_⟩
  rw [pagesCount?_readAll, allLinkTexts_eq board c pages' c, allLinkTexts_eq board c pages c]
  have htold := (hperm.flatMap_right fun p => p.linkTexts board c).filterMap pagesTold?
  exact htold.foldl_eq' (fun m _ n _ known => raise_right_comm known m n) _

/-- A link to page 5 and a link to page 2, where 4 pages were known. -/
theorem pagesCount_of_two_pages :
    let locator : Locator :=
      ⟨⟨"https", some ⟨"", "", "board.example", none⟩, .segments [""], none, none⟩, .inr rfl⟩
    let last : Page := ⟨locator, true, .posts, .text "<a href=\"5.html\">5</a>"⟩
    let early : Page := ⟨locator, true, .posts, .text "<a href=\"2.html\"> 2 </a>"⟩
    let c := ({} : Configuration).storePagesCount "b" 4
    ((readAll "b" c [last, early]).pagesCount? "b").map (·.toNat) = some 6 ∧
      (readAll "b" c [early, last]).pagesCount? "b" = (readAll "b" c [last, early]).pagesCount? "b" ∧
      (readAll "b" c [early]).pagesCount? "b" = c.pagesCount? "b" := by
  intro locator last early c
  have htold : (allLinkTexts "b" c [last, early]).filterMap pagesOf? = [6, 3] := by decide +kernel
  have hknown : pagesKnown "b" c = 4 := by decide +kernel
  obtain ⟨-, hmore, -, horder⟩ := pagesCount_of_pages "b" c [last, early]
  obtain ⟨-, -, hless, -⟩ := pagesCount_of_pages "b" c [early]
  rw [htold, hknown] at hmore
  obtain ⟨m, hm, hlargest, hfinal⟩ := hmore ⟨6, List.mem_cons_self, by decide⟩
  have hsix : 6 ≤ m := hlargest 6 List.mem_cons_self
  obtain rfl : m = 6 := by simp at hm; omega
  exact ⟨hfinal, horder _ (List.Perm.swap _ _ _), hless (by decide +kernel)⟩

end Imageboard.Wakaba
