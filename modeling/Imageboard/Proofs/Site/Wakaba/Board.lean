import Imageboard.Proofs.Configuration
import Imageboard.Proofs.Site.Wakaba.Leftovers

/-! What a wakaba page tells of its board.

The number of pages and the title of a board are kept beside the posts, and no mark looks at them
but the one that would raise the number. A page therefore comes to the same whatever is known of its
board (`sheet_samePage`), and it changes these two values only:
`readPage_apart_from_configuration`. -/
namespace Imageboard.Wakaba
open Imageboard.Configuration (Key.pagesCount Key.boardTitle)
open Reading

/-! ### Readings that differ in what is known of the board -/

/-- A reading that knows nothing of the board. -/
def Reading.forgetBoard (r : Reading) : Reading := { r with configuration := {}, pagesCount := 0 }

/-- The two readings differ at most in what they know of the board. -/
def SamePage (r s : Reading) : Prop := r.forgetBoard = s.forgetBoard

/-- A change that does not look at what is known of the board, whether or not it adds to that. -/
def Blind (change : Reading → Reading) : Prop :=
  ∀ r, (change r).forgetBoard = (change r.forgetBoard).forgetBoard

section
variable {r s : Reading}

theorem Blind.keeps {change : Reading → Reading} (h : Blind change) (hrs : SamePage r s) :
    SamePage (change r) (change s) := by
  have hrs : r.forgetBoard = s.forgetBoard := hrs
  unfold SamePage
  rw [h r, h s, hrs]

theorem SamePage.collector_eq (h : SamePage r s) : r.collector = s.collector := by
  have h : r.forgetBoard = s.forgetBoard := h
  show r.forgetBoard.collector = s.forgetBoard.collector
  rw [h]

theorem atTag_samePage {change : Attributes → Reading → Reading} (h : ∀ a, Blind (change a)) :
    (Entry.atTag change).Keeps SamePage :=
  Entry.atTag_keeps.mpr fun a _ _ hrs => (h a).keeps hrs

theorem atContent_samePage {change : String → Reading → Reading} (h : ∀ text, Blind (change text)) :
    (Entry.atContent change).Keeps SamePage :=
  Entry.atContent_keeps.mpr fun text _ _ hrs => (h text).keeps hrs

theorem askAtTag_samePage {change : Attributes → Reading → Bool × Reading}
    (hanswer : ∀ a r, (change a r).1 = (change a r.forgetBoard).1)
    (h : ∀ a, Blind fun r => (change a r).2) : (Entry.askAtTag change).Keeps SamePage := by
  refine Entry.askAtTag_keeps.mpr fun a r s hrs => ⟨?_, (h a).keeps hrs⟩
  have hrs : r.forgetBoard = s.forgetBoard := hrs
  rw [hanswer a r, hanswer a s, hrs]

end

theorem checkbox_blind (attributes : Attributes) : Blind (checkbox attributes) := by
  intro r
  by_cases h : (attributes.get? "type" != some "checkbox" || r.post.any (·.number.isSome)) = true
  · simp only [checkbox, forgetBoard, h, if_true]
  · simp only [checkbox, forgetBoard, h, Bool.false_eq_true, if_false, postOrNew]

theorem message_blind (comment : String) : Blind (message comment) := by
  intro r
  cases h : r.post with
  | none => simp only [message, forgetBoard, h]
  | some post => simp only [message, forgetBoard, h]

theorem omittedPosts_blind (text : String) : Blind (omittedPosts text) := by
  intro r
  unfold omittedPosts
  cases Counter.read? text <;> rfl

theorem country_blind (attributes : Attributes) : Blind (country attributes) := by
  intro r
  simp only [country, forgetBoard]
  cases attributes.get? "title" with
  | none => rfl
  | some title => cases (attributes.get? "src").bind r.locator.address? <;> rfl

theorem link_forgetBoard (attributes : Attributes) (r : Reading) :
    link attributes r.forgetBoard =
      ((link attributes r).1, (link attributes r).2.forgetBoard) := by
  have hfile (href : String) : linkedFile? href r.forgetBoard = linkedFile? href r := rfl
  have hreflink : r.forgetBoard.reflink = r.reflink := rfl
  simp only [link, hfile, hreflink]
  cases r.reflink with
  | true =>
    simp only [if_true, followReflink]
    cases Locator.threadNumber? (attributes.getD "href") <;> rfl
  | false =>
    cases linkedFile? (attributes.getD "href") r with
    | some file => rfl
    | none => cases Text.endsWith ".html" (attributes.getD "href") <;> rfl

theorem pageLink_forgetBoard (text : String) (r : Reading) :
    (pageLink text r).forgetBoard = r.forgetBoard := by
  obtain ⟨pages, configuration, heq⟩ := pageLink_eq text r
  rw [heq]
  rfl

theorem linkText_blind (text : String) : Blind (linkText text) := by
  intro r
  have huse : r.forgetBoard.linkUse = r.linkUse := rfl
  unfold linkText
  rw [huse]
  cases r.linkUse with
  | none => rfl
  | some use =>
    cases use with
    | uploadName => rfl
    | pageNumber =>
      show (pageLink text _).forgetBoard = (pageLink text _).forgetBoard
      rw [pageLink_forgetBoard, pageLink_forgetBoard]
      rfl

theorem logo_blind (text : String) : Blind (logo text) := by
  intro r
  simp only [logo, forgetBoard]

/-- No mark of a page depends on what is known of the board. -/
theorem sheet_samePage : ∀ e ∈ sheet, e.Keeps SamePage := by
  simp only [sheet, List.forall_mem_cons, List.not_mem_nil, false_implies, implies_true, and_true,
    Entry.each_name, Entry.each_equals, Entry.each_startsWith, Entry.each_endsWith, true_and]
  refine ⟨?checkbox, ?reply, ?fileSize, ?link, ?linkText, ?thumbnail, ?video, ?noThumbnail, ?subject,
    ?country, ?identifier, ?capcode, ?posterName, ?tripcode, ?date, ?printedDate, ?message,
    ?omittedPosts, ?logo, ?reflinkMark, ?sticky, ?cyclical⟩
  case checkbox => exact atTag_samePage checkbox_blind
  case message => exact atContent_samePage message_blind
  case omittedPosts => exact atContent_samePage omittedPosts_blind
  case country => exact atTag_samePage country_blind
  case link =>
    refine askAtTag_samePage (fun a r => ?_) fun a r => ?_
    · rw [link_forgetBoard]
    · show (link a r).2.forgetBoard = (link a r.forgetBoard).2.forgetBoard
      rw [link_forgetBoard]
      rfl
  case linkText => exact atContent_samePage linkText_blind
  case logo => exact atContent_samePage logo_blind
  case date => exact askAtTag_samePage (fun _ _ => rfl) fun _ _ => rfl
  case reply | fileSize | thumbnail | video | noThumbnail | reflinkMark | sticky | cyclical =>
    exact atTag_samePage fun _ _ => rfl
  all_goals exact atContent_samePage fun _ _ => rfl

/-! ### What is known of the board -/

/-- The configuration, and the number of pages that is kept beside it. -/
def Reading.known (r : Reading) : Configuration × UInt32 := (r.configuration, r.pagesCount)

/-- The text of a link to a page. -/
def pageLinkText? (r : Reading) (v : Visit) : Option String :=
  if isLink v ∧ (link v.attributes r).2.linkUse = some .pageNumber then v.content else none

/-- All that a tag can tell of the board: nothing, a number of pages, or a title. -/
inductive Tells (v : Visit) (r : Reading) : Configuration × UInt32 → Prop where
  | nothing (h : pageLinkText? r v = none) : Tells v r r.known
  | pages (text : String) (h : pageLinkText? r v = some text) : Tells v r (pageLink text r).known
  | title (text : String) (h : pageLinkText? r v = none) : Tells v r (logo text r).known

theorem pageLink_known {r s : Reading} (hknown : s.known = r.known) (hboard : s.board = r.board)
    (text : String) : (pageLink text s).known = (pageLink text r).known := by
  obtain ⟨hconfiguration, hpages⟩ := Prod.mk.inj hknown
  unfold pageLink
  cases pagesTold? text with
  | none => exact hknown
  | some pages =>
    dsimp only
    rw [hpages, hconfiguration, hboard]
    split
    · rfl
    · exact hknown

/-- The tag of a link tells nothing of the board; only the text of the link may. -/
theorem link_known (attributes : Attributes) (r : Reading) :
    (link attributes r).2.known = r.known ∧ (link attributes r).2.board = r.board := by
  unfold link
  dsimp only
  cases r.reflink with
  | true =>
    obtain ⟨f, hf, -⟩ :=
      followReflink_eq (attributes.getD "href") { r with reflink := false, linkUse := none }
    rw [if_pos rfl, hf]
    exact ⟨rfl, rfl⟩
  | false =>
    rw [if_neg Bool.false_ne_true]
    cases linkedFile? (attributes.getD "href") r with
    | some file => exact ⟨rfl, rfl⟩
    | none =>
      dsimp only
      split <;> exact ⟨rfl, rfl⟩

theorem checkbox_known (attributes : Attributes) (r : Reading) :
    (checkbox attributes r).known = r.known := by
  unfold checkbox
  split <;> rfl

theorem message_known (comment : String) (r : Reading) : (message comment r).known = r.known := by
  unfold message
  split <;> rfl

theorem omittedPosts_known (text : String) (r : Reading) :
    (omittedPosts text r).known = r.known := by
  unfold omittedPosts
  split <;> rfl

theorem logo_known (text : String) (r : Reading) :
    (logo text r).known =
      (r.configuration.storeBoardTitle r.board (Comment.plainText text), r.pagesCount) := by
  simp only [logo, known]

theorem linkText_known (text : String) (r : Reading) :
    (linkText text r).known =
      if r.linkUse = some .pageNumber then (pageLink text r).known else r.known := by
  unfold linkText
  cases r.linkUse with
  | none => rfl
  | some use =>
    cases use with
    | uploadName => rfl
    | pageNumber =>
      rw [if_pos rfl]
      refine pageLink_known ?_ ?_ text <;> rfl

/-- Of all marks, only the text of a link and the logo tell something of the board. -/
theorem known_apply {v : Visit} {r : Reading} (hv : v.MadeIn (Sheet.table sheet) r) :
    Tells v r (v.apply (Sheet.table sheet) r).known := by
  have hother (h : v.rule ≠ 3) : pageLinkText? r v = none :=
    if_neg fun hlink => h ((isLink_iff hv).mp hlink.1)
  obtain ⟨hknown, hboard⟩ := link_known v.attributes r
  have hanswer := answer_of_made hv
  generalize v.apply (Sheet.table sheet) r = r' at hanswer ⊢
  cases hanswer with
  | link h hno =>
    have huse : (link v.attributes r).2.linkUse ≠ some .pageNumber := by
      rw [(link_linked hno).rest]
      nofun
    rw [hknown]
    exact .nothing (if_neg fun hlink => huse hlink.2)
  | linkText h hyes text hc =>
    rw [linkText_known]
    by_cases huse : (link v.attributes r).2.linkUse = some .pageNumber
    · rw [if_pos huse, pageLink_known hknown hboard]
      exact .pages text ((if_pos ⟨(isLink_iff hv).mpr h, huse⟩).trans hc)
    · rw [if_neg huse, hknown]
      exact .nothing (if_neg fun hlink => huse hlink.2)
  | logo h text => exact .title text (hother (by omega))
  | checkbox h =>
    rw [checkbox_known]
    exact .nothing (hother (by omega))
  | message h comment =>
    rw [message_known]
    exact .nothing (hother (by omega))
  | omittedPosts h text =>
    rw [omittedPosts_known]
    exact .nothing (hother (by omega))
  | head h => exact .nothing (hother (ne_of_mem_headRules h (by decide)))
  | reply h | fileSize h | thumbnail h | video h | noThumbnail h | reflinkMark h =>
    exact .nothing (hother (by omega))

/-- Whether a value is one of the two that a page may change: the number of pages of its board, and
the title of the board. -/
def ToldOf (board : String) (scope : Scope) (key : String) : Prop :=
  scope = .board board ∧ (key = Key.pagesCount ∨ key = Key.boardTitle)

theorem get?_apply {v : Visit} {r : Reading} (hv : v.MadeIn (Sheet.table sheet) r) {scope : Scope}
    {key : String} (hother : ¬ToldOf r.board scope key) :
    (v.apply (Sheet.table sheet) r).configuration.get? scope key =
      r.configuration.get? scope key := by
  have htells := known_apply hv
  show (v.apply (Sheet.table sheet) r).known.1.get? scope key = r.configuration.get? scope key
  generalize (v.apply (Sheet.table sheet) r).known = known at htells ⊢
  cases htells with
  | nothing => rfl
  | pages text =>
    show (pageLink text r).configuration.get? scope key = r.configuration.get? scope key
    unfold pageLink
    cases pagesTold? text with
    | none => rfl
    | some pages =>
      dsimp only
      split
      · exact Configuration.get?_storePagesCount _ _ (fun h => hother ⟨h.1, .inl h.2⟩) pages
      · rfl
  | title text =>
    rw [logo_known, Configuration.get?_storeBoardTitle _ _ fun h => hother ⟨h.1, .inr h.2⟩]

section
variable (locator : Locator) (board : String) (namesFiles : Bool) (listing : Listing)
  (source : Source) (c c' : Configuration)

theorem start_samePage : SamePage (start locator board namesFiles listing c)
    (start locator board namesFiles listing c') := rfl

/-- **A page and what is known of its board.** A page comes to the same whatever configuration it is
read with, and it leaves the configuration as it was but for the number of pages of its board and
the title of the board. -/
theorem readPage_apart_from_configuration :
    (readPage locator board namesFiles listing source c).1 =
        (readPage locator board namesFiles listing source c').1 ∧
      ∀ scope key, ¬ToldOf board scope key →
        (readPage locator board namesFiles listing source c).2.get? scope key =
          c.get? scope key := by
  constructor
  · obtain ⟨hresult, hstates⟩ := Sheet.readWithSheet_alike_of_all sheet_sound sheet_samePage source
      (start_samePage locator board namesFiles listing c c')
    have hcollector := hstates.collector_eq
    unfold readPage
    dsimp only
    rw [hresult, hcollector]
  · intro scope key hother
    let r := start locator board namesFiles listing c
    show (readWithSheet sheet source r).2.configuration.get? scope key = c.get? scope key
    rw [Sheet.readWithSheet_state sheet_sound]
    refine Sheet.stateAt_induction
      (P := fun _ (s : Reading) => s.configuration.get? scope key = c.get? scope key) rfl
      (fun n v hv ih => ?_) _ (Nat.le_refl _)
    -- The board of a reading stays the same, so what may change does too.
    have hboard : (stateAt source r n).board = board :=
      (settled_stateAt rfl n (Nat.le_of_lt (List.getElem?_eq_some_iff.mp hv).1)).board
    rw [get?_apply (visits_made hv) (hboard.symm ▸ hother)]
    exact ih

end

/-- A page that tells both. -/
theorem page_with_title_and_link :
    let locator : Locator :=
      ⟨⟨"https", some ⟨"", "", "board.example", none⟩, .segments [""], none, none⟩, .inr rfl⟩
    let page : Source := .text "<div class=\"logo\">Random</div><a href=\"1.html\">1</a>"
    let c := ({} : Configuration).storePagesCount "a" 4
    let read := readPage locator "b" true .posts page
    (read c).1 = (read {}).1 ∧
      (read c).2.get? (.board "a") Key.pagesCount = c.get? (.board "a") Key.pagesCount ∧
      (read c).2.pagesCount? "b" = some 2 ∧ (read c).2.boardTitle? "b" = some "Random" := by
  intro locator page c read
  obtain ⟨hposts, hvalues⟩ :=
    readPage_apart_from_configuration locator "b" true .posts page c {}
  have hother : ¬ToldOf "b" (.board "a") Key.pagesCount := fun h => absurd h.1 (by decide)
  exact ⟨hposts, hvalues _ _ hother, by decide +kernel, by decide +kernel⟩

end Imageboard.Wakaba
