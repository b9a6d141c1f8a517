import Imageboard.Proofs.Calendar.PrintedDate
import Imageboard.Proofs.Rule.Bounds
import Imageboard.Proofs.Site.Erlach
import Imageboard.Proofs.Site.Wakaba.Pages
import Imageboard.Proofs.Text.Search
import Imageboard.Site.Basic

/-! Pages are always read, and nothing leaves its range on the way.

The tables of both sites are sound and none of their handlers fails, so that only a source that
fails keeps a page from being read. What is cut out of the page is inside it (`slices_of_mem_tokens`,
`RuleTable.capturesInRange`), and what the answers compute is what it would be in unbounded numbers:
`answers_exact`. -/
namespace Imageboard
open Text

/-! ### What the answers compute -/

namespace Collector

theorem addSaturating_toNat (a b : UInt32) :
    (addSaturating a b).toNat = min (a.toNat + b.toNat) (UInt32.size - 1) :=
  saturated_toNat _

theorem shownCount_toNat (c : Collector) :
    c.shownCount.toNat =
      min (if c.listing = .threads true then 1 else c.posts.length) (UInt32.size - 1) := by
  unfold shownCount
  split
  · rename_i hlisting
    rw [if_pos hlisting]
    rfl
  · rename_i hlisting
    rw [if_neg hlisting]
    exact saturated_toNat _

end Collector

namespace Wakaba.Reading

theorem pagesTold?_exact {text : String} {pages : UInt32} (h : pagesTold? text = some pages) :
    pagesOf? text = some pages.toNat := by
  rw [pagesTold?_eq] at h
  obtain ⟨n, hn, rfl⟩ := Option.map_eq_some_iff.mp h
  rw [hn, UInt32.toNat_ofNat_of_lt' (lt_of_pagesOf? hn)]

end Wakaba.Reading

namespace Comment

theorem trimEnd_isPrefix (s : List Char) : trimEnd s <+: s := by
  rw [trimEnd, ← List.reverse_suffix, List.reverse_reverse]
  exact List.dropWhile_suffix isBlank

/-- What is left of a comment stands in it: the cut is between two of its characters. -/
theorem withoutAbbreviation_isInfix (comment : String) :
    (withoutAbbreviation comment).toList <:+: comment.toList := by
  have htrim : trim comment.toList <:+: comment.toList :=
    (trimEnd_isPrefix _).isInfix.trans (List.dropWhile_suffix isBlank).isInfix
  unfold withoutAbbreviation
  rw [String.toList_ofList]
  split
  · rename_i before behind hcut
    have hbefore : before <+: trim comment.toList := by
      rw [splitLast?_eq hcut, List.append_assoc]
      exact List.prefix_append _ _
    exact ((trimEnd_isPrefix before).trans hbefore).isInfix.trans htrim
  · exact htrim

end Comment

namespace Erlach.Reading

/-- The thumbnail is told by all but the last four bytes, where a character begins in front of
them. -/
theorem thumbnailOf?_eq_some {src thumbnail : String} :
    thumbnailOf? src = some thumbnail ↔
      ∃ stem ending, src = stem ++ ending ∧ ending.utf8ByteSize = 4 ∧
        thumbnail = stem ++ "-R256.jpg" := by
  unfold thumbnailOf?
  rw [Option.map_eq_some_iff]
  constructor
  · rintro ⟨stem, hstem, rfl⟩
    obtain ⟨ending, hsrc, hlength⟩ := dropLastBytes?_eq_some.mp hstem
    refine ⟨String.ofList stem, String.ofList ending, ?_, ?_, ?_⟩
    · rw [← String.ofList_append, ← hsrc, String.ofList_toList]
    · rw [← byteLength_toList, String.toList_ofList, hlength]
    · rw [String.ofList_append, String.ofList_toList]
  · rintro ⟨stem, ending, rfl, hlength, rfl⟩
    refine ⟨stem.toList, dropLastBytes?_eq_some.mpr ⟨ending.toList, ?_, ?_⟩, ?_⟩
    · rw [String.toList_append]
    · rw [byteLength_toList, hlength]
    · rw [String.ofList_append, String.ofList_toList, String.ofList_toList]

end Erlach.Reading

/-- What the answers of both sites compute, and what it is in numbers without bounds and in texts
that are cut between characters only. -/
structure AnswersExact : Prop where
  /-- The number of pages is one more than the number of the last page. -/
  pages : ∀ text pages, Wakaba.Reading.pagesTold? text = some pages →
    Wakaba.pagesOf? text = some pages.toNat
  milliseconds : ∀ seconds time, Wakaba.Reading.milliseconds? seconds = some time →
    time.toInt = seconds.toInt * 1000
  moment : ∀ text printed, PrintedDate.read? text = some printed →
    (Int64.ofInt printed.moment).toInt = printed.moment
  abbreviation : ∀ comment, (Comment.withoutAbbreviation comment).toList <:+: comment.toList
  thumbnail : ∀ src thumbnail, Erlach.Reading.thumbnailOf? src = some thumbnail ↔
    ∃ stem ending, src = stem ++ ending ∧ ending.utf8ByteSize = 4 ∧
      thumbnail = stem ++ "-R256.jpg"
  /-- Counters stop at the largest number there is. -/
  counted : ∀ a b, (addSaturating a b).toNat = min (a.toNat + b.toNat) (UInt32.size - 1)
  shown : ∀ c : Collector, c.shownCount.toNat =
    min (if c.listing = .threads true then 1 else c.posts.length) (UInt32.size - 1)
  numbers32 : ∀ s n, Numeral.uint32? s = some n → Numeral.natural? 10 UInt32.size s = some n.toNat
  numbers64 : ∀ s n, Numeral.uint64? s = some n → Numeral.natural? 10 UInt64.size s = some n.toNat
  signed64 : ∀ s n, Numeral.int64? s = some n → Numeral.integer? s = some n.toInt

theorem answers_exact : AnswersExact where
  pages _ _ := Wakaba.Reading.pagesTold?_exact
  milliseconds _ _ := Numeral.toInt64?_exact
  moment _ _ := PrintedDate.moment_exact
  abbreviation := Comment.withoutAbbreviation_isInfix
  thumbnail _ _ := Erlach.Reading.thumbnailOf?_eq_some
  counted := Collector.addSaturating_toNat
  shown := Collector.shownCount_toNat
  numbers32 _ _ := Numeral.uint32?_exact
  numbers64 _ _ := Numeral.uint64?_exact
  signed64 _ _ h := by
    obtain ⟨m, hm, hn⟩ := Option.bind_eq_some_iff.mp h
    rw [hm, Numeral.toInt64?_exact hn]

/-! ### Conversions -/

section
variable {source : Source} {page : String}

theorem Wakaba.readPage_ok (h : source.markup = .ok page) (locator : Locator) (board : String)
    (namesFiles : Bool) (listing : Listing) (configuration : Configuration) :
    ∃ c, (Wakaba.readPage locator board namesFiles listing source configuration).1 = .ok c := by
  have hok := Sheet.readWithSheet_ok sheet_sound sheet_neverFails source
    (start locator board namesFiles listing configuration)
  rw [h] at hok
  unfold Wakaba.readPage
  dsimp only
  rw [hok]
  exact ⟨_, rfl⟩

theorem Erlach.readPage_ok (h : source.markup = .ok page) (locator : Locator) (listing : Listing) :
    ∃ c, Erlach.readPage locator listing source = .ok c := by
  have hok := Sheet.readWithSheet_ok sheet_sound sheet_neverFails source (start locator listing)
  rw [h] at hok
  unfold Erlach.readPage
  dsimp only
  rw [hok]
  exact ⟨_, rfl⟩

/-- What a site owes for its pages to be read, whatever they are: its sheet makes a table, no handler
of a rule fails in any state, and what a reading captures is inside the page. -/
structure Sheet.Total (sheet : List (Entry σ)) (page : String) : Prop where
  build : RuleTable.build {} sheet = .ok (Sheet.table sheet)
  neverFails : ∀ rule ∈ (Sheet.table sheet).rules, rule.NeverFails
  captures : (Sheet.table sheet).CapturesInRange page

theorem Sheet.total {sheet : List (Entry σ)} (hs : Sheet.Sound sheet)
    (hf : ∀ e ∈ sheet, e.NeverFails) (page : String) : Sheet.Total sheet page where
  build := Sheet.build_eq hs
  neverFails := Sheet.each_of_sheet hf
  captures := RuleTable.capturesInRange _ page

/-- **Every page is converted**, whatever its markup, unless its source fails: for both sites and all
that may be asked of them, with any site address and any configuration. The tables are made, no
handler fails in any state of a reading, what tokens and captures take is cut out of the page between
two of its characters, captures are never closed more often than they are opened, and what the
answers compute is exact. -/
theorem readPage_converts (h : source.markup = .ok page) :
    (∀ (site : Site) locator board mode configuration,
      ∃ c, (site.readPage locator board mode source configuration).1 = .ok c) ∧
    (∀ locator board namesFiles listing configuration,
      ∃ c, (Wakaba.readPage locator board namesFiles listing source configuration).1 = .ok c) ∧
    (∀ locator listing, ∃ c, Erlach.readPage locator listing source = .ok c) ∧
    (∀ t ∈ tokens {} page.toList, t.start < t.stop ∧ t.stop ≤ page.utf8ByteSize ∧
      t.token.MadeOf {} (t.CutsOut page)) ∧
    Sheet.Total Wakaba.sheet page ∧ Sheet.Total Erlach.sheet page ∧ AnswersExact := by
  refine ⟨fun site locator board mode configuration => ?site, Wakaba.readPage_ok h,
    Erlach.readPage_ok h, fun _ => slices_of_mem_tokens,
    Sheet.total Wakaba.sheet_sound Wakaba.sheet_neverFails page,
    Sheet.total Erlach.sheet_sound Erlach.sheet_neverFails page, answers_exact⟩
  case site =>
    cases site with
    | wakaba => exact Wakaba.readPage_ok h locator board true _ configuration
    | erlach => exact Erlach.readPage_ok h locator _

/-- A page that is cut off in a tag, from a source that has not failed. -/
theorem page_cut_off_converted :
    (Source.text "<div class=\"message").markup = .ok "<div class=\"message" ∧
      ∀ (site : Site) locator board mode configuration, ∃ c,
        (site.readPage locator board mode (.text "<div class=\"message") configuration).1 = .ok c := by
  have hmarkup : (Source.text "<div class=\"message").markup = .ok "<div class=\"message" := rfl
  exact ⟨hmarkup, (readPage_converts hmarkup).1⟩

end

end Imageboard
