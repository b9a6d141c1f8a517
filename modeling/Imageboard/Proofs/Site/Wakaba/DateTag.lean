import Imageboard.Proofs.Charset.Utf8
import Imageboard.Proofs.Rule.Element
import Imageboard.Proofs.Site.Wakaba.Dates

/-! Pages that differ in the value of a date.

A date that the tag tells keeps its content from being read, and any other value has it read. In
either case the page goes on behind the tag with some date for the post in progress
(`read_behind_date`), so that two pages with two values come to the same but for the date of one post:
`readPage_of_dates`. -/
namespace Imageboard.Wakaba
open Collector (Step fresh pushed RedatedAt)
open Reading

/-- A page with a date outside all content is read from behind the tag, with some date for the post
in progress. -/
theorem read_behind_date {page front written behind : List Char} {attributes : Attributes}
    {selfClosing : Bool}
    (h : DividedBy {} page front written behind (.openTag "span" attributes selfClosing))
    (hclass : attributes.get? "class" = some "posterdate")
    (hclosed : ClosedAfterText "span" (tokens {} behind)) {s r : Reading}
    (hfront : outcome ((Sheet.table sheet).steps front none (tokens {} front)) s = (.ok none, r)) :
    ∃ moment, readWithSheet sheet (.text (String.ofList page)) s =
      readWithSheet sheet (.text (String.ofList behind)) (r.modifyPost (Post.dated moment)) := by
  have hrule : (Sheet.table sheet).rules[14]? =
      some (.asking (.equals "span" "class" "posterdate") date printedDate) := rfl
  have hmatches : (TagPattern.equals "span" "class" "posterdate").matchesTag "span" attributes =
      true := by
    simp [TagPattern.matchesTag, TagPattern.tag, TagPattern.matchesAttributes, hclass]
  have hfirst := RuleTable.firstRule?_of_apart hrule rfl hmatches
  have hfails := Sheet.each_of_sheet sheet_neverFails _ (List.mem_of_getElem? hrule)
  have h : DividedBy (Sheet.table sheet).options page front written behind
      (.openTag "span" attributes selfClosing) := h
  obtain ⟨v, hv, -, -, hmade, hrun⟩ := RuleTable.run_divided h hfirst hfails hclosed hfront
  obtain ⟨moment, happly⟩ : ∃ moment,
      v.apply (Sheet.table sheet) r = r.modifyPost (Post.dated moment) := by
    rcases Visit.apply_asking hmade rfl (hv ▸ hrule) with ⟨-, heq⟩ | ⟨text, -, -, heq⟩
    · exact ⟨_, heq⟩
    · exact ⟨_, heq.trans (modifyPost_dated r _ _)⟩
  rw [happly] at hrun
  refine ⟨moment, ?_⟩
  rw [Sheet.readWithSheet_of_markup sheet_sound rfl, Sheet.readWithSheet_of_markup sheet_sound rfl,
    String.toList_ofList, String.toList_ofList, hrun]

/-- A page has the tag of a date behind `front`, with `value` for the moment: outside all content,
and with nothing but text in it. The reading `s` has come to `r` there. -/
structure DateTag (s : Reading) (front lead value rest : List Char) (tag : Located) (r : Reading) :
    Prop where
  quoted : QuotedValue "data-timestamp" lead value rest
  start : tag.start = Text.byteLength front
  opens : ∃ attributes selfClosing, tag.token = .openTag "span" attributes selfClosing ∧
    attributes.get? "class" = some "posterdate"
  outside : ∃ before later,
    tokens {} (front ++ (lead ++ (value ++ '"' :: rest))) = before ++ tag :: later ∧
    ClosedAfterText "span" later ∧
    outcome ((Sheet.table sheet).steps (front ++ (lead ++ (value ++ '"' :: rest))) none before) s =
      (.ok none, r)

/-- Another value for the moment changes nothing but the date that the page gives the post in
progress. -/
theorem DateTag.redated {s r : Reading} {front lead value value' rest : List Char} {tag : Located}
    (h : DateTag s front lead value rest tag r) (hvalue' : '"' ∉ value')
    (hstill : ('\'' ∈ value' → '\'' ∈ lead ++ (value ++ '"' :: rest)) ∨
      HasTagAt {} (front ++ (lead ++ (value' ++ '"' :: rest))) (Text.byteLength front)) :
    ∃ behind moment moment',
      Text.dropBytes tag.stop (front ++ (lead ++ (value ++ '"' :: rest))) = behind ∧
      readWithSheet sheet (.text (String.ofList (front ++ (lead ++ (value ++ '"' :: rest))))) s =
        readWithSheet sheet (.text (String.ofList behind)) (r.modifyPost (Post.dated moment)) ∧
      readWithSheet sheet (.text (String.ofList (front ++ (lead ++ (value' ++ '"' :: rest))))) s =
        readWithSheet sheet (.text (String.ofList behind)) (r.modifyPost (Post.dated moment')) ∧
      ∃ steps, r.collector = s.collector.run steps := by
  obtain ⟨attributes, selfClosing, htag, hclass⟩ := h.opens
  obtain ⟨before, later, htokens, hclosed, hopen⟩ := h.outside
  obtain ⟨rfl, written, written', behind, attributes', hdivided, hdivided', hagree⟩ :=
    h.quoted.divided hvalue' htokens htag h.start (by decide) hstill
  rw [hdivided.page_eq] at hopen
  have hfront := (RuleTable.steps_tokens_append (Sheet.table sheet) front (written ++ behind)
    s).symm.trans hopen
  have hrest := htokens.symm.trans hdivided.tokens_eq
  obtain ⟨htagEq, hlater⟩ := List.cons.inj (List.append_cancel_left hrest)
  have hclosed' : ClosedAfterText "span" (tokens {} behind) :=
    closedAfterText_shifted.mp (hlater ▸ hclosed)
  have hclass' : attributes'.get? "class" = some "posterdate" :=
    (hagree "class" (by decide)).trans hclass
  obtain ⟨moment, hread⟩ := read_behind_date hdivided hclass hclosed' hfront
  obtain ⟨moment', hread'⟩ := read_behind_date hdivided' hclass' hclosed' hfront
  refine ⟨behind, moment, moment', ?_, hread, hread', ?_⟩
  · rw [hdivided.page_eq, htagEq, ← List.append_assoc, ← Text.byteLength_append,
      Text.dropBytes_append]
  · have hrun := RuleTable.run_of_steps hfront
    have hend := Sheet.readWithSheet_state sheet_sound (.text (String.ofList front)) s
    rw [Sheet.readWithSheet_of_markup sheet_sound rfl, String.toList_ofList, hrun] at hend
    exact ⟨_, hend ▸ chronicle.collector_stateAt _ (Nat.le_refl _)⟩

theorem readPage_of_markup {locator : Locator} {board : String} {namesFiles : Bool}
    {listing : Listing} {configuration : Configuration} {source : Source} {markup : String}
    (h : source.markup = .ok markup) :
    let r := (readWithSheet sheet (.text markup)
      (start locator board namesFiles listing configuration)).2
    readPage locator board namesFiles listing source configuration =
      (.ok r.collector, r.configuration) := by
  have htext : (Source.text markup).markup = .ok markup := rfl
  have hok := Sheet.readWithSheet_ok sheet_sound sheet_neverFails source
    (start locator board namesFiles listing configuration)
  have hread := (Sheet.readWithSheet_of_markup sheet_sound h
    (start locator board namesFiles listing configuration)).trans
      (Sheet.readWithSheet_of_markup sheet_sound htext _).symm
  rw [h] at hok
  unfold readPage
  rw [← hread]
  exact Prod.ext (congrArg (Except.map _) hok) rfl

/-- **A page tells the same whatever it has for a date.** Two pages that differ in the value between
the quotes of a date are both read to the end, and leave the same configuration. They have the same
posts in the same threads, and at most one of the posts has another date: the one that was in
progress at the date, where it is completed. The date has nothing but text in it and stands outside
all content, and it is still read as a tag with the other value, which no value without a single
quote can prevent. -/
theorem readPage_of_dates {locator : Locator} {board : String} {namesFiles : Bool} {listing : Listing}
    {configuration : Configuration} {front lead value value' rest : List Char}
    {source source' : Source} {tag : Located} {r : Reading}
    (hsource : source.markup = .ok (String.ofList (front ++ (lead ++ (value ++ '"' :: rest)))))
    (hsource' : source'.markup = .ok (String.ofList (front ++ (lead ++ (value' ++ '"' :: rest)))))
    (hdate : DateTag (start locator board namesFiles listing configuration) front lead value rest tag r)
    (hvalue' : '"' ∉ value')
    (hstill : ('\'' ∈ value' → '\'' ∈ lead ++ (value ++ '"' :: rest)) ∨
      HasTagAt {} (front ++ (lead ++ (value' ++ '"' :: rest))) (Text.byteLength front)) :
    ∃ c c' left,
      readPage locator board namesFiles listing source configuration = (.ok c, left) ∧
      readPage locator board namesFiles listing source' configuration = (.ok c', left) ∧
      (c' = c ∨
        completesPost (.text (String.ofList
          (Text.dropBytes tag.stop (front ++ (lead ++ (value ++ '"' :: rest)))))) r = true ∧
        RedatedAt r.collector.allPosts.length c c') := by
  obtain ⟨behind, moment, moment', hbehind, hread, hread', steps, hcollector⟩ :=
    hdate.redated hvalue' hstill
  have hredated : Redated (r.modifyPost (Post.dated moment)) (r.modifyPost (Post.dated moment')) :=
    ⟨moment', (modifyPost_dated r moment moment').symm⟩
  rw [readPage_of_markup hsource, readPage_of_markup hsource', hread, hread']
  refine ⟨_, _, _, rfl, Prod.ext rfl ?_, ?_⟩
  · exact (read_oneDate _ (.inl hredated)).2.2.configuration
  · have hfresh : (r.modifyPost (Post.dated moment)).collector = (fresh listing).run steps :=
      hcollector
    have hcount : (pushed steps).length = r.collector.allPosts.length := by
      rw [← Collector.allPosts_fresh listing steps, ← hfresh]
      rfl
    rw [hbehind, ← hcount]
    refine (read_redated hfresh hredated).imp_right fun ⟨hcompletes, hposts⟩ => ⟨?_, hposts⟩
    rwa [completesPost_redated ⟨moment, rfl⟩] at hcompletes

section
open Markup Charset

/-- A date as boards write it, with no element in it. -/
theorem dateTag_of_tokens {s r : Reading} {front value rest : List Char} {before later : List Located}
    {attributes : Attributes} {content : String} {stop stop' stop'' : Nat} (hvalue : '"' ∉ value)
    (htokens : tokens {} (front ++ ("<span class=\"posterdate\" data-timestamp=\"".toList ++
        (value ++ '"' :: rest))) =
      before ++ ⟨.openTag "span" attributes false, Text.byteLength front, stop⟩ ::
        ⟨.text content, stop, stop'⟩ :: ⟨.closeTag "span", stop', stop''⟩ :: later)
    (hclass : attributes.get? "class" = some "posterdate")
    (hopen : outcome ((Sheet.table sheet).steps
      (front ++ ("<span class=\"posterdate\" data-timestamp=\"".toList ++ (value ++ '"' :: rest))) none
        before) s = (.ok none, r)) :
    DateTag s front "<span class=\"posterdate\" data-timestamp=\"".toList value rest
      ⟨.openTag "span" attributes false, Text.byteLength front, stop⟩ r where
  quoted := by
    have hrun : AttributeRun
        (' ' :: ("class".toList ++ '=' :: '"' :: ("posterdate".toList ++ '"' :: [' ']))) :=
      .space rfl (.quoted ⟨by decide, List.all_eq_true.mp rfl⟩ (.inl rfl) (by decide)
        (.space rfl .nil))
    have hname : ∀ c ∈ "span".toList, isNameCharacter c = true := List.all_eq_true.mp rfl
    have hkey : IsKey "data-timestamp".toList := ⟨by decide, List.all_eq_true.mp rfl⟩
    exact QuotedValue.ofRun hname rfl hrun hkey hvalue rest
  start := rfl
  opens := ⟨attributes, false, rfl, hclass⟩
  outside := by
    refine ⟨before, _, htokens, ⟨[_], _, later, rfl, ?_, rfl⟩, hopen⟩
    intro t ht
    rw [List.mem_singleton.mp ht]
    exact ⟨content, rfl⟩

/-- The date of a reply, as a number and as none. -/
theorem readPage_of_dates_of_reply :
    let locator : Locator :=
      ⟨⟨"https", some ⟨"", "", "board.example", none⟩, .segments [""], none, none⟩, .inr rfl⟩
    let front := "<td id=\"reply1\">".toList
    let lead := "<span class=\"posterdate\" data-timestamp=\"".toList
    let rest := ">d</span><div class=\"message\">a</div>".toList
    let page (value : List Char) := front ++ (lead ++ (value ++ '"' :: rest))
    let s := start locator "b" true (.threads false) {}
    ∃ tag r c c' left,
      DateTag s front lead ['5'] rest tag r ∧ completesPost (.text (String.ofList
        (Text.dropBytes tag.stop (page ['5'])))) r = true ∧
      readPage locator "b" true (.threads false) (.text (String.ofList (page ['5']))) {} =
        (.ok c, left) ∧
      readPage locator "b" true (.threads false) (.text (String.ofList (page ['x']))) {} =
        (.ok c', left) ∧
      (c' = c ∨ completesPost (.text (String.ofList
        (Text.dropBytes tag.stop (page ['5'])))) r = true ∧
        RedatedAt r.collector.allPosts.length c c') := by
  intro locator front lead rest page s
  have htokens : tokens {} (page ['5']) =
      [⟨.openTag "td" (.ofList [("id", "reply1")]) false, 0, 16⟩] ++
      ⟨.openTag "span" (.ofList [("class", "posterdate"), ("data-timestamp", "5")]) false, 16, 60⟩ ::
        ⟨.text "d", 60, 61⟩ :: ⟨.closeTag "span", 61, 68⟩ ::
        [⟨.openTag "div" (.ofList [("class", "message")]) false, 68, 89⟩, ⟨.text "a", 89, 90⟩,
          ⟨.closeTag "div", 90, 96⟩] := by
    decide +kernel
  have hmarkup (value : List Char) :
      (Source.text (String.ofList (page value))).markup = .ok (String.ofList (page value)) := rfl
  have hdate : DateTag s front lead ['5'] rest _ _ :=
    dateTag_of_tokens (by decide) htokens (by decide +kernel) rfl
  obtain ⟨c, c', left, h⟩ :=
    readPage_of_dates (hmarkup ['5']) (hmarkup ['x']) hdate (by decide) (.inl (by decide))
  exact ⟨_, _, c, c', left, hdate, by decide +kernel, h⟩

/-- What a value can do beyond its tag: it closes a quote that has been left open in front of the tag,
or it is found where the charset of a page in bytes is looked for. -/
theorem value_beyond_its_tag :
    let locator : Locator :=
      ⟨⟨"https", some ⟨"", "", "board.example", none⟩, .segments [""], none, none⟩, .inr rfl⟩
    let front := "<td id=\"reply1\">".toList
    let unclosed := "<b title='>".toList ++ front
    let lead := "<span class=\"posterdate\" data-timestamp=\"".toList
    let rest := ">d</span><div class=\"message\">é</div>".toList
    let rest' := ">d</span><div class=\"message\">\uf7c3\uf7a9</div>".toList
    let charset := "<meta charset=x-user-defined>".toList
    let page (front value rest : List Char) := String.ofList (front ++ (lead ++ (value ++ '"' :: rest)))
    let s := start locator "b" true .posts {}
    let comments (source : Source) : Option (List (Option String)) :=
      (readPage locator "b" true .posts source {}).1.toOption.map (·.allPosts.map (·.comment))
    (∃ tag r, DateTag s unclosed lead [] rest tag r) ∧
      comments (.text (page unclosed [] rest)) = some [some "é"] ∧
      comments (.text (page unclosed ['\''] rest)) = some [] ∧
    (∃ tag r, DateTag s front lead [] rest tag r) ∧
      (Source.bytes (utf8Bytes (page front charset rest))).markup.toOption =
        some (page front charset rest') ∧
      (∃ tag r, DateTag s front lead charset rest' tag r) ∧
      comments (.bytes (utf8Bytes (page front [] rest))) = some [some "é"] ∧
      comments (.bytes (utf8Bytes (page front charset rest))) = some [some "\uf7c3\uf7a9"] := by
  intro locator front unclosed lead rest rest' charset page s comments
  have htokens : tokens {} (unclosed ++ (lead ++ ([] ++ '"' :: rest))) =
      [⟨.openTag "b" (.ofList [("title", "")]) false, 0, 11⟩,
        ⟨.openTag "td" (.ofList [("id", "reply1")]) false, 11, 27⟩] ++
      ⟨.openTag "span" (.ofList [("class", "posterdate"), ("data-timestamp", "")]) false, 27, 70⟩ ::
        ⟨.text "d", 70, 71⟩ :: ⟨.closeTag "span", 71, 78⟩ ::
        [⟨.openTag "div" (.ofList [("class", "message")]) false, 78, 99⟩, ⟨.text "é", 99, 101⟩,
          ⟨.closeTag "div", 101, 107⟩] := by
    decide +kernel
  have htokens' : tokens {} (front ++ (lead ++ ([] ++ '"' :: rest))) =
      [⟨.openTag "td" (.ofList [("id", "reply1")]) false, 0, 16⟩] ++
      ⟨.openTag "span" (.ofList [("class", "posterdate"), ("data-timestamp", "")]) false, 16, 59⟩ ::
        ⟨.text "d", 59, 60⟩ :: ⟨.closeTag "span", 60, 67⟩ ::
        [⟨.openTag "div" (.ofList [("class", "message")]) false, 67, 88⟩, ⟨.text "é", 88, 90⟩,
          ⟨.closeTag "div", 90, 96⟩] := by
    decide +kernel
  have htokens'' : tokens {} (front ++ (lead ++ (charset ++ '"' :: rest'))) =
      [⟨.openTag "td" (.ofList [("id", "reply1")]) false, 0, 16⟩] ++
      ⟨.openTag "span" (.ofList [("class", "posterdate"),
          ("data-timestamp", "<meta charset=x-user-defined>")]) false, 16, 88⟩ ::
        ⟨.text "d", 88, 89⟩ :: ⟨.closeTag "span", 89, 96⟩ ::
        [⟨.openTag "div" (.ofList [("class", "message")]) false, 96, 117⟩,
          ⟨.text "\uf7c3\uf7a9", 117, 123⟩, ⟨.closeTag "div", 123, 129⟩] := by
    decide +kernel
  exact ⟨⟨_, _, dateTag_of_tokens (by decide) htokens (by decide +kernel) rfl⟩,
    by decide +kernel, by decide +kernel,
    ⟨_, _, dateTag_of_tokens (by decide) htokens' (by decide +kernel) rfl⟩, by decide +kernel,
    ⟨_, _, dateTag_of_tokens (by decide) htokens'' (by decide +kernel) rfl⟩,
    by decide +kernel, by decide +kernel⟩

end

end Imageboard.Wakaba
