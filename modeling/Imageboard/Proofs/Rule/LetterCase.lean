import Mathlib.Data.List.Forall2
import Imageboard.Proofs.Markup.Recased
import Imageboard.Proofs.Rule.Sheet

/-! Tables do not tell the case of letters in names.

Of a page a table takes its tokens, and the text that it hands to content handlers. Where these do
not look at it, pages with the same tokens are read the same: `runOn_of_tokens`. So a page may write
its names in any case, and so may the sheet of the table. -/
namespace Imageboard
open Text

/-- Whatever the content is, the handler does the same. -/
def ContentHandler.IgnoresContent (handler : ContentHandler σ) : Prop :=
  ∀ a b, handler a = handler b

abbrev Rule.IgnoresContent : Rule σ → Prop :=
  Rule.Each (fun _ => True) ContentHandler.IgnoresContent

abbrev Entry.IgnoresContent : Entry σ → Prop :=
  Entry.Each (fun _ => True) ContentHandler.IgnoresContent

/-! ### Pages with the same tokens -/

/-- Where an element ends, and whether there is a content, is told by the tokens. -/
theorem contentOf_page (o : Options) (page page' : List Char) (tag : String) (selfClosing : Bool)
    (stop : Nat) (ts : List Located) :
    (contentOf o page' tag selfClosing stop ts).2 = (contentOf o page tag selfClosing stop ts).2 ∧
      (contentOf o page' tag selfClosing stop ts).1.isSome =
        (contentOf o page tag selfClosing stop ts).1.isSome := by
  unfold contentOf
  split
  · exact ⟨rfl, rfl⟩
  · split
    · exact ⟨rfl, rfl⟩
    · split <;> exact ⟨rfl, rfl⟩

/-- A rule comes to the same on both pages. Only the content that it is given may be another. -/
theorem Rule.IgnoresContent.visit {rule : Rule σ} (h : rule.IgnoresContent) {i : Nat} {o : Options}
    {page : List Char} (page' : List Char) {tag : String} {attributes : Attributes}
    {selfClosing : Bool} {stop : Nat} {ts : List Located} {s s' : σ} {v : Visit}
    {result : Except HandlerFailure (List Located)}
    (hv : rule.visit i o page tag attributes selfClosing stop ts s = (v, result, s')) :
    ∃ v', rule.visit i o page' tag attributes selfClosing stop ts s = (v', result, s') := by
  obtain ⟨hrest, hsome⟩ := contentOf_page o page page' tag selfClosing stop ts
  obtain ⟨_, _, ha⟩ | ⟨_, _, ha, hw⟩ | ⟨_, _, _, ha, hc, hn⟩ |
      ⟨handler, content, rest, _, _, _, ha, hc, hn, ho⟩ :=
    rule.visit_cases o page tag attributes selfClosing stop ts s
  · cases (visit_failed ha).symm.trans hv
    exact ⟨_, visit_failed ha⟩
  · cases (visit_declined ha hw).symm.trans hv
    exact ⟨_, visit_declined ha hw⟩
  · cases (visit_open ha hc hn).symm.trans hv
    rw [hn] at hrest hsome
    have hnone : (contentOf o page' tag selfClosing stop ts).1 = none := by simpa using hsome
    exact ⟨_, visit_open ha hc (Prod.ext hnone hrest)⟩
  · cases (visit_content ha hc hn ho).symm.trans hv
    rw [hn] at hrest hsome
    obtain ⟨content', hcontent⟩ := Option.isSome_iff_exists.mp hsome
    rw [h.onContent handler hc content content'] at ho
    exact ⟨_, visit_content ha hc (Prod.ext hcontent hrest) ho⟩

namespace RuleTable

theorem course_page {table : RuleTable σ} (h : ∀ rule ∈ table.rules, rule.IgnoresContent)
    (page page' : List Char) (s : σ) (ts : List Located) :
    (table.course page' s ts).result = (table.course page s ts).result ∧
      (table.course page' s ts).state = (table.course page s ts).state := by
  have hrule {tag : String} {attributes : Attributes} {i : Nat} {rule : Rule σ}
      (hr : table.firstRule? tag attributes = some (i, rule)) : rule.IgnoresContent :=
    h rule (List.mem_of_getElem? (firstRule?_eq_some hr).1)
  fun_induction RuleTable.course table page s ts with
  | case1 s => rw [course_nil]; exact ⟨rfl, rfl⟩
  | case2 s t ts tag attributes selfClosing ht hr ih =>
    rw [course_unanswered ht hr]
    exact ih
  | case3 s t ts tag attributes selfClosing ht i rule hr v failure s' hv =>
    obtain ⟨v', hv'⟩ := (hrule hr).visit page' hv
    rw [course_visit ht hr, hv']
    exact ⟨rfl, rfl⟩
  | case4 s t ts tag attributes selfClosing ht i rule hr v rest s' hv course ih =>
    obtain ⟨v', hv'⟩ := (hrule hr).visit page' hv
    rw [course_visit ht hr, hv']
    exact ih
  | case5 s t ts ht ih =>
    rw [course_skip ht]
    exact ih

/-- Handlers that do not look at content tell no two pages with the same tokens apart. -/
theorem runOn_of_tokens {table : RuleTable σ} (h : ∀ rule ∈ table.rules, rule.IgnoresContent)
    {page page' : String} (ht : tokens table.options page'.toList = tokens table.options page.toList)
    (s : σ) : table.runOn page' s = table.runOn page s := by
  obtain ⟨hresult, hstate⟩ := course_page h page.toList page'.toList s
    (tokens table.options page.toList)
  rw [runOn_eq_course, runOn_eq_course, ht, hresult, hstate]

end RuleTable

/-! ### Sheets that write names in another case -/

/-- The same entry, with the names of the tag and of the attribute in another case. -/
inductive Entry.Recased : Entry σ → Entry σ → Prop
  | name {tag tag' : String} (htag : lowercased tag' = lowercased tag) :
      Recased (.name tag) (.name tag')
  | equals {tag tag' key key' : String} (value : String) (htag : lowercased tag' = lowercased tag)
      (hkey : lowercased key' = lowercased key) :
      Recased (.equals tag key value) (.equals tag' key' value)
  | startsWith {tag tag' key key' : String} (lead : String) (htag : lowercased tag' = lowercased tag)
      (hkey : lowercased key' = lowercased key) :
      Recased (.startsWith tag key lead) (.startsWith tag' key' lead)
  | contains {tag tag' key key' : String} (part : String) (htag : lowercased tag' = lowercased tag)
      (hkey : lowercased key' = lowercased key) :
      Recased (.contains tag key part) (.contains tag' key' part)
  | endsWith {tag tag' key key' : String} (tail : String) (htag : lowercased tag' = lowercased tag)
      (hkey : lowercased key' = lowercased key) :
      Recased (.endsWith tag key tail) (.endsWith tag' key' tail)
  | onOpen (handler : OpenHandler σ) : Recased (.onOpen handler) (.onOpen handler)
  | onContent (handler : ContentHandler σ) : Recased (.onContent handler) (.onContent handler)

theorem Entry.Recased.eq {e e' : Entry σ} (h : e.Recased e') : e' = e := by
  cases h with
  | name htag => rw [Entry.name, htag, Entry.name]
  | equals value htag hkey => rw [Entry.equals, htag, hkey, Entry.equals]
  | startsWith lead htag hkey => rw [Entry.startsWith, htag, hkey, Entry.startsWith]
  | contains part htag hkey => rw [Entry.contains, htag, hkey, Entry.contains]
  | endsWith tail htag hkey => rw [Entry.endsWith, htag, hkey, Entry.endsWith]
  | onOpen => rfl
  | onContent => rfl

theorem sheet_recased {sheet sheet' : List (Entry σ)} (h : List.Forall₂ Entry.Recased sheet sheet') :
    sheet' = sheet := by
  induction h with
  | nil => rfl
  | cons he _ ih => rw [he.eq, ih]

theorem rules_of_build {o : Options} {sheet : List (Entry σ)} {table : RuleTable σ}
    (h : RuleTable.build o sheet = .ok table) :
    table.rules = (sheet.foldl Draft.add {}).rules ∧ table.options = o := by
  unfold RuleTable.build at h
  dsimp only at h
  split at h
  · obtain rfl := Except.ok.inj h
    exact ⟨rfl, rfl⟩
  · cases h

/-- **The case of letters in names tells nothing.** A page whose tags and attributes have their names
in another case has the same tokens at the same places. A sheet with its names in another case makes
the same table, or has the same problems. And where no handler looks at content, the table of a sheet
reads the two pages the same. -/
theorem names_in_any_case (o : Options) {page page' : String}
    (hpage : Recased (nameMarks o page.toList) page.toList page'.toList) :
    tokens o page'.toList = tokens o page.toList ∧
      ∀ sheet sheet' : List (Entry σ), List.Forall₂ Entry.Recased sheet sheet' →
        RuleTable.build o sheet' = RuleTable.build o sheet ∧
        ∀ table, RuleTable.build o sheet = .ok table → (∀ e ∈ sheet, e.IgnoresContent) →
          ∀ s, table.runOn page' s = table.runOn page s := by
  refine ⟨tokens_recased hpage, fun sheet sheet' hsheet => ?_⟩
  refine ⟨by rw [sheet_recased hsheet], fun table htable hignores s => ?_⟩
  obtain ⟨hrules, rfl⟩ := rules_of_build htable
  refine RuleTable.runOn_of_tokens ?_ (tokens_recased hpage) s
  rw [hrules]
  exact Draft.foldl_each sheet nofun hignores

/-- A key and an end tag in capitals, on the page and on the sheet. -/
theorem link_in_capitals :
    let page := "<a href=X>T</a>"
    let page' := "<a hREF=X>T</A>"
    let sheet : List (Entry Nat) := [.equals "a" "href" "X", .atContent fun _ n => n + 1]
    let sheet' : List (Entry Nat) := [.equals "A" "Href" "X", .atContent fun _ n => n + 1]
    Recased (nameMarks {} page.toList) page.toList page'.toList ∧
      tokens {} page'.toList = tokens {} page.toList ∧
      RuleTable.build {} sheet' = RuleTable.build {} sheet ∧
      ∃ table, RuleTable.build {} sheet = .ok table ∧
        ∀ s, table.runOn page' s = table.runOn page s := by
  intro page page' sheet sheet'
  have hpage : Recased (nameMarks {} page.toList) page.toList page'.toList := by decide +kernel
  have hsheet : List.Forall₂ Entry.Recased sheet sheet' :=
    .cons (.equals "X" (by decide) (by decide)) (.cons (.onContent _) .nil)
  have hignores : ∀ e ∈ sheet, e.IgnoresContent := by
    intro e he
    rcases List.mem_pair.mp he with rfl | rfl
    · exact trivial
    · exact fun _ _ => rfl
  obtain ⟨htokens, hread⟩ := names_in_any_case {} hpage
  obtain ⟨hbuild, hruns⟩ := hread sheet sheet' hsheet
  exact ⟨hpage, htokens, hbuild, _, rfl, hruns _ rfl hignores⟩

end Imageboard
