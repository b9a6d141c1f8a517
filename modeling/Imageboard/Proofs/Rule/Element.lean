import Imageboard.Proofs.Markup.QuotedValue
import Imageboard.Proofs.Rule.History
import Imageboard.Proofs.Rule.Pieces

/-! A page read from behind one of its tags.

An element with nothing but text in it leaves the tags of the page to the rules, whether its content
is taken or not. So a page that is cut in front of its tag and behind it is read as its pieces are:
what is behind the tag is read from the state that the answer to it leaves (`run_divided`). -/
namespace Imageboard

def Located.IsTag (t : Located) : Prop :=
  ∃ name attributes selfClosing, t.token = .openTag name attributes selfClosing

/-- Only text stands in front of the end tag of the element `name`. -/
def ClosedAfterText (name : String) (ts : List Located) : Prop :=
  ∃ texts close later, ts = texts ++ close :: later ∧
    (∀ t ∈ texts, ∃ content, t.token = .text content) ∧ close.token = .closeTag name

theorem closedAfterText_shifted {name : String} {n : Nat} {ts : List Located} :
    ClosedAfterText name (ts.map (Located.shifted n)) ↔ ClosedAfterText name ts := by
  constructor
  · rintro ⟨texts, close, later, h, htexts, hclose⟩
    obtain ⟨texts', ts', rfl, rfl, hrest⟩ := List.map_eq_append_iff.mp h
    obtain ⟨close', later', rfl, rfl, rfl⟩ := List.map_eq_cons_iff.mp hrest
    exact ⟨texts', close', later', rfl, fun t ht =>
      htexts (t.shifted n) (List.mem_map_of_mem ht), hclose⟩
  · rintro ⟨texts, close, later, rfl, htexts, hclose⟩
    refine ⟨_, _, _, List.map_append, fun t ht => ?_, hclose⟩
    obtain ⟨u, hu, rfl⟩ := List.mem_map.mp ht
    exact htexts u hu

theorem closing?_texts {name : String} {texts later : List Located} {close : Located}
    (htexts : ∀ t ∈ texts, ∃ content, t.token = .text content)
    (hclose : close.token = .closeTag name) :
    closing? name 1 (texts ++ close :: later) = some (close, later) := by
  induction texts with
  | nil =>
    have hcloses : closes name close = true := by
      unfold closes
      rw [hclose]
      exact beq_self_eq_true name
    rw [List.nil_append, closing?_cons, if_pos hcloses, if_pos rfl]
  | cons t texts ih =>
    obtain ⟨content, ht⟩ := htexts t List.mem_cons_self
    have hno : closes name t = false ∧ opens name t = false := by
      unfold closes opens
      rw [ht]
      exact ⟨rfl, rfl⟩
    rw [List.cons_append, closing?_cons, hno.1, hno.2, if_neg Bool.false_ne_true,
      if_neg Bool.false_ne_true]
    exact ih fun u hu => htexts u (List.mem_cons_of_mem t hu)

/-- The content of such an element is taken with no tag in it. -/
theorem contentOf_closedAfterText {name : String} {ts : List Located} (h : ClosedAfterText name ts)
    (o : Options) (page : List Char) (selfClosing : Bool) (stop : Nat) :
    ∃ inside, ts = inside ++ (contentOf o page name selfClosing stop ts).2 ∧
      ∀ t ∈ inside, ¬ t.IsTag := by
  obtain ⟨texts, close, later, rfl, htexts, hclose⟩ := h
  unfold contentOf
  rw [closing?_texts htexts hclose]
  split
  · exact ⟨[], rfl, fun t ht => nomatch ht⟩
  · refine ⟨texts ++ [close], by rw [List.append_assoc]; rfl, fun t ht => ?_⟩
    rintro ⟨tag, attributes, closed, htag⟩
    rcases List.mem_append.mp ht with ht | ht
    · obtain ⟨content, htext⟩ := htexts t ht
      cases htext.symm.trans htag
    · obtain rfl := List.mem_singleton.mp ht
      cases hclose.symm.trans htag

namespace RuleTable
variable {table : RuleTable σ}

theorem readFrom_no_tags {page : List Char} {inside : List Located} (h : ∀ t ∈ inside, ¬ t.IsTag)
    (rest : List Located) :
    table.readFrom page none (inside ++ rest) = table.readFrom page none rest := by
  induction inside with
  | nil => rfl
  | cons t inside ih =>
    have ht : ∀ tag attributes selfClosing, t.token ≠ .openTag tag attributes selfClosing :=
      fun tag attributes selfClosing he =>
        h t List.mem_cons_self ⟨tag, attributes, selfClosing, he⟩
    rw [List.cons_append, readFrom_skip ht]
    exact ih fun u hu => h u (List.mem_cons_of_mem t hu)

/-- A page that ends outside all content. -/
theorem run_of_steps {page : List Char} {s r : σ}
    (h : outcome (table.steps page none (tokens table.options page)) s = (.ok none, r)) :
    outcome (table.run page) s = (.ok (), r) := by
  rw [run, outcome_bind, h]
  rfl

/-- **A page with a tag outside all content is read from behind the tag**, in the state that the
answer to the tag leaves, where only text stands in the element. -/
theorem run_divided {page front written behind : List Char} {name : String}
    {attributes : Attributes} {selfClosing : Bool}
    (h : DividedBy table.options page front written behind (.openTag name attributes selfClosing))
    {i : Nat} {rule : Rule σ} (hr : table.firstRule? name attributes = some (i, rule))
    (hf : rule.NeverFails) (hclosed : ClosedAfterText name (tokens table.options behind))
    {start r : σ}
    (hfront : outcome (table.steps front none (tokens table.options front)) start = (.ok none, r)) :
    ∃ v : Visit, v.rule = i ∧ v.tag = name ∧ v.attributes = attributes ∧ v.MadeIn table r ∧
      outcome (table.run page) start = outcome (table.run behind) (v.apply table r) := by
  obtain ⟨rfl, htokens⟩ := h
  rw [← Text.byteLength_append] at htokens
  let tag : Located := ⟨.openTag name attributes selfClosing, Text.byteLength front,
    Text.byteLength (front ++ written)⟩
  let ts := (tokens table.options behind).map (Located.shifted (Text.byteLength (front ++ written)))
  have htag : outcome (table.run (front ++ (written ++ behind))) start =
      outcome (table.readFrom (front ++ (written ++ behind)) none (tag :: ts)) r := by
    show outcome (table.readFrom (front ++ (written ++ behind)) none
      (tokens table.options (front ++ (written ++ behind)))) start = _
    rw [htokens, readFrom, steps_append, bind_assoc, outcome_bind, steps_tokens_append, hfront]
    rfl
  have hbehind (s : σ) : outcome (table.readFrom (front ++ (written ++ behind)) none ts) s =
      outcome (table.run behind) s := by
    rw [← List.append_assoc]
    exact readFrom_shifted table (front ++ written) behind _ s
  obtain ⟨v, rest, s, hv⟩ := hf.visit i table.options (front ++ (written ++ behind)) name attributes
    selfClosing tag.stop ts r
  obtain ⟨hi, hname, hattributes⟩ := Rule.visit_tag hv
  obtain ⟨happly, hmade⟩ := visit_made hr hv
  refine ⟨v, hi, hname, hattributes, hmade, ?_⟩
  have hrest : table.readFrom (front ++ (written ++ behind)) none rest =
      table.readFrom (front ++ (written ++ behind)) none ts := by
    obtain ⟨inside, hts, hinside⟩ :=
      contentOf_closedAfterText (closedAfterText_shifted.mpr hclosed) table.options
        (front ++ (written ++ behind)) selfClosing tag.stop
    rcases Rule.visit_rest hv with rfl | hrest
    · rfl
    · rw [← hrest] at hts
      exact ((congrArg _ hts).trans (readFrom_no_tags hinside rest)).symm
  rw [htag, outcome_readFrom_visit (t := tag) rfl hr, hv, happly]
  dsimp only
  rw [hrest, hbehind]

end RuleTable

end Imageboard
