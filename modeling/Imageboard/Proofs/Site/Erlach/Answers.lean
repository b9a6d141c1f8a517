import Imageboard.Proofs.Post.MessageRule
import Imageboard.Proofs.Rule.Apart
import Imageboard.Proofs.Rule.Places
import Imageboard.Proofs.Site.Erlach

/-! What the tags of an erlach page do to a reading.

`Answer` lists all that answering a tag can come to, and `answer_of_made` is the only place where
the rules of the sheet are gone through one by one. Unlike on wakaba boards a tag may match the
patterns of several rules, and a mark is one only where its own rule answers it. -/
namespace Imageboard.Erlach
open Collector (Step fresh pushed)
open Reading

/-- The rules of the sheet, each at its place. -/
def rules : List (Rule Reading) :=
  [.atContent (.equals "div" "class" "content-title") contentTitle,
   .atTag (.contains "div" "data-id" "") block,
   .atContent (.equals "a" "class" "post-topic") topic,
   .atTag (.contains "div" "data-ts" "") timestamp,
   .atTag (.contains "img" "class" "media image") image,
   .atTag (.name "canvas") canvas,
   .atContent (.equals "div" "class" "omitted") omitted,
   .atContent (.equals "div" "class" "post-message") message,
   .atTag (.equals "div" "class" "post-header") header,
   .atContent (.contains "span" "class" "info-posts-count") counter,
   .atContent (.contains "span" "class" "info-images-count") counter]

theorem sheet_rules : (Sheet.table sheet).rules = rules := rfl

/-! ### Marks -/

def isBlock (v : Visit) : Bool := v.answeredBy (Sheet.table sheet) (.contains "div" "data-id" "")

def isTimestamp (v : Visit) : Bool := v.answeredBy (Sheet.table sheet) (.contains "div" "data-ts" "")

def isImage (v : Visit) : Bool :=
  v.answeredBy (Sheet.table sheet) (.contains "img" "class" "media image")

def isCanvas (v : Visit) : Bool := v.answeredBy (Sheet.table sheet) (.name "canvas")

def isMessage (v : Visit) : Bool :=
  v.answeredBy (Sheet.table sheet) (.equals "div" "class" "post-message")

def isHeader (v : Visit) : Bool :=
  v.answeredBy (Sheet.table sheet) (.equals "div" "class" "post-header")

/-- Of posts or of images. -/
def isCounter (v : Visit) : Bool :=
  v.answeredBy (Sheet.table sheet) (.contains "span" "class" "info-posts-count") ||
    v.answeredBy (Sheet.table sheet) (.contains "span" "class" "info-images-count")

theorem patterns_nodup : ((Sheet.table sheet).rules.map (·.pattern)).Nodup := by
  rw [sheet_rules]
  decide

section
variable (v : Visit)

theorem isBlock_iff : isBlock v = true ↔ v.rule = 1 :=
  RuleTable.answeredBy_iff 1 rfl patterns_nodup v

theorem isTimestamp_iff : isTimestamp v = true ↔ v.rule = 3 :=
  RuleTable.answeredBy_iff 3 rfl patterns_nodup v

theorem isImage_iff : isImage v = true ↔ v.rule = 4 :=
  RuleTable.answeredBy_iff 4 rfl patterns_nodup v

theorem isCanvas_iff : isCanvas v = true ↔ v.rule = 5 :=
  RuleTable.answeredBy_iff 5 rfl patterns_nodup v

theorem isMessage_iff : isMessage v = true ↔ v.rule = 7 :=
  RuleTable.answeredBy_iff 7 rfl patterns_nodup v

theorem isHeader_iff : isHeader v = true ↔ v.rule = 8 :=
  RuleTable.answeredBy_iff 8 rfl patterns_nodup v

theorem isCounter_iff : isCounter v = true ↔ v.rule = 9 ∨ v.rule = 10 := by
  unfold isCounter
  rw [Bool.or_eq_true]
  exact or_congr (RuleTable.answeredBy_iff 9 rfl patterns_nodup v)
    (RuleTable.answeredBy_iff 10 rfl patterns_nodup v)

end

/-- No rule stands before the one of page titles. -/
theorem isTitle_iff {v : Visit} {r : Reading} (hv : v.MadeIn (Sheet.table sheet) r) :
    isTitle v = true ↔ v.rule = 0 := by
  have hmeets : isTitle v = v.meets (.equals "div" "class" "content-title") :=
    congrArg (· && v.attributes.get? "class" == some "content-title") BEq.comm
  rw [hmeets]
  exact RuleTable.meets_iff 0 rfl rfl hv

/-! ### Answers -/

/-- All that answering a tag can come to. -/
inductive Answer (v : Visit) (r : Reading) : Reading → Prop where
  | title (h : v.rule = 0) (text : String) (hc : v.content = some text) :
    Answer v r (contentTitle text r)
  | block (h : v.rule = 1) : Answer v r (block v.attributes r)
  | topic (h : v.rule = 2) (text : String) (hc : v.content = some text) : Answer v r (topic text r)
  | timestamp (h : v.rule = 3) : Answer v r (timestamp v.attributes r)
  | image (h : v.rule = 4) : Answer v r (image v.attributes r)
  | canvas (h : v.rule = 5) : Answer v r (canvas v.attributes r)
  | omitted (h : v.rule = 6) : Answer v r r
  | message (h : v.rule = 7) (comment : String) (hc : v.content = some comment) :
    Answer v r (message comment r)
  | header (h : v.rule = 8) : Answer v r (header v.attributes r)
  | counter (h : v.rule = 9 ∨ v.rule = 10) (text : String) (hc : v.content = some text) :
    Answer v r (counter text r)

theorem answer_of_made {v : Visit} {r : Reading} (hv : v.MadeIn (Sheet.table sheet) r) :
    Answer v r (v.apply (Sheet.table sheet) r) := by
  obtain ⟨rule, hfirst, -⟩ := id hv
  have hrule := (RuleTable.firstRule?_eq_some hfirst).1
  have hat (i : Nat) (hi : v.rule = i) : (Sheet.table sheet).rules[v.rule]? = rules[i]? := by
    rw [hi, sheet_rules]
  match h : v.rule with
  | 0 =>
    obtain ⟨text, hc, heq⟩ := Visit.apply_atContent hv rfl (hat 0 h)
    rw [heq]; exact .title h text hc
  | 1 => rw [Visit.apply_atTag (hat 1 h)]; exact .block h
  | 2 =>
    obtain ⟨text, hc, heq⟩ := Visit.apply_atContent hv rfl (hat 2 h)
    rw [heq]; exact .topic h text hc
  | 3 => rw [Visit.apply_atTag (hat 3 h)]; exact .timestamp h
  | 4 => rw [Visit.apply_atTag (hat 4 h)]; exact .image h
  | 5 => rw [Visit.apply_atTag (hat 5 h)]; exact .canvas h
  | 6 =>
    obtain ⟨text, -, heq⟩ := Visit.apply_atContent hv rfl (hat 6 h)
    rw [heq]; exact .omitted h
  | 7 =>
    obtain ⟨comment, hc, heq⟩ := Visit.apply_atContent hv rfl (hat 7 h)
    rw [heq]; exact .message h comment hc
  | 8 => rw [Visit.apply_atTag (hat 8 h)]; exact .header h
  | 9 =>
    obtain ⟨text, hc, heq⟩ := Visit.apply_atContent hv rfl (hat 9 h)
    rw [heq]; exact .counter (.inl h) text hc
  | 10 =>
    obtain ⟨text, hc, heq⟩ := Visit.apply_atContent hv rfl (hat 10 h)
    rw [heq]; exact .counter (.inr h) text hc
  | n + 11 =>
    rw [h] at hrule
    cases hrule

/-! ### Posts -/

def messageRule : MessageRule sheet where
  toCompletion := completion
  isMessage := isMessage
  message := message
  pattern := .equals "div" "class" "post-message"
  place := 7
  at_place := rfl
  isMessage_iff _ := isMessage_iff _

/-- The post that a message completes. -/
abbrev completed? (r : Reading) (v : Visit) : Option Post := messageRule.completed? r v

/-- What a counter adds to the current thread. -/
def counted? (text : String) : Option Step :=
  (Counter.read? text).map
    (if Text.contains imagesMark text then Step.addFiles else Step.addPosts)

/-- What answering a tag does to the collector. -/
def collectorSteps (r : Reading) (v : Visit) : List Step :=
  if isHeader v then [.begin]
  else if isCounter v then (v.content.bind counted?).toList
  else ((completed? r v).map Step.push).toList

theorem completed?_eq_none {r : Reading} {v : Visit} (h : v.rule ≠ 7) : completed? r v = none :=
  messageRule.completed?_of_other (eq_false_of_ne (isMessage_iff v) h)

theorem collector_apply {v : Visit} {r : Reading} (hv : v.MadeIn (Sheet.table sheet) r) :
    (v.apply (Sheet.table sheet) r).collector = r.collector.run (collectorSteps r v) := by
  have hsteps (hheader : v.rule ≠ 8) (hcounter : ¬(v.rule = 9 ∨ v.rule = 10)) :
      collectorSteps r v = ((completed? r v).map Step.push).toList := by
    have hno : isCounter v = false :=
      Bool.eq_false_iff.mpr fun h => hcounter ((isCounter_iff v).mp h)
    simp [collectorSteps, eq_false_of_ne (isHeader_iff v) hheader, hno]
  have hnone (hheader : v.rule ≠ 8) (hcounter : ¬(v.rule = 9 ∨ v.rule = 10)) (hmessage : v.rule ≠ 7) :
      collectorSteps r v = [] := by
    rw [hsteps hheader hcounter, completed?_eq_none hmessage]
    rfl
  have hanswer := answer_of_made hv
  generalize v.apply (Sheet.table sheet) r = r' at hanswer ⊢
  cases hanswer with
  | header h =>
    unfold collectorSteps
    rw [(isHeader_iff v).mpr h]
    rfl
  | message h comment hc =>
    rw [hsteps (by omega) (by omega), completed?,
      messageRule.completed?_of_message ((isMessage_iff v).mpr h) hc]
    exact message_completes.collector_eq comment r
  | counter h text hc =>
    unfold collectorSteps counter counted?
    rw [eq_false_of_ne (isHeader_iff v) (by omega), (isCounter_iff v).mpr h, hc, Option.bind_some]
    cases Counter.read? text with
    | none => rfl
    | some count => cases Text.contains imagesMark text <;> rfl
  | title h text =>
    rw [hnone (by omega) (by omega) (by omega)]
    unfold contentTitle
    split <;> rfl
  | image h =>
    rw [hnone (by omega) (by omega) (by omega)]
    unfold image
    split <;> rfl
  | block h | topic h | timestamp h | canvas h | omitted h =>
    rw [hnone (by omega) (by omega) (by omega)]
    rfl

theorem pushed_collectorSteps {v : Visit} {r : Reading} :
    pushed (collectorSteps r v) = (completed? r v).toList := by
  unfold collectorSteps
  split
  · rename_i hheader
    rw [isHeader_iff] at hheader
    rw [completed?_eq_none (by omega)]
    rfl
  · split
    · rename_i hcounter
      rw [isCounter_iff] at hcounter
      rw [completed?_eq_none (by omega)]
      cases v.content with
      | none => rfl
      | some text =>
        rw [Option.bind_some, counted?]
        cases Counter.read? text with
        | none => rfl
        | some count => cases Text.contains imagesMark text <;> rfl
    · cases completed? r v <;> rfl

theorem collectorSteps_inside {v : Visit} {r : Reading} (h : isHeader v = false) :
    ∀ step ∈ collectorSteps r v, step.isBoundary = false := by
  unfold collectorSteps
  rw [h, if_neg Bool.false_ne_true]
  split
  · intro step hstep
    obtain ⟨text, -, hcounted⟩ := Option.bind_eq_some_iff.mp (Option.mem_toList.mp hstep)
    obtain ⟨count, -, rfl⟩ := Option.map_eq_some_iff.mp hcounted
    split <;> rfl
  · cases completed? r v <;> simp [Step.isBoundary]

/-- What an erlach page does to a collector. -/
def chronicle : Chronicle sheet where
  steps := collectorSteps
  begins _ := isHeader
  completed? := completed?
  collector_apply := collector_apply
  steps_begins h := if_pos h
  steps_inside := collectorSteps_inside
  pushed_steps _ := pushed_collectorSteps

section
variable (source : Source) (r : Reading)

/-- The tags of a page that are answered. -/
abbrev visits : List Visit := Sheet.visits sheet source r

/-- The state after the first `n` of them. -/
abbrev stateAt (n : Nat) : Reading := Sheet.stateAt sheet source r n

abbrev markAt (mark : Visit → Bool) (n : Nat) : Bool := Sheet.markAt sheet source r mark n

abbrev toldAt (tells : Visit → Option α) (n : Nat) : Option α := Sheet.toldAt sheet source r tells n

/-- The post that the tag at place `n` completes. -/
abbrev completedAt (n : Nat) : Option Post := chronicle.completedAt source r n

abbrev completesAt (n : Nat) : Bool := chronicle.completesAt source r n

/-- The posts that the first `n` tags complete. -/
abbrev completedPosts (n : Nat) : List Post := chronicle.completedPosts source r n

variable {source r}

theorem completesAt_eq {n : Nat} {v : Visit} (hv : (visits source r)[n]? = some v) :
    completesAt source r n = (isMessage v && (stateAt source r n).post.isSome) :=
  messageRule.completesAt_eq rfl hv

end

/-- Reading a page fails only where its source does; otherwise it collects what the page tells. -/
theorem readPage_eq (locator : Locator) (listing : Listing) (source : Source) :
    let r := start locator listing
    readPage locator listing source =
      source.markup.map fun _ =>
        (fresh listing).run (chronicle.history source r (visits source r).length) :=
  chronicle.collector_read sheet_sound sheet_neverFails source _

end Imageboard.Erlach
