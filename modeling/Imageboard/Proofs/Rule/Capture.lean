import Imageboard.Proofs.Rule.Course

/-! Reading a page token by token comes to its course.

The run keeps a capture with a depth and looks at one token at a time; the course looks for the end
tag among all the tokens that follow. The two meet in `readFrom_capture`: the depth of a capture is
the excess of end tags that is still to be found. -/
namespace Imageboard

theorem closing?_nil (name : String) (excess : Nat) : closing? name excess [] = none := rfl

/-- Looking for the end of an element token by token: end tags and tags of its name shift the
excess that is left to find. -/
theorem closing?_cons (name : String) (excess : Nat) (t : Located) (ts : List Located) :
    closing? name (excess + 1) (t :: ts) =
      if closes name t then
        if excess = 0 then some (t, ts) else closing? name excess ts
      else if opens name t then closing? name (excess + 2) ts
      else closing? name (excess + 1) ts := by
  have hshift (k : Nat) (hk : ∀ j,
      ((t :: ts).take (j + 1 + 1)).countP (closes name) =
          ((t :: ts).take (j + 1 + 1)).countP (opens name) + (excess + 1) ↔
        (ts.take (j + 1)).countP (closes name) = (ts.take (j + 1)).countP (opens name) + k)
      (h0 : ¬ [t].countP (closes name) = [t].countP (opens name) + (excess + 1)) :
      closing? name (excess + 1) (t :: ts) = closing? name k ts := by
    have hp : (fun j => ((t :: ts).take (j + 1 + 1)).countP (closes name) ==
        ((t :: ts).take (j + 1 + 1)).countP (opens name) + (excess + 1)) =
        fun j => (ts.take (j + 1)).countP (closes name) ==
          (ts.take (j + 1)).countP (opens name) + k := by
      funext j
      rw [Bool.eq_iff_iff, beq_iff_eq, beq_iff_eq]
      exact hk j
    unfold closing?
    rw [List.length_cons, List.range_succ_eq_map, List.find?_cons_of_neg (by simpa using h0),
      List.find?_map]
    simp only [Function.comp_def, Nat.succ_eq_add_one, hp, Option.bind_map]
    rfl
  by_cases hc : closes name t
  · have ho : opens name t = false := by
      unfold closes at hc
      unfold opens
      split at hc
      · rename_i htok; simp [htok]
      · simp at hc
    rw [if_pos hc]
    split
    · rename_i he
      subst he
      unfold closing?
      rw [List.length_cons, List.range_succ_eq_map, List.find?_cons_of_pos (by simp [hc, ho])]
      rfl
    · exact hshift excess (fun j => by simp [hc, ho]; omega) (by simp [hc, ho]; omega)
  · rw [if_neg hc]
    split
    · rename_i ho
      exact hshift _ (fun j => by simp [hc, ho]; omega) (by simp [hc, ho])
    · rename_i ho
      exact hshift _ (fun j => by simp [hc, ho]) (by simp [hc, ho])

namespace RuleTable

/-- What is left of a run before the tokens `ts`. -/
def readFrom (table : RuleTable σ) (page : List Char) (capture : Option (Capture σ))
    (ts : List Located) : Run σ Unit := do
  table.finish page (← table.steps page capture ts)

theorem readFrom_nil (table : RuleTable σ) (page : List Char) (capture : Option (Capture σ)) :
    table.readFrom page capture [] = table.finish page capture := by
  simp only [readFrom, steps, pure_bind]

theorem readFrom_cons (table : RuleTable σ) (page : List Char) (capture : Option (Capture σ))
    (t : Located) (ts : List Located) :
    table.readFrom page capture (t :: ts) =
      (table.step page capture t >>= fun capture => table.readFrom page capture ts) := by
  simp only [readFrom, steps, bind_assoc]

theorem step_capture (table : RuleTable σ) (page : List Char) (c : Capture σ) (t : Located) :
    table.step page (some c) t =
      if c.depthAfter t.token = 0 then do
        c.rule.takeContent c.tag c.attributes (Text.slice page c.start t.start)
        pure none
      else pure (some { c with depth := c.depthAfter t.token }) := rfl

theorem depthAfter_eq (c : Capture σ) (t : Located) :
    c.depthAfter t.token =
      if closes c.tag t then c.depth - 1 else if opens c.tag t then c.depth + 1 else c.depth := by
  unfold Capture.depthAfter closes opens
  split
  · simp_all
  · simp_all
  · simp_all

/-- A capture is handed over at the token that closes the element, and the run goes on outside all
content; the depth it keeps is the number of end tags it still waits for. -/
theorem readFrom_capture (table : RuleTable σ) (page : List Char) (c : Capture σ)
    (ts : List Located) (hd : 0 < c.depth) :
    table.readFrom page (some c) ts =
      match closing? c.tag c.depth ts with
      | some (t, rest) => do
        c.rule.takeContent c.tag c.attributes (Text.slice page c.start t.start)
        table.readFrom page none rest
      | none => table.finish page (some c) := by
  induction ts generalizing c with
  | nil => rw [readFrom_nil, closing?_nil]
  | cons t ts ih =>
    obtain ⟨n, hn⟩ : ∃ n, c.depth = n + 1 := ⟨c.depth - 1, by omega⟩
    have hstep (d : Nat) (h : c.depthAfter t.token = d) (h0 : 0 < d) :
        table.readFrom page (some c) (t :: ts) =
          table.readFrom page (some { c with depth := d }) ts := by
      rw [readFrom_cons, step_capture, h, if_neg (by omega), pure_bind]
    rw [hn, closing?_cons]
    by_cases hc : closes c.tag t
    · rw [if_pos hc]
      have hafter : c.depthAfter t.token = n := by rw [depthAfter_eq, if_pos hc]; omega
      by_cases h0 : n = 0
      · rw [if_pos h0, readFrom_cons, step_capture, hafter, if_pos h0, bind_assoc]
        simp only [pure_bind]
      · rw [if_neg h0, hstep n hafter (by omega), ih { c with depth := n } (by simp; omega)]
        rfl
    · rw [if_neg hc]
      by_cases ho : opens c.tag t
      · rw [if_pos ho, hstep (n + 2) (by rw [depthAfter_eq, if_neg hc, if_pos ho]; omega) (by omega),
          ih { c with depth := n + 2 } (by simp)]
        rfl
      · rw [if_neg ho, hstep (n + 1) (by rw [depthAfter_eq, if_neg hc, if_neg ho]; omega) (by omega),
          ih { c with depth := n + 1 } (by simp)]
        rfl

theorem find?_eq_firstRule? (table : RuleTable σ) (tag : String) (attributes : Attributes) :
    table.find? tag attributes = (table.firstRule? tag attributes).map (·.2) := by
  unfold find? firstRule? findIndex?
  induction table.rules with
  | nil => rfl
  | cons rule rules ih =>
    by_cases h : rule.pattern.matchesTag tag attributes
    · simp [List.findIdx?_cons, h]
    · simp [List.findIdx?_cons, h, ih, Option.map_bind, Function.comp_def, Option.bind_map]

theorem outcome_wantsContent (rule : Rule σ) (tag : String) (attributes : Attributes) (s : σ) :
    outcome (rule.wantsContent tag attributes) s =
      match rule.asked tag attributes s with
      | (.error cause, s') => (.error ⟨tag, attributes, cause⟩, s')
      | (.ok wanted, s') => (.ok (wanted && rule.onContent.isSome), s') := by
  unfold Rule.wantsContent Rule.asked
  cases rule.onOpen with
  | none => rfl
  | some handler =>
    dsimp only
    rw [outcome_bind, outcome_callFor]
    cases outcome (handler tag attributes) s with
    | mk result s' => cases result <;> rfl

theorem outcome_takeContent {rule : Rule σ} {handler : ContentHandler σ}
    (h : rule.onContent = some handler) (tag : String) (attributes : Attributes)
    (content : List Char) (s : σ) :
    outcome (rule.takeContent tag attributes content) s =
      match outcome (handler (String.ofList content)) s with
      | (.error cause, s') => (.error ⟨tag, attributes, cause⟩, s')
      | (.ok (), s') => (.ok (), s') := by
  unfold Rule.takeContent
  rw [h]
  show outcome (Rule.callFor tag attributes (handler (String.ofList content))) s = _
  rw [outcome_callFor]
  cases outcome (handler (String.ofList content)) s with
  | mk result s' => cases result <;> rfl

/-- Handing over the content of an element, at once or from a capture. -/
theorem read_contentOf (table : RuleTable σ) (page : List Char) (rule : Rule σ) (tag : String)
    (attributes : Attributes) (selfClosing : Bool) (stop : Nat) (ts : List Located) :
    (if selfClosing || isVoidElement tag then do
        rule.takeContent tag attributes []
        table.readFrom page none ts
      else table.readFrom page (some ⟨rule, tag, attributes, 1, stop⟩) ts) =
      match contentOf table.options page tag selfClosing stop ts with
      | (none, rest) => table.readFrom page none rest
      | (some content, rest) =>
        rule.takeContent tag attributes content.toList >>= fun _ => table.readFrom page none rest := by
  unfold contentOf
  split
  · rfl
  · rw [readFrom_capture _ _ _ _ Nat.one_pos]
    dsimp only
    cases closing? tag 1 ts with
    | some found => simp only [String.toList_ofList]
    | none =>
      simp only [finish]
      split
      · simp only [readFrom_nil, finish, String.toList_ofList, bind_pure_unit]
      · simp only [readFrom_nil, finish]

/-- A tag outside all content: the run does what the visit does, and goes on behind it. -/
theorem outcome_readFrom_visit {table : RuleTable σ} {page : List Char} {t : Located}
    {tag : String} {attributes : Attributes} {selfClosing : Bool} {i : Nat} {rule : Rule σ}
    (ht : t.token = .openTag tag attributes selfClosing)
    (hr : table.firstRule? tag attributes = some (i, rule)) (ts : List Located) (s : σ) :
    outcome (table.readFrom page none (t :: ts)) s =
      match rule.visit i table.options page tag attributes selfClosing t.stop ts s with
      | (_, .error failure, s') => (.error failure, s')
      | (_, .ok rest, s') => outcome (table.readFrom page none rest) s' := by
  have hstep : table.step page none t = table.answer tag attributes selfClosing t.stop := by
    simp only [step, ht]
  have hanswer : outcome (table.readFrom page none (t :: ts)) s =
      match rule.asked tag attributes s with
      | (.error cause, s') => (.error ⟨tag, attributes, cause⟩, s')
      | (.ok wanted, s') =>
        outcome
          (if wanted && rule.onContent.isSome then
            if selfClosing || isVoidElement tag then do
              rule.takeContent tag attributes []
              table.readFrom page none ts
            else table.readFrom page (some ⟨rule, tag, attributes, 1, t.stop⟩) ts
          else table.readFrom page none ts) s' := by
    rw [readFrom_cons, hstep, answer, find?_eq_firstRule?, hr]
    simp only [Option.map_some, bind_assoc]
    rw [outcome_bind, outcome_wantsContent]
    cases rule.asked tag attributes s with
    | mk result s' =>
      cases result with
      | error cause => rfl
      | ok wanted =>
        dsimp only
        congr 1
        split
        · split
          · simp only [bind_assoc, pure_bind]
          · rw [pure_bind]
        · rw [pure_bind]
  rw [hanswer]
  obtain ⟨_, _, ha⟩ | ⟨_, _, ha, hw⟩ | ⟨_, _, _, ha, hc, hn⟩ |
      ⟨_, _, _, _, result, _, ha, hc, hn, ho⟩ :=
    rule.visit_cases table.options page tag attributes selfClosing t.stop ts s
  · rw [Rule.visit_failed ha, ha]
  · rw [Rule.visit_declined ha hw, ha]
    simp only [hw, Bool.false_eq_true, if_false]
  · rw [Rule.visit_open ha hc hn, ha]
    simp only [hc, Option.isSome_some, Bool.and_self, if_true]
    rw [read_contentOf, hn]
  · rw [Rule.visit_content ha hc hn ho, ha]
    simp only [hc, Option.isSome_some, Bool.and_self, if_true]
    rw [read_contentOf, hn]
    dsimp only
    rw [outcome_bind, outcome_takeContent hc, String.ofList_toList, ho]
    cases result <;> rfl

theorem readFrom_skip {table : RuleTable σ} {page : List Char} {t : Located}
    (ht : ∀ tag attributes selfClosing, t.token ≠ .openTag tag attributes selfClosing)
    (ts : List Located) : table.readFrom page none (t :: ts) = table.readFrom page none ts := by
  rw [readFrom_cons]
  cases h : t.token with
  | openTag tag attributes selfClosing => exact absurd h (ht _ _ _)
  | closeTag name => simp only [step, h, pure_bind]
  | text content => simp only [step, h, pure_bind]

theorem readFrom_unanswered {table : RuleTable σ} {page : List Char} {t : Located} {tag : String}
    {attributes : Attributes} {selfClosing : Bool}
    (ht : t.token = .openTag tag attributes selfClosing)
    (hr : table.firstRule? tag attributes = none) (ts : List Located) :
    table.readFrom page none (t :: ts) = table.readFrom page none ts := by
  rw [readFrom_cons]
  simp only [step, ht, answer, find?_eq_firstRule?, hr, Option.map_none, pure_bind]

/-- Running a table over a page, token by token, comes to its course. -/
theorem readFrom_eq_course (table : RuleTable σ) (page : List Char) (s : σ) (ts : List Located) :
    outcome (table.readFrom page none ts) s =
      ((table.course page s ts).result, (table.course page s ts).state) := by
  fun_induction course table page s ts with
  | case1 s => rw [readFrom_nil]; rfl
  | case2 s t ts tag attributes selfClosing ht hr ih => rw [readFrom_unanswered ht hr, ih]
  | case3 s t ts tag attributes selfClosing ht i rule hr v failure s' hv =>
    rw [outcome_readFrom_visit ht hr, hv]
  | case4 s t ts tag attributes selfClosing ht i rule hr v rest s' hv course ih =>
    rw [outcome_readFrom_visit ht hr, hv]
    exact ih
  | case5 s t ts ht ih => rw [readFrom_skip ht, ih]

end RuleTable

end Imageboard
