import Imageboard.Proofs.Rule.Capture

/-! The calls of handlers that a table makes on a page.

`Calls` of a run are what its handlers leave in a log when each of them is made to write down its
own call first. `run_calls`: on every page and from every state, a run makes the calls of its
course, in the same order and with the same arguments, and ends as the course does. -/
namespace Imageboard

/-- A call of a handler, with the place of its rule in the table and what it is given. -/
inductive Call where
  | onOpen (rule : Nat) (tag : String) (attributes : Attributes)
  | onContent (rule : Nat) (content : String)
  deriving DecidableEq

/-- A handler that leaves a call in a log before it does its work. -/
def logging (call : Call) (handler : Handler σ α) : Handler (σ × List Call) α := fun (s, log) =>
  ((outcome handler s).1, ((outcome handler s).2, log ++ [call]))

def Rule.logged (i : Nat) (rule : Rule σ) : Rule (σ × List Call) where
  pattern := rule.pattern
  onOpen := rule.onOpen.map fun handler tag attributes =>
    logging (.onOpen i tag attributes) (handler tag attributes)
  onContent := rule.onContent.map fun handler content =>
    logging (.onContent i content) (handler content)

/-- The table whose handlers log their calls. -/
def RuleTable.logged (table : RuleTable σ) : RuleTable (σ × List Call) where
  rules := table.rules.mapIdx Rule.logged
  options := table.options

/-- The calls of handlers in a visit. -/
def Visit.calls (table : RuleTable σ) (v : Visit) : List Call :=
  (if (table.rules[v.rule]?).any (·.onOpen.isSome) then [.onOpen v.rule v.tag v.attributes] else [])
    ++ (v.content.map (.onContent v.rule)).toList

theorem outcome_logging (call : Call) (handler : Handler σ α) (s : σ) (log : List Call) :
    outcome (logging call handler) (s, log) =
      ((outcome handler s).1, ((outcome handler s).2, log ++ [call])) := rfl

theorem Rule.asked_logged (rule : Rule σ) (i : Nat) (tag : String) (attributes : Attributes)
    (s : σ) (log : List Call) :
    (rule.logged i).asked tag attributes (s, log) =
      ((rule.asked tag attributes s).1, ((rule.asked tag attributes s).2,
        log ++ if rule.onOpen.isSome then [.onOpen i tag attributes] else [])) := by
  unfold Rule.asked Rule.logged
  cases rule.onOpen with
  | none => simp
  | some handler => rfl

/-- Rules that keep their patterns answer the same tags, whatever else becomes of them. -/
theorem firstRule?_mapIdx (table : RuleTable σ) (change : Nat → Rule σ → Rule τ)
    (hpattern : ∀ i rule, (change i rule).pattern = rule.pattern) (o : Options) (tag : String)
    (attributes : Attributes) :
    RuleTable.firstRule? ⟨table.rules.mapIdx change, o⟩ tag attributes =
      (table.firstRule? tag attributes).map fun (i, rule) => (i, change i rule) := by
  have hi : RuleTable.findIndex? ⟨table.rules.mapIdx change, o⟩ tag attributes =
      table.findIndex? tag attributes := by
    have hp : (table.rules.mapIdx change).map (·.pattern) = table.rules.map (·.pattern) := by
      apply List.ext_getElem
      · simp
      · intro j h h'
        simp [hpattern]
    have hf (τ : Type) (rules : List (Rule τ)) :
        rules.findIdx? (fun rule => rule.pattern.matchesTag tag attributes) =
          (rules.map (·.pattern)).findIdx? fun p => p.matchesTag tag attributes := by
      rw [List.findIdx?_map]; rfl
    unfold RuleTable.findIndex?
    rw [hf, hp, ← hf]
  unfold RuleTable.firstRule?
  rw [hi]
  cases table.findIndex? tag attributes with
  | none => rfl
  | some i => simp [Function.comp_def]

theorem firstRule?_logged (table : RuleTable σ) (tag : String) (attributes : Attributes) :
    table.logged.firstRule? tag attributes =
      (table.firstRule? tag attributes).map fun (i, rule) => (i, rule.logged i) :=
  firstRule?_mapIdx table Rule.logged (fun _ _ => rfl) table.options tag attributes

theorem Rule.visit_logged {table : RuleTable σ} {rule : Rule σ} {i : Nat}
    (hr : table.rules[i]? = some rule) (page : List Char) (tag : String)
    (attributes : Attributes) (selfClosing : Bool) (stop : Nat) (ts : List Located) (s : σ)
    (log : List Call) :
    (rule.logged i).visit i table.options page tag attributes selfClosing stop ts (s, log) =
      match rule.visit i table.options page tag attributes selfClosing stop ts s with
      | (v, result, s') => (v, result, (s', log ++ v.calls table)) := by
  have hlogged := rule.asked_logged i tag attributes s log
  obtain ⟨_, _, ha⟩ | ⟨wanted, _, ha, hw⟩ | ⟨handler, _, _, ha, hc, hn⟩ |
      ⟨handler, content, _, s', _, _, ha, hc, hn, ho⟩ :=
    rule.visit_cases table.options page tag attributes selfClosing stop ts s
  all_goals rw [ha] at hlogged
  · rw [visit_failed ha, visit_failed hlogged]
    simp [Visit.calls, hr]
  · have hw' : (wanted && (rule.logged i).onContent.isSome) = false := by
      simpa [logged] using hw
    rw [visit_declined ha hw, visit_declined hlogged hw']
    simp [Visit.calls, hr]
  · have hc' : (rule.logged i).onContent = some _ := congrArg (Option.map _) hc
    rw [visit_open ha hc hn, visit_open hlogged hc' hn]
    simp [Visit.calls, hr]
  · have hc' : (rule.logged i).onContent = some _ := congrArg (Option.map _) hc
    have ho' := outcome_logging (.onContent i content) (handler content) s'
    rw [visit_content ha hc hn ho, visit_content hlogged hc' hn (ho' _), ho]
    simp [Visit.calls, hr]

/-- Logging changes nothing but the log, and leaves in it the calls of the course. -/
theorem course_logged (table : RuleTable σ) (page : List Char) (s : σ) (ts : List Located)
    (log : List Call) :
    table.logged.course page (s, log) ts =
      ⟨(table.course page s ts).visits, (table.course page s ts).result,
        ((table.course page s ts).state,
          log ++ (table.course page s ts).visits.flatMap (Visit.calls table))⟩ := by
  fun_induction RuleTable.course table page s ts generalizing log with
  | case1 s => simp
  | case2 s t ts tag attributes selfClosing ht hr ih =>
    have hl : table.logged.firstRule? tag attributes = none := by rw [firstRule?_logged, hr]; rfl
    rw [RuleTable.course_unanswered ht hl, ih]
  | case3 s t ts tag attributes selfClosing ht i rule hr v failure s' hv =>
    have hl : table.logged.firstRule? tag attributes = some (i, rule.logged i) := by
      rw [firstRule?_logged, hr]; rfl
    have hvisit := Rule.visit_logged (RuleTable.firstRule?_eq_some hr).1 page tag attributes selfClosing
      t.stop ts s log
    rw [hv] at hvisit
    rw [RuleTable.course_visit ht hl, show table.logged.options = table.options from rfl, hvisit]
    simp
  | case4 s t ts tag attributes selfClosing ht i rule hr v rest s' hv course ih =>
    have hl : table.logged.firstRule? tag attributes = some (i, rule.logged i) := by
      rw [firstRule?_logged, hr]; rfl
    have hvisit := Rule.visit_logged (RuleTable.firstRule?_eq_some hr).1 page tag attributes selfClosing
      t.stop ts s log
    rw [hv] at hvisit
    rw [RuleTable.course_visit ht hl, show table.logged.options = table.options from rfl, hvisit]
    simp only [ih, List.flatMap_cons, List.append_assoc]
    rfl
  | case5 s t ts ht ih => rw [RuleTable.course_skip ht, ih]

/-- What a page makes of a state is what the course of the table over its tokens comes to. -/
theorem runOn_eq_course (table : RuleTable σ) (page : String) (s : σ) :
    table.runOn page s =
      ((table.course page.toList s (tokens table.options page.toList)).result,
        (table.course page.toList s (tokens table.options page.toList)).state) :=
  RuleTable.readFrom_eq_course table page.toList s (tokens table.options page.toList)

/-- **A run makes exactly the calls of its course**, in the same order and with the same arguments,
and it ends with the result and in the state of its course. -/
theorem run_calls (table : RuleTable σ) (page : String) (s : σ) :
    let course := table.course page.toList s (tokens table.options page.toList)
    table.runOn page s = (course.result, course.state) ∧
      table.logged.runOn page (s, []) =
        (course.result, (course.state, course.visits.flatMap (Visit.calls table))) := by
  refine ⟨runOn_eq_course table page s, ?_⟩
  rw [runOn_eq_course, show table.logged.options = table.options from rfl, course_logged,
    List.nil_append]

end Imageboard
