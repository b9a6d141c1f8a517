import Imageboard.Proofs.Rule.Calls
import Imageboard.Proofs.Rule.Relation
import Imageboard.Proofs.Rule.Standing

/-! Calls of handlers that fail.

`records` are what the handlers of a table leave in a log on a page: each call, how it failed where
it did, and the state it left. One of the calls may be spared a failure; it then does its work all
the same and succeeds. `run_stops_at_failure`: a call that fails is the last one, the run ends with
its error and in its state, and up to there it goes as it does where that call is spared. -/
namespace Imageboard

/-- A call of a handler, the error it came to where it failed, and the state it left. -/
structure Record (σ : Type) where
  call : Call
  cause : Option HandlerError
  state : σ
  deriving DecidableEq

/-- A call that is spared a failure: the one that `place` others come before. Where it is that of an
open handler, `wanted` tells whether the content is wanted then. -/
structure Spared where
  place : Nat
  wanted : Bool

def causeOf : Except ε α → Option ε
  | .ok _ => none
  | .error cause => some cause

/-- A success in any case. -/
def spare (value : α) : Except ε α → Except ε α
  | .ok a => .ok a
  | .error _ => .ok value

/-- A handler that leaves a record of its call. -/
def recording (spared : Option Spared) (value : Spared → α) (call : Call) (handler : Handler σ α) :
    Handler (σ × List (Record σ)) α := fun (s, log) =>
  let (result, s') := outcome handler s
  let result :=
    match spared with
    | some spared => if log.length = spared.place then spare (value spared) result else result
    | none => result
  (result, (s', log ++ [⟨call, causeOf result, s'⟩]))

def Rule.recorded (spared : Option Spared) (i : Nat) (rule : Rule σ) :
    Rule (σ × List (Record σ)) where
  pattern := rule.pattern
  onOpen := rule.onOpen.map fun handler tag attributes =>
    recording spared (·.wanted) (.onOpen i tag attributes) (handler tag attributes)
  onContent := rule.onContent.map fun handler content =>
    recording spared (fun _ => ()) (.onContent i content) (handler content)

namespace RuleTable

/-- The table whose handlers leave records of their calls. -/
def recorded (spared : Option Spared) (table : RuleTable σ) : RuleTable (σ × List (Record σ)) where
  rules := table.rules.mapIdx (Rule.recorded spared)
  options := table.options

/-- The records of the calls that a table makes on a page. -/
def records (table : RuleTable σ) (spared : Option Spared) (page : String) (s : σ) :
    List (Record σ) :=
  ((table.recorded spared).runOn page (s, [])).2.2

end RuleTable

/-! ### One call -/

section
variable {spared : Spared} {value : Spared → α} {call : Call} {handler : Handler σ α}
  {x y : σ × List (Record σ)}

theorem outcome_recording (value : Spared → α) (call : Call) (handler : Handler σ α)
    (x : σ × List (Record σ)) :
    outcome (recording none value call handler) x =
      ((outcome handler x.1).1, ((outcome handler x.1).2,
        x.2 ++ [⟨call, causeOf (outcome handler x.1).1, (outcome handler x.1).2⟩])) := rfl

/-- Only the one call is spared. -/
theorem recording_other (h : x.2.length ≠ spared.place) :
    outcome (recording (some spared) value call handler) x =
      outcome (recording none value call handler) x := by
  simp only [outcome, recording, ExceptT.run, StateT.run, if_neg h]

/-- The call that is spared leaves the state it would leave otherwise. -/
theorem recording_spared {cause : HandlerError} {before : List (Record σ)} {last : Record σ}
    (ho : outcome (recording none value call handler) x = (.error cause, y))
    (hy : y.2 = before ++ [last]) (h : before.length = spared.place) :
    outcome (recording (some spared) value call handler) x =
      (.ok (value spared), (y.1, before ++ [{ last with cause := none }])) := by
  rw [outcome_recording] at ho
  obtain ⟨hresult, rfl⟩ := Prod.mk.inj ho
  obtain ⟨rfl, hlast⟩ := List.append_inj' hy rfl
  obtain rfl := List.singleton_inj.mp hlast
  simp only [outcome, ExceptT.run, StateT.run] at hresult
  simp only [outcome, recording, ExceptT.run, StateT.run, if_pos h, hresult, spare, causeOf]

/-- A call is recorded behind those that came before it, spared or not. -/
theorem isPrefix_recording (spared : Option Spared) (value : Spared → α) (call : Call)
    (handler : Handler σ α) (x : σ × List (Record σ)) :
    x.2 <+: (outcome (recording spared value call handler) x).2.2 :=
  List.prefix_append x.2 _

end

/-! ### The calls of a visit -/

/-- How records tell what some calls came to: at most the last of them failed, and it did where the
calls came to a failure. -/
structure Recounts (calls : List Call) (result : Except HandlerFailure α) (s : σ)
    (records : List (Record σ)) : Prop where
  calls : records.map (·.call) = calls
  succeeded : ∀ a, result = .ok a → ∀ r ∈ records, r.cause = none
  failed : ∀ failure, result = .error failure →
    ∃ before call, records = before ++ [⟨call, some failure.cause, s⟩] ∧ ∀ r ∈ before, r.cause = none

theorem Recounts.none (a : α) (s : σ) : Recounts [] (.ok a) s [] where
  calls := rfl
  succeeded _ _ := List.forall_mem_nil _
  failed _ h := by cases h

/-- Calls that all succeeded, and some more. -/
theorem Recounts.append {calls calls' : List Call} {result : Except HandlerFailure α}
    {result' : Except HandlerFailure β} {s s' : σ} {records records' : List (Record σ)} {a : α}
    (h : Recounts calls result s records) (ha : result = .ok a)
    (h' : Recounts calls' result' s' records') :
    Recounts (calls ++ calls') result' s' (records ++ records') where
  calls := by rw [List.map_append, h.calls, h'.calls]
  succeeded b hb := by
    rw [List.forall_mem_append]
    exact ⟨h.succeeded a ha, h'.succeeded b hb⟩
  failed failure hf := by
    obtain ⟨before, call, rfl, hbefore⟩ := h'.failed failure hf
    refine ⟨records ++ before, call, (List.append_assoc ..).symm, ?_⟩
    rw [List.forall_mem_append]
    exact ⟨h.succeeded a ha, hbefore⟩

namespace Rule
variable {rule : Rule σ} {i : Nat} {o : Options} {page : List Char} {tag : String}
  {attributes : Attributes} {selfClosing : Bool} {stop : Nat} {ts : List Located}

/-- The record of the call at a tag, where there is one. -/
def openRecords (rule : Rule σ) (i : Nat) (tag : String) (attributes : Attributes) (s : σ) :
    List (Record σ) :=
  if rule.onOpen.isSome then
    [⟨.onOpen i tag attributes, causeOf (rule.asked tag attributes s).1,
      (rule.asked tag attributes s).2⟩]
  else []

theorem asked_recorded (rule : Rule σ) (i : Nat) (tag : String) (attributes : Attributes) (s : σ)
    (log : List (Record σ)) :
    (rule.recorded none i).asked tag attributes (s, log) =
      ((rule.asked tag attributes s).1, ((rule.asked tag attributes s).2,
        log ++ rule.openRecords i tag attributes s)) := by
  unfold openRecords Rule.asked Rule.recorded
  cases rule.onOpen with
  | none => simp
  | some handler => rfl

theorem map_call_openRecords {table : RuleTable σ} (hr : table.rules[i]? = some rule) (s : σ) :
    (rule.openRecords i tag attributes s).map (·.call) =
      Visit.calls table ⟨i, tag, attributes, none⟩ := by
  unfold openRecords Visit.calls
  rw [hr, Option.any_some]
  split <;> rfl

theorem openRecords_succeeded {wanted : Bool} {s s' : σ}
    (ha : rule.asked tag attributes s = (.ok wanted, s')) :
    ∀ r ∈ rule.openRecords i tag attributes s, r.cause = none := by
  unfold openRecords
  rw [ha]
  split
  · simp [causeOf]
  · exact List.forall_mem_nil _

theorem openRecords_failed {cause : HandlerError} {s s' : σ}
    (ha : rule.asked tag attributes s = (.error cause, s')) :
    rule.openRecords i tag attributes s = [⟨.onOpen i tag attributes, some cause, s'⟩] := by
  have hopen : rule.onOpen.isSome = true := by
    unfold Rule.asked at ha
    cases ho : rule.onOpen with
    | none => rw [ho] at ha; cases ha
    | some handler => rfl
  rw [openRecords, if_pos hopen, ha]
  rfl

/-- Leaving records changes nothing but the log, and the records tell what the visit came to. -/
theorem visit_recorded {table : RuleTable σ} (hr : table.rules[i]? = some rule) {s s' : σ}
    {v : Visit} {result : Except HandlerFailure (List Located)}
    (hv : rule.visit i table.options page tag attributes selfClosing stop ts s = (v, result, s'))
    (log : List (Record σ)) :
    ∃ records, (rule.recorded none i).visit i table.options page tag attributes selfClosing stop ts
        (s, log) = (v, result, (s', log ++ records)) ∧
      Recounts (v.calls table) result s' records := by
  have hrecorded := rule.asked_recorded i tag attributes s log
  have hcalls : (rule.openRecords i tag attributes s).map (·.call) =
      Visit.calls table ⟨i, tag, attributes, none⟩ := map_call_openRecords hr s
  obtain ⟨cause, s₁, ha⟩ | ⟨wanted, s₁, ha, hw⟩ | ⟨handler, rest, s₁, ha, hc, hn⟩ |
      ⟨handler, content, rest, s₁, answer, s₂, ha, hc, hn, ho⟩ :=
    rule.visit_cases table.options page tag attributes selfClosing stop ts s
  all_goals rw [ha] at hrecorded
  · cases (visit_failed ha).symm.trans hv
    refine ⟨_, visit_failed hrecorded, hcalls, fun _ ha' => ?_, fun failure hf => ?_⟩
    · cases ha'
    · cases hf
      exact ⟨[], _, openRecords_failed ha, List.forall_mem_nil _⟩
  · cases (visit_declined ha hw).symm.trans hv
    have hw' : (wanted && (rule.recorded none i).onContent.isSome) = false := by
      simpa [recorded] using hw
    exact ⟨_, visit_declined hrecorded hw', hcalls, fun _ _ => openRecords_succeeded ha,
      fun _ hf => by cases hf⟩
  · cases (visit_open ha hc hn).symm.trans hv
    have hc' : (rule.recorded none i).onContent = some _ := congrArg (Option.map _) hc
    exact ⟨_, visit_open hrecorded hc' hn, hcalls, fun _ _ => openRecords_succeeded ha,
      fun _ hf => by cases hf⟩
  · obtain ⟨rfl, rfl, rfl⟩ : _ = v ∧ _ = result ∧ _ = s' := by
      simpa using (visit_content ha hc hn ho).symm.trans hv
    have hc' : (rule.recorded none i).onContent = some _ := congrArg (Option.map _) hc
    have ho' := outcome_recording (fun _ => ()) (.onContent i content) (handler content)
      (s₁, log ++ rule.openRecords i tag attributes s)
    rw [ho] at ho'
    refine ⟨rule.openRecords i tag attributes s ++ [⟨.onContent i content, causeOf answer, s₂⟩], ?_,
      ?_, fun a ha' => ?_, fun failure hf => ?_⟩
    · rw [visit_content hrecorded hc' hn ho', List.append_assoc]
    · rw [List.map_append, hcalls]
      simp [Visit.calls]
    · cases answer with
      | error cause => cases ha'
      | ok =>
        intro r hmem
        rcases List.mem_append.mp hmem with hmem | hmem
        · exact openRecords_succeeded ha r hmem
        · rw [List.mem_singleton.mp hmem]
          rfl
    · cases answer with
      | error cause => cases hf; exact ⟨_, _, rfl, openRecords_succeeded ha⟩
      | ok => cases hf

theorem visit_failure {s s' : σ} {v : Visit} {failure : HandlerFailure}
    (hv : rule.visit i o page tag attributes selfClosing stop ts s = (v, .error failure, s')) :
    v.tag = failure.tag ∧ v.attributes = failure.attributes := by
  obtain ⟨_, _, ha⟩ | ⟨_, _, ha, hw⟩ | ⟨_, _, _, ha, hc, hn⟩ | ⟨_, _, _, _, answer, _, ha, hc, hn, ho⟩ :=
    rule.visit_cases o page tag attributes selfClosing stop ts s
  · cases (visit_failed ha).symm.trans hv
    exact ⟨rfl, rfl⟩
  · cases (visit_declined ha hw).symm.trans hv
  · cases (visit_open ha hc hn).symm.trans hv
  · have hresult := (visit_content ha hc hn ho).symm.trans hv
    cases answer with
    | ok => cases hresult
    | error cause => cases hresult; exact ⟨rfl, rfl⟩

/-! The same visit with a call that is spared. -/

variable {spared : Spared} {x y : σ × List (Record σ)} {v : Visit}
  {result : Except HandlerFailure (List Located)}

theorem asked_other (h : ((rule.recorded none i).asked tag attributes x).2.2.length ≤ spared.place) :
    (rule.recorded (some spared) i).asked tag attributes x =
      (rule.recorded none i).asked tag attributes x := by
  unfold Rule.asked Rule.recorded at h ⊢
  cases ho : rule.onOpen with
  | none => rfl
  | some handler =>
    rw [ho] at h
    simp only [Option.map_some, outcome_recording, List.length_append, List.length_singleton] at h
    exact recording_other (by omega)

/-- A visit that is over before the call to be spared goes as it does without sparing. -/
theorem visit_other
    (hv : (rule.recorded none i).visit i o page tag attributes selfClosing stop ts x = (v, result, y))
    (h : y.2.length ≤ spared.place) :
    (rule.recorded (some spared) i).visit i o page tag attributes selfClosing stop ts x =
      (v, result, y) := by
  obtain ⟨cause, x₁, ha⟩ | ⟨wanted, x₁, ha, hw⟩ | ⟨handler, rest, x₁, ha, hc, hn⟩ |
      ⟨handler, content, rest, x₁, answer, x₂, ha, hc, hn, ho⟩ :=
    (rule.recorded none i).visit_cases o page tag attributes selfClosing stop ts x
  · cases (visit_failed ha).symm.trans hv
    exact visit_failed ((asked_other (by rwa [ha])).trans ha)
  · cases (visit_declined ha hw).symm.trans hv
    have hw' : (wanted && (rule.recorded (some spared) i).onContent.isSome) = false := by
      simpa [recorded] using hw
    exact visit_declined ((asked_other (by rwa [ha])).trans ha) hw'
  · cases (visit_open ha hc hn).symm.trans hv
    obtain ⟨content, hcontent, -⟩ := Option.map_eq_some_iff.mp hc
    have hc' : (rule.recorded (some spared) i).onContent = some _ :=
      congrArg (Option.map _) hcontent
    exact visit_open ((asked_other (by rwa [ha])).trans ha) hc' hn
  · obtain ⟨rfl, rfl, rfl⟩ : _ = v ∧ _ = result ∧ _ = y := by
      simpa using (visit_content ha hc hn ho).symm.trans hv
    obtain ⟨handler, hcontent, rfl⟩ := Option.map_eq_some_iff.mp hc
    have hc' : (rule.recorded (some spared) i).onContent = some _ :=
      congrArg (Option.map _) hcontent
    have hlength : x₂.2.length = x₁.2.length + 1 := by
      rw [← (Prod.mk.inj ho).2]
      exact List.length_append
    refine visit_content ((asked_other (by rw [ha]; dsimp only; omega)).trans ha) hc' hn ?_
    exact (recording_other (by omega)).trans ho

theorem asked_spared {cause : HandlerError} {before : List (Record σ)} {last : Record σ}
    (ha : (rule.recorded none i).asked tag attributes x = (.error cause, y))
    (hy : y.2 = before ++ [last]) (h : before.length = spared.place) :
    (rule.recorded (some spared) i).asked tag attributes x =
      (.ok spared.wanted, (y.1, before ++ [{ last with cause := none }])) := by
  unfold Rule.asked Rule.recorded at ha ⊢
  cases ho : rule.onOpen with
  | none => rw [ho] at ha; cases ha
  | some handler =>
    rw [ho] at ha
    exact recording_spared ha hy h

theorem isPrefix_visit (spared : Option Spared) (rule : Rule σ) (i : Nat) (o : Options)
    (page : List Char) (tag : String) (attributes : Attributes) (selfClosing : Bool) (stop : Nat)
    (ts : List Located) (x : σ × List (Record σ)) :
    ((rule.recorded spared i).asked tag attributes x).2.2 <+:
      ((rule.recorded spared i).visit i o page tag attributes selfClosing stop ts x).2.2.2 := by
  obtain ⟨_, _, ha⟩ | ⟨_, _, ha, hw⟩ | ⟨_, _, _, ha, hc, hn⟩ | ⟨_, content, _, x₁, _, _, ha, hc, hn, ho⟩ :=
    (rule.recorded spared i).visit_cases o page tag attributes selfClosing stop ts x
  · simp only [visit_failed ha, ha, List.prefix_rfl]
  · simp only [visit_declined ha hw, ha, List.prefix_rfl]
  · simp only [visit_open ha hc hn, ha, List.prefix_rfl]
  · rw [visit_content ha hc hn ho, ha]
    obtain ⟨handler, -, rfl⟩ := Option.map_eq_some_iff.mp hc
    have hprefix := isPrefix_recording spared (fun _ => ()) (.onContent i content) (handler content) x₁
    rwa [ho] at hprefix

/-- A visit that fails at the call to be spared makes the same calls where it is spared. -/
theorem visit_spared {failure : HandlerFailure} {before : List (Record σ)} {last : Record σ}
    (hv : (rule.recorded none i).visit i o page tag attributes selfClosing stop ts x =
      (v, .error failure, y))
    (hy : y.2 = before ++ [last]) (h : before.length = spared.place) :
    before ++ [{ last with cause := none }] <+:
      ((rule.recorded (some spared) i).visit i o page tag attributes selfClosing stop ts x).2.2.2 := by
  obtain ⟨cause, x₁, ha⟩ | ⟨wanted, x₁, ha, hw⟩ | ⟨handler, rest, x₁, ha, hc, hn⟩ |
      ⟨handler, content, rest, x₁, answer, x₂, ha, hc, hn, ho⟩ :=
    (rule.recorded none i).visit_cases o page tag attributes selfClosing stop ts x
  · cases (visit_failed ha).symm.trans hv
    have hprefix := isPrefix_visit (some spared) rule i o page tag attributes selfClosing stop ts x
    rwa [asked_spared ha hy h] at hprefix
  · cases (visit_declined ha hw).symm.trans hv
  · cases (visit_open ha hc hn).symm.trans hv
  · have hresult := (visit_content ha hc hn ho).symm.trans hv
    cases answer with
    | ok => cases hresult
    | error cause =>
      cases hresult
      obtain ⟨handler, hcontent, rfl⟩ := Option.map_eq_some_iff.mp hc
      have hc' : (rule.recorded (some spared) i).onContent = some _ :=
        congrArg (Option.map _) hcontent
      have hlength : x₁.2.length = before.length := by
        have hlength := congrArg List.length ((congrArg Prod.snd (Prod.mk.inj ho).2).trans hy)
        rw [List.length_append, List.length_append] at hlength
        exact Nat.add_right_cancel hlength
      have ha' : (rule.recorded (some spared) i).asked tag attributes x = (.ok true, x₁) :=
        (asked_other (by rw [ha]; exact Nat.le_of_eq (hlength.trans h))).trans ha
      simp only [visit_content ha' hc' hn (recording_spared ho hy h), List.prefix_rfl]

end Rule

/-! ### The calls of a page -/

namespace RuleTable
variable {table : RuleTable σ} {tag : String} {attributes : Attributes}

theorem firstRule?_recorded (table : RuleTable σ) (spared : Option Spared) (tag : String)
    (attributes : Attributes) :
    (table.recorded spared).firstRule? tag attributes =
      (table.firstRule? tag attributes).map fun (i, rule) => (i, rule.recorded spared i) :=
  firstRule?_mapIdx table (Rule.recorded spared) (fun _ _ => rfl) table.options tag attributes

theorem course_recorded (table : RuleTable σ) (page : List Char) (s : σ) (ts : List Located)
    (log : List (Record σ)) :
    ∃ records, (table.recorded none).course page (s, log) ts =
        ⟨(table.course page s ts).visits, (table.course page s ts).result,
          ((table.course page s ts).state, log ++ records)⟩ ∧
      Recounts ((table.course page s ts).visits.flatMap (Visit.calls table))
        (table.course page s ts).result (table.course page s ts).state records := by
  fun_induction RuleTable.course table page s ts generalizing log with
  | case1 s => exact ⟨[], by simp, .none () s⟩
  | case2 s t ts tag attributes selfClosing ht hr ih =>
    have hl : (table.recorded none).firstRule? tag attributes = none := by
      rw [firstRule?_recorded, hr]; rfl
    rw [course_unanswered ht hl]
    exact ih log
  | case3 s t ts tag attributes selfClosing ht i rule hr v failure s' hv =>
    have hl : (table.recorded none).firstRule? tag attributes = some (i, rule.recorded none i) := by
      rw [firstRule?_recorded, hr]; rfl
    obtain ⟨records, hrecorded, hrecounts⟩ := Rule.visit_recorded (firstRule?_eq_some hr).1 hv log
    rw [course_visit ht hl, show (table.recorded none).options = table.options from rfl, hrecorded]
    refine ⟨records, rfl, ?_, fun _ ha => ?_, fun _ hf => ?_⟩
    · rw [List.flatMap_singleton]
      exact hrecounts.calls
    · cases ha
    · cases hf
      exact hrecounts.failed failure rfl
  | case4 s t ts tag attributes selfClosing ht i rule hr v rest s' hv course ih =>
    have hl : (table.recorded none).firstRule? tag attributes = some (i, rule.recorded none i) := by
      rw [firstRule?_recorded, hr]; rfl
    obtain ⟨records, hrecorded, hrecounts⟩ := Rule.visit_recorded (firstRule?_eq_some hr).1 hv log
    rw [course_visit ht hl, show (table.recorded none).options = table.options from rfl, hrecorded]
    obtain ⟨later, hcourse, hlater⟩ := ih (log ++ records)
    refine ⟨records ++ later, ?_, hrecounts.append rfl hlater⟩
    dsimp only
    rw [hcourse, List.append_assoc]
  | case5 s t ts ht ih =>
    rw [course_skip ht]
    exact ih log

/-- A failure is told with the tag that was answered last, and a handler was called for that. -/
theorem course_failure {page : List Char} {s : σ} {ts : List Located} {failure : HandlerFailure}
    (h : (table.course page s ts).result = .error failure) :
    ∃ v, (table.course page s ts).visits.getLast? = some v ∧ v.tag = failure.tag ∧
      v.attributes = failure.attributes ∧ v.calls table ≠ [] := by
  fun_induction RuleTable.course table page s ts with
  | case1 s => cases h
  | case2 s t ts tag attributes selfClosing ht hr ih => exact ih h
  | case3 s t ts tag attributes selfClosing ht i rule hr v failure' s' hv =>
    cases h
    obtain ⟨htag, hattributes⟩ := Rule.visit_failure hv
    obtain ⟨_, -, hrecounts⟩ := Rule.visit_recorded (firstRule?_eq_some hr).1 hv []
    obtain ⟨before, call, rfl, -⟩ := hrecounts.failed failure rfl
    refine ⟨v, rfl, htag, hattributes, ?_⟩
    rw [← hrecounts.calls]
    simp
  | case4 s t ts tag attributes selfClosing ht i rule hr v rest s' hv course ih =>
    obtain ⟨last, hlast, hrest⟩ := ih h
    exact ⟨last, by rw [List.getLast?_cons, hlast]; rfl, hrest⟩
  | case5 s t ts ht ih => exact ih h

/-- What is recorded stays in the log to the end of the page. -/
theorem isPrefix_course (table : RuleTable σ) (spared : Option Spared) (page : List Char)
    (x : σ × List (Record σ)) (ts : List Located) :
    x.2 <+: ((table.recorded spared).course page x ts).state.2 := by
  have hkeeps : ∀ v ∈ ((table.recorded spared).course page x ts).visits, ∀ rule,
      (table.recorded spared).rules[v.rule]? = some rule →
        rule.Keeps fun y z => y = z ∧ x.2 <+: y.2 := by
    intro v _ rule hrule
    have hmapped : (table.rules.mapIdx (Rule.recorded spared))[v.rule]? = some rule := hrule
    rw [List.getElem?_mapIdx] at hmapped
    obtain ⟨bare, -, rfl⟩ := Option.map_eq_some_iff.mp hmapped
    refine ⟨?_, ?_⟩
    · rintro _ h tag attributes y _ ⟨rfl, hy⟩
      obtain ⟨handler, -, rfl⟩ := Option.map_eq_some_iff.mp h
      exact ⟨rfl, rfl, hy.trans (isPrefix_recording ..)⟩
    · rintro _ h content y _ ⟨rfl, hy⟩
      obtain ⟨handler, -, rfl⟩ := Option.map_eq_some_iff.mp h
      exact ⟨rfl, rfl, hy.trans (isPrefix_recording ..)⟩
  exact (course_alike _ page ⟨rfl, List.prefix_refl x.2⟩ ts hkeeps).2.2.2

theorem isPrefix_course_visit {spared : Option Spared} {t : Located} {selfClosing : Bool} {i : Nat}
    {rule : Rule (σ × List (Record σ))} (ht : t.token = .openTag tag attributes selfClosing)
    (hr : (table.recorded spared).firstRule? tag attributes = some (i, rule)) (page : List Char)
    (x : σ × List (Record σ)) (ts : List Located) :
    (rule.visit i table.options page tag attributes selfClosing t.stop ts x).2.2.2 <+:
      ((table.recorded spared).course page x (t :: ts)).state.2 := by
  rw [course_visit ht hr, show (table.recorded spared).options = table.options from rfl]
  match rule.visit i table.options page tag attributes selfClosing t.stop ts x with
  | (v, .error failure, y) => exact List.prefix_refl y.2
  | (v, .ok rest, y) => exact isPrefix_course table spared page y rest

/-- Up to the call that fails, a page is read as it is where that call is spared. -/
theorem course_spared {spared : Spared} {failure : HandlerFailure} {before : List (Record σ)}
    {last : Record σ} {page : List Char} {x : σ × List (Record σ)} {ts : List Located}
    (hresult : ((table.recorded none).course page x ts).result = .error failure)
    (hlog : ((table.recorded none).course page x ts).state.2 = before ++ [last])
    (h : before.length = spared.place) :
    before ++ [{ last with cause := none }] <+:
      ((table.recorded (some spared)).course page x ts).state.2 := by
  have hrules {tag : String} {attributes : Attributes} {i : Nat} {rule : Rule (σ × List (Record σ))}
      (hr : (table.recorded none).firstRule? tag attributes = some (i, rule)) :
      ∃ bare : Rule σ, rule = bare.recorded none i ∧
        (table.recorded (some spared)).firstRule? tag attributes =
          some (i, bare.recorded (some spared) i) := by
    rw [firstRule?_recorded] at hr ⊢
    obtain ⟨⟨j, bare⟩, hbare, heq⟩ := Option.map_eq_some_iff.mp hr
    obtain ⟨rfl, rfl⟩ := Prod.mk.inj heq
    exact ⟨bare, rfl, by rw [hbare]; rfl⟩
  fun_induction RuleTable.course (table.recorded none) page x ts with
  | case1 x => cases hresult
  | case2 x t ts tag attributes selfClosing ht hr ih =>
    have hl : (table.recorded (some spared)).firstRule? tag attributes = none := by
      rw [firstRule?_recorded, Option.map_eq_none_iff] at hr ⊢
      exact hr
    rw [course_unanswered ht hl]
    exact ih hresult hlog
  | case3 x t ts tag attributes selfClosing ht i rule hr v failure' y hv =>
    obtain ⟨bare, rfl, hl⟩ := hrules hr
    exact (Rule.visit_spared hv hlog h).trans (isPrefix_course_visit ht hl page x ts)
  | case4 x t ts tag attributes selfClosing ht i rule hr v rest y hv course ih =>
    obtain ⟨bare, rfl, hl⟩ := hrules hr
    -- The failing call is still to come, so this visit has ended before it.
    have hlength : y.2.length ≤ spared.place := by
      obtain ⟨records, hrecorded, hrecounts⟩ := course_recorded table page y.1 rest y.2
      obtain ⟨later, call, rfl, -⟩ :=
        hrecounts.failed failure ((congrArg Course.result hrecorded).symm.trans hresult)
      have hlog' := congrArg List.length
        ((congrArg (fun course => course.state.2) hrecorded).symm.trans hlog)
      simp only [List.length_append, List.length_singleton] at hlog'
      omega
    rw [course_visit ht hl, show (table.recorded (some spared)).options =
      (table.recorded none).options from rfl, Rule.visit_other hv hlength]
    exact ih hresult hlog
  | case5 x t ts ht ih =>
    rw [course_skip ht]
    exact ih hresult hlog

end RuleTable

theorem records_eq_course (table : RuleTable σ) (spared : Option Spared) (page : String) (s : σ) :
    table.records spared page s =
      ((table.recorded spared).course page.toList (s, [])
        (tokens table.options page.toList)).state.2 := by
  unfold RuleTable.records
  rw [runOn_eq_course]
  rfl

/-- The calls that a table makes on a page are `earlier` and then `last`, which it makes for the tag
of `v`. That is the last tag it answers, and the content that `v` has is that of the element which
the tag begins. -/
structure RuleTable.EndsWith (table : RuleTable σ) (page : String) (s : σ) (earlier : List Call)
    (last : Call) (v : Visit) : Prop where
  calls : (table.course page.toList s (tokens table.options page.toList)).visits.flatMap
    (Visit.calls table) = earlier ++ [last]
  visit : (table.course page.toList s (tokens table.options page.toList)).visits.getLast? = some v
  call : (v.calls table).getLast? = some last
  stands : ∃ t, v.StandsAt table.options page.toList (tokens table.options page.toList) t

/-- **A run stops at the first call that fails.** The run ends with the error of that call, told
with the tag that it was made for, and in the state it left. The calls up to it are the first ones
that are made where the call succeeds instead, leaving the same state. -/
theorem run_stops_at_failure (table : RuleTable σ) (page : String) (s : σ) {k : Nat} {call : Call}
    {cause : HandlerError} {s' : σ}
    (h : (table.records none page s)[k]? = some ⟨call, some cause, s'⟩) :
    ∃ before v, before.length = k ∧
      table.records none page s = before ++ [⟨call, some cause, s'⟩] ∧
      table.EndsWith page s (before.map (·.call)) call v ∧
      table.runOn page s = (.error ⟨v.tag, v.attributes, cause⟩, s') ∧
      ∀ wanted, before ++ [⟨call, none, s'⟩] <+: table.records (some ⟨k, wanted⟩) page s := by
  obtain ⟨records, hrecorded, hrecounts⟩ :=
    table.course_recorded page.toList s (tokens table.options page.toList) []
  have hrecords : table.records none page s = records := by
    rw [records_eq_course, hrecorded]
    rfl
  rw [hrecords] at h ⊢
  cases hresult : (table.course page.toList s (tokens table.options page.toList)).result with
  | ok =>
    have hnone := hrecounts.succeeded () hresult _ (List.mem_of_getElem? h)
    cases hnone
  | error failure =>
    obtain ⟨before, last, rfl, hbefore⟩ := hrecounts.failed failure hresult
    -- No call before the last one failed, so the call asked about is the last.
    obtain ⟨rfl, hlast⟩ : k = before.length ∧
        (⟨last, some failure.cause, _⟩ : Record σ) = ⟨call, some cause, s'⟩ := by
      rcases Nat.lt_trichotomy k before.length with hk | rfl | hk
      · rw [List.getElem?_append_left hk] at h
        cases hbefore _ (List.mem_of_getElem? h)
      · rw [List.getElem?_concat_length] at h
        exact ⟨rfl, Option.some.inj h⟩
      · rw [List.getElem?_append_right (by omega), List.getElem?_singleton, if_neg (by omega)] at h
        cases h
    obtain ⟨rfl, hcause, hstate⟩ : last = call ∧ failure.cause = cause ∧ _ = s' := by
      simpa only [Record.mk.injEq, Option.some.injEq] using hlast
    rw [hlast] at hrecorded hrecounts ⊢
    obtain ⟨v, hv, htag, hattributes, hcalls⟩ := RuleTable.course_failure hresult
    refine ⟨before, v, rfl, rfl, ⟨?calls, hv, ?call, ?stands⟩, ?run, fun wanted => ?_⟩
    case calls => rw [← hrecounts.calls, List.map_append, List.map_singleton]
    case call =>
      obtain ⟨earlier, hvisits⟩ := List.getLast?_eq_some_iff.mp hv
      have hmade := hrecounts.calls
      rw [hvisits, List.flatMap_append, List.flatMap_singleton, List.map_append] at hmade
      have hends := congrArg List.getLast? hmade
      rw [List.getLast?_append_of_ne_nil _ hcalls] at hends
      exact hends.symm.trans List.getLast?_concat
    case stands =>
      have hstand := table.course_stands page.toList s (tokens table.options page.toList)
      exact hstand.exists_standsAt (List.mem_of_getLast? hv)
    case run => rw [runOn_eq_course, hresult, hstate, htag, hattributes, ← hcause]
    have hfailed : ((table.recorded none).course page.toList (s, [])
        (tokens table.options page.toList)).result = .error failure := by
      rw [hrecorded]
      exact hresult
    have hlog : ((table.recorded none).course page.toList (s, [])
        (tokens table.options page.toList)).state.2 = before ++ [⟨last, some cause, s'⟩] := by
      rw [hrecorded]
      rfl
    rw [records_eq_course]
    exact RuleTable.course_spared hfailed hlog rfl

/-- A handler that fails on content which the page leaves open, after the handler of another tag. -/
theorem failure_at_end_of_page :
    let table : RuleTable Nat :=
      ⟨[{ pattern := .name "i", onOpen := some fun _ _ => do modify (· + 1); return false },
        { pattern := .name "b", onContent := some fun _ => do modify (· + 1); throw (.custom "no") }],
        {}⟩
    (table.records none "<i><b k=v>x<i>" 0)[1]? =
        some ⟨.onContent 1 "x<i>", some (.custom "no"), 2⟩ ∧
      ∃ before v, before.length = 1 ∧
        table.records none "<i><b k=v>x<i>" 0 =
          before ++ [⟨.onContent 1 "x<i>", some (.custom "no"), 2⟩] ∧
        table.EndsWith "<i><b k=v>x<i>" 0 (before.map (·.call)) (.onContent 1 "x<i>") v ∧
        table.runOn "<i><b k=v>x<i>" 0 = (.error ⟨v.tag, v.attributes, .custom "no"⟩, 2) ∧
        ∀ wanted, before ++ [⟨.onContent 1 "x<i>", none, 2⟩] <+:
          table.records (some ⟨1, wanted⟩) "<i><b k=v>x<i>" 0 :=
  ⟨by decide +kernel, run_stops_at_failure _ _ _ (by decide +kernel)⟩

end Imageboard
