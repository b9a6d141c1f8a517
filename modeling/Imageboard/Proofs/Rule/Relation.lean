import Imageboard.Proofs.Rule.Capture

/-! Two readings of one page that start from related states.

A relation between states that the handlers keep is kept by a whole reading: `course_alike`. Only
the rules that answer a tag have to keep it, so that a page which leaves a rule alone tells nothing
about the handlers of that rule. -/
namespace Imageboard

/-- What is asked of the handlers of a rule, where it has any. -/
structure Rule.Each (P : OpenHandler σ → Prop) (Q : ContentHandler σ → Prop) (rule : Rule σ) :
    Prop where
  onOpen : ∀ handler, rule.onOpen = some handler → P handler
  onContent : ∀ handler, rule.onContent = some handler → Q handler

/-- The same result, and related states. -/
def Alike (R : σ → σ → Prop) (x y : α × σ) : Prop := x.1 = y.1 ∧ R x.2 y.2

def OpenHandler.Keeps (R : σ → σ → Prop) (handler : OpenHandler σ) : Prop :=
  ∀ tag attributes s t, R s t →
    Alike R (outcome (handler tag attributes) s) (outcome (handler tag attributes) t)

def ContentHandler.Keeps (R : σ → σ → Prop) (handler : ContentHandler σ) : Prop :=
  ∀ content s t, R s t → Alike R (outcome (handler content) s) (outcome (handler content) t)

/-- From related states the handlers of the rule come to the same and leave related states. -/
abbrev Rule.Keeps (R : σ → σ → Prop) : Rule σ → Prop :=
  Rule.Each (OpenHandler.Keeps R) (ContentHandler.Keeps R)

theorem Alike.mono {R S : σ → σ → Prop} (h : ∀ s t, R s t → S s t) {x y : α × σ}
    (hxy : Alike R x y) : Alike S x y :=
  ⟨hxy.1, h _ _ hxy.2⟩

namespace Rule.Keeps
variable {rule : Rule σ} {R S : σ → σ → Prop}

theorem or (hR : rule.Keeps R) (hS : rule.Keeps S) : rule.Keeps fun s t => R s t ∨ S s t where
  onOpen handler hh tag attributes s t hst :=
    hst.elim (fun h => (hR.onOpen handler hh tag attributes s t h).mono fun _ _ => .inl)
      fun h => (hS.onOpen handler hh tag attributes s t h).mono fun _ _ => .inr
  onContent handler hh content s t hst :=
    hst.elim (fun h => (hR.onContent handler hh content s t h).mono fun _ _ => .inl)
      fun h => (hS.onContent handler hh content s t h).mono fun _ _ => .inr

theorem ofAll {ι : Type} {Q : ι → σ → σ → Prop} (h : ∀ i, rule.Keeps (Q i)) :
    rule.Keeps fun s t => ∃ i, Q i s t where
  onOpen handler hh tag attributes s t := fun ⟨i, hst⟩ =>
    ((h i).onOpen handler hh tag attributes s t hst).mono fun _ _ hst => ⟨i, hst⟩
  onContent handler hh content s t := fun ⟨i, hst⟩ =>
    ((h i).onContent handler hh content s t hst).mono fun _ _ hst => ⟨i, hst⟩

end Rule.Keeps

/-! ### Handlers that never fail -/

def OpenHandler.NeverFails (handler : OpenHandler σ) : Prop :=
  ∀ tag attributes s, ∃ wanted s', outcome (handler tag attributes) s = (.ok wanted, s')

def ContentHandler.NeverFails (handler : ContentHandler σ) : Prop :=
  ∀ content s, ∃ s', outcome (handler content) s = (.ok (), s')

abbrev Rule.NeverFails : Rule σ → Prop :=
  Rule.Each OpenHandler.NeverFails ContentHandler.NeverFails

namespace Rule
variable {R : σ → σ → Prop} {rule : Rule σ}

theorem Keeps.asked (h : rule.Keeps R) (tag : String) (attributes : Attributes) {s t : σ}
    (hst : R s t) : Alike R (rule.asked tag attributes s) (rule.asked tag attributes t) := by
  unfold Rule.asked
  cases ho : rule.onOpen with
  | none => exact ⟨rfl, hst⟩
  | some handler => exact h.onOpen handler ho tag attributes s t hst

theorem Keeps.visit (h : rule.Keeps R) (i : Nat) (o : Options) (page : List Char) (tag : String)
    (attributes : Attributes) (selfClosing : Bool) (stop : Nat) (ts : List Located) {s t : σ}
    (hst : R s t) :
    ∃ v result s' t', rule.visit i o page tag attributes selfClosing stop ts s = (v, result, s') ∧
      rule.visit i o page tag attributes selfClosing stop ts t = (v, result, t') ∧ R s' t' := by
  obtain ⟨hanswer, hasked⟩ := h.asked tag attributes hst
  obtain ⟨t', ht⟩ : ∃ t', rule.asked tag attributes t = ((rule.asked tag attributes s).1, t') :=
    ⟨(rule.asked tag attributes t).2, Prod.ext hanswer.symm rfl⟩
  rw [ht] at hasked
  obtain ⟨_, _, hs⟩ | ⟨_, _, hs, hw⟩ | ⟨_, _, _, hs, hc, hn⟩ |
      ⟨handler, content, _, s', _, _, hs, hc, hn, ho⟩ :=
    rule.visit_cases o page tag attributes selfClosing stop ts s
  all_goals rw [hs] at ht hasked
  · exact ⟨_, _, _, _, visit_failed hs, visit_failed ht, hasked⟩
  · exact ⟨_, _, _, _, visit_declined hs hw, visit_declined ht hw, hasked⟩
  · exact ⟨_, _, _, _, visit_open hs hc hn, visit_open ht hc hn, hasked⟩
  · obtain ⟨hresult, htaken⟩ := h.onContent handler hc content s' t' hasked
    rw [ho] at hresult htaken
    have ho' : outcome (handler content) t' = (_, (outcome (handler content) t').2) :=
      Prod.ext hresult.symm rfl
    exact ⟨_, _, _, _, visit_content hs hc hn ho, visit_content ht hc hn ho', htaken⟩

theorem NeverFails.asked (h : rule.NeverFails) (tag : String) (attributes : Attributes) (s : σ) :
    ∃ wanted s', rule.asked tag attributes s = (.ok wanted, s') := by
  unfold Rule.asked
  cases ho : rule.onOpen with
  | none => exact ⟨true, s, rfl⟩
  | some handler => exact h.onOpen handler ho tag attributes s

theorem NeverFails.visit (h : rule.NeverFails) (i : Nat) (o : Options) (page : List Char)
    (tag : String) (attributes : Attributes) (selfClosing : Bool) (stop : Nat) (ts : List Located)
    (s : σ) :
    ∃ v rest s', rule.visit i o page tag attributes selfClosing stop ts s = (v, .ok rest, s') := by
  obtain ⟨cause, _, ha⟩ | ⟨_, _, ha, hw⟩ | ⟨_, _, _, ha, hc, hn⟩ |
      ⟨handler, content, _, s', _, _, ha, hc, hn, ho⟩ :=
    rule.visit_cases o page tag attributes selfClosing stop ts s
  · obtain ⟨wanted, s'', hok⟩ := h.asked tag attributes s
    cases ha.symm.trans hok
  · exact ⟨_, _, _, visit_declined ha hw⟩
  · exact ⟨_, _, _, visit_open ha hc hn⟩
  · obtain ⟨s'', hok⟩ := h.onContent handler hc content s'
    exact ⟨_, _, _, visit_content ha hc hn hok⟩

end Rule

namespace RuleTable

/-- Every tag that is answered matches the rule that answers it. -/
theorem course_matches (table : RuleTable σ) (page : List Char) (s : σ) (ts : List Located) :
    ∀ v ∈ (table.course page s ts).visits, ∃ rule, table.rules[v.rule]? = some rule ∧
      rule.pattern.matchesTag v.tag v.attributes = true := by
  fun_induction RuleTable.course table page s ts with
  | case1 s => intro v hv; cases hv
  | case2 s t ts tag attributes selfClosing ht hr ih => exact ih
  | case3 s t ts tag attributes selfClosing ht i rule hr v failure s' hv =>
    intro u hu
    obtain rfl := List.mem_singleton.mp hu
    obtain ⟨rfl, rfl, rfl⟩ := Rule.visit_tag hv
    exact ⟨rule, firstRule?_eq_some hr⟩
  | case4 s t ts tag attributes selfClosing ht i rule hr v rest s' hv course ih =>
    intro u hu
    rcases List.mem_cons.mp hu with rfl | hu
    · obtain ⟨rfl, rfl, rfl⟩ := Rule.visit_tag hv
      exact ⟨rule, firstRule?_eq_some hr⟩
    · exact ih u hu
  | case5 s t ts ht ih => exact ih

/-- A relation that is kept by the rules which answer the page is kept by the reading of the page,
and from related states the same tags are answered. -/
theorem course_alike {R : σ → σ → Prop} (table : RuleTable σ) (page : List Char) {s t : σ}
    (hst : R s t) (ts : List Located)
    (hk : ∀ v ∈ (table.course page s ts).visits, ∀ rule, table.rules[v.rule]? = some rule →
      rule.Keeps R) :
    (table.course page t ts).visits = (table.course page s ts).visits ∧
      (table.course page t ts).result = (table.course page s ts).result ∧
      R (table.course page s ts).state (table.course page t ts).state := by
  revert t
  fun_induction RuleTable.course table page s ts with
  | case1 s => intro t hst; rw [course_nil]; exact ⟨rfl, rfl, hst⟩
  | case2 s u ts tag attributes selfClosing hu hr ih =>
    intro t hst
    rw [course_unanswered hu hr]
    exact ih hk hst
  | case3 s u ts tag attributes selfClosing hu i rule hr v failure s' hv =>
    intro t hst
    obtain ⟨hget, -⟩ := firstRule?_eq_some hr
    have hi := (Rule.visit_tag hv).1
    have hrule := hk v (List.mem_singleton.mpr rfl) rule (by rw [hi]; exact hget)
    obtain ⟨w, result, s'', t', hs, ht, hafter⟩ :=
      hrule.visit i table.options page tag attributes selfClosing u.stop ts hst
    rw [hv] at hs
    obtain ⟨rfl, rfl, rfl⟩ : v = w ∧ .error failure = result ∧ s' = s'' := by simpa using hs
    rw [course_visit hu hr, ht]
    exact ⟨rfl, rfl, hafter⟩
  | case4 s u ts tag attributes selfClosing hu i rule hr v rest s' hv course ih =>
    intro t hst
    obtain ⟨hget, -⟩ := firstRule?_eq_some hr
    have hi := (Rule.visit_tag hv).1
    have hrule := hk v List.mem_cons_self rule (by rw [hi]; exact hget)
    obtain ⟨w, result, s'', t', hs, ht, hafter⟩ :=
      hrule.visit i table.options page tag attributes selfClosing u.stop ts hst
    rw [hv] at hs
    obtain ⟨rfl, rfl, rfl⟩ : v = w ∧ .ok rest = result ∧ s' = s'' := by simpa using hs
    obtain ⟨hvisits, hresult, hstates⟩ := ih (fun x hx => hk x (List.mem_cons_of_mem _ hx)) hafter
    rw [course_visit hu hr, ht]
    exact ⟨congrArg (v :: ·) hvisits, hresult, hstates⟩
  | case5 s u ts hu ih =>
    intro t hst
    rw [course_skip hu]
    exact ih hk hst

/-- Where no handler ever fails, a page is read to its end. -/
theorem course_ok {table : RuleTable σ} (h : ∀ rule ∈ table.rules, rule.NeverFails)
    (page : List Char) (s : σ) (ts : List Located) :
    (table.course page s ts).result = .ok () := by
  fun_induction RuleTable.course table page s ts with
  | case1 s => rfl
  | case2 s t ts tag attributes selfClosing ht hr ih => exact ih
  | case3 s t ts tag attributes selfClosing ht i rule hr v failure s' hv =>
    have hrule := h rule (List.mem_of_getElem? (firstRule?_eq_some hr).1)
    obtain ⟨w, rest, s'', hs⟩ :=
      hrule.visit i table.options page tag attributes selfClosing t.stop ts s
    rw [hv] at hs
    cases hs
  | case4 s t ts tag attributes selfClosing ht i rule hr v rest s' hv course ih => exact ih
  | case5 s t ts ht ih => exact ih

end RuleTable

end Imageboard
