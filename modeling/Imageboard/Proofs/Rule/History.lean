import Imageboard.Proofs.Rule.Sheet

/-! The states that a page is read through.

`Sheet.stateAt` is the state after the first `n` tags that a sheet answers on a page. Each of them
is answered in the state that the ones before it leave (`visits_made`), and the page ends in the
last one (`readWithSheet_state`), so that what every answer keeps is true all the way:
`stateAt_induction`. -/
namespace Imageboard

/-- The state after a tag has been answered, its content included. -/
def Visit.apply (table : RuleTable σ) (s : σ) (v : Visit) : σ :=
  match table.rules[v.rule]? with
  | none => s
  | some rule =>
    match v.content, rule.onContent with
    | some content, some handler =>
      (outcome (handler content) (rule.asked v.tag v.attributes s).2).2
    | _, _ => (rule.asked v.tag v.attributes s).2

/-- What is true of a tag that a table answers in a state: the first rule that matches it is the one
to answer, and the content is taken where that rule wants it. -/
def Visit.MadeIn (table : RuleTable σ) (s : σ) (v : Visit) : Prop :=
  ∃ rule, table.firstRule? v.tag v.attributes = some (v.rule, rule) ∧
    (table.options.flushOpenCapture = true →
      (v.content.isSome = true ↔
        (rule.asked v.tag v.attributes s).1 = .ok true ∧ rule.onContent.isSome = true))

/-- A relation that the rule for a tag keeps is kept by answering the tag. -/
theorem Visit.apply_keeps {table : RuleTable σ} {R : σ → σ → Prop} {v : Visit}
    (hk : ∀ rule, table.rules[v.rule]? = some rule → rule.Keeps R) {s t : σ} (hst : R s t) :
    R (v.apply table s) (v.apply table t) := by
  unfold apply
  cases hr : table.rules[v.rule]? with
  | none => exact hst
  | some rule =>
    have hrule := hk rule hr
    have hasked := (hrule.asked v.tag v.attributes hst).2
    cases v.content with
    | none => exact hasked
    | some content =>
      dsimp only
      cases hc : rule.onContent with
      | none => exact hasked
      | some handler => exact (hrule.onContent handler hc content _ _ hasked).2

/-- Where an open capture is handed over at the end of the page, there is always a content. -/
theorem contentOf_isSome {o : Options} (ho : o.flushOpenCapture = true) (page : List Char)
    (tag : String) (selfClosing : Bool) (stop : Nat) (ts : List Located) :
    (contentOf o page tag selfClosing stop ts).1.isSome = true := by
  unfold contentOf
  split
  · rfl
  · split <;> rfl

namespace RuleTable

theorem visit_made {table : RuleTable σ} {rule : Rule σ} {i : Nat} {tag : String}
    {attributes : Attributes} (hr : table.firstRule? tag attributes = some (i, rule))
    {page : List Char} {selfClosing : Bool} {stop : Nat} {ts : List Located} {s s' : σ} {v : Visit}
    {result : Except HandlerFailure (List Located)}
    (h : rule.visit i table.options page tag attributes selfClosing stop ts s = (v, result, s')) :
    v.apply table s = s' ∧ v.MadeIn table s := by
  have hrule := (firstRule?_eq_some hr).1
  obtain ⟨_, _, ha⟩ | ⟨wanted, _, ha, hw⟩ | ⟨handler, _, _, ha, hc, hn⟩ |
      ⟨handler, content, _, _, _, _, ha, hc, hn, ho⟩ :=
    rule.visit_cases table.options page tag attributes selfClosing stop ts s
  · obtain ⟨rfl, -, rfl⟩ : _ = v ∧ _ = result ∧ _ = s' := by
      simpa using (Rule.visit_failed ha).symm.trans h
    refine ⟨by simp [Visit.apply, hrule, ha], rule, hr, fun _ => ?_⟩
    simp [ha]
  · obtain ⟨rfl, -, rfl⟩ : _ = v ∧ _ = result ∧ _ = s' := by
      simpa using (Rule.visit_declined ha hw).symm.trans h
    refine ⟨by simp [Visit.apply, hrule, ha], rule, hr, fun _ => ?_⟩
    simpa [ha] using hw
  · obtain ⟨rfl, -, rfl⟩ : _ = v ∧ _ = result ∧ _ = s' := by
      simpa using (Rule.visit_open ha hc hn).symm.trans h
    refine ⟨by simp [Visit.apply, hrule, ha], rule, hr, fun hflush => ?_⟩
    have := contentOf_isSome hflush page tag selfClosing stop ts
    rw [hn] at this
    cases this
  · obtain ⟨rfl, -, rfl⟩ : _ = v ∧ _ = result ∧ _ = s' := by
      simpa using (Rule.visit_content ha hc hn ho).symm.trans h
    refine ⟨by simp [Visit.apply, hrule, ha, hc, ho], rule, hr, fun _ => ?_⟩
    simp [ha, hc]

/-- The state after some tags have been answered. -/
def after (table : RuleTable σ) (s : σ) (vs : List Visit) : σ := vs.foldl (Visit.apply table) s

theorem after_split (table : RuleTable σ) (s : σ) (left right : List Visit) (v : Visit) :
    table.after s (left ++ v :: right) = table.after (v.apply table (table.after s left)) right :=
  List.foldl_append ..

/-- A relation that the rules for some tags keep is kept by answering the tags. -/
theorem after_keeps {table : RuleTable σ} {R : σ → σ → Prop} {vs : List Visit}
    (hk : ∀ v ∈ vs, ∀ rule, table.rules[v.rule]? = some rule → rule.Keeps R) {s t : σ}
    (hst : R s t) : R (table.after s vs) (table.after t vs) := by
  induction vs generalizing s t with
  | nil => exact hst
  | cons v vs ih =>
    have hv := Visit.apply_keeps (hk v List.mem_cons_self) hst
    exact ih (fun u hu => hk u (List.mem_cons_of_mem v hu)) hv

theorem course_state (table : RuleTable σ) (page : List Char) (s : σ) (ts : List Located) :
    (table.course page s ts).state = table.after s (table.course page s ts).visits := by
  fun_induction RuleTable.course table page s ts with
  | case1 s => rfl
  | case2 s t ts tag attributes selfClosing ht hr ih => exact ih
  | case3 s t ts tag attributes selfClosing ht i rule hr v failure s' hv =>
    exact (visit_made hr hv).1.symm
  | case4 s t ts tag attributes selfClosing ht i rule hr v rest s' hv course ih =>
    show course.state = table.after (v.apply table s) course.visits
    rw [(visit_made hr hv).1]
    exact ih
  | case5 s t ts ht ih => exact ih

/-- Each tag is answered in the state that the tags before it leave. -/
theorem course_made (table : RuleTable σ) (page : List Char) (s : σ) (ts : List Located) (n : Nat)
    {v : Visit} (h : (table.course page s ts).visits[n]? = some v) :
    v.MadeIn table (table.after s ((table.course page s ts).visits.take n)) := by
  fun_induction RuleTable.course table page s ts generalizing n with
  | case1 s => cases h
  | case2 s t ts tag attributes selfClosing ht hr ih => exact ih n h
  | case3 s t ts tag attributes selfClosing ht i rule hr u failure s' hu =>
    cases n with
    | zero =>
      obtain rfl := Option.some.inj h
      exact (visit_made hr hu).2
    | succ n => cases h
  | case4 s t ts tag attributes selfClosing ht i rule hr u rest s' hu course ih =>
    cases n with
    | zero =>
      obtain rfl := Option.some.inj h
      exact (visit_made hr hu).2
    | succ n =>
      show v.MadeIn table (table.after (u.apply table s) (course.visits.take n))
      rw [(visit_made hr hu).1]
      exact ih n h
  | case5 s t ts ht ih => exact ih n h

end RuleTable

namespace Sheet
variable {sheet : List (Entry σ)} {source : Source} {s : σ} {n : Nat} {v : Visit}

/-- The state after the first `n` tags that a sheet answers. -/
def stateAt (sheet : List (Entry σ)) (source : Source) (s : σ) (n : Nat) : σ :=
  (table sheet).after s ((visits sheet source s).take n)

theorem stateAt_zero : stateAt sheet source s 0 = s := rfl

theorem stateAt_succ (h : (visits sheet source s)[n]? = some v) :
    stateAt sheet source s (n + 1) = v.apply (table sheet) (stateAt sheet source s n) := by
  obtain ⟨hlt, rfl⟩ := List.getElem?_eq_some_iff.mp h
  unfold stateAt RuleTable.after
  rw [List.take_succ_eq_append_getElem hlt, List.foldl_append]
  rfl

theorem visits_made (h : (visits sheet source s)[n]? = some v) :
    v.MadeIn (table sheet) (stateAt sheet source s n) := by
  unfold stateAt
  unfold visits at h ⊢
  cases hm : source.markup with
  | error e => rw [hm] at h; cases h
  | ok markup =>
    rw [hm] at h
    exact RuleTable.course_made _ _ _ _ n h

theorem made_of_split {left right : List Visit} (h : visits sheet source s = left ++ v :: right) :
    v.MadeIn (table sheet) ((table sheet).after s left) := by
  have hv : (visits sheet source s)[left.length]? = some v := by
    rw [h, List.getElem?_append_right (Nat.le_refl _), Nat.sub_self]
    rfl
  have hmade := visits_made hv
  rwa [stateAt, h, List.take_left] at hmade

/-- What holds at the beginning and is kept by every answer holds of all the states of a page. -/
theorem stateAt_induction {P : Nat → σ → Prop} (hstart : P 0 s)
    (hstep : ∀ n v, (visits sheet source s)[n]? = some v → P n (stateAt sheet source s n) →
      P (n + 1) (v.apply (table sheet) (stateAt sheet source s n))) :
    ∀ n ≤ (visits sheet source s).length, P n (stateAt sheet source s n) := by
  intro n hn
  induction n with
  | zero => rwa [stateAt_zero]
  | succ n ih =>
    have hv : (visits sheet source s)[n]? = some ((visits sheet source s)[n]) :=
      List.getElem?_eq_getElem hn
    rw [stateAt_succ hv]
    exact hstep n _ hv (ih (Nat.le_of_succ_le hn))

/-- A page ends in the state after all its tags. -/
theorem readWithSheet_state (hs : Sound sheet) (source : Source) (s : σ) :
    (readWithSheet sheet source s).2 = stateAt sheet source s (visits sheet source s).length := by
  rw [readWithSheet_eq hs]
  unfold stateAt visits
  rw [List.take_length]
  cases source.markup with
  | error e => rfl
  | ok markup => exact RuleTable.course_state _ _ _ _

theorem readWithSheet_after (hs : Sound sheet) (source : Source) (s : σ) :
    (readWithSheet sheet source s).2 = (table sheet).after s (visits sheet source s) := by
  rw [readWithSheet_state hs, stateAt, List.take_length]

/-! ### Two readings of one page -/

variable {R : σ → σ → Prop} {t : σ}

/-- From related states the same tags are answered. -/
theorem visits_alike (hk : ∀ e ∈ sheet, e.Keeps R) (source : Source) (hst : R s t) :
    visits sheet source t = visits sheet source s := by
  unfold visits
  cases source.markup with
  | error e => rfl
  | ok markup =>
    exact (RuleTable.course_alike (table sheet) markup.toList hst _ fun _ _ rule hrule =>
      each_of_sheet hk rule (List.mem_of_getElem? hrule)).1

/-- Two readings that start from related states are in related states all the way. -/
theorem stateAt_alike (hk : ∀ e ∈ sheet, e.Keeps R) (source : Source) (hst : R s t) (n : Nat) :
    R (stateAt sheet source s n) (stateAt sheet source t n) := by
  unfold stateAt
  rw [visits_alike hk source hst]
  exact RuleTable.after_keeps
    (fun _ _ rule hrule => each_of_sheet hk rule (List.mem_of_getElem? hrule)) hst

end Sheet

/-! ### Rules of the kinds that sheets have -/

namespace Rule

/-- A rule that changes the state at the tag. -/
def atTag (pattern : TagPattern) (change : Attributes → σ → σ) : Rule σ where
  pattern
  onOpen := some fun _ attributes => do
    modify (change attributes)
    return false

/-- A rule that changes the state by the content. -/
def atContent (pattern : TagPattern) (change : String → σ → σ) : Rule σ where
  pattern
  onContent := some fun content => modify (change content)

/-- A rule that changes the state at the tag, and by the content where the tag asks for it. -/
def asking (pattern : TagPattern) (atTag : Attributes → σ → Bool × σ) (change : String → σ → σ) :
    Rule σ where
  pattern
  onOpen := some fun _ attributes => modifyGet (atTag attributes)
  onContent := some fun content => modify (change content)

section
variable {R : σ → σ → Prop} {pattern : TagPattern}

theorem atTag_keeps {change : Attributes → σ → σ} (h : ∀ a s t, R s t → R (change a s) (change a t)) :
    (atTag pattern change).Keeps R :=
  ⟨fun _ hh => Option.some.inj hh ▸ Entry.atTag_keeps.mpr h, nofun⟩

theorem atContent_keeps {change : String → σ → σ} (h : ∀ c s t, R s t → R (change c s) (change c t)) :
    (atContent pattern change).Keeps R :=
  ⟨nofun, fun _ hh => Option.some.inj hh ▸ Entry.atContent_keeps.mpr h⟩

theorem asking_keeps {atTag : Attributes → σ → Bool × σ} {change : String → σ → σ}
    (hask : ∀ a s t, R s t → Alike R (atTag a s) (atTag a t))
    (h : ∀ c s t, R s t → R (change c s) (change c t)) : (asking pattern atTag change).Keeps R :=
  ⟨fun _ hh => Option.some.inj hh ▸ Entry.askAtTag_keeps.mpr hask,
    fun _ hh => Option.some.inj hh ▸ Entry.atContent_keeps.mpr h⟩

end

end Rule

namespace Visit
variable {table : RuleTable σ} {pattern : TagPattern} {v : Visit} {s : σ}

theorem apply_atTag {change : Attributes → σ → σ}
    (hr : table.rules[v.rule]? = some (.atTag pattern change)) :
    v.apply table s = change v.attributes s := by
  unfold apply
  rw [hr]
  cases v.content <;> rfl

theorem apply_atContent {change : String → σ → σ} (hv : v.MadeIn table s)
    (ho : table.options.flushOpenCapture = true)
    (hr : table.rules[v.rule]? = some (.atContent pattern change)) :
    ∃ content, v.content = some content ∧ v.apply table s = change content s := by
  obtain ⟨rule, hfirst, hcontent⟩ := hv
  have hrule := hr.symm.trans (RuleTable.firstRule?_eq_some hfirst).1
  obtain rfl := Option.some.inj hrule
  obtain ⟨content, hc⟩ := Option.isSome_iff_exists.mp ((hcontent ho).mpr ⟨rfl, rfl⟩)
  refine ⟨content, hc, ?_⟩
  unfold apply
  rw [hr, hc]
  rfl

theorem apply_asking {atTag : Attributes → σ → Bool × σ} {change : String → σ → σ}
    (hv : v.MadeIn table s) (ho : table.options.flushOpenCapture = true)
    (hr : table.rules[v.rule]? = some (.asking pattern atTag change)) :
    ((atTag v.attributes s).1 = false ∧ v.apply table s = (atTag v.attributes s).2) ∨
      ∃ content, v.content = some content ∧ (atTag v.attributes s).1 = true ∧
        v.apply table s = change content (atTag v.attributes s).2 := by
  obtain ⟨rule, hfirst, hcontent⟩ := hv
  have hrule := hr.symm.trans (RuleTable.firstRule?_eq_some hfirst).1
  obtain rfl := Option.some.inj hrule
  have hasked : v.content.isSome = true ↔ (atTag v.attributes s).1 = true := by
    refine (hcontent ho).trans ⟨fun h => Except.ok.inj h.1, fun h => ⟨?_, rfl⟩⟩
    exact congrArg Except.ok h
  unfold apply
  rw [hr]
  cases hc : v.content with
  | none =>
    refine .inl ⟨?_, rfl⟩
    rw [hc] at hasked
    simpa using hasked
  | some content => exact .inr ⟨content, rfl, hasked.mp (by rw [hc]; rfl), rfl⟩

end Visit

end Imageboard
