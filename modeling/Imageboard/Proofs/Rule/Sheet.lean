import Imageboard.Proofs.Rule.Calls
import Imageboard.Proofs.Rule.Relation
import Imageboard.Rule.Source

/-! Sheets, and what pages make of states through them.

The rules of a table have their handlers from the sheet the table is made of, so that what is asked
of handlers is asked of the entries of the sheet: `each_of_sheet`. From it follow the two facts
about a whole reading that sites use, `readWithSheet_ok` for sheets whose handlers never fail and
`readWithSheet_alike` for relations between states. -/
namespace Imageboard

namespace Entry

/-- What is asked of the handlers of a rule, for an entry of a sheet. -/
def Each (P : OpenHandler σ → Prop) (Q : ContentHandler σ → Prop) : Entry σ → Prop
  | .pattern _ => True
  | .onOpen handler => P handler
  | .onContent handler => Q handler

abbrev Keeps (R : σ → σ → Prop) : Entry σ → Prop :=
  Each (OpenHandler.Keeps R) (ContentHandler.Keeps R)

abbrev NeverFails : Entry σ → Prop := Each OpenHandler.NeverFails ContentHandler.NeverFails

section Patterns
variable (P : OpenHandler σ → Prop) (Q : ContentHandler σ → Prop) (tag key value : String)

@[simp] theorem each_name : (name tag).Each P Q := trivial

@[simp] theorem each_equals : (equals tag key value).Each P Q := trivial

@[simp] theorem each_startsWith : (startsWith tag key value).Each P Q := trivial

@[simp] theorem each_contains : (contains tag key value).Each P Q := trivial

@[simp] theorem each_endsWith : (endsWith tag key value).Each P Q := trivial

end Patterns

@[simp] theorem atTag_neverFails (change : Attributes → σ → σ) : (atTag change).NeverFails :=
  fun _ attributes s => ⟨false, change attributes s, rfl⟩

@[simp] theorem askAtTag_neverFails (change : Attributes → σ → Bool × σ) :
    (askAtTag change).NeverFails :=
  fun _ attributes s => ⟨(change attributes s).1, (change attributes s).2, rfl⟩

@[simp] theorem atContent_neverFails (change : String → σ → σ) : (atContent change).NeverFails :=
  fun content s => ⟨change content s, rfl⟩

@[simp] theorem atTag_keeps {R : σ → σ → Prop} {change : Attributes → σ → σ} :
    (atTag change).Keeps R ↔ ∀ a s t, R s t → R (change a s) (change a t) := by
  constructor
  · intro h a s t hst
    exact (h "" a s t hst).2
  · intro h _ a s t hst
    exact ⟨rfl, h a s t hst⟩

@[simp] theorem askAtTag_keeps {R : σ → σ → Prop} {change : Attributes → σ → Bool × σ} :
    (askAtTag change).Keeps R ↔ ∀ a s t, R s t → Alike R (change a s) (change a t) := by
  constructor
  · intro h a s t hst
    obtain ⟨hanswer, hstates⟩ := h "" a s t hst
    exact ⟨Except.ok.inj hanswer, hstates⟩
  · intro h _ a s t hst
    obtain ⟨hanswer, hstates⟩ := h a s t hst
    exact ⟨congrArg Except.ok hanswer, hstates⟩

@[simp] theorem atContent_keeps {R : σ → σ → Prop} {change : String → σ → σ} :
    (atContent change).Keeps R ↔ ∀ c s t, R s t → R (change c s) (change c t) := by
  constructor
  · intro h c s t hst
    exact (h c s t hst).2
  · intro h c s t hst
    exact ⟨rfl, h c s t hst⟩

end Entry

/-! ### From a sheet to its rules -/

namespace Draft
variable {P : OpenHandler σ → Prop} {Q : ContentHandler σ → Prop}

/-- A pattern adds a rule without handlers, whether it joins the last group or begins another. -/
theorem rules_addPattern (d : Draft σ) (p : TagPattern) :
    (d.addPattern p).rules = d.rules ++ [{ pattern := p }] := by
  unfold addPattern rules
  split
  · rfl
  · exact (List.append_assoc ..).symm

theorem add_each {d : Draft σ} (hd : ∀ rule ∈ d.rules, rule.Each P Q) {e : Entry σ}
    (he : e.Each P Q) : ∀ rule ∈ (d.add e).rules, rule.Each P Q := by
  have hcomplete : ∀ rule ∈ d.complete, rule.Each P Q :=
    fun rule h => hd rule (List.mem_append_left _ h)
  have hgroup : ∀ rule ∈ d.group, rule.Each P Q :=
    fun rule h => hd rule (List.mem_append_right _ h)
  intro rule hrule
  cases e with
  | pattern p =>
    rw [show (d.add (.pattern p)).rules = d.rules ++ [{ pattern := p }] from rules_addPattern d p]
      at hrule
    rcases List.mem_append.mp hrule with h | h
    · exact hd rule h
    · rw [List.mem_singleton.mp h]
      exact ⟨nofun, nofun⟩
  | onOpen handler =>
    have hrule : rule ∈ d.complete ++ d.group.map fun r => { r with onOpen := some handler } := hrule
    rcases List.mem_append.mp hrule with h | h
    · exact hcomplete rule h
    · obtain ⟨old, hold, rfl⟩ := List.mem_map.mp h
      exact ⟨fun _ hh => Option.some.inj hh ▸ he, (hgroup old hold).onContent⟩
  | onContent handler =>
    have hrule : rule ∈ d.complete ++ d.group.map fun r => { r with onContent := some handler } :=
      hrule
    rcases List.mem_append.mp hrule with h | h
    · exact hcomplete rule h
    · obtain ⟨old, hold, rfl⟩ := List.mem_map.mp h
      exact ⟨(hgroup old hold).onOpen, fun _ hh => Option.some.inj hh ▸ he⟩

theorem foldl_each (sheet : List (Entry σ)) {d : Draft σ} (hd : ∀ rule ∈ d.rules, rule.Each P Q)
    (h : ∀ e ∈ sheet, e.Each P Q) : ∀ rule ∈ (sheet.foldl add d).rules, rule.Each P Q := by
  induction sheet generalizing d with
  | nil => exact hd
  | cons e rest ih =>
    have he := h e List.mem_cons_self
    exact ih (add_each hd he) fun x hx => h x (List.mem_cons_of_mem _ hx)

end Draft

namespace Sheet

/-- The table that is made of a sheet. -/
def table (sheet : List (Entry σ)) : RuleTable σ := ⟨(sheet.foldl Draft.add {}).rules, {}⟩

/-- Nothing is wrong with the sheet. -/
def Sound (sheet : List (Entry σ)) : Prop := (sheet.foldl Draft.add {}).allProblems = []

/-- The tags of a source that the rules of a sheet answer. -/
def visits (sheet : List (Entry σ)) (source : Source) (s : σ) : List Visit :=
  match source.markup with
  | .ok markup => ((table sheet).course markup.toList s (tokens {} markup.toList)).visits
  | .error _ => []

variable {sheet : List (Entry σ)}

/-- Every rule of a table has its handlers from the sheet. -/
theorem each_of_sheet {P : OpenHandler σ → Prop} {Q : ContentHandler σ → Prop}
    (h : ∀ e ∈ sheet, e.Each P Q) : ∀ rule ∈ (table sheet).rules, rule.Each P Q :=
  Draft.foldl_each sheet (fun _ hrule => nomatch hrule) h

theorem build_eq (hs : Sound sheet) : RuleTable.build {} sheet = .ok (table sheet) := by
  have hs : (sheet.foldl Draft.add {}).allProblems = [] := hs
  simp only [RuleTable.build, hs]
  rfl

theorem readWithSheet_eq (hs : Sound sheet) (source : Source) (s : σ) :
    readWithSheet sheet source s =
      match source.markup with
      | .error e => (.error e, s)
      | .ok markup =>
        let course := (table sheet).course markup.toList s (tokens {} markup.toList)
        (course.result.mapError .failedHandler, course.state) := by
  unfold readWithSheet RuleTable.readSource
  rw [build_eq hs]
  cases source.markup with
  | error e => rfl
  | ok markup =>
    dsimp only
    rw [runOn_eq_course]
    rfl

/-- Of a source only the markup counts. -/
theorem readWithSheet_of_markup (hs : Sound sheet) {source : Source} {markup : String}
    (h : source.markup = .ok markup) (s : σ) :
    readWithSheet sheet source s =
      ((outcome ((table sheet).run markup.toList) s).1.mapError .failedHandler,
        (outcome ((table sheet).run markup.toList) s).2) := by
  unfold readWithSheet RuleTable.readSource
  rw [build_eq hs, h]
  rfl

/-- Where no handler fails, only a broken source keeps a page from being read. -/
theorem readWithSheet_ok (hs : Sound sheet) (hf : ∀ e ∈ sheet, e.NeverFails) (source : Source)
    (s : σ) : (readWithSheet sheet source s).1 = source.markup.map fun _ => () := by
  rw [readWithSheet_eq hs]
  cases source.markup with
  | error e => rfl
  | ok markup =>
    dsimp only
    rw [RuleTable.course_ok (each_of_sheet hf)]
    rfl

/-- A relation that is kept by the rules which answer a source is kept by reading it, and from
related states the reading comes to the same. -/
theorem readWithSheet_alike {R : σ → σ → Prop} (hs : Sound sheet) (source : Source) {s t : σ}
    (hst : R s t)
    (hk : ∀ v ∈ visits sheet source s, ∀ rule, (table sheet).rules[v.rule]? = some rule →
      rule.Keeps R) :
    Alike R (readWithSheet sheet source s) (readWithSheet sheet source t) := by
  rw [readWithSheet_eq hs, readWithSheet_eq hs]
  unfold visits at hk
  cases hm : source.markup with
  | error e => exact ⟨rfl, hst⟩
  | ok markup =>
    rw [hm] at hk
    obtain ⟨-, hresult, hstates⟩ := RuleTable.course_alike (table sheet) markup.toList hst _ hk
    refine ⟨?_, hstates⟩
    dsimp only
    rw [hresult]

theorem visits_match (source : Source) (s : σ) :
    ∀ v ∈ visits sheet source s, ∃ rule, (table sheet).rules[v.rule]? = some rule ∧
      rule.pattern.matchesTag v.tag v.attributes = true := by
  unfold visits
  cases source.markup with
  | error e => intro v hv; cases hv
  | ok markup => exact RuleTable.course_matches _ _ _ _

/-- A relation that all entries of a sheet keep. -/
theorem readWithSheet_alike_of_all {R : σ → σ → Prop} (hs : Sound sheet)
    (hk : ∀ e ∈ sheet, e.Keeps R) (source : Source) {s t : σ} (hst : R s t) :
    Alike R (readWithSheet sheet source s) (readWithSheet sheet source t) :=
  readWithSheet_alike hs source hst fun _ _ rule hrule =>
    each_of_sheet hk rule (List.mem_of_getElem? hrule)

end Sheet

end Imageboard
