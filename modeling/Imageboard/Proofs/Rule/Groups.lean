import Imageboard.Proofs.Rule.Sheet
import Mathlib.Data.List.SplitBy

/-! The groups of a sheet.

A group is a stretch of patterns with the handlers behind it, up to the next pattern.
`build_groups`: a table is made of just those sheets that begin with a pattern, end with a handler and
have no group with two handlers of a kind. Its rules are the patterns of the sheet, in order, each with
the handlers of its own group. -/
namespace Imageboard

namespace Entry

def pattern? : Entry σ → Option TagPattern
  | .pattern p => some p
  | _ => none

def onOpen? : Entry σ → Option (OpenHandler σ)
  | .onOpen handler => some handler
  | _ => none

def onContent? : Entry σ → Option (ContentHandler σ)
  | .onContent handler => some handler
  | _ => none

def isPattern (e : Entry σ) : Bool := e.pattern?.isSome

/-- Whether an entry stands in the group of the entry before it: a pattern behind a handler begins
another. -/
def joins (before e : Entry σ) : Bool := before.isPattern || !e.isPattern

theorem exists_pattern {e : Entry σ} (h : e.isPattern = true) : ∃ p, e = .pattern p := by
  cases e with
  | pattern p => exact ⟨p, rfl⟩
  | onOpen handler => cases h
  | onContent handler => cases h

theorem joins_eq_false {before e : Entry σ} (h : joins before e = false) :
    before.isPattern = false ∧ e.isPattern = true := by
  simpa [joins] using h

end Entry
open Entry

namespace Sheet

def groups (sheet : List (Entry σ)) : List (List (Entry σ)) := sheet.splitBy joins

def patterns (es : List (Entry σ)) : List TagPattern := es.filterMap pattern?

def openHandlers (es : List (Entry σ)) : List (OpenHandler σ) := es.filterMap onOpen?

def contentHandlers (es : List (Entry σ)) : List (ContentHandler σ) := es.filterMap onContent?

/-- The rule of a pattern in a group. Where the group has two handlers of a kind, the later counts. -/
def ruleIn (group : List (Entry σ)) (p : TagPattern) : Rule σ :=
  ⟨p, (openHandlers group).getLast?, (contentHandlers group).getLast?⟩

def rulesOf (group : List (Entry σ)) : List (Rule σ) := (patterns group).map (ruleIn group)

/-- No two handlers of the group are of one kind. -/
def Single (group : List (Entry σ)) : Prop :=
  (openHandlers group).length ≤ 1 ∧ (contentHandlers group).length ≤ 1

instance (group : List (Entry σ)) : Decidable (Single group) := inferInstanceAs (Decidable (_ ∧ _))

/-- What is asked of a sheet. -/
structure WellGrouped (sheet : List (Entry σ)) : Prop where
  /-- No handler stands before the first pattern. -/
  begins : ∀ e, sheet.head? = some e → e.isPattern = true
  single : ∀ group ∈ groups sheet, Single group
  /-- The last group has a handler. -/
  ends : ∀ e, sheet.getLast? = some e → e.isPattern = false

/-! ### The shape of a group -/

/-- Patterns, of which there are some, and the handlers behind them. -/
def IsGroup (group : List (Entry σ)) : Prop :=
  ∃ ps handlers, group = ps.map .pattern ++ handlers ∧ ps ≠ [] ∧ ∀ e ∈ handlers, e.isPattern = false

theorem handlers_of_chain {e : Entry σ} {es : List (Entry σ)}
    (h : (e :: es).IsChain fun a b => joins a b = true) (he : e.isPattern = false) :
    ∀ x ∈ e :: es, x.isPattern = false := by
  induction es generalizing e with
  | nil => simpa using he
  | cons f es ih =>
    obtain ⟨hef, hes⟩ := List.isChain_cons_cons.mp h
    have hf : f.isPattern = false := by simpa [joins, he] using hef
    exact List.forall_mem_cons.mpr ⟨he, ih hes hf⟩

theorem isGroup_of_chain {e : Entry σ} {es : List (Entry σ)}
    (h : (e :: es).IsChain fun a b => joins a b = true) (he : e.isPattern = true) :
    IsGroup (e :: es) := by
  induction es generalizing e with
  | nil =>
    obtain ⟨p, rfl⟩ := exists_pattern he
    exact ⟨[p], [], rfl, List.cons_ne_nil p [], nofun⟩
  | cons f es ih =>
    obtain ⟨p, rfl⟩ := exists_pattern he
    have hes := (List.isChain_cons_cons.mp h).2
    cases hf : f.isPattern with
    | true =>
      obtain ⟨ps, handlers, hsplit, -, hhandlers⟩ := ih hes hf
      exact ⟨p :: ps, handlers, by rw [hsplit]; rfl, List.cons_ne_nil p ps, hhandlers⟩
    | false => exact ⟨[p], f :: es, rfl, List.cons_ne_nil p [], handlers_of_chain hes hf⟩

/-- Whether a handler belongs to the group. -/
def Handled (group : List (Entry σ)) : Prop := ∃ e ∈ group, e.isPattern = false

/-- The handlers of a group stand at its end. -/
theorem IsGroup.ends {group : List (Entry σ)} (h : IsGroup group) (hhandled : Handled group) :
    ∀ e, group.getLast? = some e → e.isPattern = false := by
  obtain ⟨ps, handlers, rfl, -, hhandlers⟩ := h
  have hne : handlers ≠ [] := by
    rintro rfl
    obtain ⟨e, he, hhandler⟩ := hhandled
    rw [List.append_nil] at he
    obtain ⟨p, -, rfl⟩ := List.mem_map.mp he
    cases hhandler
  intro e he
  rw [List.getLast?_append_of_ne_nil _ hne] at he
  exact hhandlers e (List.mem_of_getLast? he)

variable {sheet : List (Entry σ)}

theorem isGroup_of_mem (h : ∀ e, sheet.head? = some e → e.isPattern = true) :
    ∀ group ∈ groups sheet, IsGroup group := by
  -- A group that is not the first begins with a pattern, which did not join the group before it.
  have hhead : ∀ group ∈ groups sheet, ∀ e, group.head? = some e → e.isPattern = true := by
    refine (List.isChain_getLast_head_splitBy joins sheet).induction _ _ ?_ fun hne => ?_
    · rintro before group ⟨hbefore, hgroup, hjoins⟩ - e he
      rw [List.head?_eq_some_head hgroup] at he
      exact Option.some.inj he ▸ (joins_eq_false hjoins).2
    · intro e he
      have hsheet := List.splitBy_ne_nil.mp hne
      rw [List.head?_eq_some_head (List.ne_nil_of_mem_splitBy (List.head_mem hne)),
        List.head_head_splitBy joins hsheet] at he
      exact h e ((List.head?_eq_some_head hsheet).trans he)
  intro group hgroup
  have hchain : group.IsChain fun a b => joins a b = true := List.isChain_of_mem_splitBy hgroup
  cases group with
  | nil => exact absurd hgroup (List.nil_notMem_splitBy joins sheet)
  | cons e es => exact isGroup_of_chain hchain (hhead _ hgroup e rfl)

/-- Only the last group may be without a handler. -/
theorem groups_handled (sheet : List (Entry σ)) :
    (groups sheet).IsChain fun group _ => Handled group := by
  refine (List.isChain_getLast_head_splitBy joins sheet).imp fun group _ => ?_
  rintro ⟨hgroup, hnext, hjoins⟩
  exact ⟨_, List.getLast_mem hgroup, (joins_eq_false hjoins).1⟩

theorem handled_iff_ends (h : ∀ e, sheet.head? = some e → e.isPattern = true) :
    (∀ group ∈ groups sheet, Handled group) ↔
      ∀ e, sheet.getLast? = some e → e.isPattern = false := by
  constructor
  · intro hhandled e he
    have hsheet : sheet ≠ [] := by rintro rfl; cases he
    have hgroups := List.splitBy_ne_nil (r := joins).mpr hsheet
    have hlast := List.getLast_mem hgroups
    refine (isGroup_of_mem h _ hlast).ends (hhandled _ hlast) e ?_
    rw [List.getLast?_eq_some_getLast (List.ne_nil_of_mem_splitBy hlast),
      List.getLast_getLast_splitBy joins hsheet, ← he, List.getLast?_eq_some_getLast hsheet]
  · intro hends
    refine (groups_handled sheet).backwards_induction _ _ (fun _ _ hg _ => hg) fun hne => ?_
    have hsheet := List.splitBy_ne_nil.mp hne
    refine ⟨_, List.getLast_mem (List.ne_nil_of_mem_splitBy (List.getLast_mem hne)), hends _ ?_⟩
    rw [List.getLast?_eq_some_getLast hsheet, ← List.getLast_getLast_splitBy joins hsheet]
    rfl

/-! ### What a group adds to a rule -/

variable {group handlers : List (Entry σ)} {ps : List TagPattern}

theorem openHandlers_append (es es' : List (Entry σ)) :
    openHandlers (es ++ es') = openHandlers es ++ openHandlers es' :=
  List.filterMap_append

theorem contentHandlers_append (es es' : List (Entry σ)) :
    contentHandlers (es ++ es') = contentHandlers es ++ contentHandlers es' :=
  List.filterMap_append

theorem patterns_append (es es' : List (Entry σ)) :
    patterns (es ++ es') = patterns es ++ patterns es' :=
  List.filterMap_append

/-- The patterns of a group have no part in its handlers. -/
theorem handlers_of_patterns (ps : List TagPattern) (handlers : List (Entry σ)) :
    openHandlers (ps.map .pattern ++ handlers) = openHandlers handlers ∧
      contentHandlers (ps.map .pattern ++ handlers) = contentHandlers handlers := by
  induction ps with
  | nil => exact ⟨rfl, rfl⟩
  | cons p ps ih => exact ih

theorem patterns_of_group (ps : List TagPattern) (h : ∀ e ∈ handlers, e.isPattern = false) :
    patterns (ps.map .pattern ++ handlers) = ps := by
  have hnone : patterns handlers = [] := by
    refine List.filterMap_eq_nil_iff.mpr fun e he => ?_
    simpa [isPattern] using h e he
  rw [patterns_append, hnone, List.append_nil]
  unfold patterns
  rw [List.filterMap_map]
  exact List.filterMap_some

/-- The rules of a group are without a handler of a kind just where the group has none. -/
theorem without_iff {kind : Rule σ → Option β} {ofKind : List β}
    (hkind : ∀ p, kind (ruleIn handlers p) = ofKind.getLast?) (hne : ps ≠ []) :
    (∀ rule ∈ ps.map (ruleIn handlers), ¬ (kind rule).isSome = true) ↔ ofKind = [] := by
  obtain ⟨p, hp⟩ := List.exists_mem_of_ne_nil ps hne
  constructor
  · intro h
    simpa [hkind] using h _ (List.mem_map_of_mem hp)
  · intro h rule hrule
    obtain ⟨q, -, rfl⟩ := List.mem_map.mp hrule
    simp [hkind, h]

/-! A further handler of a group. -/

section
variable (handlers : List (Entry σ)) (handler : OpenHandler σ)

theorem openHandlers_snoc_open :
    openHandlers (handlers ++ [.onOpen handler]) = openHandlers handlers ++ [handler] :=
  openHandlers_append handlers _

theorem contentHandlers_snoc_open :
    contentHandlers (handlers ++ [.onOpen handler]) = contentHandlers handlers :=
  (contentHandlers_append handlers _).trans (List.append_nil _)

theorem ruleIn_snoc_open (p : TagPattern) :
    ruleIn (handlers ++ [.onOpen handler]) p = { ruleIn handlers p with onOpen := some handler } := by
  unfold ruleIn
  rw [openHandlers_snoc_open, contentHandlers_snoc_open, List.getLast?_concat]

theorem single_snoc_open :
    Single (handlers ++ [.onOpen handler]) ↔ Single handlers ∧ openHandlers handlers = [] := by
  unfold Single
  rw [openHandlers_snoc_open, contentHandlers_snoc_open, List.length_append, List.length_singleton,
    ← List.length_eq_zero_iff]
  omega

end

section
variable (handlers : List (Entry σ)) (handler : ContentHandler σ)

theorem openHandlers_snoc_content :
    openHandlers (handlers ++ [.onContent handler]) = openHandlers handlers :=
  (openHandlers_append handlers _).trans (List.append_nil _)

theorem contentHandlers_snoc_content :
    contentHandlers (handlers ++ [.onContent handler]) = contentHandlers handlers ++ [handler] :=
  contentHandlers_append handlers _

theorem ruleIn_snoc_content (p : TagPattern) :
    ruleIn (handlers ++ [.onContent handler]) p =
      { ruleIn handlers p with onContent := some handler } := by
  unfold ruleIn
  rw [openHandlers_snoc_content, contentHandlers_snoc_content, List.getLast?_concat]

theorem single_snoc_content :
    Single (handlers ++ [.onContent handler]) ↔ Single handlers ∧ contentHandlers handlers = [] := by
  unfold Single
  rw [openHandlers_snoc_content, contentHandlers_snoc_content, List.length_append,
    List.length_singleton, ← List.length_eq_zero_iff]
  omega

end

end Sheet
open Sheet

namespace Draft
variable {d d' : Draft σ} {ps : List TagPattern} {handlers : List (Entry σ)}

/-- The next pattern begins a group. -/
def Ready (d : Draft σ) : Prop := d.handled = false → d.group = []

theorem foldl_joining (ps : List TagPattern) (h : d.handled = false) :
    (ps.map .pattern).foldl add d =
      { d with group := d.group ++ ps.map fun p => { pattern := p } } := by
  induction ps generalizing d with
  | nil => rw [List.map_nil, List.map_nil, List.append_nil]; rfl
  | cons p ps ih =>
    have hadd : d.add (.pattern p) = { d with group := d.group ++ [{ pattern := p }] } :=
      if_neg (by rw [h]; exact Bool.false_ne_true)
    have hhandled : (d.add (.pattern p)).handled = false := by rw [hadd]; exact h
    rw [List.map_cons, List.foldl_cons, ih hhandled, hadd]
    dsimp only
    rw [List.append_assoc]
    rfl

/-- The patterns of a group complete the group before it. -/
theorem foldl_patterns (hd : d.Ready) (hne : ps ≠ []) :
    (ps.map .pattern).foldl add d =
      { complete := d.complete ++ d.group
        group := ps.map fun p => { pattern := p }
        handled := false
        problems := d.problems } := by
  cases ps with
  | nil => exact absurd rfl hne
  | cons p ps =>
    have hadd : d.add (.pattern p) =
        { complete := d.complete ++ d.group
          group := [{ pattern := p }]
          handled := false
          problems := d.problems } := by
      show d.addPattern p = _
      unfold addPattern
      split
      · rfl
      · rename_i hhandled
        rw [Bool.not_eq_true] at hhandled
        rw [hd hhandled, hhandled, List.append_nil]
        rfl
    rw [List.map_cons, List.foldl_cons, hadd, foldl_joining ps rfl]
    rfl

/-- What has been read of a group behind the draft `d`: its patterns, and of its handlers so far
`handlers`. -/
structure Attached (d : Draft σ) (ps : List TagPattern) (handlers : List (Entry σ)) (d' : Draft σ) :
    Prop where
  complete : d'.complete = d.complete ++ d.group
  group : d'.group = ps.map (ruleIn handlers)
  handled : d'.handled = !handlers.isEmpty
  problems : d'.problems = [] ↔ d.problems = [] ∧ Single handlers

/-- A further handler is a problem just where the group has one of its kind. -/
theorem Attached.add (h : Attached d ps handlers d') (hne : ps ≠ []) {e : Entry σ}
    (he : e.isPattern = false) : Attached d ps (handlers ++ [e]) (d'.add e) := by
  have hsome : d'.group.isEmpty = false := by
    rw [h.group, List.isEmpty_map, List.isEmpty_eq_false_iff]
    exact hne
  have hhandled : (!(handlers ++ [e]).isEmpty) = true := by simp
  cases e with
  | pattern p => cases he
  | onOpen handler =>
    refine ⟨h.complete, ?_, hhandled.symm, ?_⟩
    · show d'.group.map _ = _
      rw [h.group, List.map_map]
      exact List.map_congr_left fun p _ => (ruleIn_snoc_open handlers handler p).symm
    · show d'.problems ++ (if d'.group.isEmpty then _ else _) = [] ↔ _
      rw [hsome, if_neg Bool.false_ne_true, List.append_eq_nil_iff, h.problems, List.map_eq_nil_iff,
        List.filter_eq_nil_iff, h.group, without_iff (fun _ => rfl) hne, single_snoc_open, and_assoc]
  | onContent handler =>
    refine ⟨h.complete, ?_, hhandled.symm, ?_⟩
    · show d'.group.map _ = _
      rw [h.group, List.map_map]
      exact List.map_congr_left fun p _ => (ruleIn_snoc_content handlers handler p).symm
    · show d'.problems ++ (if d'.group.isEmpty then _ else _) = [] ↔ _
      rw [hsome, if_neg Bool.false_ne_true, List.append_eq_nil_iff, h.problems, List.map_eq_nil_iff,
        List.filter_eq_nil_iff, h.group, without_iff (fun _ => rfl) hne, single_snoc_content, and_assoc]

theorem attached_foldl (hd : d.Ready) (hne : ps ≠ []) (h : ∀ e ∈ handlers, e.isPattern = false) :
    Attached d ps handlers ((ps.map Entry.pattern ++ handlers).foldl Draft.add d) := by
  rw [List.foldl_append, foldl_patterns hd hne]
  induction handlers using List.reverseRecOn with
  | nil => exact ⟨rfl, rfl, rfl, (and_iff_left ⟨Nat.zero_le 1, Nat.zero_le 1⟩).symm⟩
  | append_singleton handlers e ih =>
    rw [List.foldl_append]
    have he : e.isPattern = false := h e (List.mem_append_right handlers List.mem_cons_self)
    exact (ih fun x hx => h x (List.mem_append_left [e] hx)).add hne he

/-! ### Reading a sheet group by group -/

/-- What the draft `d'` has read behind `d`: whole groups. -/
structure Grouped (d : Draft σ) (gs : List (List (Entry σ))) (d' : Draft σ) : Prop where
  rules : d'.rules = d.rules ++ gs.flatMap rulesOf
  problems : d'.problems = [] ↔ d.problems = [] ∧ ∀ group ∈ gs, Single group

theorem Grouped.trans {d'' : Draft σ} {gs gs' : List (List (Entry σ))} (h : Grouped d gs d')
    (h' : Grouped d' gs' d'') : Grouped d (gs ++ gs') d'' where
  rules := by rw [h'.rules, h.rules, List.flatMap_append, List.append_assoc]
  problems := by rw [h'.problems, h.problems, List.forall_mem_append, and_assoc]

theorem grouped_group {group : List (Entry σ)} (hd : d.Ready) (hg : IsGroup group) :
    Grouped d [group] (group.foldl add d) ∧ (Handled group → (group.foldl add d).Ready) := by
  obtain ⟨ps, handlers, rfl, hne, hhandlers⟩ := hg
  have h := attached_foldl hd hne hhandlers
  obtain ⟨hopen, hcontent⟩ := handlers_of_patterns ps handlers
  have hrules : rulesOf (ps.map .pattern ++ handlers) = ps.map (ruleIn handlers) := by
    unfold rulesOf ruleIn
    rw [patterns_of_group ps hhandlers, hopen, hcontent]
  have hsingle : Single (ps.map .pattern ++ handlers) ↔ Single handlers := by
    unfold Single
    rw [hopen, hcontent]
  refine ⟨⟨?_, ?_⟩, fun hhandled hnone => ?_⟩
  · rw [rules, h.complete, h.group, List.flatMap_singleton, hrules]
    rfl
  · rw [h.problems, List.forall_mem_singleton, hsingle]
  · obtain ⟨e, he, hhandler⟩ := hhandled
    rw [h.handled, Bool.not_eq_false', List.isEmpty_iff] at hnone
    rw [hnone, List.append_nil] at he
    obtain ⟨p, -, rfl⟩ := List.mem_map.mp he
    cases hhandler

theorem grouped_foldl {gs : List (List (Entry σ))} (hd : d.Ready) (hgs : ∀ group ∈ gs, IsGroup group)
    (hhandled : gs.IsChain fun group _ => Handled group) :
    Grouped d gs (gs.flatten.foldl add d) := by
  induction gs generalizing d with
  | nil => exact ⟨(List.append_nil _).symm, (and_iff_left nofun).symm⟩
  | cons group gs ih =>
    obtain ⟨hfirst, hready⟩ := grouped_group hd (hgs group List.mem_cons_self)
    cases gs with
    | nil =>
      rw [List.flatten_singleton]
      exact hfirst
    | cons next gs =>
      obtain ⟨hgroup, htail⟩ := List.isChain_cons_cons.mp hhandled
      have hrest := ih (hready hgroup) (fun x hx => hgs x (List.mem_cons_of_mem group hx)) htail
      rw [List.flatten_cons, List.foldl_append]
      exact hfirst.trans hrest

/-- A problem stays one. -/
theorem problems_isPrefix (d : Draft σ) (es : List (Entry σ)) :
    d.problems <+: (es.foldl add d).problems := by
  induction es generalizing d with
  | nil => exact List.prefix_refl _
  | cons e es ih =>
    have hadd : d.problems <+: (d.add e).problems := by
      cases e with
      | pattern p =>
        show d.problems <+: (d.addPattern p).problems
        unfold addPattern
        split <;> exact List.prefix_refl _
      | onOpen handler => exact List.prefix_append _ _
      | onContent handler => exact List.prefix_append _ _
    exact hadd.trans (ih _)

end Draft

namespace Sheet
variable {sheet : List (Entry σ)}

theorem begins_of_sound (h : (sheet.foldl Draft.add {}).problems = []) :
    ∀ e, sheet.head? = some e → e.isPattern = true := by
  cases sheet with
  | nil => nofun
  | cons e es =>
    rintro _ ⟨⟩
    have hprefix := Draft.problems_isPrefix (Draft.add {} e) es
    have hfirst : (Draft.add {} e).problems = [] := by
      rw [List.foldl_cons] at h
      rw [h] at hprefix
      exact List.prefix_nil.mp hprefix
    cases e with
    | pattern p => rfl
    | onOpen handler => cases hfirst
    | onContent handler => cases hfirst

/-- The draft of a sheet that begins with a pattern. -/
theorem grouped_sheet (h : ∀ e, sheet.head? = some e → e.isPattern = true) :
    Draft.Grouped {} (groups sheet) (sheet.foldl Draft.add {}) := by
  have hfold := Draft.grouped_foldl (d := {}) (fun _ => rfl) (isGroup_of_mem h) (groups_handled sheet)
  rwa [show (groups sheet).flatten = sheet from List.flatten_splitBy joins sheet] at hfold

theorem handled_iff {group : List (Entry σ)} :
    Handled group ↔ openHandlers group ≠ [] ∨ contentHandlers group ≠ [] := by
  constructor
  · rintro ⟨e, he, hhandler⟩
    cases e with
    | pattern p => cases hhandler
    | onOpen handler => exact .inl (List.ne_nil_of_mem (List.mem_filterMap.mpr ⟨_, he, rfl⟩))
    | onContent handler => exact .inr (List.ne_nil_of_mem (List.mem_filterMap.mpr ⟨_, he, rfl⟩))
  · rintro (h | h)
    all_goals
      obtain ⟨handler, hmem⟩ := List.exists_mem_of_ne_nil _ h
      obtain ⟨e, he, hkind⟩ := List.mem_filterMap.mp hmem
      refine ⟨e, he, ?_⟩
      cases e with
      | pattern p => cases hkind
      | onOpen _ => rfl
      | onContent _ => rfl

/-- The rules of a group have a handler just where the group has one. -/
theorem rules_handled_iff {group : List (Entry σ)} (h : IsGroup group) :
    (∀ rule ∈ rulesOf group, ¬ (rule.onOpen.isNone && rule.onContent.isNone) = true) ↔
      Handled group := by
  obtain ⟨ps, handlers, hsplit, hne, hhandlers⟩ := h
  have hpatterns : patterns group = ps := hsplit ▸ patterns_of_group ps hhandlers
  obtain ⟨p, hp⟩ := List.exists_mem_of_ne_nil ps hne
  unfold rulesOf
  rw [hpatterns, handled_iff]
  constructor
  · intro hall
    simpa [ruleIn, ← not_and_or] using hall _ (List.mem_map_of_mem hp)
  · intro hgroup rule hrule
    obtain ⟨q, -, rfl⟩ := List.mem_map.mp hrule
    simpa [ruleIn, ← not_and_or] using hgroup

/-- Of the sheets that begin with a pattern, those are sound that keep to the form. -/
theorem sound_of_begins (hbegins : ∀ e, sheet.head? = some e → e.isPattern = true) :
    Sound sheet ↔ (∀ group ∈ groups sheet, Single group) ∧
      ∀ e, sheet.getLast? = some e → e.isPattern = false := by
  have h := grouped_sheet hbegins
  have hgroups := isGroup_of_mem hbegins
  have hrules : (sheet.foldl Draft.add {}).rules = (groups sheet).flatMap rulesOf := h.rules
  have hproblems : (sheet.foldl Draft.add {}).problems = [] ↔ ∀ group ∈ groups sheet, Single group :=
    h.problems.trans (and_iff_right rfl)
  unfold Sound Draft.allProblems
  rw [List.append_eq_nil_iff, List.map_eq_nil_iff, List.filter_eq_nil_iff, hproblems, hrules,
    ← handled_iff_ends hbegins, List.forall_mem_flatMap]
  refine and_congr_right fun _ => forall₂_congr fun group hgroup => ?_
  exact rules_handled_iff (hgroups group hgroup)

theorem sound_iff : Sound sheet ↔ WellGrouped sheet := by
  constructor
  · intro h
    have hbegins := begins_of_sound (List.append_eq_nil_iff.mp h).1
    obtain ⟨hsingle, hends⟩ := (sound_of_begins hbegins).mp h
    exact ⟨hbegins, hsingle, hends⟩
  · intro h
    exact (sound_of_begins h.begins).mpr ⟨h.single, h.ends⟩

theorem map_pattern_rulesOf (gs : List (List (Entry σ))) :
    (gs.flatMap rulesOf).map (·.pattern) = patterns gs.flatten := by
  unfold patterns
  rw [List.map_flatMap, List.filterMap_flatten, List.flatMap_def]
  refine congrArg List.flatten (List.map_congr_left fun group _ => ?_)
  unfold rulesOf
  rw [List.map_map]
  exact List.map_id _

/-- What is told of a sheet does not depend on the options of the table. -/
theorem build_unsound (h : ¬ Sound sheet) :
    ∃ problems, problems ≠ [] ∧ ∀ options, RuleTable.build options sheet = .error problems := by
  refine ⟨(sheet.foldl Draft.add {}).allProblems, h, fun options => ?_⟩
  have hsome : (sheet.foldl Draft.add {}).allProblems.isEmpty = false :=
    List.isEmpty_eq_false_iff.mpr h
  unfold RuleTable.build
  dsimp only
  rw [hsome]
  rfl

theorem build_sound (h : Sound sheet) (options : Options) :
    RuleTable.build options sheet = .ok ⟨(sheet.foldl Draft.add {}).rules, options⟩ := by
  have hnone : (sheet.foldl Draft.add {}).allProblems = [] := h
  unfold RuleTable.build
  dsimp only
  rw [hnone]
  rfl

/-- **A table is made of just the sheets that keep to the form.** Its rules are those of the groups: the
patterns of the sheet in order, each with the handlers of its own group. Of any other sheet a problem
is told, and no page is read with it. -/
theorem build_groups (options : Options) (sheet : List (Entry σ)) :
    ((∃ table, RuleTable.build options sheet = .ok table) ↔ WellGrouped sheet) ∧
    (∀ table, RuleTable.build options sheet = .ok table →
      table.options = options ∧ table.rules = (groups sheet).flatMap rulesOf ∧
        table.rules.map (·.pattern) = patterns sheet) ∧
    (∀ problems, RuleTable.build options sheet = .error problems →
      problems ≠ [] ∧ ∀ source s,
        readWithSheet sheet source s = (.error (.invalidTable problems), s)) := by
  by_cases hs : Sound sheet
  · have hbuild := build_sound hs options
    have hform := sound_iff.mp hs
    refine ⟨⟨fun _ => hform, fun _ => ⟨_, hbuild⟩⟩, fun table htable => ?_, fun problems herror => ?_⟩
    · obtain rfl := Except.ok.inj (hbuild.symm.trans htable)
      have hrules : (sheet.foldl Draft.add {}).rules = (groups sheet).flatMap rulesOf :=
        (grouped_sheet hform.begins).rules
      refine ⟨rfl, hrules, ?_⟩
      rw [hrules, map_pattern_rulesOf]
      exact congrArg patterns (List.flatten_splitBy joins sheet)
    · rw [hbuild] at herror
      cases herror
  · obtain ⟨problems, hne, hbuild⟩ := build_unsound hs
    refine ⟨⟨fun ⟨table, htable⟩ => ?_, fun hform => absurd (sound_iff.mpr hform) hs⟩,
      fun table htable => ?_, fun told herror => ?_⟩
    · rw [hbuild] at htable
      cases htable
    · rw [hbuild] at htable
      cases htable
    · obtain rfl := Except.error.inj ((hbuild options).symm.trans herror)
      refine ⟨hne, fun source s => ?_⟩
      unfold readWithSheet
      rw [hbuild]

/-- Two patterns share a handler, and the pattern behind it has one of its own. -/
theorem build_shared_handler :
    let sheet : List (Entry Unit) :=
      [.name "span", .name "b", .atContent fun _ s => s, .name "a", .atTag fun _ s => s]
    ∃ table, RuleTable.build {} sheet = .ok table ∧
      table.rules.map (fun rule => (rule.pattern.tag, rule.onOpen.isSome, rule.onContent.isSome)) =
        [("span", false, true), ("b", false, true), ("a", true, false)] := by
  intro sheet
  have hform : WellGrouped sheet :=
    ⟨fun _ he => Option.some.inj he ▸ rfl,
      by decide,
      fun _ he => Option.some.inj he ▸ rfl⟩
  obtain ⟨table, htable⟩ := (build_groups {} sheet).1.mpr hform
  refine ⟨table, htable, ?_⟩
  rw [((build_groups {} sheet).2.1 table htable).2.1]
  rfl

end Sheet

end Imageboard
