import Imageboard.Proofs.Rule.History

/-! Patterns that no tag matches both of.

Only the first rule that matches a tag answers it. Where the patterns before a rule are apart from
its own, nothing comes before it, and `meets_iff` tells from the tag alone whether it is the one to
answer. -/
namespace Imageboard

namespace TagPattern

/-- Whether a pattern asks for another value of the attribute that is `value` here. -/
def refuses (key value : String) : TagPattern → Bool
  | name _ => false
  | equals _ key' value' => key' == key && value' != value
  | startsWith _ key' lead => key' == key && !Text.startsWith lead value
  | contains _ key' part => key' == key && !Text.contains part value
  | endsWith _ key' tail => key' == key && !Text.endsWith tail value

/-- No tag matches both patterns: they are for tags of different names, or one of them tells the
value of an attribute and the other refuses it. -/
def apart (p q : TagPattern) : Bool :=
  p.tag != q.tag ||
    match p, q with
    | equals _ key value, q => q.refuses key value
    | p, equals _ key value => p.refuses key value
    | _, _ => false

theorem matchesAttributes_of_refuses {key value : String} {p : TagPattern}
    (h : p.refuses key value = true) {attributes : Attributes}
    (hvalue : attributes.get? key = some value) : p.matchesAttributes attributes = false := by
  cases p with
  | name => cases h
  | equals =>
    simp only [refuses, Bool.and_eq_true, beq_iff_eq, bne_iff_ne] at h
    obtain ⟨rfl, hne⟩ := h
    simpa [matchesAttributes, hvalue] using Ne.symm hne
  | startsWith | contains | endsWith =>
    simp only [refuses, Bool.and_eq_true, beq_iff_eq, Bool.not_eq_true'] at h
    obtain ⟨rfl, hne⟩ := h
    simp [matchesAttributes, hvalue, hne]

theorem matchesTag_of_apart {p q : TagPattern} (h : p.apart q = true) {tag : String}
    {attributes : Attributes} (hq : q.matchesTag tag attributes = true) :
    p.matchesTag tag attributes = false := by
  simp only [matchesTag, Bool.and_eq_true, beq_iff_eq] at hq
  obtain ⟨rfl, hq⟩ := hq
  unfold apart at h
  rw [Bool.or_eq_true, bne_iff_ne] at h
  unfold matchesTag
  rcases h with htag | hvalue
  · simp [htag]
  · split at hvalue
    · rename_i tag key value
      cases hp : (equals tag key value).matchesAttributes attributes with
      | false => rw [Bool.and_false]
      | true =>
        rw [matchesAttributes_of_refuses hvalue (by simpa [matchesAttributes] using hp)] at hq
        cases hq
    · rename_i key value _
      rw [matchesAttributes_of_refuses hvalue (by simpa [matchesAttributes] using hq),
        Bool.and_false]
    · cases hvalue

end TagPattern

/-- Whether the tag matches a pattern, whichever rule answers it. -/
def Visit.meets (v : Visit) (p : TagPattern) : Bool := p.matchesTag v.tag v.attributes

/-- Whether the tag is answered by the rule of a pattern, and not by one that stands before it. -/
def Visit.answeredBy (table : RuleTable σ) (p : TagPattern) (v : Visit) : Bool :=
  table.rules[v.rule]?.any (·.pattern == p)

theorem eq_false_of_ne {mark : Bool} {rule i : Nat} (h : mark = true ↔ rule = i) (hne : rule ≠ i) :
    mark = false :=
  Bool.eq_false_iff.mpr fun hmark => hne (h.mp hmark)

namespace RuleTable
variable {table : RuleTable σ} {i : Nat} {pattern : TagPattern}

/-- Where no two rules have one pattern, a pattern tells which rule answered. -/
theorem answeredBy_iff (i : Nat) (hp : table.rules[i]?.map (·.pattern) = some pattern)
    (hnodup : (table.rules.map (·.pattern)).Nodup) (v : Visit) :
    v.answeredBy table pattern = true ↔ v.rule = i := by
  obtain ⟨rule, hr, rfl⟩ := Option.map_eq_some_iff.mp hp
  unfold Visit.answeredBy
  constructor
  · intro h
    obtain ⟨answering, hget, hpattern⟩ := (Option.any_eq_true _ _).mp h
    have hi : (table.rules.map (·.pattern))[i]? = some rule.pattern := by
      rw [List.getElem?_map, hr, Option.map_some]
    have hv : (table.rules.map (·.pattern))[v.rule]? = some rule.pattern := by
      rw [List.getElem?_map, hget, Option.map_some, beq_iff_eq.mp hpattern]
    have hlt := (List.getElem?_eq_some_iff.mp hv).1
    exact (List.getElem?_inj hlt hnodup).mp (hv.trans hi.symm)
  · rintro rfl
    rw [hr]
    exact beq_self_eq_true rule.pattern

theorem firstRule?_of_apart {rule : Rule σ} (hr : table.rules[i]? = some rule)
    (hapart : (table.rules.take i).all (fun earlier => earlier.pattern.apart rule.pattern) = true)
    {tag : String} {attributes : Attributes} (hm : rule.pattern.matchesTag tag attributes = true) :
    table.firstRule? tag attributes = some (i, rule) := by
  obtain ⟨hlt, hget⟩ := List.getElem?_eq_some_iff.mp hr
  have hindex : table.findIndex? tag attributes = some i := by
    unfold findIndex?
    rw [List.findIdx?_eq_some_iff_getElem]
    refine ⟨hlt, by rw [hget]; exact hm, fun j hj => ?_⟩
    have hmem : table.rules[j] ∈ table.rules.take i := List.mem_take_iff_getElem.mpr
      ⟨j, by omega, rfl⟩
    have := TagPattern.matchesTag_of_apart (List.all_eq_true.mp hapart _ hmem) hm
    simp [this]
  unfold firstRule?
  rw [hindex, Option.bind_some, hr]
  rfl

/-- Whether a rule is the one that answered a tag, where no earlier rule matches what it matches. -/
theorem meets_iff (i : Nat) (hp : table.rules[i]?.map (·.pattern) = some pattern)
    (hapart : (table.rules.take i).all (fun earlier => earlier.pattern.apart pattern) = true)
    {s : σ} {v : Visit} (hv : v.MadeIn table s) : v.meets pattern = true ↔ v.rule = i := by
  obtain ⟨rule, hr, rfl⟩ := Option.map_eq_some_iff.mp hp
  obtain ⟨answering, hfirst, -⟩ := hv
  constructor
  · intro hm
    rw [firstRule?_of_apart hr hapart hm] at hfirst
    exact (Prod.mk.inj (Option.some.inj hfirst)).1.symm
  · rintro rfl
    obtain ⟨hget, hm⟩ := firstRule?_eq_some hfirst
    rw [hr] at hget
    obtain rfl := Option.some.inj hget
    exact hm

end RuleTable

end Imageboard
