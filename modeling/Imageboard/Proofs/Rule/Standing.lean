import Imageboard.Proofs.Rule.Sheet
import Mathlib.Data.List.Forall2

/-! Where on a page the tags stand that are answered.

A visit tells a tag and the content that a rule was given for it. `visits_stand` finds the tags
among the tokens of the page, in their order, and each content behind its tag: it goes up to the end
tag that closes the element, or up to the end of the page where nothing closes it. -/
namespace Imageboard

/-- A visit is to the tag `t`, which is one of the tokens `ts`, and the content it has is that of the
element. -/
def Visit.StandsAt (o : Options) (page : List Char) (ts : List Located) (v : Visit) (t : Located) :
    Prop :=
  ∃ before selfClosing behind, ts = before ++ t :: behind ∧
    t.token = .openTag v.tag v.attributes selfClosing ∧
    ∀ content, v.content = some content →
      (contentOf o page v.tag selfClosing t.stop behind).1 = some content

theorem Visit.StandsAt.of_isSuffix {o : Options} {page : List Char} {ts rest : List Located}
    {v : Visit} {t : Located} (hsuffix : rest <:+ ts) (h : v.StandsAt o page rest t) :
    v.StandsAt o page ts t := by
  obtain ⟨skipped, rfl⟩ := hsuffix
  obtain ⟨before, selfClosing, behind, rfl, htoken, hcontent⟩ := h
  exact ⟨skipped ++ before, selfClosing, behind, (List.append_assoc ..).symm, htoken, hcontent⟩

/-- The tags that are answered are among the tokens, in one order with them. -/
def Stand (o : Options) (page : List Char) (ts : List Located) (vs : List Visit) : Prop :=
  ∃ tags : List Located, tags.Sublist ts ∧ List.Forall₂ (Visit.StandsAt o page ts) vs tags

theorem Stand.of_isSuffix {o : Options} {page : List Char} {ts rest : List Located} {vs : List Visit}
    (hsuffix : rest <:+ ts) (h : Stand o page rest vs) : Stand o page ts vs := by
  obtain ⟨tags, hsublist, hstand⟩ := h
  exact ⟨tags, hsublist.trans hsuffix.sublist, hstand.imp fun _ _ => .of_isSuffix hsuffix⟩

theorem Stand.cons {o : Options} {page : List Char} {t : Located} {ts rest : List Located}
    {v : Visit} {vs : List Visit} (hv : v.StandsAt o page (t :: ts) t) (hsuffix : rest <:+ ts)
    (h : Stand o page rest vs) : Stand o page (t :: ts) (v :: vs) := by
  obtain ⟨tags, hsublist, hstand⟩ := h
  refine ⟨t :: tags, .cons_cons t (hsublist.trans hsuffix.sublist), .cons hv ?_⟩
  exact hstand.imp fun _ _ => .of_isSuffix (hsuffix.trans (List.suffix_cons t ts))

theorem Stand.exists_standsAt {o : Options} {page : List Char} {ts : List Located} {vs : List Visit}
    (h : Stand o page ts vs) {v : Visit} (hv : v ∈ vs) : ∃ t, v.StandsAt o page ts t := by
  obtain ⟨tags, -, hstand⟩ := h
  obtain ⟨n, hn, rfl⟩ := List.getElem_of_mem hv
  exact ⟨_, hstand.get hn (hstand.length_eq ▸ hn)⟩

theorem Rule.visit_standsAt {rule : Rule σ} {i : Nat} {o : Options} {page : List Char} {tag : String}
    {attributes : Attributes} {selfClosing : Bool} {t : Located} {ts : List Located} {s s' : σ}
    {v : Visit} {result : Except HandlerFailure (List Located)}
    (ht : t.token = .openTag tag attributes selfClosing)
    (h : rule.visit i o page tag attributes selfClosing t.stop ts s = (v, result, s')) :
    v.StandsAt o page (t :: ts) t := by
  obtain ⟨-, rfl, rfl⟩ := Rule.visit_tag h
  exact ⟨[], selfClosing, ts, rfl, ht, fun _ hc => Rule.visit_content_eq h hc⟩

namespace RuleTable

theorem course_stands (table : RuleTable σ) (page : List Char) (s : σ) (ts : List Located) :
    Stand table.options page ts (table.course page s ts).visits := by
  fun_induction RuleTable.course table page s ts with
  | case1 s => exact ⟨[], List.nil_sublist _, .nil⟩
  | case2 s t ts tag attributes selfClosing ht hr ih => exact ih.of_isSuffix (List.suffix_cons t ts)
  | case3 s t ts tag attributes selfClosing ht i rule hr v failure s' hv =>
    exact .cons (Rule.visit_standsAt ht hv) (List.suffix_refl ts) ⟨[], List.nil_sublist _, .nil⟩
  | case4 s t ts tag attributes selfClosing ht i rule hr v rest s' hv course ih =>
    exact .cons (Rule.visit_standsAt ht hv) (Rule.visit_isSuffix hv) ih
  | case5 s t ts ht ih => exact ih.of_isSuffix (List.suffix_cons t ts)

end RuleTable

theorem Sheet.visits_stand (sheet : List (Entry σ)) {source : Source} {markup : String}
    (h : source.markup = .ok markup) (s : σ) :
    Stand {} markup.toList (tokens {} markup.toList) (visits sheet source s) := by
  unfold visits
  rw [h]
  exact RuleTable.course_stands (table sheet) markup.toList s (tokens {} markup.toList)

end Imageboard
