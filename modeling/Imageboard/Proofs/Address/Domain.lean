import Imageboard.Address.Domain

/-! What the ASCII form of a domain name holds.

`asciiDomain_spec`: ASCII characters alone, and none that could end the name where it stands in
an address. Punycode adds letters, digits and the hyphen: `forall_mem_encode`. -/
namespace Imageboard

/-! ### What Punycode writes -/

namespace Punycode
variable {P : Char → Prop}

theorem forall_mem_writeDistance (hdigit : ∀ d < 36, P (digitCharacter d)) (bias k q : Nat) :
    ∀ c ∈ writeDistance bias k q, P c := by
  induction k, q using writeDistance.induct bias with
  | case1 k q t hq =>
    have hq : q < threshold bias k := hq
    have ht := threshold_bounds bias k
    rw [writeDistance, if_pos hq]
    simpa only [List.mem_singleton, forall_eq] using hdigit q (by omega)
  | case2 k q t hq ih =>
    have ht := threshold_bounds bias k
    have hd : (q - threshold bias k) % (36 - threshold bias k) < 36 - threshold bias k :=
      Nat.mod_lt _ (by omega)
    rw [writeDistance, if_neg hq]
    exact List.forall_mem_cons.mpr ⟨hdigit _ (by omega), ih⟩

theorem forall_mem_pass (hdigit : ∀ d < 36, P (digitCharacter d)) {p : Progress}
    (h : ∀ c ∈ p.written, P c) (ascii code : Nat) (c : Char) :
    ∀ d ∈ (p.pass ascii code c).written, P d := by
  unfold Progress.pass
  split
  · exact h
  · split
    · exact List.forall_mem_append.mpr ⟨h, forall_mem_writeDistance hdigit _ _ _⟩
    · exact h

theorem forall_mem_placeAll (hdigit : ∀ d < 36, P (digitCharacter d)) (label : List Char)
    (ascii : Nat) (codes : List Nat) (next : Nat) (p : Progress) (h : ∀ c ∈ p.written, P c) :
    ∀ c ∈ (placeAll label ascii codes next p).written, P c := by
  induction codes generalizing next p with
  | nil => exact h
  | cons code codes ih =>
    refine ih _ _ ?_
    exact List.foldlRecOn (motive := fun p : Progress => ∀ c ∈ p.written, P c) label _ h
      fun _ hp c _ => forall_mem_pass hdigit hp ascii code c

/-- Punycode writes the ASCII characters of a label, hyphens and digits of its own. -/
theorem forall_mem_encode (hdigit : ∀ d < 36, P (digitCharacter d)) (hhyphen : P '-')
    {label : List Char} (h : ∀ c ∈ label, isAscii c → P c) : ∀ c ∈ encode label, P c := by
  refine List.forall_mem_append.mpr ⟨List.forall_mem_append.mpr ⟨?_, ?_⟩, ?_⟩
  · intro c hc
    obtain ⟨hmem, hascii⟩ := List.mem_filter.mp hc
    exact h c hmem hascii
  · split
    · exact fun c hc => absurd hc (List.not_mem_nil)
    · simpa only [List.mem_singleton, forall_eq] using hhyphen
  · exact forall_mem_placeAll hdigit _ _ _ _ _ fun c hc => absurd hc (List.not_mem_nil)

end Punycode

/-! ### Domain names -/

namespace Address
open Punycode

theorem forall_mem_intercalate {P : Char → Prop} {separator : List Char}
    (hseparator : ∀ c ∈ separator, P c) {parts : List (List Char)}
    (hparts : ∀ part ∈ parts, ∀ c ∈ part, P c) : ∀ c ∈ List.intercalate separator parts, P c := by
  induction parts with
  | nil => exact fun c hc => absurd hc (List.not_mem_nil)
  | cons part parts ih =>
    obtain ⟨hpart, hrest⟩ := List.forall_mem_cons.mp hparts
    cases parts with
    | nil => rwa [List.intercalate_singleton]
    | cons next parts =>
      rw [List.intercalate_cons_cons]
      exact List.forall_mem_append.mpr ⟨List.forall_mem_append.mpr ⟨hpart, hseparator⟩, ih hrest⟩

theorem digitCharacter_fits : ∀ d < 36, isAscii (digitCharacter d) ∧
    isForbidden (digitCharacter d) = false := by
  decide

theorem asciiLabel_spec {label : List Char} (h : ∀ c ∈ label, isForbidden c = false) :
    ∀ c ∈ asciiLabel label, isAscii c ∧ isForbidden c = false := by
  unfold asciiLabel
  split
  case isTrue hascii => exact fun c hc => ⟨List.all_eq_true.mp hascii c hc, h c hc⟩
  case isFalse =>
    have hmark : ∀ c ∈ ['x', 'n', '-', '-'], isAscii c ∧ isForbidden c = false := by
      simp only [List.mem_cons, List.not_mem_nil, or_false, forall_eq_or_imp, forall_eq]
      decide
    refine List.forall_mem_append.mpr ⟨hmark, ?_⟩
    exact forall_mem_encode digitCharacter_fits (by decide)
      fun c hc hascii => ⟨hascii, h c hc⟩

theorem not_isForbidden_of_isDomain {s name : List Char} (h : isDomain s = true)
    (hname : name ∈ labels (spelled s)) : ∀ c ∈ name, isForbidden c = false := by
  intro c hc
  obtain ⟨⟨-, hspelled⟩, -⟩ : (_ ∧ (spelled s).all (fun c => !isForbidden c) = true) ∧ _ := by
    simpa only [isDomain, Bool.and_eq_true, List.not_any_eq_all_not] using h
  simpa only [Bool.not_eq_true'] using
    List.all_eq_true.mp hspelled c (Text.mem_of_mem_stretches hname hc)

/-- **A domain name in its ASCII form can stand in an address as it is.** -/
theorem asciiDomain_spec {written domain : List Char} (h : asciiDomain written = .ok domain) :
    ∀ c ∈ domain, isAscii c ∧ isForbidden c = false := by
  unfold asciiDomain at h
  split at h
  case h_1 s hs =>
    cases h
    have hdomain : isDomain s = true := (Option.filter_eq_some_iff.mp hs).2
    have hdot : ∀ c ∈ ['.'], isAscii c ∧ isForbidden c = false := by
      simp only [List.mem_singleton, forall_eq]
      decide
    refine forall_mem_intercalate hdot fun label hlabel => ?_
    obtain ⟨name, hname, rfl⟩ := List.mem_map.mp hlabel
    exact asciiLabel_spec (not_isForbidden_of_isDomain hdomain hname)
  case h_2 => cases h

end Address
end Imageboard
