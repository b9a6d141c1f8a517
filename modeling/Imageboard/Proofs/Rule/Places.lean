import Imageboard.Proofs.Rule.History

/-! Places on a page, counted by the tags that are answered.

What a tag finds depends on what came last before it: `latest` is the last place with some property,
and `sinceLatest` lists the places behind it. -/
namespace Imageboard

/-- The last of the places before `n` where `p` holds. -/
def latest (p : Nat → Bool) : Nat → Option Nat
  | 0 => none
  | n + 1 => if p n then some n else latest p n

/-- The places before `n` that are behind the last one where `p` holds. -/
def sinceLatest (p : Nat → Bool) : Nat → List Nat
  | 0 => []
  | n + 1 => if p n then [] else sinceLatest p n ++ [n]

variable {p q : Nat → Bool} {n k : Nat}

theorem latest_eq_some_iff :
    latest p n = some k ↔ k < n ∧ p k = true ∧ ∀ j, k < j → j < n → p j = false := by
  induction n with
  | zero => exact ⟨nofun, fun h => nomatch h.1⟩
  | succ n ih =>
    rw [latest]
    cases hn : p n
    · rw [if_neg Bool.false_ne_true, ih]
      constructor
      · rintro ⟨hlt, hk, hlast⟩
        refine ⟨Nat.lt_succ_of_lt hlt, hk, fun j hkj hj => ?_⟩
        rcases Nat.lt_succ_iff_lt_or_eq.mp hj with hj | rfl
        · exact hlast j hkj hj
        · exact hn
      · rintro ⟨hlt, hk, hlast⟩
        have hne : k ≠ n := by rintro rfl; rw [hk] at hn; cases hn
        exact ⟨by omega, hk, fun j hkj hj => hlast j hkj (Nat.lt_succ_of_lt hj)⟩
    · rw [if_pos rfl, Option.some.injEq]
      constructor
      · rintro rfl
        exact ⟨Nat.lt_succ_self n, hn, fun j hnj hj => by omega⟩
      · rintro ⟨hlt, -, hlast⟩
        rcases Nat.lt_succ_iff_lt_or_eq.mp hlt with hlt | rfl
        · rw [hlast n hlt (Nat.lt_succ_self n)] at hn
          cases hn
        · rfl

theorem mem_sinceLatest :
    k ∈ sinceLatest p n ↔ k < n ∧ ∀ j, k ≤ j → j < n → p j = false := by
  induction n with
  | zero => exact ⟨nofun, fun h => nomatch h.1⟩
  | succ n ih =>
    rw [sinceLatest]
    cases hn : p n
    · rw [if_neg Bool.false_ne_true, List.mem_append, List.mem_singleton, ih]
      constructor
      · rintro (⟨hlt, hnone⟩ | rfl)
        · refine ⟨Nat.lt_succ_of_lt hlt, fun j hkj hj => ?_⟩
          rcases Nat.lt_succ_iff_lt_or_eq.mp hj with hj | rfl
          · exact hnone j hkj hj
          · exact hn
        · refine ⟨Nat.lt_succ_self k, fun j hkj hj => ?_⟩
          obtain rfl : j = k := by omega
          exact hn
      · rintro ⟨hlt, hnone⟩
        rcases Nat.lt_succ_iff_lt_or_eq.mp hlt with hlt | rfl
        · exact .inl ⟨hlt, fun j hkj hj => hnone j hkj (Nat.lt_succ_of_lt hj)⟩
        · exact .inr rfl
    · rw [if_pos rfl]
      refine ⟨nofun, fun ⟨hlt, hnone⟩ => ?_⟩
      rw [hnone n (Nat.le_of_lt_succ hlt) (Nat.lt_succ_self n)] at hn
      cases hn

theorem mem_sinceLatest_of_succ (h : k ∈ sinceLatest p (n + 1)) (hlt : k < n) :
    k ∈ sinceLatest p n ∧ p n = false := by
  obtain ⟨-, hnone⟩ := mem_sinceLatest.mp h
  exact ⟨mem_sinceLatest.mpr ⟨hlt, fun j hkj hj => hnone j hkj (Nat.lt_succ_of_lt hj)⟩,
    hnone n (Nat.le_of_lt hlt) (Nat.lt_succ_self n)⟩

/-- One more place: it ends the list, or it is the last of it, or it is of neither kind. -/
theorem filter_sinceLatest_succ (p q : Nat → Bool) (n : Nat) :
    (sinceLatest p (n + 1)).filter q =
      if p n then []
      else if q n then (sinceLatest p n).filter q ++ [n]
      else (sinceLatest p n).filter q := by
  rw [sinceLatest]
  cases p n
  · rw [if_neg Bool.false_ne_true, if_neg Bool.false_ne_true, List.filter_append]
    cases hq : q n <;> simp [hq]
  · rfl

/-- The last place of some kind, among those behind a place of another kind. -/
theorem filter_sinceLatest_cases (p q : Nat → Bool) (n : Nat) :
    (sinceLatest p n).filter q = [] ∨
      ∃ earlier k, (sinceLatest p n).filter q = earlier ++ [k] ∧ k ∉ earlier ∧
        latest q n = some k := by
  induction n with
  | zero => exact .inl rfl
  | succ n ih =>
    rw [filter_sinceLatest_succ, latest]
    cases p n
    · cases hq : q n
      · exact ih
      · refine .inr ⟨_, n, rfl, fun hn => ?_, rfl⟩
        exact Nat.lt_irrefl n (mem_sinceLatest.mp (List.mem_filter.mp hn).1).1
    · exact .inl rfl

/-! ### The tags of a page -/

namespace Sheet
variable (sheet : List (Entry σ)) (source : Source) (s : σ)

/-- Whether the tag at place `n` is a mark of some kind. -/
def markAt (mark : Visit → Bool) (n : Nat) : Bool := (visits sheet source s)[n]?.any mark

/-- What the tag at place `n` tells. -/
def toldAt (tells : Visit → Option α) (n : Nat) : Option α := (visits sheet source s)[n]?.bind tells

variable {sheet source s} {n : Nat} {v : Visit}

theorem markAt_eq (h : (visits sheet source s)[n]? = some v) (mark : Visit → Bool) :
    markAt sheet source s mark n = mark v := by
  rw [markAt, h, Option.any_some]

theorem toldAt_eq (h : (visits sheet source s)[n]? = some v) (tells : Visit → Option α) :
    toldAt sheet source s tells n = tells v := by
  rw [toldAt, h, Option.bind_some]

end Sheet

end Imageboard
