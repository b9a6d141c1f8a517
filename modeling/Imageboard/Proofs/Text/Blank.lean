import Imageboard.Proofs.Text.Search
import Imageboard.Text.Blank

/-! What trimming takes away.

Blanks around a text are taken away, and nothing else is: `trim_surrounded`. -/
namespace Imageboard.Text

/-- No visible ASCII character is blank. -/
theorem not_isBlank_of_ascii {c : Char} (hlow : 32 < c.toNat) (hhigh : c.toNat < 128) :
    isBlank c = false := by
  refine Bool.eq_false_iff.mpr fun hblank => ?_
  obtain ⟨r, hr, hrange⟩ := inRanges_iff.mp hblank
  have hall : ∀ r ∈ blankRanges, r.2 ≤ 32 ∨ 128 ≤ r.1 := by decide
  have := hall r hr
  omega

/-- Blanks around a text that neither begins nor ends with one are trimmed away. -/
theorem trim_surrounded {before after s : List Char} (hbefore : ∀ c ∈ before, isBlank c = true)
    (hafter : ∀ c ∈ after, isBlank c = true) (hhead : ∀ c ∈ s.head?, isBlank c = false)
    (hlast : ∀ c ∈ s.getLast?, isBlank c = false) : trim (before ++ s ++ after) = s := by
  have hreverse : ∀ c ∈ after.reverse, isBlank c = true := fun c hc =>
    hafter c (List.mem_reverse.mp hc)
  have hend : trimEnd (s ++ after) = s := by
    rw [trimEnd, List.reverse_append, (takeWhile_head hreverse (List.head?_reverse ▸ hlast)).2,
      List.reverse_reverse]
  cases s with
  | nil =>
    have hall : ∀ c ∈ before ++ after, isBlank c = true := fun c hc =>
      (List.mem_append.mp hc).elim (hbefore c) (hafter c)
    rw [List.append_nil, trim, trimStart, ← List.append_nil (before ++ after),
      (takeWhile_head hall (by simp)).2]
    rfl
  | cons c s =>
    have hstart : ∀ d ∈ (c :: s ++ after).head?, isBlank d = false := hhead
    rw [trim, trimStart, List.append_assoc, (takeWhile_head hbefore hstart).2, hend]

/-- A text without blanks at its ends stays as it is. -/
theorem trim_eq_self {s : List Char} (hhead : ∀ c ∈ s.head?, isBlank c = false)
    (hlast : ∀ c ∈ s.getLast?, isBlank c = false) : trim s = s := by
  have hnone : ∀ c ∈ ([] : List Char), isBlank c = true := nofun
  have h := trim_surrounded hnone hnone hhead hlast
  rwa [List.nil_append, List.append_nil] at h

end Imageboard.Text
