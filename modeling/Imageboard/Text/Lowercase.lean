/-! ASCII letter case. Names of tags, attributes and labels compare without it. -/
namespace Imageboard.Text

def lowercase (s : List Char) : List Char := s.map Char.toLower

def lowercased (s : String) : String := String.ofList (lowercase s.toList)

theorem lowercase_append (a b : List Char) : lowercase (a ++ b) = lowercase a ++ lowercase b :=
  List.map_append

/-- What is true of every ASCII code is true of every ASCII character. -/
theorem forall_ascii {P : Char → Prop} (h : ∀ n < 128, P (Char.ofNat n)) {c : Char}
    (hc : c.toNat < 128) : P c := by
  have hcode := h c.toNat hc
  rwa [Char.ofNat_toNat] at hcode

/-! What the classes of ASCII letters are, as equations to rewrite with. -/

theorem isUpper_eq (c : Char) : c.isUpper = decide (c.val ≥ 'A'.val ∧ c.val ≤ 'Z'.val) := rfl

theorem isLower_eq (c : Char) :
    c.isLower = (decide (c.val ≥ 'a'.val) && decide (c.val ≤ 'z'.val)) := rfl

theorem isAlpha_eq (c : Char) : c.isAlpha = (c.isUpper || c.isLower) := rfl

theorem toLower_of_not_isUpper {c : Char} (h : c.isUpper = false) : c.toLower = c := by
  unfold Char.toLower
  rw [dif_neg]
  intro hc
  have hup : c.isUpper = true := by simpa [isUpper_eq] using hc
  rw [h] at hup
  cases hup

theorem isLower_toLower {c : Char} (h : c.isUpper = true) : c.toLower.isLower = true := by
  have hc : c.val ≥ 'A'.val ∧ c.val ≤ 'Z'.val := by simpa [isUpper_eq] using h
  unfold Char.toLower
  rw [dif_pos hc]
  simp only [ge_iff_le, UInt32.le_iff_toNat_le] at hc
  simp [isLower_eq, UInt32.le_iff_toNat_le, UInt32.toNat_add] at hc ⊢
  omega

theorem not_isUpper_of_isLower {c : Char} (h : c.isLower = true) : c.isUpper = false := by
  simp [isLower_eq, isUpper_eq, UInt32.le_iff_toNat_le] at h ⊢
  omega

theorem toLower_toLower (c : Char) : c.toLower.toLower = c.toLower := by
  cases hc : c.isUpper with
  | true => exact toLower_of_not_isUpper (not_isUpper_of_isLower (isLower_toLower hc))
  | false => rw [toLower_of_not_isUpper hc, toLower_of_not_isUpper hc]

theorem lowercase_lowercase (s : List Char) : lowercase (lowercase s) = lowercase s := by
  unfold lowercase
  rw [List.map_map]
  exact List.map_congr_left fun c _ => toLower_toLower c

theorem isAlpha_toLower (c : Char) : c.toLower.isAlpha = c.isAlpha := by
  cases hc : c.isUpper with
  | true => simp [isAlpha_eq, hc, isLower_toLower hc]
  | false => rw [toLower_of_not_isUpper hc]

/-- The text left after `name`, whose letters may be written in either case. -/
def stripFolded? : (name s : List Char) → Option (List Char)
  | [], s => some s
  | _ :: _, [] => none
  | c :: name, d :: s => if c.toLower == d.toLower then stripFolded? name s else none

theorem stripFolded?_eq_some {name s rest : List Char} :
    stripFolded? name s = some rest ↔
      ∃ written, s = written ++ rest ∧ lowercase written = lowercase name := by
  induction name generalizing s with
  | nil =>
    constructor
    · intro h
      exact ⟨[], Option.some.inj h, rfl⟩
    · rintro ⟨written, rfl, hwritten⟩
      obtain rfl := List.map_eq_nil_iff.mp hwritten
      rfl
  | cons c name ih =>
    cases s with
    | nil =>
      refine ⟨nofun, ?_⟩
      rintro ⟨written, hs, hwritten⟩
      obtain ⟨rfl, -⟩ := List.append_eq_nil_iff.mp hs.symm
      cases hwritten
    | cons d s =>
      rw [stripFolded?]
      constructor
      · intro h
        split at h
        · rename_i hcd
          obtain ⟨written, rfl, hwritten⟩ := ih.mp h
          refine ⟨d :: written, rfl, ?_⟩
          rw [lowercase, List.map_cons, ← beq_iff_eq.mp hcd]
          exact congrArg (c.toLower :: ·) hwritten
        · cases h
      · rintro ⟨written, hs, hwritten⟩
        cases written with
        | nil => cases hwritten
        | cons e written =>
          obtain ⟨rfl, rfl⟩ := List.cons.inj hs
          obtain ⟨hdc, hrest⟩ := List.cons.inj hwritten
          rw [if_pos (beq_iff_eq.mpr hdc.symm)]
          exact ih.mpr ⟨written, rfl, hrest⟩

end Imageboard.Text
