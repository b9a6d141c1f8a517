import Imageboard.Text.Search

/-! Looking for one text inside another, where the text goes on behind it.

Where something is found does not depend on what stands behind it (`splitFirst?_append`), and what is
found in front of an ending is found without the ending (`splitFirst?_of_append`). A character that is
not in what is looked for stops the search: the text in front of it and the text behind it can be
searched one after the other (`splitFirst?_append_stop`). -/
namespace Imageboard.Text

theorem strip?_append [BEq α] {lead s rest : List α} (h : strip? lead s = some rest) (b : List α) :
    strip? lead (s ++ b) = some (rest ++ b) := by
  fun_induction strip? lead s with
  | case1 s =>
    obtain rfl := Option.some.inj h
    rfl
  | case2 => cases h
  | case3 c lead d s hcd ih =>
    rw [List.cons_append, strip?, if_pos hcd]
    exact ih h
  | case4 => cases h

theorem strip?_eq_none_of_append [BEq α] {lead s b : List α} (h : strip? lead (s ++ b) = none) :
    strip? lead s = none := by
  refine Option.eq_none_iff_forall_ne_some.mpr fun rest hrest => ?_
  rw [strip?_append hrest b] at h
  cases h

theorem strip?_iff [BEq α] [LawfulBEq α] {lead s rest : List α} :
    strip? lead s = some rest ↔ s = lead ++ rest := by
  constructor
  · exact strip?_eq
  · rintro rfl
    induction lead with
    | nil => rfl
    | cons c lead ih => rw [List.cons_append, strip?, if_pos (BEq.refl c)]; exact ih

theorem strip?_of_append [BEq α] [LawfulBEq α] {lead s b r : List α}
    (h : strip? lead (s ++ b) = some (r ++ b)) : strip? lead s = some r :=
  strip?_iff.mpr (List.append_cancel_right ((strip?_eq h).trans (List.append_assoc ..).symm))

theorem startsWith_iff {lead s : String} :
    startsWith lead s = true ↔ ∃ rest, s.toList = lead.toList ++ rest := by
  unfold startsWith
  simp only [Option.isSome_iff_exists, strip?_iff]

theorem splitFirst?_of_append [BEq α] [LawfulBEq α] {needle s b x r : List α}
    (h : splitFirst? needle (s ++ b) = some (x, r ++ b)) : splitFirst? needle s = some (x, r) := by
  induction s generalizing x with
  | nil =>
    have hb : b = x ++ needle ++ (r ++ b) := splitFirst?_eq h
    have hl := congrArg List.length hb
    simp only [List.length_append] at hl
    obtain rfl : x = [] := List.eq_nil_of_length_eq_zero (by omega)
    obtain rfl : needle = [] := List.eq_nil_of_length_eq_zero (by omega)
    obtain rfl : r = [] := List.eq_nil_of_length_eq_zero (by omega)
    rfl
  | cons c s ih =>
    rw [List.cons_append, splitFirst?] at h
    rw [splitFirst?]
    split at h
    · rename_i rest hrest
      obtain ⟨rfl, rfl⟩ := Prod.mk.inj (Option.some.inj h)
      rw [strip?_of_append (s := c :: s) hrest]
    · rename_i hnone
      have hs : strip? needle (c :: s) = none := strip?_eq_none_of_append (b := b) hnone
      obtain ⟨⟨y, rest⟩, hy, he⟩ := Option.map_eq_some_iff.mp h
      obtain ⟨rfl, rfl⟩ := Prod.mk.inj he
      rw [hs]
      dsimp only
      rw [ih hy]
      rfl

/-- What is long enough to tell does not depend on what stands behind it. -/
theorem strip?_append_of_le [BEq α] {lead s : List α} (h : lead.length ≤ s.length) (b : List α) :
    strip? lead (s ++ b) = (strip? lead s).map (· ++ b) := by
  fun_induction strip? lead s with
  | case1 s => rfl
  | case2 => cases h
  | case3 c lead d s hcd ih =>
    rw [List.cons_append, strip?, if_pos hcd]
    exact ih (Nat.le_of_succ_le_succ h)
  | case4 c lead d s hcd => rw [List.cons_append, strip?, if_neg hcd]; rfl

/-- What is found stays the first when the text goes on. -/
theorem splitFirst?_append [BEq α] [LawfulBEq α] {needle s x r : List α}
    (h : splitFirst? needle s = some (x, r)) (b : List α) :
    splitFirst? needle (s ++ b) = some (x, r ++ b) := by
  have hlen : needle.length ≤ s.length := by
    rw [splitFirst?_eq h, List.length_append, List.length_append]
    omega
  induction s generalizing x with
  | nil =>
    obtain rfl : needle = [] := List.eq_nil_of_length_eq_zero (Nat.le_zero.mp hlen)
    obtain ⟨rfl, rfl⟩ := Prod.mk.inj (Option.some.inj h)
    cases b <;> rfl
  | cons c s ih =>
    rw [splitFirst?] at h
    rw [List.cons_append, splitFirst?, ← List.cons_append, strip?_append_of_le hlen]
    cases hs : strip? needle (c :: s) with
    | some rest =>
      rw [hs] at h
      obtain ⟨rfl, rfl⟩ := Prod.mk.inj (Option.some.inj h)
      rfl
    | none =>
      rw [hs] at h
      obtain ⟨⟨y, rest⟩, hy, he⟩ := Option.map_eq_some_iff.mp h
      obtain ⟨rfl, rfl⟩ := Prod.mk.inj he
      have hle : needle.length ≤ s.length := by
        rw [splitFirst?_eq hy, List.length_append, List.length_append]
        omega
      show (splitFirst? needle (s ++ b)).map _ = _
      rw [ih hy hle]
      rfl

/-! ### A character that stops the search

Nothing is found across a character that is not in what is looked for. -/

theorem strip?_append_stop [BEq α] [LawfulBEq α] {needle : List α} {c : α} (hc : c ∉ needle)
    (s t : List α) : strip? needle (s ++ c :: t) = (strip? needle s).map (· ++ c :: t) := by
  fun_induction strip? needle s with
  | case1 s => rfl
  | case2 d needle =>
    have hd : (d == c) = false := beq_false_of_ne fun he => hc (he ▸ List.mem_cons_self)
    rw [List.nil_append, strip?, hd]
    rfl
  | case3 d needle e s hde ih =>
    rw [List.cons_append, strip?, if_pos hde]
    exact ih fun hmem => hc (List.mem_cons_of_mem d hmem)
  | case4 d needle e s hde =>
    rw [List.cons_append, strip?, if_neg hde]
    rfl

theorem strip?_nil [BEq α] {needle : List α} (hne : needle ≠ []) :
    strip? needle ([] : List α) = none := by
  cases needle with
  | nil => exact absurd rfl hne
  | cons d needle => rfl

theorem splitFirst?_cons_stop [BEq α] [LawfulBEq α] {needle : List α} {c : α} (hc : c ∉ needle)
    (hne : needle ≠ []) (t : List α) :
    splitFirst? needle (c :: t) =
      (splitFirst? needle t).map fun (before, after) => (c :: before, after) := by
  have hstop : strip? needle (c :: t) = none := by
    rw [← List.nil_append (c :: t), strip?_append_stop hc, strip?_nil hne]
    rfl
  rw [splitFirst?, hstop]

theorem splitFirst?_append_stop [BEq α] [LawfulBEq α] {needle : List α} {c : α} (hc : c ∉ needle)
    (hne : needle ≠ []) (s t : List α) :
    splitFirst? needle (s ++ c :: t) =
      match splitFirst? needle s with
      | some (before, after) => some (before, after ++ c :: t)
      | none => (splitFirst? needle t).map fun (before, after) => (s ++ c :: before, after) := by
  induction s with
  | nil =>
    have hsplit : splitFirst? needle ([] : List α) = none := by rw [splitFirst?, strip?_nil hne]
    rw [List.nil_append, hsplit, splitFirst?_cons_stop hc hne]
    rfl
  | cons d s ih =>
    rw [List.cons_append, splitFirst?, splitFirst?, ← List.cons_append, strip?_append_stop hc]
    cases hstrip : strip? needle (d :: s) with
    | some rest => rfl
    | none =>
      simp only [Option.map_none]
      rw [ih]
      cases splitFirst? needle s with
      | some parts => rfl
      | none => cases splitFirst? needle t <;> rfl

/-! ### Beginnings and ends of a text -/

theorem isSome_strip? [BEq α] [LawfulBEq α] {lead s : List α} :
    (strip? lead s).isSome = true ↔ lead <+: s := by
  simp only [Option.isSome_iff_exists, strip?_iff]
  exact exists_congr fun rest => eq_comm

theorem isPrefix_append_stop [DecidableEq α] {x : List α} {c : α} (hc : c ∉ x) (s t : List α) :
    x <+: s ++ c :: t ↔ x <+: s := by
  rw [← isSome_strip?, ← isSome_strip?, strip?_append_stop hc, Option.isSome_map]

theorem isSuffix_append_stop [DecidableEq α] {x : List α} {c : α} (hc : c ∉ x) (s t : List α) :
    x <:+ s ++ c :: t ↔ x <:+ t := by
  have hc' : c ∉ x.reverse := fun hmem => hc (List.mem_reverse.mp hmem)
  have hs : (s ++ c :: t).reverse = t.reverse ++ c :: s.reverse := by simp
  rw [← List.reverse_prefix, hs, isPrefix_append_stop hc', List.reverse_prefix]

/-- What is looked for does not begin in front of the place where it is found first. -/
theorem not_isPrefix_of_splitFirst? [BEq α] [LawfulBEq α] {needle s before rest : List α}
    (h : splitFirst? needle s = some (before, rest)) {i : Nat} (hi : i < before.length) :
    ¬ needle <+: s.drop i := by
  intro hprefix
  induction s generalizing before i with
  | nil =>
    have hs := congrArg List.length (splitFirst?_eq h)
    simp only [List.length_nil, List.length_append] at hs
    omega
  | cons c s ih =>
    rw [splitFirst?] at h
    split at h
    · obtain ⟨rfl, -⟩ := Prod.mk.inj (Option.some.inj h)
      exact absurd hi (Nat.not_lt_zero i)
    · rename_i hnone
      obtain ⟨⟨before', rest'⟩, hfound, heq⟩ := Option.map_eq_some_iff.mp h
      obtain ⟨rfl, rfl⟩ := Prod.mk.inj heq
      cases i with
      | zero => simp [← isSome_strip?, hnone] at hprefix
      | succ i => exact ih hfound (Nat.lt_of_succ_lt_succ hi) hprefix

theorem not_isPrefix_of_splitFirst?_none [BEq α] [LawfulBEq α] {needle s : List α}
    (h : splitFirst? needle s = none) (i : Nat) : ¬ needle <+: s.drop i := by
  intro hprefix
  induction s generalizing i with
  | nil =>
    rw [splitFirst?] at h
    split at h
    · cases h
    · rename_i hnone
      simp [← isSome_strip?, hnone] at hprefix
  | cons c s ih =>
    rw [splitFirst?] at h
    split at h
    · cases h
    · rename_i hnone
      cases i with
      | zero => simp [← isSome_strip?, hnone] at hprefix
      | succ i => exact ih (Option.map_eq_none_iff.mp h) i hprefix

theorem not_mem_of_splitFirst? [BEq α] [LawfulBEq α] {c : α} {s before rest : List α}
    (h : splitFirst? [c] s = some (before, rest)) : c ∉ before := by
  induction s generalizing before with
  | nil => cases h
  | cons d s ih =>
    rw [splitFirst?] at h
    split at h
    · obtain ⟨rfl, -⟩ := Prod.mk.inj (Option.some.inj h)
      exact List.not_mem_nil
    · rename_i hnone
      obtain ⟨⟨before', rest'⟩, hfound, heq⟩ := Option.map_eq_some_iff.mp h
      obtain ⟨rfl, rfl⟩ := Prod.mk.inj heq
      have hd : c ≠ d := by
        rintro rfl
        simp [strip?] at hnone
      exact List.not_mem_cons_of_ne_of_not_mem hd (ih hfound)

theorem splitLast?_eq [BEq α] [LawfulBEq α] {needle s before after : List α}
    (h : splitLast? needle s = some (before, after)) : s = before ++ needle ++ after := by
  induction s generalizing before with
  | nil =>
    obtain ⟨rest, hrest, heq⟩ := Option.map_eq_some_iff.mp h
    obtain ⟨rfl, rfl⟩ := Prod.mk.inj heq
    exact strip?_eq hrest
  | cons c s ih =>
    rw [splitLast?] at h
    cases hs : splitLast? needle s with
    | some parts =>
      rw [hs] at h
      obtain ⟨rfl, rfl⟩ := Prod.mk.inj (Option.some.inj h)
      exact congrArg (c :: ·) (ih hs)
    | none =>
      rw [hs] at h
      obtain ⟨rest, hrest, heq⟩ := Option.map_eq_some_iff.mp h
      obtain ⟨rfl, rfl⟩ := Prod.mk.inj heq
      exact strip?_eq hrest

/-! ### The first and the last place where something is read -/

theorem readLast?_eq_none {reader : List Char → Option α} (hnil : reader [] = none) {s : List Char} :
    readLast? reader s = none ↔ ∀ u v, s = u ++ v → reader v = none := by
  induction s with
  | nil =>
    refine ⟨fun _ u v huv => ?_, fun _ => rfl⟩
    rw [(List.append_eq_nil_iff.mp huv.symm).2, hnil]
  | cons c s ih =>
    rw [readLast?, Option.or_eq_none_iff, ih]
    constructor
    · rintro ⟨hbehind, hhere⟩ u v huv
      cases u with
      | nil => exact (show c :: s = v from huv) ▸ hhere
      | cons d u => exact hbehind u v (List.cons.inj huv).2
    · exact fun h => ⟨fun u v huv => h (c :: u) v (congrArg (c :: ·) huv), h [] (c :: s) rfl⟩

theorem readLast?_eq_some {reader : List Char → Option α} (hnil : reader [] = none) {s : List Char}
    {a : α} :
    readLast? reader s = some a ↔ ∃ before t, s = before ++ t ∧ reader t = some a ∧
      ∀ u v, u ≠ [] → t = u ++ v → reader v = none := by
  induction s with
  | nil =>
    refine ⟨nofun, ?_⟩
    rintro ⟨before, t, hs, hread, -⟩
    rw [(List.append_eq_nil_iff.mp hs.symm).2, hnil] at hread
    cases hread
  | cons c s ih =>
    rw [readLast?, Option.or_eq_some_iff, ih, readLast?_eq_none hnil]
    constructor
    · rintro (⟨before, t, rfl, hread, hlast⟩ | ⟨hbehind, hread⟩)
      · exact ⟨c :: before, t, rfl, hread, hlast⟩
      · refine ⟨[], c :: s, rfl, hread, fun u v hu huv => ?_⟩
        obtain ⟨d, u, rfl⟩ := List.exists_cons_of_ne_nil hu
        exact hbehind u v (List.cons.inj huv).2
    · rintro ⟨before, t, hs, hread, hlast⟩
      cases before with
      | nil =>
        obtain rfl : c :: s = t := hs
        exact .inr ⟨fun u v huv => hlast (c :: u) v (List.cons_ne_nil c u) (congrArg (c :: ·) huv),
          hread⟩
      | cons d before => exact .inl ⟨before, t, (List.cons.inj hs).2, hread, hlast⟩

theorem readFirst?_eq_none {reader : List Char → Option α} (hnil : reader [] = none)
    {s : List Char} : readFirst? reader s = none ↔ ∀ u v, s = u ++ v → reader v = none := by
  induction s with
  | nil =>
    refine ⟨fun _ u v huv => ?_, fun _ => rfl⟩
    rw [(List.append_eq_nil_iff.mp huv.symm).2, hnil]
  | cons c s ih =>
    rw [readFirst?, Option.or_eq_none_iff, ih]
    constructor
    · rintro ⟨hhere, hbehind⟩ u v huv
      cases u with
      | nil => exact (show c :: s = v from huv) ▸ hhere
      | cons d u => exact hbehind u v (List.cons.inj huv).2
    · exact fun h => ⟨h [] (c :: s) rfl, fun u v huv => h (c :: u) v (congrArg (c :: ·) huv)⟩

theorem readFirst?_eq_some {reader : List Char → Option α} (hnil : reader [] = none)
    {s : List Char} {a : α} :
    readFirst? reader s = some a ↔ ∃ before t, s = before ++ t ∧ reader t = some a ∧
      ∀ u v, v ≠ [] → before = u ++ v → reader (v ++ t) = none := by
  induction s with
  | nil =>
    refine ⟨nofun, ?_⟩
    rintro ⟨before, t, hs, hread, -⟩
    rw [(List.append_eq_nil_iff.mp hs.symm).2, hnil] at hread
    cases hread
  | cons c s ih =>
    rw [readFirst?, Option.or_eq_some_iff, ih]
    constructor
    · rintro (hread | ⟨hhere, before, t, rfl, hread, hfirst⟩)
      · exact ⟨[], c :: s, rfl, hread, fun u v hv huv =>
          absurd (List.append_eq_nil_iff.mp huv.symm).2 hv⟩
      · refine ⟨c :: before, t, rfl, hread, fun u v hv huv => ?_⟩
        cases u with
        | nil => exact (show c :: before = v from huv) ▸ hhere
        | cons d u => exact hfirst u v hv (List.cons.inj huv).2
    · rintro ⟨before, t, hs, hread, hfirst⟩
      cases before with
      | nil => exact .inl ((show c :: s = t from hs) ▸ hread)
      | cons d before =>
        refine .inr ⟨?_, before, t, (List.cons.inj hs).2, hread, fun u v hv huv => ?_⟩
        · exact hs ▸ hfirst [] (d :: before) (List.cons_ne_nil d before) rfl
        · exact hfirst (d :: u) v hv (congrArg (d :: ·) huv)

/-! ### The character where a stretch stops -/

theorem takeWhile_stop {p : Char → Bool} {s : List Char} {c : Char} (hs : ∀ d ∈ s, p d = true)
    (hc : p c = false) (rest : List Char) : (s ++ c :: rest).takeWhile p = s := by
  rw [List.takeWhile_append_of_pos hs, List.takeWhile_cons_of_neg (by simp [hc]), List.append_nil]

theorem dropWhile_stop {p : Char → Bool} {s : List Char} {c : Char} (hs : ∀ d ∈ s, p d = true)
    (hc : p c = false) (rest : List Char) : (s ++ c :: rest).dropWhile p = c :: rest := by
  rw [List.dropWhile_append_of_pos hs, List.dropWhile_cons_of_neg (by simp [hc])]

theorem takeWhile_head {p : Char → Bool} {s rest : List Char} (hs : ∀ c ∈ s, p c = true)
    (hrest : ∀ c ∈ rest.head?, p c = false) :
    (s ++ rest).takeWhile p = s ∧ (s ++ rest).dropWhile p = rest := by
  cases rest with
  | nil =>
    rw [List.takeWhile_append_of_pos hs, List.dropWhile_append_of_pos hs]
    exact ⟨List.append_nil s, rfl⟩
  | cons c rest => exact ⟨takeWhile_stop hs (hrest c rfl) rest, dropWhile_stop hs (hrest c rfl) rest⟩

/-- The stretch that a text begins with, and what stops it. -/
theorem exists_stretch (p : Char → Bool) (s : List Char) :
    ∃ stretch rest, s = stretch ++ rest ∧ (∀ c ∈ stretch, p c = true) ∧
      (∀ c ∈ rest.head?, p c = false) ∧ s.takeWhile p = stretch ∧ s.dropWhile p = rest := by
  induction s with
  | nil => exact ⟨[], [], rfl, nofun, nofun, rfl, rfl⟩
  | cons c s ih =>
    cases hc : p c with
    | true =>
      obtain ⟨stretch, rest, hs, hstretch, hrest, htake, hdrop⟩ := ih
      refine ⟨c :: stretch, rest, congrArg _ hs, ?_, hrest, ?_, ?_⟩
      · exact List.forall_mem_cons.mpr ⟨hc, hstretch⟩
      · rw [List.takeWhile_cons_of_pos hc, htake]
      · rw [List.dropWhile_cons_of_pos hc, hdrop]
    | false =>
      refine ⟨[], c :: s, rfl, nofun, ?_, ?_, ?_⟩
      · rintro d ⟨⟩
        exact hc
      · exact List.takeWhile_cons_of_neg (by simp [hc])
      · exact List.dropWhile_cons_of_neg (by simp [hc])

end Imageboard.Text
