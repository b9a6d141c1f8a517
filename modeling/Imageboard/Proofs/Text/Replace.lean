import Imageboard.Text.Replace

/-! Texts in pieces.

What replacing makes of a text is told by its pieces: the matches, one after the other, and the
characters between them that are copied. A text and what becomes of it are two ways to write the same
pieces: `rendered_pieces`, `replaceAll_eq_rendered`. -/
namespace Imageboard.Text

/-! ### Pieces -/

section
variable {find? : List Char → Option (α × List Char)}

/-- The characters of a text that no match takes, and the matches. -/
def pieces (find? : List Char → Option (α × List Char)) : List Char → List (Char ⊕ α)
  | [] => []
  | c :: s =>
    match find? (c :: s) with
    | some (a, rest) =>
      if rest.length ≤ s.length then .inr a :: pieces find? rest else .inl c :: pieces find? s
    | none => .inl c :: pieces find? s
termination_by s => s.length

theorem found_of_mem_pieces {a : α} {s : List Char} (h : .inr a ∈ pieces find? s) :
    ∃ s' rest, find? s' = some (a, rest) := by
  fun_induction pieces find? s with
  | case1 => cases h
  | case2 c s b rest hfound hl ih =>
    rcases List.mem_cons.mp h with heq | h
    · obtain rfl := Sum.inr.inj heq
      exact ⟨c :: s, rest, hfound⟩
    · exact ih h
  | case3 c s b rest hfound hl ih =>
    rcases List.mem_cons.mp h with heq | h
    · cases heq
    · exact ih h
  | case4 c s hfound ih =>
    rcases List.mem_cons.mp h with heq | h
    · cases heq
    · exact ih h

/-- The text of pieces where matches are written in a certain way. -/
def rendered (write : α → List Char) (ps : List (Char ⊕ α)) : List Char :=
  ps.flatMap (Sum.elim (fun c => [c]) write)

theorem rendered_cons_inl (write : α → List Char) (c : Char) (ps : List (Char ⊕ α)) :
    rendered write (.inl c :: ps) = c :: rendered write ps := rfl

theorem rendered_cons_inr (write : α → List Char) (a : α) (ps : List (Char ⊕ α)) :
    rendered write (.inr a :: ps) = write a ++ rendered write ps := rfl

/-- Replacing writes the matches anew. -/
theorem replaceAll_eq_rendered (write : α → List Char) (s : List Char) :
    replaceAll (fun s => (find? s).map fun (a, rest) => (write a, rest)) s =
      rendered write (pieces find? s) := by
  fun_induction pieces find? s with
  | case1 => rw [replaceAll]; rfl
  | case2 c s a rest h hl ih =>
    rw [replaceAll_some (congrArg (Option.map _) h) hl, rendered_cons_inr, ih]
  | case3 c s a rest h hl ih =>
    rw [replaceAll, h, Option.map_some]
    simp only [if_neg hl, rendered_cons_inl, ih]
  | case4 c s h ih =>
    rw [replaceAll_none (congrArg (Option.map _) h), rendered_cons_inl, ih]

/-- A text is its pieces, if matches are written as they are found. -/
theorem rendered_pieces {spelling : α → List Char}
    (h : ∀ s a rest, find? s = some (a, rest) → s = spelling a ++ rest) (s : List Char) :
    rendered spelling (pieces find? s) = s := by
  fun_induction pieces find? s with
  | case1 => rfl
  | case2 c s a rest hfound hl ih => rw [rendered_cons_inr, ih, ← h _ _ _ hfound]
  | case3 c s a rest hfound hl ih => rw [rendered_cons_inl, ih]
  | case4 c s hfound ih => rw [rendered_cons_inl, ih]

end

/-! ### Replacing in a text that goes on -/

/-- Where no match begins, all is copied. -/
theorem replaceAll_copied {find? : Match} {s t : List Char}
    (h : ∀ c u v, s = u ++ c :: v → find? (c :: (v ++ t)) = none) :
    replaceAll find? (s ++ t) = s ++ replaceAll find? t := by
  induction s with
  | nil => rfl
  | cons c s ih =>
    rw [List.cons_append, replaceAll_none (h c [] s rfl),
      ih fun d u v hs => h d (c :: u) v (congrArg (c :: ·) hs), List.cons_append]

/-- Where matches in the first of two texts are not changed by the second, the texts can be replaced
in one after the other. -/
theorem replaceAll_append {find? : Match} {t : List Char}
    (h : ∀ c s, find? (c :: (s ++ t)) = (find? (c :: s)).map fun (new, rest) => (new, rest ++ t))
    (hrest : ∀ c s new rest, find? (c :: s) = some (new, rest) → rest.length ≤ s.length)
    (s : List Char) : replaceAll find? (s ++ t) = replaceAll find? s ++ replaceAll find? t := by
  fun_induction replaceAll find? s with
  | case1 => rfl
  | case2 c s new rest hfound hl ih =>
    have hfound' : find? (c :: (s ++ t)) = some (new, rest ++ t) := by rw [h, hfound]; rfl
    rw [List.cons_append, replaceAll_some hfound' (by simpa using hl), ih, List.append_assoc]
  | case3 c s new rest hfound hl ih => exact absurd (hrest c s new rest hfound) hl
  | case4 c s hfound ih =>
    have hfound' : find? (c :: (s ++ t)) = none := by rw [h, hfound]; rfl
    rw [List.cons_append, replaceAll_none hfound', ih, List.cons_append]

end Imageboard.Text
