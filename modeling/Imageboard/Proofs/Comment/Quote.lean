import Imageboard.Comment.Quote
import Imageboard.Proofs.Text.Search

/-! Quotes that start on a line of their own.

The loop of `breakBeforeQuotesFrom` asks how its output ends. Behind a quote that is told by what has
been written since (`isSuffix_append_stop`), and that is what stands there in the comment as well, so the
output can be said of the comment alone: `breakBeforeQuotesFrom_eq`. No quote begins inside another or
across a line break that was put in, so that every quote of the output is one of the comment, with its
line break: `breakAt_breakBeforeQuotesFrom`. -/
namespace Imageboard.Comment
open Text

/-- A quote begins at this place of a comment. -/
def QuoteAt (s : List Char) (i : Nat) : Prop := quoteTag.toList <+: s.drop i

/-- A line break ends at this place of a comment. -/
def BreakAt (s : List Char) (i : Nat) : Prop := lineBreakTag.toList <:+ s.take i

instance (s : List Char) (i : Nat) : Decidable (QuoteAt s i) :=
  inferInstanceAs (Decidable (_ <+: _))

instance (s : List Char) (i : Nat) : Decidable (BreakAt s i) :=
  inferInstanceAs (Decidable (_ <:+ _))

/-- The character at a place of a text, with something in front of it at some places. -/
def written (p : Nat → Prop) [DecidablePred p] (new : List Char) (placed : Char × Nat) : List Char :=
  (if p placed.2 then new else []) ++ [placed.1]

/-- A text with something put in front of the characters at some places. -/
def insertAt (p : Nat → Prop) [DecidablePred p] (new s : List Char) : List Char :=
  s.zipIdx.flatMap (written p new)

theorem flatMap_written {p : Nat → Prop} [DecidablePred p] (new : List Char) {s : List Char} {k : Nat}
    (h : ∀ i < s.length, ¬ p (k + i)) : (s.zipIdx k).flatMap (written p new) = s := by
  induction s generalizing k with
  | nil => rfl
  | cons c s ih =>
    have hs : ∀ i < s.length, ¬ p (k + 1 + i) := fun i hi => by
      rw [Nat.add_assoc, Nat.add_comm 1]
      exact h (i + 1) (Nat.succ_lt_succ hi)
    have hc : ¬ p k := h 0 (Nat.zero_lt_succ _)
    rw [List.zipIdx_cons, List.flatMap_cons, ih hs, written, if_neg hc]
    rfl

theorem flatMap_written_first {p : Nat → Prop} [DecidablePred p] (new : List Char) {s tail : List Char}
    {c : Char} {k : Nat} (hs : s = c :: tail) (h : ∀ i < tail.length, ¬ p (k + 1 + i)) :
    (s.zipIdx k).flatMap (written p new) = (if p k then new else []) ++ s := by
  subst hs
  rw [List.zipIdx_cons, List.flatMap_cons, flatMap_written new h, written, List.append_assoc]
  rfl

/-! ### Where quotes can be -/

/-- A quote tag has a `<` at its beginning only, and a line break has none of its quotation marks. -/
theorem quoteTag_eq : ∃ middle, quoteTag.toList = '<' :: (middle ++ ['"']) ∧ '<' ∉ middle ++ ['"'] :=
  ⟨"span class=\"citate".toList, rfl, by decide⟩

theorem quoteAt_append (s t : List Char) (i : Nat) :
    QuoteAt (s ++ t) (s.length + i) ↔ QuoteAt t i := by
  rw [QuoteAt, List.drop_append, List.drop_eq_nil_of_le (Nat.le_add_right _ _), List.nil_append,
    Nat.add_sub_cancel_left, QuoteAt]

/-- A `<` stands in no quote that begins in front of it. -/
theorem QuoteAt.of_append_lt {s t : List Char} {i : Nat} (h : QuoteAt (s ++ '<' :: t) i)
    (hi : i < s.length) : QuoteAt s i := by
  obtain ⟨middle, htag, htail⟩ := quoteTag_eq
  unfold QuoteAt at h ⊢
  rw [List.drop_append_of_le_length (Nat.le_of_lt hi), htag] at h
  rw [htag]
  obtain ⟨c, rest, hs⟩ := List.exists_cons_of_ne_nil (mt List.drop_eq_nil_iff.mp (Nat.not_le.mpr hi))
  rw [hs, List.cons_append, List.cons_prefix_cons, isPrefix_append_stop htail] at h
  rw [hs]
  exact List.cons_prefix_cons.mpr h

theorem QuoteAt.append {s : List Char} {i : Nat} (h : QuoteAt s i) (t : List Char) :
    QuoteAt (s ++ t) i := by
  rcases Nat.le_total i s.length with hi | hi
  · rw [QuoteAt, List.drop_append_of_le_length hi]
    exact h.trans (List.prefix_append _ t)
  · rw [QuoteAt, List.drop_eq_nil_of_le hi] at h
    cases List.prefix_nil.mp h

/-- No quote begins inside another. -/
theorem QuoteAt.behind {s t : List Char} {i : Nat} (h : QuoteAt (s ++ (quoteTag.toList ++ t)) i)
    (hi : s.length ≤ i) : i = s.length ∨ s.length + quoteTag.toList.length ≤ i := by
  obtain ⟨k, rfl⟩ := Nat.exists_eq_add_of_le hi
  obtain ⟨middle, htag, htail⟩ := quoteTag_eq
  refine Decidable.byContradiction fun hinside => ?_
  obtain ⟨k, rfl⟩ : ∃ j, k = j + 1 := Nat.exists_eq_succ_of_ne_zero (by omega)
  have hk : k < (middle ++ ['"']).length := by
    rw [htag, List.length_cons] at hinside
    omega
  rw [quoteAt_append, QuoteAt, htag, List.cons_append, List.drop_succ_cons,
    List.drop_append_of_le_length (Nat.le_of_lt hk), List.drop_eq_getElem_cons hk,
    List.cons_append] at h
  obtain ⟨hlt, -⟩ := List.cons_prefix_cons.mp h
  exact htail (hlt ▸ List.getElem_mem hk)

theorem QuoteAt.length_le {s : List Char} {i : Nat} (h : QuoteAt s i) :
    i + quoteTag.toList.length ≤ s.length := by
  have hlength := List.IsPrefix.length_le h
  have hpos : 0 < quoteTag.toList.length := by decide
  rw [List.length_drop] at hlength
  omega

/-! ### What the loop writes -/

/-- The line break that a text needs at its end. -/
def missingBreak (s : List Char) : List Char :=
  if lineBreakTag.toList.isSuffixOf s then [] else lineBreakTag.toList

theorem withBreakAtEnd_eq (out : List Char) : withBreakAtEnd out = out ++ missingBreak out := by
  unfold withBreakAtEnd missingBreak
  split
  · rw [List.append_nil]
  · rfl

theorem missingBreak_eq_or (s : List Char) :
    missingBreak s = [] ∧ lineBreakTag.toList <:+ s ∨
      missingBreak s = lineBreakTag.toList ∧ ¬ lineBreakTag.toList <:+ s := by
  unfold missingBreak
  rw [← List.isSuffixOf_iff_suffix]
  split
  · rename_i h
    exact .inl ⟨rfl, h⟩
  · rename_i h
    exact .inr ⟨rfl, h⟩

theorem missingBreak_congr {s t : List Char}
    (h : lineBreakTag.toList <:+ s ↔ lineBreakTag.toList <:+ t) : missingBreak s = missingBreak t := by
  rw [← List.isSuffixOf_iff_suffix, ← List.isSuffixOf_iff_suffix, ← Bool.eq_iff_iff] at h
  rw [missingBreak, missingBreak, h]

theorem isSuffix_withBreakAtEnd (out : List Char) : lineBreakTag.toList <:+ withBreakAtEnd out := by
  rw [withBreakAtEnd_eq]
  obtain ⟨hb, hend⟩ | ⟨hb, -⟩ := missingBreak_eq_or out
  · rwa [hb, List.append_nil]
  · rw [hb]
    exact List.suffix_append ..

/-- A line break makes no quote. -/
theorem QuoteAt.of_withBreakAtEnd {out : List Char} {i : Nat} (h : QuoteAt (withBreakAtEnd out) i) :
    QuoteAt out i := by
  rw [withBreakAtEnd_eq] at h
  obtain ⟨hb, -⟩ | ⟨hb, -⟩ := missingBreak_eq_or out
  · rwa [hb, List.append_nil] at h
  · rw [hb] at h
    have hlength := h.length_le
    have hshort : lineBreakTag.toList.length < quoteTag.toList.length := by decide
    rw [List.length_append] at hlength
    exact QuoteAt.of_append_lt h (by omega)

theorem isPrefix_breakBeforeQuotesFrom (out s : List Char) : out <+: breakBeforeQuotesFrom out s := by
  fun_induction breakBeforeQuotesFrom out s with
  | case1 out s before rest hfound ih =>
    refine List.IsPrefix.trans ?_ ih
    rw [withBreakAtEnd_eq, List.append_assoc, List.append_assoc]
    exact List.prefix_append ..
  | case2 out s hnone => exact List.prefix_append ..

/-- Every quote that the loop writes has a line break in front of it. -/
theorem breakAt_breakBeforeQuotesFrom {out s : List Char} {i : Nat} (hi : out.length ≤ i)
    (h : QuoteAt (breakBeforeQuotesFrom out s) i) : BreakAt (breakBeforeQuotesFrom out s) i := by
  fun_induction breakBeforeQuotesFrom out s with
  | case1 out s before rest hfound ih =>
    rcases Nat.lt_or_ge i (withBreakAtEnd (out ++ before) ++ quoteTag.toList).length with hlt | hge
    · obtain ⟨rest', hwritten⟩ := isPrefix_breakBeforeQuotesFrom
        (withBreakAtEnd (out ++ before) ++ quoteTag.toList) rest
      rw [← hwritten, List.append_assoc] at h ⊢
      rw [List.length_append] at hlt
      -- In front of the quote the output is what it was, with no quote in what has been copied.
      have hfront : (withBreakAtEnd (out ++ before)).length ≤ i := by
        refine Nat.le_of_not_lt fun hin => ?_
        have hcopied := QuoteAt.of_withBreakAtEnd (QuoteAt.of_append_lt h hin)
        obtain ⟨k, rfl⟩ := Nat.exists_eq_add_of_le hi
        rw [quoteAt_append] at hcopied
        have hbefore := hcopied.length_le
        refine not_isPrefix_of_splitFirst? hfound (i := k) ?_ ?_
        · have hpos : 0 < quoteTag.toList.length := by decide
          omega
        · rw [splitFirst?_eq hfound, List.append_assoc]
          exact hcopied.append _
      obtain rfl : i = (withBreakAtEnd (out ++ before)).length := by
        rcases h.behind hfront with heq | hbehind
        · exact heq
        · omega
      rw [BreakAt, List.take_left]
      exact isSuffix_withBreakAtEnd _
    · exact ih hge h
  | case2 out s hnone =>
    obtain ⟨k, rfl⟩ := Nat.exists_eq_add_of_le hi
    rw [quoteAt_append] at h
    exact absurd h (not_isPrefix_of_splitFirst?_none hnone k)

/-! ### What is written, told from the comment -/

/-- A quote begins at this place, and no line break ends there. -/
abbrev NeedsBreak (s : List Char) (i : Nat) : Prop := QuoteAt s i ∧ ¬ BreakAt s i

/-- What follows a quote tells whether a text ends in a line break. -/
theorem isSuffix_quoteTag (s t : List Char) :
    lineBreakTag.toList <:+ s ++ quoteTag.toList ++ t ↔ lineBreakTag.toList <:+ t := by
  obtain ⟨middle, htag, -⟩ := quoteTag_eq
  have hs : s ++ quoteTag.toList ++ t = (s ++ '<' :: middle) ++ '"' :: t := by simp [htag]
  rw [hs, isSuffix_append_stop (by decide)]

/-- Of the places of a quote only the first can need a line break. -/
theorem flatMap_written_quoteTag (s t : List Char) :
    (quoteTag.toList.zipIdx s.length).flatMap
        (written (NeedsBreak (s ++ (quoteTag.toList ++ t))) lineBreakTag.toList) =
      missingBreak s ++ quoteTag.toList := by
  obtain ⟨middle, htag, -⟩ := quoteTag_eq
  have hlength : quoteTag.toList.length = (middle ++ ['"']).length + 1 := by rw [htag]; rfl
  have hinside : ∀ i < (middle ++ ['"']).length,
      ¬ NeedsBreak (s ++ (quoteTag.toList ++ t)) (s.length + 1 + i) := fun i hi hneeds => by
    have hbehind := hneeds.1.behind (by omega)
    omega
  have hfirst : NeedsBreak (s ++ (quoteTag.toList ++ t)) s.length ↔ ¬ lineBreakTag.toList <:+ s := by
    have hquote : QuoteAt (s ++ (quoteTag.toList ++ t)) s.length :=
      (quoteAt_append s _ 0).mpr (List.prefix_append ..)
    rw [NeedsBreak, BreakAt, List.take_left, and_iff_right hquote]
  rw [flatMap_written_first _ htag hinside]
  obtain ⟨hb, hend⟩ | ⟨hb, hend⟩ := missingBreak_eq_or s
  · rw [if_neg fun hneeds => hfirst.mp hneeds hend, hb]
  · rw [if_pos (hfirst.mpr hend), hb]

/-- What the loop adds to its output is the rest of the comment, with line breaks where they are
missing. What has been written ends in a line break whenever what has been read does. -/
theorem breakBeforeQuotesFrom_eq {out s : List Char} (before : List Char)
    (halike : ∀ t, lineBreakTag.toList <:+ out ++ t ↔ lineBreakTag.toList <:+ before ++ t) :
    breakBeforeQuotesFrom out s =
      out ++ (s.zipIdx before.length).flatMap (written (NeedsBreak (before ++ s)) lineBreakTag.toList) := by
  fun_induction breakBeforeQuotesFrom out s generalizing before with
  | case1 out s copied rest hfound ih =>
    have hs : s = copied ++ (quoteTag.toList ++ rest) := by rw [splitFirst?_eq hfound, List.append_assoc]
    have hread : before ++ s = before ++ copied ++ (quoteTag.toList ++ rest) := by
      rw [hs, List.append_assoc]
    have hplaces : s.zipIdx before.length = copied.zipIdx before.length ++
        (quoteTag.toList.zipIdx (before ++ copied).length ++
          rest.zipIdx (before ++ copied ++ quoteTag.toList).length) := by
      simp only [hs, List.zipIdx_append, List.length_append]
    have hcopied : (copied.zipIdx before.length).flatMap
        (written (NeedsBreak (before ++ s)) lineBreakTag.toList) = copied :=
      flatMap_written _ fun i hi hneeds =>
        not_isPrefix_of_splitFirst? hfound hi ((quoteAt_append before s i).mp hneeds.1)
    have hquote := flatMap_written_quoteTag (before ++ copied) rest
    have hrest := ih (before ++ copied ++ quoteTag.toList) fun t => by
      rw [isSuffix_quoteTag, isSuffix_quoteTag]
    rw [← hread] at hquote
    rw [List.append_assoc (before ++ copied), ← hread] at hrest
    rw [hrest, hplaces, List.flatMap_append, List.flatMap_append, hcopied, hquote, withBreakAtEnd_eq,
      missingBreak_congr (halike copied)]
    simp only [List.append_assoc]
  | case2 out s hnone =>
    rw [flatMap_written]
    intro i hi hneeds
    exact not_isPrefix_of_splitFirst?_none hnone i ((quoteAt_append before s i).mp hneeds.1)

theorem breakBeforeQuotes_eq (comment : String) :
    (breakBeforeQuotes comment).toList =
      insertAt (NeedsBreak comment.toList) lineBreakTag.toList comment.toList := by
  rw [breakBeforeQuotes, String.toList_ofList, breakBeforeQuotesFrom_eq [] fun t => Iff.rfl]
  rfl

theorem breakAt_breakBeforeQuotes {comment : String} {i : Nat}
    (h : QuoteAt (breakBeforeQuotes comment).toList i) :
    BreakAt (breakBeforeQuotes comment).toList i := by
  rw [breakBeforeQuotes, String.toList_ofList] at h ⊢
  exact breakAt_breakBeforeQuotesFrom (Nat.zero_le i) h

/-- A comment whose quotes have their line breaks stays as it is. -/
theorem breakBeforeQuotes_of_breakAt {comment : String}
    (h : ∀ i, QuoteAt comment.toList i → BreakAt comment.toList i) :
    breakBeforeQuotes comment = comment := by
  rw [← String.toList_inj, breakBeforeQuotes_eq, insertAt, flatMap_written]
  intro i _ hneeds
  exact hneeds.2 (h _ hneeds.1)

/-- **Line breaks before quotes.** The comment gets a line break in front of each quote that follows
none, and no other change; every quote then follows a line break, and nothing is left to be done. -/
theorem breakBeforeQuotes_spec (comment : String) :
    (breakBeforeQuotes comment).toList =
        insertAt (NeedsBreak comment.toList) lineBreakTag.toList comment.toList ∧
      (∀ i, QuoteAt (breakBeforeQuotes comment).toList i →
        BreakAt (breakBeforeQuotes comment).toList i) ∧
      breakBeforeQuotes (breakBeforeQuotes comment) = breakBeforeQuotes comment :=
  ⟨breakBeforeQuotes_eq comment, fun _ => breakAt_breakBeforeQuotes,
    breakBeforeQuotes_of_breakAt fun _ => breakAt_breakBeforeQuotes⟩

end Imageboard.Comment
