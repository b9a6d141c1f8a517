import Imageboard.Proofs.Markup.Coverage

/-! What tokens take from the page.

The name of a tag, and every key and value in it, is cut out of the bytes that the tag spans:
`slices_of_mem_tokens`. Each reader hands on an ending of what it is given; `Slices` says of one
that what it takes is within the part before that ending. -/
namespace Imageboard
open Lexeme Markup Text

namespace Markup

/-- A reader of `s` goes past some text to `rest`, and `piece` is within that text. -/
def Slices (s rest piece : List Char) : Prop := ∃ past, s = past ++ rest ∧ piece <:+: past

theorem Slices.of_past {s s' rest piece : List Char} (lead : List Char) (hs : s = lead ++ s')
    (h : Slices s' rest piece) : Slices s rest piece := by
  obtain ⟨past, rfl, hpiece⟩ := h
  exact ⟨lead ++ past, by rw [hs, List.append_assoc], hpiece.trans (List.suffix_append _ _).isInfix⟩

theorem Slices.of_rest {s rest rest' piece : List Char} (h : Slices s rest piece)
    (hrest : rest' <:+ rest) : Slices s rest' piece := by
  obtain ⟨past, rfl, hpiece⟩ := h
  obtain ⟨more, rfl⟩ := hrest
  exact ⟨past ++ more, (List.append_assoc ..).symm, hpiece.trans (List.prefix_append _ _).isInfix⟩

theorem slices_cut (p : Char → Bool) (s : List Char) : Slices s (cut p s).2 (cut p s).1 :=
  ⟨_, List.takeWhile_append_dropWhile.symm, List.infix_refl _⟩

theorem readValue_slices (s : List Char) : Slices s (readValue s).2 (readValue s).1 := by
  cases s with
  | nil => exact ⟨[], rfl, List.infix_refl _⟩
  | cons c s =>
    rw [readValue]
    split
    · split
      · rename_i d rest hrest
        exact (hrest ▸ slices_cut (· != c) s : Slices s (d :: rest) _).of_rest
          (List.suffix_cons d rest) |>.of_past [c] rfl
      · exact (slices_cut (· != '>') s).of_past [c] rfl
    · exact slices_cut _ _

theorem readAssignment_slices (s : List Char) :
    Slices s (readAssignment s).2 (readAssignment s).1 := by
  have hs : s.takeWhile isSpace ++ s.dropWhile isSpace = s := List.takeWhile_append_dropWhile
  unfold readAssignment
  split
  · rename_i rest h
    have hvalue := (readValue_slices (rest.dropWhile isSpace)).of_past (rest.takeWhile isSpace)
      List.takeWhile_append_dropWhile.symm
    rw [h] at hs
    exact (hvalue.of_past ['='] rfl).of_past _ hs.symm
  · exact ⟨s.takeWhile isSpace, hs.symm, List.nil_infix⟩

/-- An attribute whose key and value are pieces of a kind. -/
def EntryOf (o : Options) (P : List Char → Prop) (entry : String × String) : Prop :=
  ∃ key value, P key ∧ P value ∧
    entry = (String.ofList (lowercase key), attributeValue o value)

theorem EntryOf.imp {o : Options} {P Q : List Char → Prop} {entry : String × String}
    (h : EntryOf o P entry) (hpq : ∀ piece, P piece → Q piece) : EntryOf o Q entry := by
  obtain ⟨key, value, hkey, hvalue, heq⟩ := h
  exact ⟨key, value, hpq key hkey, hpq value hvalue, heq⟩

/-- The attributes of a tag are those before and those that are written in it. -/
theorem readAttributes_sliced (o : Options) (earlier : Attributes) (s : List Char) :
    ∀ entry ∈ (readAttributes o earlier s).1.attributes.entries,
      entry ∈ earlier.entries ∨
        EntryOf o (Slices s (readAttributes o earlier s).2) entry := by
  have hspaces (s : List Char) : s = s.takeWhile isSpace ++ s.dropWhile isSpace :=
    List.takeWhile_append_dropWhile.symm
  fun_induction readAttributes o earlier s with
  | case1 => exact fun _ h => .inl h
  | case2 => exact fun _ h => .inl h
  | case3 => exact fun _ h => .inl h
  | case4 earlier s rest hr hs ih =>
    have hlead : s = (s.takeWhile isSpace ++ ['/']) ++ rest := by
      rw [List.append_assoc, List.singleton_append, ← hs, ← hspaces]
    exact fun entry h => (ih entry h).imp id (·.imp fun _ => Slices.of_past _ hlead)
  | case5 earlier s rest hs ih =>
    have hlead : s = (s.takeWhile isSpace ++ ['=']) ++ rest := by
      rw [List.append_assoc, List.singleton_append, ← hs, ← hspaces]
    exact fun entry h => (ih entry h).imp id (·.imp fun _ => Slices.of_past _ hlead)
  | case6 earlier s c rest _ _ _ _ hs key value ih =>
    intro entry h
    have hlead : s = s.takeWhile isSpace ++ c :: rest := by rw [← hs, ← hspaces]
    have hrest := (readAttributes_isSuffix o (earlier.insert key (attributeValue o value.1)) value.2)
    have hkeys : Slices (c :: rest) (rest.dropWhile isKeyCharacter)
        (c :: rest.takeWhile isKeyCharacter) :=
      ⟨_, by rw [List.cons_append, List.takeWhile_append_dropWhile], List.infix_refl _⟩
    have hvalues := readAssignment_slices (rest.dropWhile isKeyCharacter)
    have hafter : value.2 <:+ rest.dropWhile isKeyCharacter := readAssignment_isSuffix _
    have hbefore : c :: rest = (c :: rest.takeWhile isKeyCharacter) ++
        rest.dropWhile isKeyCharacter := by
      rw [List.cons_append, List.takeWhile_append_dropWhile]
    -- An attribute is known already, or its key and its value have just been read, or it is read later.
    rcases ih entry h with hknown | hlater
    · rw [Attributes.entries_insert] at hknown
      split at hknown
      · exact .inl hknown
      · rcases List.mem_append.mp hknown with hknown | hnew
        · exact .inl hknown
        · right
          exact ⟨c :: rest.takeWhile isKeyCharacter, value.1,
            ((hkeys.of_rest hafter).of_rest hrest).of_past _ hlead,
            ((hvalues.of_past _ hbefore).of_rest hrest).of_past _ hlead,
            List.mem_singleton.mp hnew⟩
    · right
      obtain ⟨between, hbetween⟩ := hafter
      refine hlater.imp fun piece hpiece => (hpiece.of_past
        (c :: rest.takeWhile isKeyCharacter ++ between) ?_).of_past _ hlead
      rw [List.append_assoc, hbetween, ← hbefore]

end Markup

/-- The name of a token, the keys and values of its attributes, or its text are pieces of a kind. -/
def Token.MadeOf (o : Options) (P : List Char → Prop) : Token → Prop
  | .openTag name attributes _ =>
    (∃ written, P written ∧ name = String.ofList (lowercase written)) ∧
      ∀ entry ∈ attributes.entries, EntryOf o P entry
  | .closeTag name => ∃ written, P written ∧ name = String.ofList (lowercase written)
  | .text content => P content.toList

theorem Token.MadeOf.imp {o : Options} {P Q : List Char → Prop} {token : Token}
    (h : token.MadeOf o P) (hpq : ∀ piece, P piece → Q piece) : token.MadeOf o Q := by
  cases token with
  | openTag name attributes selfClosing =>
    obtain ⟨⟨written, hwritten, hname⟩, hentries⟩ := h
    exact ⟨⟨written, hpq written hwritten, hname⟩, fun entry he => (hentries entry he).imp hpq⟩
  | closeTag name =>
    obtain ⟨written, hwritten, hname⟩ := h
    exact ⟨written, hpq written hwritten, hname⟩
  | text content => exact hpq content.toList h

namespace Lexeme

theorem infix_before {s rest piece : List Char} (h : Slices s rest piece) :
    piece <:+: before s rest := by
  obtain ⟨past, rfl, hpiece⟩ := h
  rwa [before, List.length_append, Nat.add_sub_cancel, List.take_left]

/-- The token of a lexeme is made of pieces of its spelling. -/
def Sliced (o : Options) (l : Lexeme) : Prop :=
  ∀ token, l.token = some token → token.MadeOf o (· <:+: l.spelling)

theorem textBefore_sliced (o : Options) (s rest : List Char) : (textBefore s rest).Sliced o := by
  intro token htoken
  obtain rfl := Option.some.inj htoken
  have hcontent : (String.ofList (before s rest)).toList = before s rest := String.toList_ofList
  have hinfix : before s rest <:+: before s rest := List.infix_refl _
  exact (congrArg (· <:+: before s rest) hcontent).mpr hinfix

theorem readOpenTag_sliced (o : Options) (c : Char) (s : List Char) :
    (⟨before (c :: s) (readOpenTag o s).2, some (readOpenTag o s).1⟩ : Lexeme).Sliced o := by
  intro token htoken
  obtain rfl := Option.some.inj htoken
  have hname := (slices_cut isNameCharacter s).of_rest (readAttributes_isSuffix o .empty _)
  refine ⟨⟨_, infix_before (hname.of_past [c] rfl), rfl⟩, fun entry h => ?_⟩
  rcases readAttributes_sliced o .empty (s.dropWhile isNameCharacter) entry h with hnone | hwritten
  · cases hnone
  · have hs : s = s.takeWhile isNameCharacter ++ s.dropWhile isNameCharacter :=
      List.takeWhile_append_dropWhile.symm
    exact hwritten.imp fun piece hpiece => infix_before ((hpiece.of_past _ hs).of_past [c] rfl)

theorem readCloseTag_sliced (o : Options) (c d : Char) (s : List Char) :
    (⟨before (c :: d :: s) (readCloseTag s).2, (readCloseTag s).1⟩ : Lexeme).Sliced o := by
  intro token htoken
  have hname := (slices_cut isNameCharacter s).of_rest (after_isSuffix '>' _)
  unfold readCloseTag at htoken
  dsimp only at htoken
  split at htoken
  · cases htoken
  · obtain rfl := Option.some.inj htoken
    exact ⟨_, infix_before (hname.of_past [c, d] rfl), rfl⟩

theorem first_sliced (o : Options) (c : Char) (s : List Char) : (first o c s).1.Sliced o := by
  unfold first
  split
  · split
    · exact readCloseTag_sliced o c '/' _
    · exact textBefore_sliced o _ _
    · exact textBefore_sliced o _ _
    · exact readOpenTag_sliced o c _
  · exact textBefore_sliced o _ _

end Lexeme

theorem lexemes_sliced (o : Options) (s : List Char) : ∀ l ∈ lexemes o s, l.Sliced o :=
  forall_mem_lexemes (first_sliced o) (fun s rest _ => textBefore_sliced o s rest) s

/-- The page has the bytes of `piece` between two of its character boundaries, within the span. -/
def Located.CutsOut (page : String) (t : Located) (piece : List Char) : Prop :=
  ∃ start stop, t.start ≤ start ∧ start ≤ stop ∧ stop ≤ t.stop ∧
    (⟨start⟩ : String.Pos.Raw).IsValid page ∧ (⟨stop⟩ : String.Pos.Raw).IsValid page ∧
      page.toByteArray.extract start stop = piece.utf8Encode

/-- **What a token is made of is cut out of its span.** The span is not empty and inside the page,
and every offset is a character boundary. -/
theorem slices_of_mem_tokens {o : Options} {page : String} {t : Located}
    (ht : t ∈ tokens o page.toList) :
    t.start < t.stop ∧ t.stop ≤ page.utf8ByteSize ∧ t.token.MadeOf o (t.CutsOut page) := by
  obtain ⟨-, l, hl, htoken, hspells⟩ := spells_of_mem_located []
    (lexemes_spelling o page.toList).symm ht
  have hpos := byteLength_pos (lexemes_sound o page.toList l hl).nonempty
  have hlength := hspells.length_eq
  have hle := hspells.stop_le
  rw [byteLength_toList] at hle
  refine ⟨by omega, hle, (lexemes_sliced o page.toList l hl t.token htoken).imp fun piece h => ?_⟩
  obtain ⟨lead, rest, hpage, hstart, hstop⟩ := hspells
  obtain ⟨before, behind, hpiece⟩ := h
  have hplace : Spells page.toList (byteLength (lead ++ before))
      (byteLength (lead ++ before) + byteLength piece) piece :=
    ⟨lead ++ before, behind ++ rest, by rw [hpage, ← hpiece]; simp, rfl, rfl⟩
  have hspelling := congrArg byteLength hpiece
  simp only [byteLength_append] at hspelling
  refine ⟨_, _, ?_, Nat.le_add_right _ _, ?_, hplace.isValid_start, hplace.isValid_stop,
    hplace.extract_eq⟩
  all_goals
    rw [byteLength_append]
    omega

end Imageboard
