import Imageboard.Proofs.Markup.Kinds

/-! Where the names of a page stand.

A tag is written in parts: its name, the keys of its attributes, and all that stands around them.
`names_of_mem_lexemes`: in lower case, the parts that are names are just the name and the keys of the
token that the tag is read as. -/
namespace Imageboard
open Lexeme Markup Text

/-- A part of a page. -/
structure Part where
  spelling : List Char
  /-- Whether the part is the name of a tag or the key of an attribute. -/
  isName : Bool
  deriving DecidableEq

namespace Part

/-- The names among some parts, in lower case. -/
def names (parts : List Part) : List String :=
  (parts.filter isName).map fun part => String.ofList (lowercase part.spelling)

/-- For each character of the parts, whether it stands in a name. -/
def marks (parts : List Part) : List Bool :=
  parts.flatMap fun part => List.replicate part.spelling.length part.isName

theorem length_marks (parts : List Part) :
    (marks parts).length = (parts.flatMap spelling).length := by
  simp [marks, List.length_flatMap]

end Part

namespace Markup

theorem assigned_length_lt {s rest : List Char} {c : Char} (h : s.dropWhile isSpace = c :: rest) :
    (readAssignment (rest.dropWhile isKeyCharacter)).2.length < s.length := by
  have hspaces := (dropWhile_isSuffix isSpace s).length_le
  rw [h, List.length_cons] at hspaces
  have hkey := (dropWhile_isSuffix isKeyCharacter rest).length_le
  have hvalue := (readAssignment_isSuffix (rest.dropWhile isKeyCharacter)).length_le
  omega

/-- The parts of a tag behind its name, as `readAttributes` reads them. -/
def attributeParts (s : List Char) : List Part :=
  ⟨s.takeWhile isSpace, false⟩ ::
    match _h : s.dropWhile isSpace with
    | [] => []
    | '>' :: _ => [⟨['>'], false⟩]
    | '/' :: '>' :: _ => [⟨['/', '>'], false⟩]
    | '/' :: rest => ⟨['/'], false⟩ :: attributeParts rest
    | '=' :: rest => ⟨['='], false⟩ :: attributeParts rest
    | c :: rest =>
      let assigned := rest.dropWhile isKeyCharacter
      let value := readAssignment assigned
      ⟨c :: rest.takeWhile isKeyCharacter, true⟩ :: ⟨before assigned value.2, false⟩ ::
        attributeParts value.2
termination_by s.length
decreasing_by
  all_goals
    first
      | exact assigned_length_lt _h
      | have hspaces := (dropWhile_isSuffix isSpace s).length_le
        rw [_h] at hspaces
        simp only [List.length_cons] at hspaces
        omega

section
variable {s rest : List Char} {c : Char}

theorem attributeParts_cut_off (h : s.dropWhile isSpace = []) :
    attributeParts s = [⟨s.takeWhile isSpace, false⟩] := by
  rw [attributeParts]
  split <;> simp_all

theorem attributeParts_end (h : s.dropWhile isSpace = '>' :: rest) :
    attributeParts s = [⟨s.takeWhile isSpace, false⟩, ⟨['>'], false⟩] := by
  rw [attributeParts]
  split <;> simp_all

theorem attributeParts_self_closing (h : s.dropWhile isSpace = '/' :: '>' :: rest) :
    attributeParts s = [⟨s.takeWhile isSpace, false⟩, ⟨['/', '>'], false⟩] := by
  rw [attributeParts]
  split <;> simp_all

theorem attributeParts_slash (h : s.dropWhile isSpace = '/' :: rest) (hr : rest.head? ≠ some '>') :
    attributeParts s = ⟨s.takeWhile isSpace, false⟩ :: ⟨['/'], false⟩ :: attributeParts rest := by
  rw [attributeParts]
  split <;> grind

theorem attributeParts_stray (h : s.dropWhile isSpace = '=' :: rest) :
    attributeParts s = ⟨s.takeWhile isSpace, false⟩ :: ⟨['='], false⟩ :: attributeParts rest := by
  rw [attributeParts]
  split <;> simp_all

theorem attributeParts_key (h : s.dropWhile isSpace = c :: rest) (hgt : c ≠ '>') (hslash : c ≠ '/')
    (heq : c ≠ '=') :
    attributeParts s =
      ⟨s.takeWhile isSpace, false⟩ :: ⟨c :: rest.takeWhile isKeyCharacter, true⟩ ::
        ⟨before (rest.dropWhile isKeyCharacter)
          (readAssignment (rest.dropWhile isKeyCharacter)).2, false⟩ ::
        attributeParts (readAssignment (rest.dropWhile isKeyCharacter)).2 := by
  rw [attributeParts]
  split <;> grind

end

theorem attributeParts_spelling (o : Options) (earlier : Attributes) (s : List Char) :
    (attributeParts s).flatMap Part.spelling ++ (readAttributes o earlier s).2 = s := by
  have hspaces {s t : List Char} (h : s.dropWhile isSpace = t) : s.takeWhile isSpace ++ t = s :=
    h ▸ List.takeWhile_append_dropWhile
  fun_induction readAttributes o earlier s with
  | case1 earlier s hd =>
    rw [attributeParts_cut_off hd]
    simpa using hspaces hd
  | case2 earlier s rest hd =>
    rw [attributeParts_end hd]
    simpa using hspaces hd
  | case3 earlier s rest hd =>
    rw [attributeParts_self_closing hd]
    simpa using hspaces hd
  | case4 earlier s rest hne hd ih =>
    rw [attributeParts_slash hd (head?_ne_gt hne)]
    simpa [ih] using hspaces hd
  | case5 earlier s rest hd ih =>
    rw [attributeParts_stray hd]
    simpa [ih] using hspaces hd
  | case6 earlier s c rest hgt _ hslash heq hd key value ih =>
    rw [attributeParts_key hd hgt hslash heq]
    have hvalue := before_append (readAssignment_isSuffix (rest.dropWhile isKeyCharacter))
    simp only [List.flatMap_cons, List.append_assoc]
    rw [ih, hvalue, List.cons_append, List.takeWhile_append_dropWhile, hspaces hd]

/-- The parts of a tag do not depend on what stands behind it. -/
theorem attributeParts_of_append {o : Options} {earlier : Attributes} {tail : TagTail}
    {s b b' r : List Char} (hb : Thins b b')
    (h : readAttributes o earlier (s ++ b) = (tail, r ++ b)) :
    attributeParts (s ++ b') = attributeParts (s ++ b) := by
  generalize hp : s ++ b = page at h
  fun_induction readAttributes o earlier page generalizing s with
  | case1 earlier page hd =>
    obtain ⟨rfl, hr⟩ := Prod.mk.inj h
    obtain ⟨rfl, rfl⟩ := List.append_eq_nil_iff.mp hr.symm
    rw [hb.head.eq_nil rfl, hp]
  | case2 earlier page rest hd =>
    obtain ⟨rfl, rfl⟩ := Prod.mk.inj h
    subst hp
    obtain ⟨hdrop, htake⟩ := dropWhile_of_append (r := '>' :: r) hb.head hd
    rw [attributeParts_end hd, attributeParts_end hdrop, htake]
  | case3 earlier page rest hd =>
    obtain ⟨rfl, rfl⟩ := Prod.mk.inj h
    subst hp
    obtain ⟨hdrop, htake⟩ := dropWhile_of_append (r := '/' :: '>' :: r) hb.head hd
    rw [attributeParts_self_closing hd, attributeParts_self_closing hdrop, htake]
  | case4 earlier page rest hne hd ih =>
    subst hp
    obtain ⟨m, rfl⟩ := ends_of_isSuffix (isSuffix_of_readAttributes h)
    have hm : (m ++ b').head? ≠ some '>' := by
      intro hm
      obtain ⟨q, hq⟩ := List.head?_eq_some_iff.mp hm
      obtain ⟨q', hq'⟩ := hb.head.cons_of_append hq
      exact hne q' hq'
    obtain ⟨hdrop, htake⟩ :
        (s ++ b').dropWhile isSpace = '/' :: (m ++ b') ∧ _ = (s ++ b').takeWhile isSpace :=
      dropWhile_of_append (r := '/' :: m) hb.head hd
    rw [attributeParts_slash hd (head?_ne_gt hne), attributeParts_slash hdrop hm, htake, ih rfl h]
  | case5 earlier page rest hd ih =>
    subst hp
    obtain ⟨m, rfl⟩ := ends_of_isSuffix (isSuffix_of_readAttributes h)
    obtain ⟨hdrop, htake⟩ :
        (s ++ b').dropWhile isSpace = '=' :: (m ++ b') ∧ _ = (s ++ b').takeWhile isSpace :=
      dropWhile_of_append (r := '=' :: m) hb.head hd
    rw [attributeParts_stray hd, attributeParts_stray hdrop, htake, ih rfl h]
  | case6 earlier page c rest hgt _ hslash heq hd key value =>
    rename_i ih
    subst hp
    have hr : r ++ b <:+ value.2 := isSuffix_of_readAttributes h
    have hvalue : value.2 <:+ rest.dropWhile isKeyCharacter := readAssignment_isSuffix _
    obtain ⟨n, hn⟩ := ends_of_isSuffix hr
    obtain ⟨k, hk⟩ := ends_of_isSuffix (hr.trans hvalue)
    obtain ⟨m, rfl⟩ := ends_of_isSuffix (hr.trans (hvalue.trans (dropWhile_isSuffix _ rest)))
    obtain ⟨hkey, hkey'⟩ := dropWhile_of_append hb.head hk
    obtain ⟨hdrop, htake⟩ :
        (s ++ b').dropWhile isSpace = c :: (m ++ b') ∧ _ = (s ++ b').takeWhile isSpace :=
      dropWhile_of_append (r := c :: m) hb.head hd
    have hread : readAssignment (k ++ b') = (value.1, n ++ b') := by
      refine readAssignment_of_append hb.head (.inl hb.quotes) ?_
      rw [← hk, ← hn]
    have hn' : (readAssignment (k ++ b)).2 = n ++ b := hk ▸ hn
    rw [attributeParts_key hd hgt hslash heq, attributeParts_key hdrop hgt hslash heq, hkey, hread,
      hk, hn', hkey', htake, before_resumed k n b b', ih hn.symm h, hn]

/-- The keys that a tag adds to the attributes before it are the names among its parts. -/
theorem contains_readAttributes_iff {o : Options} {earlier : Attributes} {key : String}
    (s : List Char) : (readAttributes o earlier s).1.attributes.contains key = true ↔
      earlier.contains key = true ∨ key ∈ Part.names (attributeParts s) := by
  fun_induction readAttributes o earlier s with
  | case1 earlier s hd => simp [attributeParts_cut_off hd, Part.names]
  | case2 earlier s rest hd => simp [attributeParts_end hd, Part.names]
  | case3 earlier s rest hd => simp [attributeParts_self_closing hd, Part.names]
  | case4 earlier s rest hne hd ih =>
    rw [ih, attributeParts_slash hd (head?_ne_gt hne)]
    rfl
  | case5 earlier s rest hd ih =>
    rw [ih, attributeParts_stray hd]
    rfl
  | case6 earlier s c rest hgt _ hslash heq hd read value ih =>
    rw [ih, Attributes.contains_insert_iff, attributeParts_key hd hgt hslash heq]
    have hnames : Part.names
        (⟨s.takeWhile isSpace, false⟩ :: ⟨c :: rest.takeWhile isKeyCharacter, true⟩ ::
          ⟨before (rest.dropWhile isKeyCharacter) value.2, false⟩ :: attributeParts value.2) =
        read :: Part.names (attributeParts value.2) := rfl
    rw [hnames, List.mem_cons, or_assoc]

end Markup

namespace Lexeme

/-- The parts of a lexeme. A text has but one. -/
def parts (l : Lexeme) : List Part :=
  match l.token with
  | some (.openTag ..) =>
    let tag := l.spelling.drop 1
    ⟨l.spelling.take 1, false⟩ :: ⟨tag.takeWhile isNameCharacter, true⟩ ::
      attributeParts (tag.dropWhile isNameCharacter)
  | some (.closeTag _) =>
    let tag := l.spelling.drop 2
    [⟨l.spelling.take 2, false⟩, ⟨tag.takeWhile isNameCharacter, true⟩,
      ⟨tag.dropWhile isNameCharacter, false⟩]
  | _ => [⟨l.spelling, false⟩]

section
variable {o : Options} {d : Char} {letters written rest : List Char}
  (hname : ∀ c ∈ d :: letters, isNameCharacter c = true)
  (hstop : ∀ c ∈ (written ++ rest).head?, isNameCharacter c = false)
include hname hstop

theorem name_alone : (d :: letters ++ written).takeWhile isNameCharacter = d :: letters ∧
    (d :: letters ++ written).dropWhile isNameCharacter = written := by
  refine takeWhile_head hname fun c hc => hstop c ?_
  obtain ⟨s, rfl⟩ := List.head?_eq_some_iff.mp hc
  exact hc

theorem parts_tag {tail : TagTail} (hread : readAttributes o .empty (written ++ rest) = (tail, rest))
    {name : String} {attributes : Attributes} {selfClosing : Bool} :
    parts ⟨'<' :: (d :: letters ++ written), some (.openTag name attributes selfClosing)⟩ =
      ⟨['<'], false⟩ :: ⟨d :: letters, true⟩ :: attributeParts (written ++ rest) := by
  obtain ⟨htake, hdrop⟩ := name_alone hname hstop
  have halone := attributeParts_of_append (r := []) (Thins.nil rest) hread
  rw [List.append_nil] at halone
  show _ :: ⟨(d :: letters ++ written).takeWhile isNameCharacter, true⟩ ::
    attributeParts ((d :: letters ++ written).dropWhile isNameCharacter) = _
  rw [htake, hdrop, halone]
  rfl

theorem parts_endTag {name : String} :
    parts ⟨'<' :: '/' :: (d :: letters ++ written), some (.closeTag name)⟩ =
      [⟨['<', '/'], false⟩, ⟨d :: letters, true⟩, ⟨written, false⟩] := by
  obtain ⟨htake, hdrop⟩ := name_alone hname hstop
  show [_, (⟨(d :: letters ++ written).takeWhile isNameCharacter, true⟩ : Part),
    ⟨(d :: letters ++ written).dropWhile isNameCharacter, false⟩] = _
  rw [htake, hdrop]
  rfl

end

theorem InFrontOf.parts_spelling {o : Options} {l : Lexeme} {rest : List Char}
    (h : l.InFrontOf o rest) : l.parts.flatMap Part.spelling = l.spelling := by
  cases h with
  | @tag d letters written _ tail hd hname hstop hread =>
    have hspelling := attributeParts_spelling o .empty (written ++ rest)
    rw [hread] at hspelling
    rw [parts_tag hname hstop hread]
    simp [List.append_cancel_right hspelling]
  | endTag hd hname hstop hread =>
    rw [parts_endTag hname hstop]
    simp
  | emptyTag => rfl
  | declaration => exact List.append_nil _
  | text => exact List.append_nil _

end Lexeme

/-- The token has just these names, which are written in lower case. -/
def Token.NamedBy (names : List String) : Token → Prop
  | openTag name attributes _ =>
    ∃ keys, names = name :: keys ∧ ∀ key, attributes.contains key = true ↔ key ∈ keys
  | closeTag name => names = [name]
  | text _ => names = []

theorem Lexeme.InFrontOf.names {o : Options} {l : Lexeme} {rest : List Char} {token : Token}
    (h : l.InFrontOf o rest) (htoken : l.token = some token) :
    token.NamedBy (Part.names l.parts) := by
  cases h with
  | @tag d letters written _ tail hd hname hstop hread =>
    cases htoken
    rw [parts_tag hname hstop hread]
    refine ⟨Part.names (attributeParts (written ++ rest)), rfl, fun key => ?_⟩
    have hkeys : (readAttributes o .empty (written ++ rest)).1.attributes.contains key = true ↔ _ :=
      contains_readAttributes_iff (written ++ rest)
    rw [hread] at hkeys
    simpa [Attributes.contains, Attributes.empty] using hkeys
  | endTag hd hname hstop hread =>
    cases htoken
    rw [parts_endTag hname hstop]
    rfl
  | emptyTag => cases htoken
  | declaration => cases htoken; rfl
  | text => cases htoken; rfl

/-- The parts of a lexeme that are names are those of its token. -/
theorem names_of_mem_lexemes {o : Options} {page : List Char} {l : Lexeme} (hl : l ∈ lexemes o page)
    {token : Token} (htoken : l.token = some token) : token.NamedBy (Part.names l.parts) := by
  obtain ⟨rest, h⟩ | ⟨s, rfl⟩ := kind_of_mem_lexemes hl
  · exact h.names htoken
  · cases htoken
    rfl

/-- The parts of a page, one after the other, are the page. -/
theorem parts_spelling (o : Options) (page : List Char) :
    ((lexemes o page).flatMap Lexeme.parts).flatMap Part.spelling = page := by
  have hparts : (lexemes o page).map (fun l => l.parts.flatMap Part.spelling) =
      (lexemes o page).map spelling := by
    refine List.map_congr_left fun l hl => ?_
    obtain ⟨rest, h⟩ | ⟨s, rfl⟩ := kind_of_mem_lexemes hl
    · exact h.parts_spelling
    · exact List.append_nil s
  rw [List.flatMap_assoc, List.flatMap_def, hparts, ← List.flatMap_def, lexemes_spelling]

/-- For each character of a page, whether it stands in the name of a tag or in the key of an
attribute. -/
def nameMarks (o : Options) (page : List Char) : List Bool :=
  Part.marks ((lexemes o page).flatMap Lexeme.parts)

theorem length_nameMarks (o : Options) (page : List Char) :
    (nameMarks o page).length = page.length := by
  rw [nameMarks, Part.length_marks, parts_spelling]

end Imageboard
