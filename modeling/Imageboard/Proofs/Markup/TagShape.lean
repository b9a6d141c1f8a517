import Imageboard.Proofs.Markup.Kinds
import Imageboard.Proofs.Markup.LetterCase
import Imageboard.Proofs.Markup.Slices
import Imageboard.Proofs.Markup.TagGrammar

/-! What the tags of a page are read as.

However a tag is written, it is read as a plain name with plain keys, all of them in lower case, and
every key has the value that stands behind it where it is written first: `shape_of_mem_tokens`. What a tag
carries is told by its grammar, and its attributes are that, each key once. -/
namespace Imageboard
open Lexeme Markup Text

/-! ### Names and keys in lower case -/

namespace Text

theorem isUpper_toLower (c : Char) : c.toLower.isUpper = false := by
  cases hc : c.isUpper with
  | true => exact not_isUpper_of_isLower (isLower_toLower hc)
  | false => rw [toLower_of_not_isUpper hc, hc]

theorem isLower_toLower_of_isAlpha {c : Char} (hc : c.isAlpha = true) :
    c.toLower.isLower = true := by
  rw [← isAlpha_toLower, isAlpha_eq, isUpper_toLower, Bool.false_or] at hc
  exact hc

end Text

namespace Markup

theorem plainName_lowercase {d : Char} {letters : List Char} (hd : d.isAlpha = true)
    (hname : ∀ c ∈ d :: letters, isNameCharacter c = true) :
    PlainName (String.ofList (lowercase (d :: letters))) where
  initial := ⟨d.toLower, by rw [String.toList_ofList]; rfl, isLower_toLower_of_isAlpha hd⟩
  characters := by
    rw [String.toList_ofList]
    intro c hc
    obtain ⟨c, hwritten, rfl⟩ := List.mem_map.mp hc
    have hlower := caseBlind_isNameCharacter c
    rw [hname c hwritten, isNameCharacter, Char.isAlphanum, isAlpha_eq, isUpper_toLower,
      Bool.false_or] at hlower
    exact hlower

theorem plainKey_lowercase {key : List Char} (h : IsKey key) :
    PlainKey (String.ofList (lowercase key)) where
  nonempty := by
    intro hempty
    have hlist := congrArg String.toList hempty
    rw [String.toList_ofList] at hlist
    exact h.1 (List.map_eq_nil_iff.mp hlist)
  characters := by
    rw [String.toList_ofList]
    intro c hc
    obtain ⟨c, hwritten, rfl⟩ := List.mem_map.mp hc
    exact ⟨(caseBlind_isKeyCharacter c).trans (h.2 c hwritten), isUpper_toLower c⟩

theorem Carries.isKey {s rest : List Char} {written : List (List Char × List Char)}
    {selfClosing : Bool} (h : Carries s rest written selfClosing) :
    ∀ entry ∈ written, IsKey entry.1 := by
  induction h with
  | cutOff => exact nofun
  | close => exact nofun
  | selfClose => exact nofun
  | stray _ _ ih => exact ih
  | key hkey _ _ _ ih => exact List.forall_mem_cons.mpr ⟨hkey, ih⟩

/-! ### Where keys and values stand -/

/-- The keys stand in the text, each with its value behind it, one after the other. -/
inductive Placed : (written : List (List Char × List Char)) → (text : List Char) → Prop
  | nil (text : List Char) : Placed [] text
  | cons {written : List (List Char × List Char)} {text : List Char} (gap key between value : List Char)
      (h : Placed written text) :
      Placed ((key, value) :: written) (gap ++ key ++ between ++ value ++ text)

theorem Placed.behind {written : List (List Char × List Char)} {text : List Char}
    (h : Placed written text) (lead : List Char) : Placed written (lead ++ text) := by
  cases h with
  | nil => exact .nil _
  | cons gap key between value h =>
    have hplaced := h.cons (lead ++ gap) key between value
    simpa only [List.append_assoc] using hplaced

theorem Assigns.slices {s value rest : List Char} (h : Assigns s value rest) :
    Slices s rest value := by
  have hslices := readAssignment_slices s
  rwa [h.read] at hslices

/-- What a tag carries stands in it. -/
theorem Carries.placed {s rest : List Char} {written : List (List Char × List Char)}
    {selfClosing : Bool} (h : Carries s rest written selfClosing) :
    ∃ text, s = text ++ rest ∧ Placed written text := by
  induction h with
  | cutOff => exact ⟨[], rfl, .nil []⟩
  | close rest => exact ⟨['>'], rfl, .nil _⟩
  | selfClose rest => exact ⟨['/', '>'], rfl, .nil _⟩
  | @stray c _ _ _ _ _ _ ih =>
    obtain ⟨text, rfl, hplaced⟩ := ih
    exact ⟨c :: text, rfl, hplaced.behind [c]⟩
  | @key key behind value _ _ _ _ _ _ hvalue _ ih =>
    obtain ⟨text, rfl, hplaced⟩ := ih
    obtain ⟨past, rfl, before, after, rfl⟩ := hvalue.slices
    have hbehind := (hplaced.behind after).cons [] key before value
    refine ⟨key ++ (before ++ value ++ after) ++ text, by simp, ?_⟩
    simpa only [List.nil_append, List.append_assoc] using hbehind

/-! ### The shape of a token -/

/-- The name of a tag is what is written up to a character that no name has, in lower case. -/
structure NameOf (name : String) (letters behind : List Char) : Prop where
  plain : PlainName name
  lower : name = String.ofList (lowercase letters)
  whole : Stretch isNameCharacter letters behind

/-- What stands inside a tag, behind its name and in front of the rest of the page, is read as these
attributes, where it carries the keys and values `written`. -/
structure AttributesOf (o : Options) (attributes : Attributes) (selfClosing : Bool)
    (inside rest : List Char) (written : List (List Char × List Char)) : Prop where
  carries : Carries (inside ++ rest) rest written selfClosing
  unique : ∀ rest' written' selfClosing', Carries (inside ++ rest) rest' written' selfClosing' →
    rest' = rest ∧ written' = written ∧ selfClosing' = selfClosing
  placed : Placed written inside
  plain : ∀ entry ∈ attributes.entries, PlainKey entry.1
  distinct : (attributes.entries.map (·.1)).Nodup
  /-- The attributes stand in the order in which their keys are first written. -/
  ordered : attributes.entries = (written.map (entryOf o)).eraseDupsBy (·.1 == ·.1)
  /-- A key that is written more than once keeps the value that is written first. -/
  first : ∀ key, attributes.get? key = ((written.map (entryOf o)).find? (·.1 == key)).map (·.2)

theorem Carries.attributesOf {o : Options} {inside rest : List Char}
    {written : List (List Char × List Char)} {selfClosing : Bool}
    (h : Carries (inside ++ rest) rest written selfClosing) :
    AttributesOf o (.ofList (written.map (entryOf o))) selfClosing inside rest written where
  carries := h
  unique _ _ _ := h.unique
  placed := by
    obtain ⟨text, htext, hplaced⟩ := h.placed
    exact List.append_cancel_right htext ▸ hplaced
  plain entry hentry := by
    obtain ⟨key, hkey, rfl⟩ := List.mem_map.mp (Attributes.mem_of_mem_ofList hentry)
    exact plainKey_lowercase (h.isKey key hkey)
  distinct := Attributes.nodup _
  ordered := Attributes.entries_ofList
  first := Attributes.get?_ofList

end Markup

/-- What the token is that is spelled so in front of the rest of the page. -/
def Token.Shaped (o : Options) (spelling rest : List Char) : Token → Prop
  | openTag name attributes selfClosing => ∃ letters inside written,
    spelling = '<' :: (letters ++ inside) ∧ NameOf name letters (inside ++ rest) ∧
      AttributesOf o attributes selfClosing inside rest written
  | closeTag name => ∃ letters inside,
    spelling = '<' :: '/' :: (letters ++ inside) ∧ NameOf name letters (inside ++ rest)
  | text content => content = String.ofList spelling

theorem Lexeme.InFrontOf.shaped {o : Options} {l : Lexeme} {rest : List Char} {token : Token}
    (h : l.InFrontOf o rest) (htoken : l.token = some token) :
    token.Shaped o l.spelling rest := by
  cases h with
  | @tag d letters inside _ tail hd hname hstop hread =>
    obtain rfl := Option.some.inj htoken
    obtain ⟨rest', written, selfClosing, hcarries⟩ := exists_carries (inside ++ rest)
    obtain ⟨rfl, rfl⟩ := Prod.mk.inj (hread.symm.trans (hcarries.read o .empty))
    exact ⟨d :: letters, inside, written, rfl, ⟨plainName_lowercase hd hname, rfl, hname, hstop⟩,
      hcarries.attributesOf⟩
  | @endTag d letters inside _ hd hname hstop =>
    obtain rfl := Option.some.inj htoken
    exact ⟨d :: letters, inside, rfl, plainName_lowercase hd hname, rfl, hname, hstop⟩
  | emptyTag => cases htoken
  | declaration =>
    obtain rfl := Option.some.inj htoken
    exact rfl
  | text =>
    obtain rfl := Option.some.inj htoken
    exact rfl

/-- A lexeme of a page that is no text is what the page goes on with there. -/
theorem inFrontOf_of_lexemes {o : Options} {s : List Char} {left right : List Lexeme} {l : Lexeme}
    (h : lexemes o s = left ++ l :: right) (hmarkup : ∀ content, l.token ≠ some (.text content)) :
    l.InFrontOf o (right.flatMap spelling) := by
  obtain ⟨c, t, rfl, hright⟩ := lexemes_behind h hmarkup
  rw [hright, List.flatMap_append, lexemes_spelling, bodyBefore_spelling (afterBody_isSuffix _ _ _)]
  exact inFrontOf_first o c t

/-- A token stands where the lexeme does that it is read from. -/
theorem exists_lexeme_of_mem_located {start : Nat} {ls : List Lexeme} {t : Located}
    (ht : t ∈ located start ls) :
    ∃ left l right, ls = left ++ l :: right ∧ l.token = some t.token ∧
      t.start = start + byteLength (left.flatMap spelling) ∧
      t.stop = t.start + byteLength l.spelling := by
  obtain ⟨earlier, later, hsplit⟩ := List.append_of_mem ht
  obtain ⟨before, right, rfl, hbefore, -, l, hlast, htoken⟩ := located_eq_append_cons hsplit
  obtain ⟨left, rfl⟩ := List.getLast?_eq_some_iff.mp hlast
  rw [located_append, located_cons, htoken] at hbefore
  have hplace := List.singleton_inj.mp (List.append_inj_right' hbefore rfl)
  refine ⟨left, l, right, List.append_assoc .., htoken, ?_, ?_⟩
  · rw [← hplace]
  · rw [← hplace]

/-- **The shape of the tokens of a page**, however it is written. A tag is spelled `<` or `</`, then its
name, and it is known by the name in lower case, which is a letter and then the characters of names. What
an open tag carries is written in it in one way only: its keys one after the other, each with its value
behind it. They are read in lower case, and a value with its references replaced; the attributes have
distinct keys, in the order in which these are first written, each with the value that is written
first. A text is what the page is between its offsets. -/
theorem shape_of_mem_tokens {o : Options} {page : String} {t : Located}
    (ht : t ∈ tokens o page.toList) :
    ∃ lead spelling rest, page.toList = lead ++ spelling ++ rest ∧ t.start = byteLength lead ∧
      t.stop = byteLength (lead ++ spelling) ∧ t.token.Shaped o spelling rest := by
  obtain ⟨left, l, right, hsplit, htoken, hstart, hstop⟩ := exists_lexeme_of_mem_located ht
  have hpage := lexemes_spelling o page.toList
  rw [hsplit, List.flatMap_append, List.flatMap_cons, ← List.append_assoc] at hpage
  rw [Nat.zero_add] at hstart
  refine ⟨left.flatMap spelling, l.spelling, right.flatMap spelling, hpage.symm, hstart, ?_, ?_⟩
  · rw [byteLength_append, hstop, hstart]
  · cases htext : t.token with
    | text content =>
      have hsound := lexemes_sound o page.toList l (hsplit ▸ List.mem_append_cons_self)
      exact hsound.text content (htext ▸ htoken)
    | openTag name attributes selfClosing =>
      have hfront := inFrontOf_of_lexemes hsplit (by rw [htoken, htext]; nofun)
      exact hfront.shaped (htext ▸ htoken)
    | closeTag name =>
      have hfront := inFrontOf_of_lexemes hsplit (by rw [htoken, htext]; nofun)
      exact hfront.shaped (htext ▸ htoken)

/-- A tag with a stray `=` and `/`, a value with `>` in it, a key that comes twice, and a quote that is
never closed. -/
theorem crooked_tag :
    (⟨.openTag "img" (.ofList [("alt", "a>b"), ("src", "x")]) false, 1, 34⟩ : Located) ∈
        tokens {} "p<IMG =ALT = \"a>b\" / alt=c Src=\"x>q".toList ∧
      ∃ lead spelling rest, "p<IMG =ALT = \"a>b\" / alt=c Src=\"x>q".toList =
          lead ++ spelling ++ rest ∧ 1 = byteLength lead ∧ 34 = byteLength (lead ++ spelling) ∧
        (Token.openTag "img" (.ofList [("alt", "a>b"), ("src", "x")]) false).Shaped {} spelling
          rest := by
  have ht : (⟨.openTag "img" (.ofList [("alt", "a>b"), ("src", "x")]) false, 1, 34⟩ : Located) ∈
      tokens {} "p<IMG =ALT = \"a>b\" / alt=c Src=\"x>q".toList := by decide +kernel
  exact ⟨ht, shape_of_mem_tokens ht⟩

end Imageboard
