import Imageboard.Proofs.Markup.Attributes
import Imageboard.Proofs.Markup.Cut
import Imageboard.Proofs.Markup.Reference

/-! Markup that reads back as it was meant.

A token is written the way a template writes it: names and keys in lower case, every value between
double quotes with `&` and `"` escaped, text as it is. `tokens_written`: a page that is written
token by token has these tokens and no others, whatever the values hold. -/
namespace Imageboard
open Lexeme Markup Text

namespace Reference

def escapedOne (c : Char) : List Char :=
  if c = '&' then ['&', 'a', 'm', 'p', ';']
  else if c = '"' then ['&', 'q', 'u', 'o', 't', ';']
  else [c]

/-- A text as the value between two double quotes: `&` and `"` are written as references. -/
def escaped (s : List Char) : List Char := s.flatMap escapedOne

theorem escaped_cons (c : Char) (s : List Char) : escaped (c :: s) = escapedOne c ++ escaped s :=
  List.flatMap_cons

/-- Replacing the references undoes the escapes. -/
theorem decode_escaped (s : List Char) : decode (escaped s) = s := by
  induction s with
  | nil => rw [escaped, List.flatMap_nil, decode, replaceAll]
  | cons c s ih =>
    rw [escaped_cons]
    unfold escapedOne
    split
    · rename_i hc
      rw [hc]
      exact (decode_reference ['a', 'm', 'p'] (by decide) rfl rfl _).trans
        (congrArg _ ih)
    · split
      · rename_i hc
        rw [hc]
        exact (decode_reference ['q', 'u', 'o', 't'] (by decide) rfl rfl _).trans
          (congrArg _ ih)
      · rename_i hamp _
        have hmatch : match? (c :: escaped s) = none := by
          unfold match?
          split
          · rename_i he
            exact absurd (List.cons.inj he).1 hamp
          · rfl
        rw [List.singleton_append, decode, replaceAll_none hmatch]
        exact congrArg _ ih

theorem escapedOne_no_quote (c : Char) : (escapedOne c).all (· != '"') = true := by
  unfold escapedOne
  split
  · rfl
  · split
    · rfl
    · rename_i hquote
      rw [List.all_cons, List.all_nil, Bool.and_true]
      exact bne_iff_ne.mpr hquote

theorem escaped_no_quote (s : List Char) : ∀ c ∈ escaped s, (c != '"') = true := by
  rw [← List.all_eq_true, escaped, List.all_flatMap, List.all_eq_true]
  exact fun c _ => escapedOne_no_quote c

end Reference
open Reference

namespace Markup

/-- The name of an element in lower case: a letter, and then also digits and the signs of names. -/
structure PlainName (name : String) : Prop where
  initial : ∃ c, name.toList.head? = some c ∧ c.isLower = true
  characters : ∀ c ∈ name.toList,
    (c.isLower || c.isDigit || c == '-' || c == '_' || c == ':' || c == '.') = true

/-- A key that is read as one key and as it is written. -/
structure PlainKey (key : String) : Prop where
  nonempty : key ≠ ""
  characters : ∀ c ∈ key.toList, isKeyCharacter c = true ∧ c.isUpper = false

end Markup

namespace Token

/-- A tag that is written with a plain name and plain keys and is followed by no raw text, or some
text without `<`. -/
def Plain : Token → Prop
  | openTag name attributes selfClosing =>
    PlainName name ∧ (∀ entry ∈ attributes.entries, PlainKey entry.1) ∧
      (openTag name attributes selfClosing).opensRawText {} = false
  | closeTag name => PlainName name
  | text content => content ≠ "" ∧ '<' ∉ content.toList

def isText : Token → Bool
  | text _ => true
  | _ => false

/-- An attribute as ` key="value"`. -/
def writtenEntry (entry : String × String) : List Char :=
  ' ' :: (entry.1.toList ++ '=' :: '"' :: (escaped entry.2.toList ++ ['"']))

def writtenEnd (selfClosing : Bool) : List Char := if selfClosing then [' ', '/', '>'] else ['>']

def written : Token → List Char
  | openTag name attributes selfClosing =>
    '<' :: (name.toList ++ (attributes.entries.flatMap writtenEntry ++ writtenEnd selfClosing))
  | closeTag name => '<' :: '/' :: (name.toList ++ ['>'])
  | text content => content.toList

end Token
open Token

/-! ### Reading one token back -/

namespace Markup
section
variable {o : Options} {rest : List Char}

theorem lowercase_of_not_isUpper {s : List Char} (h : ∀ c ∈ s, c.isUpper = false) :
    lowercase s = s := by
  unfold lowercase
  rw [List.map_congr_left fun c hc => toLower_of_not_isUpper (h c hc), List.map_id']

/-- One attribute, with whatever follows it. -/
theorem readAttributes_entry (ho : o.decodeReferences = true) (earlier : Attributes)
    {entry : String × String} (hkey : PlainKey entry.1) (rest : List Char) :
    readAttributes o earlier (writtenEntry entry ++ rest) =
      readAttributes o (earlier.insert entry.1 entry.2) rest := by
  obtain ⟨key, value⟩ := entry
  obtain ⟨hne, hkey⟩ := hkey
  have hiskey : IsKey key.toList :=
    ⟨fun he => hne (String.toList_eq_nil_iff.mp he), fun c hc => (hkey c hc).1⟩
  have hlower : String.ofList (lowercase key.toList) = key := by
    rw [lowercase_of_not_isUpper fun c hc => (hkey c hc).2, String.ofList_toList]
  have hvalue : attributeValue o (escaped value.toList) = value := by
    rw [attributeValue, ho, if_pos rfl, decode_escaped, String.ofList_toList]
  have hquote : '"' ∉ escaped value.toList := fun hmem =>
    bne_iff_ne.mp (escaped_no_quote value.toList _ hmem) rfl
  calc readAttributes o earlier (writtenEntry (key, value) ++ rest)
      = readAttributes o earlier
          (' ' :: (key.toList ++ '=' :: '"' :: (escaped value.toList ++ '"' :: rest))) := by
        simp [writtenEntry]
    _ = readAttributes o earlier (key.toList ++ '=' :: '"' :: (escaped value.toList ++ '"' :: rest)) :=
        readAttributes_space rfl _
    _ = readAttributes o (earlier.insert key value) rest := by
        rw [readAttributes_quoted hiskey (.inl rfl) hquote, hlower, hvalue]

theorem readAttributes_writtenEnd (attributes : Attributes) (selfClosing : Bool)
    (rest : List Char) :
    readAttributes o attributes (writtenEnd selfClosing ++ rest) =
      (⟨attributes, selfClosing⟩, rest) := by
  cases selfClosing with
  | false => exact readAttributes_end rfl
  | true => exact readAttributes_self_closing rfl

/-- The attributes of a tag are read one after the other, each behind those before it. -/
theorem readAttributes_written (ho : o.decodeReferences = true) {attributes earlier : Attributes}
    {entries : List (String × String)} (h : attributes.entries = earlier.entries ++ entries)
    (hkeys : ∀ entry ∈ entries, PlainKey entry.1) (selfClosing : Bool) (rest : List Char) :
    readAttributes o earlier (entries.flatMap writtenEntry ++ (writtenEnd selfClosing ++ rest)) =
      (⟨attributes, selfClosing⟩, rest) := by
  induction entries generalizing earlier with
  | nil =>
    obtain rfl : attributes = earlier := by
      cases attributes
      cases earlier
      simpa using h
    exact readAttributes_writtenEnd attributes selfClosing rest
  | cons entry entries ih =>
    have hnew : earlier.contains entry.1 = false := by
      have hnodup := attributes.nodup
      rw [h, List.map_append, List.nodup_append] at hnodup
      rw [Attributes.contains_eq_false_iff]
      intro hmem
      exact hnodup.2.2 _ hmem _ List.mem_cons_self rfl
    rw [List.flatMap_cons, List.append_assoc,
      readAttributes_entry ho _ (hkeys entry List.mem_cons_self)]
    refine ih ?_ fun e he => hkeys e (List.mem_cons_of_mem entry he)
    rw [Attributes.entries_insert, hnew, h, if_neg Bool.false_ne_true, List.append_assoc]
    rfl

theorem PlainName.cons {name : String} (h : PlainName name) :
    ∃ c k, name.toList = c :: k ∧ c.isAlpha = true := by
  obtain ⟨c, hc, hlower⟩ := h.initial
  obtain ⟨k, hk⟩ := List.head?_eq_some_iff.mp hc
  exact ⟨c, k, hk, by simp [isAlpha_eq, hlower]⟩

theorem PlainName.nameCharacters {name : String} (h : PlainName name) :
    ∀ c ∈ name.toList, isNameCharacter c = true := by
  intro c hc
  have := h.characters c hc
  simp only [isNameCharacter, Char.isAlphanum, isAlpha_eq, Bool.or_eq_true] at this ⊢
  grind

theorem PlainName.lowercase_eq {name : String} (h : PlainName name) :
    String.ofList (lowercase name.toList) = name := by
  rw [lowercase_of_not_isUpper, String.ofList_toList]
  intro c hc
  have := h.characters c hc
  simp only [Bool.or_eq_true, beq_iff_eq] at this
  rcases this with ((((hlower | hdigit) | rfl) | rfl) | rfl) | rfl
  · exact not_isUpper_of_isLower hlower
  · simp [Char.isDigit, isUpper_eq, UInt32.le_iff_toNat_le] at hdigit ⊢
    omega
  all_goals rfl

theorem readOpenTag_written {name : String} {attributes : Attributes} (hname : PlainName name)
    (hkeys : ∀ entry ∈ attributes.entries, PlainKey entry.1) (selfClosing : Bool)
    (rest : List Char) :
    readOpenTag {} (name.toList ++
        (attributes.entries.flatMap writtenEntry ++ (writtenEnd selfClosing ++ rest))) =
      (.openTag name attributes selfClosing, rest) := by
  have hread : readAttributes {} .empty
      (attributes.entries.flatMap writtenEntry ++ (writtenEnd selfClosing ++ rest)) =
        (⟨attributes, selfClosing⟩, rest) :=
    readAttributes_written rfl rfl hkeys selfClosing rest
  obtain ⟨c, s, hs, hc⟩ : ∃ c s,
      attributes.entries.flatMap writtenEntry ++ (writtenEnd selfClosing ++ rest) = c :: s ∧
        isNameCharacter c = false := by
    cases attributes.entries with
    | nil => cases selfClosing <;> exact ⟨_, _, rfl, rfl⟩
    | cons entry entries => exact ⟨' ', _, rfl, rfl⟩
  rw [hs] at hread ⊢
  unfold readOpenTag
  rw [takeWhile_stop hname.nameCharacters hc, dropWhile_stop hname.nameCharacters hc, hread,
    hname.lowercase_eq]

theorem readCloseTag_written {name : String} (hname : PlainName name) (rest : List Char) :
    readCloseTag (name.toList ++ '>' :: rest) = (some (.closeTag name), rest) := by
  obtain ⟨c, k, hk, -⟩ := hname.cons
  have hlower := hname.lowercase_eq
  unfold readCloseTag
  rw [takeWhile_stop hname.nameCharacters rfl, dropWhile_stop hname.nameCharacters rfl]
  rw [hk] at hlower ⊢
  dsimp only
  rw [hlower]
  rfl

/-- Text without `<` goes on up to the next markup, or to the end of the page. -/
theorem afterText_plain {s rest : List Char} (hs : '<' ∉ s)
    (hrest : rest = [] ∨ startsMarkup rest = true) : afterText (s ++ rest) = rest := by
  induction s with
  | nil =>
    cases rest with
    | nil => rfl
    | cons c rest =>
      rw [List.nil_append, afterText, if_pos (hrest.resolve_left (List.cons_ne_nil c rest))]
  | cons c s ih =>
    have hc : c ≠ '<' := fun h => hs (h ▸ List.mem_cons_self)
    rw [List.cons_append, afterText, startsMarkup_other hc, if_neg Bool.false_ne_true]
    exact ih fun h => hs (List.mem_cons_of_mem c h)

theorem before_written (s rest : List Char) : before (s ++ rest) rest = s := by
  simp [before]

end
end Markup

namespace Token

/-- A tag starts markup, whatever follows it. -/
theorem startsMarkup_written {t : Token} (ht : t.Plain) (htag : t.isText = false)
    (rest : List Char) : startsMarkup (t.written ++ rest) = true := by
  cases t with
  | openTag name attributes selfClosing =>
    obtain ⟨c, k, hk, hc⟩ := ht.1.cons
    have hne : c ≠ '/' := by rintro rfl; cases hc
    rw [written, hk, List.cons_append, List.cons_append, List.cons_append, startsMarkup_open hne,
      hc]
    rfl
  | closeTag name =>
    obtain ⟨c, k, hk, hc⟩ := PlainName.cons ht
    rw [written, hk, List.cons_append, List.cons_append, List.cons_append, List.cons_append,
      startsMarkup_close, hc]
    rfl
  | text content => cases htag

/-- A token is read back from the beginning of a page if nothing follows that would belong to it. -/
theorem first_written {t : Token} (ht : t.Plain) {rest : List Char}
    (hrest : t.isText = true → rest = [] ∨ startsMarkup rest = true) :
    ∃ c s, t.written ++ rest = c :: s ∧ first {} c s = (⟨t.written, some t⟩, rest) := by
  cases t with
  | openTag name attributes selfClosing =>
    obtain ⟨hname, hkeys, -⟩ := ht
    obtain ⟨c, k, hk, hc⟩ := hname.cons
    have hwritten : (openTag name attributes selfClosing).written ++ rest = '<' :: (name.toList ++
        (attributes.entries.flatMap writtenEntry ++ (writtenEnd selfClosing ++ rest))) := by
      simp only [written, List.cons_append, List.append_assoc]
    refine ⟨'<', _, hwritten, ?_⟩
    rw [hk, List.cons_append, first_openTag hc, ← List.cons_append, ← hk,
      readOpenTag_written hname hkeys, ← hwritten, before_written]
  | closeTag name =>
    obtain ⟨c, k, hk, hc⟩ := PlainName.cons ht
    have hwritten :
        (closeTag name).written ++ rest = '<' :: '/' :: (name.toList ++ '>' :: rest) := by
      simp only [written, List.cons_append, List.append_assoc, List.nil_append]
    refine ⟨'<', _, hwritten, ?_⟩
    rw [hk, List.cons_append, first_closeTag (.inl hc), ← List.cons_append, ← hk,
      readCloseTag_written ht, ← hwritten, before_written]
  | text content =>
    obtain ⟨hne, hlt⟩ := ht
    cases hc : content.toList with
    | nil => exact absurd (String.toList_eq_nil_iff.mp hc) hne
    | cons c s =>
      rw [hc] at hlt
      have hother : c ≠ '<' := fun h => hlt (h ▸ List.mem_cons_self)
      have hafter : afterText (s ++ rest) = rest :=
        afterText_plain (fun h => hlt (List.mem_cons_of_mem c h)) (hrest rfl)
      refine ⟨c, s ++ rest, by rw [written, hc]; rfl, ?_⟩
      rw [first_text (startsMarkup_other hother _), hafter, textBefore, ← List.cons_append,
        before_written, ← hc, String.ofList_toList]
      rfl

theorem Plain.opensNoRawText {t : Token} (ht : t.Plain) : t.opensRawText {} = false := by
  cases t with
  | openTag name attributes selfClosing => exact ht.2.2
  | closeTag name => rfl
  | text content => rfl

end Token

theorem lexemes_written {ts : List Token} (hplain : ∀ t ∈ ts, t.Plain)
    (hapart : ∀ pair ∈ ts.zip ts.tail, (pair.1.isText && pair.2.isText) = false) :
    lexemes {} (ts.flatMap written) = ts.map fun t => ⟨t.written, some t⟩ := by
  induction ts with
  | nil => rw [List.flatMap_nil, lexemes]; rfl
  | cons t ts ih =>
    have ht := hplain t List.mem_cons_self
    have hts : ∀ u ∈ ts, u.Plain := fun u hu => hplain u (List.mem_cons_of_mem t hu)
    have hapart' : ∀ pair ∈ ts.zip ts.tail, (pair.1.isText && pair.2.isText) = false := by
      intro pair hpair
      cases ts with
      | nil => cases hpair
      | cons u us => exact hapart pair (List.mem_cons_of_mem (t, u) hpair)
    have hrest (htext : t.isText = true) :
        ts.flatMap written = [] ∨ startsMarkup (ts.flatMap written) = true := by
      cases ts with
      | nil => exact .inl rfl
      | cons u us =>
        have hu : u.isText = false := by
          have := hapart (t, u) List.mem_cons_self
          rwa [htext, Bool.true_and] at this
        exact .inr (startsMarkup_written (hts u List.mem_cons_self) hu (us.flatMap written))
    obtain ⟨c, s, hs, hfirst⟩ := first_written ht hrest
    rw [List.flatMap_cons, hs, lexemes_cons, hfirst]
    dsimp only
    rw [afterBody_of_not_raw (by rintro u ⟨⟩; exact ht.opensNoRawText), ih hts hapart']
    unfold bodyBefore
    rw [if_pos rfl]
    rfl

theorem located_tokens (start : Nat) (ts : List Token) :
    (located start (ts.map fun t => ⟨t.written, some t⟩)).map (·.token) = ts := by
  rw [map_token_located, List.filterMap_map]
  exact List.filterMap_some

/-- **A page that is written token by token has these tokens**, in this order and no others, with
the values of the attributes as they were before they were escaped. Two texts that stand side by
side would be read as one. -/
theorem tokens_written {ts : List Token} (hplain : ∀ t ∈ ts, t.Plain)
    (hapart : ∀ pair ∈ ts.zip ts.tail, (pair.1.isText && pair.2.isText) = false) :
    (tokens {} (ts.flatMap written)).map (·.token) = ts := by
  unfold tokens
  rw [lexemes_written hplain hapart]
  exact located_tokens 0 ts

/-- A value with an end of a tag, a quote and half a reference in it. -/
theorem link_written :
    (tokens {} "<a href=\"?a&amp;amp=&quot;>\">b > c</a><br />".toList).map (·.token) =
      [.openTag "a" (.ofList [("href", "?a&amp=\">")]) false, .text "b > c", .closeTag "a",
        .openTag "br" .empty true] := by
  have hplain : ∀ t ∈ [Token.openTag "a" (.ofList [("href", "?a&amp=\">")]) false, .text "b > c",
      .closeTag "a", .openTag "br" .empty true], t.Plain := by
    simp only [List.forall_mem_cons]
    refine ⟨⟨⟨⟨'a', rfl, rfl⟩, List.all_eq_true.mp rfl⟩, ?_, rfl⟩, ⟨by decide, by decide⟩,
      ⟨⟨'a', rfl, rfl⟩, List.all_eq_true.mp rfl⟩,
      ⟨⟨⟨'b', rfl, rfl⟩, List.all_eq_true.mp rfl⟩, nofun, rfl⟩, nofun⟩
    intro entry hentry
    obtain rfl := List.mem_singleton.mp hentry
    refine ⟨by decide, ?_⟩
    show ∀ c ∈ ['h', 'r', 'e', 'f'], isKeyCharacter c = true ∧ c.isUpper = false
    simp only [List.forall_mem_cons]
    exact ⟨⟨rfl, rfl⟩, ⟨rfl, rfl⟩, ⟨rfl, rfl⟩, ⟨rfl, rfl⟩, nofun⟩
  exact tokens_written hplain (by decide +kernel)

end Imageboard
