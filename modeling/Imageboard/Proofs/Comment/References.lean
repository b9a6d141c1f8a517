import Imageboard.Comment.Anchor
import Imageboard.Proofs.Comment.PlainText
import Imageboard.Proofs.Text.Replace

/-! References to posts, and what a comment keeps when they are written plainly.

A comment is read into references and the characters between them. Rewriting copies those characters,
and each reference keeps its own address: `renumberReferences_kept`. What stands inside a reference,
from the tag that begins it to the end tag, is gone afterwards; where that is no more than one anchor,
the plain text of the comment stays as it is. -/
namespace Imageboard.Comment
open Reference Text

/-! ### Searching -/

theorem past?_eq {needle : String} {s rest : List Char} (h : past? needle s = some rest) :
    ∃ before, s = before ++ (needle.toList ++ rest) := by
  obtain ⟨⟨before, after⟩, hsplit, rfl⟩ := Option.map_eq_some_iff.mp h
  exact ⟨before, by rw [splitFirst?_eq hsplit, List.append_assoc]⟩

theorem firstPlace?_eq {find? : List Char → Option α} {s before : List Char} {a : α}
    (h : firstPlace? find? s = some (before, a)) : ∃ rest, s = before ++ rest ∧ find? rest = some a := by
  induction s generalizing before with
  | nil =>
    obtain ⟨b, hb, heq⟩ := Option.map_eq_some_iff.mp h
    obtain ⟨rfl, rfl⟩ := Prod.mk.inj heq
    exact ⟨[], rfl, hb⟩
  | cons c s ih =>
    rw [firstPlace?] at h
    split at h
    · rename_i b hb
      obtain ⟨rfl, rfl⟩ := Prod.mk.inj (Option.some.inj h)
      exact ⟨c :: s, rfl, hb⟩
    · obtain ⟨⟨before', b⟩, hfound, heq⟩ := Option.map_eq_some_iff.mp h
      obtain ⟨rfl, rfl⟩ := Prod.mk.inj heq
      obtain ⟨rest, rfl, hrest⟩ := ih hfound
      exact ⟨rest, rfl, hrest⟩

/-! ### References as they are written -/

/-- A reference with its parts, from `<a class="` to `</a>`. -/
def referenceText (lead address behind mark post inner : List Char) : List Char :=
  "<a class=\"".toList ++ (lead ++ ("href=\"".toList ++ (address ++ ('"' :: (behind ++
    '>' :: (mark ++ post ++ (inner ++ "</a>".toList)))))))

/-- What stands in the tag of a reference. -/
def referenceTag (lead address behind : List Char) : List Char :=
  "a class=\"".toList ++ (lead ++ ("href=\"".toList ++ (address ++ '"' :: behind)))

theorem referenceText_eq (lead address behind mark post inner : List Char) :
    referenceText lead address behind mark post inner =
      '<' :: (referenceTag lead address behind ++
        '>' :: (mark ++ post ++ (inner ++ "</a>".toList))) := by
  unfold referenceText referenceTag
  simp

/-- The two ways to write `>>` in front of the number of a post. -/
def marks : List (List Char) := [">>".toList, "&gt;&gt;".toList]

theorem afterReferenceEnd?_eq {s rest : List Char} (h : afterReferenceEnd? s = some rest) :
    ∃ inner, s = inner ++ ("</a>".toList ++ rest) ∧
      (inner = [] ∨ ∃ tag, inner = '<' :: (tag ++ ['>'])) := by
  unfold afterReferenceEnd? at h
  split at h
  · rename_i body
    cases hpast : past? "></a>" body with
    | some behind =>
      rw [hpast] at h
      obtain rfl := Option.some.inj h
      obtain ⟨tag, rfl⟩ := past?_eq hpast
      exact ⟨'<' :: (tag ++ ['>']), by simp, .inr ⟨tag, rfl⟩⟩
    | none =>
      rw [hpast] at h
      exact ⟨[], by rw [strip?_eq h]; rfl, .inl rfl⟩
  · cases h

theorem referredPost?_eq {s post rest : List Char} (h : referredPost? s = some (post, rest)) :
    ∃ mark inner, s = '>' :: (mark ++ post ++ (inner ++ ("</a>".toList ++ rest))) ∧ mark ∈ marks ∧
      (∀ c ∈ post, isWordCharacter c = true) ∧
      (inner = [] ∨ ∃ tag, inner = '<' :: (tag ++ ['>'])) := by
  obtain ⟨marked, hmarked, h⟩ := Option.bind_eq_some_iff.mp h
  obtain ⟨mark, hmark, id, hsplit, h⟩ : ∃ mark ∈ marks, ∃ id, marked = mark ++ id ∧
      (if (id.takeWhile isWordCharacter).isEmpty then none
        else (afterReferenceEnd? (id.dropWhile isWordCharacter)).map
          (id.takeWhile isWordCharacter, ·)) = some (post, rest) := by
    dsimp only at h
    split at h
    · rename_i id hgt
      exact ⟨_, List.mem_cons_self, id, strip?_eq hgt, h⟩
    · obtain ⟨id, hid, h⟩ := Option.bind_eq_some_iff.mp h
      exact ⟨_, List.mem_cons_of_mem _ List.mem_cons_self, id, strip?_eq hid, h⟩
  split at h
  · cases h
  · obtain ⟨rest', hend, heq⟩ := Option.map_eq_some_iff.mp h
    obtain ⟨rfl, rfl⟩ := Prod.mk.inj heq
    obtain ⟨inner, hinner, hshape⟩ := afterReferenceEnd?_eq hend
    refine ⟨mark, inner, ?_, hmark, List.all_eq_true.mp List.all_takeWhile, hshape⟩
    rw [← hinner, List.append_assoc, List.takeWhile_append_dropWhile, ← hsplit, strip?_eq hmarked]
    rfl

theorem postReference?_eq {s address post rest : List Char}
    (h : postReference? s = some (address, post, rest)) :
    ∃ lead behind mark inner,
      s = lead ++ ("href=\"".toList ++ (address ++ ('"' :: (behind ++
        '>' :: (mark ++ post ++ (inner ++ ("</a>".toList ++ rest))))))) ∧ mark ∈ marks ∧
      (∀ c ∈ post, isWordCharacter c = true) ∧
      (inner = [] ∨ ∃ tag, inner = '<' :: (tag ++ ['>'])) := by
  obtain ⟨s₁, hlink, h⟩ := Option.bind_eq_some_iff.mp h
  obtain ⟨s₂, hquote, h⟩ := Option.bind_eq_some_iff.mp h
  obtain ⟨s₃, hhref, h⟩ := Option.bind_eq_some_iff.mp h
  obtain ⟨⟨address', s₄⟩, haddress, h⟩ := Option.bind_eq_some_iff.mp h
  obtain ⟨⟨behind, post', rest'⟩, hplace, h⟩ := Option.bind_eq_some_iff.mp h
  cases h
  obtain ⟨a, ha⟩ := past?_eq hlink
  obtain ⟨b, hb⟩ := past?_eq hquote
  obtain ⟨c, hc⟩ := past?_eq hhref
  obtain ⟨referred, hbehind, hreferred⟩ := firstPlace?_eq hplace
  obtain ⟨mark, inner, hpost, hmark, hword, hinner⟩ := referredPost?_eq hreferred
  refine ⟨a ++ ("link".toList ++ (b ++ ("\"".toList ++ c))), behind, mark, inner, ?_, hmark, hword,
    hinner⟩
  rw [ha, hb, hc, splitFirst?_eq haddress, hbehind, hpost]
  simp only [List.append_assoc, List.cons_append, List.nil_append]

/-- A reference that has been found: its text, the address it leads to and the post it names. -/
structure PostReference where
  text : List Char
  address : List Char
  post : List Char
  deriving DecidableEq

namespace PostReference

/-- The reference that begins here, and what follows it. -/
def read? (s : List Char) : Option (PostReference × List Char) := do
  let body ← strip? "<a class=\"".toList s
  let (address, post, rest) ← postReference? (body.takeWhile (· != '\n'))
  let rest := rest ++ body.dropWhile (· != '\n')
  some (⟨Lexeme.before s rest, address, post⟩, rest)

/-- The reference written plainly, with the address that it has. -/
def plain (convert : String → Option String) (r : PostReference) : List Char :=
  writeReference r.address (((convert (String.ofList r.post)).map String.toList).getD r.post)

theorem reference?_eq (convert : String → Option String) :
    reference? convert = fun s => (read? s).map fun (r, rest) => (r.plain convert, rest) := by
  funext s
  unfold reference? onLine read?
  cases strip? "<a class=\"".toList s with
  | none => rfl
  | some body =>
    simp only [Option.bind_eq_bind, Option.bind_some]
    cases postReference? (body.takeWhile (· != '\n')) <;> rfl

theorem read?_eq {s rest : List Char} {r : PostReference} (h : read? s = some (r, rest)) :
    s = r.text ++ rest ∧
      ∃ lead behind mark inner,
        r.text = referenceText lead r.address behind mark r.post inner ∧ mark ∈ marks ∧
        (∀ c ∈ r.post, isWordCharacter c = true) ∧
        (inner = [] ∨ ∃ tag, inner = '<' :: (tag ++ ['>'])) := by
  obtain ⟨body, hbody, h⟩ := Option.bind_eq_some_iff.mp h
  obtain ⟨⟨address, post, behind⟩, hreference, h⟩ := Option.bind_eq_some_iff.mp h
  obtain ⟨rfl, rfl⟩ := Prod.mk.inj (Option.some.inj h)
  obtain ⟨lead, inTag, mark, inner, hline, hmark, hpost, hinner⟩ := postReference?_eq hreference
  have hs : s = referenceText lead address inTag mark post inner ++
      (behind ++ body.dropWhile (· != '\n')) := by
    have hsplit := List.takeWhile_append_dropWhile (p := (· != '\n')) (l := body)
    rw [hline] at hsplit
    generalize body.dropWhile (· != '\n') = later at hsplit ⊢
    rw [strip?_eq hbody, ← hsplit]
    unfold referenceText
    simp only [List.append_assoc, List.cons_append]
  have htext : Lexeme.before s (behind ++ body.dropWhile (· != '\n')) =
      referenceText lead address inTag mark post inner := by
    rw [hs, Markup.before_written]
  exact ⟨by rw [htext, hs], lead, inTag, mark, inner, htext, hmark, hpost, hinner⟩

/-- The reference is one anchor: what stands between its `<` and the `>` in front of the mark is the
inside of one tag, and what stands behind the post is the end tag, or another tag and the end tag. -/
def IsOneAnchor (r : PostReference) : Prop :=
  ∃ lead behind mark inner, r.text = referenceText lead r.address behind mark r.post inner ∧
    mark ∈ marks ∧ InTag (referenceTag lead r.address behind) ∧
    (inner = [] ∨ ∃ tag, inner = '<' :: (tag ++ ['>']) ∧ Removable tag)

/-- A mark is shown as `>>` either way. -/
theorem decode_mark {mark : List Char} (hmark : mark ∈ marks) (post w z : List Char) :
    decode (w ++ (mark ++ post ++ z)) = decode (w ++ ("&gt;&gt;".toList ++ post ++ z)) := by
  simp only [marks, List.mem_cons, List.not_mem_nil, or_false] at hmark
  obtain rfl | rfl := hmark
  · have hgt (s : List Char) : decode ('>' :: s) = '>' :: decode s := replaceAll_none rfl
    have hreference (s : List Char) : decode ("&gt;".toList ++ s) = '>' :: decode s :=
      decode_reference ['g', 't'] (by decide) rfl rfl s
    have hraw : decode (w ++ (">>".toList ++ post ++ z)) = decode w ++ '>' :: '>' :: decode (post ++ z) := by
      rw [← hgt, ← hgt, ← decode_append_stop (.inr rfl), List.append_assoc]
      rfl
    have hwritten : decode (w ++ ("&gt;&gt;".toList ++ post ++ z)) =
        decode w ++ '>' :: '>' :: decode (post ++ z) := by
      rw [← hreference, ← hreference, show "&gt;".toList ++ ("&gt;".toList ++ (post ++ z)) =
        '&' :: ("gt;&gt;".toList ++ (post ++ z)) from rfl, ← decode_append_stop (.inl rfl),
        List.append_assoc]
      rfl
    rw [hraw, hwritten]
  · rfl

theorem endTag_vanishes : Vanishes "</a>".toList := by
  have hname : Removable ['/', 'a'] := ⟨⟨by decide, by decide, by decide⟩, rfl, rfl⟩
  exact vanishes_tag hname

/-- What stands in the tag of a reference that is written plainly. -/
def plainTag (address : List Char) : List Char := "a href=\"".toList ++ (address ++ ['"'])

theorem plainTag_inTag {address : List Char} (hlt : '<' ∉ address) (hgt : '>' ∉ address) :
    InTag (plainTag address) where
  no_lt := by
    unfold plainTag
    simp [hlt]
  no_gt := by
    unfold plainTag
    simp [hgt]
  no_dashes := by
    rintro ⟨lead, hlead⟩
    have hlast := congrArg List.getLast? hlead
    unfold plainTag at hlast
    rw [← List.append_assoc, List.getLast?_concat, List.getLast?_append] at hlast
    cases hlast

theorem writeReference_eq (address number : List Char) :
    writeReference address number =
      '<' :: (plainTag address ++ '>' :: ("&gt;&gt;".toList ++ number ++ ([] ++ "</a>".toList))) := by
  unfold writeReference plainTag
  simp

theorem plain_of_id {convert : String → Option String} (hid : ∀ id, (convert id).getD id = id)
    (r : PostReference) : r.plain convert = writeReference r.address r.post := by
  have hpost := hid (String.ofList r.post)
  unfold plain
  cases hconvert : convert (String.ofList r.post) with
  | none => rfl
  | some number =>
    rw [hconvert] at hpost
    obtain rfl : number = String.ofList r.post := hpost
    rw [Option.map_some, Option.getD_some, String.toList_ofList]

/-- The text that a reference shows does not change when it is written plainly. -/
theorem plainCharacters_plain {convert : String → Option String} {s rest : List Char}
    {r : PostReference} (hread : read? s = some (r, rest)) (hone : r.IsOneAnchor)
    (hid : ∀ id, (convert id).getD id = id) (before after : List Char) :
    plainCharacters (before ++ (r.text ++ after)) =
      plainCharacters (before ++ (r.plain convert ++ after)) := by
  obtain ⟨-, -, -, -, -, -, -, hword, -⟩ := read?_eq hread
  obtain ⟨lead, behind, mark, inner, htext, hmark, htag, hinner⟩ := hone
  have hshown : ∀ mark ∈ marks, ∀ c ∈ mark ++ r.post, c ≠ '<' ∧ c ≠ '-' := by
    intro mark hmark c hc
    rcases List.mem_append.mp hc with hc | hc
    · have hmarks : marks.all (fun mark => mark.all fun c => c != '<' && c != '-') = true := rfl
      simpa using List.all_eq_true.mp (List.all_eq_true.mp hmarks mark hmark) c hc
    · constructor
      all_goals
        rintro rfl
        cases hword _ hc
  have hvanishes : Vanishes inner := by
    obtain rfl | ⟨tag, rfl, hremovable⟩ := hinner
    · exact vanishes_nil
    · exact vanishes_tag hremovable
  have hold : Shows (mark ++ r.post) r.text := by
    have hremovable : Removable (referenceTag lead r.address behind) := ⟨htag, rfl, rfl⟩
    rw [htext, referenceText_eq]
    exact shows_element hremovable (hshown mark hmark) hvanishes endTag_vanishes
  have hnew : Shows ("&gt;&gt;".toList ++ r.post) (r.plain convert) := by
    have haddress {c : Char} (hc : c ∈ r.address) : c ∈ referenceTag lead r.address behind := by
      unfold referenceTag
      simp [hc]
    have hlt : '<' ∉ r.address := fun hmem => htag.no_lt (haddress hmem)
    have hgt : '>' ∉ r.address := fun hmem => htag.no_gt (haddress hmem)
    have hremovable : Removable (plainTag r.address) := ⟨plainTag_inTag hlt hgt, rfl, rfl⟩
    rw [plain_of_id hid, writeReference_eq]
    exact shows_element hremovable (hshown _ (by decide)) vanishes_nil endTag_vanishes
  exact plainCharacters_congr hold hnew (decode_mark hmark r.post) before after

/-! ### Comments -/

/-- The references of a comment, and the characters between them. -/
def piecesOf (comment : String) : List (Char ⊕ PostReference) := pieces read? comment.toList

theorem rendered_plain {convert : String → Option String} (hid : ∀ id, (convert id).getD id = id)
    (s : List Char) (hone : ∀ r, .inr r ∈ pieces read? s → r.IsOneAnchor) (before : List Char) :
    plainCharacters (before ++ s) =
      plainCharacters (before ++ rendered (plain convert) (pieces read? s)) := by
  fun_induction pieces read? s generalizing before with
  | case1 => rfl
  | case2 c s r rest hread hl ih =>
    rw [rendered_cons_inr, (read?_eq hread).1,
      plainCharacters_plain hread (hone r List.mem_cons_self) hid, ← List.append_assoc,
      ← List.append_assoc]
    exact ih (fun r hr => hone r (List.mem_cons_of_mem _ hr)) _
  | case3 c s r rest hread hl ih =>
    rw [rendered_cons_inl, List.append_cons, List.append_cons before c (rendered _ _)]
    exact ih (fun r hr => hone r (List.mem_cons_of_mem _ hr)) _
  | case4 c s hread ih =>
    rw [rendered_cons_inl, List.append_cons, List.append_cons before c (rendered _ _)]
    exact ih (fun r hr => hone r (List.mem_cons_of_mem _ hr)) _

/-- **What a comment keeps when its references are written plainly.** A comment is references and the
characters between them; rewriting copies the characters and writes each reference with the address
that it has. Where every reference is one anchor and no number is converted, the plain text of the
comment stays as it is. -/
theorem renumberReferences_kept (convert : String → Option String) (comment : String) :
    comment.toList = rendered text (piecesOf comment) ∧
    (renumberReferences convert comment).toList = rendered (plain convert) (piecesOf comment) ∧
    (∀ r, .inr r ∈ piecesOf comment → ∃ lead behind mark inner,
      r.text = referenceText lead r.address behind mark r.post inner ∧ mark ∈ marks) ∧
    ((∀ id, (convert id).getD id = id) → (∀ r, .inr r ∈ piecesOf comment → r.IsOneAnchor) →
      plainText (renumberReferences convert comment) = plainText comment) := by
  have hrewritten : (renumberReferences convert comment).toList =
      rendered (plain convert) (piecesOf comment) := by
    rw [renumberReferences, String.toList_ofList, reference?_eq, replaceAll_eq_rendered]
    rfl
  refine ⟨?_, hrewritten, ?_, fun hid hone => ?_⟩
  · exact (rendered_pieces (fun s r rest h => (read?_eq h).1) _).symm
  · intro r hr
    obtain ⟨s, rest, hread⟩ := found_of_mem_pieces hr
    obtain ⟨-, lead, behind, mark, inner, htext, hmark, -⟩ := read?_eq hread
    exact ⟨lead, behind, mark, inner, htext, hmark⟩
  · have hplain := rendered_plain hid comment.toList hone []
    rw [List.nil_append, List.nil_append] at hplain
    show String.ofList (plainCharacters (renumberReferences convert comment).toList) =
      String.ofList (plainCharacters comment.toList)
    rw [hrewritten, hplain]
    rfl

/-- A reference that is one anchor, with a line break behind it. -/
theorem reference_kept :
    let comment := "<a class=\"post-link\" href=\"/b/1z#2k\" id=\"r1\">&gt;&gt;2k</a><br>hi"
    (∀ r, .inr r ∈ piecesOf comment → r.IsOneAnchor) ∧
      plainText (renumberReferences some comment) = plainText comment := by
  intro comment
  have hpieces : piecesOf comment =
      .inr ⟨"<a class=\"post-link\" href=\"/b/1z#2k\" id=\"r1\">&gt;&gt;2k</a>".toList,
        "/b/1z#2k".toList, "2k".toList⟩ :: "<br>hi".toList.map .inl := by
    decide +kernel
  have hone : ∀ r, .inr r ∈ piecesOf comment → r.IsOneAnchor := by
    intro r hr
    rw [hpieces] at hr
    obtain rfl : r = _ := by simpa using hr
    exact ⟨"post-link\" ".toList, " id=\"r1\"".toList, "&gt;&gt;".toList, [], by decide +kernel,
      by decide, ⟨by decide +kernel, by decide +kernel, by decide +kernel⟩, .inl rfl⟩
  exact ⟨hone, (renumberReferences_kept some comment).2.2.2 (fun _ => rfl) hone⟩

/-- A reference may begin in one anchor and end in another. The first anchor is gone then, and so is
what stands between the two. -/
theorem anchor_lost :
    let comment :=
      "<a class=\"x\" href=\"/z\">hello</a> <a class=\"link\" href=\"/y\">&gt;&gt;1</a>"
    plainText comment = "hello >>1" ∧
      renumberReferences some comment = "<a href=\"/y\">&gt;&gt;1</a>" ∧
      plainText (renumberReferences some comment) = ">>1" := by
  decide +kernel

end PostReference

end Imageboard.Comment
