import Imageboard.Proofs.Charset.Declaration
import Imageboard.Proofs.Charset.Utf8
import Imageboard.Rule.Source

/-! Pages in UTF-8.

`readSource_utf8Bytes`: whether a page comes as a text or as the UTF-8 bytes of it makes no
difference, unless the bytes tell another charset; behind a byte order mark they cannot. -/
namespace Imageboard
namespace Charset

/-- No byte of UTF-8 is one of those that the marks of UTF-16 consist of. -/
theorem lt_of_mem_encodeChar (c : Char) : ∀ b ∈ String.utf8EncodeChar c, b.toNat < 248 := by
  unfold String.utf8EncodeChar
  dsimp only
  repeat' split
  all_goals
    simp only [List.forall_mem_cons, List.not_mem_nil, false_implies, implies_true, and_true,
      UInt8.toNat_ofNat']
    omega

theorem strip?_utf16_mark {b : UInt8} (hb : 248 ≤ b.toNat) (mark : List UInt8) (text : String) :
    Text.strip? (b :: mark) (utf8Bytes text) = none := by
  cases h : Text.strip? (b :: mark) (utf8Bytes text) with
  | none => rfl
  | some rest =>
    have hmem : b ∈ utf8Bytes text := by
      rw [Text.strip?_eq h]
      exact List.mem_cons_self
    rw [utf8Bytes_eq] at hmem
    obtain ⟨c, -, hc⟩ := List.mem_flatMap.mp hmem
    exact absurd (lt_of_mem_encodeChar c b hc) (Nat.not_lt.mpr hb)

/-- The mark of UTF-8 is the character U+FEFF. -/
theorem strip?_utf8_mark {text : String} (h : text.toList.head? ≠ some '\ufeff') :
    Text.strip? [0xef, 0xbb, 0xbf] (utf8Bytes text) = none := by
  cases hstrip : Text.strip? [0xef, 0xbb, 0xbf] (utf8Bytes text) with
  | none => rfl
  | some rest =>
    have hdecode := decode_utf8Bytes text
    rw [Text.strip?_eq hstrip, decode] at hdecode
    have hmark := decode_encodeChars_append ['\ufeff'] rest
    rw [show ['\ufeff'].flatMap String.utf8EncodeChar = [0xef, 0xbb, 0xbf] by decide] at hmark
    rw [← hdecode, hmark] at h
    exact absurd rfl h

/-- The bytes of a text begin with a mark only where the text does. -/
theorem marked?_utf8Bytes {text : String} (h : text.toList.head? ≠ some '\ufeff') :
    marked? (utf8Bytes text) = none := by
  simp only [marked?, byteOrderMarks, List.findSome?_cons, List.findSome?_nil, strip?_utf8_mark h,
    strip?_utf16_mark (by decide : 248 ≤ (0xfe : UInt8).toNat),
    strip?_utf16_mark (by decide : 248 ≤ (0xff : UInt8).toNat), Option.map_none]

end Charset
open Charset

/-- All that a table makes of a source it makes of the markup. -/
theorem readSource_congr {a b : Source} (h : a.markup = b.markup) (table : RuleTable σ) (s : σ) :
    table.readSource a s = table.readSource b s := by
  unfold RuleTable.readSource
  rw [h]

theorem markup_utf8Bytes {text : String} (h : text.toList.head? ≠ some '\ufeff')
    (hdeclared : declared (utf8Bytes text) = .utf8) :
    (Source.bytes (utf8Bytes text)).markup = .ok text := by
  have hpage : pageText (utf8Bytes text) = text.toList := by
    unfold pageText
    rw [marked?_utf8Bytes h]
    dsimp only
    rw [hdeclared, decode_utf8Bytes]
  show Except.ok (String.ofList (pageText (utf8Bytes text))) = _
  rw [hpage, String.ofList_toList]

theorem markup_marked (text : String) :
    (Source.bytes ([0xef, 0xbb, 0xbf] ++ utf8Bytes text)).markup = .ok text := by
  have hpage : pageText ([0xef, 0xbb, 0xbf] ++ utf8Bytes text) = text.toList := decode_utf8Bytes text
  show Except.ok (String.ofList (pageText ([0xef, 0xbb, 0xbf] ++ utf8Bytes text))) = _
  rw [hpage, String.ofList_toList]

/-- **Pages in UTF-8 are read from bytes as they are from text.** This holds of every page that does
not begin with U+FEFF and whose head declares no label that names another charset, and behind a byte
order mark it holds of every page. -/
theorem readSource_utf8Bytes (table : RuleTable σ) (text : String) (s : σ) :
    (text.toList.head? ≠ some '\ufeff' →
      (∀ label charset, declaredLabel? (headText (utf8Bytes text)) = some label →
        ofLabel? label = some charset → charset = .utf8) →
      table.readSource (.bytes (utf8Bytes text)) s = table.readSource (.text text) s) ∧
    table.readSource (.bytes ([0xef, 0xbb, 0xbf] ++ utf8Bytes text)) s =
      table.readSource (.text text) s := by
  refine ⟨fun hmark hlabel => ?_, readSource_congr (markup_marked text) table s⟩
  refine readSource_congr (markup_utf8Bytes hmark ?_) table s
  rw [declared_eq]
  cases hfound : (declaredLabel? (headText (utf8Bytes text))).bind ofLabel? with
  | none => rfl
  | some charset =>
    obtain ⟨label, hdeclares, hnames⟩ := Option.bind_eq_some_iff.mp hfound
    exact hlabel label charset hdeclares hnames

/-- A page that declares a label which names no charset, before a letter of two bytes. -/
theorem page_of_unknown_label :
    let page := "<meta charset=klingon>é"
    page.toList.head? ≠ some '\ufeff' ∧
      (∀ label charset, declaredLabel? (headText (utf8Bytes page)) = some label →
        ofLabel? label = some charset → charset = .utf8) ∧
      ∀ (table : RuleTable Nat) s,
        table.readSource (.bytes (utf8Bytes page)) s = table.readSource (.text page) s := by
  intro page
  have hmark : page.toList.head? ≠ some '\ufeff' := by decide
  have hlabel : ∀ label charset, declaredLabel? (headText (utf8Bytes page)) = some label →
      ofLabel? label = some charset → charset = .utf8 := by
    have hdeclares : declaredLabel? (headText (utf8Bytes page)) = some "klingon".toList := by
      decide +kernel
    have hunknown : ofLabel? "klingon".toList = none := by decide +kernel
    intro label charset hl hc
    rw [hdeclares, Option.some.injEq] at hl
    rw [← hl, hunknown] at hc
    cases hc
  exact ⟨hmark, hlabel, fun table s => (readSource_utf8Bytes table page s).1 hmark hlabel⟩

end Imageboard
