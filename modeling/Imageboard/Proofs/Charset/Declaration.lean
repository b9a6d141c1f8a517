import Imageboard.Charset.Page
import Imageboard.Proofs.Charset.Utf8
import Imageboard.Proofs.Text.Search
import Mathlib.Data.List.Forall2

/-! What a page declares its charset to be.

`declaredLabel?_eq_some` says which label a head declares, without the search for it: `Declares label s`
is that of all `meta` tags of `s` with a declaration the first has `label` in its last one. Where there is
none, what is declared for the content type is asked, and names nothing (`declared_eq`). What the label
names counts as it stands (`ofPage_eq_utf16_iff`): there is no charset that a page could not declare, not
even UTF-16, in which the declaration could not have been read. -/
namespace Imageboard.Charset
open Text

/-! ### Declarations -/

/-- A way to write a word, with its letters in either case. -/
abbrev SpelledAs (word written : List Char) : Prop :=
  List.Forall₂ (fun c d => sameLetter c d = true) word written

/-- A text that begins with a declaration of a label, which ends where its characters do. -/
inductive Declaration (label : List Char) : List Char → Prop
  | intro {word blanks blanks' quote rest : List Char} (hword : SpelledAs "charset".toList word)
      (hblanks : ∀ c ∈ blanks, isBlank c = true) (hblanks' : ∀ c ∈ blanks', isBlank c = true)
      (hquote : quote = [] ∨ ∃ q, quote = [q] ∧ isQuote q = true) (hne : label ≠ [])
      (hlabel : ∀ c ∈ label, isLabelCharacter c = true)
      (hrest : ∀ c ∈ rest.head?, isLabelCharacter c = false) :
      Declaration label (word ++ (blanks ++ '=' :: (blanks' ++ (quote ++ (label ++ rest)))))

/-- The last declaration of a text is one of this label. -/
def LastDeclaration (label s : List Char) : Prop :=
  ∃ before t, s = before ++ t ∧ Declaration label t ∧
    ∀ u v label', u ≠ [] → t = u ++ v → ¬ Declaration label' v

/-- A text that begins with a `meta` tag, and the last declaration in the tag is one of this label. -/
inductive MetaTag (label : List Char) : List Char → Prop
  | intro {name inside rest : List Char} {c : Char} (hname : SpelledAs "<meta".toList name)
      (hinside : '>' ∉ c :: inside) (hrest : ∀ d ∈ rest.head?, d = '>')
      (hlast : LastDeclaration label inside) : MetaTag label (name ++ (c :: (inside ++ rest)))

/-- The first `meta` tag of a text that has a declaration declares this label. -/
def Declares (label s : List Char) : Prop :=
  ∃ before t, s = before ++ t ∧ MetaTag label t ∧
    ∀ u v label', v ≠ [] → before = u ++ v → ¬ MetaTag label' (v ++ t)

theorem stripWord?_eq_some {word s rest : List Char} :
    stripWord? word s = some rest ↔ ∃ written, SpelledAs word written ∧ s = written ++ rest := by
  induction word generalizing s with
  | nil =>
    constructor
    · intro h
      exact ⟨[], .nil, Option.some.inj h⟩
    · rintro ⟨written, hwritten, rfl⟩
      cases hwritten
      rfl
  | cons c word ih =>
    constructor
    · intro h
      cases s with
      | nil => cases h
      | cons d s =>
        rw [stripWord?] at h
        split at h
        · rename_i hcd
          obtain ⟨written, hwritten, rfl⟩ := ih.mp h
          exact ⟨d :: written, .cons hcd hwritten, rfl⟩
        · cases h
    · rintro ⟨written, hwritten, rfl⟩
      cases hwritten with
      | cons hcd hwritten =>
        rw [List.cons_append, stripWord?, if_pos hcd]
        exact ih.mpr ⟨_, hwritten, rfl⟩

/-! ### Labels -/

theorem eq_of_isQuote {c : Char} (h : isQuote c = true) : c = '"' ∨ c = '\'' := by
  simpa [isQuote] using h

theorem of_isLabelCharacter {c : Char} (h : isLabelCharacter c = true) :
    isQuote c = false ∧ isBlank c = false := by
  simp only [isLabelCharacter, Bool.not_eq_true', Bool.or_eq_false_iff] at h
  exact h.1.1

theorem eq_quote_append_withoutQuote (s : List Char) :
    ∃ quote, (quote = [] ∨ ∃ q, quote = [q] ∧ isQuote q = true) ∧ s = quote ++ withoutQuote s := by
  cases s with
  | nil => exact ⟨[], .inl rfl, rfl⟩
  | cons c s =>
    rw [withoutQuote]
    split
    · rename_i hc
      exact ⟨[c], .inr ⟨c, rfl, hc⟩, rfl⟩
    · exact ⟨[], .inl rfl, rfl⟩

/-- A label with or without its quote begins with no blank. -/
theorem quoted_label {quote label : List Char} (rest : List Char)
    (hquote : quote = [] ∨ ∃ q, quote = [q] ∧ isQuote q = true) (hne : label ≠ [])
    (hlabel : ∀ c ∈ label, isLabelCharacter c = true) :
    (∀ c ∈ (quote ++ (label ++ rest)).head?, isBlank c = false) ∧
      withoutQuote (quote ++ (label ++ rest)) = label ++ rest := by
  obtain ⟨c, label, rfl⟩ := List.exists_cons_of_ne_nil hne
  obtain ⟨hc, hblank⟩ := of_isLabelCharacter (hlabel c List.mem_cons_self)
  obtain rfl | ⟨q, rfl, hq⟩ := hquote
  · refine ⟨?_, ?_⟩
    · rintro d ⟨⟩
      exact hblank
    · rw [List.nil_append, List.cons_append, withoutQuote, hc]
      rfl
  · refine ⟨?_, ?_⟩
    · rintro d ⟨⟩
      rcases eq_of_isQuote hq with rfl | rfl <;> rfl
    · rw [List.singleton_append, withoutQuote, if_pos hq]

theorem labelHere?_eq_some {s label : List Char} :
    labelHere? s = some label ↔ Declaration label s := by
  constructor
  · intro h
    obtain ⟨s₁, hword, hbehind⟩ := Option.bind_eq_some_iff.mp h
    obtain ⟨s₂, hequals, hvalue⟩ := Option.bind_eq_some_iff.mp hbehind
    obtain ⟨word, hspelled, hs⟩ := stripWord?_eq_some.mp hword
    obtain ⟨blanks, _, hs₁, hblanks, -, -, hdrop⟩ := exists_stretch isBlank s₁
    obtain rfl := hdrop.symm.trans (strip?_eq hequals)
    obtain ⟨blanks', t, hs₂, hblanks', -, -, hdrop'⟩ := exists_stretch isBlank s₂
    obtain ⟨quote, hquote, ht⟩ := eq_quote_append_withoutQuote t
    obtain ⟨written, rest, hlabel, hcharacters, hrest, htake, -⟩ :=
      exists_stretch isLabelCharacter (withoutQuote t)
    simp only [hdrop', htake] at hvalue
    split at hvalue
    · cases hvalue
    · rename_i hne
      obtain rfl := Option.some.inj hvalue
      rw [hs, hs₁, hs₂, ht, hlabel]
      exact .intro hspelled hblanks hblanks' hquote (mt List.isEmpty_iff.mpr hne) hcharacters hrest
  · rintro ⟨hword, hblanks, hblanks', hquote, hne, hlabel, hrest⟩
    rename_i word blanks blanks' quote rest
    obtain ⟨hhead, hwithout⟩ := quoted_label rest hquote hne hlabel
    have hequals (t : List Char) : strip? ['='] ('=' :: t) = some t := strip?_iff.mpr rfl
    simp only [labelHere?, stripWord?_eq_some.mpr ⟨word, hword, rfl⟩, Option.bind_eq_bind,
      Option.bind_some, dropWhile_stop hblanks (rfl : isBlank '=' = false), hequals,
      (takeWhile_head hblanks' hhead).2, hwithout, (takeWhile_head hlabel hrest).1]
    exact if_neg (mt List.isEmpty_iff.mp hne)

/-! ### The first tag and its last declaration -/

theorem not_declaration_nil (label : List Char) : ¬ Declaration label [] := fun h => by
  have hnone := labelHere?_eq_some.mpr h
  cases hnone

theorem labelHere?_eq_none {s : List Char} :
    labelHere? s = none ↔ ∀ label, ¬ Declaration label s := by
  simp only [Option.eq_none_iff_forall_ne_some, ne_eq, labelHere?_eq_some]

theorem readLast?_labelHere? {s label : List Char} :
    readLast? labelHere? s = some label ↔ LastDeclaration label s := by
  rw [readLast?_eq_some (labelHere?_eq_none.mpr not_declaration_nil)]
  simp only [LastDeclaration, labelHere?_eq_some, labelHere?_eq_none]
  constructor
  · rintro ⟨before, t, hs, hfound, hlast⟩
    exact ⟨before, t, hs, hfound, fun u v label' hu huv => hlast u v hu huv label'⟩
  · rintro ⟨before, t, hs, hfound, hlast⟩
    exact ⟨before, t, hs, hfound, fun u v hu huv label' => hlast u v label' hu huv⟩

/-- What is read of a `meta` tag is read inside it, behind its name and one more character. -/
theorem insideMeta?_eq_some {reader : List Char → Option (List Char)} {s label : List Char} :
    insideMeta? reader s = some label ↔
      ∃ name c inside rest, s = name ++ (c :: (inside ++ rest)) ∧ SpelledAs "<meta".toList name ∧
        '>' ∉ c :: inside ∧ (∀ d ∈ rest.head?, d = '>') ∧ readLast? reader inside = some label := by
  constructor
  · intro h
    obtain ⟨t, hname, hread⟩ := Option.bind_eq_some_iff.mp h
    obtain ⟨name, hspelled, rfl⟩ := stripWord?_eq_some.mp hname
    obtain ⟨inside, rest, rfl, hinside, hrest, htake, -⟩ := exists_stretch (· != '>') t
    rw [htake] at hread
    cases inside with
    | nil => cases hread
    | cons c inside =>
      exact ⟨name, c, inside, rest, by rw [List.cons_append], hspelled,
        fun hmem => by simpa using hinside '>' hmem, fun d hd => by simpa using hrest d hd, hread⟩
  · rintro ⟨name, c, inside, rest, rfl, hname, hinside, hrest, hread⟩
    have htake : ((c :: inside) ++ rest).takeWhile (· != '>') = c :: inside := by
      refine (takeWhile_head (fun d hd => ?_) (fun d hd => ?_)).1
      · exact bne_iff_ne.mpr fun heq => hinside (heq ▸ hd)
      · rw [hrest d hd]
        rfl
    rw [insideMeta?, stripWord?_eq_some.mpr ⟨name, hname, rfl⟩, Option.bind_some, ← List.cons_append,
      htake]
    exact hread

theorem insideMeta?_labelHere? {s label : List Char} :
    insideMeta? labelHere? s = some label ↔ MetaTag label s := by
  rw [insideMeta?_eq_some]
  constructor
  · rintro ⟨name, c, inside, rest, rfl, hname, hinside, hrest, hread⟩
    exact .intro hname hinside hrest (readLast?_labelHere?.mp hread)
  · rintro ⟨hname, hinside, hrest, hlast⟩
    exact ⟨_, _, _, _, rfl, hname, hinside, hrest, readLast?_labelHere?.mpr hlast⟩

theorem insideMeta?_nil (reader : List Char → Option (List Char)) : insideMeta? reader [] = none := rfl

/-- The label that a head declares. -/
theorem declaredLabel?_eq_some {s label : List Char} :
    declaredLabel? s = some label ↔ Declares label s := by
  unfold declaredLabel?
  rw [readFirst?_eq_some (insideMeta?_nil labelHere?)]
  simp only [Declares, insideMeta?_labelHere?, Option.eq_none_iff_forall_ne_some, ne_eq]
  constructor
  · rintro ⟨before, t, hs, hfound, hfirst⟩
    exact ⟨before, t, hs, hfound, fun u v label' hv huv => hfirst u v hv huv label'⟩
  · rintro ⟨before, t, hs, hfound, hfirst⟩
    exact ⟨before, t, hs, hfound, fun u v hv huv label' => hfirst u v label' hv huv⟩

/-! ### Declarations of a content type

The parameter of a content type is itself a declaration, unless its label begins with a slash, which
no charset does. So where no other declaration is found, that of a content type names nothing. -/

/-- Somewhere in the text a declaration begins. -/
def HasDeclaration (s : List Char) : Prop := ∃ u v label, s = u ++ v ∧ Declaration label v

theorem HasDeclaration.of_suffix {s t : List Char} (h : HasDeclaration s) (hst : s <:+ t) :
    HasDeclaration t := by
  obtain ⟨u, v, label, rfl, hv⟩ := h
  obtain ⟨w, rfl⟩ := hst
  exact ⟨w ++ u, v, label, by rw [List.append_assoc], hv⟩

theorem hasDeclaration_intro {word blanks blanks' t : List Char} {c : Char}
    (hword : SpelledAs "charset".toList word) (hblanks : ∀ d ∈ blanks, isBlank d = true)
    (hblanks' : ∀ d ∈ blanks', isBlank d = true) (hc : isLabelCharacter c = true) :
    HasDeclaration (word ++ (blanks ++ '=' :: (blanks' ++ c :: t))) := by
  obtain ⟨label, rest, ht, hlabel, hrest, htake, -⟩ := exists_stretch isLabelCharacter (c :: t)
  rw [List.takeWhile_cons_of_pos hc] at htake
  have hne : label ≠ [] := htake ▸ List.cons_ne_nil c _
  rw [ht]
  exact ⟨[], _, label, rfl, .intro hword hblanks hblanks' (.inl rfl) hne hlabel hrest⟩

theorem stripWord?_suffix {word s rest : List Char} (h : stripWord? word s = some rest) :
    rest <:+ s := by
  obtain ⟨written, -, rfl⟩ := stripWord?_eq_some.mp h
  exact List.suffix_append written rest

theorem strip?_suffix {lead s rest : List Char} (h : strip? lead s = some rest) : rest <:+ s := by
  rw [strip?_eq h]
  exact List.suffix_append lead rest

theorem withoutQuote_suffix (s : List Char) : withoutQuote s <:+ s := by
  obtain ⟨quote, -, hs⟩ := eq_quote_append_withoutQuote s
  exact ⟨quote, hs.symm⟩

/-- `more` is what stands behind the content. -/
theorem hasDeclaration_of_parameterLabel? {s label : List Char} (h : parameterLabel? s = some label)
    (hslash : label.head? ≠ some '/') (more : List Char) : HasDeclaration (s ++ more) := by
  obtain ⟨s₁, hsemicolon, hbehind⟩ := Option.bind_eq_some_iff.mp h
  obtain ⟨s₂, hword, hvalue⟩ := Option.bind_eq_some_iff.mp hbehind
  obtain ⟨s₃, hequals, hlabel⟩ := Option.bind_eq_some_iff.mp hvalue
  obtain ⟨word, hspelled, hs₁⟩ := stripWord?_eq_some.mp hword
  obtain ⟨blanks, _, hs₂, hblanks, -, -, hdrop⟩ := exists_stretch isBlank s₂
  obtain rfl := hdrop.symm.trans (strip?_eq hequals)
  obtain ⟨blanks', t, hs₃, hblanks', -, -, hdrop'⟩ := exists_stretch isBlank s₃
  obtain ⟨written, rest, rfl, hcharacters, -, htake, -⟩ :=
    exists_stretch (fun c => !(isQuote c || isBlank c || c == '>')) t
  simp only [hdrop', htake] at hlabel
  split at hlabel
  · cases hlabel
  rename_i hne
  obtain rfl := Option.some.inj hlabel
  obtain ⟨c, label, rfl⟩ := List.exists_cons_of_ne_nil (mt List.isEmpty_iff.mpr hne)
  have hc : isLabelCharacter c = true := by
    have hhead := hcharacters c List.mem_cons_self
    have hother : c ≠ '/' := fun hc => hslash (congrArg some hc)
    simp only [Bool.not_eq_true', Bool.or_eq_false_iff] at hhead
    simp only [isLabelCharacter, Bool.not_eq_true', Bool.or_eq_false_iff, beq_eq_false_iff_ne]
    exact ⟨⟨hhead.1, hother⟩, beq_eq_false_iff_ne.mp hhead.2⟩
  have hdeclares : HasDeclaration (s₁.dropWhile isBlank ++ more) := by
    rw [hs₁, hs₂, hs₃]
    simpa only [List.append_assoc, List.cons_append, List.nil_append] using
      hasDeclaration_intro (t := label ++ rest ++ more) hspelled hblanks hblanks' hc
  have hsuffix := (List.dropWhile_suffix isBlank (l := s₁)).trans (strip?_suffix hsemicolon)
  obtain ⟨w, hw⟩ := hsuffix
  exact hdeclares.of_suffix ⟨w, by rw [← List.append_assoc, hw]⟩

/-- What stands behind a word, an equals sign and the quote that a value may begin with. -/
theorem value_suffix {word s s₁ s₂ : List Char} (hword : stripWord? word s = some s₁)
    (hequals : strip? ['='] (s₁.dropWhile isBlank) = some s₂) :
    withoutQuote (s₂.dropWhile isBlank) <:+ s :=
  (withoutQuote_suffix _).trans <| (List.dropWhile_suffix isBlank).trans <|
    (strip?_suffix hequals).trans <| (List.dropWhile_suffix isBlank).trans (stripWord?_suffix hword)

theorem hasDeclaration_of_contentLabel? {s label : List Char} (h : contentLabel? s = some label)
    (hslash : label.head? ≠ some '/') : HasDeclaration s := by
  obtain ⟨s₁, hword, hbehind⟩ := Option.bind_eq_some_iff.mp h
  obtain ⟨s₂, hequals, hcontent⟩ := Option.bind_eq_some_iff.mp hbehind
  obtain ⟨before, t, htake, hread, -⟩ := (readLast?_eq_some rfl).mp hcontent
  obtain ⟨more, hmore⟩ := List.takeWhile_prefix (l := withoutQuote (s₂.dropWhile isBlank))
    fun c => !(isQuote c || c == '>')
  rw [htake, List.append_assoc] at hmore
  have hdeclares := hasDeclaration_of_parameterLabel? hread hslash more
  exact hdeclares.of_suffix (.trans ⟨before, hmore⟩ (value_suffix hword hequals))

theorem hasDeclaration_of_contentTypeHere? {s label : List Char}
    (h : contentTypeHere? s = some label) (hslash : label.head? ≠ some '/') : HasDeclaration s := by
  obtain ⟨s₁, hword, hbehind⟩ := Option.bind_eq_some_iff.mp h
  obtain ⟨s₂, hequals, hvalue⟩ := Option.bind_eq_some_iff.mp hbehind
  obtain ⟨s₃, htype, hcontent⟩ := Option.bind_eq_some_iff.mp hvalue
  obtain ⟨before, t, ht, hread, -⟩ := (readLast?_eq_some rfl).mp hcontent
  have hdeclares : HasDeclaration (s₃.drop 1) :=
    (hasDeclaration_of_contentLabel? hread hslash).of_suffix ⟨before, ht.symm⟩
  exact hdeclares.of_suffix <|
    (List.drop_suffix 1 s₃).trans ((stripWord?_suffix htype).trans (value_suffix hword hequals))

/-- A content type gives a label that begins with a slash, or the head has another declaration. -/
theorem head?_of_contentTypeLabel? {s label : List Char} (h : contentTypeLabel? s = some label)
    (hnone : declaredLabel? s = none) : label.head? = some '/' := by
  by_contra hlabel
  obtain ⟨before, t, hs, hread, -⟩ := (readFirst?_eq_some (insideMeta?_nil _)).mp h
  obtain ⟨name, c, inside, rest, rfl, hname, hinside, hrest, hlast⟩ := insideMeta?_eq_some.mp hread
  obtain ⟨u, v, hinsideuv, hfound, -⟩ := (readLast?_eq_some rfl).mp hlast
  have hdeclares : HasDeclaration inside :=
    (hasDeclaration_of_contentTypeHere? hfound hlabel).of_suffix ⟨u, hinsideuv.symm⟩
  obtain ⟨u', v', label', hinside', hdeclaration⟩ := hdeclares
  have hmeta := (readFirst?_eq_none (insideMeta?_nil labelHere?)).mp hnone before _ hs
  cases hlabels : readLast? labelHere? inside with
  | none =>
    rw [readLast?_eq_none (labelHere?_eq_none.mpr not_declaration_nil)] at hlabels
    exact labelHere?_eq_none.mp (hlabels u' v' hinside') label' hdeclaration
  | some found =>
    rw [insideMeta?_eq_some.mpr ⟨name, c, inside, rest, rfl, hname, hinside, hrest, hlabels⟩] at hmeta
    cases hmeta

/-- No charset has a label that begins with a slash. -/
theorem ofLabel?_slash (label : List Char) : ofLabel? ('/' :: label) = none := by
  have hlabels : all.all (fun charset => charset.labels.all fun label =>
      label.toList.head? != some '/') = true := by decide +kernel
  refine List.find?_eq_none.mpr fun charset hcharset hmem => ?_
  have hhead := List.all_eq_true.mp (List.all_eq_true.mp hlabels charset hcharset) _
    (List.contains_iff_mem.mp hmem)
  rw [String.toList_ofList, bne_iff_ne] at hhead
  exact hhead rfl

/-- What a content type declares changes no charset. -/
theorem declared_eq (page : List UInt8) :
    declared page = ((declaredLabel? (headText page)).bind ofLabel?).getD .utf8 := by
  unfold declared
  cases hdeclared : declaredLabel? (headText page) with
  | some label => rfl
  | none =>
    rw [Option.none_or]
    cases hcontent : contentTypeLabel? (headText page) with
    | none => rfl
    | some label =>
      obtain ⟨rest, rfl⟩ := List.head?_eq_some_iff.mp (head?_of_contentTypeLabel? hcontent hdeclared)
      rw [Option.bind_some, ofLabel?_slash]
      rfl

/-! ### UTF-16 -/

theorem marked?_eq_none {page : List UInt8} (h : ∀ mark ∈ byteOrderMarks, ¬ mark.1 <+: page) :
    marked? page = none := by
  refine List.findSome?_eq_none_iff.mpr fun mark hmark => ?_
  rw [Option.map_eq_none_iff, ← Option.not_isSome_iff_eq_none, isSome_strip?]
  exact h mark hmark

/-- A label names UTF-16 just where the table lists it, in any letter case. -/
theorem ofLabel?_eq_utf16 {label : List Char} {order : ByteOrder} :
    ofLabel? label = some (.utf16 order) ↔
      String.ofList (lowercase label) ∈ (Charset.utf16 order).labels := by
  constructor
  · intro h
    have hfound : all.find? (fun charset =>
        charset.labels.contains (String.ofList (lowercase label))) = some (.utf16 order) := h
    have hlists := List.find?_some hfound
    exact List.contains_iff_mem.mp hlists
  · intro h
    have hlabels : ∀ label ∈ (Charset.utf16 order).labels,
        all.find? (·.labels.contains label) = some (.utf16 order) := by
      cases order <;> decide +kernel
    exact hlabels _ h

/-- **Pages in UTF-16.** A page without a byte order mark is read as UTF-16 just where its head declares
a label that names it: what a page declares is trusted, whatever it is. -/
theorem ofPage_eq_utf16_iff {page : List UInt8}
    (hmark : ∀ mark ∈ byteOrderMarks, ¬ mark.1 <+: page) (order : ByteOrder) :
    ofPage page = .utf16 order ↔
      ∃ label, Declares label (headText page) ∧
        String.ofList (lowercase label) ∈ (Charset.utf16 order).labels := by
  simp only [← declaredLabel?_eq_some, ← ofLabel?_eq_utf16]
  rw [ofPage, marked?_eq_none hmark]
  dsimp only
  rw [declared_eq]
  constructor
  · intro h
    cases hfound : (declaredLabel? (headText page)).bind ofLabel? with
    | none =>
      rw [hfound] at h
      cases h
    | some charset =>
      rw [hfound] at h
      obtain ⟨label, hlabel, hnames⟩ := Option.bind_eq_some_iff.mp hfound
      obtain rfl : charset = .utf16 order := h
      exact ⟨label, hlabel, hnames⟩
  · rintro ⟨label, hlabel, hnames⟩
    rw [hlabel, Option.bind_some, hnames]
    rfl

/-- A page that is written in single bytes and declares itself UTF-16. -/
theorem utf16_declared_in_bytes :
    let page := utf8Bytes "<meta charset=\"utf-16\">"
    (∀ mark ∈ byteOrderMarks, ¬ mark.1 <+: page) ∧ ofPage page = .utf16 .littleEndian := by
  decide +kernel

/-- A label that names the other order, in other letters. -/
theorem utf16_of_content_type :
    let page := utf8Bytes "<META content='text/html; charset = UTF-16BE'>"
    (∀ mark ∈ byteOrderMarks, ¬ mark.1 <+: page) ∧
      ∃ label, Declares label (headText page) ∧
        String.ofList (lowercase label) ∈ (Charset.utf16 .bigEndian).labels := by
  intro page
  have hmark : ∀ mark ∈ byteOrderMarks, ¬ mark.1 <+: page := by decide +kernel
  have hcharset : ofPage page = .utf16 .bigEndian := by decide +kernel
  exact ⟨hmark, (ofPage_eq_utf16_iff hmark .bigEndian).mp hcharset⟩

end Imageboard.Charset
