import Imageboard.Locator
import Imageboard.Proofs.Markup.Written

/-! The schemes of the addresses that links lead to.

A link is read after blanks and controls around it, and tabs and line breaks anywhere in it, are
dropped, and its scheme counts in any letter case. `scheme_of_resolved`: an address with a scheme
that leads to no page comes of just those links that spell such a scheme, read in this way; the
links that are written plainly are not among them. -/
namespace Imageboard
open Address Markup Text

/-! ### What is read as a scheme -/

namespace Url

/-- The scheme that a text writes, if it writes one. -/
def writtenScheme? (text : String) : Option String := (readScheme? (clean text.toList)).map (·.1)

theorem isSchemeCharacter_toLower (c : Char) :
    isSchemeCharacter c.toLower = isSchemeCharacter c := by
  cases hc : c.isUpper with
  | true => simp [isSchemeCharacter, Char.isAlphanum, isAlpha_eq, hc, isLower_toLower hc]
  | false => rw [toLower_of_not_isUpper hc]

theorem eq_colon_of_toLower {c : Char} (h : c.toLower = ':') : c = ':' := by
  cases hc : c.isUpper with
  | true =>
    have := isLower_toLower hc
    rw [h] at this
    cases this
  | false => rwa [toLower_of_not_isUpper hc] at h

/-- A name that a scheme may have. -/
structure PlainScheme (name : List Char) : Prop where
  initial : ∃ c, name.head? = some c ∧ c.isAlpha = true
  characters : ∀ c ∈ name, isSchemeCharacter c = true

/-- A text writes a scheme where it begins with the name, in any letter case, and a colon. -/
theorem readScheme?_iff {name : List Char} (hname : PlainScheme name) (s : List Char) :
    (readScheme? s).map (·.1) = some (String.ofList name) ↔
      ∃ rest, lowercase s = name ++ ':' :: rest := by
  unfold readScheme?
  constructor
  · intro h
    obtain ⟨⟨scheme, rest⟩, hread, rfl⟩ := Option.map_eq_some_iff.mp h
    split at hread
    · rename_i c rest' hhead hdrop
      split at hread
      · obtain ⟨hscheme, rfl⟩ := Prod.mk.inj (Option.some.inj hread)
        refine ⟨lowercase rest', ?_⟩
        have hlower : lowercase (s.takeWhile isSchemeCharacter) = name :=
          String.ofList_injective hscheme
        have hs : s = s.takeWhile isSchemeCharacter ++ ':' :: rest' := by
          rw [← hdrop, List.takeWhile_append_dropWhile]
        rw [hs, lowercase_append, hlower]
        rfl
      · cases hread
    · cases hread
  · rintro ⟨rest, hrest⟩
    -- The letters of the text are those of the name but for their case.
    obtain ⟨lead, tail, rfl, hlead, htail⟩ := List.map_eq_append_iff.mp hrest
    obtain ⟨colon, behind, rfl, hcolon, -⟩ := List.map_eq_cons_iff.mp htail
    obtain rfl := eq_colon_of_toLower hcolon
    have hall : ∀ c ∈ lead, isSchemeCharacter c = true := by
      intro c hc
      rw [← isSchemeCharacter_toLower]
      exact hname.characters _ (hlead ▸ List.mem_map_of_mem hc)
    obtain ⟨first, hfirst, halpha⟩ := hname.initial
    cases lead with
    | nil =>
      rw [← hlead] at hfirst
      cases hfirst
    | cons c lead =>
      have hc : c.isAlpha = true := by
        rw [← hlead] at hfirst
        obtain rfl : c.toLower = first := Option.some.inj hfirst
        rwa [isAlpha_toLower] at halpha
      rw [takeWhile_stop hall rfl, dropWhile_stop hall rfl]
      show ((if c.isAlpha = true then _ else none : Option (String × List Char)).map (·.1)) = _
      rw [if_pos hc]
      exact congrArg (some ∘ String.ofList) hlead

/-! ### The scheme of an address that is read -/

variable {scheme : String} {s : List Char} {u : Url}

theorem eq_ok_of_bind {x : Except ε α} {f : α → Except ε β} {b : β} (h : x >>= f = .ok b) :
    ∃ a, x = .ok a ∧ f a = .ok b := by
  cases x with
  | error e => cases h
  | ok a => exact ⟨a, rfl, h⟩

theorem readFromAuthority_scheme (h : readFromAuthority scheme s = .ok u) : u.scheme = scheme := by
  obtain ⟨⟨authority, rest⟩, -, h⟩ := eq_ok_of_bind h
  obtain rfl := Except.ok.inj h
  rfl

theorem readOther_scheme (h : readOther scheme s = .ok u) : u.scheme = scheme := by
  unfold readOther at h
  split at h
  · exact readFromAuthority_scheme h
  all_goals
    obtain rfl := Except.ok.inj h
    rfl

theorem readFileHost_scheme (h : readFileHost s = .ok u) : u.scheme = "file" := by
  unfold readFileHost at h
  dsimp only at h
  split at h
  · obtain rfl := Except.ok.inj h
    rfl
  · split at h
    all_goals
      obtain ⟨host, -, h⟩ := eq_ok_of_bind h
      split at h
      all_goals
        obtain rfl := Except.ok.inj h
        rfl

theorem readFile_scheme (h : readFile s = .ok u) : u.scheme = "file" := by
  unfold readFile at h
  dsimp only at h
  split at h
  · split at h
    · exact readFileHost_scheme h
    · obtain rfl := Except.ok.inj h
      rfl
  · obtain rfl := Except.ok.inj h
    rfl

theorem readRelative_scheme {base : Url} (h : readRelative base s = .ok u) :
    u.scheme = base.scheme := by
  unfold readRelative at h
  dsimp only at h
  split at h
  · obtain rfl := Except.ok.inj h
    rfl
  · obtain rfl := Except.ok.inj h
    rfl
  · obtain rfl := Except.ok.inj h
    rfl
  · exact readFromAuthority_scheme h
  · split at h
    · split at h
      · exact readFromAuthority_scheme h
      · obtain rfl := Except.ok.inj h
        rfl
    · obtain rfl := Except.ok.inj h
      rfl

/-- An address has the scheme that its text writes, and that of the base where it writes none. -/
theorem read_scheme {base : Url} {text : String} (h : read (some base) text = .ok u) :
    u.scheme = (writtenScheme? text).getD base.scheme := by
  unfold read at h
  unfold writtenScheme?
  generalize clean text.toList = s at h ⊢
  cases hs : readScheme? s with
  | none =>
    simp only [hs] at h
    exact readRelative_scheme h
  | some found =>
    obtain ⟨scheme, rest⟩ := found
    simp only [hs] at h
    show u.scheme = scheme
    split at h
    · rename_i hfile
      rw [readFile_scheme h]
      exact (eq_of_beq hfile).symm
    · split at h
      · split at h
        · rename_i hsame
          rw [readRelative_scheme h]
          simp only [Bool.and_eq_true, beq_iff_eq] at hsame
          exact hsame.2
        · exact readFromAuthority_scheme h
      · exact readOther_scheme h

end Url
open Url

/-! ### Links that lead to no page -/

namespace Locator

/-- The link as it is read: in small letters, and without what reading drops. -/
def asRead (link : String) : String :=
  String.ofList (lowercase (clean (trim link.toList)))

/-- A link that is written plainly up to its first colon: without capitals, spaces and controls. -/
def WrittenPlainly (link : String) : Prop :=
  ∀ c ∈ (trim link.toList).takeWhile (· != ':'), c.isUpper = false ∧ isEdge c = false

theorem resolve?_eq_some {l : Locator} {link : String} {u : Url} (h : l.resolve? link = some u) :
    (∀ lead ∈ deadLinks, startsWith lead (trimmed link) = false) ∧
      read (some l.base) (trimmed link) = .ok u := by
  unfold resolve? at h
  dsimp only at h
  split at h
  · cases h
  · rename_i hno
    simp only [Bool.or_eq_true, not_or, List.any_eq_true, not_exists, not_and, Bool.not_eq_true] at hno
    refine ⟨hno.2, ?_⟩
    cases hread : read (some l.base) (trimmed link) with
    | error e =>
      rw [hread] at h
      cases h
    | ok v =>
      rw [hread] at h
      obtain rfl := Option.some.inj h
      rfl

/-- Reading a link leaves what is written plainly as it is. -/
theorem clean_plain {lead : List Char} (h : ∀ c ∈ lead, isEdge c = false) (rest : List Char) :
    ∃ rest', clean (lead ++ ':' :: rest) = lead ++ ':' :: rest' := by
  have hfront : (lead ++ ':' :: rest).dropWhile isEdge = lead ++ ':' :: rest := by
    cases lead with
    | nil => rfl
    | cons c lead => exact List.dropWhile_cons_of_neg (by simp [h c List.mem_cons_self])
  have hback : ∃ middle, (lead ++ ':' :: rest).reverse.dropWhile isEdge =
      middle ++ ':' :: lead.reverse := by
    rw [List.reverse_append, List.reverse_cons, List.append_assoc, List.dropWhile_append]
    split
    · exact ⟨[], rfl⟩
    · exact ⟨_, rfl⟩
  obtain ⟨middle, hback⟩ := hback
  have hkept : lead.filter (fun c => !isLineSpace c) = lead := by
    refine List.filter_eq_self.mpr fun c hc => ?_
    have hline : isLineSpace c = false := by
      have hedge := h c hc
      simp only [isLineSpace, Bool.or_eq_false_iff, beq_eq_false_iff_ne]
      refine ⟨⟨?_, ?_⟩, ?_⟩
      all_goals
        rintro rfl
        cases hedge
    rw [hline]
    rfl
  refine ⟨middle.reverse.filter fun c => !isLineSpace c, ?_⟩
  unfold clean
  rw [hfront, hback, List.reverse_append, List.reverse_cons, List.reverse_reverse,
    List.append_assoc, List.filter_append, hkept]
  rfl

theorem mem_of_mem_clean {c : Char} {s : List Char} (h : c ∈ clean s) : c ∈ s := by
  have hback := List.mem_reverse.mp (List.mem_filter.mp h).1
  have hfront := List.mem_reverse.mp ((List.dropWhile_sublist _).mem hback)
  exact (List.dropWhile_sublist _).mem hfront

/-- A plain link that reads as one with the scheme of a name begins with that name itself. -/
theorem startsWith_of_plain {link : String} (h : WrittenPlainly link) (name : String)
    (hname : ':' ∉ name.toList) (hread : startsWith (name ++ ":") (asRead link) = true) :
    startsWith (name ++ ":") (trimmed link) = true := by
  have hno {s : List Char} (hs : ':' ∉ s) : ∀ c ∈ s, (c != ':') = true :=
    fun c hc => bne_iff_ne.mpr fun he => hs (he ▸ hc)
  obtain ⟨behind, hbehind⟩ := startsWith_iff.mp hread
  have hname' : name.toList ++ ':' :: behind = lowercase (clean (trim link.toList)) := by
    simpa [asRead] using hbehind.symm
  have hcolon : ':' ∈ trim link.toList := by
    have hmem : ':' ∈ lowercase (clean (trim link.toList)) := by simp [← hname']
    obtain ⟨c, hc, hlower⟩ := List.mem_map.mp hmem
    obtain rfl := eq_colon_of_toLower hlower
    exact mem_of_mem_clean hc
  obtain ⟨lead, rest, hsplit, hlead⟩ := List.eq_append_cons_of_mem hcolon
  unfold WrittenPlainly at h
  rw [hsplit, takeWhile_stop (hno hlead) rfl] at h
  obtain ⟨rest', hclean⟩ := clean_plain (fun c hc => (h c hc).2) rest
  rw [hsplit, hclean, lowercase_append, lowercase_of_not_isUpper fun c hc => (h c hc).1] at hname'
  have hsame : name.toList = lead := by
    have htake := congrArg (List.takeWhile (· != ':')) hname'
    rwa [takeWhile_stop (hno hname) rfl, show lowercase (':' :: rest') = ':' :: lowercase rest' from rfl,
      takeWhile_stop (hno hlead) rfl] at htake
  refine startsWith_iff.mpr ⟨rest, ?_⟩
  simp [trimmed, hsplit, hsame]

theorem plainScheme_javascript : PlainScheme "javascript".toList :=
  ⟨⟨'j', rfl, rfl⟩, List.all_eq_true.mp rfl⟩

theorem plainScheme_data : PlainScheme "data".toList :=
  ⟨⟨'d', rfl, rfl⟩, List.all_eq_true.mp rfl⟩

/-- An address has the scheme of a name, other than that of the site, just where its link reads as
one with it. -/
theorem scheme_eq_iff {l : Locator} {link : String} {u : Url} (h : l.resolve? link = some u)
    {name : String} (hname : PlainScheme name.toList) (hbase : l.base.scheme ≠ name) :
    u.scheme = name ↔ startsWith (name ++ ":") (asRead link) = true := by
  have hscheme := read_scheme (resolve?_eq_some h).2
  have hwritten : writtenScheme? (trimmed link) = some name ↔
      startsWith (name ++ ":") (asRead link) = true := by
    have hread := readScheme?_iff hname (clean (trim link.toList))
    rw [String.ofList_toList] at hread
    rw [startsWith_iff, asRead, writtenScheme?, trimmed, String.toList_ofList, String.toList_ofList,
      hread, String.toList_append]
    simp
  rw [← hwritten, hscheme]
  cases writtenScheme? (trimmed link) with
  | none => simpa using hbase
  | some scheme => simp

/-- **An address that leads to no page comes of a link in disguise.** The scheme of an address is
`javascript` or `data` just where its link, once blanks, controls and capitals do not count, begins
with one of them and a colon, although as it is written it does not. No link that is written plainly
leads to such an address. -/
theorem scheme_of_resolved {l : Locator} {link : String} {u : Url} (h : l.resolve? link = some u) :
    ((u.scheme = "javascript" ∨ u.scheme = "data") ↔
      ∃ lead ∈ deadLinks, startsWith lead (asRead link) = true ∧
        startsWith lead (trimmed link) = false) ∧
      (WrittenPlainly link → u.scheme ≠ "javascript" ∧ u.scheme ≠ "data") := by
  have hbase (name : String) (hhttp : "http" ≠ name) (hhttps : "https" ≠ name) :
      l.base.scheme ≠ name := by
    rcases l.web with hweb | hweb
    · rwa [hweb]
    · rwa [hweb]
  have hraw := (resolve?_eq_some h).1
  have hjavascript : u.scheme = "javascript" ↔ startsWith "javascript:" (asRead link) = true :=
    scheme_eq_iff h plainScheme_javascript (hbase _ (by decide) (by decide))
  have hdata : u.scheme = "data" ↔ startsWith "data:" (asRead link) = true :=
    scheme_eq_iff h plainScheme_data (hbase _ (by decide) (by decide))
  refine ⟨⟨?disguised, ?dead⟩, fun hplain => ⟨fun hu => ?javascript, fun hu => ?data⟩⟩
  case disguised =>
    rintro (hu | hu)
    · exact ⟨_, List.mem_cons_self, hjavascript.mp hu, hraw _ List.mem_cons_self⟩
    · have hmem : "data:" ∈ deadLinks := List.mem_cons_of_mem _ List.mem_cons_self
      exact ⟨_, hmem, hdata.mp hu, hraw _ hmem⟩
  case dead =>
    rintro ⟨lead, hlead, hread, -⟩
    simp only [deadLinks, List.mem_cons, List.not_mem_nil, or_false] at hlead
    obtain rfl | rfl := hlead
    · exact .inl (hjavascript.mpr hread)
    · exact .inr (hdata.mpr hread)
  case javascript =>
    have hwritten : startsWith "javascript:" (trimmed link) = true :=
      startsWith_of_plain hplain "javascript" (by decide) (hjavascript.mp hu)
    rw [hraw _ List.mem_cons_self] at hwritten
    cases hwritten
  case data =>
    have hwritten : startsWith "data:" (trimmed link) = true :=
      startsWith_of_plain hplain "data" (by decide) (hdata.mp hu)
    rw [hraw _ (List.mem_cons_of_mem _ List.mem_cons_self)] at hwritten
    cases hwritten

/-- A plain link to a picture on the site. -/
theorem scheme_of_picture :
    let l : Locator :=
      ⟨⟨"https", some ⟨"", "", "board.example", none⟩, .segments [""], none, none⟩, .inr rfl⟩
    ∃ u, l.resolve? " src/1.jpg " = some u ∧ WrittenPlainly " src/1.jpg " ∧
      u.scheme ≠ "javascript" ∧ u.scheme ≠ "data" := by
  intro l
  have hresolved : l.resolve? " src/1.jpg " =
      some ⟨"https", some ⟨"", "", "board.example", none⟩, .segments ["src", "1.jpg"], none, none⟩ := by
    decide +kernel
  have hplain : WrittenPlainly " src/1.jpg " := by
    have hall : ((trim " src/1.jpg ".toList).takeWhile (· != ':')).all
        (fun c => !c.isUpper && !isEdge c) = true := by decide +kernel
    exact fun c hc => by simpa using List.all_eq_true.mp hall c hc
  exact ⟨_, hresolved, hplain, (scheme_of_resolved hresolved).2 hplain⟩

/-- Capitals or a tab in the name of a scheme get past the look at the link as it is written. -/
theorem resolved_in_disguise :
    let l : Locator :=
      ⟨⟨"https", some ⟨"", "", "board.example", none⟩, .segments [""], none, none⟩, .inr rfl⟩
    (l.resolve? "JavaScript:alert(1)").map (·.text) = some "javascript:alert(1)" ∧
      (l.resolve? "da\tta:,x").map (·.scheme) = some "data" := by
  decide +kernel

end Locator

end Imageboard
