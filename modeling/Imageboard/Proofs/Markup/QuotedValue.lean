import Imageboard.Proofs.Markup.Attributes
import Imageboard.Proofs.Markup.Edited

/-! Another value between the quotes of an attribute.

`ReadsUpTo` follows the reader of attributes through a tag, up to the key that is looked at: nothing
that it reads on the way depends on what stands behind that key, since a value whose quote is looked
for in vain ends at the end of the tag. So a tag with another value between the quotes is read up to
the same place, and its other attributes are the same: `QuotedValue.read`. -/
namespace Imageboard
open Lexeme Markup Text

/-! ### Attributes that agree but for one -/

namespace Attributes

/-- The same values at all keys but one. -/
def AgreeBut (key : String) (a b : Attributes) : Prop := ∀ k, k ≠ key → b.get? k = a.get? k

variable {a b : Attributes} {key : String}

/-- A key that is there keeps its value. -/
theorem AgreeBut.insert (h : AgreeBut key a b) (k value : String) :
    AgreeBut key (a.insert k value) (b.insert k value) := by
  intro j hj
  rw [get?_insert, get?_insert, h j hj]

theorem agreeBut_insert (a : Attributes) (key value value' : String) :
    AgreeBut key (a.insert key value) (a.insert key value') := by
  intro j hj
  rw [get?_insert, get?_insert, if_neg hj.symm, if_neg hj.symm]

end Attributes

namespace Markup

theorem readAttributes_agree (o : Options) {key : String} {earlier other : Attributes}
    (h : earlier.AgreeBut key other) (s : List Char) :
    (readAttributes o earlier s).1.attributes.AgreeBut key (readAttributes o other s).1.attributes ∧
      (readAttributes o other s).1.selfClosing = (readAttributes o earlier s).1.selfClosing := by
  fun_induction readAttributes o earlier s generalizing other with
  | case1 earlier s hd => rw [readAttributes_cut_off hd]; exact ⟨h, rfl⟩
  | case2 earlier s rest hd => rw [readAttributes_end hd]; exact ⟨h, rfl⟩
  | case3 earlier s rest hd => rw [readAttributes_self_closing hd]; exact ⟨h, rfl⟩
  | case4 earlier s rest hne hd ih => rw [readAttributes_slash hd (head?_ne_gt hne)]; exact ih h
  | case5 earlier s rest hd ih => rw [readAttributes_stray hd]; exact ih h
  | case6 earlier s c rest hgt _ hslash heq hd =>
    rename_i ih
    rw [readAttributes_key hd hgt hslash heq]
    exact ih (h.insert _ _)

/-! ### Up to a key -/

/-- Reading the attributes at a text, the reader comes to the text `t` and goes on there. -/
inductive ReadsUpTo (t : List Char) : List Char → Prop
  | here : ReadsUpTo t t
  | space {c : Char} {s : List Char} (hc : isSpace c = true) (h : ReadsUpTo t s) :
    ReadsUpTo t (c :: s)
  | slash {s : List Char} (hs : s.head? ≠ some '>') (h : ReadsUpTo t s) : ReadsUpTo t ('/' :: s)
  | stray {s : List Char} (h : ReadsUpTo t s) : ReadsUpTo t ('=' :: s)
  | key {c : Char} {s : List Char} (hc : isKeyCharacter c = true)
    (h : ReadsUpTo t (readAssignment (s.dropWhile isKeyCharacter)).2) : ReadsUpTo t (c :: s)

theorem isKeyCharacter_iff {c : Char} :
    isKeyCharacter c = true ↔ isSpace c = false ∧ c ≠ '=' ∧ c ≠ '>' ∧ c ≠ '/' := by
  simp [isKeyCharacter, and_assoc]

/-- Nothing is read behind the end of a tag. -/
theorem ReadsUpTo.head {d : Char} {t s : List Char} (hd : d ≠ '>') (h : ReadsUpTo (d :: t) s) :
    ∃ c r, s = c :: r ∧ c ≠ '>' := by
  cases h with
  | here => exact ⟨d, t, rfl, hd⟩
  | space hc _ =>
    refine ⟨_, _, rfl, ?_⟩
    rintro rfl
    cases hc
  | slash => exact ⟨'/', _, rfl, by decide⟩
  | stray => exact ⟨'=', _, rfl, by decide⟩
  | key hc _ => exact ⟨_, _, rfl, (isKeyCharacter_iff.mp hc).2.2.1⟩

/-- What the reader comes to is what the text ends with. -/
theorem ReadsUpTo.isSuffix {t s : List Char} (h : ReadsUpTo t s) : t <:+ s := by
  induction h with
  | here => exact List.suffix_refl t
  | space _ _ ih => exact ih.trans (List.suffix_cons _ _)
  | slash _ _ ih => exact ih.trans (List.suffix_cons _ _)
  | stray _ ih => exact ih.trans (List.suffix_cons _ _)
  | key _ _ ih =>
    exact ih.trans ((readAssignment_isSuffix _).trans
      ((dropWhile_isSuffix _ _).trans (List.suffix_cons _ _)))

/-- With another text behind the beginning of a key, the reader comes to the same place and has
read the same. -/
theorem ReadsUpTo.read {d : Char} {t s : List Char} (hd : isKeyCharacter d = true)
    (h : ReadsUpTo (d :: t) s) (o : Options) (earlier : Attributes) :
    ∃ x read, s = x ++ d :: t ∧
      ∀ u, readAttributes o earlier (x ++ d :: u) = readAttributes o read (d :: u) := by
  have hgt : d ≠ '>' := (isKeyCharacter_iff.mp hd).2.2.1
  induction h generalizing earlier with
  | here => exact ⟨[], earlier, rfl, fun _ => rfl⟩
  | space hc h ih =>
    obtain ⟨x, read, rfl, hread⟩ := ih earlier
    exact ⟨_ :: x, read, rfl, fun u => (readAttributes_space hc _).trans (hread u)⟩
  | slash hs h ih =>
    obtain ⟨x, read, rfl, hread⟩ := ih earlier
    refine ⟨'/' :: x, read, rfl, fun u => ?_⟩
    rw [← hread u]
    refine readAttributes_slash (List.dropWhile_cons_of_neg (by decide)) ?_
    cases x with
    | nil => simpa using hgt
    | cons c x => exact hs
  | stray h ih =>
    obtain ⟨x, read, rfl, hread⟩ := ih earlier
    refine ⟨'=' :: x, read, rfl, fun u => ?_⟩
    rw [← hread u]
    exact readAttributes_stray (List.dropWhile_cons_of_neg (by decide))
  | @key c s hc h ih =>
    obtain ⟨hspace, heq, hgt', hslash⟩ := isKeyCharacter_iff.mp hc
    have hrest := h.isSuffix
    obtain ⟨x, read, hx, hread⟩ := ih (earlier.insert
      (String.ofList (lowercase (c :: s.takeWhile isKeyCharacter)))
      (attributeValue o (readAssignment (s.dropWhile isKeyCharacter)).1))
    obtain ⟨k, hk⟩ := ends_of_isSuffix (r := []) (hrest.trans (readAssignment_isSuffix _))
    obtain ⟨m, rfl⟩ := ends_of_isSuffix (r := []) (hrest.trans
      ((readAssignment_isSuffix _).trans (dropWhile_isSuffix _ _)))
    refine ⟨c :: m, read, rfl, fun u => ?_⟩
    have hu : Follows (d :: t) (d :: u) := .inr rfl
    obtain ⟨hdrop, htake⟩ := dropWhile_of_append hu hk
    have hopen : ∃ e q, x ++ d :: t = e :: q ∧ e ≠ '>' := by
      rw [← hx]
      exact h.head hgt
    have hassign := readAssignment_of_append hu (.inr hopen) (Prod.ext rfl (hk ▸ hx))
    have hskip : (c :: (m ++ d :: u)).dropWhile isSpace = c :: (m ++ d :: u) :=
      List.dropWhile_cons_of_neg (by simp [hspace])
    rw [← hread u, List.cons_append, readAttributes_key hskip hgt' hslash heq, hdrop, hassign,
      ← htake, hk]

/-- Behind a run of attributes with values the reader is at its end. -/
theorem AttributeRun.readsUpTo {s : List Char} (h : AttributeRun s) (t : List Char) :
    ReadsUpTo t (s ++ t) := by
  have hassigned {key assigned : List Char} (hkey : IsKey key)
      (h : ReadsUpTo t (readValue (assigned.dropWhile isSpace)).2) :
      ReadsUpTo t (key ++ '=' :: assigned) := by
    obtain ⟨c, k, rfl⟩ := List.exists_cons_of_ne_nil hkey.1
    refine .key (hkey.2 c List.mem_cons_self) ?_
    have hk : ∀ d ∈ k, isKeyCharacter d = true := fun d hd => hkey.2 d (List.mem_cons_of_mem c hd)
    rw [List.append_eq, dropWhile_stop hk rfl]
    exact h
  induction h with
  | nil => exact .here
  | space hc _ ih => exact .space hc ih
  | @quoted key value s quote hkey hquote hvalue _ ih =>
    have hspace : isSpace quote = false := by rcases hquote with rfl | rfl <;> rfl
    simp only [List.append_assoc, List.cons_append]
    refine hassigned hkey ?_
    rwa [List.dropWhile_cons_of_neg (by simp [hspace]), readValue_quoted hquote hvalue]
  | @unquoted key value s space hkey hne hquote hvalue hspace _ ih =>
    simp only [List.append_assoc, List.cons_append]
    refine hassigned hkey ?_
    rw [readValue_unquoted hne hquote hvalue hspace]
    exact .space hspace ih

/-! ### The value -/

/-- A key with an `=` and perhaps spaces behind it, and the quote in front of its value. -/
def assignedTo (written gap gap' text : List Char) : List Char :=
  written ++ (gap ++ '=' :: (gap' ++ '"' :: text))

theorem readAttributes_assignedTo {o : Options} {earlier : Attributes}
    {written gap gap' value : List Char} (hwritten : IsKey written)
    (hgap : ∀ c ∈ gap, isSpace c = true) (hgap' : ∀ c ∈ gap', isSpace c = true)
    (hvalue : '"' ∉ value) (rest : List Char) :
    readAttributes o earlier (assignedTo written gap gap' (value ++ '"' :: rest)) =
      readAttributes o
        (earlier.insert (String.ofList (lowercase written)) (attributeValue o value)) rest := by
  have hassign : readAssignment (gap ++ '=' :: (gap' ++ '"' :: (value ++ '"' :: rest))) =
      (value, rest) := by
    unfold readAssignment
    rw [dropWhile_stop hgap rfl]
    show readValue ((gap' ++ '"' :: (value ++ '"' :: rest)).dropWhile isSpace) = _
    rw [dropWhile_stop hgap' rfl, readValue_quoted (.inl rfl) hvalue]
  unfold assignedTo
  refine readAttributes_keyed hwritten (fun c hc => ?_) hassign
  cases gap with
  | nil =>
    obtain rfl := Option.some.inj hc
    rfl
  | cons d gap =>
    obtain rfl := Option.some.inj hc
    simp [isKeyCharacter, hgap d List.mem_cons_self]

end Markup

/-- The text `lead ++ value ++ '"' :: rest` begins with a tag that has the value between double
quotes as that of `key`: reading the attributes of the tag, the reader comes to the key there. -/
structure QuotedValue (key : String) (lead value rest : List Char) : Prop where
  closed : '"' ∉ value
  read : ∃ opening written gap gap', lead = '<' :: (opening ++ assignedTo written gap gap' []) ∧
    IsKey written ∧ String.ofList (lowercase written) = key ∧
    (∀ c ∈ gap, isSpace c = true) ∧ (∀ c ∈ gap', isSpace c = true) ∧
    ReadsUpTo (assignedTo written gap gap' (value ++ '"' :: rest))
      ((opening ++ assignedTo written gap gap' (value ++ '"' :: rest)).dropWhile isNameCharacter)

/-- A key that is written behind other attributes, right in front of its `=` and its value. -/
theorem QuotedValue.ofRun {name run written value : List Char}
    (hname : ∀ c ∈ name, isNameCharacter c = true) {c : Char} (hc : isNameCharacter c = false)
    (hrun : AttributeRun (c :: run)) (hwritten : IsKey written) (hvalue : '"' ∉ value)
    (rest : List Char) :
    QuotedValue (String.ofList (lowercase written))
      ('<' :: (name ++ c :: run ++ (written ++ ['=', '"']))) value rest where
  closed := hvalue
  read := by
    refine ⟨name ++ c :: run, written, [], [], rfl, hwritten, rfl, by simp, by simp, ?_⟩
    rw [List.append_assoc, List.cons_append, dropWhile_stop hname hc, ← List.cons_append]
    exact hrun.readsUpTo _

/-- **With another value between the quotes the tag ends in the same place**, and its other
attributes are the same. -/
theorem QuotedValue.another {key : String} {lead value value' rest : List Char}
    (h : QuotedValue key lead value rest) (hvalue' : '"' ∉ value') (o : Options) :
    ∃ s s', lead ++ (value ++ '"' :: rest) = '<' :: s ∧ lead ++ (value' ++ '"' :: rest) = '<' :: s' ∧
      s'.head? = s.head? ∧ ∃ name attributes attributes' selfClosing behind,
        readOpenTag o s = (.openTag name attributes selfClosing, behind) ∧
        readOpenTag o s' = (.openTag name attributes' selfClosing, behind) ∧
        attributes.AgreeBut key attributes' := by
  obtain ⟨hvalue, opening, written, gap, gap', rfl, hwritten, rfl, hgap, hgap', hreads⟩ := h
  have hpage (v : List Char) : '<' :: (opening ++ assignedTo written gap gap' []) ++ v =
      '<' :: (opening ++ assignedTo written gap gap' v) := by
    simp [assignedTo]
  obtain ⟨d, w, rfl⟩ := List.exists_cons_of_ne_nil hwritten.1
  refine ⟨_, _, hpage _, hpage _, by cases opening <;> rfl, ?_⟩
  have hd : isKeyCharacter d = true := hwritten.2 d List.mem_cons_self
  obtain ⟨x, read, hx, hread⟩ := hreads.read hd o .empty
  let text (v : List Char) : List Char := assignedTo (d :: w) gap gap' (v ++ '"' :: rest)
  let known (v : List Char) : Attributes :=
    read.insert (String.ofList (lowercase (d :: w))) (attributeValue o v)
  have hfollows : Follows (text value) (text value') := .inr rfl
  obtain ⟨hx', hname⟩ := dropWhile_of_append hfollows hx
  have htag (v : List Char) (hv : '"' ∉ v)
      (hdrop : (opening ++ text v).dropWhile isNameCharacter = x ++ text v) :
      readOpenTag o (opening ++ text v) =
        (.openTag (String.ofList (lowercase ((opening ++ text v).takeWhile isNameCharacter)))
          (readAttributes o (known v) rest).1.attributes
          (readAttributes o (known v) rest).1.selfClosing, (readAttributes o (known v) rest).2) := by
    have htail : readAttributes o .empty (x ++ text v) = readAttributes o (known v) rest :=
      (hread _).trans (readAttributes_assignedTo hwritten hgap hgap' hv rest)
    unfold readOpenTag
    rw [hdrop, htail]
  obtain ⟨hagree, hclosing⟩ := readAttributes_agree o
    (read.agreeBut_insert (String.ofList (lowercase (d :: w))) (attributeValue o value)
      (attributeValue o value')) rest
  refine ⟨_, _, _, _, _, htag value hvalue hx, ?_, hagree⟩
  rw [htag value' hvalue' hx', hclosing, readAttributes_rest (known value) (known value') rest,
    ← hname]

/-! ### Pages -/

/-- A tag of a page, between what stands in front of it and what stands behind it, each of them read
as a page of its own. -/
structure DividedBy (o : Options) (page front written behind : List Char) (token : Token) : Prop where
  page_eq : page = front ++ (written ++ behind)
  tokens_eq : tokens o page = tokens o front ++
    ⟨token, byteLength front, byteLength front + byteLength written⟩ ::
      (tokens o behind).map (Located.shifted (byteLength front + byteLength written))

section
variable {o : Options} {front b b' : List Char} {name : String} {attributes : Attributes}
  {selfClosing : Bool}

/-- In front of a tag, a page is read as if it ended there. -/
theorem lexemes_at_tag {before later : List Located} {tag : Located}
    (h : tokens o (front ++ b) = before ++ tag :: later)
    (htag : tag.token = .openTag name attributes selfClosing)
    (hstart : tag.start = byteLength front) :
    before = tokens o front ∧ lexemes o (front ++ b) = lexemes o front ++ lexemes o b ∧
      ∃ l ks, lexemes o b = l :: ks ∧ l.token = some (.openTag name attributes selfClosing) := by
  obtain ⟨left, ks, hsplit, hleft, -, l, hl, htoken⟩ := located_eq_append_cons h
  obtain ⟨ls, rfl⟩ := List.getLast?_eq_some_iff.mp hl
  rw [htag] at htoken
  rw [List.append_assoc, List.singleton_append] at hsplit
  rw [located_append, Nat.zero_add, located_cons, htoken] at hleft
  obtain ⟨hbefore, ht⟩ := List.append_inj' hleft rfl
  obtain ⟨hpage, htail⟩ := lexemes_from_tag hsplit htoken
  have hfront : ls.flatMap spelling = front := by
    have hlen : byteLength (ls.flatMap spelling) = byteLength front := by
      rw [← hstart, ← List.singleton_inj.mp ht]
    rw [← takeBytes_append (ls.flatMap spelling) (l.spelling ++ ks.flatMap spelling), ← hpage, hlen,
      takeBytes_append]
  rw [hfront] at hpage
  rw [← List.append_cancel_left hpage] at htail
  have hcut := (lexemes_cut hsplit hfront fun k t hk ht =>
    opensNoRawText_before_tag hsplit htoken hk ht).1
  refine ⟨?_, ?_, l, ks, htail, htoken⟩
  · rw [tokens, hcut, hbefore]
  · rw [hsplit, hcut, htail]

theorem dividedBy_of_lexemes {c : Char} {s behind : List Char} (hc : c.isAlpha = true)
    (h : lexemes o (front ++ '<' :: c :: s) = lexemes o front ++ lexemes o ('<' :: c :: s))
    (hread : readOpenTag o (c :: s) = (.openTag name attributes selfClosing, behind))
    (hraw : (Token.openTag name attributes selfClosing).opensRawText o = false) :
    DividedBy o (front ++ '<' :: c :: s) front (before ('<' :: c :: s) behind) behind
      (.openTag name attributes selfClosing) where
  page_eq := by
    have hsuffix : behind <:+ '<' :: c :: s := by
      have hrest := readOpenTag_isSuffix o (c :: s)
      rw [hread] at hrest
      exact hrest.trans (List.suffix_cons '<' _)
    rw [before_append hsuffix]
  tokens_eq := by
    rw [lexemes_openTag hc hread hraw] at h
    rw [tokens, h, located_append, lexemes_spelling, Nat.zero_add, located_cons]
    show _ ++ _ :: located (byteLength front + byteLength _ + 0) (lexemes o behind) = _
    rw [located_add]
    rfl

/-- Whether a page has a tag at byte `start`. -/
def HasTagAt (o : Options) (page : List Char) (start : Nat) : Prop :=
  ∃ t ∈ tokens o page, t.start = start ∧
    ∃ name attributes selfClosing, t.token = .openTag name attributes selfClosing

/-- A lexeme with a tag begins with a letter behind the `<`, and is what is read there. -/
theorem readOpenTag_of_lexemes {s : List Char} {l : Lexeme} {ks : List Lexeme}
    (h : lexemes o ('<' :: s) = l :: ks)
    (htoken : l.token = some (.openTag name attributes selfClosing)) :
    ∃ c t, s = c :: t ∧ c.isAlpha = true ∧
      (readOpenTag o s).1 = .openTag name attributes selfClosing := by
  obtain ⟨rfl, -⟩ := List.cons.inj ((lexemes_cons o '<' s).symm.trans h)
  obtain ⟨-, c, t, rfl, hc⟩ := first_tag htoken
  rw [first_openTag hc] at htoken
  exact ⟨c, t, rfl, hc, Option.some.inj htoken⟩

/-- A tag that goes on with another text leaves what stands in front of it: because no quote comes
with the text that has been looked for there, or because it is still read as a tag. -/
theorem lexemes_still_tag {c : Char} {t t' : List Char} (hc : c.isAlpha = true)
    (h : lexemes o (front ++ '<' :: c :: t) = lexemes o front ++ lexemes o ('<' :: c :: t))
    (hraw : ∀ l token, (lexemes o front).getLast? = some l → l.token = some token →
      token.opensRawText o = false)
    (hstill : NoNewQuote ('<' :: c :: t) ('<' :: c :: t') ∨
      HasTagAt o (front ++ '<' :: c :: t') (byteLength front)) :
    lexemes o (front ++ '<' :: c :: t') = lexemes o front ++ lexemes o ('<' :: c :: t') := by
  rcases hstill with hquotes | ⟨u, hu, hstart, name, attributes, selfClosing, htoken⟩
  · have hresumes : Resumes ('<' :: c :: t) ('<' :: c :: t') :=
      ⟨hquotes, .inr ⟨c, t, t', hc, rfl, rfl⟩⟩
    exact (lexemes_resumed (List.cons_ne_nil _ _) hresumes h (lexemes_spelling o front) hraw).1
  · obtain ⟨earlier, later, hsplit⟩ := List.append_of_mem hu
    exact (lexemes_at_tag hsplit htoken hstart).2.1

/-- A value in place of another brings no new quote, where the page has had a single quote for each
that comes with it. -/
theorem noNewQuote_value {lead value value' rest : List Char}
    (h : '\'' ∈ value' → '\'' ∈ lead ++ (value ++ '"' :: rest)) :
    NoNewQuote (lead ++ (value ++ '"' :: rest)) (lead ++ (value' ++ '"' :: rest)) := by
  intro c hc hquote
  simp only [List.mem_append, List.mem_cons] at hc h ⊢
  rcases hquote with rfl | rfl
  · exact .inr (.inr (.inl rfl))
  · tauto

/-- A tag of a page, with another value between the quotes of an attribute. What stands in front of
it stays as it is: because the tag is still read as one, or because no quote comes with the value
that could be found in front of it. -/
theorem QuotedValue.divided {key : String} {lead value value' rest : List Char}
    (h : QuotedValue key lead value rest) (hvalue' : '"' ∉ value') {earlier later : List Located}
    {tag : Located}
    (htokens : tokens o (front ++ (lead ++ (value ++ '"' :: rest))) = earlier ++ tag :: later)
    (htag : tag.token = .openTag name attributes selfClosing)
    (hstart : tag.start = byteLength front)
    (hraw : o.isRawText name = false)
    (hstill : ('\'' ∈ value' → '\'' ∈ lead ++ (value ++ '"' :: rest)) ∨
      HasTagAt o (front ++ (lead ++ (value' ++ '"' :: rest))) (byteLength front)) :
    earlier = tokens o front ∧ ∃ written written' behind attributes',
      DividedBy o (front ++ (lead ++ (value ++ '"' :: rest))) front written behind
        (.openTag name attributes selfClosing) ∧
      DividedBy o (front ++ (lead ++ (value' ++ '"' :: rest))) front written' behind
        (.openTag name attributes' selfClosing) ∧
      attributes.AgreeBut key attributes' := by
  obtain ⟨hearlier, hsplit, l, ks, hl, htoken⟩ := lexemes_at_tag htokens htag hstart
  have hlast (k : Lexeme) (u : Token) (hk : (lexemes o front).getLast? = some k)
      (hu : k.token = some u) : u.opensRawText o = false :=
    opensNoRawText_before_tag (hl ▸ hsplit) htoken hk hu
  have hquotes := hstill.imp_left noNewQuote_value
  obtain ⟨s, s', hs, hs', hhead, name', attributes₁, attributes', selfClosing', behind, hread, hread',
    hagree⟩ := h.another hvalue' o
  rw [hs, hs'] at hquotes
  rw [hs] at hsplit hl ⊢
  rw [hs']
  obtain ⟨c, t, rfl, hc, htoken'⟩ := readOpenTag_of_lexemes hl htoken
  obtain ⟨t', rfl⟩ := List.head?_eq_some_iff.mp hhead
  rw [hread] at htoken'
  obtain ⟨rfl, rfl, rfl⟩ := Token.openTag.inj htoken'
  have hraw (a : Attributes) : (Token.openTag name' a selfClosing').opensRawText o = false := by
    simp [Token.opensRawText, hraw]
  have hsplit' := lexemes_still_tag hc hsplit hlast hquotes
  exact ⟨hearlier, _, _, behind, attributes', dividedBy_of_lexemes hc hsplit hread (hraw _),
    dividedBy_of_lexemes hc hsplit' hread' (hraw _), hagree⟩

end

end Imageboard
