import Imageboard.Markup.Options
import Imageboard.Markup.Token
import Imageboard.Markup.Reference
import Imageboard.Text.Blank

/-! Reading one tag.

Any text after `<` is read as a tag of some shape. Stray `=` and `/` are skipped, a quoted
value that is never closed ends at the next `>` and the tag with it, and a tag that the page
cuts off has what was read of it. Every reader hands on an ending of the text it was given. -/
namespace Imageboard.Markup
open Text

def isNameCharacter (c : Char) : Bool :=
  c.isAlphanum || c == '-' || c == '_' || c == ':' || c == '.'

def isKeyCharacter (c : Char) : Bool := !(isSpace c || c == '=' || c == '>' || c == '/')

/-- What follows the next `c`, or nothing where there is none. -/
def after (c : Char) (s : List Char) : List Char := (s.dropWhile (· != c)).drop 1

/-- The longest beginning of `s` that keeps to `p`, and what follows it. -/
def cut (p : Char → Bool) (s : List Char) : List Char × List Char := (s.takeWhile p, s.dropWhile p)

/-- An attribute value and what follows it, from just after its `=` and any spaces. -/
def readValue : List Char → List Char × List Char
  | [] => ([], [])
  | c :: s =>
    if c == '"' || c == '\'' then
      match s.dropWhile (· != c) with
      | _ :: rest => (s.takeWhile (· != c), rest)
      | [] => cut (· != '>') s
    else cut (fun d => !(isSpace d || d == '>')) (c :: s)

/-- The value that follows a key, empty where no `=` does. -/
def readAssignment (s : List Char) : List Char × List Char :=
  match s.dropWhile isSpace with
  | '=' :: rest => readValue (rest.dropWhile isSpace)
  | rest => ([], rest)

theorem dropWhile_isSuffix (p : Char → Bool) (s : List Char) : s.dropWhile p <:+ s :=
  List.dropWhile_suffix p

theorem after_isSuffix (c : Char) (s : List Char) : after c s <:+ s :=
  (List.drop_suffix 1 _).trans (dropWhile_isSuffix _ s)

theorem readValue_isSuffix (s : List Char) : (readValue s).2 <:+ s := by
  cases s with
  | nil => exact List.suffix_refl _
  | cons c s =>
    simp only [readValue, cut]
    split
    · split
      · rename_i d rest h
        have : d :: rest <:+ s := h ▸ dropWhile_isSuffix _ s
        exact (List.suffix_cons d rest).trans (this.trans (List.suffix_cons c s))
      · exact (dropWhile_isSuffix _ s).trans (List.suffix_cons c s)
    · exact dropWhile_isSuffix _ _

theorem readAssignment_isSuffix (s : List Char) : (readAssignment s).2 <:+ s := by
  unfold readAssignment
  split
  · rename_i rest h
    have : '=' :: rest <:+ s := h ▸ dropWhile_isSuffix _ s
    exact (readValue_isSuffix _).trans
      ((dropWhile_isSuffix _ rest).trans ((List.suffix_cons _ rest).trans this))
  · exact dropWhile_isSuffix _ s

/-- What a tag carries after its name. -/
structure TagTail where
  attributes : Attributes
  selfClosing : Bool

def attributeValue (o : Options) (written : List Char) : String :=
  String.ofList (if o.decodeReferences then Reference.decode written else written)

/-- The attributes of a tag, added to those before them, and what follows the tag. -/
def readAttributes (o : Options) (earlier : Attributes) (s : List Char) :
    TagTail × List Char :=
  match _h : s.dropWhile isSpace with
  | [] => (⟨earlier, false⟩, [])
  | '>' :: rest => (⟨earlier, false⟩, rest)
  | '/' :: '>' :: rest => (⟨earlier, true⟩, rest)
  | '/' :: rest => readAttributes o earlier rest
  | '=' :: rest => readAttributes o earlier rest
  | c :: rest =>
    let key := String.ofList (lowercase (c :: rest.takeWhile isKeyCharacter))
    let value := readAssignment (rest.dropWhile isKeyCharacter)
    readAttributes o (earlier.insert key (attributeValue o value.1)) value.2
termination_by s.length
decreasing_by
  all_goals
    have hs := (dropWhile_isSuffix isSpace s).length_le
    rw [_h] at hs
    simp only [List.length_cons] at hs
    first
      | omega
      | have hv := (readAssignment_isSuffix (rest.dropWhile isKeyCharacter)).length_le
        have hk := (dropWhile_isSuffix isKeyCharacter rest).length_le
        show (readAssignment (rest.dropWhile isKeyCharacter)).2.length < s.length
        omega

section
variable {o : Options} {earlier : Attributes} {s rest : List Char} {c : Char}

theorem readAttributes_cut_off (h : s.dropWhile isSpace = []) :
    readAttributes o earlier s = (⟨earlier, false⟩, []) := by
  rw [readAttributes]
  split <;> simp_all

theorem readAttributes_end (h : s.dropWhile isSpace = '>' :: rest) :
    readAttributes o earlier s = (⟨earlier, false⟩, rest) := by
  rw [readAttributes]
  split <;> simp_all

theorem readAttributes_self_closing (h : s.dropWhile isSpace = '/' :: '>' :: rest) :
    readAttributes o earlier s = (⟨earlier, true⟩, rest) := by
  rw [readAttributes]
  split <;> simp_all

theorem readAttributes_slash (h : s.dropWhile isSpace = '/' :: rest) (hr : rest.head? ≠ some '>') :
    readAttributes o earlier s = readAttributes o earlier rest := by
  rw [readAttributes]
  split <;> grind

theorem readAttributes_stray (h : s.dropWhile isSpace = '=' :: rest) :
    readAttributes o earlier s = readAttributes o earlier rest := by
  rw [readAttributes]
  split <;> simp_all

theorem readAttributes_key (h : s.dropWhile isSpace = c :: rest) (hgt : c ≠ '>') (hslash : c ≠ '/')
    (heq : c ≠ '=') :
    readAttributes o earlier s =
      readAttributes o
        (earlier.insert (String.ofList (lowercase (c :: rest.takeWhile isKeyCharacter)))
          (attributeValue o (readAssignment (rest.dropWhile isKeyCharacter)).1))
        (readAssignment (rest.dropWhile isKeyCharacter)).2 := by
  rw [readAttributes]
  split <;> grind

end

theorem readAttributes_isSuffix (o : Options) (earlier : Attributes) (s : List Char) :
    (readAttributes o earlier s).2 <:+ s := by
  fun_induction readAttributes o earlier s with
  | case1 => exact List.nil_suffix
  | case2 _ s rest h => exact (List.suffix_cons _ rest).trans (h ▸ dropWhile_isSuffix _ s)
  | case3 _ s rest h =>
    have : rest <:+ '/' :: '>' :: rest := ⟨['/', '>'], rfl⟩
    exact this.trans (h ▸ dropWhile_isSuffix _ s)
  | case4 _ s rest _ h ih =>
    exact ih.trans ((List.suffix_cons _ rest).trans (h ▸ dropWhile_isSuffix _ s))
  | case5 _ s rest h ih =>
    exact ih.trans ((List.suffix_cons _ rest).trans (h ▸ dropWhile_isSuffix _ s))
  | case6 _ s c rest _ _ _ _ h _ value ih =>
    have hv : value.2 <:+ rest.dropWhile isKeyCharacter := readAssignment_isSuffix _
    exact ih.trans (hv.trans ((dropWhile_isSuffix _ rest).trans
      ((List.suffix_cons c rest).trans (h ▸ dropWhile_isSuffix _ s))))

/-- A tag whose `<` has just been read, and what follows it. -/
def readOpenTag (o : Options) (s : List Char) : Token × List Char :=
  let name := String.ofList (lowercase (s.takeWhile isNameCharacter))
  let (tail, rest) := readAttributes o .empty (s.dropWhile isNameCharacter)
  (.openTag name tail.attributes tail.selfClosing, rest)

theorem readOpenTag_isSuffix (o : Options) (s : List Char) : (readOpenTag o s).2 <:+ s :=
  (readAttributes_isSuffix o .empty _).trans (dropWhile_isSuffix _ s)

/-- An end tag whose `</` has just been read, and what follows it. The end tag `</>` has no
name and is no token. -/
def readCloseTag (s : List Char) : Option Token × List Char :=
  let token :=
    match s.takeWhile isNameCharacter with
    | [] => none
    | name => some (.closeTag (String.ofList (lowercase name)))
  (token, after '>' (s.dropWhile isNameCharacter))

theorem readCloseTag_isSuffix (s : List Char) : (readCloseTag s).2 <:+ s :=
  (after_isSuffix _ _).trans (dropWhile_isSuffix _ s)

end Imageboard.Markup
