import Imageboard.Markup.Tag
import Imageboard.Proofs.Text.Search

/-! The attributes of a tag, one at a time.

Of attributes that are added one after the other, each key keeps its first value: `entries_insertAll`.
A key with a value between quotes is read whatever follows it, so that a run of such attributes in
front of others is read by itself: `AttributeRun.read`. Where a tag goes on without a certain key, what
is read of it is the same with and without that key before it: `readAttributes_erase`. -/
namespace Imageboard
open Markup Text

/-! ### Attributes and one more -/

namespace Attributes

theorem insert_of_contains {a : Attributes} {key : String} (h : a.contains key = true)
    (value : String) : a.insert key value = a := dif_pos h

theorem contains_insert_iff {a : Attributes} {k key value : String} :
    (a.insert k value).contains key = true ↔ a.contains key = true ∨ key = k := by
  unfold contains
  rw [entries_insert]
  split
  · rename_i hk
    refine ⟨.inl, ?_⟩
    rintro (h | rfl)
    · exact h
    · exact hk
  · rw [List.any_append, Bool.or_eq_true, List.any_cons, List.any_nil, Bool.or_false, beq_iff_eq,
      eq_comm (a := k)]

theorem contains_insert (a : Attributes) (key value : String) :
    (a.insert key value).contains key = true := contains_insert_iff.mpr (.inr rfl)

theorem contains_insert_of_contains {a : Attributes} {k key : String} (h : a.contains key = true)
    (value : String) : (a.insert k value).contains key = true := contains_insert_iff.mpr (.inl h)

theorem get?_insert (a : Attributes) (k value key : String) :
    (a.insert k value).get? key =
      if k = key then some ((a.get? key).getD value) else a.get? key := by
  have hfound : a.contains k = (a.entries.find? (·.1 == k)).isSome := by
    rw [Bool.eq_iff_iff, List.find?_isSome, contains, List.any_eq_true]
  unfold get?
  rw [entries_insert]
  cases hc : a.entries.find? (·.1 == k) with
  | none =>
    rw [hfound, hc, Option.isSome_none, if_neg Bool.false_ne_true, List.find?_append]
    split
    · rename_i h
      subst h
      simp [hc]
    · rename_i h
      simp [h]
  | some entry =>
    rw [hfound, hc, Option.isSome_some, if_pos rfl]
    split
    · rename_i h
      subst h
      simp [hc]
    · rfl

end Attributes

/-! ### Attributes less one -/

namespace Attributes

theorem eq_of_entries {a b : Attributes} (h : a.entries = b.entries) : a = b := by
  cases a
  cases b
  simpa using h

/-- The attributes without `key`. -/
def erase (a : Attributes) (key : String) : Attributes where
  entries := a.entries.filter (·.1 != key)
  nodup := a.nodup.sublist (List.filter_sublist.map _)

variable {a : Attributes} {key : String}

theorem erase_of_not_contains (h : a.contains key = false) : a.erase key = a := by
  refine eq_of_entries (List.filter_eq_self.mpr fun entry hentry => ?_)
  have hne := List.any_eq_false.mp h entry hentry
  simpa using hne

theorem erase_erase (a : Attributes) (key : String) : (a.erase key).erase key = a.erase key := by
  refine eq_of_entries ?_
  simp [erase]

theorem contains_erase_of_ne {k : String} (hk : k ≠ key) :
    (a.erase key).contains k = a.contains k := by
  unfold contains erase
  rw [List.any_filter]
  refine List.any_congr rfl fun entry => ?_
  by_cases hentry : entry.1 = k
  · simp [hentry, hk]
  · simp [hentry]

theorem erase_insert_self (h : a.contains key = false) (value : String) :
    (a.insert key value).erase key = a := by
  refine eq_of_entries ?_
  have hself := congrArg entries (erase_of_not_contains h)
  unfold erase at hself ⊢
  dsimp only at hself ⊢
  rw [entries_insert, h, if_neg Bool.false_ne_true, List.filter_append, hself]
  simp

theorem erase_insert_of_ne {k : String} (hk : k ≠ key) (value : String) :
    (a.insert k value).erase key = (a.erase key).insert k value := by
  refine eq_of_entries ?_
  rw [entries_insert, contains_erase_of_ne hk]
  unfold erase
  dsimp only
  rw [entries_insert]
  split
  · rfl
  · rw [List.filter_append]
    simp [hk]

end Attributes

/-! ### Attributes, one added after the other -/

namespace Attributes

/-- The attributes with these behind them, except for keys that they have already. -/
def insertAll (a : Attributes) (entries : List (String × String)) : Attributes :=
  entries.foldl (fun a entry => a.insert entry.1 entry.2) a

theorem insertAll_cons (a : Attributes) (entry : String × String)
    (entries : List (String × String)) :
    a.insertAll (entry :: entries) = (a.insert entry.1 entry.2).insertAll entries := rfl

/-- Attributes that are added to others stand behind them, each once, with the value that comes first. -/
theorem entries_insertAll (a : Attributes) (entries : List (String × String)) :
    (a.insertAll entries).entries =
      a.entries ++
        (entries.filter fun entry => !a.contains entry.1).eraseDupsBy (·.1 == ·.1) := by
  induction entries generalizing a with
  | nil => exact (List.append_nil _).symm
  | cons entry entries ih =>
    rw [insertAll_cons, ih]
    cases h : a.contains entry.1 with
    | true =>
      rw [insert_of_contains h, List.filter_cons_of_neg (by simp [h])]
    | false =>
      -- What is new behind this attribute is new and has another key.
      have hnew (later : String × String) : (!(a.insert entry.1 entry.2).contains later.1) =
          (decide ((later.1 == entry.1) = false) && !a.contains later.1) := by
        rw [Bool.eq_iff_iff]
        simp [← Bool.not_eq_true, contains_insert_iff, and_comm]
      rw [entries_insert, h, if_neg Bool.false_ne_true, List.filter_cons_of_pos (by simp [h]),
        List.eraseDupsBy_cons, List.append_assoc, List.singleton_append, List.filter_filter,
        funext hnew]

/-- A key that is added more than once has the value that comes first. -/
theorem get?_insertAll (a : Attributes) (entries : List (String × String)) (key : String) :
    (a.insertAll entries).get? key =
      (a.get? key).or ((entries.find? (·.1 == key)).map (·.2)) := by
  induction entries generalizing a with
  | nil => exact (Option.or_none).symm
  | cons entry entries ih =>
    rw [insertAll_cons, ih, get?_insert]
    by_cases hkey : entry.1 = key
    · rw [if_pos hkey, List.find?_cons_of_pos (by simpa using hkey)]
      cases a.get? key <;> rfl
    · rw [if_neg hkey, List.find?_cons_of_neg (by simpa using hkey)]

theorem mem_of_mem_insertAll {a : Attributes} {entries : List (String × String)}
    {entry : String × String} (h : entry ∈ (a.insertAll entries).entries) :
    entry ∈ a.entries ∨ entry ∈ entries := by
  induction entries generalizing a with
  | nil => exact .inl h
  | cons first entries ih =>
    rcases ih h with hknown | hlater
    · rw [entries_insert] at hknown
      split at hknown
      · exact .inl hknown
      · exact (List.mem_append.mp hknown).imp_right fun hnew =>
          List.mem_cons.mpr (.inl (List.mem_singleton.mp hnew))
    · exact .inr (List.mem_cons_of_mem first hlater)

variable {entries : List (String × String)}

/-- The attributes of a list are its entries without those whose key has come before. -/
theorem entries_ofList : (ofList entries).entries = entries.eraseDupsBy (·.1 == ·.1) := by
  have hall : (entries.filter fun entry => !empty.contains entry.1) = entries :=
    List.filter_eq_self.mpr fun _ _ => rfl
  have hentries := entries_insertAll empty entries
  rw [hall] at hentries
  exact hentries

theorem get?_ofList (key : String) :
    (ofList entries).get? key = (entries.find? (·.1 == key)).map (·.2) :=
  get?_insertAll empty entries key

theorem mem_of_mem_ofList {entry : String × String} (h : entry ∈ (ofList entries).entries) :
    entry ∈ entries :=
  (mem_of_mem_insertAll h).resolve_left List.not_mem_nil

end Attributes

namespace Markup
section
variable {o : Options} {key : String}

theorem head?_ne_gt {s : List Char} (h : ∀ rest, s = '>' :: rest → False) :
    s.head? ≠ some '>' := by
  intro he
  obtain ⟨rest, hrest⟩ := List.head?_eq_some_iff.mp he
  exact h rest hrest

/-- Reading on, an attribute stays. -/
theorem contains_readAttributes {earlier : Attributes} (h : earlier.contains key = true)
    (s : List Char) : (readAttributes o earlier s).1.attributes.contains key = true := by
  fun_induction readAttributes o earlier s with
  | case1 => exact h
  | case2 => exact h
  | case3 => exact h
  | case4 earlier s rest _ _ ih => exact ih h
  | case5 earlier s rest _ ih => exact ih h
  | case6 earlier s c rest _ _ _ _ _ _ value ih =>
    exact ih (Attributes.contains_insert_of_contains h _)

/-- Where a tag goes on without `key`, what is read of it is the same with and without `key` before
it, apart from that attribute. -/
theorem readAttributes_erase {earlier : Attributes} {s : List Char}
    (h : (readAttributes o (earlier.erase key) s).1.attributes.contains key = false) :
    readAttributes o (earlier.erase key) s =
      (⟨(readAttributes o earlier s).1.attributes.erase key,
        (readAttributes o earlier s).1.selfClosing⟩, (readAttributes o earlier s).2) := by
  fun_induction readAttributes o earlier s with
  | case1 earlier s hd => exact readAttributes_cut_off hd
  | case2 earlier s rest hd => exact readAttributes_end hd
  | case3 earlier s rest hd => exact readAttributes_self_closing hd
  | case4 earlier s rest hne hd ih =>
    rw [readAttributes_slash hd (head?_ne_gt hne)] at h ⊢
    exact ih h
  | case5 earlier s rest hd ih =>
    rw [readAttributes_stray hd] at h ⊢
    exact ih h
  | case6 earlier s c rest hgt _ hslash heq hd read value ih =>
    rw [readAttributes_key hd hgt hslash heq] at h ⊢
    by_cases hkey : read = key
    · subst hkey
      rw [contains_readAttributes (Attributes.contains_insert _ _ _)] at h
      cases h
    · rw [← Attributes.erase_insert_of_ne hkey] at h ⊢
      exact ih h

/-- Where a tag ends does not depend on the attributes that are known. -/
theorem readAttributes_rest (earlier other : Attributes) (s : List Char) :
    (readAttributes o other s).2 = (readAttributes o earlier s).2 := by
  fun_induction readAttributes o earlier s generalizing other with
  | case1 earlier s hd => rw [readAttributes_cut_off hd]
  | case2 earlier s rest hd => rw [readAttributes_end hd]
  | case3 earlier s rest hd => rw [readAttributes_self_closing hd]
  | case4 earlier s rest hne hd ih =>
    rw [readAttributes_slash hd (head?_ne_gt hne)]
    exact ih other
  | case5 earlier s rest hd ih =>
    rw [readAttributes_stray hd]
    exact ih other
  | case6 earlier s c rest hgt _ hslash heq hd read value ih =>
    rw [readAttributes_key hd hgt hslash heq]
    exact ih _

/-! ### Attributes in front -/

theorem readAttributes_space {earlier : Attributes} {c : Char} (hc : isSpace c = true)
    (s : List Char) : readAttributes o earlier (c :: s) = readAttributes o earlier s := by
  have hskip : (c :: s).dropWhile isSpace = s.dropWhile isSpace := List.dropWhile_cons_of_pos hc
  fun_cases readAttributes o earlier s with
  | case1 hd => exact readAttributes_cut_off (hskip.trans hd)
  | case2 rest hd => exact readAttributes_end (hskip.trans hd)
  | case3 rest hd => exact readAttributes_self_closing (hskip.trans hd)
  | case4 rest hne hd => exact readAttributes_slash (hskip.trans hd) (head?_ne_gt hne)
  | case5 rest hd => exact readAttributes_stray (hskip.trans hd)
  | case6 d rest hgt _ hslash heq hd => exact readAttributes_key (hskip.trans hd) hgt hslash heq

/-- A key, as it may be written in front of `=`. -/
def IsKey (key : List Char) : Prop := key ≠ [] ∧ ∀ c ∈ key, isKeyCharacter c = true

/-- A key, up to a character that is in no key, with what is assigned to it. -/
theorem readAttributes_keyed {earlier : Attributes} {key behind : List Char} (hkey : IsKey key)
    (hstop : ∀ c ∈ behind.head?, isKeyCharacter c = false) {value rest : List Char}
    (h : readAssignment behind = (value, rest)) :
    readAttributes o earlier (key ++ behind) =
      readAttributes o
        (earlier.insert (String.ofList (lowercase key)) (attributeValue o value)) rest := by
  obtain ⟨hne, hkey⟩ := hkey
  cases key with
  | nil => exact absurd rfl hne
  | cons d k =>
    have hd := hkey d List.mem_cons_self
    have hk : ∀ e ∈ k, isKeyCharacter e = true := fun e he => hkey e (List.mem_cons_of_mem d he)
    simp only [isKeyCharacter, Bool.not_eq_true', Bool.or_eq_false_iff, beq_eq_false_iff_ne] at hd
    obtain ⟨⟨⟨hspace, heq⟩, hgt⟩, hslash⟩ := hd
    have hskip : (d :: (k ++ behind)).dropWhile isSpace = d :: (k ++ behind) :=
      List.dropWhile_cons_of_neg (by simp [hspace])
    obtain ⟨htake, hdrop⟩ := takeWhile_head hk hstop
    rw [List.cons_append, readAttributes_key hskip hgt hslash heq, htake, hdrop, h]

theorem readAttributes_assigned {earlier : Attributes} {key assigned : List Char}
    (hkey : IsKey key) {value rest : List Char}
    (h : readValue (assigned.dropWhile isSpace) = (value, rest)) :
    readAttributes o earlier (key ++ '=' :: assigned) =
      readAttributes o
        (earlier.insert (String.ofList (lowercase key)) (attributeValue o value)) rest := by
  refine readAttributes_keyed hkey ?_ h
  rintro c ⟨⟩
  rfl

theorem readValue_quoted {value : List Char} {quote : Char} (hquote : quote = '"' ∨ quote = '\'')
    (hvalue : quote ∉ value) (rest : List Char) :
    readValue (quote :: (value ++ quote :: rest)) = (value, rest) := by
  have hvalue' : ∀ c ∈ value, (c != quote) = true := fun c hc =>
    bne_iff_ne.mpr fun he => hvalue (he ▸ hc)
  have hstop : (quote != quote) = false := bne_self_eq_false quote
  have hmark : (quote == '"' || quote == '\'') = true := by rcases hquote with rfl | rfl <;> rfl
  rw [readValue, if_pos hmark, dropWhile_stop hvalue' hstop, takeWhile_stop hvalue' hstop]

/-- A value between two quotes, with what follows it. -/
theorem readAttributes_quoted {earlier : Attributes} {key value : List Char} {quote : Char}
    (hkey : IsKey key) (hquote : quote = '"' ∨ quote = '\'') (hvalue : quote ∉ value)
    (rest : List Char) :
    readAttributes o earlier (key ++ '=' :: quote :: (value ++ quote :: rest)) =
      readAttributes o
        (earlier.insert (String.ofList (lowercase key)) (attributeValue o value)) rest := by
  have hspace : isSpace quote = false := by rcases hquote with rfl | rfl <;> rfl
  refine readAttributes_assigned hkey ?_
  rw [List.dropWhile_cons_of_neg (by simp [hspace]), readValue_quoted hquote hvalue]

theorem readValue_unquoted {value : List Char} {space : Char} (hne : value ≠ [])
    (hquote : value.head? ≠ some '"' ∧ value.head? ≠ some '\'')
    (hvalue : ∀ c ∈ value, isSpace c = false ∧ c ≠ '>') (hspace : isSpace space = true)
    (rest : List Char) :
    readValue ((value ++ space :: rest).dropWhile isSpace) = (value, space :: rest) := by
  obtain ⟨c, v, rfl⟩ := List.exists_cons_of_ne_nil hne
  have hmark : ¬ (c == '"' || c == '\'') = true := by simpa using hquote
  have hgoes : ∀ d ∈ c :: v, (!(isSpace d || d == '>')) = true := fun d hd => by
    simpa using hvalue d hd
  have hends : (!(isSpace space || space == '>')) = false := by simp [hspace]
  rw [List.cons_append, List.dropWhile_cons_of_neg (by simp [(hvalue c List.mem_cons_self).1]),
    readValue, if_neg hmark, ← List.cons_append, cut, takeWhile_stop hgoes hends,
    dropWhile_stop hgoes hends]

/-- A value without quotes, with the space that ends it. -/
theorem readAttributes_unquoted {earlier : Attributes} {key value : List Char} {space : Char}
    (hkey : IsKey key) (hne : value ≠ []) (hquote : value.head? ≠ some '"' ∧ value.head? ≠ some '\'')
    (hvalue : ∀ c ∈ value, isSpace c = false ∧ c ≠ '>') (hspace : isSpace space = true)
    (rest : List Char) :
    readAttributes o earlier (key ++ '=' :: (value ++ space :: rest)) =
      readAttributes o
        (earlier.insert (String.ofList (lowercase key)) (attributeValue o value)) rest := by
  rw [readAttributes_assigned hkey (readValue_unquoted hne hquote hvalue hspace rest),
    readAttributes_space hspace]

end

/-- What may stand in a tag in front of an attribute: spaces, and other attributes that end whatever
follows them. -/
inductive AttributeRun : List Char → Prop
  | nil : AttributeRun []
  | space {c : Char} {s : List Char} (hc : isSpace c = true) (h : AttributeRun s) :
      AttributeRun (c :: s)
  | quoted {key value s : List Char} {quote : Char} (hkey : IsKey key)
      (hquote : quote = '"' ∨ quote = '\'') (hvalue : quote ∉ value) (h : AttributeRun s) :
      AttributeRun (key ++ '=' :: quote :: (value ++ quote :: s))
  | unquoted {key value s : List Char} {space : Char} (hkey : IsKey key) (hne : value ≠ [])
      (hquote : value.head? ≠ some '"' ∧ value.head? ≠ some '\'')
      (hvalue : ∀ c ∈ value, isSpace c = false ∧ c ≠ '>') (hspace : isSpace space = true)
      (h : AttributeRun s) : AttributeRun (key ++ '=' :: (value ++ space :: s))

/-- The attributes of a run are read whole, and what follows is read with them. -/
theorem AttributeRun.read {s : List Char} (h : AttributeRun s) (o : Options)
    (earlier : Attributes) :
    ∃ read, ∀ rest, readAttributes o earlier (s ++ rest) = readAttributes o read rest := by
  induction h generalizing earlier with
  | nil => exact ⟨earlier, fun _ => rfl⟩
  | space hc _ ih =>
    obtain ⟨read, hread⟩ := ih earlier
    exact ⟨read, fun rest => (readAttributes_space hc _).trans (hread rest)⟩
  | quoted hkey hquote hvalue _ ih =>
    obtain ⟨read, hread⟩ := ih (earlier.insert _ _)
    refine ⟨read, fun rest => ?_⟩
    rw [← hread rest, ← readAttributes_quoted hkey hquote hvalue]
    simp
  | unquoted hkey hne hquote hvalue hspace _ ih =>
    obtain ⟨read, hread⟩ := ih (earlier.insert _ _)
    refine ⟨read, fun rest => ?_⟩
    rw [← hread rest, ← readAttributes_unquoted hkey hne hquote hvalue hspace]
    simp

end Markup
end Imageboard
