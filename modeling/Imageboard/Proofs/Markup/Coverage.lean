import Imageboard.Proofs.Markup.Lexeme

/-! The tokens of a page account for every byte of it.

`tokens_cover`: on any page and under any options the spans of the tokens are not empty, stand one
after the other inside the page and begin and end between characters; a text is the page between its
offsets; and what no span covers is nothing but end tags `</>`. -/
namespace Imageboard
open Lexeme Text

/-- The stretches that the spans of `ts` leave out between byte `start` and byte `stop`: the one
before each of them and the one behind the last. -/
def gaps (stop : Nat) : Nat → List Located → List (Nat × Nat)
  | start, [] => [(start, stop)]
  | start, t :: ts => (start, t.start) :: gaps stop t.stop ts

/-- As many end tags without a name. -/
def emptyTags (n : Nat) : String := String.join (List.replicate n "</>")

theorem toList_emptyTags_succ (n : Nat) :
    (emptyTags (n + 1)).toList = (emptyTags n).toList ++ ['<', '/', '>'] := by
  unfold emptyTags
  rw [List.replicate_succ', String.join_append, String.toList_append]
  rfl

theorem byteLength_emptyTags (n : Nat) : byteLength (emptyTags n).toList = 3 * n := by
  induction n with
  | zero => rfl
  | succ n ih => rw [toList_emptyTags_succ, byteLength_append, ih]; rfl

/-- The tokens among lexemes from byte `byteLength lead` on start there or later. -/
theorem start_le_of_mem_located {lead : List Char} {ls : List Lexeme} {t : Located}
    (ht : t ∈ located (byteLength lead) ls) : byteLength lead ≤ t.start :=
  (spells_of_mem_located lead rfl ht).1

theorem located_pairwise (lead : List Char) (ls : List Lexeme) :
    (located (byteLength lead) ls).Pairwise fun a b => a.stop ≤ b.start := by
  induction ls generalizing lead with
  | nil => exact .nil
  | cons l ls ih =>
    rw [located_cons, ← byteLength_append]
    split
    · exact .cons (fun t ht => start_le_of_mem_located ht) (ih _)
    · exact ih _

theorem located_length_le {ls : List Lexeme} (h : ∀ l ∈ ls, l.Sound) (start : Nat) :
    (located start ls).length ≤ byteLength (ls.flatMap spelling) := by
  induction ls generalizing start with
  | nil => exact Nat.le_refl _
  | cons l ls ih =>
    have hpos := byteLength_pos (h l List.mem_cons_self).nonempty
    have hrest := ih (fun k hk => h k (List.mem_cons_of_mem l hk)) (start + byteLength l.spelling)
    rw [located_cons, List.flatMap_cons, byteLength_append]
    split
    · rw [List.length_cons]
      omega
    · omega

/-- What the spans of the tokens leave out is the lexemes that are no tokens; `hole` is what has
been left out since the last span. -/
theorem gaps_located {page : List Char} (lead hole : List Char) {ls : List Lexeme}
    (hp : page = lead ++ hole ++ ls.flatMap spelling) (hs : ∀ l ∈ ls, l.Sound)
    (hh : ∃ n, hole = (emptyTags n).toList) :
    ∀ gap ∈ gaps (byteLength page) (byteLength lead) (located (byteLength (lead ++ hole)) ls),
      ∃ n, Spells page gap.1 gap.2 (emptyTags n).toList := by
  induction ls generalizing lead hole with
  | nil =>
    obtain ⟨n, rfl⟩ := hh
    intro gap hg
    obtain rfl := List.mem_singleton.mp hg
    exact ⟨n, lead, [], hp, rfl, by rw [hp]; simp⟩
  | cons l ls ih =>
    have hrest : ∀ k ∈ ls, k.Sound := fun k hk => hs k (List.mem_cons_of_mem l hk)
    rw [List.flatMap_cons, ← List.append_assoc] at hp
    rw [located_cons, ← byteLength_append]
    split
    · intro gap hg
      rcases List.mem_cons.mp hg with rfl | hg
      · obtain ⟨n, rfl⟩ := hh
        exact ⟨n, lead, l.spelling ++ ls.flatMap spelling, by rw [hp, List.append_assoc], rfl,
          byteLength_append lead _⟩
      · have := ih (lead ++ hole ++ l.spelling) [] (by simpa using hp) hrest ⟨0, rfl⟩
        rw [List.append_nil] at this
        exact this gap hg
    · rename_i hn
      obtain ⟨n, rfl⟩ := hh
      rw [List.append_assoc lead] at hp ⊢
      exact ih lead _ hp hrest ⟨n + 1, by
        rw [(hs l List.mem_cons_self).dropped hn, toList_emptyTags_succ]⟩

/-- A token of a page stands where its span says. -/
theorem spells_of_mem_tokens {o : Options} {page : List Char} {t : Located}
    (ht : t ∈ tokens o page) :
    ∃ l : Lexeme, l.Sound ∧ l.token = some t.token ∧ Spells page t.start t.stop l.spelling := by
  obtain ⟨-, l, hl, htok, hspells⟩ := spells_of_mem_located []
    (lexemes_spelling o page).symm ht
  exact ⟨l, lexemes_sound o page l hl, htok, hspells⟩

/-- **The tokens of a page account for every byte of it.** There are no more of them than bytes; each
has some bytes of its own, behind those of the tokens before it, from one character boundary of the
page to another; a text is the page between its offsets; a stretch without tokens is end tags `</>`,
one behind the other. And wherever content is cut out of the page, between two tokens or up to the
end, it is the page between the offsets. -/
theorem tokens_cover (o : Options) (page : String) :
    (tokens o page.toList).length ≤ page.utf8ByteSize ∧
    (∀ t ∈ tokens o page.toList, t.start < t.stop ∧ t.stop ≤ page.utf8ByteSize ∧
      (⟨t.start⟩ : String.Pos.Raw).IsValid page ∧ (⟨t.stop⟩ : String.Pos.Raw).IsValid page) ∧
    (tokens o page.toList).Pairwise (fun a b => a.stop ≤ b.start) ∧
    (∀ t ∈ tokens o page.toList, ∀ content, t.token = .text content →
      content.toByteArray = page.toByteArray.extract t.start t.stop) ∧
    (∀ gap ∈ gaps page.utf8ByteSize 0 (tokens o page.toList),
      ∃ n, gap.2 = gap.1 + 3 * n ∧
        page.toByteArray.extract gap.1 gap.2 = (emptyTags n).toByteArray) ∧
    (tokens o page.toList).Pairwise (fun a b =>
      (slice page.toList a.stop b.start).utf8Encode = page.toByteArray.extract a.stop b.start) ∧
    (∀ t ∈ tokens o page.toList,
      (slice page.toList t.stop page.utf8ByteSize).utf8Encode =
        page.toByteArray.extract t.stop page.utf8ByteSize) := by
  have hpairs : (tokens o page.toList).Pairwise fun a b => a.stop ≤ b.start :=
    located_pairwise [] (lexemes o page.toList)
  refine ⟨?count, ?spans, hpairs, ?texts, ?gaps, ?between, ?behind⟩
  case count =>
    have h := located_length_le (lexemes_sound o page.toList) 0
    rwa [lexemes_spelling, byteLength_toList] at h
  case spans =>
    intro t ht
    obtain ⟨l, hl, -, hspells⟩ := spells_of_mem_tokens ht
    have hpos := byteLength_pos hl.nonempty
    have hlen := hspells.length_eq
    have hle := hspells.stop_le
    rw [byteLength_toList] at hle
    exact ⟨by omega, hle, hspells.isValid_start, hspells.isValid_stop⟩
  case texts =>
    intro t ht content hc
    obtain ⟨l, hl, htok, hspells⟩ := spells_of_mem_tokens ht
    rw [hl.text content (hc ▸ htok), String.toByteArray_ofList]
    exact hspells.extract_eq.symm
  case gaps =>
    intro gap hg
    obtain ⟨n, hspells⟩ := gaps_located [] [] (lexemes_spelling o page.toList).symm
      (lexemes_sound o page.toList) ⟨0, rfl⟩ gap (by rwa [byteLength_toList])
    have hlen := hspells.length_eq
    rw [byteLength_emptyTags] at hlen
    exact ⟨n, hlen.symm, by rw [hspells.extract_eq, String.utf8Encode_toList]⟩
  case between =>
    refine hpairs.imp_of_mem fun {a b} ha hb hle => ?_
    obtain ⟨l, -, -, hspells⟩ := spells_of_mem_tokens ha
    obtain ⟨k, -, -, hspells'⟩ := spells_of_mem_tokens hb
    obtain ⟨middle, hmiddle⟩ := hspells.between hspells' hle
    rw [hmiddle.slice_eq, hmiddle.extract_eq]
  case behind =>
    intro t ht
    obtain ⟨l, -, -, hspells⟩ := spells_of_mem_tokens ht
    obtain ⟨rest, hrest⟩ := hspells.behind
    rw [byteLength_toList] at hrest
    rw [hrest.slice_eq, hrest.extract_eq]

/-- The end tag in between is no token, and the text behind it stands where its span says. -/
theorem text_behind_empty_tag :
    (⟨.text "b", 4, 5⟩ : Located) ∈ tokens {} "a</>b".toList ∧
      "b".toByteArray = "a</>b".toByteArray.extract 4 5 :=
  ⟨by decide +kernel,
    (tokens_cover {} "a</>b").2.2.2.1 ⟨.text "b", 4, 5⟩ (by decide +kernel) "b" rfl⟩

end Imageboard
