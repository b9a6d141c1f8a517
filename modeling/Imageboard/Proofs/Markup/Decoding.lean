import Imageboard.Proofs.Markup.Reference
import Imageboard.Proofs.Text.Search
import Imageboard.Text.Offset

/-! What a text with character references reads as.

`Decodes` scans a text from left to right: a reference is replaced with its character, and every other
character is copied. `decode_scans`: this is what decoding does, and the references are those of markup
and one kind besides, hexadecimal numbers with a `+` in front. -/
namespace Imageboard.Reference
open Numeral Text

/-- What a reference of markup has between `&` and `;`, and the character that it stands for: a name,
or the number of a character in decimal or hexadecimal. -/
inductive Body : List Char → Char → Prop where
  | named {name : String} {c : Char} (h : (name, c) ∈ names) : Body name.toList c
  | decimal {number : List Char} {c : Char} (h : Writes 10 number c.toNat) : Body ('#' :: number) c
  | hexadecimal {x : Char} {number : List Char} {c : Char} (hx : x = 'x' ∨ x = 'X')
      (h : Writes 16 number c.toNat) : Body ('#' :: x :: number) c

/-- The same with a `+` in front of a hexadecimal number. -/
inductive SignedBody : List Char → Char → Prop where
  | hexadecimal {x : Char} {number : List Char} {c : Char} (hx : x = 'x' ∨ x = 'X')
      (h : Writes 16 number c.toNat) : SignedBody ('#' :: x :: '+' :: number) c

/-- The references of markup that are not too long. -/
def Standard (body : List Char) (c : Char) : Prop := byteLength body ≤ 10 ∧ Body body c

/-- The references that are replaced. -/
def Accepted (body : List Char) (c : Char) : Prop :=
  byteLength body ≤ 10 ∧ (Body body c ∨ SignedBody body c)

/-- A text and what it reads as, where `Stands` tells the references. -/
inductive Decodes (Stands : List Char → Char → Prop) : List Char → List Char → Prop where
  | nil : Decodes Stands [] []
  | reference {body rest t : List Char} {c : Char} (h : Stands body c) (hrest : Decodes Stands rest t) :
      Decodes Stands ('&' :: (body ++ ';' :: rest)) (c :: t)
  | copied {s t : List Char} {c : Char}
      (h : ∀ body rest d, c :: s = '&' :: (body ++ ';' :: rest) → ¬ Stands body d)
      (hrest : Decodes Stands s t) : Decodes Stands (c :: s) (c :: t)

/-! ### Bodies -/

theorem character?_eq_some {n : Nat} {c : Char} : character? n = some c ↔ n = c.toNat := by
  unfold character?
  constructor
  · intro h
    by_cases hn : n.isValidChar
    · rw [dif_pos hn] at h
      obtain rfl := Option.some.inj h
      rfl
    · rw [dif_neg hn] at h
      cases h
  · rintro rfl
    have hvalid : c.toNat.isValidChar := c.valid
    rw [dif_pos hvalid]
    rfl

theorem named?_eq_some {body : List Char} {c : Char} :
    named? body = some c ↔ ∃ name, (name, c) ∈ names ∧ name.toList = body := by
  unfold named?
  constructor
  · intro h
    obtain ⟨⟨name, d⟩, hfound, rfl⟩ := Option.map_eq_some_iff.mp h
    exact ⟨name, List.mem_of_find?_eq_some hfound, by simpa using List.find?_some hfound⟩
  · rintro ⟨name, hmem, rfl⟩
    have hall : ∀ entry ∈ names, named? entry.1.toList = some entry.2 := by decide +kernel
    exact hall _ hmem

/-- A number is that of a character just where it is written so, with or without a `+`. -/
theorem number_eq_some {radix : Nat} (hr : radix ≤ 36) {s : List Char} {c : Char} :
    (natural? radix UInt32.size s).bind character? = some c ↔
      Writes radix s c.toNat ∨ ∃ number, s = '+' :: number ∧ Writes radix number c.toNat := by
  have hbound : c.toNat < UInt32.size := c.val.toNat_lt
  have hnumber : (natural? radix UInt32.size s).bind character? = some c ↔
      natural? radix UInt32.size s = some c.toNat := by
    simp only [Option.bind_eq_some_iff, character?_eq_some, exists_eq_right]
  -- A sign is no digit, so that no number is written both ways.
  have hsign (number : List Char) : ¬ Writes radix ('+' :: number) c.toNat := by
    rw [← digits?_eq_some hr]
    intro h
    have hplus := digits?_characters h '+' List.mem_cons_self
    have hnone : digitValue '+' = none := by decide
    rw [digit?, hnone] at hplus
    cases hplus
  rw [hnumber]
  unfold natural?
  rw [Option.filter_eq_some_iff, decide_eq_true_iff, and_iff_left hbound]
  split
  · rename_i number
    rw [digits?_eq_some hr, or_iff_right (hsign number)]
    simp
  · rename_i hs
    rw [digits?_eq_some hr, or_iff_left]
    rintro ⟨number, rfl, -⟩
    exact hs number rfl

theorem all_isDigit_of_writes {s : List Char} {n : Nat} (h : Writes 10 s n) :
    s.all Char.isDigit = true := by
  refine List.all_eq_true.mpr fun c hc => ?_
  exact isDigit_of_digit? (digits?_characters ((digits?_eq_some (by decide)).mpr h) c hc)

section
variable {x : Char} {number : List Char} {c : Char}

theorem name_ne_number {name : String} (h : (name, c) ∈ names) : name.toList ≠ '#' :: number := by
  have hall : ∀ entry ∈ names, entry.1.toList.head? ≠ some '#' := by decide +kernel
  intro he
  exact hall _ h (congrArg List.head? he)

theorem body_hexadecimal (hx : x = 'x' ∨ x = 'X') :
    Body ('#' :: x :: number) c ↔ Writes 16 number c.toNat := by
  constructor
  · intro h
    generalize hbody : '#' :: x :: number = body at h
    cases h with
    | named hname => exact absurd hbody.symm (name_ne_number hname)
    | decimal hdigits =>
      obtain ⟨-, rfl⟩ := List.cons.inj hbody
      have hdigit := List.all_eq_true.mp (all_isDigit_of_writes hdigits) x List.mem_cons_self
      rcases hx with rfl | rfl <;> cases hdigit
    | hexadecimal _ hdigits =>
      obtain ⟨-, hnumber⟩ := List.cons.inj hbody
      obtain ⟨-, rfl⟩ := List.cons.inj hnumber
      exact hdigits
  · exact .hexadecimal hx

theorem signedBody_hexadecimal (hx : x = 'x' ∨ x = 'X') :
    SignedBody ('#' :: x :: number) c ↔
      ∃ digits, number = '+' :: digits ∧ Writes 16 digits c.toNat := by
  constructor
  · rintro (⟨_, hdigits⟩)
    exact ⟨_, rfl, hdigits⟩
  · rintro ⟨digits, rfl, hdigits⟩
    exact .hexadecimal hx hdigits

theorem body_decimal (hx : ∀ digits, number ≠ 'x' :: digits) (hX : ∀ digits, number ≠ 'X' :: digits) :
    Body ('#' :: number) c ∨ SignedBody ('#' :: number) c ↔ Writes 10 number c.toNat := by
  have hneither {y : Char} {digits : List Char} (hy : y = 'x' ∨ y = 'X') : number ≠ y :: digits := by
    rcases hy with rfl | rfl
    · exact hx digits
    · exact hX digits
  constructor
  · generalize hbody : '#' :: number = body
    rintro (h | h)
    · cases h with
      | named hname => exact absurd hbody.symm (name_ne_number hname)
      | decimal hdigits =>
        obtain ⟨-, rfl⟩ := List.cons.inj hbody
        exact hdigits
      | hexadecimal hy => exact absurd (List.cons.inj hbody).2 (hneither hy)
    · cases h with
      | hexadecimal hy => exact absurd (List.cons.inj hbody).2 (hneither hy)
  · exact fun h => .inl (.decimal h)

end

/-- A body stands for a character just where it is one of markup, or one with a sign. -/
theorem ofBody?_eq_some {body : List Char} {c : Char} :
    ofBody? body = some c ↔ Body body c ∨ SignedBody body c := by
  unfold ofBody?
  split
  · rename_i number
    split
    · rw [number_eq_some (by decide), body_hexadecimal (.inl rfl), signedBody_hexadecimal (.inl rfl)]
    · rw [number_eq_some (by decide), body_hexadecimal (.inr rfl), signedBody_hexadecimal (.inr rfl)]
    · rename_i hx hX
      rw [body_decimal hx hX]
      split
      · rename_i hall
        rw [number_eq_some (by decide), or_iff_left]
        rintro ⟨digits, rfl, -⟩
        cases hall
      · rename_i hall
        exact ⟨nofun, fun h => absurd (all_isDigit_of_writes h) hall⟩
  · rename_i hbody
    rw [named?_eq_some]
    constructor
    · rintro ⟨name, hname, rfl⟩
      exact .inl (.named hname)
    · rintro (h | h)
      · cases h with
        | named hname => exact ⟨_, hname, rfl⟩
        | decimal => exact absurd rfl (hbody _)
        | hexadecimal => exact absurd rfl (hbody _)
      · cases h with
        | hexadecimal => exact absurd rfl (hbody _)

/-! ### References -/

theorem isBodyCharacter_ascii {c : Char} (h : isBodyCharacter c = true) : c.toNat < 128 ∧ c ≠ ';' := by
  simp only [isBodyCharacter, Bool.or_eq_true, beq_iff_eq] at h
  rcases h with (h | rfl) | rfl
  · refine ⟨toNat_lt_of_isAlphanum h, ?_⟩
    rintro rfl
    cases h
  · decide
  · decide

/-- The body of a reference has as many bytes as characters. -/
theorem byteLength_body {body : List Char} (h : ∀ c ∈ body, isBodyCharacter c = true) :
    byteLength body = body.length := by
  induction body with
  | nil => rfl
  | cons c body ih =>
    obtain ⟨hc, hbody⟩ := List.forall_mem_cons.mp h
    have hsize : c.utf8Size = 1 := by
      rw [Char.utf8Size_eq_one_iff, UInt32.le_iff_toNat_le]
      exact Nat.le_of_lt_succ (isBodyCharacter_ascii hc).1
    rw [byteLength, hsize, ih hbody, List.length_cons, Nat.add_comm]

/-- What a text begins with is read as a reference just where it is an accepted one. -/
theorem read?_iff {s rest : List Char} {c : Char} :
    read? s = some (c, rest) ↔ ∃ body, s = body ++ ';' :: rest ∧ Accepted body c := by
  constructor
  · intro h
    obtain ⟨body, hs, -, hlen, hbody⟩ := read?_eq_some h
    have hbytes := byteLength_body (isBodyCharacter_of_ofBody? hbody)
    exact ⟨body, hs, hbytes ▸ hlen, ofBody?_eq_some.mp hbody⟩
  · rintro ⟨body, rfl, hlen, hbody⟩
    have hbody := ofBody?_eq_some.mpr hbody
    have hcharacters := isBodyCharacter_of_ofBody? hbody
    have hends : body.all (· != ';') = true := List.all_eq_true.mpr fun d hd =>
      bne_iff_ne.mpr (isBodyCharacter_ascii (hcharacters d hd)).2
    exact read?_body (byteLength_body hcharacters ▸ hlen) hends hbody rest

/-! ### Decoding -/

theorem decode_nil : decode [] = [] := by
  unfold decode
  rw [replaceAll]

theorem decode_accepted {body : List Char} {c : Char} (h : Accepted body c) (rest : List Char) :
    decode ('&' :: (body ++ ';' :: rest)) = c :: decode rest := by
  have hread : read? (body ++ ';' :: rest) = some (c, rest) := read?_iff.mpr ⟨body, rfl, h⟩
  obtain ⟨body', hs, hbody, hlen, hc⟩ := read?_eq_some hread
  rw [hs]
  exact decode_reference body' hlen hbody hc rest

/-- A character that begins no reference is copied. -/
theorem decode_copied {c : Char} {s : List Char}
    (h : ∀ body rest d, c :: s = '&' :: (body ++ ';' :: rest) → ¬ Accepted body d) :
    decode (c :: s) = c :: decode s := by
  refine replaceAll_none ?_
  unfold match?
  split
  · rename_i s' heq
    obtain ⟨rfl, rfl⟩ := List.cons.inj heq
    refine Option.map_eq_none_iff.mpr (Option.eq_none_iff_forall_ne_some.mpr fun ⟨d, rest⟩ hread => ?_)
    obtain ⟨body, rfl, hbody⟩ := read?_iff.mp hread
    exact h body rest d rfl hbody
  · rfl

theorem decodes_decode (s : List Char) : Decodes Accepted s (decode s) := by
  -- The text behind a reference is shorter.
  induction hn : s.length using Nat.strongRecOn generalizing s with
  | ind n ih =>
    cases s with
    | nil =>
      rw [decode_nil]
      exact .nil
    | cons c s =>
      by_cases href : ∃ body rest d, c :: s = '&' :: (body ++ ';' :: rest) ∧ Accepted body d
      · obtain ⟨body, rest, d, hs, hbody⟩ := href
        have hlen : rest.length < n := by
          rw [← hn, hs, List.length_cons, List.length_append, List.length_cons]
          omega
        rw [hs, decode_accepted hbody]
        exact .reference hbody (ih _ hlen rest rfl)
      · have hnone : ∀ body rest d, c :: s = '&' :: (body ++ ';' :: rest) → ¬ Accepted body d :=
          fun body rest d hs hbody => href ⟨body, rest, d, hs, hbody⟩
        have hlen : s.length < n := hn ▸ Nat.lt_succ_self s.length
        rw [decode_copied hnone]
        exact .copied hnone (ih _ hlen s rfl)

theorem decode_of_decodes {s t : List Char} (h : Decodes Accepted s t) : decode s = t := by
  induction h with
  | nil => exact decode_nil
  | reference hbody _ ih => rw [decode_accepted hbody, ih]
  | copied hnone _ ih => rw [decode_copied hnone, ih]

/-- Only what is found in a text has a part in what it reads as. -/
theorem Decodes.congr {P Q : List Char → Char → Prop} {s t : List Char}
    (hpq : ∀ body rest c, '&' :: (body ++ ';' :: rest) <:+ s → (P body c ↔ Q body c))
    (h : Decodes P s t) : Decodes Q s t := by
  induction h with
  | nil => exact .nil
  | reference hbody _ ih =>
    rename_i body rest _ _ _
    have hrest : rest <:+ '&' :: (body ++ ';' :: rest) := ⟨'&' :: (body ++ [';']), by simp⟩
    exact .reference ((hpq body rest _ (List.suffix_refl _)).mp hbody)
      (ih fun body' rest' c hs => hpq body' rest' c (hs.trans hrest))
  | copied hnone _ ih =>
    rename_i s _ c _
    refine .copied (fun body rest d hs hbody => ?_)
      (ih fun body rest d hs => hpq body rest d (hs.trans (List.suffix_cons c s)))
    exact hnone body rest d hs ((hpq body rest d (hs ▸ List.suffix_refl _)).mpr hbody)

/-- No hexadecimal number of the text has a sign. -/
def Unsigned (s : List Char) : Prop := ∀ x, x = 'x' ∨ x = 'X' → ¬ ['&', '#', x, '+'] <:+: s

theorem accepted_iff_standard {s body rest : List Char} {c : Char} (h : Unsigned s)
    (hs : '&' :: (body ++ ';' :: rest) <:+ s) : Accepted body c ↔ Standard body c := by
  refine and_congr_right fun _ => or_iff_left ?_
  rintro (⟨hx, -⟩)
  have hlead (x : Char) (number : List Char) :
      ['&', '#', x, '+'] <+: '&' :: ('#' :: x :: '+' :: number ++ ';' :: rest) :=
    ⟨number ++ ';' :: rest, rfl⟩
  exact h _ hx ((hlead _ _).isInfix.trans hs.isInfix)

/-- **Decoding scans a text from left to right.** A reference is replaced with its character and reading
goes on behind it; every other character is copied, a `&` that begins no reference among them. The
references are those of markup of at most ten bytes, and those in which a hexadecimal number has a `+`;
in a text without the latter they are those of markup alone. -/
theorem decode_scans (s t : List Char) :
    (decode s = t ↔ Decodes Accepted s t) ∧ (Unsigned s → (decode s = t ↔ Decodes Standard s t)) := by
  have hall : decode s = t ↔ Decodes Accepted s t :=
    ⟨fun h => h ▸ decodes_decode s, decode_of_decodes⟩
  refine ⟨hall, fun hs => hall.trans ⟨?_, ?_⟩⟩
  · exact Decodes.congr fun _ _ _ hsuffix => accepted_iff_standard hs hsuffix
  · exact Decodes.congr fun _ _ _ hsuffix => (accepted_iff_standard hs hsuffix).symm

/-- A reference whose character begins no other, and a sign that is no part of one. -/
theorem decode_unsigned_text :
    Unsigned "&amp;lt; &#x263a; &#+5; &;".toList ∧
      Decodes Standard "&amp;lt; &#x263a; &#+5; &;".toList "&lt; \u263a &#+5; &;".toList := by
  have hunsigned : Unsigned "&amp;lt; &#x263a; &#+5; &;".toList := by
    rintro x (rfl | rfl) <;> decide +kernel
  exact ⟨hunsigned, ((decode_scans _ _).2 hunsigned).mp (by decide +kernel)⟩

/-- A number with a sign is replaced, although it is no reference of markup. -/
theorem signed_number_decoded :
    decode ['&', '#', 'x', '+', '4', '1', ';'] = ['A'] ∧
      ¬ Decodes Standard ['&', '#', 'x', '+', '4', '1', ';'] ['A'] := by
  refine ⟨by decide +kernel, fun h => ?_⟩
  generalize hs : ['&', '#', 'x', '+', '4', '1', ';'] = s at h
  generalize ht : ['A'] = t at h
  cases h with
  | nil => cases hs
  | copied =>
    obtain ⟨rfl, -⟩ := List.cons.inj ht
    cases hs
  | reference hbody _ =>
    rename_i body rest _ _ _
    obtain ⟨-, hs⟩ := List.cons.inj hs
    have hcharacters := isBodyCharacter_of_ofBody? (ofBody?_eq_some.mpr (.inl hbody.2))
    -- A body has no `;`, so that it ends at the first one.
    have hsplit : ['#', 'x', '+', '4', '1'] = body := by
      have hends : ∀ d ∈ body, (d != ';') = true := fun d hd =>
        bne_iff_ne.mpr (isBodyCharacter_ascii (hcharacters d hd)).2
      have htake := congrArg (List.takeWhile (· != ';')) hs
      rwa [takeWhile_stop hends rfl] at htake
    subst hsplit
    have hnumber := (digits?_eq_some (by decide)).mpr ((body_hexadecimal (.inl rfl)).mp hbody.2)
    have hnone : digits? 16 ['+', '4', '1'] = none := by decide
    rw [hnone] at hnumber
    cases hnumber

end Imageboard.Reference
