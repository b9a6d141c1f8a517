import Imageboard.Markup.Reference
import Imageboard.Proofs.Numeral
import Imageboard.Proofs.Text.Replace

/-! Where character references end.

The body of a reference has neither `&` nor `>` in it, so that no reference reaches across one of
them: `decode_append_stop`. -/
namespace Imageboard.Reference
open Text

theorem digits?_characters {radix n : Nat} {s : List Char} (h : Numeral.digits? radix s = some n) :
    ∀ c ∈ s, (Numeral.digit? radix c).isSome = true := by
  have hfrom {value n : Nat} {s : List Char} (h : Numeral.digitsFrom? radix value s = some n) :
      ∀ c ∈ s, (Numeral.digit? radix c).isSome = true := by
    induction s generalizing value with
    | nil => exact nofun
    | cons c s ih =>
      obtain ⟨d, hd, hrest⟩ := Option.bind_eq_some_iff.mp h
      exact List.forall_mem_cons.mpr ⟨by rw [hd]; rfl, ih hrest⟩
  cases s with
  | nil => cases h
  | cons c s => exact hfrom h

theorem natural?_characters {radix bound n : Nat} {s : List Char}
    (h : Numeral.natural? radix bound s = some n) :
    ∀ c ∈ s, c = '+' ∨ (Numeral.digit? radix c).isSome = true := by
  obtain ⟨h, -⟩ := Option.filter_eq_some_iff.mp h
  intro c hc
  split at h
  · rcases List.mem_cons.mp hc with rfl | hc
    · exact .inl rfl
    · exact .inr (digits?_characters h c hc)
  · exact .inr (digits?_characters h c hc)

/-- The characters that the body of a reference is made of. -/
def isBodyCharacter (c : Char) : Bool := c.isAlphanum || c == '#' || c == '+'

theorem isBodyCharacter_of_ofBody? {body : List Char} {c : Char} (h : ofBody? body = some c) :
    ∀ d ∈ body, isBodyCharacter d = true := by
  have hnumber {radix : Nat} {s : List Char}
      (h : (Numeral.natural? radix UInt32.size s).bind character? = some c) :
      ∀ d ∈ s, isBodyCharacter d = true := by
    obtain ⟨n, hn, -⟩ := Option.bind_eq_some_iff.mp h
    intro d hd
    rcases natural?_characters hn d hd with rfl | hdigit
    · rfl
    · obtain ⟨value, hvalue⟩ := Option.isSome_iff_exists.mp hdigit
      have hd := Numeral.isAlphanum_of_digitValue (Option.filter_eq_some_iff.mp hvalue).1
      simp [isBodyCharacter, hd]
  unfold ofBody? at h
  split at h
  · split at h
    · exact List.forall_mem_cons.mpr ⟨rfl, List.forall_mem_cons.mpr ⟨rfl, hnumber h⟩⟩
    · exact List.forall_mem_cons.mpr ⟨rfl, List.forall_mem_cons.mpr ⟨rfl, hnumber h⟩⟩
    · split at h
      · exact List.forall_mem_cons.mpr ⟨rfl, hnumber h⟩
      · cases h
  · obtain ⟨⟨name, d⟩, hfound, -⟩ := Option.map_eq_some_iff.mp h
    have hmem := List.mem_of_find?_eq_some hfound
    have hname : name.toList = body := by simpa using List.find?_some hfound
    have hnames : ∀ entry ∈ names, entry.1.toList.all isBodyCharacter = true := by decide +kernel
    exact hname ▸ List.all_eq_true.mp (hnames _ hmem)

/-- The characters that stop a reference. -/
def Stops (c : Char) : Prop := c = '&' ∨ c = '>'

theorem not_stops_of_ofBody? {body : List Char} {c : Char} (h : ofBody? body = some c) :
    ∀ d ∈ body, ¬ Stops d := by
  rintro d hd (rfl | rfl)
  all_goals cases isBodyCharacter_of_ofBody? h _ hd

/-! ### Where a reference ends -/

theorem read?_body {body : List Char} {c : Char} (hlen : body.length ≤ longestBody)
    (hbody : body.all (· != ';') = true) (hc : ofBody? body = some c) (rest : List Char) :
    read? (body ++ ';' :: rest) = some (c, rest) := by
  have htake : ((body ++ ';' :: rest).take (longestBody + 1)).takeWhile (· != ';') = body := by
    obtain ⟨n, hn⟩ : ∃ n, longestBody + 1 - body.length = n + 1 :=
      ⟨longestBody - body.length, by omega⟩
    rw [List.take_append, List.take_of_length_le (by omega), hn, List.take_succ_cons,
      List.takeWhile_append_of_pos (List.all_eq_true.mp hbody),
      List.takeWhile_cons_of_neg (by decide), List.append_nil]
  unfold read?
  dsimp only
  rw [htake, List.drop_left]
  show (if body.length ≤ longestBody then (ofBody? body).map (·, rest) else none) = _
  rw [if_pos hlen, hc]
  rfl

theorem decode_reference (body : List Char) {c : Char} (hlen : body.length ≤ longestBody)
    (hbody : body.all (· != ';') = true) (hc : ofBody? body = some c) (rest : List Char) :
    decode ('&' :: (body ++ ';' :: rest)) = c :: decode rest := by
  have hmatch : match? ('&' :: (body ++ ';' :: rest)) = some ([c], rest) := by
    show (read? (body ++ ';' :: rest)).map _ = _
    rw [read?_body hlen hbody hc]
    rfl
  have hrest : rest.length ≤ (body ++ ';' :: rest).length := by
    rw [List.length_append, List.length_cons]
    omega
  unfold decode
  rw [replaceAll_some hmatch hrest]
  rfl

theorem read?_eq_some {s rest : List Char} {c : Char} (h : read? s = some (c, rest)) :
    ∃ body, s = body ++ ';' :: rest ∧ body.all (· != ';') = true ∧ body.length ≤ longestBody ∧
      ofBody? body = some c := by
  have hbody : (s.take (longestBody + 1)).takeWhile (· != ';') <+: s :=
    (List.takeWhile_prefix _).trans (List.take_prefix _ s)
  have hall : ((s.take (longestBody + 1)).takeWhile (· != ';')).all (· != ';') = true :=
    List.all_takeWhile
  unfold read? at h
  dsimp only at h
  generalize (s.take (longestBody + 1)).takeWhile (· != ';') = body at h hbody hall
  obtain ⟨behind, rfl⟩ := hbody
  rw [List.drop_left] at h
  split at h
  · split at h
    · rename_i rest' hlen
      obtain ⟨d, hd, heq⟩ := Option.map_eq_some_iff.mp h
      obtain ⟨rfl, rfl⟩ := Prod.mk.inj heq
      exact ⟨body, rfl, hall, hlen, hd⟩
    · cases h
  · cases h

/-- A reference in front of a character that stops it does not depend on what follows. -/
theorem read?_append_stop {c : Char} (hc : Stops c) (s t : List Char) :
    read? (s ++ c :: t) = (read? s).map fun (d, rest) => (d, rest ++ c :: t) := by
  cases hs : read? s with
  | some found =>
    obtain ⟨d, rest⟩ := found
    obtain ⟨body, rfl, hbody, hlen, hd⟩ := read?_eq_some hs
    rw [List.append_assoc, List.cons_append, read?_body hlen hbody hd]
    rfl
  | none =>
    refine Option.eq_none_iff_forall_ne_some.mpr fun ⟨d, rest⟩ hfound => ?_
    obtain ⟨body, hsplit, hbody, hlen, hd⟩ := read?_eq_some hfound
    have hbody' : c ∉ body := fun hmem => not_stops_of_ofBody? hd c hmem hc
    have hsemicolon : c ≠ ';' := by rintro rfl; rcases hc with h | h <;> cases h
    -- The body ends in front of the character, which is not in it, so that it is within the text.
    rcases List.append_eq_append_iff.mp hsplit with ⟨more, rfl, hbehind⟩ | ⟨more, rfl, hbehind⟩
    · cases more with
      | nil => exact hsemicolon (List.cons.inj hbehind).1
      | cons e more =>
        obtain ⟨rfl, -⟩ := List.cons.inj hbehind
        exact hbody' (List.mem_append_right _ List.mem_cons_self)
    · cases more with
      | nil => exact hsemicolon (List.cons.inj hbehind).1.symm
      | cons e more =>
        obtain ⟨rfl, -⟩ := List.cons.inj hbehind
        rw [read?_body hlen hbody hd] at hs
        cases hs

/-- The references of a text in front of a character that stops them are those of the text alone. -/
theorem decode_append_stop {c : Char} (hc : Stops c) (s t : List Char) :
    decode (s ++ c :: t) = decode s ++ decode (c :: t) := by
  refine replaceAll_append (fun d s => ?_) (fun d s new rest h => ?_) s
  · by_cases hd : d = '&'
    · subst hd
      show (read? (s ++ c :: t)).map _ = ((read? s).map _).map _
      rw [read?_append_stop hc, Option.map_map, Option.map_map]
      rfl
    · have hnone (s : List Char) : match? (d :: s) = none := by
        unfold match?
        split
        · rename_i heq
          exact absurd (List.cons.inj heq).1 hd
        · rfl
      rw [hnone, hnone]
      rfl
  · unfold match? at h
    split at h
    · rename_i s' heq
      obtain ⟨⟨e, rest'⟩, hread, hnew⟩ := Option.map_eq_some_iff.mp h
      obtain ⟨-, rfl⟩ := Prod.mk.inj hnew
      obtain ⟨body, hs, -⟩ := read?_eq_some hread
      rw [(List.cons.inj heq).2, hs, List.length_append, List.length_cons]
      omega
    · cases h

end Imageboard.Reference
