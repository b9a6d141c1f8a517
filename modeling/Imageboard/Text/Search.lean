/-! Looking for one text inside another.

`splitFirst?_eq`: what is found is the text before the first occurrence and the text after
it. -/
namespace Imageboard.Text

/-- What follows `lead` in a text that begins with it. -/
def strip? [BEq α] : (lead s : List α) → Option (List α)
  | [], s => some s
  | _ :: _, [] => none
  | c :: lead, d :: s => if c == d then strip? lead s else none

theorem strip?_eq [BEq α] [LawfulBEq α] {lead s rest : List α} (h : strip? lead s = some rest) :
    s = lead ++ rest := by
  fun_induction strip? lead s with
  | case1 s => simpa using h
  | case2 => simp at h
  | case3 c lead d s hcd ih => simp [eq_of_beq hcd, ih h]
  | case4 => simp at h

/-- The parts of a text on either side of the first `needle` in it. -/
def splitFirst? [BEq α] (needle : List α) (s : List α) : Option (List α × List α) :=
  match strip? needle s with
  | some rest => some ([], rest)
  | none =>
    match s with
    | [] => none
    | c :: s => (splitFirst? needle s).map fun (before, after) => (c :: before, after)

theorem splitFirst?_eq [BEq α] [LawfulBEq α] {needle s before after : List α}
    (h : splitFirst? needle s = some (before, after)) : s = before ++ needle ++ after := by
  induction s generalizing before with
  | nil =>
    rw [splitFirst?] at h
    split at h
    · rename_i rest hs
      have := strip?_eq hs
      simp_all
    · simp at h
  | cons c s ih =>
    rw [splitFirst?] at h
    split at h
    · rename_i rest hs
      have := strip?_eq hs
      simp_all
    · obtain ⟨⟨b, a⟩, hb, he⟩ := Option.map_eq_some_iff.mp h
      simp only [Prod.mk.injEq] at he
      obtain ⟨rfl, rfl⟩ := he
      simp [ih hb]

/-- The parts of a text on either side of the last `needle` in it. -/
def splitLast? [BEq α] (needle : List α) (s : List α) : Option (List α × List α) :=
  match s with
  | [] => (strip? needle []).map fun rest => ([], rest)
  | c :: s =>
    match splitLast? needle s with
    | some (before, after) => some (c :: before, after)
    | none => (strip? needle (c :: s)).map fun rest => ([], rest)

/-- What a reader makes of the first place of a text where it makes something. -/
def readFirst? (reader : List Char → Option α) : List Char → Option α
  | [] => none
  | c :: s => (reader (c :: s)).or (readFirst? reader s)

/-- What a reader makes of the last place of a text where it makes something. -/
def readLast? (reader : List Char → Option α) : List Char → Option α
  | [] => none
  | c :: s => (readLast? reader s).or (reader (c :: s))

/-- The stretches of a text between the characters that separate them. -/
def stretches (separates : Char → Bool) : List Char → List (List Char)
  | [] => [[]]
  | c :: s =>
    if separates c then [] :: stretches separates s
    else
      match stretches separates s with
      | [] => [[c]]
      | first :: rest => (c :: first) :: rest

theorem mem_of_mem_stretches {separates : Char → Bool} {s part : List Char} {c : Char}
    (hpart : part ∈ stretches separates s) (hc : c ∈ part) : c ∈ s := by
  fun_induction stretches separates s generalizing part with
  | case1 =>
    obtain rfl := List.mem_singleton.mp hpart
    exact hc
  | case2 d s hd ih =>
    obtain rfl | hpart := List.mem_cons.mp hpart
    · cases hc
    · exact List.mem_cons_of_mem d (ih hpart hc)
  | case3 d s hd hs ih =>
    obtain rfl := List.mem_singleton.mp hpart
    obtain rfl := List.mem_singleton.mp hc
    exact List.mem_cons_self
  | case4 d s hd first rest hs ih =>
    obtain rfl | hpart := List.mem_cons.mp hpart
    · obtain rfl | hc := List.mem_cons.mp hc
      · exact List.mem_cons_self
      · exact List.mem_cons_of_mem d (ih (hs ▸ List.mem_cons_self) hc)
    · exact List.mem_cons_of_mem d (ih (hs ▸ List.mem_cons_of_mem first hpart) hc)

def contains (needle s : String) : Bool := (splitFirst? needle.toList s.toList).isSome

def startsWith (lead s : String) : Bool := (strip? lead.toList s.toList).isSome

def endsWith (tail s : String) : Bool := (strip? tail.toList.reverse s.toList.reverse).isSome

end Imageboard.Text
