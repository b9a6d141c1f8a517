import Imageboard.Text.Search

/-! Expressions, and how they are looked for in a text.

A reader tries what an expression allows in an order of preference, and goes back to the next where the
rest of the expression fails: a repetition takes as many characters as it can, an option is taken where
it can be. The search begins at the first place of the text from which anything can be read.

`readMany_stretch`: where going back never helps, a repetition takes all that there is to take. -/
namespace Imageboard.Text

inductive Expression where
  /-- These characters. -/
  | text (t : List Char)
  /-- One character of a class. -/
  | one (p : Char → Bool)
  /-- Characters of a class, as many as possible. -/
  | many (p : Char → Bool)
  /-- Both expressions, one behind the other. -/
  | both (a b : Expression)
  /-- The expression if possible, else nothing. -/
  | optional (a : Expression)
  /-- The expression, what it reads being kept as the group of this number. -/
  | group (number : Nat) (a : Expression)
  /-- The end of the text. -/
  | finish

namespace Expression

/-- What has been kept, the latest group first. -/
abbrev Groups := List (Nat × List Char)

/-- Reads characters of a class in front of what `next` reads. -/
def readMany (p : Char → Bool) (next : List Char → Option α) : List Char → Option α
  | [] => next []
  | c :: s => if p c then (readMany p next s).or (next (c :: s)) else next (c :: s)

/-- Reads an expression in front of what `next` reads. -/
def read : Expression → (Groups → List Char → Option α) → Groups → List Char → Option α
  | text t, next, kept, s => (strip? t s).bind (next kept)
  | one p, next, kept, s =>
    match s with
    | [] => none
    | c :: rest => if p c then next kept rest else none
  | many p, next, kept, s => readMany p (next kept) s
  | both a b, next, kept, s => a.read (b.read next) kept s
  | optional a, next, kept, s => (a.read next kept s).or (next kept s)
  | group number a, next, kept, s =>
    a.read (fun kept rest => next ((number, s.take (s.length - rest.length)) :: kept) rest) kept s
  | finish, next, kept, s => if s.isEmpty then next kept s else none

/-- What is kept of the first place in the text where the expression can be read. -/
def search (e : Expression) : List Char → Option Groups
  | [] => e.read (fun kept _ => some kept) [] []
  | c :: s => (e.read (fun kept _ => some kept) [] (c :: s)).or (search e s)

variable {p : Char → Bool} {next : List Char → Option α}

/-- Where nothing more can be read behind all of a stretch than behind a part of it, the whole stretch
is taken. -/
theorem readMany_stretch
    (h : ∀ a b, (∀ c ∈ a, p c = true) → next b = none → next (a ++ b) = none) (s : List Char) :
    readMany p next s = next (s.dropWhile p) := by
  induction s with
  | nil => rfl
  | cons c s ih =>
    rw [readMany]
    split
    · rename_i hc
      rw [List.dropWhile_cons_of_pos hc, ih]
      cases hnext : next (s.dropWhile p) with
      | some found => rfl
      | none =>
        have hstretch : ∀ d ∈ c :: s.takeWhile p, p d = true :=
          List.forall_mem_cons.mpr ⟨hc, List.all_eq_true.mp List.all_takeWhile⟩
        have hwhole := h _ _ hstretch hnext
        rwa [List.cons_append, List.takeWhile_append_dropWhile] at hwhole
    · rename_i hc
      rw [List.dropWhile_cons_of_neg hc]

/-- What is to be read at the end of the text is read behind a stretch that reaches so far. -/
theorem readMany_finish (h : ∀ s ≠ [], next s = none) (s : List Char) :
    readMany p next s = if s.all p then next [] else none := by
  induction s with
  | nil => rfl
  | cons c s ih =>
    rw [readMany, h (c :: s) (List.cons_ne_nil c s), Option.or_none, ih, List.all_cons]
    cases hc : p c <;> rfl

end Expression

end Imageboard.Text
