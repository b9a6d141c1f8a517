/-! Byte offsets in a text, as its UTF-8 form has them.

`slice_middle`: cutting a text between the offsets of two of its ends gives what stands
between them. -/
namespace Imageboard.Text

def byteLength : List Char → Nat
  | [] => 0
  | c :: s => c.utf8Size + byteLength s

@[simp] theorem byteLength_append (a b : List Char) :
    byteLength (a ++ b) = byteLength a + byteLength b := by
  induction a with
  | nil => simp [byteLength]
  | cons c a ih => simp [byteLength, ih, Nat.add_assoc]

theorem byteLength_pos {s : List Char} (h : s ≠ []) : 0 < byteLength s := by
  cases s with
  | nil => exact absurd rfl h
  | cons c s => simp only [byteLength]; have := c.utf8Size_pos; omega

/-- The text from byte `n` on; a character that `n` cuts is left out. -/
def dropBytes : Nat → List Char → List Char
  | 0, s => s
  | _ + 1, [] => []
  | n + 1, c :: s => dropBytes (n + 1 - c.utf8Size) s

/-- The longest beginning of the text of at most `n` bytes. -/
def takeBytes : Nat → List Char → List Char
  | _, [] => []
  | n, c :: s => if c.utf8Size ≤ n then c :: takeBytes (n - c.utf8Size) s else []

/-- The text without its last `n` bytes, unless it is shorter or they begin inside a character. -/
def dropLastBytes? (n : Nat) (s : List Char) : Option (List Char) :=
  let start := takeBytes (byteLength s - n) s
  if byteLength start + n = byteLength s then some start else none

def slice (s : List Char) (start stop : Nat) : List Char :=
  takeBytes (stop - start) (dropBytes start s)

@[simp] theorem dropBytes_append (a b : List Char) : dropBytes (byteLength a) (a ++ b) = b := by
  induction a with
  | nil => simp [byteLength, dropBytes]
  | cons c a ih =>
    have hc := c.utf8Size_pos
    obtain ⟨n, hn⟩ : ∃ n, c.utf8Size + byteLength a = n + 1 :=
      ⟨c.utf8Size + byteLength a - 1, by omega⟩
    rw [byteLength, hn, List.cons_append, dropBytes, ← hn, Nat.add_sub_cancel_left, ih]

@[simp] theorem takeBytes_append (a b : List Char) : takeBytes (byteLength a) (a ++ b) = a := by
  induction a with
  | nil =>
    cases b with
    | nil => rfl
    | cons c b => have := c.utf8Size_pos; simp [byteLength, takeBytes]; omega
  | cons c a ih => simp [byteLength, takeBytes, ih]

/-- Cutting out the middle of a text gives the middle. -/
theorem slice_middle (a b c : List Char) :
    slice (a ++ b ++ c) (byteLength a) (byteLength a + byteLength b) = b := by
  rw [slice, List.append_assoc, dropBytes_append, Nat.add_sub_cancel_left, takeBytes_append]

end Imageboard.Text
