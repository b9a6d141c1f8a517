/-! Punycode: characters beyond ASCII written with ASCII letters and digits.

The ASCII characters of a label come first, and after a hyphen the others, in the order of
their code points, each as the distance from the one before it. A distance is a run of base-36
digits, least first; a digit below the threshold of its place ends the run, and the thresholds
follow the distances seen so far. -/
namespace Imageboard.Punycode

def digitCharacter (d : Nat) : Char :=
  if d < 26 then Char.ofNat (97 + d) else Char.ofNat (22 + d)

def digitValue? (c : Char) : Option Nat :=
  if c.isLower then some (c.toNat - 97)
  else if c.isUpper then some (c.toNat - 65)
  else if c.isDigit then some (c.toNat - 22)
  else none

/-- The threshold of the digit at place `k`, counted in steps of 36 from 36. -/
def threshold (bias k : Nat) : Nat := min (max (k - bias) 1) 26

theorem threshold_bounds (bias k : Nat) : 1 ≤ threshold bias k ∧ threshold bias k ≤ 26 := by
  unfold threshold
  omega

def settle (delta k : Nat) : Nat :=
  if 455 < delta then settle (delta / 35) (k + 36) else k + 36 * delta / (delta + 38)
termination_by delta
decreasing_by exact Nat.div_lt_self (by omega) (by omega)

/-- The bias after a distance, with `count` characters placed so far. -/
def adapt (delta count : Nat) (first : Bool) : Nat :=
  let delta := if first then delta / 700 else delta / 2
  settle (delta + delta / count) 0

def writeDistance (bias k q : Nat) : List Char :=
  let t := threshold bias k
  if q < t then [digitCharacter q]
  else digitCharacter (t + (q - t) % (36 - t)) :: writeDistance bias (k + 36) ((q - t) / (36 - t))
termination_by q
decreasing_by
  have := threshold_bounds bias k
  exact Nat.lt_of_le_of_lt (Nat.div_le_self _ _) (by omega)

/-- What has been written of the characters beyond ASCII. -/
structure Progress where
  written : List Char
  delta : Nat
  bias : Nat
  placed : Nat

/-- Passes the character `c` of the label while the characters of code `code` are placed. -/
def Progress.pass (ascii code : Nat) (p : Progress) (c : Char) : Progress :=
  if c.toNat < code then { p with delta := p.delta + 1 }
  else if c.toNat = code then
    { written := p.written ++ writeDistance p.bias 36 p.delta
      delta := 0
      bias := adapt p.delta (p.placed + 1) (p.placed == ascii)
      placed := p.placed + 1 }
  else p

/-- Places the characters of each code in turn; `next` is the first code not yet passed. -/
def placeAll (label : List Char) (ascii : Nat) : (codes : List Nat) → (next : Nat) → Progress →
    Progress
  | [], _, p => p
  | code :: codes, next, p =>
    let p := { p with delta := p.delta + (code - next) * (p.placed + 1) }
    let p := label.foldl (Progress.pass ascii code) p
    placeAll label ascii codes (code + 1) { p with delta := p.delta + 1 }

def isAscii (c : Char) : Bool := c.toNat < 128

def encode (label : List Char) : List Char :=
  let ascii := label.filter isAscii
  let codes := (label.filter fun c => !isAscii c).map Char.toNat
  let sorted := (codes.mergeSort (· ≤ ·)).eraseDups
  let p := placeAll label ascii.length sorted 128 ⟨[], 0, 72, ascii.length⟩
  ascii ++ (if ascii.isEmpty then [] else ['-']) ++ p.written

/-- What has been read of the characters beyond ASCII: the label, the place of the last
character and its code, the bias, and the digits of the distance being read. -/
structure Reading where
  label : List Char
  place : Nat
  code : Nat
  bias : Nat
  start : Nat
  weight : Nat
  k : Nat

/-- Reads one digit. -/
def Reading.next? (r : Reading) (c : Char) : Option Reading := do
  let d ← digitValue? c
  let place := r.place + d * r.weight
  let t := threshold r.bias r.k
  if t ≤ d then some { r with place := place, weight := r.weight * (36 - t), k := r.k + 36 }
  else
    let count := r.label.length + 1
    let code := r.code + place / count
    let at_ := place % count
    if code.isValidChar ∧ 128 ≤ code then
      some
        { label := r.label.take at_ ++ Char.ofNat code :: r.label.drop at_
          place := at_ + 1
          code := code
          bias := adapt (place - r.start) count (r.start == 0)
          start := at_ + 1
          weight := 1
          k := 36 }
    else none

/-- The label that `s` writes, if it writes one. No hyphen follows an empty ASCII part. -/
def decode? (s : List Char) : Option (List Char) := do
  let ascii := ((s.reverse.dropWhile (· != '-')).drop 1).reverse
  let digits := if ascii.isEmpty then s else (s.reverse.takeWhile (· != '-')).reverse
  let r ← digits.foldlM Reading.next? ⟨ascii, 0, 128, 72, 0, 1, 36⟩
  if r.weight = 1 ∧ s.all isAscii then some r.label else none

end Imageboard.Punycode
