import Imageboard.Json.Basic
import Imageboard.Dictionary
import Imageboard.Numeral

/-! Reading JSON text.

The text is one value with spaces around it. Strings hold no bare control characters and no
half of a surrogate pair; a number beyond the range of binary64 is refused; arrays and objects
nest to a limit. An object keeps the last value of a key it repeats, and its fields come out
in the order of their keys. -/
namespace Imageboard
namespace Json

/-- How deep arrays and objects nest. -/
def depthLimit : Nat := 127

def isJsonSpace (c : Char) : Bool := c == ' ' || c == '\t' || c == '\n' || c == '\r'

/-! ### Strings -/

/-- The number that four hexadecimal digits write. -/
def unit? (a b c d : Char) : Option Nat := Numeral.digits? 16 [a, b, c, d]

def isHighSurrogate (n : Nat) : Bool := 0xD800 ≤ n && n < 0xDC00

def isLowSurrogate (n : Nat) : Bool := 0xDC00 ≤ n && n < 0xE000

def escapes : List (Char × Char) :=
  [('"', '"'), ('\\', '\\'), ('/', '/'), ('b', '\x08'), ('f', '\x0c'), ('n', '\n'), ('r', '\r'),
   ('t', '\t')]

/-- The rest of a string whose opening quote has been read, and what follows it. -/
def readString : List Char → Option (List Char × List Char)
  | '"' :: rest => some ([], rest)
  | '\\' :: 'u' :: a :: b :: c :: d :: '\\' :: 'u' :: e :: f :: g :: h :: rest => do
    let high ← unit? a b c d
    if isHighSurrogate high then
      let low ← unit? e f g h
      if isLowSurrogate low then
        let (s, rest) ← readString rest
        return (Char.ofNat (0x10000 + (high - 0xD800) * 0x400 + (low - 0xDC00)) :: s, rest)
      else none
    else if isLowSurrogate high then none
    else
      let (s, rest) ← readString ('\\' :: 'u' :: e :: f :: g :: h :: rest)
      return (Char.ofNat high :: s, rest)
  | '\\' :: 'u' :: a :: b :: c :: d :: rest => do
    let code ← unit? a b c d
    if isHighSurrogate code || isLowSurrogate code then none
    else
      let (s, rest) ← readString rest
      return (Char.ofNat code :: s, rest)
  | '\\' :: c :: rest => do
    let d ← escapes.lookup c
    let (s, rest) ← readString rest
    return (d :: s, rest)
  | c :: rest =>
    if c.toNat < 0x20 then none
    else do
      let (s, rest) ← readString rest
      return (c :: s, rest)
  | [] => none

/-! ### Numbers -/

/-- The least number that binary64 rounds to infinity. -/
def infinityBound : Nat := Nat.pow 2 1024 - Nat.pow 2 970

/-- Whether a fraction lies in the range of binary64. Only fractions with 309 digits before
the point need a closer look. -/
def inRange (d : Decimal) : Bool :=
  let size := (Nat.toDigits 10 d.digits).length + d.exponent
  if d.digits = 0 ∨ size < 309 then true
  else if 309 < size then false
  else d.digits * Nat.pow 10 d.exponent.toNat < infinityBound * Nat.pow 10 (-d.exponent).toNat

def digitsOf (s : List Char) : List Char := s.takeWhile Char.isDigit

def afterDigits (s : List Char) : List Char := s.dropWhile Char.isDigit

/-- The digits of a fraction and what follows it; none are written without a point. -/
def readFraction : List Char → Option (List Char × List Char)
  | '.' :: s => if (digitsOf s).isEmpty then none else some (digitsOf s, afterDigits s)
  | s => some ([], s)

def readExponent : List Char → Option (Option Int × List Char)
  | c :: s =>
    if c == 'e' || c == 'E' then
      let (sign, s) : Int × List Char :=
        match s with
        | '+' :: s => (1, s)
        | '-' :: s => (-1, s)
        | _ => (1, s)
      (Numeral.digits? 10 (digitsOf s)).map fun n => (some (sign * n), afterDigits s)
    else some (none, c :: s)
  | [] => some (none, [])

/-- The integer `n` below zero or not, as the number it is read as: what 64 bits do not hold
is a fraction, and so is a zero with a sign. -/
def ofWhole (negative : Bool) (n : Nat) : Json :=
  if negative then
    if n = 0 ∨ Int64.size / 2 < n then decimal ⟨true, n, 0⟩ else integer (-n)
  else if n < UInt64.size then integer n
  else decimal ⟨false, n, 0⟩

/-- A number without its sign, and what follows it. -/
def readUnsigned (negative : Bool) (s : List Char) : Option (Json × List Char) := do
  let whole := digitsOf s
  let n ← Numeral.digits? 10 whole
  if whole.length > 1 && whole.head? == some '0' then none
  let (fraction, rest) ← readFraction (afterDigits s)
  let (exponent, rest) ← readExponent rest
  let value ← Numeral.digits? 10 (whole ++ fraction)
  let json :=
    if fraction.isEmpty && exponent.isNone then ofWhole negative n
    else decimal ⟨negative, value, exponent.getD 0 - fraction.length⟩
  match json with
  | decimal d => if inRange d then some (json, rest) else none
  | _ => some (json, rest)

def readNumber : List Char → Option (Json × List Char)
  | '-' :: s => readUnsigned true s
  | s => readUnsigned false s

/-! ### Values -/

def skipSpace (s : List Char) : List Char := s.dropWhile isJsonSpace

theorem skipSpace_length (s : List Char) : (skipSpace s).length ≤ s.length :=
  (List.dropWhile_suffix _).length_le

/-- What is read from the beginning of `s`, and a shorter rest. -/
structure Taken (α : Type) (s : List Char) where
  value : α
  rest : List Char
  shorter : rest.length < s.length

/-- A reader's answer, with the evidence that it read something. -/
def taken? (s : List Char) : Option (α × List Char) → Option (Taken α s)
  | some (value, rest) => if h : rest.length < s.length then some ⟨value, rest, h⟩ else none
  | none => none

/-- A value that is no array and no object, from its first character. -/
def readScalar : List Char → Option (Json × List Char)
  | 'n' :: 'u' :: 'l' :: 'l' :: rest => some (null, rest)
  | 't' :: 'r' :: 'u' :: 'e' :: rest => some (bool true, rest)
  | 'f' :: 'a' :: 'l' :: 's' :: 'e' :: rest => some (bool false, rest)
  | '"' :: rest => (readString rest).map fun (s, rest) => (string (String.ofList s), rest)
  | s => readNumber s

mutual

/-- A value, where arrays and objects may nest `depth` deep. -/
def readValue (depth : Nat) (s : List Char) : Option (Taken Json s) :=
  match h : skipSpace s, depth with
  | '[' :: body, depth + 1 =>
    have hb : body.length < s.length := by
      have := skipSpace_length s
      rw [h] at this
      exact this
    match skipSpace body with
    | ']' :: rest => taken? s (some (array [], rest))
    | _ => taken? s ((readItems depth body).map fun t => (array t.value, t.rest))
  | '\x7b' :: body, depth + 1 =>
    have hb : body.length < s.length := by
      have := skipSpace_length s
      rw [h] at this
      exact this
    match skipSpace body with
    | '\x7d' :: rest => taken? s (some (object [], rest))
    | _ =>
      taken? s ((readFields depth body).map fun t => (object (Dictionary.ofList t.value).entries, t.rest))
  | start, _ => taken? s (readScalar start)
termination_by (s.length, 0)

/-- The items of an array up to its closing bracket. -/
def readItems (depth : Nat) (s : List Char) : Option (Taken (List Json) s) :=
  match readValue depth s with
  | none => none
  | some ⟨value, rest, hr⟩ =>
    match h : skipSpace rest with
    | ',' :: more =>
      have hm : more.length < s.length := by
        have := skipSpace_length rest
        rw [h] at this
        exact Nat.lt_trans this hr
      taken? s ((readItems depth more).map fun t => (value :: t.value, t.rest))
    | ']' :: rest => taken? s (some ([value], rest))
    | _ => none
termination_by (s.length, 1)

/-- The fields of an object up to its closing brace. -/
def readFields (depth : Nat) (s : List Char) : Option (Taken (List (String × Json)) s) :=
  match hq : skipSpace s with
  | '"' :: name =>
    match hn : readString name with
    | none => none
    | some (key, rest) =>
      match hc : skipSpace rest with
      | ':' :: body =>
        if hb : body.length < s.length then
          match readValue depth body with
          | none => none
          | some ⟨value, rest, hr⟩ =>
            match h : skipSpace rest with
            | ',' :: more =>
              have hm : more.length < s.length := by
                have := skipSpace_length rest
                rw [h] at this
                exact Nat.lt_trans this (Nat.lt_trans hr hb)
              taken? s ((readFields depth more).map fun t =>
                ((String.ofList key, value) :: t.value, t.rest))
            | '\x7d' :: rest => taken? s (some ([(String.ofList key, value)], rest))
            | _ => none
        else none
      | _ => none
  | _ => none
termination_by (s.length, 1)

end

/-- The value that a text writes, if it is JSON. -/
def parse? (text : String) : Option Json :=
  match readValue depthLimit text.toList with
  | some ⟨value, rest, _⟩ => if (skipSpace rest).isEmpty then some value else none
  | none => none

end Json

end Imageboard
