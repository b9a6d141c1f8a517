import Imageboard.Text.Blank

/-! Whole numbers as text.

A numeral is an optional sign and one or more digits of its radix, letters standing for ten
and above in either case; `-` belongs to signed numbers only. Nothing else may surround it,
and a value out of range is no number. -/
namespace Imageboard.Numeral

def digitValue (c : Char) : Option Nat :=
  if c.isDigit then some (c.toNat - '0'.toNat)
  else if c.isLower then some (c.toNat - 'a'.toNat + 10)
  else if c.isUpper then some (c.toNat - 'A'.toNat + 10)
  else none

def digit? (radix : Nat) (c : Char) : Option Nat :=
  (digitValue c).filter (· < radix)

def isHexDigit (c : Char) : Bool := (digit? 16 c).isSome

/-- The value of a run of digits, read after the digits worth `value`. -/
def digitsFrom? (radix : Nat) (value : Nat) : List Char → Option Nat
  | [] => some value
  | c :: rest => do digitsFrom? radix (value * radix + (← digit? radix c)) rest

/-- The value of one or more digits. -/
def digits? (radix : Nat) : List Char → Option Nat
  | [] => none
  | s => digitsFrom? radix 0 s

/-- A number from 0 up to but not including `bound`, with an optional `+`. -/
def natural? (radix bound : Nat) (s : List Char) : Option Nat :=
  (match s with
    | '+' :: rest => digits? radix rest
    | _ => digits? radix s).filter (· < bound)

/-- A number with an optional sign. -/
def integer? (s : List Char) : Option Int :=
  match s with
  | '+' :: rest => (digits? 10 rest).map Int.ofNat
  | '-' :: rest => (digits? 10 rest).map fun n => -Int.ofNat n
  | _ => (digits? 10 s).map Int.ofNat

def uint32? (s : List Char) : Option UInt32 := (natural? 10 UInt32.size s).map UInt32.ofNat

def uint64? (s : List Char) : Option UInt64 := (natural? 10 UInt64.size s).map UInt64.ofNat

/-- The number in 64 bits with sign, if they hold it. -/
def toInt64? (n : Int) : Option Int64 :=
  if Int64.minValue.toInt ≤ n ∧ n ≤ Int64.maxValue.toInt then some (Int64.ofInt n) else none

def int64? (s : List Char) : Option Int64 := (integer? s).bind toInt64?

/-! Fields that boards print carelessly: blanks around the numeral do not matter, and what is
no number counts as absent. -/

def lenientUInt32? (s : String) : Option UInt32 := uint32? (Text.trim s.toList)

def lenientUInt64? (s : String) : Option UInt64 := uint64? (Text.trim s.toList)

def lenientInt64? (s : String) : Option Int64 := int64? (Text.trim s.toList)

/-- The decimal writing of a post number printed in base 36. -/
def decimalOfBase36? (id : String) : Option String :=
  (natural? 36 UInt64.size (Text.trim id.toList)).map fun n => toString n

end Imageboard.Numeral
