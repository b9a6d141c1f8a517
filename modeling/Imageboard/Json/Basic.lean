import Imageboard.Numeral

/-! JSON values.

Integers and decimal fractions are different numbers here: `1.0` is no integer. The fields of
an object stand in the order they are written out. -/
namespace Imageboard

/-- A decimal fraction: `digits` times ten to the power `exponent`, below zero when
`negative`. -/
structure Decimal where
  negative : Bool
  digits : Nat
  exponent : Int
  deriving DecidableEq

inductive Json where
  | null
  | bool (value : Bool)
  | integer (value : Int)
  | decimal (value : Decimal)
  | string (value : String)
  | array (items : List Json)
  | object (fields : List (String × Json))

namespace Json

def asBool? : Json → Option Bool
  | bool b => some b
  | _ => none

def asString? : Json → Option String
  | string s => some s
  | _ => none

/-- An integer of 64 bits with sign. -/
def asInt64? : Json → Option Int64
  | integer n => Numeral.toInt64? n
  | _ => none

/-- An integer from 0 up to but not including `bound`. -/
def asNatural? (bound : Nat) : Json → Option Nat
  | integer (.ofNat n) => if n < bound then some n else none
  | _ => none

def asArray? : Json → Option (List Json)
  | array items => some items
  | _ => none

def asObject? : Json → Option (List (String × Json))
  | object fields => some fields
  | _ => none

/-- The value of a field, if this is an object that has it. -/
def field? (key : String) : Json → Option Json
  | object fields => fields.lookup key
  | _ => none

def ofInt64 (n : Int64) : Json := integer n.toInt

def ofNat (n : Nat) : Json := integer (Int.ofNat n)

def ofOption (write : α → Json) : Option α → Json
  | some a => write a
  | none => null

end Json

end Imageboard
