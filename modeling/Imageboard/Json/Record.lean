import Imageboard.Json.Basic

/-! Records in JSON.

A record is an object with a field for every name; fields beyond those do not count. An array
with one item for every name, in order, is the same record. -/
namespace Imageboard.Json

/-- The fields of a record with these names. -/
def record? (names : List String) : Json → Option (List (String × Json))
  | object fields => some fields
  | array items => if items.length = names.length then some (names.zip items) else none
  | _ => none

/-- A field that has to be there. -/
def required (fields : List (String × Json)) (name : String) (read : Json → Option α) : Option α :=
  (fields.lookup name).bind read

/-- A field that may be null or left out. -/
def nullable (fields : List (String × Json)) (name : String) (read : Json → Option α) :
    Option (Option α) :=
  match fields.lookup name with
  | none => some none
  | some null => some none
  | some value => (read value).map some

def asUInt32? (j : Json) : Option UInt32 := (j.asNatural? UInt32.size).map UInt32.ofNat

def asUInt64? (j : Json) : Option UInt64 := (j.asNatural? UInt64.size).map UInt64.ofNat

def ofUInt32 (n : UInt32) : Json := ofNat n.toNat

def ofUInt64 (n : UInt64) : Json := ofNat n.toNat

/-- The items of an array, each of them read. -/
def asListOf? (read : Json → Option α) (j : Json) : Option (List α) :=
  j.asArray?.bind fun items => items.mapM read

def ofList (write : α → Json) (list : List α) : Json := array (list.map write)

end Imageboard.Json
