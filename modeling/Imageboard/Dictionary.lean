/-! Dictionaries: values under texts, kept in the order of their keys by code point.

A key stands once, so two dictionaries with the same value under every key are the same
list of entries. -/
namespace Imageboard

/-- `entries` with `value` under `key`, in place of any value there. -/
def insertSorted (key : String) (value : α) : List (String × α) → List (String × α)
  | [] => [(key, value)]
  | (k, v) :: rest =>
    if key < k then (key, value) :: (k, v) :: rest
    else if k < key then (k, v) :: insertSorted key value rest
    else (key, value) :: rest

structure Dictionary (α : Type) where
  entries : List (String × α)

namespace Dictionary

def empty : Dictionary α := ⟨[]⟩

def get? (d : Dictionary α) (key : String) : Option α := d.entries.lookup key

def insert (d : Dictionary α) (key : String) (value : α) : Dictionary α :=
  ⟨insertSorted key value d.entries⟩

/-- The later of two values under one key is kept. -/
def ofList (pairs : List (String × α)) : Dictionary α :=
  pairs.foldl (fun d (key, value) => d.insert key value) empty

end Dictionary

end Imageboard
