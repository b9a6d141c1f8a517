/-! The attributes of a tag: keys with values, in the order of the page. A key that a tag
repeats keeps its first value, so no key occurs twice. -/
namespace Imageboard

structure Attributes where
  entries : List (String × String) := []
  nodup : (entries.map (·.1)).Nodup := by simp
  deriving DecidableEq

namespace Attributes

def empty : Attributes := {}

def get? (a : Attributes) (key : String) : Option String :=
  (a.entries.find? (·.1 == key)).map (·.2)

def contains (a : Attributes) (key : String) : Bool := a.entries.any (·.1 == key)

/-- The value of `key`, empty where the tag does not carry it. -/
def getD (a : Attributes) (key : String) : String := (a.get? key).getD ""

def size (a : Attributes) : Nat := a.entries.length

theorem contains_eq_false_iff {a : Attributes} {key : String} :
    a.contains key = false ↔ key ∉ a.entries.map (·.1) := by
  simp [contains]
  grind

def insert (a : Attributes) (key value : String) : Attributes :=
  if h : a.contains key then a
  else
    { entries := a.entries ++ [(key, value)]
      nodup := by
        have hk := contains_eq_false_iff.mp (Bool.not_eq_true _ ▸ h)
        rw [List.map_append, List.nodup_append]
        refine ⟨a.nodup, by simp, fun x hx y hy => ?_⟩
        simp only [List.map_cons, List.map_nil, List.mem_singleton] at hy
        exact fun e => hk (hy ▸ e ▸ hx) }

def ofList (pairs : List (String × String)) : Attributes :=
  pairs.foldl (fun a (key, value) => a.insert key value) empty

theorem entries_insert (a : Attributes) (key value : String) :
    (a.insert key value).entries =
      if a.contains key then a.entries else a.entries ++ [(key, value)] := by
  unfold insert
  split <;> simp_all

end Attributes

end Imageboard
