import Imageboard.Json.Record
import Imageboard.Proofs.Dictionary
import Imageboard.Proofs.Numeral
import Mathlib.Data.List.Forall2

/-! What is read from a record.

What was written into a field is read from it again. A nullable field that is null reads as one that is
left out, and a field of another name does not matter: records that are the `SameRecord` for a reader
are read alike (`required_congr`, `nullable_congr`). -/
namespace Imageboard.Json

/-! ### Values that were written -/

theorem asInt64?_ofInt64 (n : Int64) : asInt64? (ofInt64 n) = some n := by
  have hrange : Int64.minValue.toInt ≤ n.toInt ∧ n.toInt ≤ Int64.maxValue.toInt :=
    ⟨Int64.le_iff_toInt_le.mp (Int64.minValue_le n), Int64.le_iff_toInt_le.mp (Int64.le_maxValue n)⟩
  rw [ofInt64, asInt64?, Numeral.toInt64?, if_pos hrange, Int64.ofInt_toInt]

theorem asNatural?_ofNat {bound n : Nat} (h : n < bound) : asNatural? bound (ofNat n) = some n :=
  if_pos h

theorem asUInt32?_ofUInt32 (n : UInt32) : asUInt32? (ofUInt32 n) = some n := by
  rw [asUInt32?, ofUInt32, asNatural?_ofNat n.toNat_lt_size, Option.map_some, UInt32.ofNat_toNat]

theorem asUInt64?_ofUInt64 (n : UInt64) : asUInt64? (ofUInt64 n) = some n := by
  rw [asUInt64?, ofUInt64, asNatural?_ofNat n.toNat_lt_size, Option.map_some, UInt64.ofNat_toNat]

section
variable {read : Json → Option α} {write : α → Json} (hread : ∀ a, read (write a) = some a)
include hread

theorem asListOf?_ofList (list : List α) : asListOf? read (ofList write list) = some list := by
  show (list.map write).mapM read = some list
  induction list with
  | nil => rfl
  | cons a list ih => rw [List.map_cons, List.mapM_cons, hread, ih]; rfl

variable {fields : List (String × Json)} {name : String}

theorem required_written {a : α} (h : fields.lookup name = some (write a)) :
    required fields name read = some a := by
  rw [required, h, Option.bind_some, hread]

/-- What is written for a value is not null, so that the value is told from none. -/
theorem nullable_written (hwrite : ∀ a, write a ≠ null) {a : Option α}
    (h : fields.lookup name = some (ofOption write a)) : nullable fields name read = some a := by
  unfold nullable
  rw [h]
  cases a with
  | none => rfl
  | some a =>
    have hvalue := hread a
    have hne := hwrite a
    rw [ofOption]
    generalize write a = value at hvalue hne
    cases value with
    | null => exact absurd rfl hne
    | _ => exact congrArg (Option.map some) hvalue

end

/-! ### Records that are read alike -/

/-- A field of a record and of another one: both have it with values that are the same to a reader, or
neither has it, or the other one leaves out what is null. -/
inductive SameField (nullable : Prop) (same : Json → Json → Prop) : Option Json → Option Json → Prop
  | missing : SameField nullable same none none
  | value {v v' : Json} : same v v' → SameField nullable same (some v) (some v')
  | leftOut : nullable → SameField nullable same (some null) none

/-- An object and another one that differs in the order of its fields, in fields of other names than
those of the record, and in nullable fields that are null in the one and left out in the other. -/
inductive SameRecord (names nullables : List String) (same : String → Json → Json → Prop) :
    Json → Json → Prop
  | refl (j : Json) : SameRecord names nullables same j j
  | object {fields fields' : List (String × Json)} :
      (∀ name ∈ names, SameField (name ∈ nullables) (same name) (fields.lookup name)
        (fields'.lookup name)) →
      SameRecord names nullables same (object fields) (object fields')

/-- Arrays with items that are the same to a reader. -/
inductive SameItems (same : Json → Json → Prop) : Json → Json → Prop
  | refl (j : Json) : SameItems same j j
  | array {items items' : List Json} :
      List.Forall₂ same items items' → SameItems same (array items) (array items')

/-- Fields without those of some names, and with others added. -/
def edited (removed : List String) (added fields : List (String × Json)) : List (String × Json) :=
  fields.filter (fun field => field.1 ∉ removed) ++ added

theorem lookup_filter_not_mem (fields : List (String × Json)) (removed : List String) (name : String) :
    (fields.filter (fun field => field.1 ∉ removed)).lookup name =
      if name ∈ removed then none else fields.lookup name := by
  induction fields with
  | nil => exact (ite_self _).symm
  | cons field fields ih =>
    obtain ⟨key, value⟩ := field
    rw [List.filter_cons, lookup_cons_eq_ite]
    by_cases hkey : key ∈ removed
    · rw [if_neg (by simpa using hkey), ih]
      by_cases hname : name = key
      · rw [if_pos (hname ▸ hkey), if_pos (hname ▸ hkey)]
      · rw [if_neg hname]
    · rw [if_pos (by simpa using hkey), lookup_cons_eq_ite, ih]
      by_cases hname : name = key
      · rw [if_pos hname, if_neg (hname ▸ hkey), if_pos hname]
      · rw [if_neg hname, if_neg hname]

/-- Nullable fields that are null may be left out, and fields that the record has no name for may be
added. -/
theorem SameRecord.edited {names nullables removed : List String} {same : String → Json → Json → Prop}
    {fields added : List (String × Json)} (hsame : ∀ name v, same name v v)
    (hremoved : ∀ name ∈ removed, name ∈ nullables ∧ fields.lookup name = some null)
    (hadded : ∀ name ∈ names, name ∉ added.map (·.1)) :
    SameRecord names nullables same (Json.object fields) (Json.object (edited removed added fields)) := by
  refine .object fun name hname => ?_
  rw [Json.edited, List.lookup_append, lookup_filter_not_mem,
    lookup_eq_none_of_not_mem (hadded name hname), Option.or_none]
  by_cases hout : name ∈ removed
  · rw [if_pos hout, (hremoved name hout).2]
    exact .leftOut (hremoved name hout).1
  · rw [if_neg hout]
    cases fields.lookup name with
    | none => exact .missing
    | some value => exact .value (hsame name value)

section
variable {read : Json → Option α} {same : Json → Json → Prop} {nullables : List String}
  {fields fields' : List (String × Json)} {name : String}

theorem required_congr
    (h : SameField (name ∈ nullables) same (fields.lookup name) (fields'.lookup name))
    (hname : name ∉ nullables) (hread : ∀ v v', same v v' → read v' = read v) :
    required fields' name read = required fields name read := by
  unfold required
  generalize fields.lookup name = value at h
  generalize fields'.lookup name = value' at h
  cases h with
  | missing => rfl
  | value hsame => exact hread _ _ hsame
  | leftOut hnull => exact absurd hnull hname

theorem nullable_congr (h : SameField (name ∈ nullables) Eq (fields.lookup name) (fields'.lookup name)) :
    nullable fields' name read = nullable fields name read := by
  unfold nullable
  generalize fields.lookup name = value at h
  generalize fields'.lookup name = value' at h
  cases h with
  | missing => rfl
  | value hsame => rw [hsame]
  | leftOut => rfl

theorem asListOf?_congr (hread : ∀ v v', same v v' → read v' = read v) (j j' : Json)
    (h : SameItems same j j') : asListOf? read j' = asListOf? read j := by
  cases h with
  | refl => rfl
  | array hitems =>
    show List.mapM read _ = List.mapM read _
    induction hitems with
    | nil => rfl
    | cons hitem _ ih => rw [List.mapM_cons, List.mapM_cons, hread _ _ hitem, ih]

end

end Imageboard.Json
