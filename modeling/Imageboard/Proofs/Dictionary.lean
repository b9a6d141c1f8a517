import Imageboard.Dictionary

/-! What is found in a dictionary.

A value is found under the key it was inserted by, and nothing else changes: `get?_insert`. The later of
two values for a key is kept, and values for different keys can be inserted in either order. -/
namespace Imageboard

theorem lookup_cons_eq_ite (key k : String) (value : α) (entries : List (String × α)) :
    ((key, value) :: entries).lookup k = if k = key then some value else entries.lookup k := by
  rw [List.lookup_cons]
  by_cases h : k = key
  · rw [if_pos h, beq_iff_eq.mpr h]
  · rw [if_neg h, beq_false_of_ne h]

theorem lookup_eq_none_of_not_mem {key : String} {entries : List (String × α)}
    (h : key ∉ entries.map (·.1)) : entries.lookup key = none := by
  induction entries with
  | nil => rfl
  | cons entry entries ih =>
    obtain ⟨key', value⟩ := entry
    obtain ⟨hne, hentries⟩ := not_or.mp (mt List.mem_cons.mpr h)
    rw [lookup_cons_eq_ite, if_neg hne, ih hentries]

theorem lookup_insertSorted (key k : String) (value : α) (entries : List (String × α)) :
    (insertSorted key value entries).lookup k =
      if k = key then some value else entries.lookup k := by
  induction entries with
  | nil => exact lookup_cons_eq_ite key k value []
  | cons entry entries ih =>
    obtain ⟨key', value'⟩ := entry
    rw [insertSorted]
    split
    · exact lookup_cons_eq_ite key k value _
    · rename_i hnot
      split
      · rename_i hbehind
        have hne : key ≠ key' := by rintro rfl; exact hnot hbehind
        rw [lookup_cons_eq_ite, lookup_cons_eq_ite, ih]
        by_cases hk : k = key
        · simp only [hk, hne, if_true, if_false]
        · simp only [hk, if_false]
      · rename_i hnot'
        obtain rfl : key = key' :=
          String.le_antisymm (String.not_lt.mp hnot') (String.not_lt.mp hnot)
        rw [lookup_cons_eq_ite, lookup_cons_eq_ite]
        split <;> rfl

theorem insertSorted_insertSorted_self (key : String) (value value' : α)
    (entries : List (String × α)) :
    insertSorted key value' (insertSorted key value entries) = insertSorted key value' entries := by
  have hself : ¬key < key := String.lt_irrefl key
  induction entries with
  | nil => simp only [insertSorted, hself, if_false]
  | cons entry entries ih =>
    obtain ⟨k, v⟩ := entry
    by_cases hbefore : key < k
    · simp only [insertSorted, hbefore, if_true, hself, if_false]
    · by_cases hbehind : k < key
      · simp only [insertSorted, hbefore, hbehind, if_true, if_false, ih]
      · simp only [insertSorted, hbefore, hbehind, hself, if_false]

/-- The cases by which `insertSorted` goes. -/
theorem lt_or_gt_or_eq (k key : String) : key < k ∧ ¬k < key ∨ k < key ∧ ¬key < k ∨ k = key := by
  by_cases hlt : key < k
  · exact .inl ⟨hlt, String.lt_asymm hlt⟩
  · by_cases hgt : k < key
    · exact .inr (.inl ⟨hgt, hlt⟩)
    · exact .inr (.inr (String.le_antisymm (String.not_lt.mp hlt) (String.not_lt.mp hgt)))

theorem insertSorted_comm {key key' : String} (h : key < key') (value value' : α)
    (entries : List (String × α)) :
    insertSorted key value (insertSorted key' value' entries) =
      insertSorted key' value' (insertSorted key value entries) := by
  have hnot : ¬key' < key := String.lt_asymm h
  induction entries with
  | nil => simp only [insertSorted, h, hnot, if_true, if_false]
  | cons entry entries ih =>
    obtain ⟨k, v⟩ := entry
    rcases lt_or_gt_or_eq k key with ⟨hk, hk'⟩ | ⟨hk, hk'⟩ | rfl
    · rcases lt_or_gt_or_eq k key' with ⟨hl, hl'⟩ | ⟨hl, hl'⟩ | rfl
      · simp only [insertSorted, h, hnot, hk, hl, hl', if_true, if_false]
      · simp only [insertSorted, h, hnot, hk, hl, hl', if_true, if_false]
      · simp only [insertSorted, h, hnot, String.lt_irrefl, if_true, if_false]
    · have hbefore : k < key' := String.lt_trans hk h
      simp only [insertSorted, hk, hk', hbefore, String.lt_asymm hbefore, if_true, if_false, ih]
    · simp only [insertSorted, h, hnot, String.lt_irrefl, if_true, if_false]

theorem Dictionary.get?_insert (d : Dictionary α) (key k : String) (value : α) :
    (d.insert key value).get? k = if k = key then some value else d.get? k :=
  lookup_insertSorted key k value d.entries

theorem Dictionary.insert_insert_self (d : Dictionary α) (key : String) (value value' : α) :
    (d.insert key value).insert key value' = d.insert key value' :=
  congrArg mk (insertSorted_insertSorted_self key value value' d.entries)

theorem Dictionary.insert_comm (d : Dictionary α) {key key' : String} (h : key ≠ key')
    (value value' : α) :
    (d.insert key value).insert key' value' = (d.insert key' value').insert key value := by
  rcases lt_or_gt_or_eq key' key with ⟨hlt, -⟩ | ⟨hlt, -⟩ | heq
  · exact congrArg mk (insertSorted_comm hlt value value' d.entries).symm
  · exact congrArg mk (insertSorted_comm hlt value' value d.entries)
  · exact absurd heq.symm h

end Imageboard
