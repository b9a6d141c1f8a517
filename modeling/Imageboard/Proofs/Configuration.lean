import Imageboard.Configuration
import Imageboard.Proofs.Dictionary

/-! What is stored in a configuration, and what is not.

A value is found under the key it was stored by, and nothing else changes: `get?_set`. A later value
under a key takes the place of the earlier one (`set_set_self`), and values under different keys can be
stored in either order (`set_comm`). What is known of the pages and of the title of a board is two
values that do not disturb each other, and a number of pages is found as it was stored
(`pagesCount?_storePagesCount`). -/
namespace Imageboard.Configuration

/-- A stored value is found again, and every other value is as it was. -/
theorem get?_set (c : Configuration) (scope scope' : Scope) (key key' : String) (value : Json) :
    (c.set scope key value).get? scope' key' =
      if scope' = scope ∧ key' = key then some value else c.get? scope' key' := by
  cases scope with
  | site =>
    cases scope' with
    | site => simp [set, get?, Dictionary.get?_insert]
    | board name => simp [set, get?]
  | board name =>
    cases scope' with
    | site => simp [set, get?]
    | board name' =>
      simp only [set, get?, Dictionary.get?_insert, Scope.board.injEq]
      by_cases h : name' = name
      · subst h
        simp only [if_true, Option.bind_some, Dictionary.get?_insert, true_and]
        split
        · rfl
        · cases c.boards.get? name' <;> rfl
      · simp [h]

/-- The later of two values under one key is kept. -/
theorem set_set_self (c : Configuration) (scope : Scope) (key : String) (value value' : Json) :
    (c.set scope key value).set scope key value' = c.set scope key value' := by
  cases scope with
  | site => simp only [set, Dictionary.insert_insert_self]
  | board name =>
    simp only [set, Dictionary.get?_insert, if_true, Option.getD_some,
      Dictionary.insert_insert_self]

/-- Values under different keys can be stored in either order. -/
theorem set_comm (c : Configuration) {scope scope' : Scope} {key key' : String}
    (h : ¬(scope = scope' ∧ key = key')) (value value' : Json) :
    (c.set scope key value).set scope' key' value' =
      (c.set scope' key' value').set scope key value := by
  cases scope with
  | site =>
    cases scope' with
    | site => simp only [set, c.global.insert_comm fun hkey => h ⟨rfl, hkey⟩]
    | board name => rfl
  | board name =>
    cases scope' with
    | site => rfl
    | board name' =>
      by_cases hname : name = name'
      · subst hname
        simp only [set, Dictionary.get?_insert, if_true, Option.getD_some,
          Dictionary.insert_insert_self,
          ((c.boards.get? name).getD .empty).insert_comm fun hkey => h ⟨rfl, hkey⟩]
      · simp only [set, Dictionary.get?_insert, hname, Ne.symm hname, if_false,
          c.boards.insert_comm hname]

theorem global_set_board (c : Configuration) (board key : String) (value : Json) :
    (c.set (.board board) key value).global = c.global := rfl

theorem boards_set_board (c : Configuration) (board key : String) (value : Json) {other : String}
    (h : other ≠ board) :
    (c.set (.board board) key value).boards.get? other = c.boards.get? other := by
  simp only [set, Dictionary.get?_insert, h, if_false]

/-- Every count of 32 bits is read back as it was written. -/
theorem asCount?_ofUInt32 (n : UInt32) :
    (Json.asInt64? (Json.ofUInt32 n)).bind asCount? = some n := by
  have hsize : UInt32.size = 4294967296 := rfl
  have hlt : n.toNat < UInt32.size := n.toNat_lt_size
  have hint : (Int64.ofInt n.toNat).toInt = n.toNat :=
    Int64.toInt_ofInt_of_le (by omega) (by omega)
  have hread : Json.asInt64? (Json.ofUInt32 n) = some (Int64.ofInt n.toNat) := by
    have hmin : Int64.minValue.toInt = -9223372036854775808 := rfl
    have hmax : Int64.maxValue.toInt = 9223372036854775807 := rfl
    have hrange : Int64.minValue.toInt ≤ (n.toNat : Int) ∧
        (n.toNat : Int) ≤ Int64.maxValue.toInt := by omega
    exact if_pos hrange
  rw [hread, Option.bind_some, asCount?, hint, if_pos (by omega), Int.toNat_natCast,
    UInt32.ofNat_toNat]

section
variable (c : Configuration) (board : String)

/-- The number of pages that is stored is the one that is found. -/
theorem pagesCount?_storePagesCount (pages : UInt32) :
    (c.storePagesCount board pages).pagesCount? board = some pages := by
  unfold pagesCount? getInt64? storePagesCount
  rw [get?_set, if_pos ⟨rfl, rfl⟩]
  exact asCount?_ofUInt32 pages

theorem get?_storePagesCount {scope : Scope} {key : String}
    (h : ¬(scope = .board board ∧ key = Key.pagesCount)) (pages : UInt32) :
    (c.storePagesCount board pages).get? scope key = c.get? scope key := by
  unfold storePagesCount
  rw [get?_set, if_neg h]

theorem get?_storeBoardTitle {scope : Scope} {key : String}
    (h : ¬(scope = .board board ∧ key = Key.boardTitle)) (title : String) :
    (c.storeBoardTitle board title).get? scope key = c.get? scope key := by
  unfold storeBoardTitle
  split
  · rw [get?_set, if_neg h]
  · rfl

/-- The title of a board tells nothing of its pages. -/
theorem pagesCount?_storeBoardTitle (title : String) :
    (c.storeBoardTitle board title).pagesCount? board = c.pagesCount? board := by
  unfold pagesCount? getInt64?
  have hother : Key.pagesCount ≠ Key.boardTitle := by decide
  rw [get?_storeBoardTitle c board fun h => hother h.2]

end
end Imageboard.Configuration
