import Mathlib.Data.List.Basic
import Imageboard.Proofs.Configuration
import Imageboard.Proofs.Numeral

/-! What a document about boards leaves in a configuration.

An entry stores some values under keys of its board, and a document those of its entries, one after
the other (`update_eq_write`). Of the values for one key the last is found (`get?_write`), and storing
all of them again changes nothing (`write_write`). So each flag of a board is that of its last entry,
each limit that of its last entry with a limit, and nothing else is touched: `update_spec`. -/
namespace Imageboard.Configuration

/-! ### Values stored one after the other -/

/-- A value for a key of a board. -/
structure BoardValue where
  board : String
  key : String
  value : Json

def write (c : Configuration) (values : List BoardValue) : Configuration :=
  values.foldl (fun c v => c.set (.board v.board) v.key v.value) c

/-- The values among these for one key of a board. -/
def valuesFor (board key : String) (values : List BoardValue) : List Json :=
  values.filterMap fun v => if board = v.board ∧ key = v.key then some v.value else none

theorem valuesFor_cons (board key : String) (v : BoardValue) (values : List BoardValue) :
    valuesFor board key (v :: values) =
      if board = v.board ∧ key = v.key then v.value :: valuesFor board key values
      else valuesFor board key values := by
  rw [valuesFor, List.filterMap_cons]
  split <;> split at * <;> simp_all [valuesFor]

theorem valuesFor_append (board key : String) (values later : List BoardValue) :
    valuesFor board key (values ++ later) = valuesFor board key values ++ valuesFor board key later :=
  List.filterMap_append

section
variable (c : Configuration) (v : BoardValue) (values : List BoardValue)

theorem write_cons :
    c.write (v :: values) = (c.set (.board v.board) v.key v.value).write values := rfl

theorem write_append (later : List BoardValue) :
    c.write (values ++ later) = (c.write values).write later :=
  List.foldl_append

/-- The last value for a key is the one that is found. -/
theorem get?_write (board key : String) :
    (c.write values).get? (.board board) key =
      (valuesFor board key values).getLast?.or (c.get? (.board board) key) := by
  induction values generalizing c with
  | nil => rfl
  | cons v values ih =>
    rw [write_cons, ih, get?_set, valuesFor_cons]
    by_cases h : board = v.board ∧ key = v.key
    · rw [if_pos ⟨congrArg Scope.board h.1, h.2⟩, if_pos h, List.getLast?_cons]
      cases (valuesFor board key values).getLast? <;> rfl
    · rw [if_neg fun hplace => h ⟨Scope.board.inj hplace.1, hplace.2⟩, if_neg h]

theorem global_write : (c.write values).global = c.global := by
  induction values generalizing c with
  | nil => rfl
  | cons v values ih => rw [write_cons, ih, global_set_board]

theorem boards_write {board : String} (h : ∀ v ∈ values, board ≠ v.board) :
    (c.write values).boards.get? board = c.boards.get? board := by
  induction values generalizing c with
  | nil => rfl
  | cons v values ih =>
    obtain ⟨hv, hvalues⟩ := List.forall_mem_cons.mp h
    rw [write_cons, ih _ hvalues, boards_set_board c _ _ _ hv]

/-- A value stored before others is either replaced by one of them, or might as well be stored
behind them. -/
theorem set_write :
    (∀ c : Configuration, (c.set (.board v.board) v.key v.value).write values = c.write values) ∨
      ∀ c : Configuration,
        (c.set (.board v.board) v.key v.value).write values =
          (c.write values).set (.board v.board) v.key v.value := by
  induction values with
  | nil => exact .inr fun _ => rfl
  | cons w values ih =>
    by_cases h : v.board = w.board ∧ v.key = w.key
    · left
      intro c
      rw [write_cons, write_cons, h.1, h.2, set_set_self]
    · have hplace : ¬(Scope.board v.board = .board w.board ∧ v.key = w.key) :=
        fun heq => h ⟨Scope.board.inj heq.1, heq.2⟩
      rcases ih with hreplaced | hbehind
      · left
        intro c
        rw [write_cons, set_comm c hplace, hreplaced, write_cons]
      · right
        intro c
        rw [write_cons, set_comm c hplace, hbehind, write_cons]

/-- Storing the same values again changes nothing. -/
theorem write_write : (c.write values).write values = c.write values := by
  induction values generalizing c with
  | nil => rfl
  | cons v values ih =>
    rw [write_cons, write_cons]
    rcases set_write v values with hreplaced | hbehind
    · rw [hreplaced, hreplaced, ih]
    · rw [hbehind ((c.set _ _ _).write values), ih, hbehind c, set_set_self]

end

/-! ### What an entry tells -/

/-- The entries of a document, none where it has no array of them. -/
def entriesOf (document : Json) : List Json :=
  match document.field? "boards" with
  | some (.array entries) => entries
  | _ => []

/-- Whether an entry tells about a board, whose name is not empty. -/
def Names (entry : Json) (board : String) : Prop :=
  entry.field? "board" = some (.string board) ∧ board ≠ ""

theorem entryBoard?_eq_some {entry : Json} {board : String} :
    entryBoard? entry = some board ↔ Names entry board := by
  rw [entryBoard?, Names, Option.filter_eq_some_iff, Option.bind_eq_some_iff]
  constructor
  · rintro ⟨⟨value, hvalue, hboard⟩, hne⟩
    cases value with
    | string name =>
      obtain rfl := Option.some.inj hboard
      exact ⟨hvalue, by simpa using hne⟩
    | _ => cases hboard
  · rintro ⟨hvalue, hne⟩
    exact ⟨⟨_, hvalue, rfl⟩, by simpa using hne⟩

instance (board : String) : DecidablePred (Names · board) :=
  fun _ => decidable_of_iff _ entryBoard?_eq_some

instance (entry : Json) : Decidable (∃ board, Names entry board) :=
  decidable_of_iff ((entryBoard? entry).isSome = true)
    (Option.isSome_iff_exists.trans (exists_congr fun _ => entryBoard?_eq_some))

/-- The entries of a document that tell about a board. -/
def entriesFor (document : Json) (board : String) : List Json :=
  (entriesOf document).filter (Names · board)

/-- The integer in a field of an entry, if there is one from `low` to `high`. -/
def integerFrom (low high : Int) (entry : Json) (field : String) : Option Int :=
  match entry.field? field with
  | some (.integer n) => if low ≤ n ∧ n ≤ high then some n else none
  | _ => none

/-- Whether a field of an entry is an integer of 64 bits other than 0. -/
def flagOf (entry : Json) (field : String) : Bool :=
  (integerFrom (-9223372036854775808) 9223372036854775807 entry field).any (· != 0)

theorem toInt_entryInteger (entry : Json) (field : String) :
    (entryInteger entry field).toInt =
      (integerFrom (-9223372036854775808) 9223372036854775807 entry field).getD 0 := by
  unfold entryInteger integerFrom
  cases entry.field? field with
  | none => rfl
  | some value =>
    cases value with
    | integer n =>
      have hmin : Int64.minValue.toInt = -9223372036854775808 := rfl
      have hmax : Int64.maxValue.toInt = 9223372036854775807 := rfl
      show ((Numeral.toInt64? n).getD 0).toInt = _
      dsimp only
      unfold Numeral.toInt64?
      rw [hmin, hmax]
      split
      · exact Int64.toInt_ofInt_of_le (by omega) (by omega)
      · rfl
    | _ => rfl

theorem entryInteger_ne_zero (entry : Json) (field : String) :
    (entryInteger entry field != 0) = flagOf entry field := by
  have hzero : (entryInteger entry field != 0) = ((entryInteger entry field).toInt != 0) := by
    rw [Bool.eq_iff_iff, bne_iff_ne, bne_iff_ne, Ne, ← Int64.toInt_inj]
    rfl
  rw [hzero, toInt_entryInteger, flagOf]
  cases integerFrom (-9223372036854775808) 9223372036854775807 entry field <;> rfl

/-- A limit is a number above 0, which is what a field reads as that has none. -/
theorem integerFrom_one {high : Int} (hhigh : high ≤ 9223372036854775807) (entry : Json)
    (field : String) :
    integerFrom 1 high entry field =
      if 1 ≤ (entryInteger entry field).toInt ∧ (entryInteger entry field).toInt ≤ high then
        some (entryInteger entry field).toInt
      else none := by
  rw [toInt_entryInteger]
  unfold integerFrom
  cases entry.field? field with
  | none => rfl
  | some value =>
    cases value with
    | integer n =>
      dsimp only
      by_cases h : -9223372036854775808 ≤ n ∧ n ≤ 9223372036854775807
      · simp only [if_pos h, Option.getD_some]
      · have hnot : ¬(1 ≤ n ∧ n ≤ high) := by omega
        have hzero : ¬((1 : Int) ≤ 0 ∧ 0 ≤ high) := by omega
        simp only [if_neg h, Option.getD_none, if_neg hnot, if_neg hzero]
    | _ => rfl

/-- The limit of posts that an entry stores, as `storeEntry` finds it. -/
theorem bumpLimit_eq (entry : Json) :
    ((asCount? (entryInteger entry "bump_limit")).filter (0 < ·)).map Json.ofUInt32 =
      (integerFrom 1 4294967295 entry "bump_limit").map .integer := by
  rw [integerFrom_one (by decide)]
  generalize entryInteger entry "bump_limit" = n
  have hsize : UInt32.size = 4294967296 := rfl
  unfold asCount?
  by_cases hcount : 0 ≤ n.toInt ∧ n.toInt < UInt32.size
  · have hvalue : (UInt32.ofNat n.toInt.toNat).toNat = n.toInt.toNat :=
      UInt32.toNat_ofNat_of_lt' (by omega)
    by_cases hpos : 1 ≤ n.toInt
    · have hlt : 0 < UInt32.ofNat n.toInt.toNat := by
        rw [UInt32.lt_iff_toNat_lt, hvalue]
        show 0 < n.toInt.toNat
        omega
      rw [if_pos hcount, Option.filter_some, if_pos (decide_eq_true hlt), if_pos (by omega)]
      simp only [Option.map_some, Json.ofUInt32, Json.ofNat, hvalue]
      exact congrArg (some ∘ Json.integer) (Int.toNat_of_nonneg hcount.1)
    · have hlt : ¬0 < UInt32.ofNat n.toInt.toNat := by
        rw [UInt32.lt_iff_toNat_lt, hvalue]
        show ¬0 < n.toInt.toNat
        omega
      rw [if_pos hcount, Option.filter_some, if_neg (by simpa using hlt), if_neg (by omega)]
      rfl
  · rw [if_neg hcount, if_neg (by omega)]
    rfl

/-- The values that an entry tells for the keys of its board: one for each flag, and at most one for
each limit. -/
def told (entry : Json) : List (String × List Json) :=
  let flag (field : String) : List Json := [.bool (flagOf entry field)]
  let limit (high : Int) (field : String) : List Json :=
    ((integerFrom 1 high entry field).map Json.integer).toList
  [(Key.spoilersEnabled, flag "spoilers"),
    (Key.codeEnabled, flag "code_tags"),
    (Key.flagsEnabled, flag "country_flags"),
    (Key.bumpLimit, limit 4294967295 "bump_limit"),
    (Key.maxCommentLength, limit 9223372036854775807 "max_comment_chars"),
    (Key.safeForWork, flag "ws_board")]

/-- The keys that a document may store a value under. -/
def boardKeys : List String :=
  [Key.spoilersEnabled, Key.codeEnabled, Key.flagsEnabled, Key.bumpLimit, Key.maxCommentLength,
    Key.safeForWork]

def keyed (board : String) (told : List (String × List Json)) : List BoardValue :=
  told.flatMap fun (key, values) => values.map (⟨board, key, ·⟩)

section
variable (c : Configuration) (board : String) (entry : Json)

theorem storeBumpLimit_eq_write :
    (match (asCount? (entryInteger entry "bump_limit")).filter (0 < ·) with
      | some limit => c.storeBumpLimit board limit
      | none => c) =
      c.write (((integerFrom 1 4294967295 entry "bump_limit").map Json.integer).toList.map
        (⟨board, Key.bumpLimit, ·⟩)) := by
  rw [← bumpLimit_eq]
  cases (asCount? (entryInteger entry "bump_limit")).filter (0 < ·) <;> rfl

theorem storeCommentLength_eq_write :
    (if 0 < entryInteger entry "max_comment_chars" then
        c.set (.board board) Key.maxCommentLength
          (Json.ofInt64 (entryInteger entry "max_comment_chars"))
      else c) =
      c.write (((integerFrom 1 9223372036854775807 entry "max_comment_chars").map
        Json.integer).toList.map (⟨board, Key.maxCommentLength, ·⟩)) := by
  rw [integerFrom_one (by decide)]
  generalize entryInteger entry "max_comment_chars" = n
  have hmax : n.toInt ≤ 9223372036854775807 := Int64.le_iff_toInt_le.mp (Int64.le_maxValue n)
  by_cases hpos : 0 < n
  · rw [if_pos hpos, if_pos ⟨Int64.lt_iff_toInt_lt.mp hpos, hmax⟩]
    rfl
  · rw [if_neg hpos, if_neg fun h => hpos (Int64.lt_iff_toInt_lt.mpr h.1)]
    rfl

theorem storeEntry_eq_write :
    c.storeEntry board entry = c.write (keyed board (told entry)) := by
  unfold storeEntry keyed told
  simp only [List.flatMap_cons, List.flatMap_nil, write_append, entryInteger_ne_zero]
  rw [← storeBumpLimit_eq_write, ← storeCommentLength_eq_write]
  rfl

end

theorem valuesFor_map (board board' key key' : String) (values : List Json) :
    valuesFor board key (values.map (⟨board', key', ·⟩)) =
      if board = board' ∧ key = key' then values else [] := by
  induction values with
  | nil => exact (ite_self _).symm
  | cons value values ih =>
    rw [List.map_cons, valuesFor_cons, ih]
    split <;> rfl

/-- Where every key stands once, the values for a key are those that stand beside it. -/
theorem valuesFor_keyed (board key : String) {told : List (String × List Json)}
    (h : (told.map (·.1)).Nodup) :
    valuesFor board key (keyed board told) = (told.lookup key).getD [] := by
  induction told with
  | nil => rfl
  | cons pair told ih =>
    obtain ⟨key', values⟩ := pair
    obtain ⟨hkey, hnodup⟩ := List.nodup_cons.mp h
    rw [keyed, List.flatMap_cons, valuesFor_append, lookup_cons_eq_ite]
    show valuesFor board key (values.map (⟨board, key', ·⟩)) ++ valuesFor board key (keyed board told) = _
    rw [ih hnodup, valuesFor_map]
    by_cases hhere : key = key'
    · subst hhere
      rw [if_pos ⟨rfl, rfl⟩, if_pos rfl, lookup_eq_none_of_not_mem hkey]
      exact List.append_nil values
    · rw [if_neg fun hplace => hhere hplace.2, if_neg hhere, List.nil_append]

theorem board_of_mem_keyed {board : String} {told : List (String × List Json)} {v : BoardValue}
    (h : v ∈ keyed board told) : v.board = board := by
  obtain ⟨pair, -, hv⟩ := List.mem_flatMap.mp h
  obtain ⟨value, -, rfl⟩ := List.mem_map.mp hv
  rfl

theorem valuesFor_keyed_other {board board' : String} (h : board ≠ board') (key : String)
    (told : List (String × List Json)) : valuesFor board key (keyed board' told) = [] :=
  List.filterMap_eq_nil_iff.mpr fun _ hv =>
    if_neg fun hplace => h (hplace.1.trans (board_of_mem_keyed hv))

theorem nodup_told (entry : Json) : ((told entry).map (·.1)).Nodup := by
  show boardKeys.Nodup
  decide

/-! ### What a document tells -/

/-- What the entries of a document store, in their order. -/
def documentValues (document : Json) : List BoardValue :=
  (boardEntries document).flatMap fun (board, entry) => keyed board (told entry)

theorem update_eq_write (c : Configuration) (document : Json) :
    c.update document = c.write (documentValues document) := by
  unfold update documentValues
  induction boardEntries document generalizing c with
  | nil => rfl
  | cons pair entries ih =>
    obtain ⟨board, entry⟩ := pair
    rw [List.foldl_cons, ih, List.flatMap_cons, write_append]
    show (c.storeEntry board entry).write _ = _
    rw [storeEntry_eq_write]

theorem boardEntries_eq (document : Json) :
    boardEntries document =
      (entriesOf document).filterMap fun entry => (entryBoard? entry).map (·, entry) := by
  unfold boardEntries entriesOf
  cases document.field? "boards" with
  | none => rfl
  | some value => cases value <;> rfl

/-- The values that a document tells for a key of a board are those its entries tell. -/
theorem valuesFor_documentValues (document : Json) (board key : String) :
    valuesFor board key (documentValues document) =
      (entriesFor document board).flatMap fun entry =>
        ((told entry).lookup key).getD [] := by
  rw [documentValues, boardEntries_eq, entriesFor]
  induction entriesOf document with
  | nil => rfl
  | cons entry entries ih =>
    rw [List.filterMap_cons, List.filter_cons]
    by_cases hnames : Names entry board
    · rw [if_pos (decide_eq_true hnames), entryBoard?_eq_some.mpr hnames]
      simp only [Option.map_some, List.flatMap_cons, valuesFor_append, ih,
        valuesFor_keyed board key (nodup_told entry)]
    · rw [if_neg (by simpa using hnames), ← ih]
      cases hboard : entryBoard? entry with
      | none => rfl
      | some board' =>
        have hne : board ≠ board' := by
          rintro rfl
          exact hnames (entryBoard?_eq_some.mp hboard)
        simp only [Option.map_some, List.flatMap_cons, valuesFor_append,
          valuesFor_keyed_other hne, List.nil_append]

theorem ne_board_of_mem_documentValues {document : Json} {board : String}
    (h : entriesFor document board = []) {v : BoardValue} (hv : v ∈ documentValues document) :
    board ≠ v.board := by
  obtain ⟨⟨board', entry⟩, hentry, hv⟩ := List.mem_flatMap.mp hv
  rw [boardEntries_eq] at hentry
  obtain ⟨entry', hmem, hboard⟩ := List.mem_filterMap.mp hentry
  obtain ⟨name, hname, heq⟩ := Option.map_eq_some_iff.mp hboard
  obtain ⟨rfl, rfl⟩ := Prod.mk.inj heq
  rintro rfl
  rw [board_of_mem_keyed hv] at h
  exact List.filter_eq_nil_iff.mp h entry' hmem (decide_eq_true (entryBoard?_eq_some.mp hname))

theorem get?_update (c : Configuration) (document : Json) (board key : String) :
    (c.update document).get? (.board board) key =
      ((entriesFor document board).flatMap fun entry =>
        ((told entry).lookup key).getD []).getLast?.or (c.get? (.board board) key) := by
  rw [update_eq_write, get?_write, valuesFor_documentValues]

/-- What a configuration is once a document has been stored. -/
structure Updated (c after : Configuration) (document : Json) : Prop where
  global : after.global = c.global
  /-- A board without an entry keeps all it has. -/
  boards : ∀ board, entriesFor document board = [] → after.boards.get? board = c.boards.get? board
  /-- The number of pages, the title and all else that is stored under other keys stay. -/
  keys : ∀ board, ∀ key ∉ boardKeys, after.get? (.board board) key = c.get? (.board board) key
  /-- The flags of a board are those of its last entry. -/
  flags : ∀ board entry, (entriesFor document board).getLast? = some entry →
    after.get? (.board board) Key.spoilersEnabled = some (.bool (flagOf entry "spoilers")) ∧
    after.get? (.board board) Key.codeEnabled = some (.bool (flagOf entry "code_tags")) ∧
    after.get? (.board board) Key.flagsEnabled = some (.bool (flagOf entry "country_flags")) ∧
    after.get? (.board board) Key.safeForWork = some (.bool (flagOf entry "ws_board"))
  /-- A limit is that of the last entry which tells one. -/
  bumpLimit : ∀ board,
    after.get? (.board board) Key.bumpLimit =
      (((entriesFor document board).filterMap (integerFrom 1 4294967295 · "bump_limit")).getLast?.map
        Json.integer).or (c.get? (.board board) Key.bumpLimit)
  commentLength : ∀ board,
    after.get? (.board board) Key.maxCommentLength =
      (((entriesFor document board).filterMap
        (integerFrom 1 9223372036854775807 · "max_comment_chars")).getLast?.map Json.integer).or
        (c.get? (.board board) Key.maxCommentLength)

theorem get?_update_flag {document : Json} {board key field : String} {entry : Json}
    (c : Configuration)
    (htold : ∀ entry, (told entry).lookup key = some [.bool (flagOf entry field)])
    (hlast : (entriesFor document board).getLast? = some entry) :
    (c.update document).get? (.board board) key = some (.bool (flagOf entry field)) := by
  obtain ⟨earlier, hentries⟩ := List.getLast?_eq_some_iff.mp hlast
  rw [get?_update, hentries, List.flatMap_append, List.flatMap_singleton, htold, Option.getD_some,
    List.getLast?_concat]
  rfl

theorem get?_update_limit {key field : String} {high : Int}
    (htold : ∀ entry, (told entry).lookup key =
      some ((integerFrom 1 high entry field).map Json.integer).toList)
    (c : Configuration) (document : Json) (board : String) :
    (c.update document).get? (.board board) key =
      (((entriesFor document board).filterMap (integerFrom 1 high · field)).getLast?.map
        Json.integer).or (c.get? (.board board) key) := by
  have hvalues : (fun entry => ((told entry).lookup key).getD []) =
      fun entry => ((integerFrom 1 high entry field).map Json.integer).toList :=
    funext fun entry => by rw [htold, Option.getD_some]
  rw [get?_update, hvalues, ← List.filterMap_eq_flatMap_toList, ← List.getLast?_map,
    List.map_filterMap]

theorem get?_update_other (c : Configuration) (document : Json) (board : String) {key : String}
    (h : key ∉ boardKeys) :
    (c.update document).get? (.board board) key = c.get? (.board board) key := by
  have hnone (entry : Json) : (told entry).lookup key = none := lookup_eq_none_of_not_mem h
  simp only [get?_update, hnone, Option.getD_none]
  rw [List.flatMap_eq_nil_iff.mpr fun _ _ => rfl]
  rfl

theorem updated_update (c : Configuration) (document : Json) :
    Updated c (c.update document) document where
  global := by rw [update_eq_write, global_write]
  boards board h := by
    rw [update_eq_write, boards_write c _ fun v hv => ne_board_of_mem_documentValues h hv]
  keys board _ h := get?_update_other c document board h
  flags _ _ h :=
    ⟨get?_update_flag c (fun _ => rfl) h, get?_update_flag c (fun _ => rfl) h,
      get?_update_flag c (fun _ => rfl) h, get?_update_flag c (fun _ => rfl) h⟩
  bumpLimit := get?_update_limit (fun _ => rfl) c document
  commentLength := get?_update_limit (fun _ => rfl) c document

theorem updateCount_eq (document : Json) :
    updateCount document = (entriesOf document).countP fun entry => ∃ board, Names entry board := by
  rw [updateCount, boardEntries_eq, List.length_filterMap_eq_countP]
  congr 1
  funext entry
  rw [Option.isSome_map, Bool.eq_iff_iff, decide_eq_true_iff, Option.isSome_iff_exists]
  exact exists_congr fun _ => entryBoard?_eq_some

/-- A document counts as many entries as name a board, and changes no more than the flags and limits
of those boards; storing it again changes nothing. -/
theorem update_spec (c : Configuration) (document : Json) :
    (updateCount document = (entriesOf document).countP fun entry => ∃ board, Names entry board) ∧
      Updated c (c.update document) document ∧
      (c.update document).update document = c.update document := by
  refine ⟨updateCount_eq document, updated_update c document, ?_⟩
  rw [update_eq_write, update_eq_write, write_write]

/-- Of two entries for a board the last one tells the flag, and the first one the limit, which the
last does not tell. -/
theorem update_two_entries :
    let document : Json :=
      .object [("boards", .array
        [.object [("board", .string "b"), ("spoilers", .integer 1), ("bump_limit", .integer 300)],
          .object [("board", .string "b"), ("bump_limit", .string "none")]])]
    let after := ({} : Configuration).update document
    updateCount document = 2 ∧
      after.get? (.board "b") Key.spoilersEnabled = some (.bool false) ∧
      after.get? (.board "b") Key.bumpLimit = some (.integer 300) ∧
      after.get? (.board "b") Key.pagesCount = none ∧ after.update document = after := by
  intro document after
  obtain ⟨hcount, hupdated, hagain⟩ := update_spec {} document
  refine ⟨hcount.trans rfl, (hupdated.flags "b" _ rfl).1.trans rfl,
    (hupdated.bumpLimit "b").trans rfl, (hupdated.keys "b" _ (by decide)).trans rfl, hagain⟩

end Imageboard.Configuration
