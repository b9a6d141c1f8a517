/-! Which files of a page are kept, as a matter of the order of its tags alone.

A file is begun by one tag, ended by a later one, and taken by the message that finishes the post it
stands in; what comes in between may make it void. `Ledger.before` goes through the tags one by one
and writes down the files that are open, waiting and kept; `mem_kept` says which ones are kept, in
terms of all the tags of the page, and `kept_increasing` that they are kept in the order in which
they were begun. -/
namespace Imageboard

/-- What a tag means for the files of a page. -/
inductive FileEvent where
  /-- A file begins, in place of one that has not ended. -/
  | begins
  /-- The file that has begun ends, and is kept for the post. -/
  | ends
  /-- The file that has begun is dropped. -/
  | rejects
  /-- Another post begins, and what the one before it has is dropped. -/
  | replies
  /-- A message finishes the post, which takes the files kept for it. -/
  | finishes
  /-- A message that no post is in progress for. -/
  | strays
  | other
  deriving DecidableEq

/-- A file that a post has: the places of the tag that begins it, of the one that ends it, and of
the message that finishes the post. -/
structure Kept where
  mark : Nat
  last : Nat
  message : Nat
  deriving DecidableEq

structure Ledger where
  /-- The tag that began a file which has not ended. -/
  opened : Option Nat := none
  /-- The files kept for the post in progress, each with the tags that began and ended it. -/
  waiting : List (Nat × Nat) := []
  kept : List Kept := []

/-- A file is open before the tag at place `n`. -/
structure OpenAt (event : Nat → FileEvent) (n i : Nat) : Prop where
  lt : i < n
  begun : event i = .begins
  quiet : ∀ k, i < k → k < n → event k = .other

/-- A file that has ended waits before the tag at place `n` for its post to be finished. -/
structure WaitsAt (event : Nat → FileEvent) (n i j : Nat) : Prop where
  opened : OpenAt event j i
  lt : j < n
  ended : event j = .ends
  unreplied : ∀ k, i < k → k < n → event k ≠ .replies
  unfinished : ∀ k, j < k → k < n → event k ≠ .finishes

/-- The tag at place `i` begins a file that the one at place `j` ends, with nothing in between that
concerns files; and the message at place `m` is the first one behind to finish a post, without a
reply that begins before it. -/
structure Contributes (event : Nat → FileEvent) (i j m : Nat) : Prop where
  begun : event i = .begins
  ended : i < j ∧ event j = .ends
  quiet : ∀ k, i < k → k < j → event k = .other
  finished : j < m ∧ event m = .finishes
  first : ∀ k, j < k → k < m → event k ≠ .finishes
  unreplied : ∀ k, i < k → k < m → event k ≠ .replies

theorem contributes_iff {event : Nat → FileEvent} {i j m : Nat} :
    Contributes event i j m ↔ event m = .finishes ∧ WaitsAt event m i j :=
  ⟨fun h =>
    ⟨h.finished.2, ⟨h.ended.1, h.begun, h.quiet⟩, h.finished.1, h.ended.2, h.unreplied, h.first⟩,
    fun ⟨hm, h⟩ =>
      ⟨h.opened.begun, ⟨h.opened.lt, h.ended⟩, h.opened.quiet, ⟨h.lt, hm⟩, h.unfinished,
        h.unreplied⟩⟩

section
variable {event : Nat → FileEvent} {n i j : Nat}

theorem openAt_succ :
    OpenAt event (n + 1) i ↔
      (event n = .begins ∧ i = n) ∨ (event n = .other ∧ OpenAt event n i) := by
  constructor
  · intro h
    rcases Nat.lt_succ_iff_lt_or_eq.mp h.lt with hlt | rfl
    · exact .inr ⟨h.quiet n hlt (Nat.lt_succ_self n), hlt, h.begun,
        fun k hik hkn => h.quiet k hik (Nat.lt_succ_of_lt hkn)⟩
    · exact .inl ⟨h.begun, rfl⟩
  · rintro (⟨hn, rfl⟩ | ⟨hn, h⟩)
    · exact ⟨Nat.lt_succ_self i, hn, fun k hik hkn => by omega⟩
    · refine ⟨Nat.lt_succ_of_lt h.lt, h.begun, fun k hik hkn => ?_⟩
      rcases Nat.lt_succ_iff_lt_or_eq.mp hkn with hlt | rfl
      · exact h.quiet k hik hlt
      · exact hn

theorem waitsAt_succ :
    WaitsAt event (n + 1) i j ↔
      (event n = .ends ∧ OpenAt event n i ∧ j = n) ∨
        (event n ≠ .replies ∧ event n ≠ .finishes ∧ WaitsAt event n i j) := by
  constructor
  · intro h
    rcases Nat.lt_succ_iff_lt_or_eq.mp h.lt with hlt | rfl
    · have hin := h.opened.lt
      exact .inr ⟨h.unreplied n (by omega) (Nat.lt_succ_self n),
        h.unfinished n hlt (Nat.lt_succ_self n), h.opened, hlt, h.ended,
        fun k hik hkn => h.unreplied k hik (Nat.lt_succ_of_lt hkn),
        fun k hjk hkn => h.unfinished k hjk (Nat.lt_succ_of_lt hkn)⟩
    · exact .inl ⟨h.ended, h.opened, rfl⟩
  · rintro (⟨hn, h, rfl⟩ | ⟨hreply, hfinish, h⟩)
    · refine ⟨h, Nat.lt_succ_self j, hn, fun k hik hkn => ?_, fun k hjk hkn => by omega⟩
      rcases Nat.lt_succ_iff_lt_or_eq.mp hkn with hlt | rfl
      · rw [h.quiet k hik hlt]
        exact nofun
      · rw [hn]
        exact nofun
    · refine ⟨h.opened, Nat.lt_succ_of_lt h.lt, h.ended, fun k hik hkn => ?_, fun k hjk hkn => ?_⟩
      · rcases Nat.lt_succ_iff_lt_or_eq.mp hkn with hlt | rfl
        · exact h.unreplied k hik hlt
        · exact hreply
      · rcases Nat.lt_succ_iff_lt_or_eq.mp hkn with hlt | rfl
        · exact h.unfinished k hjk hlt
        · exact hfinish

end

namespace Ledger

/-- What the tag at place `n` does to the files. -/
def step (n : Nat) (l : Ledger) : FileEvent → Ledger
  | .begins => { l with opened := some n }
  | .ends => { l with opened := none, waiting := l.waiting ++ (l.opened.map (·, n)).toList }
  | .rejects => { l with opened := none }
  | .strays => { l with opened := none }
  | .replies => { l with opened := none, waiting := [] }
  | .finishes =>
    { opened := none, waiting := [], kept := l.kept ++ l.waiting.map fun (i, j) => ⟨i, j, n⟩ }
  | .other => l

/-- The files before the tag at place `n`. -/
def before (event : Nat → FileEvent) : Nat → Ledger
  | 0 => {}
  | n + 1 => (Ledger.before event n).step n (event n)

theorem before_succ (event : Nat → FileEvent) (n : Nat) :
    Ledger.before event (n + 1) = (Ledger.before event n).step n (event n) := rfl

variable {event : Nat → FileEvent}

theorem opened_iff {n i : Nat} : (Ledger.before event n).opened = some i ↔ OpenAt event n i := by
  induction n generalizing i with
  | zero => exact ⟨nofun, fun h => nomatch h.lt⟩
  | succ n ih =>
    rw [openAt_succ, ← ih, before_succ]
    cases event n <;> simp [step, eq_comm]

theorem mem_waiting {n i j : Nat} :
    (i, j) ∈ (Ledger.before event n).waiting ↔ WaitsAt event n i j := by
  induction n with
  | zero => exact ⟨nofun, fun h => nomatch h.lt⟩
  | succ n ih =>
    rw [waitsAt_succ, ← ih, ← opened_iff, before_succ]
    cases event n with
    | ends =>
      have hopened : (i, j) ∈ ((Ledger.before event n).opened.map (·, n)).toList ↔
          (Ledger.before event n).opened = some i ∧ j = n := by
        cases (Ledger.before event n).opened <;> simp [eq_comm]
      simp [step, hopened, or_comm]
    | _ => simp [step]

theorem mem_kept {n : Nat} {k : Kept} :
    k ∈ (Ledger.before event n).kept ↔
      k.message < n ∧ Contributes event k.mark k.last k.message := by
  induction n with
  | zero => exact ⟨nofun, fun h => nomatch h.1⟩
  | succ n ih =>
    have hlast : k.message = n ∧ Contributes event k.mark k.last k.message ↔
        event n = .finishes ∧ k ∈ (Ledger.before event n).waiting.map fun (i, j) => ⟨i, j, n⟩ := by
      rw [contributes_iff, List.mem_map]
      constructor
      · rintro ⟨rfl, hm, hw⟩
        exact ⟨hm, (k.mark, k.last), mem_waiting.mpr hw, rfl⟩
      · rintro ⟨hn, ⟨i, j⟩, hij, rfl⟩
        exact ⟨rfl, hn, mem_waiting.mp hij⟩
    rw [before_succ, Nat.lt_succ_iff_lt_or_eq, or_and_right, hlast, ← ih]
    cases event n with
    | finishes => simp [step]
    | _ => simp [step]

/-- The places of the first `n` tags at which a message finishes a post. -/
def finishes (event : Nat → FileEvent) (n : Nat) : List Nat :=
  (List.range n).filter fun m => event m = .finishes

/-- The files that wait for the message at place `m`. -/
def takenAt (event : Nat → FileEvent) (m : Nat) : List Kept :=
  (Ledger.before event m).waiting.map fun (i, j) => ⟨i, j, m⟩

theorem finishes_succ (event : Nat → FileEvent) (n : Nat) :
    finishes event (n + 1) = finishes event n ++ if event n = .finishes then [n] else [] := by
  unfold finishes
  rw [List.range_succ, List.filter_append]
  by_cases h : event n = .finishes <;> simp [h]

/-- Every message that finishes a post takes the files that wait for it. -/
theorem kept_eq (event : Nat → FileEvent) (n : Nat) :
    (Ledger.before event n).kept = (finishes event n).flatMap (takenAt event) := by
  induction n with
  | zero => rfl
  | succ n ih =>
    rw [before_succ, finishes_succ, List.flatMap_append, ← ih]
    cases event n <;> simp [step, takenAt]

theorem takenAt_filter (event : Nat → FileEvent) (n m : Nat) :
    (takenAt event n).filter (·.message = m) = if n = m then takenAt event n else [] := by
  have hmessage : ∀ k ∈ takenAt event n, k.message = n := by
    intro k hk
    obtain ⟨⟨i, j⟩, -, rfl⟩ := List.mem_map.mp hk
    rfl
  split
  · rename_i h
    exact List.filter_eq_self.mpr fun k hk => decide_eq_true ((hmessage k hk).trans h)
  · rename_i h
    refine List.filter_eq_nil_iff.mpr fun k hk => ?_
    rw [hmessage k hk]
    simpa using h

/-- The files that the post of a message has are those that wait for the message. -/
theorem kept_filter {n m : Nat} (hm : m ∈ finishes event n) :
    (Ledger.before event n).kept.filter (·.message = m) = takenAt event m := by
  rw [kept_eq, List.filter_flatMap]
  have hlt {k l : Nat} (hk : k ∈ finishes event l) : k < l :=
    List.mem_range.mp (List.mem_filter.mp hk).1
  induction n with
  | zero => cases hm
  | succ n ih =>
    rw [finishes_succ] at hm ⊢
    rw [List.flatMap_append]
    rcases List.mem_append.mp hm with hm | hm
    · have hne : n ≠ m := Nat.ne_of_gt (hlt hm)
      rw [ih hm]
      split
      · rw [List.flatMap_singleton, takenAt_filter, if_neg hne, List.append_nil]
      · rw [List.flatMap_nil, List.append_nil]
    · split at hm
      · rename_i hn
        obtain rfl := List.mem_singleton.mp hm
        have hearlier : (finishes event m).flatMap
            (fun k => (takenAt event k).filter (·.message = m)) = [] := by
          refine List.flatMap_eq_nil_iff.mpr fun k hk => ?_
          rw [takenAt_filter, if_neg (Nat.ne_of_lt (hlt hk))]
        rw [hearlier, if_pos hn, List.flatMap_singleton, takenAt_filter, if_pos rfl,
          List.nil_append]
      · cases hm

/-- The tags that began the files of a ledger. -/
def marks (l : Ledger) : List Nat :=
  l.kept.map Kept.mark ++ (l.waiting.map Prod.fst ++ l.opened.toList)

/-- A tag begins at most one file, and moves the others along. -/
theorem marks_step (n : Nat) (l : Ledger) (e : FileEvent) :
    (l.step n e).marks.Sublist (l.marks ++ [n]) := by
  cases e with
  | ends =>
    cases ho : l.opened <;> simp [step, marks, ho]
  | finishes =>
    have hmarks : (l.waiting.map fun (i, j) => (⟨i, j, n⟩ : Kept)).map Kept.mark =
        l.waiting.map Prod.fst := by
      rw [List.map_map]
      rfl
    simp [step, marks, hmarks]
  | _ => simp [step, marks]

theorem marks_increasing (event : Nat → FileEvent) (n : Nat) :
    (Ledger.before event n).marks.Pairwise (· < ·) ∧
      ∀ i ∈ (Ledger.before event n).marks, i < n := by
  induction n with
  | zero => exact ⟨.nil, nofun⟩
  | succ n ih =>
    obtain ⟨hpairs, hlt⟩ := ih
    have hsub := marks_step n (Ledger.before event n) (event n)
    have hall : ((Ledger.before event n).marks ++ [n]).Pairwise (· < ·) := by
      rw [List.pairwise_append]
      refine ⟨hpairs, List.pairwise_singleton _ n, fun i hi k hk => ?_⟩
      rw [List.mem_singleton.mp hk]
      exact hlt i hi
    refine ⟨hall.sublist hsub, fun i hi => ?_⟩
    rcases List.mem_append.mp (hsub.subset hi) with hi | hi
    · exact Nat.lt_succ_of_lt (hlt i hi)
    · rw [List.mem_singleton.mp hi]
      exact Nat.lt_succ_self n

/-- The files are kept in the order they were begun, and none of them twice. -/
theorem kept_increasing (event : Nat → FileEvent) (n : Nat) :
    (Ledger.before event n).kept.Pairwise (·.mark < ·.mark) := by
  have h := (marks_increasing event n).1
  unfold marks at h
  exact List.pairwise_map.mp (List.pairwise_append.mp h).1

end Ledger

end Imageboard
