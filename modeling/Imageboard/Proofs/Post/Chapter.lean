import Imageboard.Post.Collector

/-! Histories of a collector, and their chapters.

A history is any list of steps: boundaries (a thread begins or is closed), posts, and counts added
to the current thread. It falls into chapters, one for each thread: a boundary behind a post ends a
chapter and begins the next. What stands here is about histories alone, `threadAt_consecutive` above
all; the collector comes into it in the next module. -/
namespace Imageboard
namespace Collector

/-- What may happen to a collector. -/
inductive Step where
  | begin
  | push (post : Post)
  | close
  /-- A count of posts for the current thread, and one of posts with files. -/
  | addPosts (count : UInt32)
  | addFiles (count : UInt32)
  deriving DecidableEq

def apply (c : Collector) : Step → Collector
  | .begin => c.begin
  | .push post => c.push post
  | .close => c.close
  | .addPosts count => c.modifyCurrent (·.addPosts count)
  | .addFiles count => c.modifyCurrent (·.addFiles count)

def run (c : Collector) : List Step → Collector
  | [] => c
  | s :: rest => (c.apply s).run rest

namespace Step

def isBegin : Step → Bool
  | .begin => true
  | _ => false

def isBoundary : Step → Bool
  | .begin => true
  | .close => true
  | _ => false

def post? : Step → Option Post
  | .push post => some post
  | _ => none

/-- The count that a step adds, in each of the two counters. -/
def postsCount : Step → Nat
  | .addPosts count => count.toNat
  | _ => 0

def filesCount : Step → Nat
  | .addFiles count => count.toNat
  | _ => 0

end Step

/-! ### Chapters -/

/-- The posts of a history, in the order they came. -/
def pushed (steps : List Step) : List Post := steps.filterMap Step.post?

/-- The chapters of a history that began with the steps `since`. A chapter without a post at the end
of the history is none. -/
def chaptersFrom (since : List Step) : List Step → List (List Step)
  | [] => if (pushed since).isEmpty then [] else [since]
  | s :: rest =>
    if s.isBoundary && !(pushed since).isEmpty then since :: chaptersFrom [s] rest
    else chaptersFrom (since ++ [s]) rest

def chapters (steps : List Step) : List (List Step) := chaptersFrom [] steps

/-- The steps after the last one that began a thread; none where no step did. -/
def sinceBegin (steps : List Step) : List Step :=
  if steps.any Step.isBegin then (steps.reverse.takeWhile (!·.isBegin)).reverse else []

/-- What the steps add to a counter. -/
def total (count : Step → Nat) : List Step → Nat
  | [] => 0
  | s :: rest => count s + total count rest

/-- A number in 32 bits, or the largest there is. -/
def saturated (n : Nat) : UInt32 := UInt32.ofNat (min n (UInt32.size - 1))

/-- The thread of a chapter: its posts, which it counts (or the opening one only), and the counts
that were added to it. -/
def threadOf (openingOnly : Bool) (chapter : List Step) : Thread where
  posts := pushed chapter
  postsCount := saturated ((if openingOnly then 1 else (pushed chapter).length) +
    total Step.postsCount (sinceBegin chapter))
  filesCount := saturated (total Step.filesCount (sinceBegin chapter))

/-- The place of the thread that has the post with `k` posts before it in all threads together. -/
def threadAt : List (List Post) → Nat → Nat
  | [], _ => 0
  | posts :: rest, k => if k < posts.length then 0 else threadAt rest (k - posts.length) + 1

/-! ### Laws of the parts -/

@[simp] theorem pushed_nil : pushed [] = [] := rfl

@[simp] theorem pushed_cons (s : Step) (steps : List Step) :
    pushed (s :: steps) = s.post?.toList ++ pushed steps := by
  unfold pushed
  cases h : s.post? with
  | none => exact List.filterMap_cons_none h
  | some post => exact List.filterMap_cons_some h

@[simp] theorem pushed_append (a b : List Step) : pushed (a ++ b) = pushed a ++ pushed b :=
  List.filterMap_append

theorem pushed_snoc_none {s : Step} (h : s.post? = none) (since : List Step) :
    pushed (since ++ [s]) = pushed since := by
  simp [h]

theorem post?_boundary {s : Step} (h : s.isBoundary = true) : s.post? = none := by
  cases s <;> first | rfl | cases h

theorem run_append (c : Collector) (a b : List Step) : c.run (a ++ b) = (c.run a).run b := by
  induction a generalizing c with
  | nil => rfl
  | cons s a ih => exact ih (c.apply s)

theorem total_append (count : Step → Nat) (a b : List Step) :
    total count (a ++ b) = total count a + total count b := by
  induction a with
  | nil => simp [total]
  | cons s a ih => simp only [List.cons_append, total, ih, Nat.add_assoc]

theorem sinceBegin_begin (since : List Step) : sinceBegin (since ++ [.begin]) = [] := by
  simp [sinceBegin, Step.isBegin]

theorem sinceBegin_snoc {s : Step} (h : s.isBegin = false) (since : List Step) :
    sinceBegin (since ++ [s]) = if since.any Step.isBegin then sinceBegin since ++ [s] else [] := by
  unfold sinceBegin
  by_cases hb : since.any Step.isBegin
  · simp [hb, h]
  · simp [hb, h]

theorem saturated_toNat (n : Nat) : (saturated n).toNat = min n (UInt32.size - 1) := by
  unfold saturated
  rw [UInt32.toNat_ofNat']
  exact Nat.mod_eq_of_lt (by simp only [UInt32.size]; omega)

/-- Counters that are full stay so, and others are as if they had no end. -/
theorem addSaturating_saturated (m : Nat) (b : UInt32) :
    addSaturating (saturated m) b = saturated (m + b.toNat) := by
  unfold addSaturating
  rw [saturated_toNat]
  unfold saturated
  congr 1
  omega

theorem addSaturating_saturated_saturated (m n : Nat) :
    addSaturating (saturated m) (saturated n) = saturated (n + m) := by
  rw [addSaturating_saturated, saturated_toNat]
  unfold saturated
  congr 1
  omega

/-! ### Histories in chapters -/

/-- The chapters are the history, cut in pieces; what is left at the end has no posts. -/
theorem chaptersFrom_flatten (since steps : List Step) :
    ∃ rest, (chaptersFrom since steps).flatten ++ rest = since ++ steps ∧ pushed rest = [] := by
  induction steps generalizing since with
  | nil =>
    unfold chaptersFrom
    by_cases hp : pushed since = []
    · exact ⟨since, by simp [hp], hp⟩
    · exact ⟨[], by simp [hp], rfl⟩
  | cons s steps ih =>
    unfold chaptersFrom
    split
    · obtain ⟨rest, he, hrest⟩ := ih [s]
      exact ⟨rest, by rw [List.flatten_cons, List.append_assoc, he]; rfl, hrest⟩
    · obtain ⟨rest, he, hrest⟩ := ih (since ++ [s])
      exact ⟨rest, by rw [he, List.append_assoc]; rfl, hrest⟩

/-- No boundary stands behind a post. -/
def BoundariesFirst (chapter : List Step) : Prop :=
  ∀ before s after, chapter = before ++ s :: after → s.isBoundary = true → pushed before = []

theorem boundariesFirst_nil : BoundariesFirst [] := by
  intro before s after he
  simp at he

theorem boundariesFirst_snoc {since : List Step} (h : BoundariesFirst since) {s : Step}
    (hs : s.isBoundary = true → pushed since = []) : BoundariesFirst (since ++ [s]) := by
  intro before u after he hu
  rcases List.eq_nil_or_concat after with rfl | ⟨after, v, rfl⟩
  · obtain ⟨rfl, hsu⟩ := List.append_inj' he rfl
    exact hs ((List.cons.inj hsu).1 ▸ hu)
  · rw [List.concat_eq_append, ← List.cons_append, ← List.append_assoc] at he
    exact h before u after (List.append_inj' he rfl).1 hu

theorem boundariesFirst_of_mem {since steps chapter : List Step} (h : BoundariesFirst since)
    (hc : chapter ∈ chaptersFrom since steps) : BoundariesFirst chapter := by
  induction steps generalizing since with
  | nil =>
    unfold chaptersFrom at hc
    split at hc
    · cases hc
    · exact List.mem_singleton.mp hc ▸ h
  | cons s steps ih =>
    unfold chaptersFrom at hc
    split at hc
    · rcases List.mem_cons.mp hc with rfl | hc
      · exact h
      · exact ih (boundariesFirst_snoc boundariesFirst_nil fun _ => rfl) hc
    · rename_i hs
      refine ih (boundariesFirst_snoc h fun hb => ?_) hc
      simpa [hb] using hs

/-! ### Posts in chapters -/

/-- The chapters have all the posts, in their order. -/
theorem chaptersFrom_pushed (since steps : List Step) :
    (chaptersFrom since steps).flatMap pushed = pushed since ++ pushed steps := by
  induction steps generalizing since with
  | nil =>
    unfold chaptersFrom
    cases hp : pushed since <;> simp [hp]
  | cons s rest ih =>
    unfold chaptersFrom
    split
    · rw [List.flatMap_cons, ih, ← pushed_append]
      rfl
    · rw [ih, pushed_append, List.append_assoc, ← pushed_append]
      rfl

theorem pushed_ne_nil_of_mem {since steps chapter : List Step}
    (h : chapter ∈ chaptersFrom since steps) : pushed chapter ≠ [] := by
  induction steps generalizing since with
  | nil =>
    unfold chaptersFrom at h
    split at h
    · cases h
    · rename_i hp
      obtain rfl := List.mem_singleton.mp h
      simpa using hp
  | cons s rest ih =>
    unfold chaptersFrom at h
    split at h
    · rename_i hs
      rcases List.mem_cons.mp h with rfl | h
      · simpa using (Bool.and_eq_true_iff.mp hs).2
      · exact ih h
    · exact ih h

/-- The posts of the chapters are those between the boundaries, wherever there are any. -/
theorem map_pushed_chaptersFrom (since steps : List Step) :
    (chaptersFrom since steps).map pushed =
      (((steps.splitOnP Step.isBoundary).map pushed).modifyHead (pushed since ++ ·)).filter
        (!·.isEmpty) := by
  induction steps generalizing since with
  | nil =>
    unfold chaptersFrom
    cases hp : pushed since <;> simp [hp]
  | cons s rest ih =>
    rw [chaptersFrom, List.splitOnP_cons_eq_if_modifyHead]
    cases hb : s.isBoundary
    · have hhead (pieces : List (List Step)) :
          ((pieces.modifyHead (s :: ·)).map pushed).modifyHead (pushed since ++ ·) =
            (pieces.map pushed).modifyHead (pushed (since ++ [s]) ++ ·) := by
        cases pieces <;> simp
      rw [if_neg (by simp), if_neg Bool.false_ne_true, ih, hhead]
    · have hnone := post?_boundary hb
      have hhead (pieces : List (List Post)) : pieces.modifyHead ([] ++ ·) = pieces := by
        cases pieces <;> rfl
      rw [if_pos rfl, List.map_cons, pushed_nil, List.modifyHead_cons, List.append_nil]
      split
      · rename_i hs
        rw [List.map_cons, ih, List.filter_cons_of_pos (by simpa using hs), pushed_cons, hnone]
        exact congrArg _ (congrArg _ (hhead _))
      · rename_i hs
        have hempty : pushed since = [] := by simpa using hs
        rw [ih, pushed_snoc_none hnone, hempty, hhead, List.filter_cons_of_neg (by simp)]

theorem splitOnP_append_of_none {p : α → Bool} {xs : List α} (h : ∀ x ∈ xs, p x = false)
    (ys : List α) : (xs ++ ys).splitOnP p = (ys.splitOnP p).modifyHead (xs ++ ·) := by
  induction xs with
  | nil => cases hys : ys.splitOnP p <;> simp [hys]
  | cons x xs ih =>
    rw [List.cons_append, List.splitOnP_cons_eq_if_modifyHead,
      ih fun y hy => h y (List.mem_cons_of_mem x hy), if_neg (by simp [h x List.mem_cons_self])]
    cases ys.splitOnP p <;> rfl

theorem map_pushed_chapters (steps : List Step) :
    (chapters steps).map pushed =
      ((steps.splitOnP Step.isBoundary).map pushed).filter (!·.isEmpty) := by
  have hhead (pieces : List (List Post)) : pieces.modifyHead ([] ++ ·) = pieces := by
    cases pieces <;> rfl
  exact (map_pushed_chaptersFrom [] steps).trans (congrArg _ (hhead _))

/-- A history told in parts, each of which is one boundary or has none: the posts between the
boundaries are those of the parts between them. -/
theorem map_pushed_splitOnP_flatMap {begins : α → Bool} {told : α → List Step} {parts : List α}
    (hbegins : ∀ a ∈ parts, begins a = true → told a = [.begin])
    (hnone : ∀ a ∈ parts, begins a = false → ∀ s ∈ told a, s.isBoundary = false) :
    ((parts.flatMap told).splitOnP Step.isBoundary).map pushed =
      (parts.splitOnP begins).map fun piece => piece.flatMap fun a => pushed (told a) := by
  induction parts with
  | nil => rfl
  | cons a parts ih =>
    have ih := ih (fun b hb => hbegins b (List.mem_cons_of_mem a hb))
      fun b hb => hnone b (List.mem_cons_of_mem a hb)
    rw [List.flatMap_cons, List.splitOnP_cons_eq_if_modifyHead]
    cases hb : begins a
    · rw [splitOnP_append_of_none (hnone a List.mem_cons_self hb), if_neg Bool.false_ne_true]
      cases hp : parts.splitOnP begins with
      | nil => exact absurd hp (List.splitOnP_ne_nil _ _)
      | cons piece pieces =>
        rw [hp] at ih
        cases hq : (parts.flatMap told).splitOnP Step.isBoundary with
        | nil => exact absurd hq (List.splitOnP_ne_nil _ _)
        | cons first others =>
          rw [hq] at ih
          simp only [List.map_cons, List.cons.injEq] at ih
          simp [ih.1, ih.2]
    · rw [hbegins a List.mem_cons_self hb, List.singleton_append,
        List.splitOnP_cons_eq_if_modifyHead, if_pos (show Step.begin.isBoundary = true from rfl),
        if_pos rfl, List.map_cons, List.map_cons, ih]
      rfl

/-- A chapter with a post goes on from what it has. -/
theorem chaptersFrom_head (steps since : List Step) (hp : pushed since ≠ []) :
    ∃ more rest, chaptersFrom since steps = (since ++ more) :: rest := by
  induction steps generalizing since with
  | nil => exact ⟨[], [], by simp [chaptersFrom, hp]⟩
  | cons s steps ih =>
    unfold chaptersFrom
    split
    · exact ⟨[], _, by rw [List.append_nil]⟩
    · obtain ⟨more, rest, he⟩ := ih (since ++ [s]) (by simp [hp])
      exact ⟨s :: more, rest, by rw [he, List.append_assoc]; rfl⟩

/-- The last post of a chapter in progress and the next post that comes: they are in one thread
exactly if no boundary is between them. -/
theorem threadAt_next (since : List Step) {between : List Step} (q : Post) (after : List Step)
    (hs : pushed since ≠ []) (hb : pushed between = []) :
    threadAt ((chaptersFrom since (between ++ .push q :: after)).map pushed)
        ((pushed since).length - 1) =
      threadAt ((chaptersFrom since (between ++ .push q :: after)).map pushed)
        (pushed since).length ↔ ∀ s ∈ between, s.isBoundary = false := by
  have hpos : 0 < (pushed since).length := List.length_pos_iff.mpr hs
  induction between generalizing since with
  | nil =>
    obtain ⟨more, rest, he⟩ := chaptersFrom_head after (since ++ [.push q]) (by simp [hs])
    have hlen : (pushed since).length < (pushed (since ++ [.push q] ++ more)).length := by
      simp [Step.post?]
    rw [List.nil_append, chaptersFrom, if_neg (by simp [Step.isBoundary]), he, List.map_cons, threadAt,
      threadAt, if_pos hlen, if_pos (by omega)]
    simp
  | cons s between ih =>
    obtain ⟨hnone, hrest⟩ : s.post? = none ∧ pushed between = [] := by simpa using hb
    rw [List.cons_append, chaptersFrom]
    cases hbound : s.isBoundary
    · have hsame := pushed_snoc_none hnone since
      have := ih (since ++ [s]) (by rwa [hsame]) hrest (by rwa [hsame])
      rw [hsame] at this
      simpa [hbound] using this
    · rw [if_pos (by simp [hs]), List.map_cons, threadAt, threadAt, if_pos (by omega),
        if_neg (Nat.lt_irrefl _)]
      simp [hbound]

/-- Two posts that are pushed one after the other, with the posts of `since` and `before` before
them: they are in one thread exactly if no boundary is between them. -/
theorem threadAt_consecutive (since before : List Step) {between : List Step} (p q : Post)
    (after : List Step)
    (hb : pushed between = []) :
    threadAt ((chaptersFrom since (before ++ .push p :: between ++ .push q :: after)).map pushed)
        ((pushed since).length + (pushed before).length) =
      threadAt ((chaptersFrom since (before ++ .push p :: between ++ .push q :: after)).map pushed)
        ((pushed since).length + (pushed before).length + 1) ↔
      ∀ s ∈ between, s.isBoundary = false := by
  induction before generalizing since with
  | nil =>
    have := threadAt_next (since ++ [.push p]) q after (by simp [Step.post?]) hb
    simpa [chaptersFrom, Step.isBoundary, Step.post?] using this
  | cons s before ih =>
    rw [List.cons_append, List.cons_append, chaptersFrom]
    split
    · rename_i hs
      obtain ⟨hbound, -⟩ := Bool.and_eq_true_iff.mp hs
      have := ih [s]
      simp only [pushed_cons, post?_boundary hbound, pushed_nil, Option.toList_none, List.nil_append,
        List.length_nil, Nat.zero_add] at this ⊢
      rw [List.map_cons, threadAt, threadAt, if_neg (by omega), if_neg (by omega),
        show (pushed since).length + (pushed before).length + 1 - (pushed since).length =
          (pushed before).length + 1 by omega, Nat.add_sub_cancel_left, Nat.add_right_cancel_iff]
      exact this
    · have := ih (since ++ [s])
      simpa [Nat.add_assoc] using this

end Collector
end Imageboard
