import Imageboard.Proofs.Post.Collecting
import Imageboard.Proofs.Rule.History

/-! The history that a page makes of a collector, tag by tag.

A site owes a `Chronicle`: the steps that answering a tag takes the collector through, whether it
begins a thread, and the post it completes. What is collected when the page ends follows from that
once for all sites: the posts are those completed, in the order of the page (`allPosts_history`),
and threads are cut where tags begin them (`posts_allThreads_history`). -/
namespace Imageboard
open Collector (Step fresh pushed)
open Collecting (collector)

/-- What a site owes. -/
structure Chronicle [Collecting σ] (sheet : List (Entry σ)) where
  steps : σ → Visit → List Step
  begins : σ → Visit → Bool
  completed? : σ → Visit → Option Post
  /-- Answering a tag takes the collector through its steps. -/
  collector_apply {v : Visit} {s : σ} (hv : v.MadeIn (Sheet.table sheet) s) :
    collector (v.apply (Sheet.table sheet) s) = (collector s).run (steps s v)
  /-- A tag that begins a thread does nothing else, and no other tag is a boundary. -/
  steps_begins {v : Visit} {s : σ} (h : begins s v = true) : steps s v = [.begin]
  steps_inside {v : Visit} {s : σ} (h : begins s v = false) :
    ∀ step ∈ steps s v, step.isBoundary = false
  pushed_steps {v : Visit} {s : σ} (hv : v.MadeIn (Sheet.table sheet) s) :
    pushed (steps s v) = (completed? s v).toList

namespace Chronicle
variable [Collecting σ] {sheet : List (Entry σ)} (C : Chronicle sheet) (source : Source) (s : σ)

/-- What the tag at place `n` does to the collector. -/
def stepsAt (n : Nat) : List Step :=
  ((Sheet.visits sheet source s)[n]?.map (C.steps (Sheet.stateAt sheet source s n))).getD []

/-- Whether the tag at place `n` begins a thread. -/
def beginsAt (n : Nat) : Bool :=
  (Sheet.visits sheet source s)[n]?.any (C.begins (Sheet.stateAt sheet source s n))

/-- The post that the tag at place `n` completes. -/
def completedAt (n : Nat) : Option Post :=
  (Sheet.visits sheet source s)[n]?.bind (C.completed? (Sheet.stateAt sheet source s n))

/-- Whether the tag at place `n` completes a post. -/
def completesAt (n : Nat) : Bool := (C.completedAt source s n).isSome

/-- What the first `n` tags do to the collector. -/
def history (n : Nat) : List Step := (List.range n).flatMap (C.stepsAt source s)

/-- The posts that the first `n` tags complete. -/
def completedPosts (n : Nat) : List Post := (List.range n).filterMap (C.completedAt source s)

variable {source s} {n : Nat} {v : Visit}

theorem beginsAt_eq (h : (Sheet.visits sheet source s)[n]? = some v) :
    C.beginsAt source s n = C.begins (Sheet.stateAt sheet source s n) v := by
  rw [beginsAt, h, Option.any_some]

theorem completedAt_eq (h : (Sheet.visits sheet source s)[n]? = some v) :
    C.completedAt source s n = C.completed? (Sheet.stateAt sheet source s n) v := by
  rw [completedAt, h, Option.bind_some]

/-- Where a post is completed there is a tag. -/
theorem exists_visit_of_completedAt {post : Post} (h : C.completedAt source s n = some post) :
    ∃ v, (Sheet.visits sheet source s)[n]? = some v ∧
      C.completed? (Sheet.stateAt sheet source s n) v = some post :=
  Option.bind_eq_some_iff.mp h

theorem history_succ (h : (Sheet.visits sheet source s)[n]? = some v) :
    C.history source s (n + 1) =
      C.history source s n ++ C.steps (Sheet.stateAt sheet source s n) v := by
  unfold history
  rw [List.range_succ, List.flatMap_append, List.flatMap_singleton, stepsAt, h]
  rfl

theorem completedPosts_succ (h : (Sheet.visits sheet source s)[n]? = some v) :
    C.completedPosts source s (n + 1) =
      C.completedPosts source s n ++ (C.completed? (Sheet.stateAt sheet source s n) v).toList := by
  unfold completedPosts
  rw [List.range_succ, List.filterMap_append, List.filterMap_cons, C.completedAt_eq h]
  cases C.completed? (Sheet.stateAt sheet source s n) v <;> rfl

/-- The collector of a page has the history of the page. -/
theorem collector_stateAt (n : Nat) (hn : n ≤ (Sheet.visits sheet source s).length) :
    collector (Sheet.stateAt sheet source s n) = (collector s).run (C.history source s n) := by
  refine Sheet.stateAt_induction
    (P := fun n state => collector state = (collector s).run (C.history source s n))
    rfl (fun n v hv ih => ?_) n hn
  rw [C.collector_apply (Sheet.visits_made hv), ih, C.history_succ hv, Collector.run_append]

theorem pushed_stepsAt (n : Nat) :
    pushed (C.stepsAt source s n) = (C.completedAt source s n).toList := by
  unfold stepsAt completedAt
  cases h : (Sheet.visits sheet source s)[n]? with
  | none => rfl
  | some v => exact C.pushed_steps (Sheet.visits_made h)

theorem flatMap_pushed_stepsAt (places : List Nat) :
    (places.flatMap fun n => pushed (C.stepsAt source s n)) =
      places.filterMap (C.completedAt source s) := by
  induction places with
  | nil => rfl
  | cons n places ih =>
    rw [List.flatMap_cons, List.filterMap_cons, ih, C.pushed_stepsAt]
    cases C.completedAt source s n <;> rfl

theorem pushed_history (n : Nat) :
    pushed (C.history source s n) = C.completedPosts source s n := by
  unfold history completedPosts
  rw [← C.flatMap_pushed_stepsAt]
  exact List.filterMap_flatMap

theorem stepsAt_of_beginsAt (h : C.beginsAt source s n = true) :
    C.stepsAt source s n = [.begin] := by
  obtain ⟨v, hv, hbegins⟩ := (Option.any_eq_true _ _).mp h
  rw [stepsAt, hv, Option.map_some, Option.getD_some, C.steps_begins hbegins]

theorem stepsAt_inside (h : C.beginsAt source s n = false) :
    ∀ step ∈ C.stepsAt source s n, step.isBoundary = false := by
  cases hv : (Sheet.visits sheet source s)[n]? with
  | none =>
    rw [stepsAt, hv, Option.map_none, Option.getD_none]
    exact fun _ hstep => nomatch hstep
  | some v =>
    rw [beginsAt, hv, Option.any_some] at h
    rw [stepsAt, hv, Option.map_some, Option.getD_some]
    exact C.steps_inside h

/-! ### What is collected -/

theorem allPosts_history (listing : Listing) (n : Nat) :
    ((fresh listing).run (C.history source s n)).allPosts = C.completedPosts source s n :=
  (Collector.allPosts_fresh listing _).trans (C.pushed_history n)

/-- The posts of a reading that collects what the page tells. -/
theorem allPosts_read {listing : Listing} {read : Except ReadError Collector}
    (h : read = source.markup.map fun _ => (fresh listing).run (C.history source s n)) :
    read.map Collector.allPosts = source.markup.map fun _ => C.completedPosts source s n := by
  rw [h]
  cases source.markup with
  | error e => rfl
  | ok markup => exact congrArg Except.ok (C.allPosts_history listing n)

/-- Each thread has the posts between two tags that begin one, and a thread without posts is
none. -/
theorem posts_allThreads_history (openingOnly : Bool) (n : Nat) :
    ((fresh (.threads openingOnly)).run (C.history source s n)).allThreads.map (·.posts) =
      (((List.range n).splitOnP (C.beginsAt source s)).map
        (·.filterMap (C.completedAt source s))).filter (!·.isEmpty) := by
  have hcut : ((C.history source s n).splitOnP Step.isBoundary).map pushed =
      ((List.range n).splitOnP (C.beginsAt source s)).map
        fun piece => piece.flatMap fun k => pushed (C.stepsAt source s k) :=
    Collector.map_pushed_splitOnP_flatMap (fun _ _ h => C.stepsAt_of_beginsAt h)
      fun _ _ h => C.stepsAt_inside h
  simp only [C.flatMap_pushed_stepsAt] at hcut
  rw [Collector.posts_allThreads_fresh, Collector.map_pushed_chapters, hcut]

/-- Reading a page fails only where its source does; otherwise it collects what the page tells. -/
theorem collector_read (hs : Sheet.Sound sheet) (hf : ∀ e ∈ sheet, e.NeverFails) (source : Source)
    (s : σ) :
    (readWithSheet sheet source s).1.map (fun _ => collector (readWithSheet sheet source s).2) =
      source.markup.map fun _ =>
        (collector s).run (C.history source s (Sheet.visits sheet source s).length) := by
  rw [Sheet.readWithSheet_ok hs hf, Sheet.readWithSheet_state hs,
    C.collector_stateAt _ (Nat.le_refl _)]
  cases source.markup <;> rfl

end Chronicle

end Imageboard
