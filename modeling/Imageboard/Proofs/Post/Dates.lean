import Imageboard.Proofs.Post.Collecting

/-! Dates among what is collected.

A collector groups posts without looking into them, so that a change of all posts goes through it
(`run_mapPosts`). Where one of the posts that come to a collector has another date, nothing but the
date of that post changes in what the collector returns: `redatedAt_push`. -/
namespace Imageboard

/-- The post with another date, or none. -/
def Post.dated (moment : Option Int64) (p : Post) : Post := { p with timestamp := moment }

def Thread.mapPosts (f : Post → Post) (t : Thread) : Thread := { t with posts := t.posts.map f }

namespace Collector

/-- All posts changed, in threads and outside. -/
def mapPosts (f : Post → Post) (c : Collector) : Collector :=
  { c with posts := c.posts.map f, threads := c.threads.map (Thread.mapPosts f) }

def Step.mapPost (f : Post → Post) : Step → Step
  | .push post => .push (f post)
  | s => s

section
variable (f : Post → Post)

theorem closed_mapPosts (c : Collector) : (c.mapPosts f).closed = c.closed.mapPosts f := by
  have hshown : (c.mapPosts f).shownCount = c.shownCount := by
    unfold shownCount mapPosts
    simp only [List.length_map]
  unfold closed
  rw [hshown]
  rfl

theorem close_mapPosts (c : Collector) : (c.mapPosts f).close = c.close.mapPosts f := by
  have hcan : (c.mapPosts f).canClose = c.canClose := by
    unfold canClose groupsThreads mapPosts
    simp only [List.isEmpty_map]
  unfold close
  rw [hcan, closed_mapPosts]
  split
  · simp [mapPosts]
  · rfl

theorem apply_mapPosts (c : Collector) (s : Step) :
    (c.mapPosts f).apply (s.mapPost f) = (c.apply s).mapPosts f := by
  cases s with
  | begin =>
    show (c.mapPosts f).begin = c.begin.mapPosts f
    have hgroups : (c.mapPosts f).groupsThreads = c.groupsThreads := rfl
    unfold begin
    rw [hgroups, close_mapPosts]
    split <;> rfl
  | push post =>
    show (c.mapPosts f).push (f post) = (c.push post).mapPosts f
    simp [push, mapPosts]
  | close => exact close_mapPosts f c
  | addPosts count => rfl
  | addFiles count => rfl

/-- A change of all posts goes through a history. -/
theorem run_mapPosts (c : Collector) (steps : List Step) :
    (c.mapPosts f).run (steps.map (Step.mapPost f)) = (c.run steps).mapPosts f := by
  induction steps generalizing c with
  | nil => rfl
  | cons s rest ih => rw [List.map_cons, run, run, apply_mapPosts, ih]

theorem allThreads_mapPosts (c : Collector) :
    (c.mapPosts f).allThreads = c.allThreads.map (Thread.mapPosts f) :=
  congrArg threads (close_mapPosts f c)

end

/-- The same posts in the same threads, with the same counts, but for the date of the post that has
`n` others before it. -/
structure RedatedAt (n : Nat) (c c' : Collector) : Prop where
  posts : ∃ moment, c'.allPosts = c.allPosts.modify n (Post.dated moment)
  threads : c'.allThreads.map (Thread.mapPosts (Post.dated none)) =
    c.allThreads.map (Thread.mapPosts (Post.dated none))

/-- **A post with another date is collected where it was**, and nothing else changes. -/
theorem redatedAt_push (listing : Listing) (earlier later : List Step) (p : Post)
    (moment : Option Int64) :
    RedatedAt (pushed earlier).length ((fresh listing).run (earlier ++ .push p :: later))
      ((fresh listing).run (earlier ++ .push (p.dated moment) :: later)) where
  posts := by
    refine ⟨moment, ?_⟩
    rw [allPosts_fresh, allPosts_fresh]
    simp [Step.post?, List.modify_eq_take_cons_drop]
  threads := by
    have hsame : (earlier ++ Step.push (p.dated moment) :: later).map (Step.mapPost (Post.dated none)) =
        (earlier ++ Step.push p :: later).map (Step.mapPost (Post.dated none)) := by
      rw [List.map_append, List.map_append]
      rfl
    rw [← allThreads_mapPosts, ← allThreads_mapPosts, ← run_mapPosts, ← run_mapPosts, hsame]

end Collector
open Collector Collecting

/-- Two readings that have collected one post with two dates, and go on with one history. -/
theorem SameHistory.redatedAt [Collecting σ] {listing : Listing} {earlier : List Step} {p : Post}
    {moment : Option Int64} {s t : σ}
    (h : SameHistory (((fresh listing).run earlier).push p)
      (((fresh listing).run earlier).push (p.dated moment)) s t) :
    RedatedAt (pushed earlier).length (collector s) (collector t) := by
  obtain ⟨later, hs, rfl⟩ := h
  have hrun (p : Post) : (((fresh listing).run earlier).push p).run later =
      (fresh listing).run (earlier ++ .push p :: later) := by
    rw [Collector.run_append]
    rfl
  rw [collector_withCollector, hs, hrun, hrun]
  exact redatedAt_push listing earlier later p moment

end Imageboard
