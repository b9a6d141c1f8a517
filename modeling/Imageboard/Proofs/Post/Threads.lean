import Imageboard.Proofs.Post.Chapter

/-! What a collector makes of whatever happens to it.

`Within` says what a collector holds in the middle of a chapter, and every step either keeps it or
ends the chapter with its thread. `collected_threads`: the collector returns one thread for each
chapter, with the posts of the chapter and the counts that were added after the last thread of the
chapter began, and no post is lost, repeated or put elsewhere. -/
namespace Imageboard
namespace Collector

/-! ### The chapter in progress -/

/-- The thread that a chapter has begun, with what was added to it since. -/
def begun (since : List Step) : Option Thread :=
  if since.any Step.isBegin then
    some {
      postsCount := saturated (total Step.postsCount (sinceBegin since))
      filesCount := saturated (total Step.filesCount (sinceBegin since)) }
  else none

theorem begun_begin (since : List Step) : begun (since ++ [.begin]) = some {} := by
  unfold begun
  rw [sinceBegin_begin, if_pos (by simp [Step.isBegin])]
  rfl

theorem begun_snoc {s : Step} (h : s.isBegin = false) (since : List Step) :
    begun (since ++ [s]) =
      if since.any Step.isBegin then
        some {
          postsCount := saturated (total Step.postsCount (sinceBegin since) + s.postsCount)
          filesCount := saturated (total Step.filesCount (sinceBegin since) + s.filesCount) }
      else none := by
  have hany : (since ++ [s]).any Step.isBegin = since.any Step.isBegin := by simp [h]
  unfold begun
  rw [hany, sinceBegin_snoc h]
  by_cases hb : since.any Step.isBegin
  · simp only [hb, if_true, total_append, total, Nat.add_zero]
  · simp only [hb, Bool.false_eq_true, if_false]

/-- The collector in the middle of a chapter that began with the steps `since`. -/
structure Within (openingOnly : Bool) (since : List Step) (c : Collector) : Prop where
  listing : c.listing = .threads openingOnly
  posts : c.posts = pushed since
  current : c.current = begun since

namespace Within
variable {openingOnly : Bool} {since : List Step} {c : Collector}

theorem groupsThreads (h : Within openingOnly since c) : c.groupsThreads = true := by
  simp [Collector.groupsThreads, h.listing]

theorem canClose (h : Within openingOnly since c) : c.canClose = !(pushed since).isEmpty := by
  rw [Collector.canClose, h.groupsThreads, h.posts, Bool.true_and]

/-- Closing a chapter makes its thread. -/
theorem closed (h : Within openingOnly since c) : c.closed = threadOf openingOnly since := by
  have hshown : c.shownCount = saturated (if openingOnly then 1 else (pushed since).length) := by
    unfold shownCount
    rw [h.listing, h.posts]
    cases openingOnly <;> rfl
  unfold Collector.closed threadOf Thread.addPosts
  rw [h.posts, h.current, hshown]
  unfold begun
  by_cases hb : since.any Step.isBegin
  · rw [if_pos hb]
    simp only [Option.getD_some, addSaturating_saturated_saturated]
  · have hnone : sinceBegin since = [] := if_neg hb
    rw [if_neg hb, hnone]
    simp only [Option.getD_none, total]
    rw [show (0 : UInt32) = saturated 0 from rfl, addSaturating_saturated_saturated]

/-- A step that ends no chapter. -/
theorem step (h : Within openingOnly since c) (s : Step)
    (hs : (s.isBoundary && !(pushed since).isEmpty) = false) :
    Within openingOnly (since ++ [s]) (c.apply s) ∧ (c.apply s).threads = c.threads := by
  have hclose (hb : s.isBoundary = true) : c.close = c := by
    rw [hb, Bool.true_and] at hs
    rw [Collector.close, h.canClose, hs]
    rfl
  cases s with
  | begin =>
    have hbegin : c.apply .begin = { c with current := some {} } := by
      simp [apply, Collector.begin, h.groupsThreads, hclose rfl]
    rw [hbegin]
    exact ⟨⟨h.listing, by rw [pushed_snoc_none rfl]; exact h.posts,
      (begun_begin since).symm⟩, rfl⟩
  | push post =>
    refine ⟨⟨h.listing, ?_, ?_⟩, rfl⟩
    · show c.posts ++ [post] = _
      rw [h.posts, pushed_append]
      rfl
    · show c.current = _
      rw [h.current, begun_snoc rfl]
      rfl
  | close =>
    rw [show c.apply .close = c from hclose rfl]
    refine ⟨⟨h.listing, by rw [pushed_snoc_none rfl]; exact h.posts, ?_⟩, rfl⟩
    rw [h.current, begun_snoc rfl]
    rfl
  | addPosts count =>
    refine ⟨⟨h.listing, by rw [pushed_snoc_none rfl]; exact h.posts, ?_⟩, rfl⟩
    show c.current.map _ = _
    rw [h.current, begun_snoc rfl]
    unfold begun
    split
    · simp only [Option.map_some, Thread.addPosts, addSaturating_saturated]
      rfl
    · rfl
  | addFiles count =>
    refine ⟨⟨h.listing, by rw [pushed_snoc_none rfl]; exact h.posts, ?_⟩, rfl⟩
    show c.current.map _ = _
    rw [h.current, begun_snoc rfl]
    unfold begun
    split
    · simp only [Option.map_some, Thread.addFiles, addSaturating_saturated]
      rfl
    · rfl

/-- A boundary behind a post: the chapter ends with its thread and another begins. -/
theorem boundary (h : Within openingOnly since c) {s : Step} (hs : s.isBoundary = true)
    (hp : (pushed since).isEmpty = false) :
    Within openingOnly [s] (c.apply s) ∧
      (c.apply s).threads = c.threads ++ [threadOf openingOnly since] := by
  have hclose : c.close =
      { c with current := none, posts := [], threads := c.threads ++ [threadOf openingOnly since] } := by
    rw [Collector.close, h.canClose, hp, h.closed]
    rfl
  cases s with
  | begin =>
    have hbegin : c.apply .begin = { c.close with current := some {} } := by
      simp only [apply, Collector.begin, h.groupsThreads, if_true]
    rw [hbegin, hclose]
    exact ⟨⟨h.listing, rfl, rfl⟩, rfl⟩
  | close =>
    rw [show c.apply .close = c.close from rfl, hclose]
    exact ⟨⟨h.listing, rfl, rfl⟩, rfl⟩
  | push post => cases hs
  | addPosts count => cases hs
  | addFiles count => cases hs

/-- The threads of a collector that a history goes on with: those it has, and one for each chapter. -/
theorem allThreads_run (h : Within openingOnly since c) (steps : List Step) :
    (c.run steps).allThreads =
      c.threads ++ (chaptersFrom since steps).map (threadOf openingOnly) := by
  induction steps generalizing since c with
  | nil =>
    unfold run allThreads chaptersFrom
    rw [Collector.close, h.canClose]
    cases hp : (pushed since).isEmpty
    · simp [h.closed]
    · simp
  | cons s rest ih =>
    unfold run chaptersFrom
    split
    · rename_i hs
      obtain ⟨hb, hp⟩ := Bool.and_eq_true_iff.mp hs
      obtain ⟨hnext, hthreads⟩ := h.boundary hb (by simpa using hp)
      rw [ih hnext, hthreads, List.map_cons, List.append_assoc]
      rfl
    · rename_i hs
      obtain ⟨hnext, hthreads⟩ := h.step s (by simpa using hs)
      rw [ih hnext, hthreads]

end Within

/-! ### Whole histories -/

/-- A collector to which nothing has happened. -/
def fresh (listing : Listing) : Collector := { listing }

theorem fresh_within (openingOnly : Bool) : Within openingOnly [] (fresh (.threads openingOnly)) :=
  ⟨rfl, rfl, rfl⟩

theorem apply_listing (c : Collector) (s : Step) : (c.apply s).listing = c.listing := by
  have hclose : c.close.listing = c.listing := by
    unfold Collector.close
    split <;> rfl
  cases s with
  | begin =>
    show c.begin.listing = c.listing
    unfold Collector.begin
    split
    · exact hclose
    · rfl
  | close => exact hclose
  | push post => rfl
  | addPosts count => rfl
  | addFiles count => rfl

theorem run_listing (c : Collector) (steps : List Step) : (c.run steps).listing = c.listing := by
  induction steps generalizing c with
  | nil => rfl
  | cons s rest ih => rw [run, ih, apply_listing]

theorem groupsThreads_run (c : Collector) (steps : List Step) :
    (c.run steps).groupsThreads = c.groupsThreads := by
  unfold Collector.groupsThreads
  rw [run_listing]

/-- Where no threads are asked for, boundaries and counts do nothing. -/
theorem run_posts {c : Collector} (h : c.groupsThreads = false) (steps : List Step) :
    (c.run steps).posts = c.posts ++ pushed steps ∧ (c.run steps).threads = c.threads := by
  induction steps generalizing c with
  | nil => exact ⟨(List.append_nil _).symm, rfl⟩
  | cons s rest ih =>
    have hnext : (c.apply s).groupsThreads = false := by
      rw [Collector.groupsThreads, apply_listing]
      exact h
    obtain ⟨hposts, hthreads⟩ := ih hnext
    have hclose : c.close = c := by simp [Collector.close, Collector.canClose, h]
    have hstep : (c.apply s).posts = c.posts ++ s.post?.toList ∧ (c.apply s).threads = c.threads := by
      cases s with
      | begin => simp [apply, Collector.begin, h, Step.post?]
      | close => simp [apply, hclose, Step.post?]
      | push post => exact ⟨rfl, rfl⟩
      | addPosts count => exact ⟨(List.append_nil _).symm, rfl⟩
      | addFiles count => exact ⟨(List.append_nil _).symm, rfl⟩
    rw [run, hposts, hthreads, hstep.1, hstep.2, pushed_cons, List.append_assoc]
    exact ⟨rfl, rfl⟩

theorem allThreads_fresh (openingOnly : Bool) (steps : List Step) :
    ((fresh (.threads openingOnly)).run steps).allThreads =
      (chapters steps).map (threadOf openingOnly) :=
  (fresh_within openingOnly).allThreads_run steps

theorem posts_allThreads_fresh (openingOnly : Bool) (steps : List Step) :
    ((fresh (.threads openingOnly)).run steps).allThreads.map (·.posts) =
      (chapters steps).map pushed := by
  rw [allThreads_fresh, List.map_map]
  rfl

/-- The threads have all posts, in the order they came. -/
theorem flatMap_posts_fresh (openingOnly : Bool) (steps : List Step) :
    ((fresh (.threads openingOnly)).run steps).allThreads.flatMap (·.posts) = pushed steps := by
  rw [allThreads_fresh, List.flatMap_map]
  exact chaptersFrom_pushed [] steps

theorem allPosts_fresh_posts (steps : List Step) :
    ((fresh .posts).run steps).allPosts = pushed steps := by
  rw [Collector.allPosts, groupsThreads_run, (run_posts (c := fresh .posts) rfl steps).1]
  rfl

/-- Whatever is asked for, the posts are all there are. -/
theorem allPosts_fresh (listing : Listing) (steps : List Step) :
    ((fresh listing).run steps).allPosts = pushed steps := by
  cases listing with
  | posts => exact allPosts_fresh_posts steps
  | threads openingOnly =>
    rw [Collector.allPosts, groupsThreads_run]
    exact flatMap_posts_fresh openingOnly steps

/-- Where there are no posts there are no threads. -/
theorem allThreads_eq_nil (listing : Listing) {steps : List Step} (h : pushed steps = []) :
    ((fresh listing).run steps).allThreads = [] := by
  cases listing with
  | posts =>
    rw [allThreads, close, canClose, groupsThreads_run]
    exact (run_posts (c := fresh .posts) rfl steps).2
  | threads openingOnly =>
    have hnone : chapters steps = [] := by
      refine List.eq_nil_iff_forall_not_mem.mpr fun chapter hc => ?_
      have hposts := (chaptersFrom_pushed [] steps).trans h
      exact pushed_ne_nil_of_mem hc (List.flatMap_eq_nil_iff.mp hposts chapter hc)
    rw [allThreads_fresh, hnone]
    rfl

/-- **What a collector returns after any history.** Where threads are asked for: all posts in the
order they came and none of them twice, no thread without posts, two posts that follow each other in
one thread exactly if no boundary is between them, and in each thread the counts that were added to
it, with its own posts, as far as 32 bits go. The chapters that tell which counts these are cut the
history in pieces, in none of which a boundary is behind a post. Where only posts are asked for: all
posts, and no thread. -/
theorem collected_threads (openingOnly : Bool) (steps : List Step) :
    let threads := ((fresh (.threads openingOnly)).run steps).allThreads
    threads.flatMap (·.posts) = pushed steps ∧
    (∀ t ∈ threads, t.posts ≠ []) ∧
    (∀ before p between q after, steps = before ++ .push p :: between ++ .push q :: after →
      pushed between = [] →
      (threadAt (threads.map (·.posts)) (pushed before).length =
          threadAt (threads.map (·.posts)) ((pushed before).length + 1) ↔
        ∀ s ∈ between, s.isBoundary = false)) ∧
    threads = (chapters steps).map (threadOf openingOnly) ∧
    (∃ rest, (chapters steps).flatten ++ rest = steps ∧ pushed rest = []) ∧
    (∀ chapter ∈ chapters steps, BoundariesFirst chapter) ∧
    ((fresh (.threads openingOnly)).run steps).allPosts = pushed steps ∧
    ((fresh .posts).run steps).allPosts = pushed steps ∧
    ((fresh .posts).run steps).allThreads = [] := by
  refine ⟨flatMap_posts_fresh openingOnly steps, fun t ht => ?_, ?_,
    allThreads_fresh openingOnly steps, chaptersFrom_flatten [] steps,
    fun _ => boundariesFirst_of_mem boundariesFirst_nil, ?_, allPosts_fresh_posts steps, ?_⟩
  · rw [allThreads_fresh] at ht
    obtain ⟨chapter, hc, rfl⟩ := List.mem_map.mp ht
    exact pushed_ne_nil_of_mem hc
  · intro before p between q after he hb
    have := threadAt_consecutive [] before p q after hb
    rw [posts_allThreads_fresh, he]
    simpa [chapters] using this
  · rw [Collector.allPosts, groupsThreads_run]
    exact flatMap_posts_fresh openingOnly steps
  · rw [Collector.allThreads, Collector.close, Collector.canClose, groupsThreads_run]
    exact (run_posts (c := fresh .posts) rfl steps).2

/-- A boundary between two posts puts them in two threads. -/
theorem threads_of_two_posts :
    let steps : List Step := [.begin, .push {}, .addPosts 3, .close, .push {}]
    let posts := ((fresh (.threads false)).run steps).allThreads.map (·.posts)
    pushed [.addPosts 3, .close] = [] ∧ threadAt posts 0 ≠ threadAt posts 1 := by
  refine ⟨rfl, fun h => ?_⟩
  have := (collected_threads false [.begin, .push {}, .addPosts 3, .close, .push {}]).2.2.1
    [.begin] {} [.addPosts 3, .close] {} [] rfl rfl
  cases this.mp h .close (by simp)

end Collector
end Imageboard
