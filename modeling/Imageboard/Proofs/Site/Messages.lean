import Imageboard.Proofs.Rule.Standing
import Imageboard.Proofs.Site.Erlach.Answers
import Imageboard.Proofs.Site.Wakaba.Answers

/-! The messages of a page, and its posts.

What a site owes is said by `Messages`: a message completes a post exactly where one is in progress,
and the comment is the content of the message in the form of the site. Then the posts of a page are
those of its messages, one for each and in the same order (`Messages.reports`), whatever becomes of
the posts in progress between them and wherever threads begin. -/
namespace Imageboard
open Collector (fresh)

theorem forall₂_filterMap {f : α → Option β} {p : α → Bool} {R : α → β → Prop} {xs : List α}
    (hp : ∀ x ∈ xs, (f x).isSome = p x) (hR : ∀ x ∈ xs, ∀ y, f x = some y → R x y) :
    List.Forall₂ R (xs.filter p) (xs.filterMap f) := by
  induction xs with
  | nil => exact .nil
  | cons x xs ih =>
    have ih := ih (fun y hy => hp y (List.mem_cons_of_mem x hy))
      fun y hy => hR y (List.mem_cons_of_mem x hy)
    have hx := hp x List.mem_cons_self
    cases hf : f x with
    | none =>
      rw [hf] at hx
      rw [List.filterMap_cons_none hf, List.filter_cons_of_neg (by simp [← hx])]
      exact ih
    | some y =>
      rw [hf] at hx
      rw [List.filterMap_cons_some hf, List.filter_cons_of_pos hx.symm]
      exact .cons (hR x List.mem_cons_self y hf) ih

namespace Chronicle
variable [Collecting σ] {sheet : List (Entry σ)}

/-- What messages are on a site, and what they make of posts. -/
structure Messages (C : Chronicle sheet) where
  isMessage : Visit → Bool
  /-- Whether a post is in progress. -/
  inProgress : σ → Bool
  /-- The form that the site gives to comments. -/
  comment : String → String
  completed?_isSome {v : Visit} {s : σ} (hv : v.MadeIn (Sheet.table sheet) s) :
    (C.completed? s v).isSome = (isMessage v && inProgress s)
  completed?_comment {v : Visit} {s : σ} {post : Post} (h : C.completed? s v = some post) :
    ∃ text, v.content = some text ∧ post.comment = some (comment text)

namespace Messages
variable {C : Chronicle sheet} (M : Messages C) (source : Source) (s : σ)

/-- Whether the tag at place `n` is a message that comes while a post is in progress. -/
def messageAt (n : Nat) : Bool :=
  Sheet.markAt sheet source s M.isMessage n && M.inProgress (Sheet.stateAt sheet source s n)

/-- The messages of a page that come while a post is in progress. -/
def places : List Nat :=
  (List.range (Sheet.visits sheet source s).length).filter (M.messageAt source s)

/-- A post is that of the message at place `n`: its comment is what stands in the message. -/
def PostOf (n : Nat) (post : Post) : Prop :=
  ∃ text, Sheet.toldAt sheet source s (·.content) n = some text ∧
    post.comment = some (M.comment text)

/-- A collector has the posts of the messages of a page, and nothing else. -/
structure Reports (listing : Listing) (c : Collector) : Prop where
  posts : List.Forall₂ (M.PostOf source s) (M.places source s) c.allPosts
  threads : listing ≠ .posts → c.allThreads.flatMap (·.posts) = c.allPosts
  empty : M.places source s = [] → c.allPosts = [] ∧ c.allThreads = []

variable {source s}

theorem completedAt_isSome {n : Nat} (hn : n < (Sheet.visits sheet source s).length) :
    (C.completedAt source s n).isSome = M.messageAt source s n := by
  have hv := List.getElem?_eq_getElem hn
  rw [C.completedAt_eq hv, M.completed?_isSome (Sheet.visits_made hv), messageAt, Sheet.markAt_eq hv]

theorem postOf_completedAt {n : Nat} {post : Post} (h : C.completedAt source s n = some post) :
    M.PostOf source s n post := by
  obtain ⟨v, hv, hcompleted⟩ := C.exists_visit_of_completedAt h
  obtain ⟨text, hcontent, hcomment⟩ := M.completed?_comment hcompleted
  exact ⟨text, (Sheet.toldAt_eq hv _).trans hcontent, hcomment⟩

/-- A collector that has the history of a page has the posts of its messages. -/
theorem reports (listing : Listing) :
    M.Reports source s listing
      ((fresh listing).run (C.history source s (Sheet.visits sheet source s).length)) := by
  have hposts :
      ((fresh listing).run (C.history source s (Sheet.visits sheet source s).length)).allPosts =
        C.completedPosts source s (Sheet.visits sheet source s).length :=
    C.allPosts_history listing _
  refine ⟨?posts, fun hlisting => ?threads, fun hnone => ?empty⟩
  case posts =>
    rw [hposts]
    exact forall₂_filterMap (fun n hn => M.completedAt_isSome (List.mem_range.mp hn))
      fun n _ post h => M.postOf_completedAt h
  case threads =>
    have hgroups (steps : List Collector.Step) :
        ((fresh listing).run steps).groupsThreads = true := by
      rw [Collector.groupsThreads_run]
      exact bne_iff_ne.mpr hlisting
    rw [Collector.allPosts, if_pos (hgroups _)]
  case empty =>
    have hcompleted : C.completedPosts source s (Sheet.visits sheet source s).length = [] := by
      refine List.filterMap_eq_nil_iff.mpr fun n hn => ?_
      have hmessage := List.filter_eq_nil_iff.mp hnone n hn
      rw [← M.completedAt_isSome (List.mem_range.mp hn)] at hmessage
      exact Option.not_isSome_iff_eq_none.mp hmessage
    refine ⟨hposts.trans hcompleted, ?_⟩
    exact Collector.allThreads_eq_nil listing ((C.pushed_history _).trans hcompleted)

end Messages

end Chronicle

/-! ### The sites -/

namespace Wakaba

/-- A note that the comment is abbreviated is not part of it. -/
def messages : chronicle.Messages where
  isMessage := isMessage
  inProgress r := r.post.isSome
  comment := Comment.withoutAbbreviation
  completed?_isSome := messageRule.completed?_isSome
  completed?_comment := messageRule.comment_of_completed?

end Wakaba

namespace Erlach

def messages : chronicle.Messages where
  isMessage := isMessage
  inProgress r := r.post.isSome
  comment := Reading.plainComment
  completed?_isSome := messageRule.completed?_isSome
  completed?_comment := messageRule.comment_of_completed?

end Erlach

end Imageboard
