import Imageboard.Post.AttachmentSlot
import Imageboard.Proofs.Post.Threads
import Imageboard.Proofs.Rule.Sheet

/-! Readings that collect posts.

Whatever a handler does to the collector of a reading is a history of steps. Where the handler never
looks at the collector, the steps are the same whatever the collector lists, so that two readings of
a page, one for its threads and one for its posts, make one history. `SameHistory.allPosts` is what
that comes to when the page ends. -/
namespace Imageboard
open Collector (Step fresh)

/-- What a message finds in a state, and the form in which the site gives its content. -/
structure Completion (σ : Type) where
  /-- The post in progress. -/
  post : σ → Option Post
  slot : σ → AttachmentSlot
  comment : String → String

/-- The post that a message completes: its content is the comment, and the files kept so far are the
attachments. -/
def Completion.completed? (C : Completion σ) (text : String) (s : σ) : Option Post :=
  (C.post s).map fun post =>
    { post with comment := some (C.comment text), attachments := (C.slot s).committed }

def Completion.steps (C : Completion σ) (text : String) (s : σ) : List Step :=
  ((C.completed? text s).map Step.push).toList

/-- A state with a collector in it. -/
class Collecting (σ : Type) where
  collector : σ → Collector
  withCollector : Collector → σ → σ
  collector_withCollector (c : Collector) (s : σ) : collector (withCollector c s) = c
  withCollector_collector (s : σ) : withCollector (collector s) s = s

section
variable [Collecting σ]
open Collecting

/-- A change of a state that does to the collector what it would do to any. -/
def Drives (change : σ → σ) : Prop :=
  ∀ s, ∃ steps : List Step, ∀ c,
    change (withCollector c s) = withCollector (c.run steps) (change s)

/-- One history, of the collector `a` in one state and of `b` in the other; all else is the same. -/
def SameHistory (a b : Collector) (s t : σ) : Prop :=
  ∃ steps : List Step, collector s = a.run steps ∧ t = withCollector (b.run steps) s

variable {a b : Collector}

/-- A change that leaves the collector alone. -/
theorem drives_of_apart {change : σ → σ}
    (h : ∀ c s, change (withCollector c s) = withCollector c (change s)) : Drives change :=
  fun s => ⟨[], fun c => h c s⟩

theorem Drives.sameHistory {change : σ → σ} (h : Drives change) {s t : σ}
    (hst : SameHistory a b s t) : SameHistory a b (change s) (change t) := by
  obtain ⟨before, hs, rfl⟩ := hst
  obtain ⟨steps, hsteps⟩ := h s
  refine ⟨before ++ steps, ?_, ?_⟩
  · have hsame := hsteps (collector s)
    rw [withCollector_collector] at hsame
    rw [hsame, collector_withCollector, hs, Collector.run_append]
  · rw [hsteps, Collector.run_append]

theorem atTag_history {change : Attributes → σ → σ} (h : ∀ attributes, Drives (change attributes)) :
    (Entry.atTag change).Keeps (SameHistory a b) :=
  Entry.atTag_keeps.mpr fun attributes _ _ hst => (h attributes).sameHistory hst

theorem atContent_history {change : String → σ → σ} (h : ∀ content, Drives (change content)) :
    (Entry.atContent change).Keeps (SameHistory a b) :=
  Entry.atContent_keeps.mpr fun content _ _ hst => (h content).sameHistory hst

/-- The answer to a tag has to be the same for all collectors, too. -/
theorem askAtTag_history {change : Attributes → σ → Bool × σ}
    (h : ∀ attributes, Drives fun s => (change attributes s).2)
    (hanswer : ∀ attributes c s,
      (change attributes (withCollector c s)).1 = (change attributes s).1) :
    (Entry.askAtTag change).Keeps (SameHistory a b) := by
  rw [Entry.askAtTag_keeps]
  intro attributes s t hst
  refine ⟨?_, (h attributes).sameHistory hst⟩
  obtain ⟨steps, -, rfl⟩ := hst
  exact (hanswer attributes _ s).symm

/-- A message does to any collector what completing the post in progress comes to. -/
def Completion.CompletesBy (C : Completion σ) (message : String → σ → σ) : Prop :=
  ∀ text c s, message text (withCollector c s) =
    withCollector (c.run (C.steps text s)) (message text s)

namespace Completion
variable {C : Completion σ} {message : String → σ → σ} (h : C.CompletesBy message)
include h

theorem CompletesBy.drives (text : String) : Drives (message text) :=
  fun s => ⟨C.steps text s, fun c => h text c s⟩

theorem CompletesBy.collector_eq (text : String) (s : σ) :
    collector (message text s) = (collector s).run (C.steps text s) := by
  have hmessage := h text (collector s) s
  rw [withCollector_collector] at hmessage
  rw [hmessage, collector_withCollector]

end Completion

/-- Where the collectors of two readings have one history, the posts of one are those of all the
threads of the other. -/
theorem SameHistory.allPosts {openingOnly : Bool} {s t : σ}
    (h : SameHistory (fresh (.threads openingOnly)) (fresh .posts) s t) :
    (collector t).allPosts = (collector s).allThreads.flatMap (·.posts) := by
  obtain ⟨steps, hs, rfl⟩ := h
  rw [collector_withCollector, hs, Collector.allPosts_fresh_posts, Collector.flatMap_posts_fresh]

end

end Imageboard
