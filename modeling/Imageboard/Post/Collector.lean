import Imageboard.Post.Basic

/-! Collecting the posts of a page, and grouping them into threads where the page lists many.

A thread begins at a boundary and takes the posts up to the next one. A thread without posts is
dropped. -/
namespace Imageboard

/-- What a page lists. -/
inductive Listing where
  /-- The posts of one thread. -/
  | posts
  /-- Threads. With `openingOnly` a thread counts just its opening post, because the counter
  beside it counts the replies that are shown as well. -/
  | threads (openingOnly : Bool)
  deriving DecidableEq

structure Collector where
  listing : Listing
  /-- The thread that the last boundary began. -/
  current : Option Thread := none
  /-- Posts that no thread has taken yet. -/
  posts : List Post := []
  /-- Threads that are complete. -/
  threads : List Thread := []
  deriving DecidableEq

namespace Collector

def groupsThreads (c : Collector) : Bool := c.listing != .posts

def push (c : Collector) (p : Post) : Collector := { c with posts := c.posts ++ [p] }

/-- How many posts a thread counts for those shown. -/
def shownCount (c : Collector) : UInt32 :=
  match c.listing with
  | .threads true => 1
  | _ => UInt32.ofNat (min c.posts.length (UInt32.size - 1))

/-- Whether there are posts for a thread to take. -/
def canClose (c : Collector) : Bool := c.groupsThreads && !c.posts.isEmpty

/-- The current thread with the posts collected for it. -/
def closed (c : Collector) : Thread :=
  { (c.current.getD {}).addPosts c.shownCount with posts := c.posts }

/-- Completes the current thread, unless it has no posts. -/
def close (c : Collector) : Collector :=
  if c.canClose then { c with current := none, posts := [], threads := c.threads ++ [c.closed] } else c

/-- Begins a thread where the page lists threads. -/
def begin (c : Collector) : Collector :=
  if c.groupsThreads then { c.close with current := some {} } else c

def modifyCurrent (c : Collector) (f : Thread → Thread) : Collector :=
  { c with current := c.current.map f }

def allThreads (c : Collector) : List Thread := c.close.threads

/-- All posts in the order of the page. -/
def allPosts (c : Collector) : List Post :=
  if c.groupsThreads then c.allThreads.flatMap (·.posts) else c.posts

end Collector

end Imageboard
