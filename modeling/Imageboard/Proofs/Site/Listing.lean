import Imageboard.Proofs.Site.Erlach
import Imageboard.Proofs.Site.Wakaba

/-! A page read for its posts, and the same page read for its threads.

`posts_eq_posts_of_threads`: the posts are those of the threads, in the same order. -/
namespace Imageboard
open Collector (fresh)

/-- What readings return that come to the same. -/
theorem map_allPosts [Collecting σ] {openingOnly : Bool} {x y : Except ReadError Unit × σ}
    (h : Alike (SameHistory (fresh (.threads openingOnly)) (fresh .posts)) x y) :
    (y.1.map fun _ => Collecting.collector y.2).map Collector.allPosts =
      (x.1.map fun _ => Collecting.collector x.2).map (·.allThreads.flatMap (·.posts)) := by
  rw [← h.1]
  cases x.1 with
  | error e => rfl
  | ok => exact congrArg Except.ok h.2.allPosts

theorem map_unit (outcome : Except ε Unit) (f : Unit → α) :
    (outcome.map f).map (fun _ => ()) = outcome := by
  cases outcome <;> rfl

/-- **The posts of a page are those of its threads**, one thread after the other, and a page tells
the same about its board either way. On erlach boards this holds of pages without titles, which are
the subject of the opening post only where posts are asked for. Either way reading fails only where
the source does. -/
theorem posts_eq_posts_of_threads :
    (∀ locator board namesFiles openingOnly source configuration,
      let threads :=
        Wakaba.readPage locator board namesFiles (.threads openingOnly) source configuration
      let posts := Wakaba.readPage locator board namesFiles .posts source configuration
      posts.1.map Collector.allPosts = threads.1.map (·.allThreads.flatMap (·.posts)) ∧
      posts.1.map (fun _ => ()) = source.markup.map (fun _ => ()) ∧
      posts.2 = threads.2) ∧
    ∀ locator openingOnly source,
      (∀ v ∈ Sheet.visits Erlach.sheet source (Erlach.start locator .posts),
        Erlach.isTitle v = false) →
      let threads := Erlach.readPage locator (.threads openingOnly) source
      let posts := Erlach.readPage locator .posts source
      posts.map Collector.allPosts = threads.map (·.allThreads.flatMap (·.posts)) ∧
      posts.map (fun _ => ()) = source.markup.map fun _ => () := by
  refine ⟨?wakaba, ?erlach⟩
  case wakaba =>
    intro locator board namesFiles openingOnly source configuration threads posts
    have h := Wakaba.read_history locator board namesFiles openingOnly source configuration
    have hok := Sheet.readWithSheet_ok Wakaba.sheet_sound Wakaba.sheet_neverFails source
      (Wakaba.start locator board namesFiles .posts configuration)
    obtain ⟨steps, -, hstate⟩ := h.2
    refine ⟨map_allPosts h, (map_unit _ _).trans hok, ?_⟩
    exact (congrArg Wakaba.Reading.configuration hstate :)
  case erlach =>
    intro locator openingOnly source htitles threads posts
    have h := Erlach.read_history locator openingOnly source htitles
    have hok := Sheet.readWithSheet_ok Erlach.sheet_sound Erlach.sheet_neverFails source
      (Erlach.start locator .posts)
    exact ⟨map_allPosts h, (map_unit _ _).trans hok⟩

/-- A page without a title, with a thread of two posts and another of one. -/
theorem posts_of_page_without_title :
    let locator : Locator :=
      ⟨⟨"https", some ⟨"", "", "board.example", none⟩, .segments [""], none, none⟩, .inr rfl⟩
    let page : Source := .text
      ("<div data-id=\"1a\"><div class=\"post-header\"></div>" ++
        "<div class=\"post-message\">a</div></div>" ++
        "<div data-id=\"1b\"><div class=\"post-message\">b</div></div>" ++
        "<div data-id=\"1c\"><div class=\"post-header\"></div>" ++
        "<div class=\"post-message\">c</div></div>")
    (∀ v ∈ Sheet.visits Erlach.sheet page (Erlach.start locator .posts), Erlach.isTitle v = false) ∧
      (Erlach.readPage locator (.threads true) page).toOption.map
          (·.allThreads.map (·.posts.map (·.comment))) =
        some [[some "a", some "b"], [some "c"]] ∧
      (Erlach.readPage locator .posts page).map Collector.allPosts =
        (Erlach.readPage locator (.threads true) page).map (·.allThreads.flatMap (·.posts)) :=
  ⟨by decide +kernel, by decide +kernel, (posts_eq_posts_of_threads.2 _ true _ (by decide +kernel)).1⟩

end Imageboard
