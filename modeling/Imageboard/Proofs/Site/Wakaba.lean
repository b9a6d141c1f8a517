import Imageboard.Proofs.Post.Collecting
import Imageboard.Site.Wakaba.Page

/-! What the marks of a wakaba page do to the collector.

A checkbox begins a thread, a message pushes a post, and a count of omitted posts is added to the
current thread. No mark looks at the collector, so that a page has one history whatever it is read
for: `sheet_history`. -/
namespace Imageboard.Wakaba
open Collector (fresh)

theorem sheet_sound : Sheet.Sound sheet := rfl

theorem sheet_neverFails : ∀ e ∈ sheet, e.NeverFails := by
  simp [sheet]

instance : Collecting Reading where
  collector r := r.collector
  withCollector c r := { r with collector := c }
  collector_withCollector _ _ := rfl
  withCollector_collector _ := rfl

theorem withCollector_eq (c : Collector) (r : Reading) :
    Collecting.withCollector c r = { r with collector := c } := rfl

namespace Reading

/-! ### The marks that concern the collector -/

/-- A note that the comment is abbreviated is not part of it. -/
def completion : Completion Reading where
  post r := r.post
  slot r := r.slot
  comment := Comment.withoutAbbreviation

theorem checkbox_drives (attributes : Attributes) : Drives (checkbox attributes) := by
  intro r
  by_cases h : (attributes.get? "type" != some "checkbox" || r.post.any (·.number.isSome)) = true
  · refine ⟨[], fun c => ?_⟩
    simp only [checkbox, withCollector_eq, h, if_true, Collector.run]
  · refine ⟨[.begin], fun c => ?_⟩
    simp only [checkbox, withCollector_eq, h, Bool.false_eq_true, if_false, Collector.run,
      Collector.apply, postOrNew]

theorem message_completes : completion.CompletesBy message := by
  intro comment c r
  unfold message Completion.steps Completion.completed? completion
  cases h : r.post <;> simp only [withCollector_eq, h] <;> rfl

theorem omittedPosts_drives (text : String) : Drives (omittedPosts text) := by
  intro r
  unfold omittedPosts
  cases Counter.read? text with
  | none => exact ⟨[], fun c => rfl⟩
  | some count => exact ⟨[.addPosts count], fun c => rfl⟩

/-! ### The other marks

None of them looks at the collector, and none changes it. -/

theorem modifyPost_drives (f : Post → Post) : Drives (modifyPost · f) :=
  drives_of_apart fun _ _ => rfl

theorem reply_drives (attributes : Attributes) : Drives (reply attributes) :=
  drives_of_apart fun _ _ => rfl

theorem fileSize_drives (attributes : Attributes) : Drives (fileSize attributes) :=
  drives_of_apart fun _ _ => rfl

theorem thumbnail_drives (attributes : Attributes) : Drives (thumbnail attributes) :=
  drives_of_apart fun _ _ => rfl

theorem video_drives (attributes : Attributes) : Drives (video attributes) :=
  drives_of_apart fun _ _ => rfl

theorem noThumbnail_drives (attributes : Attributes) : Drives (noThumbnail attributes) :=
  drives_of_apart fun _ _ => rfl

theorem country_drives (attributes : Attributes) : Drives (country attributes) := by
  refine drives_of_apart fun c r => ?_
  simp only [country, withCollector_eq]
  cases attributes.get? "title" with
  | none => rfl
  | some title =>
    cases (attributes.get? "src").bind r.locator.address? with
    | none => rfl
    | some address => rfl

theorem followReflink_withCollector (link : String) (c : Collector) (r : Reading) :
    followReflink link { r with collector := c } = { followReflink link r with collector := c } := by
  unfold followReflink
  cases Locator.threadNumber? link with
  | none => rfl
  | some thread => rfl

theorem link_withCollector (attributes : Attributes) (c : Collector) (r : Reading) :
    link attributes { r with collector := c } =
      ((link attributes r).1, { (link attributes r).2 with collector := c }) := by
  have hfile (href : String) : linkedFile? href { r with collector := c } = linkedFile? href r := rfl
  simp only [link, hfile]
  cases r.reflink with
  | true => simp only [if_true, ← followReflink_withCollector]
  | false =>
    cases linkedFile? (attributes.getD "href") r with
    | some file => rfl
    | none => cases Text.endsWith ".html" (attributes.getD "href") <;> rfl

theorem pageLink_withCollector (text : String) (c : Collector) (r : Reading) :
    pageLink text { r with collector := c } = { pageLink text r with collector := c } := by
  unfold pageLink
  cases pagesTold? text with
  | none => rfl
  | some pages =>
    dsimp only
    split
    · rfl
    · rfl

theorem linkText_drives (text : String) : Drives (linkText text) := by
  refine drives_of_apart fun c r => ?_
  cases h : r.linkUse with
  | none => simp only [linkText, withCollector_eq, h]
  | some use =>
    simp only [linkText, withCollector_eq, h]
    cases use with
    | uploadName => rfl
    | pageNumber => exact pageLink_withCollector text c { r with linkUse := none }

theorem logo_drives (text : String) : Drives (logo text) :=
  drives_of_apart fun c r => by simp only [logo, withCollector_eq]

end Reading
open Reading

/-- A page makes the same history of two collectors, whatever each of them lists. -/
theorem sheet_history (a b : Collector) : ∀ e ∈ sheet, e.Keeps (SameHistory a b) := by
  simp only [sheet, List.forall_mem_cons, List.not_mem_nil, false_implies, implies_true, and_true,
    Entry.each_name, Entry.each_equals, Entry.each_startsWith, Entry.each_endsWith, true_and]
  refine ⟨?checkbox, ?reply, ?fileSize, ?link, ?linkText, ?thumbnail, ?video, ?noThumbnail, ?subject,
    ?country, ?identifier, ?capcode, ?posterName, ?tripcode, ?date, ?printedDate, ?message,
    ?omittedPosts, ?logo, ?reflinkMark, ?sticky, ?cyclical⟩
  case checkbox => exact atTag_history checkbox_drives
  case message => exact atContent_history message_completes.drives
  case omittedPosts => exact atContent_history omittedPosts_drives
  case link =>
    refine askAtTag_history (fun attributes => ?_) fun attributes c r => ?_
    · exact drives_of_apart fun c r => by rw [withCollector_eq, link_withCollector]; rfl
    · rw [withCollector_eq, link_withCollector]
  case linkText => exact atContent_history linkText_drives
  case logo => exact atContent_history logo_drives
  case country => exact atTag_history country_drives
  case reply => exact atTag_history reply_drives
  case fileSize => exact atTag_history fileSize_drives
  case thumbnail => exact atTag_history thumbnail_drives
  case video => exact atTag_history video_drives
  case noThumbnail => exact atTag_history noThumbnail_drives
  case date => exact askAtTag_history (fun _ => drives_of_apart fun _ _ => rfl) fun _ _ _ => rfl
  case reflinkMark => exact atTag_history fun _ => drives_of_apart fun _ _ => rfl
  case sticky => exact atTag_history fun _ => modifyPost_drives _
  case cyclical => exact atTag_history fun _ => modifyPost_drives _
  all_goals exact atContent_history fun _ => modifyPost_drives _

theorem read_history (locator : Locator) (board : String) (namesFiles openingOnly : Bool)
    (source : Source) (configuration : Configuration) :
    Alike (SameHistory (fresh (.threads openingOnly)) (fresh .posts))
      (readWithSheet sheet source
        (start locator board namesFiles (.threads openingOnly) configuration))
      (readWithSheet sheet source (start locator board namesFiles .posts configuration)) :=
  Sheet.readWithSheet_alike_of_all sheet_sound (sheet_history _ _) source ⟨[], rfl, rfl⟩

end Imageboard.Wakaba
