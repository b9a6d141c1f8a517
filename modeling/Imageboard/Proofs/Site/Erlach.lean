import Imageboard.Proofs.Post.Collecting
import Imageboard.Site.Erlach.Page

/-! What the marks of an erlach page do to the collector.

One mark looks at it: the title of a page is the subject of a post only where posts are asked for.
It has the first rule of the sheet; the others make one history of any collector, as on wakaba
boards: `sheet_history`. -/
namespace Imageboard.Erlach
open Collector (fresh)

theorem sheet_sound : Sheet.Sound sheet := rfl

theorem sheet_neverFails : ∀ e ∈ sheet, e.NeverFails := by
  simp [sheet]

instance : Collecting Reading where
  collector r := r.collector
  withCollector c r := { r with collector := c }
  collector_withCollector _ _ := rfl
  withCollector_collector _ := rfl

theorem withCollector_eq (c : Collector) (r : Reading) :
    Collecting.withCollector c r = { r with collector := c } := rfl

namespace Reading

theorem header_drives (attributes : Attributes) : Drives (header attributes) :=
  fun _ => ⟨[.begin], fun _ => rfl⟩

def completion : Completion Reading where
  post r := r.post
  slot r := r.slot
  comment := plainComment

theorem message_completes : completion.CompletesBy message := by
  intro comment c r
  unfold message Completion.steps Completion.completed? completion
  cases h : r.post <;> simp only [withCollector_eq, h] <;> rfl

theorem counter_drives (text : String) : Drives (counter text) := by
  intro r
  unfold counter
  cases Counter.read? text with
  | none => exact ⟨[], fun c => rfl⟩
  | some count =>
    dsimp only
    cases Text.contains imagesMark text
    · exact ⟨[.addPosts count], fun c => rfl⟩
    · exact ⟨[.addFiles count], fun c => rfl⟩

theorem modifyPost_drives (f : Post → Post) : Drives (modifyPost · f) :=
  drives_of_apart fun _ _ => rfl

theorem block_drives (attributes : Attributes) : Drives (block attributes) :=
  drives_of_apart fun c r => by simp only [block, withCollector_eq]

theorem image_drives (attributes : Attributes) : Drives (image attributes) := by
  refine drives_of_apart fun c r => ?_
  cases h : r.post with
  | none => simp only [image, h, withCollector_eq, Option.isNone_none, if_true]
  | some post =>
    simp only [image, h, withCollector_eq, Option.isNone_some, Bool.false_eq_true, if_false]

theorem canvas_drives (attributes : Attributes) : Drives (canvas attributes) :=
  drives_of_apart fun c r => by simp only [canvas, withCollector_eq]

end Reading
open Reading

/-- The rule of page titles, which is the first. -/
def titleRule : Rule Reading where
  pattern := .equals "div" "class" "content-title"
  onContent := some fun content => modify (contentTitle content)

theorem table_rules :
    (Sheet.table sheet).rules = titleRule :: (Sheet.table (sheet.drop 2)).rules := rfl

/-- But for page titles, a page makes the same history of two collectors, whatever each of them
lists. -/
theorem sheet_history (a b : Collector) : ∀ e ∈ sheet.drop 2, e.Keeps (SameHistory a b) := by
  simp only [sheet, List.drop_succ_cons, List.drop_zero, List.forall_mem_cons, List.not_mem_nil,
    false_implies, implies_true, and_true, Entry.each_name, Entry.each_equals, Entry.each_contains,
    true_and]
  refine ⟨?block, ?topic, ?timestamp, ?image, ?canvas, ?omitted, ?message, ?header, ?counter⟩
  case header => exact atTag_history header_drives
  case message => exact atContent_history message_completes.drives
  case counter => exact atContent_history counter_drives
  case block => exact atTag_history block_drives
  case image => exact atTag_history image_drives
  case canvas => exact atTag_history canvas_drives
  case topic => exact atContent_history fun _ => modifyPost_drives _
  case timestamp => exact atTag_history fun _ => modifyPost_drives _
  case omitted => exact atContent_history fun _ => drives_of_apart fun _ _ => rfl

/-- A page title that counts: a `div` whose class is exactly that of page titles. -/
def isTitle (v : Visit) : Bool := v.tag == "div" && v.attributes.get? "class" == some "content-title"

/-- Which tags are answered does not depend on what is asked for. -/
theorem visits_eq (source : Source) (r r' : Reading) :
    Sheet.visits sheet source r' = Sheet.visits sheet source r := by
  have hkeeps : ∀ e ∈ sheet, e.Keeps fun _ _ => True := by
    simp [sheet]
  unfold Sheet.visits
  cases source.markup with
  | error e => rfl
  | ok markup =>
    exact (RuleTable.course_alike (R := fun _ _ => True) _ _ trivial _ fun _ _ rule hrule =>
      Sheet.each_of_sheet hkeeps rule (List.mem_of_getElem? hrule)).1

theorem read_history (locator : Locator) (openingOnly : Bool) (source : Source)
    (h : ∀ v ∈ Sheet.visits sheet source (start locator .posts), isTitle v = false) :
    Alike (SameHistory (fresh (.threads openingOnly)) (fresh .posts))
      (readWithSheet sheet source (start locator (.threads openingOnly)))
      (readWithSheet sheet source (start locator .posts)) := by
  refine Sheet.readWithSheet_alike sheet_sound source ⟨[], rfl, rfl⟩ fun v hv rule hrule => ?_
  obtain ⟨matched, hmatched, hpattern⟩ := Sheet.visits_match source _ v hv
  obtain rfl : matched = rule := Option.some.inj (hmatched.symm.trans hrule)
  rw [visits_eq source (start locator .posts)] at hv
  rw [table_rules] at hrule
  cases hplace : v.rule with
  | zero =>
    obtain rfl : titleRule = matched := by simpa [hplace] using hrule
    have htitle : isTitle v = true := by
      obtain ⟨htag, hclass⟩ := Bool.and_eq_true_iff.mp hpattern
      exact Bool.and_eq_true_iff.mpr ⟨BEq.comm.trans htag, hclass⟩
    rw [h v hv] at htitle
    cases htitle
  | succ place =>
    have hrest : (Sheet.table (sheet.drop 2)).rules[place]? = some matched := by
      simpa [hplace] using hrule
    exact Sheet.each_of_sheet (sheet_history _ _) matched (List.mem_of_getElem? hrest)

end Imageboard.Erlach
