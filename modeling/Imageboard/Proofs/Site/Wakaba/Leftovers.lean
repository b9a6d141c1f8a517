import Imageboard.Proofs.Site.Wakaba.Answers

/-! What is left of a post when its message has completed it.

`state_after_message`: nothing of the post, of its files and of its links. What a reading goes on
with is what it knows of the page and the board, and one thing more: a mark that announces the link
around the number of a post is remembered until a link comes, and where none does, it outlives the
post. -/
namespace Imageboard.Wakaba
open Reading

/-- Whether the last of the reflink marks and links among some tags is a mark. -/
def awaitsLink (vs : List Visit) : Bool :=
  (vs.reverse.find? fun v => isReflinkMark v || isLink v).any isReflinkMark

/-- What no tag changes, and that no text of a link is awaited between two tags. -/
structure Settled (r s : Reading) : Prop where
  locator : s.locator = r.locator
  board : s.board = r.board
  namesFiles : s.namesFiles = r.namesFiles
  linkUse : s.linkUse = none

theorem apply_settled {r : Reading} {v : Visit} {s : Reading} (hv : v.MadeIn (Sheet.table sheet) s)
    (h : Settled r s) : Settled r (v.apply (Sheet.table sheet) s) := by
  have hlinked {s' : Reading} (hl : Linked s s') : Settled r s' := by
    rw [hl.rest]
    exact ⟨h.locator, h.board, h.namesFiles, rfl⟩
  have hanswer := answer_of_made hv
  generalize v.apply (Sheet.table sheet) s = s' at hanswer ⊢
  cases hanswer with
  | link _ hno => exact hlinked (link_linked hno)
  | linkText _ hyes text => exact hlinked (linkText_linked hyes text)
  | checkbox =>
    unfold checkbox
    split
    · exact h
    · exact ⟨h.locator, h.board, h.namesFiles, h.linkUse⟩
  | message _ comment =>
    unfold message
    split
    · exact h
    · exact ⟨h.locator, h.board, h.namesFiles, h.linkUse⟩
  | omittedPosts _ text =>
    unfold omittedPosts
    split
    · exact ⟨h.locator, h.board, h.namesFiles, h.linkUse⟩
    · exact h
  | logo _ text =>
    unfold logo
    exact ⟨h.locator, h.board, h.namesFiles, h.linkUse⟩
  | reply | fileSize | thumbnail | video | noThumbnail | head | reflinkMark =>
    exact ⟨h.locator, h.board, h.namesFiles, h.linkUse⟩

/-- A mark announces a link, and the next link is the one it announced. -/
theorem reflink_apply {v : Visit} {s : Reading} (hv : v.MadeIn (Sheet.table sheet) s) :
    (v.apply (Sheet.table sheet) s).reflink =
      if v.rule = 18 then true else if v.rule = 3 then false else s.reflink := by
  have hanswer := answer_of_made hv
  generalize v.apply (Sheet.table sheet) s = s' at hanswer ⊢
  cases hanswer with
  | link h hno => rw [(link_linked hno).rest, h]; rfl
  | linkText h hyes text => rw [(linkText_linked hyes text).rest, h]; rfl
  | reflinkMark h => rw [h]; rfl
  | head h =>
    rw [if_neg (ne_of_mem_headRules h (by decide)), if_neg (ne_of_mem_headRules h (by decide))]
    rfl
  | checkbox h =>
    rw [h]
    unfold checkbox
    split <;> rfl
  | message h comment =>
    rw [h]
    unfold message
    split <;> rfl
  | omittedPosts h text =>
    rw [h]
    unfold omittedPosts
    split <;> rfl
  | logo h text =>
    rw [h]
    unfold logo
    rfl
  | reply h | fileSize h | thumbnail h | video h | noThumbnail h => rw [h]; rfl

section
variable {source : Source} {r : Reading}

theorem reflink_stateAt (hreflink : r.reflink = false) (n : Nat)
    (hn : n ≤ (visits source r).length) :
    (stateAt source r n).reflink = awaitsLink ((visits source r).take n) := by
  refine Sheet.stateAt_induction
    (P := fun n s => s.reflink = awaitsLink ((visits source r).take n)) hreflink
    (fun n v hv ih => ?_) n hn
  obtain ⟨hlt, rfl⟩ := List.getElem?_eq_some_iff.mp hv
  have hmade := visits_made hv
  unfold awaitsLink at ih ⊢
  rw [reflink_apply hmade, List.take_succ_eq_append_getElem hlt, List.reverse_append,
    List.reverse_singleton, List.singleton_append, List.find?_cons]
  by_cases hmark : (visits source r)[n].rule = 18
  · have hyes := (isReflinkMark_iff hmade).mpr hmark
    rw [if_pos hmark, hyes]
    exact hyes.symm
  · have hno := eq_false_of_ne (isReflinkMark_iff hmade) hmark
    rw [if_neg hmark, hno]
    by_cases hlink : (visits source r)[n].rule = 3
    · rw [if_pos hlink, (isLink_iff hmade).mpr hlink]
      exact hno.symm
    · rw [if_neg hlink, eq_false_of_ne (isLink_iff hmade) hlink]
      exact ih

theorem settled_stateAt (hlinkUse : r.linkUse = none) (n : Nat)
    (hn : n ≤ (visits source r).length) : Settled r (stateAt source r n) :=
  Sheet.stateAt_induction (P := fun _ s => Settled r s) ⟨rfl, rfl, rfl, hlinkUse⟩
    (fun _ _ hv ih => apply_settled (visits_made hv) ih) n hn

end

/-- **What a message leaves.** When a message has completed a post, the reading is as it was before
the page, but for what it knows of the page and of the board, the collected posts, and a reflink
mark that no link has followed. -/
theorem state_after_message (locator : Locator) (board : String) (namesFiles : Bool)
    (listing : Listing) (source : Source) (configuration : Configuration) {n : Nat} {v : Visit} :
    let r := start locator board namesFiles listing configuration
    (visits source r)[n]? = some v → isMessage v = true → (stateAt source r n).post.isSome = true →
    let s := stateAt source r (n + 1)
    s = { r with
      configuration := s.configuration
      collector := s.collector
      parent := s.parent
      pagesCount := s.pagesCount
      reflink := awaitsLink ((visits source r).take n) } := by
  intro r hv hmessage hpost s
  obtain ⟨post, hpost⟩ := Option.isSome_iff_exists.mp hpost
  have hlt := (List.getElem?_eq_some_iff.mp hv).1
  obtain ⟨completed, happly⟩ := apply_message (visits_made hv) hmessage hpost
  obtain ⟨hlocator, hboard, hnames, hlinkUse⟩ : Settled r (stateAt source r n) :=
    settled_stateAt rfl n (Nat.le_of_lt hlt)
  have hreflink : (stateAt source r n).reflink = awaitsLink ((visits source r).take n) :=
    reflink_stateAt rfl n (Nat.le_of_lt hlt)
  show stateAt source r (n + 1) = { r with
    configuration := (stateAt source r (n + 1)).configuration
    collector := (stateAt source r (n + 1)).collector
    parent := (stateAt source r (n + 1)).parent
    pagesCount := (stateAt source r (n + 1)).pagesCount
    reflink := awaitsLink ((visits source r).take n) }
  rw [stateAt_succ hv, happly, ← hreflink, ← hlocator, ← hboard, ← hnames, hlinkUse]
  rfl

/-- A post without links, with nothing left of it. -/
theorem state_after_first_message :
    let locator : Locator :=
      ⟨⟨"https", some ⟨"", "", "board.example", none⟩, .segments [""], none, none⟩, .inr rfl⟩
    let page : Source := .text
      "<input type=\"checkbox\" name=\"delete\" value=\"1\"><div class=\"message\">a</div>"
    let r := start locator "b" true .posts {}
    let s := stateAt page r 2
    s = { r with
      configuration := s.configuration
      collector := s.collector
      parent := s.parent
      pagesCount := s.pagesCount
      reflink := awaitsLink ((visits page r).take 1) } ∧
    awaitsLink ((visits page r).take 1) = false := by
  intro locator page r s
  have hv : (visits page r)[1]? =
      some ⟨15, "div", .ofList [("class", "message")], some "a"⟩ := by
    decide +kernel
  exact ⟨state_after_message locator "b" true .posts page {} hv (by decide +kernel)
    (by decide +kernel), by decide +kernel⟩

/-- A mark that announces a link which never comes is still remembered when the post is complete. -/
theorem reflink_outlives_post :
    let locator : Locator :=
      ⟨⟨"https", some ⟨"", "", "board.example", none⟩, .segments [""], none, none⟩, .inr rfl⟩
    let page : Source := .text
      ("<input type=\"checkbox\" name=\"delete\" value=\"1\">" ++
        "<span class=\"reflink\">No.1</span><div class=\"message\">a</div>")
    let r := start locator "b" true .posts {}
    (visits page r)[2]?.map isMessage = some true ∧ (stateAt page r 2).post.isSome = true ∧
      (stateAt page r 3).post.isNone = true ∧ (stateAt page r 3).reflink = true := by
  decide +kernel

end Imageboard.Wakaba
