import Imageboard.Proofs.Post.Ledger
import Imageboard.Proofs.Site.Wakaba.Answers

/-! The attachments of a wakaba page.

A file is begun by its size, and it is kept where a thumbnail, or a word that there is none, ends
it. Which files the posts of a page have, and in which order, depends only on the order of the tags:
`attachments_of_page` reads it off the ledger of the page, with which the slot of a reading agrees
at every tag (`agrees_stateAt`). -/
namespace Imageboard.Wakaba
open Reading

/-- What a tag means for files, in a state. A block without a thumbnail ends the file where the page
tells its size or its dimensions, and rejects it elsewhere. -/
def fileEvent (r : Reading) (v : Visit) : FileEvent :=
  if isFileSize v then .begins
  else if isThumbnail v || isVideo v then .ends
  else if isNoThumbnail v then
    if r.slot.wouldKeep (·.hasSizeOrDimensions) then .ends else .rejects
  else if isReply v then .replies
  else if isMessage v then if r.post.isSome then .finishes else .strays
  else .other

/-- What a tag does to the files and to the post in progress, by what it means. -/
def Does (event : FileEvent) (r r' : Reading) : Prop :=
  match event with
  | .begins => r'.slot = r.slot.begin {} ∧ r'.post.isSome = true
  | .ends => (∃ f, r'.slot = (r.slot.modifyPending f).commit) ∧ r'.post = r.post
  | .rejects => r'.slot = { r.slot with pending := none } ∧ r'.post = r.post
  | .replies => r'.slot = {}
  | .finishes => r.post.isSome = true ∧ r'.slot = {}
  | .strays => r.post = none ∧ r' = r
  | .other => (∃ f, r'.slot = r.slot.modifyPending f) ∧ (r'.post = none → r.post = none)

/-- What a tag means for files, by the rule that answers it. -/
theorem fileEvent_eq {v : Visit} {r : Reading} (hv : v.MadeIn (Sheet.table sheet) r) :
    fileEvent r v =
      if v.rule = 2 then .begins
      else if v.rule = 4 ∨ v.rule = 5 then .ends
      else if v.rule = 6 then if r.slot.wouldKeep (·.hasSizeOrDimensions) then .ends else .rejects
      else if v.rule = 1 then .replies
      else if v.rule = 15 then if r.post.isSome then .finishes else .strays
      else .other := by
  simp only [fileEvent, isFileSize_iff hv, Bool.or_eq_true, isThumbnail_iff hv, isVideo_iff hv,
    isNoThumbnail_iff hv, isReply_iff hv, isMessage_iff hv]

theorem fileEvent_other {v : Visit} {r : Reading} (hv : v.MadeIn (Sheet.table sheet) r)
    (h : v.rule ∉ [1, 2, 4, 5, 6, 15]) : fileEvent r v = .other := by
  simp only [List.mem_cons, List.not_mem_nil, or_false, not_or] at h
  obtain ⟨hreply, hsize, hthumbnail, hvideo, hnone, hmessage⟩ := h
  rw [fileEvent_eq hv, if_neg hsize, if_neg (not_or.mpr ⟨hthumbnail, hvideo⟩), if_neg hnone,
    if_neg hreply, if_neg hmessage]

theorem does_other {r r' : Reading} (hslot : r'.slot = r.slot)
    (hpost : r'.post = none → r.post = none) : Does .other r r' :=
  ⟨⟨id, hslot.trans (slot_modifyPending_id r.slot).symm⟩, hpost⟩

theorem does_linked {r r' : Reading} (h : Linked r r') : Does .other r r' := by
  refine ⟨h.slot, fun hnone => ?_⟩
  obtain ⟨f, hf, -⟩ := h.post
  rw [hf] at hnone
  exact Option.map_eq_none_iff.mp hnone

theorem commit_eq (s : AttachmentSlot) :
    s.commit = { pending := none, committed := s.committed ++ s.pending.toList } := by
  unfold AttachmentSlot.commit AttachmentSlot.commitIf
  cases s.pending <;> rfl

theorem commitIf_eq {s : AttachmentSlot} {keep : Attachment → Bool} (h : s.wouldKeep keep = true) :
    s.commitIf keep = (s.modifyPending id).commit := by
  rw [slot_modifyPending_id]
  unfold AttachmentSlot.wouldKeep at h
  unfold AttachmentSlot.commit AttachmentSlot.commitIf
  cases hp : s.pending with
  | none => rfl
  | some a =>
    rw [hp] at h
    have ha : keep a = true := h
    rw [Option.filter_some_pos ha]
    rfl

theorem commitIf_rejected {s : AttachmentSlot} {keep : Attachment → Bool}
    (h : s.wouldKeep keep = false) : s.commitIf keep = { s with pending := none } := by
  unfold AttachmentSlot.wouldKeep at h
  unfold AttachmentSlot.commitIf
  cases hp : s.pending with
  | none => rw [Option.filter_none, Option.toList_none, List.append_nil]
  | some a =>
    rw [hp] at h
    rw [Option.filter_some_neg (by simpa using h), Option.toList_none, List.append_nil]

theorem fileEvent_does {v : Visit} {r : Reading} (hv : v.MadeIn (Sheet.table sheet) r) :
    Does (fileEvent r v) r (v.apply (Sheet.table sheet) r) := by
  have hevent := fileEvent_eq hv
  have hother (h : v.rule ∉ [1, 2, 4, 5, 6, 15]) : fileEvent r v = .other := fileEvent_other hv h
  have hanswer := answer_of_made hv
  generalize v.apply (Sheet.table sheet) r = r' at hanswer ⊢
  cases hanswer with
  | checkbox h =>
    rw [hother (h ▸ by decide)]
    unfold checkbox
    split
    · exact does_other rfl id
    · exact does_other rfl nofun
  | reply h => rw [hevent, h]; exact rfl
  | fileSize h => rw [hevent, h]; exact ⟨rfl, rfl⟩
  | thumbnail h => rw [hevent, h]; exact ⟨⟨_, rfl⟩, rfl⟩
  | video h => rw [hevent, h]; exact ⟨⟨id, by rw [slot_modifyPending_id]; rfl⟩, rfl⟩
  | noThumbnail h =>
    rw [hevent, h]
    show Does (if r.slot.wouldKeep (·.hasSizeOrDimensions) then .ends else .rejects) _ _
    split
    · rename_i hkeep
      exact ⟨⟨id, commitIf_eq hkeep⟩, rfl⟩
    · rename_i hkeep
      exact ⟨commitIf_rejected (Bool.eq_false_iff.mpr hkeep), rfl⟩
  | message h comment hc =>
    rw [hevent, h]
    show Does (if r.post.isSome then .finishes else .strays) _ _
    unfold message
    cases hpost : r.post with
    | none => exact ⟨hpost, rfl⟩
    | some post => exact ⟨by rw [hpost]; rfl, rfl⟩
  | link h hno =>
    rw [hother (h ▸ by decide)]
    exact does_linked (link_linked hno)
  | linkText h hyes text hc =>
    rw [hother (h ▸ by decide)]
    exact does_linked (linkText_linked hyes text)
  | head h f =>
    have hne {i : Nat} (hi : i ∉ headRules) : v.rule ≠ i := ne_of_mem_headRules h hi
    rw [hother]
    · exact does_other rfl Option.map_eq_none_iff.mp
    · simp only [List.mem_cons, List.not_mem_nil, or_false, not_or]
      exact ⟨hne (by decide), hne (by decide), hne (by decide), hne (by decide), hne (by decide),
        hne (by decide)⟩
  | omittedPosts h text hc =>
    rw [hother (h ▸ by decide)]
    unfold omittedPosts
    split
    · exact does_other rfl id
    · exact does_other rfl id
  | logo h text hc =>
    rw [hother (h ▸ by decide)]
    unfold logo
    exact does_other rfl id
  | reflinkMark h =>
    rw [hother (h ▸ by decide)]
    exact does_other rfl id

section
variable (source : Source) (r : Reading)

/-- What the tags of a page mean for files. -/
def fileEvents (n : Nat) : FileEvent :=
  ((visits source r)[n]?.map (fileEvent (stateAt source r n))).getD .other

/-- The attachment that the tag at place `n` puts with those kept for the post. -/
def endedAt (n : Nat) : Attachment := (stateAt source r (n + 1)).slot.committed.getLastD {}

/-- The slot of a reading has what is written down in the ledger of the page, and it is empty where
no post is in progress. -/
structure Agrees (l : Ledger) (s : Reading) : Prop where
  pending : s.slot.pending.isSome = l.opened.isSome
  committed : s.slot.committed = l.waiting.map fun (_, j) => endedAt source r j
  idle : s.post = none → s.slot = {}

variable {source r}

theorem fileEvents_eq {n : Nat} {v : Visit} (hv : (visits source r)[n]? = some v) :
    fileEvents source r n = fileEvent (stateAt source r n) v := by
  unfold fileEvents
  rw [hv]
  rfl

/-- The tag that ends a file puts it behind those kept before. -/
theorem committed_of_ended {n : Nat} {f : Attachment → Attachment}
    (hslot : (stateAt source r (n + 1)).slot =
      ((stateAt source r n).slot.modifyPending f).commit)
    (hpending : (stateAt source r n).slot.pending.isSome = true) :
    (stateAt source r (n + 1)).slot.committed =
      (stateAt source r n).slot.committed ++ [endedAt source r n] := by
  obtain ⟨a, ha⟩ := Option.isSome_iff_exists.mp hpending
  have hkept : (stateAt source r (n + 1)).slot.committed =
      (stateAt source r n).slot.committed ++ [f a] := by
    rw [hslot, commit_eq, AttachmentSlot.modifyPending, ha]
    rfl
  have hended : endedAt source r n = f a := by
    unfold endedAt
    rw [hkept, List.getLastD_concat]
  rw [hkept, hended]

theorem agrees_step {n : Nat} {v : Visit} (hv : (visits source r)[n]? = some v) {l : Ledger}
    (h : Agrees source r l (stateAt source r n)) :
    Agrees source r (l.step n (fileEvents source r n)) (stateAt source r (n + 1)) := by
  have hdoes := fileEvent_does (visits_made hv)
  rw [← fileEvents_eq hv, ← stateAt_succ hv] at hdoes
  obtain ⟨hpending, hcommitted, hidle⟩ := h
  generalize fileEvents source r n = event at hdoes ⊢
  cases event with
  | begins =>
    obtain ⟨hslot, hpost⟩ := hdoes
    refine ⟨by rw [hslot]; rfl, by rw [hslot]; exact hcommitted, fun hnone => ?_⟩
    rw [hnone] at hpost
    cases hpost
  | ends =>
    obtain ⟨⟨f, hslot⟩, hpost⟩ := hdoes
    refine ⟨by rw [hslot, commit_eq]; rfl, ?_, fun hnone => ?_⟩
    · show _ = (l.waiting ++ (l.opened.map (·, n)).toList).map fun (_, j) => endedAt source r j
      cases ho : l.opened with
      | none =>
        rw [ho, Option.isSome_none, Option.isSome_eq_false_iff, Option.isNone_iff_eq_none]
          at hpending
        rw [hslot, commit_eq, AttachmentSlot.modifyPending, hpending]
        simpa using hcommitted
      | some i =>
        rw [ho] at hpending
        rw [committed_of_ended hslot hpending, hcommitted]
        simp
    · rw [hslot, hidle (hpost ▸ hnone)]
      rfl
  | rejects =>
    obtain ⟨hslot, hpost⟩ := hdoes
    refine ⟨by rw [hslot]; rfl, by rw [hslot]; exact hcommitted, fun hnone => ?_⟩
    rw [hslot, hidle (hpost ▸ hnone)]
  | strays =>
    obtain ⟨hnone, hsame⟩ := hdoes
    rw [hsame]
    refine ⟨?_, hcommitted, hidle⟩
    rw [hidle hnone]
    rfl
  | replies =>
    have hslot : (stateAt source r (n + 1)).slot = {} := hdoes
    exact ⟨by rw [hslot]; rfl, by rw [hslot]; rfl, fun _ => hslot⟩
  | finishes =>
    obtain ⟨-, hslot⟩ := hdoes
    exact ⟨by rw [hslot]; rfl, by rw [hslot]; rfl, fun _ => hslot⟩
  | other =>
    obtain ⟨⟨f, hslot⟩, hpost⟩ := hdoes
    refine ⟨?_, by rw [hslot]; exact hcommitted, fun hnone => ?_⟩
    · rw [hslot, AttachmentSlot.modifyPending, Option.isSome_map]
      exact hpending
    · rw [hslot, hidle (hpost hnone)]
      rfl

theorem agrees_stateAt (hslot : r.slot = {}) (n : Nat) (hn : n ≤ (visits source r).length) :
    Agrees source r (Ledger.before (fileEvents source r) n) (stateAt source r n) := by
  induction n with
  | zero =>
    have hstart : (stateAt source r 0).slot = {} := hslot
    exact ⟨by rw [hstart]; rfl, by rw [hstart]; rfl, fun _ => hstart⟩
  | succ n ih =>
    have hv : (visits source r)[n]? = some (visits source r)[n] := List.getElem?_eq_getElem hn
    exact agrees_step hv (ih (Nat.le_of_succ_le hn))

/-- Where anything happens to files there is a tag. -/
theorem exists_visit {n : Nat} (h : fileEvents source r n ≠ .other) :
    ∃ v, (visits source r)[n]? = some v := by
  unfold fileEvents at h
  cases hv : (visits source r)[n]? with
  | none => rw [hv] at h; exact absurd rfl h
  | some v => exact ⟨v, rfl⟩

theorem lt_length {n : Nat} (h : fileEvents source r n ≠ .other) :
    n < (visits source r).length := by
  obtain ⟨v, hv⟩ := exists_visit h
  exact (List.getElem?_eq_some_iff.mp hv).1

/-! ### Posts -/

theorem completed_attachments {v : Visit} {r : Reading} (hv : v.MadeIn (Sheet.table sheet) r) :
    (completed? r v).toList.map (·.attachments) =
      if fileEvent r v = .finishes then [r.slot.committed] else [] := by
  by_cases h : v.rule = 15
  · have hmessage := (isMessage_iff hv).mpr h
    obtain ⟨comment, hc⟩ := messageRule.content_of_message hv hmessage
    have hevent : fileEvent r v = if r.post.isSome then .finishes else .strays := by
      rw [fileEvent_eq hv, h]
      rfl
    rw [hevent, completed?, messageRule.completed?_of_message hmessage hc]
    show ((r.post.map _).toList.map _) = _
    cases r.post <;> rfl
  · have hevent : fileEvent r v ≠ .finishes := by
      rw [fileEvent_eq hv, if_neg h]
      repeat' split
      all_goals simp only [ne_eq, reduceCtorEq, not_false_eq_true]
    rw [if_neg hevent, completed?_eq_none hv h]
    rfl

/-- The posts of a page have the attachments kept when their messages finished them. -/
theorem completedPosts_attachments (n : Nat) (hn : n ≤ (visits source r).length) :
    (completedPosts source r n).map (·.attachments) =
      (Ledger.finishes (fileEvents source r) n).map
        fun m => (stateAt source r m).slot.committed := by
  induction n with
  | zero => rfl
  | succ n ih =>
    have hv : (visits source r)[n]? = some (visits source r)[n] := List.getElem?_eq_getElem hn
    rw [completedPosts_succ hv, Ledger.finishes_succ, List.map_append, List.map_append,
      ih (Nat.le_of_succ_le hn), completed_attachments (visits_made hv), fileEvents_eq hv]
    split <;> rfl

/-- How the attachment of a file comes about: it begins empty, it is pending up to the tag that ends
it, and that tag puts it with those kept. -/
structure Records (source : Source) (r : Reading) (k : Kept) : Prop where
  begun : (stateAt source r (k.mark + 1)).slot.pending = some {}
  pending : ∀ n, k.mark < n → n ≤ k.last → (stateAt source r n).slot.pending.isSome = true
  ended : (stateAt source r (k.last + 1)).slot.committed =
    (stateAt source r k.last).slot.committed ++ [endedAt source r k.last]

theorem records_of_contributes (hslot : r.slot = {}) {k : Kept}
    (h : Contributes (fileEvents source r) k.mark k.last k.message) : Records source r k := by
  have hdoes {n : Nat} (hn : fileEvents source r n ≠ .other) :
      Does (fileEvents source r n) (stateAt source r n) (stateAt source r (n + 1)) := by
    obtain ⟨v, hv⟩ := exists_visit hn
    rw [fileEvents_eq hv, stateAt_succ hv]
    exact fileEvent_does (visits_made hv)
  have hend : fileEvents source r k.last ≠ .other := by rw [h.ended.2]; exact nofun
  have hpending (n : Nat) (hmark : k.mark < n) (hlast : n ≤ k.last) :
      (stateAt source r n).slot.pending.isSome = true := by
    have hopen : OpenAt (fileEvents source r) n k.mark :=
      ⟨hmark, h.begun, fun l hl hln => h.quiet l hl (Nat.lt_of_lt_of_le hln hlast)⟩
    have hn := lt_length hend
    rw [(agrees_stateAt hslot n (by omega)).pending, Ledger.opened_iff.mpr hopen]
    rfl
  refine ⟨?begun, hpending, ?ended⟩
  case begun =>
    have hbegin := hdoes (n := k.mark) (by rw [h.begun]; exact nofun)
    rw [h.begun] at hbegin
    rw [hbegin.1]
    rfl
  case ended =>
    have hended := hdoes hend
    rw [h.ended.2] at hended
    obtain ⟨⟨f, hcommit⟩, -⟩ := hended
    exact committed_of_ended hcommit (hpending k.last h.ended.1 (Nat.le_refl _))

end

/-- **Which attachments the posts of a page have.** A file that a tag begins is kept exactly if
another tag ends it before anything else happens to files, and a message then finishes the post
before a reply begins another; it is an attachment of that post. The posts have these attachments
and no others, in the order of the tags that begin them. -/
theorem attachments_of_page (locator : Locator) (board : String) (namesFiles : Bool)
    (listing : Listing) (source : Source) (configuration : Configuration) :
    let r := start locator board namesFiles listing configuration
    let events := fileEvents source r
    let page := (readPage locator board namesFiles listing source configuration).1
    ∃ kept : List Kept,
      kept.Pairwise (·.mark < ·.mark) ∧
      (∀ i j m, ⟨i, j, m⟩ ∈ kept ↔ Contributes events i j m) ∧
      (∀ k ∈ kept, Records source r k) ∧
      page.map (fun c => c.allPosts.map (·.attachments)) = source.markup.map (fun _ =>
        (Ledger.finishes events (visits source r).length).map fun m =>
          (kept.filter (·.message = m)).map fun k => endedAt source r k.last) ∧
      page.map (fun c => c.allPosts.flatMap (·.attachments)) = source.markup.map (fun _ =>
        kept.map fun k => endedAt source r k.last) := by
  intro r events page
  have hmap {α : Type} (f : List Post → α) : page.map (fun c => f c.allPosts) =
      source.markup.map fun _ => f (completedPosts source r (visits source r).length) := by
    have hposts : page.map Collector.allPosts = _ := allPosts_eq_completed ..
    calc page.map (fun c => f c.allPosts)
      _ = (page.map Collector.allPosts).map f := by cases page <;> rfl
      _ = _ := by rw [hposts]; cases source.markup <;> rfl
  have hattachments : (completedPosts source r (visits source r).length).map (·.attachments) =
      (Ledger.finishes events (visits source r).length).map fun m =>
        (Ledger.takenAt events m).map fun k => endedAt source r k.last := by
    rw [completedPosts_attachments _ (Nat.le_refl _)]
    refine List.map_congr_left fun m hm => ?_
    have hlt : m < (visits source r).length := List.mem_range.mp (List.mem_filter.mp hm).1
    rw [(agrees_stateAt rfl m (Nat.le_of_lt hlt)).committed, Ledger.takenAt, List.map_map]
    rfl
  refine ⟨(Ledger.before events (visits source r).length).kept, Ledger.kept_increasing _ _,
    ?contributes, ?records, ?posts, ?all⟩
  case contributes =>
    intro i j m
    rw [Ledger.mem_kept]
    refine ⟨fun h => h.2, fun h => ⟨lt_length ?_, h⟩⟩
    rw [show fileEvents source r m = .finishes from h.finished.2]
    decide
  case records =>
    intro k hk
    exact records_of_contributes rfl (Ledger.mem_kept.mp hk).2
  case posts =>
    rw [hmap (List.map (·.attachments)), hattachments]
    congr 1
    funext _
    refine List.map_congr_left fun m hm => ?_
    rw [Ledger.kept_filter hm]
  case all =>
    rw [hmap (List.flatMap (·.attachments)), List.flatMap_def, hattachments, Ledger.kept_eq,
      List.map_flatMap]
    rfl

end Imageboard.Wakaba
